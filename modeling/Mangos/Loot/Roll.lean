import Mangos.Loot.Loot

/-!
# Rolling for loot

A group rolls for the items of a loot that are above its threshold.
-/

namespace Mangos

open Framework

inductive LootMethod
  | freeForAll | roundRobin | masterLoot | groupLoot | needBeforeGreed
  deriving DecidableEq, Repr

/-- `RollVote`; the first four are sent by clients. -/
inductive RollVote
  | pass | need | greed | disenchant | notEmitedYet | notValid
  deriving DecidableEq, Repr

namespace RollVote

/-- The bit of a vote in a `RollVoteMask`. -/
def bit : RollVote → Nat
  | pass => 0
  | need => 1
  | greed => 2
  | disenchant => 3
  | notEmitedYet => 4
  | notValid => 5

def isGreed (vote : RollVote) : Bool := vote = greed || vote = disenchant

end RollVote

def rollVoteMaskAll : Nat := 0x0F
def rollVoteMaskNeed : Nat := 0x02
def rollVoteMaskDisenchant : Nat := 0x08

/-- `Roll`. `linked` is whether it still refers to the loot, `uid` the item it was made for, `wrapped`
whether one of its counters went below zero. The votes stand in the order of the hash map. -/
structure Roll where
  uid : Nat
  itemid : Nat
  itemSlot : Nat
  lootMethod : LootMethod
  linked : Bool
  playerVote : List (Nat × RollVote)
  totalPlayersRolling : Nat
  totalNeed : Nat
  totalGreed : Nat
  totalPass : Nat
  commonVoteMask : Nat
  wrapped : Bool
  deriving DecidableEq, Repr

/-- What is left to chance and to the moment when a roll is counted: the draws, who is online with a
session, who has room for the item, and who is reached by the notification. -/
structure RollLuck where
  draw : Nat → Fin 100
  online : Nat → Bool
  room : Nat → Bool
  found : Nat → Bool

/-- The members of a group that are in the world. -/
structure GroupMembers where
  guids : List Nat
  nodup : guids.Nodup
  length_le : guids.length ≤ 40

/-- What `StartLootRoll` knows of the members, and the order in which the hash map keeps them. -/
structure RollSetting where
  members : GroupMembers
  hasSession : Nat → Bool
  allowed : Nat → LootItemInfo → Bool
  near : Nat → Bool
  order : Shuffle Nat

def RollSetting.voters (setting : RollSetting) (info : LootItemInfo) : List Nat :=
  setting.order.apply <| setting.members.guids.filter fun pl =>
    setting.hasSession pl && setting.allowed pl info && setting.near pl

/-- The loot and the rolls of the group that loots it. -/
structure LootWorld where
  loot : Loot
  rolls : List Roll

/-- The decrement of a `uint8`, and whether it wraps. -/
def uint8Dec (n : Nat) : Nat × Bool := if n = 0 then (255, true) else (n - 1, false)

def uint8Inc (n : Nat) : Nat := (n + 1) % 256

namespace Roll

variable (tables : LootTables) (roll : Roll)

def calculateCommonVoteMask (maxEnchantingSkill : Nat) : Nat :=
  let proto := tables.items.prototype roll.itemid
  let mask := if proto.any fun p => p.flags2 &&& itemFlag2NeedRollDisabled ≠ 0 then
    rollVoteMaskAll - rollVoteMaskNeed else rollVoteMaskAll
  if proto.any fun p => p.disenchantID = 0 ||
      (maxEnchantingSkill : Int) < p.requiredDisenchantSkill % 2 ^ 32 then
    mask - rollVoteMaskDisenchant
  else mask

/-- `Roll::GetVoteMaskFor`, as the test whether a vote is in the mask. -/
def allowsVote (canUse : Bool) (vote : RollVote) : Bool :=
  roll.commonVoteMask.testBit vote.bit &&
    !(vote = .need && roll.lootMethod = .needBeforeGreed && !canUse)

/-- A vote is recorded and counted; what is recorded before is not looked at. -/
def recordVote (pl : Nat) (vote : RollVote) : Roll :=
  let recorded := { roll with playerVote := modifyKey pl (fun _ => vote) roll.playerVote }
  match vote with
  | .pass => { recorded with totalPass := uint8Inc roll.totalPass }
  | .need => { recorded with totalNeed := uint8Inc roll.totalNeed }
  | .greed | .disenchant => { recorded with totalGreed := uint8Inc roll.totalGreed }
  | .notEmitedYet | .notValid => roll

def isComplete : Bool :=
  roll.totalPlayersRolling ≤ roll.totalPass + roll.totalNeed + roll.totalGreed

/-- One roll in `_removeRolls`. The call of `CountRollVote` that follows there finds no vote of the
player any more and does nothing. -/
def removeVote (guid : Nat) (roll : Roll) : Roll :=
  match lookupKey guid roll.playerVote with
  | none => roll
  | some vote =>
    let (totalGreed, w₁) := if vote.isGreed then uint8Dec roll.totalGreed
      else (roll.totalGreed, false)
    let (totalNeed, w₂) := if vote = .need then uint8Dec roll.totalNeed
      else (roll.totalNeed, false)
    let (totalPass, w₃) := if vote = .pass then uint8Dec roll.totalPass
      else (roll.totalPass, false)
    let (totalPlayersRolling, w₄) := if vote ≠ .notValid then uint8Dec roll.totalPlayersRolling
      else (roll.totalPlayersRolling, false)
    { roll with
      totalGreed, totalNeed, totalPass, totalPlayersRolling
      playerVote := eraseKey guid roll.playerVote
      wrapped := roll.wrapped || w₁ || w₂ || w₃ || w₄ }

/-- The loop over the votes that are `deciding`: the guid with the highest draw, the draw and the
vote. -/
def highestDraw (luck : RollLuck) (deciding : RollVote → Bool) (votes : List (Nat × RollVote))
    (start : Nat) : Nat × Nat × RollVote :=
  votes.foldl (fun best p =>
    if deciding p.2 && decide (best.2.1 < (luck.draw p.1).val + 1) then
      (p.1, (luck.draw p.1).val + 1, p.2)
    else best) (start, 0, .pass)

/-- Who wins the roll and with which vote, if anybody voted for the item: `begin()` of the votes stands
for the winner until a deciding vote is found. -/
def winner (luck : RollLuck) : Option (Nat × RollVote) :=
  match roll.playerVote with
  | [] => none
  | first :: _ =>
    if 0 < roll.totalNeed then
      let best := highestDraw luck (· = .need) roll.playerVote first.1
      some (best.1, .need)
    else if 0 < roll.totalGreed then
      let best := highestDraw luck RollVote.isGreed roll.playerVote first.1
      some (best.1, best.2.2)
    else none

/-- Nobody voted for the item: `SendLootAllPassed`. -/
def allPassed : Bool := roll.totalNeed = 0 && roll.totalGreed = 0

end Roll

namespace Loot

variable (loot : Loot)

def takeRolled (roll : Roll) (found : Nat → Bool) : Loot :=
  ((loot.takeItem roll.itemSlot).notify found).countDown

def block (itemSlot : Nat) : Loot :=
  { loot with
    items := loot.items.modify itemSlot fun item => { item with isBlocked := true } }

def unblock (itemSlot : Nat) : Loot :=
  { loot with
    items := loot.items.modify itemSlot fun item => { item with isBlocked := false } }

/-- `Group::CountTheRoll`, which takes the roll out of `m_rollIds` in any case. -/
def countTheRoll (luck : RollLuck) (roll : Roll) : Loot :=
  if !roll.linked then loot
  else if roll.allPassed then
    if loot.items.length ≤ roll.itemSlot then { loot with outOfRange := true }
    else loot.unblock roll.itemSlot
  else match roll.winner luck with
    | none => loot
    | some (pl, vote) =>
      if !luck.online pl then loot
      else if vote = .pass then loot
      else match loot.items[roll.itemSlot]? with
        | none => { loot with outOfRange := true }
        | some item =>
          if vote = .disenchant then
            (loot.logStored pl roll.uid item).takeRolled roll luck.found
          else if luck.room pl then
            (loot.storeNewItem pl roll.uid item).takeRolled roll luck.found
          else loot.unblock roll.itemSlot

end Loot

namespace LootWorld

variable (tables : LootTables) (w : LootWorld)

/-- `Group::StartLootRoll` for an item at `itemSlot`. -/
def startLootRoll (setting : RollSetting) (lootMethod : LootMethod) (maxEnchantingSkill : Nat)
    (itemSlot : Nat) : LootWorld :=
  match w.loot.items[itemSlot]? with
  | none => w
  | some item =>
    if item.info.currency then w
    else
      let voters := setting.voters item.info
      let roll : Roll :=
        { uid := item.uid, itemid := item.info.itemid, itemSlot, lootMethod, linked := true
          playerVote := voters.map fun pl => (pl, .notEmitedYet)
          totalPlayersRolling := voters.length % 256
          totalNeed := 0, totalGreed := 0, totalPass := 0
          commonVoteMask := rollVoteMaskAll, wrapped := false }
      match voters with
      | [] => w
      | [pl] => { w with rolls := w.rolls ++ [{ roll with playerVote := [(pl, .need)] }] }
      | _ =>
        let masked := { roll with
          commonVoteMask := roll.calculateCommonVoteMask tables maxEnchantingSkill }
        { loot := w.loot.block itemSlot, rolls := w.rolls ++ [masked] }

def underthreshold (itemSlot : Nat) : LootWorld :=
  { w with loot := { w.loot with
      items := w.loot.items.modify itemSlot fun item => { item with isUnderthreshold := true } } }

/-- One turn of `Group::GroupLoot` and of `Group::NeedBeforeGreed`. -/
def rollForSlot (setting : RollSetting) (lootMethod : LootMethod) (threshold : Nat)
    (maxEnchantingSkill : Nat) (w : LootWorld) (itemSlot : Nat) : LootWorld :=
  match w.loot.items[itemSlot]? with
  | none => w
  | some item =>
    if item.info.currency then w
    else match tables.items.prototype item.info.itemid with
      | none => w
      | some proto =>
        if threshold ≤ proto.quality && !item.info.freeforall then
          w.startLootRoll tables setting lootMethod maxEnchantingSkill itemSlot
        else w.underthreshold itemSlot

/-- One turn of the first loop of `Group::MasterLoot`. -/
def masterLootSlot (threshold : Nat) (w : LootWorld) (itemSlot : Nat) : LootWorld :=
  match w.loot.items[itemSlot]? with
  | none => w
  | some item =>
    if item.info.currency then w
    else match tables.items.prototype item.info.itemid with
      | none => w
      | some proto => if proto.quality < threshold then w.underthreshold itemSlot else w

def groupLoot (setting : RollSetting) (lootMethod : LootMethod) (threshold : Nat)
    (maxEnchantingSkill : Nat) : LootWorld :=
  let slots := List.range w.loot.items.length
  match lootMethod with
  | .groupLoot | .needBeforeGreed =>
    slots.foldl (rollForSlot tables setting lootMethod threshold maxEnchantingSkill) w
  | .masterLoot => slots.foldl (masterLootSlot tables threshold) w
  | .freeForAll | .roundRobin => w

def rollAt (itemSlot : Nat) : Option Nat :=
  w.rolls.findIdx? fun roll => roll.linked && roll.itemSlot = itemSlot

def rollFor (itemSlot : Nat) : Option Roll := (w.rollAt itemSlot).bind fun i => w.rolls[i]?

def countRollVote (pl itemSlot : Nat) (vote : RollVote) (canUse : Bool) (luck : RollLuck) :
    LootWorld :=
  match w.rollAt itemSlot with
  | none => w
  | some i =>
    match w.rolls[i]? with
    | none => w
    | some roll =>
      if !roll.allowsVote canUse vote then w
      else if (lookupKey pl roll.playerVote).isNone then w
      else if w.loot.items = [] then w
      else
        let voted := roll.recordVote pl vote
        if voted.isComplete then
          { loot := w.loot.countTheRoll luck voted, rolls := w.rolls.eraseIdx i }
        else { w with rolls := w.rolls.set i voted }

/-- `Group::EndRoll`: every roll is counted, whatever its votes. -/
def endRoll (luck : Roll → RollLuck) : LootWorld where
  loot := w.rolls.foldl (fun loot roll => loot.countTheRoll (luck roll) roll) w.loot
  rolls := []

/-- `Group::_removeRolls`. -/
def removeRolls (guid : Nat) : LootWorld := { w with rolls := w.rolls.map (Roll.removeVote guid) }

/-- What `Group::Disband` does to the rolls. -/
def disband : LootWorld := { w with rolls := [] }

def clearLoot : LootWorld where
  loot := w.loot.clear
  rolls := w.rolls.map fun roll => { roll with linked := false }

end LootWorld

end Mangos
