import Mangos.Framework.Run
import Mangos.Loot.Roll

/-!
# What happens to a loot

The loot of one target with the rolls of the group that loots it, and the steps of the handlers and
timers on the two.
-/

namespace Mangos

open Framework

/-- The group of a `FillLoot`, with its loot method, if it has one that concerns the target. -/
structure GroupLooting where
  setting : RollSetting
  lootMethod : LootMethod
  threshold : Nat
  maxEnchantingSkill : Nat

/-- What `Player::SendLoot` finds when it generates a loot: the drops in the template's order, the order of the
priority queue, who gets lists and is allowed what, whether there is room for what goes to players at once, who is
notified, and the money. -/
structure LootFill where
  drops : List LootDrop
  pop : Shuffle LootItem
  lookers : GroupMembers
  allowed : Nat → LootItemInfo → Bool
  room : Nat → Nat → Bool
  found : Nat → Bool
  gold : Nat
  group : Option GroupLooting

/-- What `WorldSession::DoLootRelease` does to the loot of a kind of target: nothing, a clear if all is
taken, or a clear in any case. -/
inductive ReleaseKind
  | keeps | clearsLooted | clears
  deriving DecidableEq, Repr

def ReleaseKind.clearsLoot (kind : ReleaseKind) (loot : Loot) : Bool :=
  match kind with
  | .keeps => false
  | .clearsLooted => loot.isLooted
  | .clears => true

inductive LootEvent
  | clear
  | fill (fill : LootFill)
  | addLooter (pl : Nat)
  | release (kind : ReleaseKind) (pl : Nat)
  | takeMoney (found : Nat → Bool)
  | autostore (pl lootSlot : Nat) (room : Bool) (found : Nat → Bool)
  | masterGive (target slotid : Nat) (room : Bool) (found : Nat → Bool)
  | vote (pl itemSlot : Nat) (vote : RollVote) (canUse : Bool) (luck : RollLuck)
  | endRoll (luck : Roll → RollLuck)
  | removeMember (guid : Nat)
  | leaveMap (pl : Nat)
  | disband

namespace LootWorld

def start : LootWorld where
  loot := .start 0
  rolls := []

variable (tables : LootTables) (w : LootWorld)

/-- `FillLoot` up to the lists of the players. -/
def itemsAdded (fill : LootFill) : LootWorld :=
  let cleared := w.clearLoot
  { cleared with loot := cleared.loot.addItems tables fill.drops fill.pop }

/-- The turn of a player in `FillLoot`. -/
def fillFor (fill : LootFill) (loot : Loot) (pl : Nat) : Loot :=
  loot.fillNotNormalLootFor tables (fill.allowed pl) pl (fill.room pl) fill.found

def filled (fill : LootFill) : LootWorld :=
  let added := w.itemsAdded tables fill
  let loot := fill.lookers.guids.foldl (fillFor tables fill) added.loot
  { added with loot := { loot with gold := fill.gold } }

def fillLoot (fill : LootFill) : LootWorld :=
  match fill.group with
  | none => w.filled tables fill
  | some group =>
    (w.filled tables fill).groupLoot tables group.setting group.lootMethod group.threshold
      group.maxEnchantingSkill

def released (kind : ReleaseKind) (pl : Nat) : LootWorld :=
  let cleared := if kind.clearsLoot w.loot then w.clearLoot else w
  { cleared with loot := cleared.loot.removeLooter pl }

/-- The part of `WorldSession::DoLootRelease` that concerns the loot. -/
def doLootRelease (kind : ReleaseKind) (pl : Nat) : LootWorld :=
  let released := w.released kind pl
  if released.loot.isLooted then released
  else { released with loot := released.loot.fillVisualLootIfPossible }

end LootWorld

/-- One step. Nothing in the rolls depends on who is still on the map. -/
def lootStep (tables : LootTables) (w : LootWorld) : LootEvent → LootWorld
  | .clear => w.clearLoot
  | .fill fill => w.fillLoot tables fill
  | .addLooter pl => { w with loot := w.loot.addLooter pl }
  | .release kind pl => w.doLootRelease kind pl
  | .takeMoney found => { w with loot := w.loot.takeMoney found }
  | .autostore pl lootSlot room found =>
    { w with loot := w.loot.storeLootItem pl lootSlot room found }
  | .masterGive target slotid room found =>
    { w with loot := w.loot.handleLootMasterGive target slotid room found }
  | .vote pl itemSlot vote canUse luck => w.countRollVote pl itemSlot vote canUse luck
  | .endRoll luck => w.endRoll luck
  | .removeMember guid => w.removeRolls guid
  | .leaveMap _ => w
  | .disband => w.disband

/-! A creature drops green cloth, and a group rolls for all that is green. -/

def greenCloth : ItemPrototype :=
  { ItemPrototype.clothLike 4306 with quality := 2 }

def clothTables : LootTables where
  items := .ofPrototypes [greenCloth]
  currencyCategory _ := none

def clothDrop : LootDrop := ⟨4306, false, 0, false, 3⟩

def GroupLooting.everybody (members : GroupMembers) (lootMethod : LootMethod) : GroupLooting where
  setting := ⟨members, fun _ => true, fun _ _ => true, fun _ => true, .id Nat⟩
  lootMethod := lootMethod
  threshold := 2
  maxEnchantingSkill := 0

def LootFill.everybody (drops : List LootDrop) (lookers : GroupMembers)
    (group : Option GroupLooting) : LootFill where
  drops := drops
  pop := .id LootItem
  lookers := lookers
  allowed _ _ := true
  room _ _ := true
  found _ := true
  gold := 0
  group := group

def groupOfThree : GroupMembers := ⟨[1, 2, 3], by decide, by decide⟩

def RollLuck.byGuid (online : Nat → Bool) : RollLuck where
  draw pl := Fin.ofNat 100 pl
  online := online
  room _ := true
  found _ := true

end Mangos
