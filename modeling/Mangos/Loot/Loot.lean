import Mangos.Framework.Assoc
import Mangos.Item.Prototype

/-!
# Loot

The loot of one target: the items everybody sees, the quest items, and the lists of what each player may
still take of the items that are not simply there for the first comer.
-/

namespace Mangos

open Framework

def maxNrLootItems : Nat := 16
def maxNrQuestItems : Nat := 32

def currencyCategoryArchaeology : Nat := 82

/-- The item templates and the category of each currency. -/
structure LootTables where
  items : ItemTables
  currencyCategory : Nat → Option Nat

/-- What a loot item is, which nothing changes afterwards. -/
structure LootItemInfo where
  itemid : Nat
  currency : Bool
  freeforall : Bool
  conditionId : Nat
  needsQuest : Bool
  deriving DecidableEq, Repr

/-- `LootItem`; `uid` tells the items apart. -/
structure LootItem where
  uid : Nat
  info : LootItemInfo
  count : Nat
  isLooted : Bool := false
  isBlocked : Bool := false
  isUnderthreshold : Bool := false
  isCounted : Bool := false
  deriving DecidableEq, Repr

/-- `QuestItem`; `uid` is that of the loot item it is made for. -/
structure QuestItem where
  index : Nat
  isLooted : Bool
  uid : Nat
  deriving DecidableEq, Repr

/-- The lists `m_playerQuestItems`, `m_playerFFAItems`,
`m_playerNonQuestNonFFANonCurrencyConditionalItems` and `m_playerCurrencies`. -/
inductive EntryKind
  | quest | ffa | conditional | currency
  deriving DecidableEq, Repr

/-- An item that went to a player, under the name of the loot item it was. -/
structure StoredLoot where
  uid : Nat
  shared : Bool
  player : Nat
  deriving DecidableEq, Repr

/-- `Loot`. The last four fields are its history: the next `uid`, the items that went to players,
whether an item vector was read outside its size, and whether `unlootedCount` went below zero. -/
structure Loot where
  items : List LootItem
  questItems : List LootItem
  gold : Nat
  unlootedCount : Nat
  entries : EntryKind → List (Nat × List QuestItem)
  playersLooting : List Nat
  nextUid : Nat
  stored : List StoredLoot
  outOfRange : Bool
  wrapped : Bool

/-- A drop that the loot template came to, with the count drawn for it. -/
structure LootDrop where
  itemid : Nat
  currency : Bool
  conditionId : Nat
  needsQuest : Bool
  count : Nat
  deriving DecidableEq, Repr

def LootDrop.info (tables : LootTables) (drop : LootDrop) : LootItemInfo where
  itemid := drop.itemid
  currency := drop.currency
  freeforall := !drop.currency &&
    (tables.items.prototype drop.itemid).any (·.hasFlag itemFlagPartyLoot)
  conditionId := drop.conditionId
  needsQuest := !drop.currency && drop.needsQuest

namespace LootItem

def entryKind (item : LootItem) : Option EntryKind :=
  if item.info.currency then some .currency
  else if item.info.freeforall then some .ffa
  else if item.info.conditionId ≠ 0 then some .conditional
  else none

end LootItem

namespace Loot

def start (gold : Nat) : Loot where
  items := []
  questItems := []
  gold := gold
  unlootedCount := 0
  entries _ := []
  playersLooting := []
  nextUid := 0
  stored := []
  outOfRange := false
  wrapped := false

variable (tables : LootTables) (loot : Loot)

/-- `Loot::clear`; the history stays. -/
def clear : Loot :=
  { loot with
    items := []
    questItems := []
    gold := 0
    unlootedCount := 0
    entries := fun _ => []
    playersLooting := [] }

def isLooted : Bool := loot.gold = 0 && loot.unlootedCount = 0

def addLooter (pl : Nat) : Loot :=
  { loot with playersLooting := pl :: loot.playersLooting.filter (· ≠ pl) }

def removeLooter (pl : Nat) : Loot :=
  { loot with playersLooting := loot.playersLooting.filter (· ≠ pl) }

/-- `++unlootedCount`, `n` times. -/
def countUp (n : Nat) : Loot := { loot with unlootedCount := (loot.unlootedCount + n) % 256 }

/-- `--unlootedCount`. -/
def countDown : Loot :=
  if loot.unlootedCount = 0 then { loot with unlootedCount := 255, wrapped := true }
  else { loot with unlootedCount := loot.unlootedCount - 1 }

/-- `NotifyItemRemoved`, `NotifyQuestItemRemoved` and `NotifyMoneyRemoved`: who is not found stops
looting. -/
def notify (found : Nat → Bool) : Loot :=
  { loot with playersLooting := loot.playersLooting.filter found }

def entriesOf (kind : EntryKind) (pl : Nat) : List QuestItem :=
  (lookupKey pl (loot.entries kind)).getD []

/-- `Loot::AddItem`. The item vector stands for the priority queue until that is emptied. -/
def addItem (loot : Loot) (drop : LootDrop) : Loot :=
  let info := drop.info tables
  let item : LootItem := { uid := loot.nextUid, info, count := drop.count }
  if drop.needsQuest then
    if loot.questItems.length < maxNrQuestItems then
      { loot with questItems := loot.questItems ++ [item], nextUid := loot.nextUid + 1 }
    else loot
  else if loot.items.length < maxNrLootItems then
    let loot := { loot with items := loot.items ++ [item], nextUid := loot.nextUid + 1 }
    if info.conditionId = 0 && !info.currency && !info.freeforall then loot.countUp 1 else loot
  else loot

def pickEntries (picks : LootItem → Bool) (items : List LootItem) : List QuestItem :=
  (items.zipIdx.filter fun p => picks p.1).map fun p => ⟨p.2, false, p.1.uid⟩

def register (kind : EntryKind) (pl : Nat) (ql : List QuestItem) : Loot :=
  { loot with entries := Function.update loot.entries kind ((pl, ql) :: loot.entries kind) }

variable (allowed : LootItemInfo → Bool) (pl : Nat)

def fillCurrencyLoot : Loot :=
  let ql := pickEntries
    (fun item => !item.isLooted && item.info.currency && allowed item.info) loot.items
  (loot.register .currency pl ql).countUp ql.length

def fillFFALoot : Loot :=
  let ql := pickEntries
    (fun item => !item.isLooted && item.info.freeforall && allowed item.info) loot.items
  (loot.register .ffa pl ql).countUp ql.length

/-- The loop of `FillQuestLoot` from index `i` on, with `room` entries to go: the entries, the quest
items afterwards and how often it counted. -/
def pickQuestItems : (room i : Nat) → List LootItem → List QuestItem × List LootItem × Nat
  | _, _, [] => ([], [], 0)
  | room, i, item :: items =>
    if !item.isLooted && allowed item.info then
      let counted := if item.info.freeforall || !item.isBlocked then 1 else 0
      let entry : QuestItem := ⟨i, false, item.uid⟩
      let blocked := { item with isBlocked := true }
      if room = 1 then ([entry], blocked :: items, counted)
      else
        let (ql, items', n) := pickQuestItems (room - 1) (i + 1) items
        (entry :: ql, blocked :: items', counted + n)
    else
      let (ql, items', n) := pickQuestItems room (i + 1) items
      (ql, item :: items', n)

def fillQuestLoot : Loot :=
  if loot.items.length = maxNrLootItems then loot
  else
    let (ql, questItems, n) :=
      pickQuestItems allowed (maxNrLootItems - loot.items.length) 0 loot.questItems
    ({ loot with questItems }.register .quest pl ql).countUp n

def fillNonQuestNonFFANonCurrencyConditionalLoot : Loot :=
  let picks (item : LootItem) : Bool := !item.isLooted && !item.info.freeforall &&
    !item.info.currency && item.info.conditionId ≠ 0 && allowed item.info
  let n := loot.items.countP fun item => picks item && !item.isCounted
  let items := loot.items.map fun item =>
    if picks item then { item with isCounted := true } else item
  ({ loot with items }.register .conditional pl (pickEntries picks loot.items)).countUp n

/-- The first half of `FillNotNormalLootFor`: the lists that the player does not have yet. -/
def registerFor : Loot :=
  let loot := if (lookupKey pl (loot.entries .currency)).isSome then loot
    else loot.fillCurrencyLoot allowed pl
  let loot := if (lookupKey pl (loot.entries .quest)).isSome then loot
    else loot.fillQuestLoot allowed pl
  let loot := if (lookupKey pl (loot.entries .ffa)).isSome then loot
    else loot.fillFFALoot allowed pl
  if (lookupKey pl (loot.entries .conditional)).isSome then loot
  else loot.fillNonQuestNonFFANonCurrencyConditionalLoot allowed pl

/-- What `LootItemInSlot` finds: the index in the quest items or in the items, the loot item, and the
place of the player's own entry for it. -/
inductive SlotAnswer
  | outOfRange
  | nothing
  | questItem (index : Nat) (item : LootItem) (entry : Nat)
  | item (index : Nat) (item : LootItem) (entry : Option (EntryKind × Nat))
  deriving DecidableEq, Repr

def ownEntry (index : Nat) (item : LootItem) : Option (EntryKind × Nat × QuestItem) :=
  item.entryKind.bind fun kind =>
    ((loot.entriesOf kind pl).zipIdx.find? fun p => p.1.index = index).map fun p =>
      (kind, p.2, p.1)

def lootItemInSlot (lootSlot : Nat) : SlotAnswer :=
  let questEntries := loot.entriesOf .quest pl
  match questEntries[lootSlot]? with
  | some qitem =>
    match loot.questItems[qitem.index]? with
    | none => .outOfRange
    | some item => if qitem.isLooted then .nothing else .questItem qitem.index item lootSlot
  | none =>
    let index := lootSlot - questEntries.length
    match loot.items[index]? with
    | none => .nothing
    | some item =>
      match loot.ownEntry pl index item with
      | some (kind, n, entry) =>
        if entry.isLooted then .nothing else .item index item (some (kind, n))
      | none => if item.isLooted then .nothing else .item index item none

/-- The entry of a player becomes `is_looted`. -/
def takeEntry (kind : EntryKind) (n : Nat) : Loot :=
  let taken := modifyKey pl (fun ql => ql.modify n fun entry => { entry with isLooted := true })
    (loot.entries kind)
  { loot with entries := Function.update loot.entries kind taken }

def takeItem (index : Nat) : Loot :=
  { loot with items := loot.items.modify index fun item => { item with isLooted := true } }

def takeQuestItem (index : Nat) : Loot :=
  { loot with
    questItems := loot.questItems.modify index fun item => { item with isLooted := true } }

def logStored (uid : Nat) (item : LootItem) : Loot :=
  { loot with stored := ⟨uid, !item.info.freeforall, pl⟩ :: loot.stored }

/-- `Player::StoreNewItem`, which creates no item for a count of zero. -/
def storeNewItem (uid : Nat) (item : LootItem) : Loot :=
  if item.count = 0 then loot else loot.logStored pl uid item

def takeOwnEntry (entry : Option (EntryKind × Nat)) (found : Nat → Bool) : Loot :=
  match entry with
  | some (.ffa, n) => loot.takeEntry pl .ffa n
  | some (kind, n) => (loot.takeEntry pl kind n).notify found
  | none => loot.notify found

/-- `Player::StoreLootItem`, where `room` is what `CanStoreNewItem` answers and `found` are the
players that the notifications reach. -/
def storeLootItem (lootSlot : Nat) (room : Bool) (found : Nat → Bool) : Loot :=
  match loot.lootItemInSlot pl lootSlot with
  | .outOfRange => { loot with outOfRange := true }
  | .nothing => loot
  | .questItem index item n =>
    if !room then loot
    else
      let loot := (loot.storeNewItem pl item.uid item).takeEntry pl .quest n
      let loot := if item.info.freeforall || (loot.entries .quest).length = 1 then loot
        else loot.notify found
      (if item.info.freeforall then loot else loot.takeQuestItem index).countDown
  | .item index item entry =>
    if item.isBlocked then loot
    else match entry with
      | some (.currency, n) => (loot.takeEntry pl .currency n).countDown
      | _ =>
        if !room then loot
        else
          let loot := (loot.storeNewItem pl item.uid item).takeOwnEntry pl entry found
          (if item.info.freeforall then loot else loot.takeItem index).countDown

/-- The loot item that a turn of the second half of `FillNotNormalLootFor` looks at. -/
def slotItem (questEntries : List QuestItem) (i : Nat) : Option LootItem :=
  match questEntries[i]? with
  | some qitem => loot.questItems[qitem.index]?
  | none => loot.items[i - questEntries.length]?

def storedAtOnce (item : LootItem) : Bool :=
  !item.isLooted && (item.info.freeforall || item.info.currency) && allowed item.info &&
    if item.info.currency then
      (tables.currencyCategory item.info.itemid).any (· ≠ currencyCategoryArchaeology)
    else
      (tables.items.prototype item.info.itemid).any
        fun proto => proto.bagFamily &&& bagFamilyMaskCurrencyTokens ≠ 0

/-- One turn of the second half of `FillNotNormalLootFor`. -/
def storeAtOnce (room : Nat → Bool) (found : Nat → Bool) (loot : Loot) (i : Nat) : Loot :=
  match loot.slotItem (loot.entriesOf .quest pl) i with
  | some item =>
    if storedAtOnce tables allowed item then loot.storeLootItem pl i (room i) found else loot
  | none => loot

def fillNotNormalLootFor (room : Nat → Bool) (found : Nat → Bool) : Loot :=
  let loot := loot.registerFor allowed pl
  (List.range (loot.items.length + (loot.entriesOf .quest pl).length)).foldl
    (storeAtOnce tables allowed pl room found) loot

def addItems (drops : List LootDrop) (pop : Shuffle LootItem) : Loot :=
  let loot := drops.foldl (addItem tables) loot
  { loot with items := pop.apply loot.items }

def fillVisualLootIfPossible : Loot :=
  if loot.playersLooting ≠ [] then loot
  else { loot with items := loot.items.filter fun item => !item.isLooted }

/-- `WorldSession::HandleLootMasterGiveOpcode` once the giver and the target are accepted. -/
def handleLootMasterGive (slotid : Nat) (room : Bool) (found : Nat → Bool) : Loot :=
  if loot.items.length < slotid then loot
  else match loot.items[slotid]? with
    | none => { loot with outOfRange := true }
    | some item =>
      if item.info.currency then loot
      else if !room then loot
      else
        let emptied := { loot.storeNewItem pl item.uid item with
          items := loot.items.modify slotid fun item =>
            { item with count := 0, isLooted := true } }
        (emptied.notify found).countDown

/-- The part of `WorldSession::HandleLootMoneyOpcode` that concerns the loot. -/
def takeMoney (found : Nat → Bool) : Loot := { loot.notify found with gold := 0 }

end Loot

end Mangos
