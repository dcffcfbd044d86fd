import Mangos.Item.CanStore

/-!
# Item objects in their slots

The inventory as the server keeps it: `m_items` of the player and `m_bagslot` of every bag, each slot with
an object that knows its bag and its slot.
-/

namespace Mangos

open Framework

/-- A slot of the player, or a slot of the bag with the given guid. -/
inductive SlotKey
  | own (slot : Nat)
  | inside (bag slot : Nat)
  deriving DecidableEq

/-- An `Item` with its `m_container`, given by the guid of the bag, and its `m_slot`. -/
structure ItemObject where
  item : Item
  container : Option Nat
  slot : Nat
  deriving DecidableEq

def ItemObject.key (obj : ItemObject) : SlotKey :=
  match obj.container with
  | none => .own obj.slot
  | some bag => .inside bag obj.slot

/-- `m_items` without the buyback slots, and the `m_bagslot` of all bags. -/
structure Belongings where
  slots : SlotKey → Option ItemObject

namespace ItemPos

def isBankPos (pos : ItemPos) : Bool :=
  (pos.bag = inventorySlotBag0 && ((bankSlotItemStart ≤ pos.slot && pos.slot < bankSlotItemEnd) ||
      (bankSlotBagStart ≤ pos.slot && pos.slot < bankSlotBagEnd))) ||
    (bankSlotBagStart ≤ pos.bag && pos.bag < bankSlotBagEnd)

end ItemPos

namespace Belongings

variable (b : Belongings)

/-- The slot `GetItemByPos` looks into. -/
def keyOf (pos : ItemPos) : Option SlotKey :=
  if pos.bag = inventorySlotBag0 then
    if pos.slot < bankSlotBagEnd then some (.own pos.slot) else none
  else if ItemPos.isBagSlot pos.bag then
    match b.slots (.own pos.bag) with
    | some bag => if pos.slot < bag.item.getBagSize then some (.inside bag.item.guid pos.slot) else none
    | none => none
  else none

def getItemByPos (pos : ItemPos) : Option ItemObject := (b.keyOf pos).bind b.slots

/-- The items by the positions they are shown at. -/
def inventory : Inventory := ⟨fun pos => (b.getItemByPos pos).map (·.item)⟩

def put (key : SlotKey) (obj : Option ItemObject) : Belongings := ⟨Function.update b.slots key obj⟩

/-- `Bag::IsEmpty`; what is no bag has no slots. -/
def isEmpty (it : Item) : Bool :=
  (List.range it.getBagSize).all fun slot => (b.slots (.inside it.guid slot)).isNone

def removeItem (pos : ItemPos) : Belongings :=
  match b.keyOf pos with
  | some key => b.put key none
  | none => b

def modifyItem (pos : ItemPos) (f : Item → Item) : Belongings :=
  match b.keyOf pos with
  | some key => b.put key ((b.slots key).map fun obj => { obj with item := f obj.item })
  | none => b

/-- `Item::SetCount` for the item at a position. -/
def setCount (pos : ItemPos) (count : Nat) : Belongings :=
  b.modifyItem pos fun it => { it with count }

/-- `Bag::StoreItem`. -/
def storeInBag (bag : Item) (slot : Nat) (it : Item) : Belongings :=
  b.put (.inside bag.guid slot)
    (some ⟨{ it with ownerGuid := bag.ownerGuid }, some bag.guid, slot⟩)

/-- What `_StoreItem` and `VisualizeItem` do to `m_items`. -/
def storeOwn (ownerGuid slot : Nat) (it : Item) : Belongings :=
  b.put (.own slot) (some ⟨{ it with ownerGuid }, none, slot⟩)

/-- The new slot of an item that `_StoreItem` puts at a free position. -/
def storeFree (ownerGuid : Nat) (pos : ItemPos) (it : Item) : Belongings :=
  if pos.bag = inventorySlotBag0 then b.storeOwn ownerGuid pos.slot it
  else match b.getItemByPos ⟨inventorySlotBag0, pos.bag⟩ with
    | some bag => b.storeInBag bag.item pos.slot it
    | none => b

end Belongings

/-- A player with the objects carried, the guid generator behind them and the items that the mail
has taken. -/
structure Bearer where
  guid : Nat
  account : Nat
  money : Nat := 0
  lootGuid : Nat := 0
  inCombat : Bool := false
  inProgressArena : Bool := false
  logingOut : Bool := false
  alive : Bool := true
  belongings : Belongings
  nextItemGuid : Nat
  mailed : List Item := []

namespace Bearer

def player (s : Bearer) : Player where
  guid := s.guid
  account := s.account
  inventory := s.belongings.inventory
  money := s.money
  lootGuid := s.lootGuid
  inCombat := s.inCombat
  inProgressArena := s.inProgressArena
  logingOut := s.logingOut

variable (tables : ItemTables) (accounts : Accounts)

/-- The item bound as `_StoreItem` binds it. -/
def boundAt (it : Item) (pos : ItemPos) : Item :=
  { it with binded := it.binded || bindsAt it.proto pos }

/-- `Player::_StoreItem`. -/
def storeAt (s : Bearer) (pos : ItemPos) (it : Item) (count : Nat) (clone : Bool) : Bearer :=
  match s.belongings.getItemByPos pos with
  | some _ => { s with belongings := s.belongings.modifyItem pos (·.grownAt pos count) }
  | none =>
    if clone then
      match it.cloneItem tables s.nextItemGuid count s.guid with
      | none => s
      | some copy =>
        { s with
          belongings := s.belongings.storeFree s.guid pos (boundAt copy pos)
          nextItemGuid := s.nextItemGuid + 1 }
    else
      { s with belongings := s.belongings.storeFree s.guid pos (boundAt { it with count } pos) }

/-- `Player::StoreItem`, which is `BankItem` too. -/
def storeItem (s : Bearer) (it : Item) : List ItemPosCount → Bearer
  | [] => s
  | [p] => s.storeAt tables p.pos it p.count false
  | p :: p' :: dest => storeItem (s.storeAt tables p.pos it p.count true) it (p' :: dest)

def equipItem (s : Bearer) (slot : Nat) (it : Item) : Bearer :=
  match s.belongings.getItemByPos ⟨inventorySlotBag0, slot⟩ with
  | some _ =>
    { s with
      belongings := s.belongings.modifyItem ⟨inventorySlotBag0, slot⟩ fun it2 =>
        { it2 with count := it2.count + it.count } }
  | none =>
    let binds := it.proto.bonding = .bindWhenEquipped || it.proto.bonding = .bindWhenPickedUp ||
      it.proto.bonding = .bindQuestItem
    { s with
      belongings := s.belongings.storeOwn s.guid slot { it with binded := it.binded || binds } }

/-- `Player::CanStoreItem` for an item object; a bag asks for what is in it. -/
def canStoreItem (s : Bearer) (pos : ItemPos) (it : Item) (swap : Bool) : StoreAnswer :=
  s.player.canStoreItem tables accounts
    { bag := pos.bag, slot := pos.slot, entry := it.entry, count := it.count, pItem := some it
      bagIsEmpty := s.belongings.isEmpty it, swap } []

/-- `RemoveItem` of a player. -/
def removeItem (s : Bearer) (pos : ItemPos) : Bearer :=
  { s with belongings := s.belongings.removeItem pos }

def setCount (s : Bearer) (pos : ItemPos) (count : Nat) : Bearer :=
  { s with belongings := s.belongings.setCount pos count }

end Bearer

end Mangos
