import Mangos.Framework.Contents
import Mangos.Item.Item
import Mathlib.Data.List.FinRange
import Mathlib.Data.List.Nodup

/-!
# The inventory of a player

A player keeps items in `m_items` and, inside the bags worn in a bag slot, in `m_bagslot`.
-/

namespace Mangos

open Framework

def inventorySlotBag0 : Nat := 255
def nullBag : Nat := 0
def nullSlot : Nat := 255

def equipmentSlotEnd : Nat := 19
def inventorySlotBagStart : Nat := 19
def inventorySlotBagEnd : Nat := 23
def inventorySlotItemStart : Nat := 23
def inventorySlotItemEnd : Nat := 39
def bankSlotItemStart : Nat := 39
def bankSlotItemEnd : Nat := 67
def bankSlotBagStart : Nat := 67
def bankSlotBagEnd : Nat := 74
def buybackSlotStart : Nat := 74
def buybackSlotEnd : Nat := 86
def playerSlotEnd : Nat := 86

/-- A position: the bag byte and the slot byte. -/
structure ItemPos where
  bag : Nat
  slot : Nat
  deriving DecidableEq, Repr

namespace ItemPos

def isInventoryPos (pos : ItemPos) : Bool :=
  (pos.bag = inventorySlotBag0 && (pos.slot = nullSlot ||
      (inventorySlotItemStart ≤ pos.slot && pos.slot < inventorySlotItemEnd))) ||
    (inventorySlotBagStart ≤ pos.bag && pos.bag < inventorySlotBagEnd)

def isEquipmentPos (pos : ItemPos) : Bool :=
  pos.bag = inventorySlotBag0 && (pos.slot < equipmentSlotEnd ||
    (inventorySlotBagStart ≤ pos.slot && pos.slot < inventorySlotBagEnd))

def isBagSlot (slot : Nat) : Bool :=
  (inventorySlotBagStart ≤ slot && slot < inventorySlotBagEnd) ||
    (bankSlotBagStart ≤ slot && slot < bankSlotBagEnd)

def isBagPos (pos : ItemPos) : Bool := pos.bag = inventorySlotBag0 && isBagSlot pos.slot

end ItemPos

/-- The positions `bag:first` up to, and not including, `bag:last`. -/
def slotsOf (bag first last : Nat) : List ItemPos :=
  (List.range' first (last - first)).map fun slot => ⟨bag, slot⟩

/-- The slots inside the bags worn from `first` up to `last`. -/
def bagContentSlots (first last : Nat) : List ItemPos :=
  (List.range' first (last - first)).flatMap fun bag => slotsOf bag 0 maxBagSize

def carriedSlots : List ItemPos :=
  slotsOf inventorySlotBag0 0 inventorySlotItemEnd ++ bagContentSlots inventorySlotBagStart inventorySlotBagEnd

/-- Every position `getItemByPos` can show. -/
def itemPositions : List ItemPos :=
  slotsOf inventorySlotBag0 0 bankSlotBagEnd ++ (bagContentSlots inventorySlotBagStart inventorySlotBagEnd ++
      bagContentSlots bankSlotBagStart bankSlotBagEnd)

structure Inventory where
  slots : ItemPos → Option Item

namespace Inventory

variable (inv : Inventory)

/-- Whether position `pos` exists: inside a bag it does while the bag is worn. -/
def hasPos (pos : ItemPos) : Bool :=
  if pos.bag = inventorySlotBag0 then pos.slot < bankSlotBagEnd
  else ItemPos.isBagSlot pos.bag &&
    (inv.slots ⟨inventorySlotBag0, pos.bag⟩).any fun bag =>
      bag.isBag && pos.slot < bag.proto.containerSlots

def getItemByPos (pos : ItemPos) : Option Item :=
  if inv.hasPos pos then inv.slots pos else none

def put (pos : ItemPos) (it : Option Item) : Inventory :=
  ⟨Function.update inv.slots pos it⟩

/-- `Bag::IsEmpty` for the bag at `pos`: only a worn bag has slots. -/
def bagIsEmpty (pos : ItemPos) : Bool :=
  !pos.isBagPos || (slotsOf pos.slot 0 maxBagSize).all fun content =>
    (inv.getItemByPos content).isNone

/-- `Bag::GetFreeSlots` for the bag at `pos`. -/
def bagFreeSlots (pos : ItemPos) : Nat :=
  ((slotsOf pos.slot 0 maxBagSize).filter fun content =>
    inv.hasPos content && (inv.getItemByPos content).isNone).length

def items : Multiset Item := contents itemPositions inv.getItemByPos

/-- How many items of entry `e` are held. -/
def itemCount (e : Nat) : Nat := tally (Item.weight e) itemPositions inv.getItemByPos

/-- The order in which `Player::GetItemByGuid` looks. -/
def guidSearchSlots : List ItemPos :=
  carriedSlots ++ slotsOf inventorySlotBag0 bankSlotItemStart bankSlotItemEnd ++
    (List.range' bankSlotBagStart (bankSlotBagEnd - bankSlotBagStart)).flatMap fun bag =>
      ⟨inventorySlotBag0, bag⟩ :: slotsOf bag 0 maxBagSize

/-- `Player::GetItemByGuid`, with the position the item found knows. -/
def getItemByGuid (guid : Nat) : Option (ItemPos × Item) :=
  guidSearchSlots.findSome? fun pos =>
    match inv.getItemByPos pos with
    | some it => if it.guid = guid then some (pos, it) else none
    | none => none

/-- The loop of `Player::HasItemCount`, which stops as soon as enough items are seen. -/
def hasItemCountIn (item count : Nat) : (tempcount : Nat) → List ItemPos → Bool
  | _, [] => false
  | tempcount, pos :: rest =>
    match inv.getItemByPos pos with
    | some it =>
      if it.entry = item && !it.inTrade then
        count ≤ tempcount + it.count ||
          hasItemCountIn item count (tempcount + it.count) rest
      else hasItemCountIn item count tempcount rest
    | none => hasItemCountIn item count tempcount rest

def hasItemCount (item count : Nat) (inBankAlso : Bool) : Bool :=
  inv.hasItemCountIn item count 0
    (carriedSlots ++ if inBankAlso then
        slotsOf inventorySlotBag0 bankSlotItemStart bankSlotItemEnd ++ bagContentSlots bankSlotBagStart bankSlotBagEnd
      else [])

/-- The sum of `weigh` over the listed positions, leaving out the item `skipItem`. -/
def sumSlots (skipItem : Option Item) (weigh : Item → Nat) (slots : List ItemPos) : Nat :=
  (slots.map fun pos =>
    match inv.getItemByPos pos with
    | some it => if skipItem.any (·.guid = it.guid) then 0 else weigh it
    | none => 0).sum

def gemWeight (item : Nat) (it : Item) : Nat :=
  if it.proto.socketColor ≠ 0 then it.getGemCountWithID item else 0

def getItemCount (item : Nat) (inBankAlso : Bool) (skipItem : Option Item) : Nat :=
  let bankItems := slotsOf inventorySlotBag0 bankSlotItemStart bankSlotItemEnd
  let bankBags := slotsOf inventorySlotBag0 bankSlotBagStart bankSlotBagEnd
  let bankContents := bagContentSlots bankSlotBagStart bankSlotBagEnd
  let countGems := skipItem.any (·.proto.gemProperties ≠ 0)
  inv.sumSlots skipItem (Item.weight item) carriedSlots +
    (if countGems then inv.sumSlots skipItem (gemWeight item) carriedSlots else 0) + if inBankAlso then
      inv.sumSlots skipItem (Item.weight item) (bankItems ++ bankBags ++ bankContents) +
        if countGems then inv.sumSlots skipItem (gemWeight item) (bankItems ++ bankContents)
        else 0
    else 0

def getItemCountWithLimitCategory (limitCategory : Nat) (skipItem : Option Item) : Nat :=
  inv.sumSlots skipItem
    (fun it => if it.proto.itemLimitCategory = limitCategory then it.count else 0)
    (carriedSlots ++ slotsOf inventorySlotBag0 bankSlotItemStart bankSlotItemEnd ++
      bagContentSlots bankSlotBagStart bankSlotBagEnd)

/-- `Player::RemoveItem`, and what `DestroyItem` does to the position itself. -/
def removeItem (pos : ItemPos) : Inventory :=
  if (inv.getItemByPos pos).isSome then inv.put pos none else inv

/-- `Player::DestroyItem`: what lies in a bag goes first. -/
def destroyItem (pos : ItemPos) : Inventory :=
  match inv.getItemByPos pos with
  | none => inv
  | some it =>
    let emptied :=
      if it.isBag && !inv.bagIsEmpty pos then
        (slotsOf pos.slot 0 maxBagSize).foldl removeItem inv
      else inv
    emptied.removeItem pos

/-- `Player::DestroyItemCount(Item*, uint32&, bool)` for the item `it` at `pos`. -/
def destroyItemCount (pos : ItemPos) (it : Item) (count : Nat) : Inventory :=
  if it.count ≤ count then inv.destroyItem pos
  else inv.put pos (some { it with count := it.count - count })

end Inventory

end Mangos
