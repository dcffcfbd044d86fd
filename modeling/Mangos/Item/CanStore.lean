import Mangos.Framework.Fill
import Mangos.Item.Player

/-!
# Finding room for an item

`_CanStoreItem` looks for places in a fixed order: stacks to merge with first, then free slots, special bags
before plain ones.
-/

namespace Mangos

open Framework

abbrev ItemPosCount := Piece ItemPos

/-- A call of `_CanStoreItem`. `bagIsEmpty` is `IsEmpty` of `pItem` where that is a bag. -/
structure StoreQuery where
  bag : Nat := nullBag
  slot : Nat := nullSlot
  entry : Nat
  count : Nat
  pItem : Option Item := none
  bagIsEmpty : Bool := true
  swap : Bool := false

/-- The result, the destination vector and what `no_space_count` was set to. -/
structure StoreAnswer where
  result : InventoryResult
  dest : List ItemPosCount
  noSpaceCount : Nat
  deriving DecidableEq

/-- What one search of the cascade comes to. A refusal may leave `no_space_count` unset. -/
inductive StageResult
  | placed (f : Filling ItemPos)
  | skipped
  | refused (res : InventoryResult) (reported : Bool)

/-- `Player::_CanTakeMoreSimilarItems` with its `no_space_count`; the counts are words. -/
def Inventory.canTakeMoreSimilarItems (inv : Inventory) (proto : ItemPrototype) (count : Nat)
    (pItem : Option Item) : InventoryResult × Nat :=
  let curcount := inv.getItemCount proto.itemId true pItem
  if 0 < proto.maxCount ∧ proto.maxCount.toNat < (curcount + count) % 2 ^ 32 then
    (.cantCarryMoreOfThis, (curcount + count) % 2 ^ 32 - proto.maxCount.toNat)
  else if proto.itemLimitCategory = 0 then (.ok, 0)
  else match proto.limitEntry with
    | none => (.itemCantBeEquipped, count)
    | some limitEntry =>
      let limited := inv.getItemCountWithLimitCategory proto.itemLimitCategory pItem
      if limitEntry.mode = .have && limitEntry.maxCount < (limited + count) % 2 ^ 32 then
        (.itemMaxLimitCategoryCountExceededIs, (limited + count) % 2 ^ 32 - limitEntry.maxCount)
      else (.ok, 0)

def StageResult.orSkip : StageResult → StageResult
  | .refused _ _ => .skipped
  | result => result

namespace StoreQuery

variable (q : StoreQuery) (inv : Inventory) (proto : ItemPrototype)

def itemAt (pos : ItemPos) : Option Item :=
  (inv.getItemByPos pos).filter fun it => !q.pItem.any (·.guid = it.guid)

def room (merge : Bool) (pos : ItemPos) : Option Nat :=
  match q.itemAt inv pos with
  | none => if merge then none else some proto.getMaxStackSize
  | some it =>
    if merge && it.canBeMergedPartlyWith proto = .ok then
      some (proto.getMaxStackSize - it.count)
    else none

/-- `Player::_CanStoreItem_InSpecificSlot`. -/
def inSpecificSlot (f : Filling ItemPos) : StageResult :=
  let pos : ItemPos := ⟨q.bag, q.slot⟩
  let push (space : Nat) :=
    if f.dest.any (·.pos = pos) then StageResult.placed f else .placed (f.push pos space)
  match q.itemAt inv pos, q.swap with
  | some it, false =>
    match it.canBeMergedPartlyWith proto with
    | .ok => push (proto.getMaxStackSize - it.count)
    | res => .refused res true
  | _, _ =>
    if q.bag = inventorySlotBag0 then
      if (buybackSlotStart ≤ q.slot && q.slot < buybackSlotEnd) || playerSlotEnd ≤ q.slot then
        .refused .itemDoesntGoIntoBag true
      else push proto.getMaxStackSize
    else match inv.getItemByPos ⟨inventorySlotBag0, q.bag⟩ with
      | none => .refused .itemDoesntGoIntoBag true
      | some bag =>
        if bag.proto.containerSlots ≤ q.slot then .refused .itemDoesntGoIntoBag true
        else if !itemCanGoIntoBag proto bag.proto then .refused .itemDoesntGoIntoBag true
        else push proto.getMaxStackSize

/-- `Player::_CanStoreItem_InBag`. -/
def inBag (bag : Nat) (merge nonSpecialized : Bool) (skipBag : Nat) (f : Filling ItemPos) :
    StageResult :=
  if bag = skipBag then .refused .itemDoesntGoIntoBag true
  else match inv.getItemByPos ⟨inventorySlotBag0, bag⟩ with
    | none => .refused .itemDoesntGoIntoBag true
    | some pBag =>
      if q.pItem.any (·.guid = pBag.guid) then .refused .itemDoesntGoIntoBag true
      else if nonSpecialized ≠ pBag.proto.isPlainContainer then
        .refused .itemDoesntGoIntoBag true
      else if !itemCanGoIntoBag proto pBag.proto then .refused .itemDoesntGoIntoBag true
      else
        .placed <| fill (q.room inv proto merge)
          ((slotsOf bag 0 pBag.getBagSize).filter (·.slot ≠ q.slot)) f

/-- `Player::_CanStoreItem_InInventorySlots` for the slots of the backpack. -/
def inInventorySlots (merge : Bool) (f : Filling ItemPos) : StageResult :=
  .placed <| fill (q.room inv proto merge)
    ((slotsOf inventorySlotBag0 inventorySlotItemStart inventorySlotItemEnd).filter fun pos =>
      ¬ (q.bag = inventorySlotBag0 ∧ pos.slot = q.slot)) f

def inNamedBag (merge : Bool) (f : Filling ItemPos) : StageResult :=
  match q.inBag inv proto q.bag merge false nullBag f with
  | .placed f' => .placed f'
  | _ => q.inBag inv proto q.bag merge true nullBag f

def inBags (merge nonSpecialized : Bool) : List (Filling ItemPos → StageResult) :=
  (List.range' inventorySlotBagStart (inventorySlotBagEnd - inventorySlotBagStart)).map
    fun bag f => (q.inBag inv proto bag merge nonSpecialized q.bag f).orSkip

def namedStages : List (Filling ItemPos → StageResult) :=
  (if q.bag ≠ nullBag ∧ q.slot ≠ nullSlot then [q.inSpecificSlot inv proto] else []) ++
    if q.bag = nullBag then []
    else
      let search (merge : Bool) :=
        if q.bag = inventorySlotBag0 then q.inInventorySlots inv proto merge
        else q.inNamedBag inv proto merge
      if proto.stackable ≠ 1 then [search true, search false] else [search false]

def checkBagEmpty (_ : Filling ItemPos) : StageResult :=
  if q.pItem.any (·.isBag) && !q.bagIsEmpty then .refused .nonemptyBagOverOtherBag false
  else .skipped

def anywhereStages : List (Filling ItemPos → StageResult) :=
  (if proto.stackable ≠ 1 then
    [q.inInventorySlots inv proto true] ++
      (if proto.bagFamily ≠ 0 then q.inBags inv proto true false else []) ++ q.inBags inv proto true true
  else []) ++ (if proto.bagFamily ≠ 0 then q.inBags inv proto false false else []) ++
  [q.checkBagEmpty, q.inInventorySlots inv proto false] ++ q.inBags inv proto false true

end StoreQuery

def runStages (noSimilarCount : Nat) :
    List (Filling ItemPos → StageResult) → Filling ItemPos → StoreAnswer
  | [], f => ⟨.inventoryFull, f.dest, (f.left + noSimilarCount) % 2 ^ 32⟩
  | stage :: stages, f =>
    match stage f with
    | .placed f' =>
      if f'.left = 0 then
        if noSimilarCount = 0 then ⟨.ok, f'.dest, 0⟩
        else ⟨.cantCarryMoreOfThis, f'.dest, noSimilarCount⟩
      else runStages noSimilarCount stages f'
    | .skipped => runStages noSimilarCount stages f
    | .refused res reported =>
      ⟨res, f.dest, if reported then (f.left + noSimilarCount) % 2 ^ 32 else 0⟩

def uint32Sub (a b : Nat) : Nat := if b ≤ a then a - b else 2 ^ 32 - (b - a) % 2 ^ 32

namespace Player

/-- `Player::_CanStoreItem`; the places found are added to `dest`. -/
def canStoreItem (tables : ItemTables) (accounts : Accounts) (pl : Player) (q : StoreQuery)
    (dest : List ItemPosCount) : StoreAnswer :=
  match tables.prototype q.entry with
  | none => ⟨if q.swap then .itemsCantBeSwapped else .itemNotFound, dest, q.count⟩
  | some proto =>
    if q.pItem.any (·.hasTemporaryLoot) then ⟨.alreadyLooted, dest, q.count⟩
    else if q.pItem.any (pl.isBindedNotWith accounts) then ⟨.dontOwnThatItem, dest, q.count⟩
    else
      let (res, noSimilarCount) :=
        pl.inventory.canTakeMoreSimilarItems proto q.count q.pItem
      if res ≠ .ok ∧ q.count = noSimilarCount then ⟨res, dest, noSimilarCount⟩
      else
        runStages noSimilarCount
          (q.namedStages pl.inventory proto ++ q.anywhereStages pl.inventory proto)
          ⟨dest, uint32Sub q.count noSimilarCount⟩

/-- `Player::CanStoreItem(bag, slot, dest, pItem, swap)` for an item that has no place and, if it
is a bag, nothing in it. -/
def canStoreItemAnywhere (tables : ItemTables) (accounts : Accounts) (pl : Player) (it : Item)
    (dest : List ItemPosCount) : StoreAnswer :=
  pl.canStoreItem tables accounts { entry := it.entry, count := it.count, pItem := some it } dest

end Player

/-! `CanStoreItems` only counts what each place would hold, without what is being traded away. -/

namespace Inventory

variable (inv : Inventory)

def spaceTable (pos : ItemPos) : Nat :=
  match inv.getItemByPos pos with
  | some it => if it.inTrade then 0 else it.count
  | none => 0

def backpackSlots : List ItemPos :=
  slotsOf inventorySlotBag0 inventorySlotItemStart inventorySlotItemEnd

/-- The slots of the worn bags that `admits` picks. -/
def wornBagSlots (admits : ItemPrototype → Bool) : List ItemPos :=
  (List.range' inventorySlotBagStart (inventorySlotBagEnd - inventorySlotBagStart)).flatMap
    fun bag =>
      match inv.getItemByPos ⟨inventorySlotBag0, bag⟩ with
      | some pBag => if admits pBag.proto then slotsOf bag 0 pBag.getBagSize else []
      | none => []

/-- The stack `it` would be merged with as a whole. -/
def mergePlace (space : ItemPos → Nat) (it : Item) : Option ItemPos :=
  if it.proto.stackable = 1 then none
  else (backpackSlots ++ inv.wornBagSlots fun _ => true).find? fun pos =>
    (inv.getItemByPos pos).any fun it2 =>
      it2.canBeMergedPartlyWith it.proto = .ok &&
        space pos + it.count ≤ it.proto.getMaxStackSize

/-- The first place that would be free for `it`: in special bags, in the backpack, in plain bags. -/
def freePlace (space : ItemPos → Nat) (it : Item) : Option ItemPos :=
  ((if it.proto.bagFamily ≠ 0 then
      inv.wornBagSlots fun bag => !bag.isPlainContainer && itemCanGoIntoBag it.proto bag
    else []) ++ backpackSlots ++ inv.wornBagSlots ItemPrototype.isPlainContainer).find?
    fun pos => space pos = 0

end Inventory

namespace Player

/-- One turn of the loop of `Player::CanStoreItems`. -/
def reserveSpace (accounts : Accounts) (pl : Player) (space : ItemPos → Nat) (it : Item) :
    Except InventoryResult (ItemPos → Nat) :=
  if it.hasTemporaryLoot then .error .alreadyLooted
  else if pl.isBindedNotWith accounts it then .error .dontOwnThatItem
  else
    let res := (pl.inventory.canTakeMoreSimilarItems it.proto it.count (some it)).1
    if res ≠ .ok then .error res
    else match pl.inventory.mergePlace space it with
      | some pos => .ok (Function.update space pos (space pos + it.count))
      | none =>
        match pl.inventory.freePlace space it with
        | some pos => .ok (Function.update space pos 1)
        | none => .error .inventoryFull

def canStoreItems (accounts : Accounts) (pl : Player) (items : List (Option Item)) :
    InventoryResult :=
  match items.reduceOption.foldlM (pl.reserveSpace accounts) pl.inventory.spaceTable with
  | .ok _ => .ok
  | .error res => res

end Player

/-!
## Storing an item

`StoreItem` puts an item at the places of a destination vector: copies of it everywhere but at
the last one. At a place that is taken, the stack there grows.
-/

/-- The inventory of a player with the guid generator behind it. -/
structure Stock where
  inventory : Inventory
  nextItemGuid : Nat

variable (tables : ItemTables) (ownerGuid : Nat)

/-- Whether `_StoreItem` binds what it stores at a position. -/
def bindsAt (proto : ItemPrototype) (pos : ItemPos) : Bool :=
  proto.bonding = .bindWhenPickedUp || proto.bonding = .bindQuestItem ||
    (proto.bonding = .bindWhenEquipped && pos.isBagPos)

/-- The item as it lies at a free position after `_StoreItem`. -/
def Item.storedAt (it : Item) (ownerGuid : Nat) (pos : ItemPos) : Item :=
  { it with ownerGuid, binded := it.binded || bindsAt it.proto pos }

/-- The stack at a position after `_StoreItem` added to it. -/
def Item.grownAt (it : Item) (pos : ItemPos) (count : Nat) : Item :=
  { it with count := it.count + count, binded := it.binded || bindsAt it.proto pos }

def Inventory.takesItems (inv : Inventory) (pos : ItemPos) : Bool :=
  pos.bag = inventorySlotBag0 || (inv.getItemByPos ⟨inventorySlotBag0, pos.bag⟩).isSome

namespace Stock

variable (s : Stock)

/-- `Player::_StoreItem` at a free position. -/
def storeAtFree (pos : ItemPos) (it : Item) : Stock :=
  if s.inventory.takesItems pos then
    { s with inventory := s.inventory.put pos (some (it.storedAt ownerGuid pos)) }
  else s

/-- `Player::_StoreItem`. -/
def storeAt (pos : ItemPos) (it : Item) (count : Nat) (clone : Bool) : Stock :=
  match s.inventory.getItemByPos pos with
  | some it2 => { s with inventory := s.inventory.put pos (some (it2.grownAt pos count)) }
  | none =>
    if clone then
      match it.cloneItem tables s.nextItemGuid count ownerGuid with
      | none => s
      | some copy =>
        Stock.storeAtFree ownerGuid { s with nextItemGuid := s.nextItemGuid + 1 } pos copy
    else s.storeAtFree ownerGuid pos { it with count }

def storeItem (s : Stock) (it : Item) : List ItemPosCount → Stock
  | [] => s
  | [p] => s.storeAt tables ownerGuid p.pos it p.count false
  | p :: p' :: dest =>
    storeItem (s.storeAt tables ownerGuid p.pos it p.count true) it (p' :: dest)

/-- `Player::StoreNewItem`, with the position of the item it returns. -/
def storeNewItem (dest : List ItemPosCount) (item : Nat) (randomPropertyId : Int) :
    Option (Stock × Option ItemPos) :=
  match Item.createItem tables item s.nextItemGuid (placed dest) ownerGuid randomPropertyId with
  | none => none
  | some it =>
    let s := { s with nextItemGuid := s.nextItemGuid + 1 }
    some (s.storeItem tables ownerGuid it dest, dest.getLast?.map (·.pos))

end Stock

end Mangos
