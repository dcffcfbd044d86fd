import Mangos.Item.Equip

/-!
# Moving items about

`SplitItem` puts part of a stack elsewhere.
-/

namespace Mangos

open Framework

/-- Where an item was found to go: to places of `StoreItem` and `BankItem`, or to a worn slot. -/
inductive PlaceFound
  | stored (dest : List ItemPosCount)
  | equipped (slot : Nat)

namespace Bearer

variable (tables : ItemTables) (accounts : Accounts) (rules : WearRules)

def canPlace (s : Bearer) (pos : ItemPos) (it : Item) (swap : Bool) :
    Option (Except InventoryResult PlaceFound) :=
  let ofAnswer (answer : StoreAnswer) : Except InventoryResult PlaceFound :=
    if answer.result = .ok then .ok (.stored answer.dest) else .error answer.result
  if pos.isInventoryPos then some (ofAnswer (s.canStoreItem tables accounts pos it swap))
  else if pos.isBankPos then some (ofAnswer (s.canBankItem accounts rules pos it swap))
  else if pos.isEquipmentPos then
    some ((s.canEquipItem tables accounts rules pos.slot it swap).map .equipped)
  else none

/-- `StoreItem`, `BankItem` or `EquipItem`, as the check found. -/
def place (s : Bearer) (it : Item) : PlaceFound → Bearer
  | .stored dest => s.storeItem tables it dest
  | .equipped slot => s.equipItem slot it

def placeAndCheck (s : Bearer) (it : Item) : PlaceFound → Bearer
  | .stored dest => s.storeItem tables it dest
  | .equipped slot => (s.equipItem slot it).autoUnequipOffhandIfNeed tables accounts rules

/-- `Player::SplitItem`, with the equip error it reports. -/
def splitItem (s : Bearer) (src dst : ItemPos) (count : Nat) : Bearer × Option InventoryResult :=
  match s.belongings.getItemByPos src with
  | none => (s, some .itemNotFound)
  | some ⟨srcItem, _, _⟩ =>
    if srcItem.hasGeneratedLoot then (s, some .couldntSplitItems)
    else if srcItem.count = count then (s, some .couldntSplitItems)
    else if srcItem.count < count then (s, some .triedToSplitMoreThanCount)
    else match srcItem.cloneItem tables s.nextItemGuid count s.guid with
      | none => (s, some .itemNotFound)
      | some newItem =>
        let s := { s with nextItemGuid := s.nextItemGuid + 1 }
        -- the amount is changed before the check, for the unique max count
        let lessened := s.setCount src (srcItem.count - count)
        match lessened.canPlace tables accounts rules dst newItem false with
        | none => (s, none)
        | some (.error res) =>
          (lessened.setCount src (srcItem.count - count + count), some res)
        | some (.ok found) => (lessened.placeAndCheck tables accounts rules newItem found, none)

/-- Whether `SwapItem` may take an item out of a worn slot; a full bag comes off only to another bag slot or in
exchange for an empty bag. -/
def swapUnequipRefusal (s : Bearer) (pos other : ItemPos) (otherItem : Option Item) :
    InventoryResult :=
  if pos.isEquipmentPos || pos.isBagPos then
    s.player.canUnequipItem pos (!pos.isBagPos || other.isBagPos ||
      otherItem.any fun it => it.isBag && s.belongings.isEmpty it)
  else .ok

/-- The checks of `SwapItem` before it knows what kind of move it is. -/
def swapRefusal (s : Bearer) (src dst : ItemPos) (dstItem : Option Item) (srcItem : Item) :
    InventoryResult :=
  if !s.alive then .youAreDead
  else if s.swapUnequipRefusal src dst dstItem ≠ .ok then s.swapUnequipRefusal src dst dstItem
  -- a worn bag is not put into itself
  else if src.isBagPos && src.slot = dst.bag then .nonemptyBagOverOtherBag
  else if dst.isBagPos && dst.slot = src.bag then .nonemptyBagOverOtherBag
  else if dstItem.isSome then s.swapUnequipRefusal dst src (some srcItem)
  else .ok

def moveItem (s : Bearer) (src dst : ItemPos) (srcItem : Item) :
    Bearer × Option InventoryResult :=
  match s.canPlace tables accounts rules dst srcItem false with
  | none => (s, none)
  | some (.error res) => (s, some res)
  | some (.ok found) =>
    ((s.removeItem src).placeAndCheck tables accounts rules srcItem found, none)

/-- The attempt to fill the stack at `dst`; nothing is returned where the two are to be exchanged
instead. -/
def mergeItems (s : Bearer) (src dst : ItemPos) (srcItem dstItem : Item) :
    Option (Bearer × Option InventoryResult) :=
  match s.canPlace tables accounts rules dst srcItem false with
  | none => some (s, none)
  | some found =>
    let max := srcItem.proto.getMaxStackSize
    if max < srcItem.count ∨ dstItem.proto.getMaxStackSize < dstItem.count then
      some (s, some .triedToSplitMoreThanCount)
    else match found with
      | .error _ => none
      | .ok found =>
        if srcItem.count + dstItem.count ≤ max ∧
            srcItem.count + dstItem.count ≤ dstItem.proto.getMaxStackSize then
          some ((s.removeItem src).placeAndCheck tables accounts rules srcItem found, none)
        else
          some ((s.setCount src (srcItem.count + dstItem.count - max)).setCount dst max, none)

/-- The checks for one item of an exchange; `otherwise` is what there is to say of a position for
which there is no check. -/
def canSwapTo (s : Bearer) (pos : ItemPos) (it : Item)
    (otherwise : Except InventoryResult (Option PlaceFound)) :
    Except InventoryResult (Option PlaceFound) :=
  match s.canPlace tables accounts rules pos it true with
  | none => otherwise
  | some (.error res) => .error res
  | some (.ok (.stored dest)) => .ok (some (.stored dest))
  | some (.ok (.equipped slot)) =>
    match s.player.canUnequipItem ⟨inventorySlotBag0, slot⟩ true with
    | .ok => .ok (some (.equipped slot))
    | res => .error res

def emptyAndFullBag (s : Bearer) (src dst : ItemPos) (srcItem dstItem : Item) :
    Option (Item × Item) :=
  if srcItem.isBag && dstItem.isBag then
    if s.belongings.isEmpty srcItem && !src.isBagPos then some (srcItem, dstItem)
    else if s.belongings.isEmpty dstItem && !dst.isBagPos then some (dstItem, srcItem)
    else none
  else none

def moveBagItem (fullBag emptyBag : Item) (moved : Belongings × Nat) (slot : Nat) :
    Belongings × Nat :=
  match moved.1.slots (.inside fullBag.guid slot) with
  | none => moved
  | some obj =>
    ((moved.1.put (.inside fullBag.guid slot) none).storeInBag emptyBag moved.2 obj.item, moved.2 + 1)

def bagItems (b : Belongings) (bag : Item) : List Item :=
  (List.range bag.getBagSize).filterMap fun slot =>
    (b.slots (.inside bag.guid slot)).map (·.item)

def swapBagContents (s : Bearer) (src dst : ItemPos) (srcItem dstItem : Item) :
    Except InventoryResult Bearer :=
  match s.emptyAndFullBag src dst srcItem dstItem with
  | none => .ok s
  | some (emptyBag, fullBag) =>
    let bagItems := bagItems s.belongings fullBag
    if !bagItems.all fun it => itemCanGoIntoBag it.proto emptyBag.proto then
      .error .nonemptyBagOverOtherBag
    else if emptyBag.getBagSize < bagItems.length then .error .itemsCantBeSwapped
    else
      .ok { s with
        belongings := ((List.range fullBag.getBagSize).foldl (moveBagItem fullBag emptyBag)
          (s.belongings, 0)).1 }

def placeFound (s : Bearer) (it : Item) : Option PlaceFound → Bearer
  | none => s
  | some found => s.place tables it found

def swapItems (s : Bearer) (src dst : ItemPos) (srcItem dstItem : Item) :
    Bearer × Option InventoryResult :=
  match s.canSwapTo tables accounts rules dst srcItem (.error .ok2),
      s.canSwapTo tables accounts rules src dstItem (.ok none) with
  | .error res, _ => (s, some res)
  | .ok _, .error res => (s, some res)
  | .ok found, .ok found2 =>
    match s.swapBagContents src dst srcItem dstItem with
    | .error res => (s, some res)
    | .ok swapped =>
      let removed := (swapped.removeItem dst).removeItem src
      let stored := (removed.placeFound tables srcItem found).placeFound tables dstItem found2
      (stored.autoUnequipOffhandIfNeed tables accounts rules, none)

/-- `Player::SwapItem`, with the equip error it reports. -/
def swapItem (s : Bearer) (src dst : ItemPos) : Bearer × Option InventoryResult :=
  match s.belongings.getItemByPos src with
  | none => (s, none)
  | some ⟨srcItem, _, _⟩ =>
    let dstItem := (s.belongings.getItemByPos dst).map (·.item)
    match s.swapRefusal src dst dstItem srcItem with
    | .ok =>
      match dstItem with
      | none => s.moveItem tables accounts rules src dst srcItem
      | some dstItem =>
        let merged :=
          if !srcItem.isBag && !dstItem.isBag then
            s.mergeItems tables accounts rules src dst srcItem dstItem
          else none
        match merged with
        | some result => result
        | none => s.swapItems tables accounts rules src dst srcItem dstItem
    | res => (s, some res)

end Bearer

end Mangos
