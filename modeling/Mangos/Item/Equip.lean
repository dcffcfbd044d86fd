import Mangos.Item.Belongings

/-!
# Equipping and banking

Where an item may be worn, where in the bank it may lie, and what happens to the off-hand when it
may no longer be held.
-/

namespace Mangos

open Framework

def equipmentSlotMainhand : Nat := 15
def equipmentSlotOffhand : Nat := 16

def invTypeWeapon : Nat := 13
def invType2HWeapon : Nat := 17
def invTypeWeaponOffhand : Nat := 22

def mainhandPos : ItemPos := ⟨inventorySlotBag0, equipmentSlotMainhand⟩
def offhandPos : ItemPos := ⟨inventorySlotBag0, equipmentSlotOffhand⟩

def ItemPrototype.isRestrictedByTitanGrip (proto : ItemPrototype) : Bool :=
  proto.inventoryType = invType2HWeapon && (proto.subClass = 6 || proto.subClass = 10)

/-- What equipping and banking ask besides the item's place: what the player can do and is doing, an item's
requirements, the limits on what is worn together (`CanEquipUniqueItem`, `CanEquipMoreJewelcraftingGems`), whether it
is for lower levels, and whether a lootable item still has its loot. -/
structure WearRules where
  canDualWield : Bool := false
  canTitanGrip : Bool := false
  wearsRelics : Bool := false
  stunned : Bool := false
  weaponChanging : Bool := false
  casting : Bool := false
  bankBagSlotCount : Nat := 0
  canUseItem : Item → InventoryResult := fun _ => .ok
  canEquipUniqueItem : Inventory → Item → (exceptSlot : Nat) → InventoryResult := fun _ _ _ => .ok
  canEquipMoreJewelcraftingGems : Inventory → Item → (exceptSlot : Nat) → InventoryResult :=
    fun _ _ _ => .ok
  levelTooHigh : Item → Bool := fun _ => false
  lootLeft : Item → Bool := fun _ => false

namespace StoreQuery

variable (q : StoreQuery) (inv : Inventory) (proto : ItemPrototype)

/-- `_CanStoreItem_InInventorySlots` for the slots of the bank. -/
def inBankSlots (merge : Bool) (f : Filling ItemPos) : StageResult :=
  .placed <| fill (q.room inv proto merge)
    ((slotsOf inventorySlotBag0 bankSlotItemStart bankSlotItemEnd).filter fun pos =>
      ¬ (q.bag = inventorySlotBag0 ∧ pos.slot = q.slot)) f

def inBankBags (merge nonSpecialized : Bool) : List (Filling ItemPos → StageResult) :=
  (List.range' bankSlotBagStart (bankSlotBagEnd - bankSlotBagStart)).map
    fun bag f => (q.inBag inv proto bag merge nonSpecialized q.bag f).orSkip

/-- The searches of `CanBankItem` in the place asked for. -/
def bankNamedStages : List (Filling ItemPos → StageResult) :=
  (if q.bag ≠ nullBag ∧ q.slot ≠ nullSlot then [q.inSpecificSlot inv proto] else []) ++
    if q.bag = nullBag then []
    else
      let search (merge : Bool) :=
        if q.bag = inventorySlotBag0 then q.inBankSlots inv proto merge
        else q.inNamedBag inv proto merge
      q.checkBagEmpty ::
        if proto.stackable ≠ 1 then [search true, search false] else [search false]

/-- The searches of `CanBankItem` in the whole bank. -/
def bankAnywhereStages : List (Filling ItemPos → StageResult) :=
  (if proto.stackable ≠ 1 then
    [q.inBankSlots inv proto true] ++ (if proto.bagFamily ≠ 0 then q.inBankBags inv proto true false else []) ++
      q.inBankBags inv proto true true
  else []) ++ (if proto.bagFamily ≠ 0 then q.inBankBags inv proto false false else []) ++
  [q.inBankSlots inv proto false] ++ q.inBankBags inv proto false true

end StoreQuery

namespace Bearer

variable (tables : ItemTables) (accounts : Accounts) (rules : WearRules) (s : Bearer)

def canUseItem (it : Item) : InventoryResult :=
  if !s.alive then .youAreDead else rules.canUseItem it

/-- What `CanBankItem` asks of an item for a slot that bags are worn in. -/
def bankSlotRefusal (pos : ItemPos) (it : Item) : InventoryResult :=
  if pos.bag ≠ nullBag && pos.slot ≠ nullSlot &&
      (bankSlotBagStart ≤ pos.slot && pos.slot < bankSlotBagEnd) then
    if !it.isBag then .itemDoesntGoToSlot
    else if rules.bankBagSlotCount ≤ pos.slot - bankSlotBagStart then .mustPurchaseThatBagSlot
    else s.canUseItem rules it
  else .ok

def canBankItem (pos : ItemPos) (it : Item) (swap : Bool) : StoreAnswer :=
  let inv := s.belongings.inventory
  let q : StoreQuery :=
    { bag := pos.bag, slot := pos.slot, entry := it.entry, count := it.count, pItem := some it
      bagIsEmpty := s.belongings.isEmpty it, swap }
  if rules.lootLeft it then ⟨.cantDoRightNow, [], 0⟩
  else if it.hasTemporaryLoot then ⟨.alreadyLooted, [], 0⟩
  else if s.player.isBindedNotWith accounts it then ⟨.dontOwnThatItem, [], 0⟩
  else if (inv.canTakeMoreSimilarItems it.proto it.count (some it)).1 ≠ .ok then
    ⟨(inv.canTakeMoreSimilarItems it.proto it.count (some it)).1, [], 0⟩
  else if s.bankSlotRefusal rules pos it ≠ .ok then ⟨s.bankSlotRefusal rules pos it, [], 0⟩
  else
    let answer := runStages 0 (q.bankNamedStages inv it.proto ++ q.bankAnywhereStages inv it.proto)
      ⟨[], it.count⟩
    if answer.result = .inventoryFull then { answer with result := .bankFull } else answer

def worn (pos : ItemPos) : Option Item := s.belongings.inventory.getItemByPos pos

def isTwoHandUsed : Bool :=
  (s.worn mainhandPos).any fun mainItem =>
    mainItem.proto.inventoryType = invType2HWeapon && !rules.canTitanGrip

def mainhandRestricts : Bool := (s.worn mainhandPos).any (·.proto.isRestrictedByTitanGrip)

/-- `Player::GetSlotsForInventoryType`; nothing where it returns false. -/
def getSlotsForInventoryType (proto : ItemPrototype) : Option (List Nat) :=
  match proto.inventoryType with
  | 1 => some [0] -- head
  | 2 => some [1] -- neck
  | 3 => some [2] -- shoulders
  | 4 => some [3] -- body
  | 5 | 20 => some [4] -- chest, robe
  | 6 => some [5] -- waist
  | 7 => some [6] -- legs
  | 8 => some [7] -- feet
  | 9 => some [8] -- wrists
  | 10 => some [9] -- hands
  | 11 => some [10, 11] -- finger
  | 12 => some [12, 13] -- trinket
  | 16 => some [14] -- cloak
  | 13 => some (15 :: if rules.canDualWield then [16] else []) -- weapon
  | 14 | 22 | 23 => some [16] -- shield, off-hand weapon, holdable
  | 15 | 25 | 26 => some [17] -- ranged, thrown
  | 17 => -- two-hand weapon
      some (15 :: if rules.canDualWield && rules.canTitanGrip && !s.mainhandRestricts &&
        !proto.isRestrictedByTitanGrip then [16] else [])
  | 19 => some [18] -- tabard
  | 21 => some [15] -- main-hand weapon
  | 18 => some [19, 20, 21, 22] -- bag
  | 28 => some (if proto.subClass = 11 && rules.wearsRelics then [17] else []) -- relic
  | _ => none

def findEquipSlot (proto : ItemPrototype) (slot : Nat) (swap : Bool) : Option Nat :=
  match s.getSlotsForInventoryType rules proto with
  | none => none
  | some slots =>
    let free (slot : Nat) : Bool := (s.worn ⟨inventorySlotBag0, slot⟩).isNone
    if slot ≠ nullSlot then
      if (swap || free slot) && slots.contains slot then some slot else none
    else
      match slots.find? fun eslot =>
        free eslot && (eslot ≠ equipmentSlotOffhand || !s.isTwoHandUsed rules) with
      | some eslot => some eslot
      | none => if swap then slots.head? else none

/-- The checks of `CanEquipItem` before it looks for a slot. -/
def equipRefusal (it : Item) : InventoryResult :=
  let similar :=
    (s.belongings.inventory.canTakeMoreSimilarItems it.proto it.count (some it)).1
  if it.hasTemporaryLoot then .alreadyLooted
  else if s.player.isBindedNotWith accounts it then .dontOwnThatItem
  else if similar ≠ .ok then similar
  else if rules.stunned then .youAreStunned
  else if !it.proto.canChangeEquipStateInCombat && s.inCombat then .notInCombat
  else if !it.proto.canChangeEquipStateInCombat && s.inProgressArena then .notDuringArenaMatch
  else if s.logingOut then .youAreStunned
  else if s.inCombat && it.proto.itemClass = .weapon && rules.weaponChanging then .cantDoRightNow
  else if rules.casting then .cantDoRightNow
  else if rules.levelTooHigh it then .itemCantBeEquipped
  else .ok

def quiverRefusal (it : Item) (eslot : Nat) (swap : Bool) : InventoryResult :=
  if it.proto.itemClass = .quiver then
    let others := (List.range' inventorySlotBagStart
        (inventorySlotBagEnd - inventorySlotBagStart)).filter fun slot => !swap || slot ≠ eslot
    let quivers := others.filterMap fun slot =>
      (s.worn ⟨inventorySlotBag0, slot⟩).filter fun bag =>
        bag.guid ≠ it.guid && bag.proto.itemClass = .quiver
    match quivers with
    | [] => .ok
    | bag :: _ => if bag.proto.subClass = 3 then .canEquipOnly1Ammopouch else .canEquipOnly1Quiver
  else .ok

def offhandRefusal (proto : ItemPrototype) : InventoryResult :=
  let forHands :=
    if proto.inventoryType = invTypeWeapon ∨ proto.inventoryType = invTypeWeaponOffhand then
      if rules.canDualWield then InventoryResult.ok else .cantDualWield
    else if proto.inventoryType = invType2HWeapon then
      if rules.canDualWield && rules.canTitanGrip then .ok else .cantDualWield
    else if s.mainhandRestricts || proto.isRestrictedByTitanGrip then .itemCantBeEquipped
    else .ok
  if forHands ≠ .ok then forHands
  else if s.isTwoHandUsed rules then .cantEquipWithTwohanded
  else .ok

def twoHandRefusal (proto : ItemPrototype) (eslot : Nat) (swap : Bool) : InventoryResult :=
  if eslot = equipmentSlotOffhand ∧
      (!rules.canTitanGrip || proto.isRestrictedByTitanGrip || s.mainhandRestricts) then
    .itemCantBeEquipped
  else if eslot ≠ equipmentSlotOffhand ∧ eslot ≠ equipmentSlotMainhand then .itemCantBeEquipped
  else if !rules.canTitanGrip || proto.isRestrictedByTitanGrip then
    match s.worn offhandPos with
    | some offItem =>
      if s.player.canUnequipItem offhandPos false ≠ .ok ∨
          (s.canStoreItem tables accounts ⟨nullBag, nullSlot⟩ offItem false).result ≠ .ok then
        if swap then .itemsCantBeSwapped else .inventoryFull
      else .ok
    | none => .ok
  else .ok

/-- The checks of `CanEquipItem` once the slot is found. -/
def slotRefusal (it : Item) (eslot : Nat) (swap : Bool) : InventoryResult :=
  let inv := s.belongings.inventory
  let exceptSlot := if swap then eslot else nullSlot
  if rules.canEquipMoreJewelcraftingGems inv it exceptSlot ≠ .ok then
    rules.canEquipMoreJewelcraftingGems inv it exceptSlot
  else if s.canUseItem rules it ≠ .ok then s.canUseItem rules it
  else if !swap && (s.worn ⟨inventorySlotBag0, eslot⟩).isSome then .noEquipmentSlotAvailable
  else if rules.canEquipUniqueItem inv it exceptSlot ≠ .ok then
    rules.canEquipUniqueItem inv it exceptSlot
  else if s.quiverRefusal it eslot swap ≠ .ok then s.quiverRefusal it eslot swap
  else if eslot = equipmentSlotOffhand ∧ s.offhandRefusal rules it.proto ≠ .ok then
    s.offhandRefusal rules it.proto
  else if it.proto.inventoryType = invType2HWeapon then
    s.twoHandRefusal tables accounts rules it.proto eslot swap
  else .ok

/-- `Player::CanEquipItem`, with the slot found. -/
def canEquipItem (slot : Nat) (it : Item) (swap : Bool) : Except InventoryResult Nat :=
  if s.equipRefusal accounts rules it ≠ .ok then .error (s.equipRefusal accounts rules it)
  else match s.findEquipSlot rules it.proto slot swap with
    | none => .error .itemCantBeEquipped
    | some eslot =>
      match s.slotRefusal tables accounts rules it eslot swap with
      | .ok => .ok eslot
      | res => .error res

def keepsOffhand (offItem : Item) : Bool :=
  (rules.canDualWield || offItem.proto.inventoryType = invTypeShield ||
      offItem.proto.inventoryType = invTypeHoldable) &&
    (rules.canTitanGrip ||
      (offItem.proto.inventoryType ≠ invType2HWeapon && !s.isTwoHandUsed rules)) &&
    !(offItem.proto.isRestrictedByTitanGrip || s.mainhandRestricts)

/-- `Player::AutoUnequipOffhandIfNeed`: the item goes to a place in the bags, or by mail. -/
def autoUnequipOffhandIfNeed : Bearer :=
  match s.worn offhandPos with
  | none => s
  | some offItem =>
    if s.keepsOffhand rules offItem then s
    else
      let answer := s.canStoreItem tables accounts ⟨nullBag, nullSlot⟩ offItem false
      if answer.result = .ok then
        (s.removeItem offhandPos).storeItem tables offItem answer.dest
      else { s.removeItem offhandPos with mailed := s.mailed ++ [offItem] }

end Bearer

end Mangos
