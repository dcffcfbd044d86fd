import Mangos.Item.Prototype

/-!
# Item objects

One `Item` object with the fields that storing, trading, auctioning and depositing read or write.
-/

namespace Mangos

inductive ItemLootUpdateState
  | none | temporary | unchanged | changed | new | removed
  deriving DecidableEq, Repr

/-- The `InventoryResult` codes the modelled functions return. -/
inductive InventoryResult
  | ok | itemDoesntGoIntoBag | cantCarryMoreOfThis | itemCantStack | itemCantBeEquipped
  | itemsCantBeSwapped | itemNotFound | canOnlyDoWithEmptyBags | dontOwnThatItem
  | youAreStunned | nonemptyBagOverOtherBag | alreadyLooted | inventoryFull | notInCombat
  | notDuringArenaMatch | cannotTradeThat | itemMaxLimitCategoryCountExceededIs
  | couldntSplitItems | cantDropSoulbound | bankFull | itemDoesntGoToSlot
  | noEquipmentSlotAvailable | cantEquipWithTwohanded | cantDualWield | triedToSplitMoreThanCount
  | canEquipOnly1Quiver | mustPurchaseThatBagSlot | youAreDead | cantDoRightNow
  | canEquipOnly1Ammopouch | ok2
  deriving DecidableEq, Repr

/-- `Item`. The three flags are the bits `ITEM_DYNFLAG_BINDED`, `ITEM_DYNFLAG_BOP_TRADEABLE` and
`ITEM_DYNFLAG_WRAPPED`; `boundByEnchant` is whether an enchantment on the item binds it, and
`gems` are the gems in its sockets. -/
structure Item where
  guid : Nat
  proto : ItemPrototype
  count : Nat
  ownerGuid : Nat
  creator : Nat := 0
  giftCreator : Nat := 0
  binded : Bool := false
  bopTradeable : Bool := false
  wrapped : Bool := false
  duration : Nat := 0
  durability : Nat := 0
  maxDurability : Nat := 0
  randomPropertyId : Int := 0
  suffixFactor : Nat := 0
  inTrade : Bool := false
  lootState : ItemLootUpdateState := .none
  allowedLooterGuids : List Nat := []
  boundByEnchant : Bool := false
  refundable : Bool := false
  gems : List Nat := []
  deriving DecidableEq

namespace Item

def entry (it : Item) : Nat := it.proto.itemId

def isBag (it : Item) : Bool := it.proto.inventoryType = invTypeBag

/-- `Bag::GetBagSize`; what is no bag has no slots. -/
def getBagSize (it : Item) : Nat := if it.isBag then it.proto.containerSlots else 0

def hasGeneratedLoot (it : Item) : Bool := it.lootState ≠ .none && it.lootState ≠ .removed

def hasTemporaryLoot (it : Item) : Bool := it.lootState = .temporary

def isBoundAccountWide (it : Item) : Bool := it.proto.hasFlag itemFlagBoa

def getGemCountWithID (it : Item) (gemID : Nat) : Nat := it.gems.count gemID

def canBeMergedPartlyWith (it : Item) (proto : ItemPrototype) : InventoryResult :=
  if it.entry ≠ proto.itemId then .itemCantStack
  else if proto.getMaxStackSize ≤ it.count then .itemCantStack
  else if it.hasGeneratedLoot then .alreadyLooted
  else .ok

theorem entry_of_canBeMergedPartlyWith {it : Item} {proto : ItemPrototype}
    (h : it.canBeMergedPartlyWith proto = .ok) : it.entry = proto.itemId ∧ it.count < proto.getMaxStackSize := by
  unfold canBeMergedPartlyWith at h
  split at h
  · cases h
  next hentry =>
    split at h
    · cases h
    next hcount => exact ⟨not_not.mp hentry, not_le.mp hcount⟩

def fitsToVoidStorage (it : Item) : Bool :=
  if 1 < it.proto.stackable then false
  else if it.maxDurability ≠ it.durability then false
  else if ¬ it.binded then false
  else if it.proto.itemLimitCategory ≠ 0 then
    it.proto.limitEntry.all fun limitEntry => limitEntry.mode ≠ .have
  else true

/-- `Item::Create` and `SetItemRandomProperties` for the item `CreateItem` makes; `guid` is what
`GenerateItemLowGuid` hands out. -/
def create (tables : ItemTables) (proto : ItemPrototype) (guid count ownerGuid : Nat)
    (randomPropertyId : Int) : Item :=
  let randId :=
    if randomPropertyId ≠ 0 then randomPropertyId
    else tables.randomPropertyId proto.itemId guid
  { guid, proto, ownerGuid
    count := min count proto.getMaxStackSize
    duration := proto.duration
    durability := proto.maxDurability
    maxDurability := proto.maxDurability
    randomPropertyId := randId
    suffixFactor := if randId < 0 then tables.suffixFactor proto.itemId else 0 }

def createItem (tables : ItemTables) (item guid count ownerGuid : Nat)
    (randomPropertyId : Int) : Option Item :=
  if count < 1 then Option.none
  else (tables.prototype item).map fun proto =>
    create tables proto guid count ownerGuid randomPropertyId

def cloneItem (tables : ItemTables) (it : Item) (guid count ownerGuid : Nat) : Option Item :=
  if count < 1 then Option.none
  else
    some { create tables it.proto guid count ownerGuid it.randomPropertyId with
      creator := it.creator
      giftCreator := it.giftCreator
      binded := it.binded
      bopTradeable := it.bopTradeable
      wrapped := it.wrapped
      refundable := it.refundable
      duration := it.duration }

theorem cloneItem_eq_some {tables : ItemTables} {it newItem : Item} {guid count ownerGuid : Nat}
    (h : cloneItem tables it guid count ownerGuid = some newItem) :
    0 < count ∧ newItem.guid = guid ∧ newItem.proto = it.proto ∧
      newItem.count = min count it.proto.getMaxStackSize := by
  unfold cloneItem at h
  split at h
  · cases h
  · cases h
    exact ⟨by omega, rfl, rfl, rfl⟩

/-- A stack as the server keeps them: of a known template, not empty and within its limit. -/
structure Fits (tables : ItemTables) (it : Item) : Prop where
  known : tables.prototype it.entry = some it.proto
  pos : 0 < it.count
  le : it.count ≤ it.proto.getMaxStackSize

instance (tables : ItemTables) (it : Item) : Decidable (it.Fits tables) :=
  decidable_of_iff (tables.prototype it.entry = some it.proto ∧ 0 < it.count ∧ it.count ≤ it.proto.getMaxStackSize)
    ⟨fun h => ⟨h.1, h.2.1, h.2.2⟩, fun h => ⟨h.known, h.pos, h.le⟩⟩

theorem Fits.proto_eq {tables : ItemTables} {it it2 : Item} (h : it.Fits tables)
    (h2 : it2.Fits tables) (hentry : it2.entry = it.entry) : it2.proto = it.proto := by
  have hknown := h2.known
  rw [hentry, h.known] at hknown
  exact (Option.some.inj hknown).symm

theorem Fits.transfer {tables : ItemTables} {it it2 : Item} (h : it.Fits tables)
    (hproto : it2.proto = it.proto) (hpos : 0 < it2.count)
    (hle : it2.count ≤ it.proto.getMaxStackSize) : it2.Fits tables := by
  constructor
  · rw [entry, hproto]
    exact h.known
  · exact hpos
  · rw [hproto]
    exact hle

def weight (e : Nat) (it : Item) : Nat := if it.entry = e then it.count else 0

@[simp] theorem weight_count (e n : Nat) (it : Item) :
    weight e { it with count := n } = if it.entry = e then n else 0 := rfl

end Item

end Mangos
