import Mathlib.Data.Nat.Bitwise

/-!
# Item templates

The rows of `item_template` as the server holds them after loading: the loader replaces a
stack size of zero, bounds the others and bounds the size of a bag, so a template carries
those bounds as fields.
-/

namespace Mangos

inductive ItemClass
  | consumable | container | weapon | gem | armor | reagent | projectile | tradeGoods | generic
  | recipe | money | quiver | quest | key | permanent | misc | glyph
  deriving DecidableEq, Repr

inductive ItemBondingType
  | noBind | bindWhenPickedUp | bindWhenEquipped | bindWhenUse | bindQuestItem | bindQuestItem1
  deriving DecidableEq, Repr

inductive ItemLimitCategoryMode
  | have | equip
  deriving DecidableEq, Repr

structure ItemLimitCategoryEntry where
  maxCount : Nat
  mode : ItemLimitCategoryMode
  deriving DecidableEq, Repr

def maxBagSize : Nat := 36

def invTypeShield : Nat := 14
def invTypeBag : Nat := 18
def invTypeHoldable : Nat := 23
def invTypeRelic : Nat := 28

def itemFlagConjured : Nat := 0x00000002
def itemFlagPartyLoot : Nat := 0x00000800
def itemFlagBoa : Nat := 0x08000000
def itemFlag2NeedRollDisabled : Nat := 0x00000100

def bagFamilyMaskCurrencyTokens : Nat := 0x00002000

/-- The part of `ItemPrototype` that storing, trading, selling, looting and listing read. `limitEntry` is the
row `sItemLimitCategoryStore` has for `itemLimitCategory`. -/
structure ItemPrototype where
  itemId : Nat
  itemClass : ItemClass
  subClass : Nat
  quality : Nat
  flags : Nat
  flags2 : Nat
  inventoryType : Nat
  maxCount : Int
  stackable : Int
  containerSlots : Nat
  bagFamily : Nat
  itemLimitCategory : Nat
  limitEntry : Option ItemLimitCategoryEntry
  gemProperties : Nat
  socketColor : Nat
  bonding : ItemBondingType
  duration : Nat
  maxDurability : Nat
  disenchantID : Nat
  requiredDisenchantSkill : Int
  sellPrice : Nat := 0
  itemLevel : Nat := 0
  requiredLevel : Nat := 0
  stackable_pos_or_unlimited : 0 < stackable ∨ stackable = -1
  stackable_le : stackable ≤ 1000
  containerSlots_le : containerSlots ≤ maxBagSize
  deriving DecidableEq

def ItemPrototype.getMaxStackSize (proto : ItemPrototype) : Nat :=
  if 0 < proto.stackable then proto.stackable.toNat else 0x7FFFFFFF - 1

theorem ItemPrototype.getMaxStackSize_pos (proto : ItemPrototype) : 0 < proto.getMaxStackSize := by
  unfold getMaxStackSize
  split <;> omega

def ItemPrototype.canChangeEquipStateInCombat (proto : ItemPrototype) : Bool :=
  proto.inventoryType = invTypeRelic || proto.inventoryType = invTypeShield ||
    proto.inventoryType = invTypeHoldable || proto.itemClass = .weapon ||
    proto.itemClass = .projectile

def ItemPrototype.hasFlag (proto : ItemPrototype) (mask : Nat) : Bool :=
  proto.flags &&& mask ≠ 0

def ItemPrototype.isPlainContainer (proto : ItemPrototype) : Bool :=
  proto.itemClass = .container && proto.subClass = 0

/-- The `BagFamily` bit a specialised bag asks for, by `Class` and `SubClass` of the bag. -/
def bagFamilyMask : ItemClass → Nat → Option Nat
  | .container, 1 => some 0x0004 -- soul shards
  | .container, 2 => some 0x0020 -- herbs
  | .container, 3 => some 0x0040 -- enchanting
  | .container, 4 => some 0x0080 -- engineering
  | .container, 5 => some 0x0200 -- gems
  | .container, 6 => some 0x0400 -- mining
  | .container, 7 => some 0x0008 -- leatherworking
  | .container, 8 => some 0x0010 -- inscription
  | .container, 9 => some 0x8000 -- fishing
  | .quiver, 2 => some 0x0001 -- arrows
  | .quiver, 3 => some 0x0002 -- bullets
  | _, _ => none

def itemCanGoIntoBag (proto bagProto : ItemPrototype) : Bool :=
  bagProto.isPlainContainer ||
    match bagFamilyMask bagProto.itemClass bagProto.subClass with
    | some mask => proto.bagFamily &&& mask ≠ 0
    | none => false

/-- What the server knows of items: the templates, and the draws of `Item::GenerateItemRandomPropertyId` and
`GenerateEnchSuffixFactor` for a new item. -/
structure ItemTables where
  prototype : Nat → Option ItemPrototype
  randomPropertyId : (entry guid : Nat) → Int
  suffixFactor : (entry : Nat) → Nat
  prototype_itemId : ∀ entry proto, prototype entry = some proto → proto.itemId = entry

/-- A template with nothing special to it: goods that stack up to `stack`. -/
def ItemPrototype.goods (itemId stack : Nat) (hpos : 0 < stack) (hle : stack ≤ 1000) :
    ItemPrototype where
  itemId := itemId
  itemClass := .tradeGoods
  subClass := 0
  quality := 1
  flags := 0
  flags2 := 0
  inventoryType := 0
  maxCount := 0
  stackable := stack
  containerSlots := 0
  bagFamily := 0
  itemLimitCategory := 0
  limitEntry := none
  gemProperties := 0
  socketColor := 0
  bonding := .noBind
  duration := 0
  maxDurability := 0
  disenchantID := 0
  requiredDisenchantSkill := -1
  stackable_pos_or_unlimited := .inl (by omega)
  stackable_le := by omega
  containerSlots_le := by simp

def ItemPrototype.trinket (itemId : Nat) : ItemPrototype := .goods itemId 1 (by omega) (by omega)

def ItemPrototype.clothLike (itemId : Nat) : ItemPrototype := .goods itemId 20 (by omega) (by omega)

def ItemPrototype.inBulk (itemId : Nat) : ItemPrototype := .goods itemId 200 (by omega) (by omega)

/-- The tables of a server that knows the templates listed and draws no random properties. -/
def ItemTables.ofPrototypes (protos : List ItemPrototype) : ItemTables where
  prototype entry := protos.find? (·.itemId = entry)
  randomPropertyId _ _ := 0
  suffixFactor _ := 0
  prototype_itemId entry proto h := by simpa using List.find?_some h

end Mangos
