import Mathlib.Algebra.Ring.Rat
import Mangos.Framework.OrdMap
import Mangos.Framework.Partial
import Mangos.Loot.Loot

/-!
# Loot templates

A loot template holds plain entries, references to the templates of the reference table, and groups of which
one entry at most is drawn.
-/

namespace Mangos

open Std Framework

/-- A row of a loot table. Currencies have a negative `item`. -/
structure LootRow where
  entry : Nat
  item : Int
  chanceOrQuestChance : ℚ
  groupid : Nat := 0
  mincountOrRef : Int
  maxcount : Nat
  conditionId : Nat := 0

structure LootStoreItem where
  itemid : Nat
  currency : Bool
  chance : ℚ
  mincountOrRef : Int
  maxcount : Nat
  group : Nat
  needsQuest : Bool
  conditionId : Nat
  deriving DecidableEq

/-- What loot tables are checked with, and the rates that chances are multiplied with. -/
structure LootRules where
  tables : LootTables
  conditionExists : Nat → Bool
  canBeUsedWithoutPlayer : Nat → Bool
  rateQuality : Nat → ℚ
  rateReferenced : ℚ
  rateCurrency : ℚ

structure LootGroup where
  explicitlyChanced : List LootStoreItem := []
  equalChanced : List LootStoreItem := []
  deriving DecidableEq

structure LootTemplate where
  entries : List LootStoreItem := []
  groups : List LootGroup := []
  deriving DecidableEq

/-- `m_LootTemplates`. -/
abbrev LootStore := ExtTreeMap Nat LootTemplate

/-- The constructor of `LootStoreItem` for a row; the group has seven bits. -/
def LootRow.storeItem (row : LootRow) : LootStoreItem where
  itemid := row.item.natAbs
  currency := row.item < 0
  chance := if row.chanceOrQuestChance < 0 then -row.chanceOrQuestChance else row.chanceOrQuestChance
  mincountOrRef := row.mincountOrRef
  maxcount := row.maxcount
  group := row.groupid % 128
  needsQuest := row.chanceOrQuestChance < 0
  conditionId := row.conditionId

namespace LootStoreItem

variable (rules : LootRules) (item : LootStoreItem)

def isValid : Bool :=
  if 128 ≤ item.group then false
  else if item.group ≠ 0 ∧ item.currency then false
  else if item.mincountOrRef = 0 then false
  else if 0 < item.mincountOrRef then
    if !item.currency && (rules.tables.items.prototype item.itemid).isNone then false
    else if item.currency && (rules.tables.currencyCategory item.itemid).isNone then false
    else if item.chance = 0 ∧ item.group = 0 then false
    else if item.chance ≠ 0 ∧ item.chance < 1 / 1000000 then false
    else !((item.maxcount : Int) < item.mincountOrRef)
  else if item.needsQuest then false
  else !(item.chance = 0 && item.group = 0)

/-- `LootStoreItem::Roll`, when `roll_chance_f` draws `drawn`. -/
def roll (rate : Bool) (drawn : ℚ) : Bool :=
  if 100 ≤ item.chance then true
  else if item.mincountOrRef < 0 then
    drawn < item.chance * (if rate then rules.rateReferenced else 1)
  else if !item.currency then
    drawn < item.chance *
      (match rules.tables.items.prototype item.itemid with
        | some proto => if rate then rules.rateQuality proto.quality else 1
        | none => 1)
  else drawn < item.chance * (if rate then rules.rateCurrency else 1)

def referenced (store : LootStore) : Option LootTemplate := store[item.mincountOrRef.natAbs]?

def drop (count : Nat) : LootDrop where
  itemid := item.itemid
  currency := item.currency
  conditionId := item.conditionId
  needsQuest := item.needsQuest
  count := count

end LootStoreItem

namespace LootGroup

variable (group : LootGroup)

def addEntry (item : LootStoreItem) : LootGroup :=
  if item.chance ≠ 0 then { group with explicitlyChanced := group.explicitlyChanced ++ [item] }
  else { group with equalChanced := group.equalChanced ++ [item] }

def rollExplicit (drawn : ℚ) : List LootStoreItem → Option LootStoreItem
  | [] => none
  | item :: items =>
    if 100 ≤ item.chance ∨ drawn - item.chance < 0 then some item
    else rollExplicit (drawn - item.chance) items

/-- `LootGroup::Roll`, with the two numbers drawn. -/
def roll (drawn : ℚ) (pick : Nat) : Option LootStoreItem :=
  (rollExplicit drawn group.explicitlyChanced).or group.equalChanced[pick % group.equalChanced.length]?

def all : List LootStoreItem := group.explicitlyChanced ++ group.equalChanced

end LootGroup

def LootTemplate.addEntry (t : LootTemplate) (item : LootStoreItem) : LootTemplate :=
  if 0 < item.group ∧ 0 < item.mincountOrRef then
    let groups := t.groups ++ List.replicate (item.group - t.groups.length) ({} : LootGroup)
    { t with groups := groups.modify (item.group - 1) (·.addEntry item) }
  else { t with entries := t.entries ++ [item] }

/-- The checks of `LootStore::LoadLootTable` before `IsValid`. -/
def LootRow.accepted (rules : LootRules) (row : LootRow) : Bool :=
  if 0 ≤ row.item ∧ 255 < row.maxcount then false
  else row.conditionId = 0 ||
    (rules.conditionExists row.conditionId &&
      !(row.mincountOrRef < 0 && !rules.canBeUsedWithoutPlayer row.conditionId))

namespace LootStore

variable (rules : LootRules)

/-- The turn of `LootStore::LoadLootTable` for a row. -/
def loadRow (store : LootStore) (row : LootRow) : LootStore :=
  if row.accepted rules && row.storeItem.isValid rules then
    upsert store row.entry {} (·.addEntry row.storeItem)
  else store

/-- `LootStore::LoadLootTable`. `Verify` and `CheckLootRefs` only print errors. -/
def loadLootTable (rows : List LootRow) : LootStore := rows.foldl (loadRow rules) ∅

end LootStore

/-- What is drawn, for each draw in turn: a chance below 100, a number for `irand`, and the count of a loot
item. -/
structure LootRandom where
  chance : Nat → ℚ
  pick : Nat → Nat
  count : Nat → LootStoreItem → Nat
  nonneg : ∀ i, 0 ≤ chance i
  below : ∀ i, chance i < 100

/-- What filling a loot looks at: the reference table, and which conditions hold for the loot's target. -/
structure LootSources where
  rules : LootRules
  reference : LootStore
  meets : Nat → Bool

structure LootContext extends LootSources where
  random : LootRandom

/-- A loot on the way, and how many draws were made for it. -/
structure LootProgress where
  loot : Loot
  drawn : Nat

namespace LootContext

variable (ctx : LootContext)

/-- `Loot::AddItem` for an entry. -/
def addItem (item : LootStoreItem) (s : LootProgress) : LootProgress where
  loot := s.loot.addItem ctx.rules.tables (item.drop (ctx.random.count s.drawn item))
  drawn := s.drawn + 1

/-- `LootGroup::Process`; a template is processed by `call`. -/
def processGroup (call : LootTemplate → LootProgress → Option LootProgress) (s : LootProgress) (group : LootGroup) :
    Option LootProgress :=
  let s' : LootProgress := { s with drawn := s.drawn + 1 }
  match group.roll (ctx.random.chance s.drawn) (ctx.random.pick s.drawn) with
  | none => some s'
  | some item =>
    if item.mincountOrRef < 0 then
      match item.referenced ctx.reference with
      | none => some s'
      | some t => repeatM (call t) item.maxcount s'
    else some (ctx.addItem item s')

/-- The turn of the loop over the entries in `LootTemplate::Process`; a template is processed by `call`. -/
def processEntry (call : Nat → LootTemplate → LootProgress → Option LootProgress) (rate : Bool) (s : LootProgress)
    (item : LootStoreItem) : Option LootProgress :=
  let s' : LootProgress := { s with drawn := s.drawn + 1 }
  if !item.roll ctx.rules rate (ctx.random.chance s.drawn) then some s'
  else if item.mincountOrRef < 0 ∧ !item.currency then
    match item.referenced ctx.reference with
    | none => some s'
    | some t =>
      if item.conditionId ≠ 0 ∧ !ctx.meets item.conditionId then some s'
      else repeatM (call item.group t) item.maxcount s'
  else some (ctx.addItem item s')

/-- `LootTemplate::Process`, in as many nested calls as `fuel`. -/
def process : (fuel : Nat) → (rate : Bool) → (groupId : Nat) → LootTemplate → LootProgress → Option LootProgress
  | 0, _, _, _, _ => none
  | fuel + 1, rate, groupId, t, s =>
    if groupId ≠ 0 then
      match t.groups[groupId - 1]? with
      | none => some s
      | some group => ctx.processGroup (process fuel false 0) s group
    else
      (t.entries.foldlM (ctx.processEntry (process fuel rate) rate) s).bind fun s =>
        t.groups.foldlM (ctx.processGroup (process fuel false 0)) s

end LootContext

end Mangos
