import Mathlib.Logic.Function.Basic
import Mathlib.Algebra.GroupWithZero.Nat
import Mangos.Item.Inventory

/-!
# Gear score

The average of the best item levels by equipment slot.
-/

namespace Mangos

open Function

/-- `GearScoreVec` by slot, and the score of the two-hand weapons. -/
structure GearScore where
  table : Nat → Nat
  twoHandScore : Nat

namespace GearScore

def raise (gs : GearScore) (slot level : Nat) : GearScore :=
  { gs with table := update gs.table slot (max (gs.table slot) level) }

def raisePair (gs : GearScore) (first second level : Nat) : GearScore :=
  if gs.table first < level then
    { gs with table := update (update gs.table second (gs.table first)) first level }
  else if gs.table second < level then { gs with table := update gs.table second level }
  else gs

end GearScore

/-- The entry that the `switch` of `_fillGearScoreData` raises, the first one for rings and trinkets. -/
def gearScoreSlot : Nat → Option Nat
  | 13 | 21 => some 15 -- weapon, main-hand weapon
  | 14 | 22 => some 16 -- shield, off-hand weapon
  | 25 | 26 | 15 | 27 | 28 => some 17 -- thrown, ranged, quiver, relic
  | 1 => some 0 -- head
  | 2 => some 1 -- neck
  | 3 => some 2 -- shoulders
  | 4 => some 3 -- body
  | 5 => some 4 -- chest
  | 6 => some 5 -- waist
  | 7 => some 6 -- legs
  | 8 => some 7 -- feet
  | 9 => some 8 -- wrists
  | 10 => some 0 -- hands
  | 11 => some 10 -- finger
  | 12 => some 12 -- trinket
  | 16 => some 14 -- cloak
  | _ => none

def invTypeTwoHand : Nat := 17

def fillGearScoreData (canUseItem : ItemPrototype → InventoryResult) (gs : GearScore) (item : Item) : GearScore :=
  if canUseItem item.proto ≠ .ok then gs
  else
    let level := item.proto.itemLevel
    if item.proto.inventoryType = invTypeTwoHand then { gs with twoHandScore := max gs.twoHandScore level }
    else
      match gearScoreSlot item.proto.inventoryType with
      | none => gs
      | some slot =>
        if slot = 10 then gs.raisePair 10 11 level
        else if slot = 12 then gs.raisePair 12 13 level
        else gs.raise slot level

/-- The items that `GetEquipGearScore` looks at. -/
def gearItems (inv : Inventory) (withBags withBank : Bool) : List Item :=
  (slotsOf inventorySlotBag0 0 equipmentSlotEnd ++
    (if withBags then slotsOf inventorySlotBag0 inventorySlotItemStart inventorySlotItemEnd ++
      bagContentSlots inventorySlotBagStart inventorySlotBagEnd else []) ++
    (if withBank then slotsOf inventorySlotBag0 bankSlotItemStart bankSlotItemEnd ++
      bagContentSlots bankSlotBagStart bankSlotBagEnd else [])).filterMap inv.getItemByPos

/-- The table whose average is taken, and by how many slots the sum is divided. -/
structure GearTable where
  score : Nat → Nat
  count : Nat

def GearScore.withTwoHand (gs : GearScore) : GearTable :=
  if (gs.table 15 + gs.table 16) % 2 ^ 32 < gs.twoHandScore * 2 % 2 ^ 32 then
    ⟨update (update gs.table 16 0) 15 gs.twoHandScore, equipmentSlotEnd - 2 - 1⟩
  else ⟨gs.table, equipmentSlotEnd - 2⟩

def gearTable (canUseItem : ItemPrototype → InventoryResult) (items : List Item) : GearTable :=
  (items.foldl (fillGearScoreData canUseItem) ⟨fun _ => 0, 0⟩).withTwoHand

def GearTable.average (t : GearTable) : Nat := ((List.range equipmentSlotEnd).map t.score).sum % 2 ^ 32 / t.count

/-- The gear score, and `m_cachedGS` after it. -/
def getEquipGearScore (canUseItem : ItemPrototype → InventoryResult) (inv : Inventory) (withBags withBank : Bool)
    (cachedGS : Nat) : Nat × Nat :=
  if withBags ∧ withBank ∧ 0 < cachedGS then (cachedGS, cachedGS)
  else
    let res := (gearTable canUseItem (gearItems inv withBags withBank)).average
    (res, if withBags ∧ withBank then res else cachedGS)

/-- The slot that `GetSlotsForInventoryType` names first, two-hand weapons apart. A relic is taken for one of the
player's class. -/
def wornSlot : Nat → Option Nat
  | 1 => some 0
  | 2 => some 1
  | 3 => some 2
  | 4 => some 3
  | 5 | 20 => some 4
  | 6 => some 5
  | 7 => some 6
  | 8 => some 7
  | 9 => some 8
  | 10 => some 9
  | 11 => some 10
  | 12 => some 12
  | 16 => some 14
  | 13 | 21 => some 15
  | 14 | 22 | 23 => some 16
  | 15 | 25 | 26 | 28 => some 17
  | 19 => some 18
  | _ => none

def best (levels : List Nat) : Nat := levels.foldl max 0

def secondBest (levels : List Nat) : Nat := best (levels.erase (best levels))

def usableItems (canUseItem : ItemPrototype → InventoryResult) (items : List Item) : List Item :=
  items.filter fun item => canUseItem item.proto = .ok

def levelsOf (items : List Item) (types : Nat → Bool) : List Nat :=
  (items.filter fun item => types item.proto.inventoryType).map (·.proto.itemLevel)

def bestOf (items : List Item) (types : List Nat) : Nat := best (levelsOf items (· ∈ types))

def entries (items : List Item) (slotOf : Nat → Option Nat) (slot : Nat) : Nat :=
  if slot = 11 then secondBest (levelsOf items fun t => slotOf t = some 10)
  else if slot = 13 then secondBest (levelsOf items fun t => slotOf t = some 12)
  else best (levelsOf items fun t => slotOf t = some slot)

/-- The table as it is to be. -/
def bestTable (items : List Item) : GearTable :=
  let score := entries items wornSlot
  let twoHand := bestOf items [invTypeTwoHand]
  if score 15 + score 16 < twoHand * 2 then ⟨update (update score 16 0) 15 twoHand, 16⟩ else ⟨score, 17⟩

/-- No item is of a type that the code sends to another slot or to none, or it would not be the best there. -/
structure GearCounted (items : List Item) : Prop where
  gloves : bestOf items [10] = 0
  robes : bestOf items [20] ≤ bestOf items [5]
  tabards : bestOf items [19] = 0
  quivers : bestOf items [27] ≤ bestOf items [15, 25, 26, 28]
  holdables : bestOf items [23] ≤ bestOf items [14, 22] ∨ bestOf items [13, 21] +
      bestOf items [14, 22, 23] < bestOf items [invTypeTwoHand] * 2

@[simp] theorem best_append (levels : List Nat) (level : Nat) : best (levels ++ [level]) = max (best levels) level := by
  simp [best]

theorem le_best {levels : List Nat} {level : Nat} (h : level ∈ levels) : level ≤ best levels := by
  induction levels using List.reverseRecOn with
  | nil => simp at h
  | append_singleton levels last ih =>
    rw [best_append]
    rcases List.mem_append.mp h with hmem | hlast
    · exact (ih hmem).trans (le_max_left _ _)
    · exact (List.mem_singleton.mp hlast).trans_le (le_max_right _ _)

theorem best_mem {levels : List Nat} (h : levels ≠ []) : best levels ∈ levels := by
  induction levels using List.reverseRecOn with
  | nil => exact absurd rfl h
  | append_singleton levels last ih =>
    rw [best_append, List.mem_append, List.mem_singleton]
    cases levels with
    | nil => exact .inr (Nat.zero_max last)
    | cons level levels =>
      rcases max_choice (best (level :: levels)) last with hbest | hlast
      · rw [hbest]
        exact .inl (ih (by simp))
      · exact .inr hlast

theorem secondBest_append (levels : List Nat) (level : Nat) : secondBest (levels ++ [level]) =
      if best levels < level then best levels else max (secondBest levels) level := by
  rw [secondBest, best_append]
  split
  next hlt =>
    have hnot : level ∉ levels := fun hmem => absurd (le_best hmem) (not_le.mpr hlt)
    rw [max_eq_right hlt.le, List.erase_append_right _ hnot, List.erase_cons_head, List.append_nil]
  next hle =>
    rw [max_eq_left (not_lt.mp hle)]
    by_cases hnil : levels = []
    · subst hnil
      obtain rfl : level = 0 := Nat.le_zero.mp (not_lt.mp hle)
      rfl
    · rw [List.erase_append_left _ (best_mem hnil), best_append, secondBest]

section Levels

variable {items : List Item}

theorem levelsOf_append (items : List Item) (item : Item) (types : Nat → Bool) :
    levelsOf (items ++ [item]) types = levelsOf items types ++
      if types item.proto.inventoryType then [item.proto.itemLevel] else [] := by
  rw [levelsOf, List.filter_append, List.map_append, List.filter_singleton]
  cases types item.proto.inventoryType <;> rfl

theorem bestOf_append (items : List Item) (item : Item) (types : List Nat) : bestOf (items ++ [item]) types =
      if item.proto.inventoryType ∈ types then max (bestOf items types) item.proto.itemLevel
      else bestOf items types := by
  rw [bestOf, levelsOf_append]
  by_cases h : item.proto.inventoryType ∈ types
  · simp [h, bestOf]
  · simp [h, bestOf]

/-- What is of a type without a slot changes no entry. -/
theorem entries_append_of_none {slotOf : Nat → Option Nat} {item : Item}
    (h : slotOf item.proto.inventoryType = none) : entries (items ++ [item]) slotOf = entries items slotOf := by
  have hsame (slot : Nat) : levelsOf (items ++ [item]) (fun t => slotOf t = some slot) =
      levelsOf items fun t => slotOf t = some slot := by
    simp [levelsOf_append, h]
  funext slot
  rw [entries, entries, hsame, hsame, hsame]

/-- An item raises the entry of its slot, or of a pair of slots. -/
theorem entries_append {slotOf : Nat → Option Nat} {item : Item} {at' : Nat}
    (hslot : slotOf item.proto.inventoryType = some at') (slot : Nat) :
    entries (items ++ [item]) slotOf slot = if slot = 11 ∧ at' = 10 then
        secondBest (levelsOf items (fun t => slotOf t = some 10) ++ [item.proto.itemLevel])
      else if slot = 13 ∧ at' = 12 then
        secondBest (levelsOf items (fun t => slotOf t = some 12) ++ [item.proto.itemLevel])
      else if slot = at' ∧ slot ≠ 11 ∧ slot ≠ 13 then max (entries items slotOf slot) item.proto.itemLevel
      else entries items slotOf slot := by
  have hlevels (slot : Nat) : levelsOf (items ++ [item]) (fun t => slotOf t = some slot) =
      levelsOf items (fun t => slotOf t = some slot) ++ if slot = at' then [item.proto.itemLevel] else [] := by
    simp [levelsOf_append, hslot, eq_comm]
  rw [entries, entries, hlevels, hlevels, hlevels]
  by_cases h11 : slot = 11
  · by_cases h10 : at' = 10
    · simp [h11, h10]
    · simp [h11, h10, Ne.symm h10]
  · by_cases h13 : slot = 13
    · by_cases h12 : at' = 12
      · simp [h13, h12]
      · simp [h13, h12, Ne.symm h12]
    · by_cases hat : slot = at'
      · subst hat
        simp [h11, h13]
      · simp [h11, h13, hat]

theorem gearScoreSlot_ne {type slot : Nat} (h : gearScoreSlot type = some slot) : slot ≠ 11 ∧ slot ≠ 13 := by
  unfold gearScoreSlot at h
  split at h <;> cases h <;> decide

theorem raisePair_eq {table table' : Nat → Nat} {first second level twoHand : Nat} {levels : List Nat}
    (hfirst : table first = best levels) (hsecond : table second = secondBest levels)
    (hfirst' : table' first = max (best levels) level) (hsecond' : table' second = secondBest (levels ++ [level]))
    (hrest : ∀ slot, slot ≠ first → slot ≠ second → table' slot = table slot) :
    GearScore.raisePair ⟨table, twoHand⟩ first second level = ⟨table', twoHand⟩ := by
  rw [secondBest_append] at hsecond'
  simp only [GearScore.raisePair, hfirst, hsecond]
  split
  next hlt =>
    rw [if_pos hlt] at hsecond'
    congr 1
    funext slot
    by_cases hs : slot = first
    · rw [hs, update_self, hfirst', max_eq_right hlt.le]
    · rw [update_of_ne hs]
      by_cases ht : slot = second
      · rw [ht, update_self, hsecond']
      · rw [update_of_ne ht, hrest slot hs ht]
  next hle =>
    rw [if_neg hle] at hsecond'
    rw [max_eq_left (not_lt.mp hle)] at hfirst'
    split
    next hlt =>
      congr 1
      funext slot
      by_cases ht : slot = second
      · rw [ht, update_self, hsecond', max_eq_right hlt.le]
      · rw [update_of_ne ht]
        by_cases hs : slot = first
        · rw [hs, hfirst', hfirst]
        · rw [hrest slot hs ht]
    next hge =>
      congr 1
      funext slot
      by_cases ht : slot = second
      · rw [ht, hsecond', max_eq_left (not_lt.mp hge), hsecond]
      · by_cases hs : slot = first
        · rw [hs, hfirst', hfirst]
        · rw [hrest slot hs ht]

theorem fill_entries {canUseItem : ItemPrototype → InventoryResult} {item : Item} (huse : canUseItem item.proto = .ok) :
    fillGearScoreData canUseItem ⟨entries items gearScoreSlot, bestOf items [invTypeTwoHand]⟩ item =
      ⟨entries (items ++ [item]) gearScoreSlot, bestOf (items ++ [item]) [invTypeTwoHand]⟩ := by
  rw [fillGearScoreData, if_neg (not_not.mpr huse), bestOf_append]
  by_cases htwo : item.proto.inventoryType = invTypeTwoHand
  · rw [if_pos htwo, if_pos (List.mem_singleton.mpr htwo), entries_append_of_none (by rw [htwo]; rfl)]
  · rw [if_neg htwo, if_neg fun h => htwo (List.mem_singleton.mp h)]
    cases hslot : gearScoreSlot item.proto.inventoryType with
    | none => rw [entries_append_of_none hslot]
    | some slot =>
      obtain ⟨h11, h13⟩ := gearScoreSlot_ne hslot
      have hentries := @entries_append items gearScoreSlot item slot hslot
      dsimp only
      split
      next h10 =>
        subst h10
        apply @raisePair_eq _ _ 10 11 _ _ (levelsOf items fun t => gearScoreSlot t = some 10) rfl rfl
        · rw [hentries]
          rfl
        · rw [hentries]
          rfl
        · intro s h10 h11
          rw [hentries]
          simp [h10, h11]
      next h10 =>
        split
        next h12 =>
          subst h12
          apply @raisePair_eq _ _ 12 13 _ _ (levelsOf items fun t => gearScoreSlot t = some 12) rfl rfl
          · rw [hentries]
            rfl
          · rw [hentries]
            rfl
          · intro s h12 h13
            rw [hentries]
            simp [h12, h13]
        next h12 =>
          rw [GearScore.raise]
          congr 1
          funext s
          rw [hentries]
          by_cases hs : s = slot
          · subst hs
            simp [h11, h13]
          · rw [update_of_ne hs]
            simp [h10, h12, hs]

theorem foldl_fill (canUseItem : ItemPrototype → InventoryResult) (items : List Item) :
    items.foldl (fillGearScoreData canUseItem) ⟨fun _ => 0, 0⟩ =
      ⟨entries (usableItems canUseItem items) gearScoreSlot,
        bestOf (usableItems canUseItem items) [invTypeTwoHand]⟩ := by
  induction items using List.reverseRecOn with
  | nil =>
    rw [List.foldl_nil]
    congr 1
    funext slot
    simp [entries, usableItems, levelsOf, best, secondBest]
  | append_singleton items item ih =>
    rw [List.foldl_append, ih, List.foldl_cons, List.foldl_nil, usableItems, usableItems, List.filter_append,
      List.filter_singleton]
    by_cases huse : canUseItem item.proto = .ok
    · rw [fill_entries huse, decide_eq_true huse]
      rfl
    · rw [fillGearScoreData, if_pos huse, decide_eq_false huse, cond_false, List.append_nil]

theorem bestOf_types (items : List Item) (types types' : List Nat) :
    bestOf items (types ++ types') = max (bestOf items types) (bestOf items types') := by
  induction items using List.reverseRecOn with
  | nil => rfl
  | append_singleton items item ih =>
    rw [bestOf_append, bestOf_append, bestOf_append, ih]
    by_cases h : item.proto.inventoryType ∈ types
    · by_cases h' : item.proto.inventoryType ∈ types'
      · simp [h, h', max_comm, max_left_comm]
      · simp [h, h', max_comm, max_left_comm]
    · by_cases h' : item.proto.inventoryType ∈ types'
      · simp [h, h', max_assoc]
      · simp [h, h']

/-- The entry of a slot for which certain types are meant. -/
theorem entry_eq {slotOf : Nat → Option Nat} {slot : Nat} {types : List Nat} (h11 : slot ≠ 11) (h13 : slot ≠ 13)
    (hsmall : ∀ t < 29, slotOf t = some slot ↔ t ∈ types) (hlarge : ∀ k, slotOf (k + 29) = some slot ↔ k + 29 ∈ types) :
    entries items slotOf slot = bestOf items types := by
  have htypes (t : Nat) : slotOf t = some slot ↔ t ∈ types := by
    rcases Nat.lt_or_ge t 29 with hlt | hge
    · exact hsmall t hlt
    · obtain ⟨k, rfl⟩ := Nat.exists_eq_add_of_le' hge
      exact hlarge k
  simp only [entries, if_neg h11, if_neg h13, htypes, bestOf]

/-- The other slots have the same items in both tables. -/
theorem entries_same {slot : Nat} (h : slot ∉ [0, 4, 9, 16, 17, 18]) :
    entries items gearScoreSlot slot = entries items wornSlot slot := by
  have hsmall : ∀ t < 29, gearScoreSlot t = wornSlot t ∨ gearScoreSlot t ∈ [none, some 0, some 17] ∧
      wornSlot t ∈ [none, some 4, some 9, some 16, some 18] := by decide
  have hagree (slot : Nat) (h : slot ∉ [0, 4, 9, 16, 17, 18]) (t : Nat) :
      gearScoreSlot t = some slot ↔ wornSlot t = some slot := by
    rcases Nat.lt_or_ge t 29 with hlt | hge
    · rcases hsmall t hlt with heq | ⟨hgear, hworn⟩
      · rw [heq]
      · simp only [List.mem_cons, List.not_mem_nil, or_false, not_or] at h hgear hworn
        constructor
        · intro hslot
          simp [hslot, h] at hgear
        · intro hslot
          simp [hslot, h] at hworn
    · obtain ⟨k, rfl⟩ := Nat.exists_eq_add_of_le' hge
      exact Iff.rfl
  simp only [entries, hagree slot h, hagree 10 (by decide), hagree 12 (by decide)]

/-- Where nothing is held in a hand. -/
theorem entries_iff : (∀ slot, slot ≠ 15 → slot ≠ 16 → entries items gearScoreSlot slot = entries items wornSlot slot) ↔
    bestOf items [10] = 0 ∧ bestOf items [20] ≤ bestOf items [5] ∧ bestOf items [19] = 0 ∧
      bestOf items [27] ≤ bestOf items [15, 25, 26, 28] := by
  have hhead : entries items gearScoreSlot 0 = max (bestOf items [1]) (bestOf items [10]) := by
    rw [← bestOf_types]
    exact entry_eq (by decide) (by decide) (by decide) fun k => by simp [gearScoreSlot]
  have hheadWorn : entries items wornSlot 0 = bestOf items [1] :=
    entry_eq (by decide) (by decide) (by decide) fun k => by simp [wornSlot]
  have hempty (slot : Nat) (h : slot = 9 ∨ slot = 18) : entries items gearScoreSlot slot = 0 := by
    have hnone : bestOf items [] = 0 := by simp [bestOf, levelsOf, best]
    rw [← hnone]
    rcases h with rfl | rfl
    · exact entry_eq (by decide) (by decide) (by decide) fun k => by simp [gearScoreSlot]
    · exact entry_eq (by decide) (by decide) (by decide) fun k => by simp [gearScoreSlot]
  have hhands : entries items wornSlot 9 = bestOf items [10] :=
    entry_eq (by decide) (by decide) (by decide) fun k => by simp [wornSlot]
  have htabard : entries items wornSlot 18 = bestOf items [19] :=
    entry_eq (by decide) (by decide) (by decide) fun k => by simp [wornSlot]
  have hchest : entries items gearScoreSlot 4 = bestOf items [5] :=
    entry_eq (by decide) (by decide) (by decide) fun k => by simp [gearScoreSlot]
  have hchestWorn : entries items wornSlot 4 = max (bestOf items [5]) (bestOf items [20]) := by
    rw [← bestOf_types]
    exact entry_eq (by decide) (by decide) (by decide) fun k => by simp [wornSlot]
  have hranged : entries items gearScoreSlot 17 = max (bestOf items [15, 25, 26, 28]) (bestOf items [27]) := by
    rw [← bestOf_types]
    exact entry_eq (by decide) (by decide) (by decide) fun k => by simp [gearScoreSlot]
  have hrangedWorn : entries items wornSlot 17 = bestOf items [15, 25, 26, 28] :=
    entry_eq (by decide) (by decide) (by decide) fun k => by simp [wornSlot]
  constructor
  · intro h
    have h9 := h 9 (by decide) (by decide)
    have h4 := h 4 (by decide) (by decide)
    have h18 := h 18 (by decide) (by decide)
    have h17 := h 17 (by decide) (by decide)
    rw [hempty 9 (.inl rfl), hhands] at h9
    rw [hempty 18 (.inr rfl), htabard] at h18
    rw [hchest, hchestWorn] at h4
    rw [hranged, hrangedWorn] at h17
    exact ⟨h9.symm, max_eq_left_iff.mp h4.symm, h18.symm, max_eq_left_iff.mp h17⟩
  · rintro ⟨hgloves, hrobes, htabards, hquivers⟩ slot h15 h16
    by_cases hmem : slot ∈ [0, 4, 9, 16, 17, 18]
    · simp only [List.mem_cons, List.not_mem_nil, or_false] at hmem
      rcases hmem with rfl | rfl | rfl | rfl | rfl | rfl
      · rw [hhead, hheadWorn, hgloves, Nat.max_zero]
      · rw [hchest, hchestWorn, max_eq_left hrobes]
      · rw [hempty 9 (.inl rfl), hhands, hgloves]
      · exact absurd rfl h16
      · rw [hranged, hrangedWorn, max_eq_left hquivers]
      · rw [hempty 18 (.inr rfl), htabard, htabards]
    · exact entries_same hmem

theorem main_entry : entries items wornSlot 15 = bestOf items [13, 21] :=
  entry_eq (by decide) (by decide) (by decide) fun k => by simp [wornSlot]

theorem off_entry : entries items gearScoreSlot 16 = bestOf items [14, 22] :=
  entry_eq (by decide) (by decide) (by decide) fun k => by simp [gearScoreSlot]

theorem offWorn_entry : entries items wornSlot 16 = bestOf items [14, 22, 23] :=
  entry_eq (by decide) (by decide) (by decide) fun k => by simp [wornSlot]

/-- No sum of levels overflows. -/
theorem withTwoHand_entries (hlevels : ∀ item ∈ items, item.proto.itemLevel < 2 ^ 16) :
    GearScore.withTwoHand ⟨entries items gearScoreSlot, bestOf items [invTypeTwoHand]⟩ =
      if entries items wornSlot 15 + entries items gearScoreSlot 16 < bestOf items [invTypeTwoHand] * 2 then
        ⟨update (update (entries items gearScoreSlot) 16 0) 15 (bestOf items [invTypeTwoHand]), 16⟩
      else ⟨entries items gearScoreSlot, 17⟩ := by
  have hbound (types : List Nat) : bestOf items types < 2 ^ 16 := by
    by_cases hnil : levelsOf items (· ∈ types) = []
    · rw [bestOf, hnil]
      decide
    · obtain ⟨item, hitem, hlevel⟩ := List.mem_map.mp (best_mem hnil)
      exact lt_of_eq_of_lt hlevel.symm (hlevels item (List.mem_filter.mp hitem).1)
  have hmain := hbound [13, 21]
  have hoff := hbound [14, 22]
  have htwo := hbound [invTypeTwoHand]
  rw [← main_entry] at hmain
  rw [← off_entry] at hoff
  have hfifteen : entries items gearScoreSlot 15 = entries items wornSlot 15 := entries_same (by decide)
  have hsum : (entries items wornSlot 15 + entries items gearScoreSlot 16) % 2 ^ 32 =
      entries items wornSlot 15 + entries items gearScoreSlot 16 := Nat.mod_eq_of_lt (by omega)
  have htwice : bestOf items [invTypeTwoHand] * 2 % 2 ^ 32 = bestOf items [invTypeTwoHand] * 2 :=
    Nat.mod_eq_of_lt (by omega)
  simp only [GearScore.withTwoHand, hfifteen, hsum, htwice]
  rfl

theorem withTwoHand_eq_iff (hlevels : ∀ item ∈ items, item.proto.itemLevel < 2 ^ 16) :
    GearScore.withTwoHand ⟨entries items gearScoreSlot, bestOf items [invTypeTwoHand]⟩ = bestTable items ↔
      GearCounted items := by
  have hfifteen : entries items gearScoreSlot 15 = entries items wornSlot 15 := entries_same (by decide)
  have hoffMax : bestOf items [14, 22, 23] = max (bestOf items [14, 22]) (bestOf items [23]) :=
    bestOf_types items [14, 22] [23]
  have hoffLe : entries items gearScoreSlot 16 ≤ entries items wornSlot 16 := by
    rw [off_entry, offWorn_entry, hoffMax]
    exact le_max_left _ _
  rw [withTwoHand_entries hlevels, bestTable]
  by_cases hworn : entries items wornSlot 15 + entries items wornSlot 16 < bestOf items [invTypeTwoHand] * 2
  · -- a two-hand weapon outscores the off hand of both tables
    rw [if_pos hworn, if_pos (by omega)]
    constructor
    · intro h
      have hrest := entries_iff.mp fun slot h15 h16 => by
        have hslot := congrFun (congrArg GearTable.score h) slot
        dsimp only at hslot
        rwa [update_of_ne h15, update_of_ne h15, update_of_ne h16, update_of_ne h16] at hslot
      obtain ⟨hgloves, hrobes, htabards, hquivers⟩ := hrest
      rw [main_entry, offWorn_entry] at hworn
      exact ⟨hgloves, hrobes, htabards, hquivers, .inr hworn⟩
    · intro h
      have hrest := entries_iff.mpr ⟨h.gloves, h.robes, h.tabards, h.quivers⟩
      congr 2
      funext slot
      by_cases h16 : slot = 16
      · rw [h16, update_self, update_self]
      · rw [update_of_ne h16, update_of_ne h16]
        by_cases h15 : slot = 15
        · rw [h15, hfifteen]
        · exact hrest slot h15 h16
  · rw [if_neg hworn]
    constructor
    · intro h
      split at h
      next => exact absurd (congrArg GearTable.count h) (by simp)
      next =>
        have hscore := congrArg GearTable.score h
        obtain ⟨hgloves, hrobes, htabards, hquivers⟩ := entries_iff.mp fun slot _ _ => congrFun hscore slot
        have hsixteen := congrFun hscore 16
        dsimp only at hsixteen
        rw [off_entry, offWorn_entry, hoffMax] at hsixteen
        exact ⟨hgloves, hrobes, htabards, hquivers, .inl (max_eq_left_iff.mp hsixteen.symm)⟩
    · intro h
      have hrest := entries_iff.mpr ⟨h.gloves, h.robes, h.tabards, h.quivers⟩
      have hsixteen : entries items gearScoreSlot 16 = entries items wornSlot 16 := by
        rcases h.holdables with hle | hlt
        · rw [off_entry, offWorn_entry, hoffMax, max_eq_left hle]
        · rw [← main_entry, ← offWorn_entry] at hlt
          exact absurd hlt hworn
      have hall : entries items gearScoreSlot = entries items wornSlot := by
        funext slot
        by_cases h16 : slot = 16
        · rw [h16, hsixteen]
        · by_cases h15 : slot = 15
          · rw [h15, hfifteen]
          · exact hrest slot h15 h16
      rw [hsixteen, if_neg hworn, hall]

end Levels

/-- The score is the average of the table of the best items exactly when no item is counted for another slot, or
left out where it is the best. -/
theorem gearScore_best_iff (canUseItem : ItemPrototype → InventoryResult) (inv : Inventory) (withBags withBank : Bool)
    (hlevels : ∀ item ∈ gearItems inv withBags withBank, item.proto.itemLevel < 2 ^ 16) :
    (getEquipGearScore canUseItem inv withBags withBank 0).1 =
        (gearTable canUseItem (gearItems inv withBags withBank)).average ∧
      (gearTable canUseItem (gearItems inv withBags withBank) =
          bestTable (usableItems canUseItem (gearItems inv withBags withBank)) ↔
        GearCounted (usableItems canUseItem (gearItems inv withBags withBank))) := by
  constructor
  · simp [getEquipGearScore]
  · rw [gearTable, foldl_fill]
    exact withTwoHand_eq_iff fun item hitem => hlevels item (List.mem_filter.mp hitem).1

private def gloves : ItemPrototype :=
  { ItemPrototype.trinket 1 with inventoryType := 10, itemLevel := 359 }

private def gloved : Inventory :=
  ⟨fun pos => if pos = ⟨inventorySlotBag0, 9⟩ then some { guid := 1, proto := gloves, count := 1, ownerGuid := 7 } else none⟩

theorem gearScore_best_gloved : (getEquipGearScore (fun _ => .ok) gloved false false 0).1 =
        (gearTable (fun _ => .ok) (gearItems gloved false false)).average ∧
      (gearTable (fun _ => .ok) (gearItems gloved false false) =
          bestTable (usableItems (fun _ => .ok) (gearItems gloved false false)) ↔
        GearCounted (usableItems (fun _ => .ok) (gearItems gloved false false))) :=
  gearScore_best_iff _ gloved false false (by decide)

/-- The gloves count for the head, and the hands count nothing. -/
theorem gloves_countedForHead : gearTable (fun _ => .ok) (gearItems gloved false false) ≠
    bestTable (usableItems (fun _ => .ok) (gearItems gloved false false)) := by
  intro h
  have hhead := congrFun (congrArg GearTable.score h) 0
  exact absurd hhead (by decide)

end Mangos
