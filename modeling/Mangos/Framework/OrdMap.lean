import Mathlib.Data.List.Basic
import Mathlib.Order.Basic

/-!
# Ordered maps

Additions to the ordered maps of the standard library: access that inserts what is missing, the entries
with the lowest and the highest key, and lookups with keys compared by equality.
-/

namespace Framework

open Std

variable {κ β : Type*} [Ord κ] [TransOrd κ] [LawfulEqOrd κ]

/-- The value under a key is changed, after `new` was inserted there if the key was missing. -/
def upsert (m : ExtTreeMap κ β) (k : κ) (new : β) (change : β → β) : ExtTreeMap κ β :=
  m.insert k (change (m[k]?.getD new))

def first? (m : ExtTreeMap κ β) : Option (κ × β) := m.toList.head?

def last? (m : ExtTreeMap κ β) : Option (κ × β) := m.toList.getLast?

section Lookup

variable [DecidableEq κ] {m : ExtTreeMap κ β} {k a : κ} {v : β}

@[simp] theorem lookup_insert : (m.insert k v)[a]? = if k = a then some v else m[a]? := by
  simp [ExtTreeMap.getElem?_insert]

@[simp] theorem lookup_erase : (m.erase k)[a]? = if k = a then none else m[a]? := by
  simp [ExtTreeMap.getElem?_erase]

@[simp] theorem lookup_upsert {new : β} {change : β → β} :
    (upsert m k new change)[a]? = if k = a then some (change (m[k]?.getD new)) else m[a]? := by
  simp [upsert]

@[simp] theorem lookup_modify {change : β → β} :
    (m.modify k change)[a]? = if k = a then m[a]?.map change else m[a]? := by
  rw [ExtTreeMap.getElem?_modify]
  by_cases h : k = a
  · simp [h]
  · simp [h]

end Lookup

variable {m : ExtTreeMap κ β} {k : κ} {v : β}

theorem lookup_of_first? {p : κ × β} (h : first? m = some p) : m[p.1]? = some p.2 := by
  have hmem : p ∈ m.toList := List.mem_of_mem_head? (by rw [← first?, h]; rfl)
  exact ExtTreeMap.mem_toList_iff_getElem?_eq_some.mp hmem

theorem upsert_id [DecidableEq κ] {new : β} (h : m[k]? = some v) : upsert m k new id = m := by
  apply ExtTreeMap.ext_getElem?
  intro a
  rw [lookup_upsert]
  by_cases hk : k = a
  · subst hk
    simp [h]
  · simp [hk]

theorem lookup_of_last? {p : κ × β} (h : last? m = some p) : m[p.1]? = some p.2 :=
  ExtTreeMap.mem_toList_iff_getElem?_eq_some.mp (List.mem_of_getLast? h)

theorem last?_eq_some_iff : last? m = some (k, v) ↔ m[k]? = some v ∧ ∀ a w, m[a]? = some w → (compare a k).isLE := by
  have hle : ∀ p, last? m = some p → ∀ a w, m[a]? = some w → (compare a p.1).isLE := by
    intro p hp a w ha
    obtain ⟨l, hl⟩ := List.getLast?_eq_some_iff.mp hp
    have hmem : (a, w) ∈ l ++ [p] := by
      rw [← hl]
      exact ExtTreeMap.mem_toList_iff_getElem?_eq_some.mpr ha
    have hsorted := @ExtTreeMap.ordered_keys_toList κ β compare m _
    rw [hl, List.pairwise_append] at hsorted
    rcases List.mem_append.mp hmem with hin | heq
    · have hlt := hsorted.2.2 (a, w) hin p (List.mem_singleton_self p)
      simp [hlt]
    · rw [← List.mem_singleton.mp heq]
      simp
  constructor
  · exact fun h => ⟨lookup_of_last? h, hle (k, v) h⟩
  · rintro ⟨hk, hmax⟩
    cases hlast : last? m with
    | none =>
      rw [last?, List.getLast?_eq_none_iff, ExtTreeMap.toList_eq_nil_iff] at hlast
      rw [hlast] at hk
      simp at hk
    | some p =>
      have hp := lookup_of_last? hlast
      have heq : k = p.1 :=
        LawfulEqOrd.eq_of_compare
          (OrientedCmp.isLE_antisymm (hle p hlast k v hk) (hmax p.1 p.2 hp))
      rw [heq, hp] at hk
      cases hk
      rw [heq]

theorem last?_insert_self [DecidableEq κ] {w : β} (h : last? m = some (k, v)) : last? (m.insert k w) = some (k, w) := by
  obtain ⟨-, hmax⟩ := last?_eq_some_iff.mp h
  refine last?_eq_some_iff.mpr ⟨by simp, fun a u ha => ?_⟩
  rw [lookup_insert] at ha
  split at ha
  next heq =>
    rw [heq]
    simp
  next => exact hmax a u ha

theorem last?_insert_of_ne [DecidableEq κ] {q : κ} {u w : β} (h : last? m = some (k, v))
    (hq : m[q]? = some u) (hne : q ≠ k) : last? (m.insert q w) = some (k, v) := by
  obtain ⟨hk, hmax⟩ := last?_eq_some_iff.mp h
  refine last?_eq_some_iff.mpr ⟨by rw [lookup_insert, if_neg hne, hk], fun a t ha => ?_⟩
  rw [lookup_insert] at ha
  split at ha
  next heq =>
    rw [← heq]
    exact hmax q u hq
  next => exact hmax a t ha

end Framework
