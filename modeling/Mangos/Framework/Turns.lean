import Mathlib.Data.List.Basic
import Mathlib.Order.Nat

/-!
# Taking turns

A list is searched from some place on and, if nothing is found there, from its beginning up to that place.
-/

namespace Framework

variable {α : Type*}

/-- The search from place `start` on and then from the beginning. -/
def findInTurn (p : α → Bool) (start : Nat) (l : List α) : Option α :=
  (l.drop start).find? p <|> (l.take start).find? p

/-- How many of `n` places are looked at before place `i` when the search begins at `start`. -/
def turn (n start i : Nat) : Nat := if start ≤ i then i - start else i + n - start

theorem find?_eq_some_getElem? {p : α → Bool} {l : List α} {a : α} (h : l.find? p = some a) :
    ∃ i : Nat, l[i]? = some a ∧ ∀ (j : Nat) (b : α), l[j]? = some b → p b = true → i ≤ j := by
  obtain ⟨-, before, after, rfl, hbefore⟩ := List.find?_eq_some_iff_append.mp h
  refine ⟨before.length, by simp, fun j b hb hp => ?_⟩
  by_contra hlt
  rw [List.getElem?_append_left (by omega)] at hb
  have hnot := hbefore b (List.mem_of_getElem? hb)
  rw [hp] at hnot
  cases hnot

theorem findInTurn_eq_none_iff {p : α → Bool} {start : Nat} {l : List α} :
    findInTurn p start l = none ↔ ∀ a ∈ l, p a = false := by
  simp only [findInTurn, Option.orElse_eq_orElse, Option.orElse_eq_or, Option.or_eq_none_iff,
    List.find?_eq_none, Bool.not_eq_true]
  constructor
  · intro h a ha
    rw [← List.take_append_drop start l] at ha
    rcases List.mem_append.mp ha with htake | hdrop
    · exact h.2 a htake
    · exact h.1 a hdrop
  · exact fun h => ⟨fun a ha => h a (List.mem_of_mem_drop ha), fun a ha => h a (List.mem_of_mem_take ha)⟩

theorem findInTurn_first {p : α → Bool} {start : Nat} {l : List α} {a : α} (hstart : start ≤ l.length)
    (h : findInTurn p start l = some a) : p a = true ∧ ∃ i : Nat, l[i]? = some a ∧
      ∀ (j : Nat) (b : α), l[j]? = some b → p b = true → turn l.length start i ≤ turn l.length start j := by
  unfold findInTurn at h
  cases hdrop : (l.drop start).find? p with
  | some b =>
    obtain rfl : b = a := by simpa [hdrop] using h
    refine ⟨List.find?_some hdrop, ?_⟩
    obtain ⟨i, hi, hfirst⟩ := find?_eq_some_getElem? hdrop
    rw [List.getElem?_drop] at hi
    refine ⟨start + i, hi, fun j c hc hp => ?_⟩
    have hlt : start + i < l.length := (List.getElem?_eq_some_iff.mp hi).1
    by_cases hj : start ≤ j
    · have hle := hfirst (j - start) c (by rw [List.getElem?_drop]; rwa [Nat.add_sub_cancel' hj]) hp
      simp only [turn, Nat.le_add_right, if_true, hj]
      omega
    · simp only [turn, Nat.le_add_right, if_true, hj, if_false]
      omega
  | none =>
    have htake : (l.take start).find? p = some a := by simpa [hdrop] using h
    refine ⟨List.find?_some htake, ?_⟩
    obtain ⟨i, hi, hfirst⟩ := find?_eq_some_getElem? htake
    have hlt : i < start := by
      have hlen := (List.getElem?_eq_some_iff.mp hi).1
      rw [List.length_take] at hlen
      omega
    rw [List.getElem?_take_of_lt hlt] at hi
    refine ⟨i, hi, fun j b hb hp => ?_⟩
    have hj : j < start := by
      by_contra hge
      have hmem : b ∈ l.drop start := by
        apply List.mem_of_getElem? (i := j - start)
        rw [List.getElem?_drop, Nat.add_sub_cancel' (by omega)]
        exact hb
      exact (List.find?_eq_none.mp hdrop b hmem) hp
    have hle := hfirst j b (by rw [List.getElem?_take_of_lt hj]; exact hb) hp
    simp only [turn, Nat.not_le.mpr hlt, Nat.not_le.mpr hj, if_false]
    omega

end Framework
