import Mathlib.Data.List.Count
import Mathlib.Logic.Function.Basic

/-!
# Lists side by side

A family of lists in which an element is to occur once, in one of the lists.
-/

namespace Framework

open Function

variable {ι α : Type*} [DecidableEq ι] [DecidableEq α] {shelves shelves' : ι → List α} {a b : α}
  {i j : ι}

/-- `a` occurs once in all, in the list `i`. -/
def OnceAt (shelves : ι → List α) (a : α) (i : ι) : Prop :=
  ∀ j, (shelves j).count a = if j = i then 1 else 0

theorem OnceAt.mem (h : OnceAt shelves a i) : a ∈ shelves i := by
  apply List.count_pos_iff.mp
  rw [h i, if_pos rfl]
  exact Nat.one_pos

theorem OnceAt.eq_of_mem (h : OnceAt shelves a i) (hj : a ∈ shelves j) : j = i := by
  by_contra hne
  have hpos := List.count_pos_iff.mpr hj
  rw [h j, if_neg hne] at hpos
  exact Nat.lt_irrefl 0 hpos

theorem OnceAt.congr (h : OnceAt shelves a i)
    (hcount : ∀ j, (shelves' j).count a = (shelves j).count a) : OnceAt shelves' a i := by
  intro j
  rw [hcount j, h j]

theorem count_cons_shelf (hne : b ≠ a) (j : ι) :
    (update shelves i (b :: shelves i) j).count a = (shelves j).count a := by
  by_cases hj : j = i
  · subst hj
    rw [update_self, List.count_cons_of_ne hne]
  · rw [update_of_ne hj]

theorem count_concat_shelf (hne : b ≠ a) (j : ι) :
    (update shelves i (shelves i ++ [b]) j).count a = (shelves j).count a := by
  by_cases hj : j = i
  · subst hj
    rw [update_self, List.count_append, List.count_singleton, if_neg (by simpa using hne)]
    rfl
  · rw [update_of_ne hj]

theorem count_erase_shelf (hne : b ≠ a) (j : ι) :
    (update shelves i ((shelves i).erase b) j).count a = (shelves j).count a := by
  by_cases hj : j = i
  · subst hj
    rw [update_self, List.count_erase_of_ne hne.symm]
  · rw [update_of_ne hj]

theorem onceAt_concat (hnew : ∀ j, a ∉ shelves j) : OnceAt (update shelves i (shelves i ++ [a])) a i := by
  intro j
  by_cases hj : j = i
  · subst hj
    rw [update_self, List.count_append, List.count_eq_zero.mpr (hnew j), if_pos rfl]
    simp
  · rw [update_of_ne hj, List.count_eq_zero.mpr (hnew j), if_neg hj]

theorem OnceAt.not_mem_erase (h : OnceAt shelves a i) (j : ι) : a ∉ update shelves i ((shelves i).erase a) j := by
  apply List.count_eq_zero.mp
  by_cases hj : j = i
  · subst hj
    rw [update_self, List.count_erase_self, h j, if_pos rfl]
  · rw [update_of_ne hj, h j, if_neg hj]

def move (shelves : ι → List α) (i j : ι) (a : α) : ι → List α :=
  let pushed := update shelves j (a :: shelves j)
  update pushed i ((pushed i).erase a)

theorem OnceAt.move (h : OnceAt shelves a i) (hne : i ≠ j) : OnceAt (move shelves i j a) a j := by
  intro k
  by_cases hki : k = i
  · subst hki
    rw [Framework.move, update_self, update_of_ne hne, List.count_erase_self, h k, if_pos rfl, if_neg hne]
  · rw [Framework.move, update_of_ne hki]
    by_cases hkj : k = j
    · subst hkj
      rw [update_self, List.count_cons_self, h k, if_neg hki, if_pos rfl]
    · rw [update_of_ne hkj, h k, if_neg hki, if_neg hkj]

theorem count_move (hne : b ≠ a) (k : ι) : (move shelves i j b k).count a = (shelves k).count a := by
  rw [move, count_erase_shelf hne, count_cons_shelf hne]

end Framework
