import Mathlib.Order.Defs.Unbundled

/-!
# Sorting by several columns

Comparators that are tried one after the other, each of them forwards or backwards.
-/

namespace Framework

open Std

variable {α : Type}

theorem isStrictWeakOrder_of_transCmp (cmp : α → α → Ordering) [TransCmp cmp] :
    IsStrictWeakOrder α (cmp · · = .lt) where
  irrefl a h := by
    have hself : cmp a a = .eq := ReflCmp.compare_self
    rw [hself] at h
    cases h
  trans _ _ _ hab hbc := TransCmp.lt_trans hab hbc
  incomp_trans a b c hab hbc := by
    have heq : ∀ x y, ¬ cmp x y = .lt ∧ ¬ cmp y x = .lt → cmp x y = .eq := by
      intro x y h
      cases hxy : cmp x y with
      | lt => exact absurd hxy h.1
      | eq => rfl
      | gt => exact absurd (OrientedCmp.lt_of_gt hxy) h.2
    have hac := TransCmp.eq_trans (heq a b hab) (heq b c hbc)
    have hca := OrientedCmp.eq_symm hac
    simp [hac, hca]

theorem transCmp_on {β : Type} (cmp : β → β → Ordering) [TransCmp cmp] (f : α → β) :
    TransCmp fun a b => cmp (f a) (f b) where
  eq_swap := OrientedCmp.eq_swap
  isLE_trans hab hbc := TransCmp.isLE_trans hab hbc

def directed (cmp : α → α → Ordering) (reversed : Bool) (a b : α) : Ordering :=
  if reversed then cmp b a else cmp a b

instance transCmp_directed (cmp : α → α → Ordering) [TransCmp cmp] (reversed : Bool) :
    TransCmp (directed cmp reversed) := by
  cases reversed with
  | false => exact inferInstanceAs (TransCmp cmp)
  | true => exact inferInstanceAs (TransCmp fun a b => cmp b a)

def columnsCmp : List (α → α → Ordering) → α → α → Ordering
  | [] => fun _ _ => .eq
  | cmp :: cmps => compareLex cmp (columnsCmp cmps)

theorem transCmp_const : TransCmp fun _ _ : α => Ordering.eq where
  eq_swap := rfl
  isLE_trans _ _ := rfl

theorem transCmp_columnsCmp {cmps : List (α → α → Ordering)} (h : ∀ cmp ∈ cmps, TransCmp cmp) :
    TransCmp (columnsCmp cmps) := by
  induction cmps with
  | nil => exact transCmp_const
  | cons cmp cmps ih =>
    have hcmp := h cmp List.mem_cons_self
    have hcmps := ih fun cmp hmem => h cmp (List.mem_cons_of_mem _ hmem)
    exact inferInstanceAs (TransCmp (compareLex cmp (columnsCmp cmps)))

end Framework
