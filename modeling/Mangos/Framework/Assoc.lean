import Mathlib.Algebra.BigOperators.Group.List.Basic
import Mathlib.Data.List.Basic
import Mathlib.Algebra.GroupWithZero.Nat

/-!
# Keyed lists

A list of keyed values in which the first value under a key counts.
-/

namespace Framework

/-- A reordering of lists, for orders that are not specified. -/
structure Shuffle (α : Type*) where
  apply : List α → List α
  perm : ∀ l, (apply l).Perm l

def Shuffle.id (α : Type*) : Shuffle α := ⟨fun l => l, fun _ => .refl _⟩

theorem Shuffle.mem {α : Type*} (s : Shuffle α) {l : List α} {a : α} : a ∈ s.apply l ↔ a ∈ l :=
  (s.perm l).mem_iff

variable {κ β : Type*} [DecidableEq κ]

def lookupKey (k : κ) : List (κ × β) → Option β
  | [] => none
  | p :: ps => if p.1 = k then some p.2 else lookupKey k ps

def modifyKey (k : κ) (f : β → β) : List (κ × β) → List (κ × β)
  | [] => []
  | p :: ps => if p.1 = k then (p.1, f p.2) :: ps else p :: modifyKey k f ps

def eraseKey (k : κ) : List (κ × β) → List (κ × β)
  | [] => []
  | p :: ps => if p.1 = k then ps else p :: eraseKey k ps

variable {k : κ} {v : β} {f : β → β} {l : List (κ × β)}

theorem lookupKey_mem (h : lookupKey k l = some v) : (k, v) ∈ l := by
  induction l with
  | nil => cases h
  | cons p ps ih =>
    rw [lookupKey] at h
    split at h
    next hk =>
      cases h
      rw [← hk]
      exact List.mem_cons_self
    next => exact List.mem_cons_of_mem p (ih h)

theorem lookupKey_isSome_iff : (lookupKey k l).isSome ↔ k ∈ l.map (·.1) := by
  induction l with
  | nil => simp [lookupKey]
  | cons p ps ih =>
    rw [lookupKey, List.map_cons, List.mem_cons]
    by_cases hk : p.1 = k
    · simp [hk]
    · simp [hk, Ne.symm hk, ih]

theorem lookupKey_of_mem {p : κ × β} (hnodup : (l.map (·.1)).Nodup) (hp : p ∈ l) : lookupKey p.1 l = some p.2 := by
  induction l with
  | nil => cases hp
  | cons q l ih =>
    rw [List.map_cons, List.nodup_cons] at hnodup
    rcases List.mem_cons.mp hp with rfl | hin
    · rw [lookupKey, if_pos rfl]
    · have hne : q.1 ≠ p.1 := by
        intro heq
        exact hnodup.1 (heq ▸ List.mem_map_of_mem hin)
      rw [lookupKey, if_neg hne]
      exact ih hnodup.2 hin

theorem mem_modifyKey {p : κ × β} (h : p ∈ modifyKey k f l) : p ∈ l ∨ p.1 = k ∧ ∃ v, (k, v) ∈ l ∧ p.2 = f v := by
  induction l with
  | nil => cases h
  | cons q qs ih =>
    rw [modifyKey] at h
    split at h
    next hk =>
      rcases List.mem_cons.mp h with rfl | h
      · refine .inr ⟨hk, q.2, ?_, rfl⟩
        rw [← hk]
        exact List.mem_cons_self
      · exact .inl (List.mem_cons_of_mem q h)
    next =>
      rcases List.mem_cons.mp h with rfl | h
      · exact .inl List.mem_cons_self
      · rcases ih h with hold | ⟨hk, v, hv, hp⟩
        · exact .inl (List.mem_cons_of_mem q hold)
        · exact .inr ⟨hk, v, List.mem_cons_of_mem q hv, hp⟩

theorem mem_modifyKey_of_nodup {p : κ × β} (hnodup : (l.map (·.1)).Nodup) (h : p ∈ modifyKey k f l) :
    (p ∈ l ∧ p.1 ≠ k) ∨ p.1 = k ∧ ∃ v, (k, v) ∈ l ∧ p.2 = f v := by
  induction l with
  | nil => cases h
  | cons q qs ih =>
    rw [List.map_cons, List.nodup_cons] at hnodup
    rw [modifyKey] at h
    split at h
    next hk =>
      rcases List.mem_cons.mp h with rfl | h
      · refine .inr ⟨hk, q.2, ?_, rfl⟩
        rw [← hk]
        exact List.mem_cons_self
      · refine .inl ⟨List.mem_cons_of_mem q h, fun hpk => hnodup.1 ?_⟩
        rw [hk, ← hpk]
        exact List.mem_map_of_mem h
    next hk =>
      rcases List.mem_cons.mp h with rfl | h
      · exact .inl ⟨List.mem_cons_self, hk⟩
      · rcases ih hnodup.2 h with ⟨hold, hne⟩ | ⟨hpk, v, hv, hp⟩
        · exact .inl ⟨List.mem_cons_of_mem q hold, hne⟩
        · exact .inr ⟨hpk, v, List.mem_cons_of_mem q hv, hp⟩

theorem mem_eraseKey_of_nodup {p : κ × β} (hnodup : (l.map (·.1)).Nodup) (h : p ∈ eraseKey k l) : p ∈ l ∧ p.1 ≠ k := by
  induction l with
  | nil => cases h
  | cons q qs ih =>
    rw [List.map_cons, List.nodup_cons] at hnodup
    rw [eraseKey] at h
    split at h
    next hk =>
      refine ⟨List.mem_cons_of_mem q h, fun hpk => hnodup.1 ?_⟩
      rw [hk, ← hpk]
      exact List.mem_map_of_mem h
    next hk =>
      rcases List.mem_cons.mp h with rfl | h
      · exact ⟨List.mem_cons_self, hk⟩
      · obtain ⟨hold, hne⟩ := ih hnodup.2 h
        exact ⟨List.mem_cons_of_mem q hold, hne⟩

theorem mem_eraseKey_of_ne {p : κ × β} (hp : p ∈ l) (hne : p.1 ≠ k) : p ∈ eraseKey k l := by
  induction l with
  | nil => cases hp
  | cons q qs ih =>
    rw [eraseKey]
    split
    next hk =>
      rcases List.mem_cons.mp hp with rfl | hp
      · exact absurd hk hne
      · exact hp
    next =>
      rcases List.mem_cons.mp hp with rfl | hp
      · exact List.mem_cons_self
      · exact List.mem_cons_of_mem q (ih hp)

theorem eraseKey_of_lookupKey_eq_none (h : lookupKey k l = none) : eraseKey k l = l := by
  induction l with
  | nil => rfl
  | cons q qs ih =>
    rw [lookupKey] at h
    split at h
    next => cases h
    next hk => rw [eraseKey, if_neg hk, ih h]

theorem mem_keys_eraseKey {k' : κ} (h : k' ∈ l.map (·.1)) (hne : k' ≠ k) : k' ∈ (eraseKey k l).map (·.1) := by
  obtain ⟨p, hp, rfl⟩ := List.mem_map.mp h
  exact List.mem_map_of_mem (mem_eraseKey_of_ne hp hne)

theorem lookupKey_map {γ : Type*} (g : β → γ) (l : List (κ × β)) :
    lookupKey k (l.map fun p => (p.1, g p.2)) = (lookupKey k l).map g := by
  induction l with
  | nil => rfl
  | cons p ps ih =>
    rw [List.map_cons, lookupKey, lookupKey]
    split
    · rfl
    · exact ih

theorem lookupKey_modifyKey_self : lookupKey k (modifyKey k f l) = (lookupKey k l).map f := by
  induction l with
  | nil => rfl
  | cons p ps ih =>
    rw [modifyKey, lookupKey]
    by_cases hk : p.1 = k
    · simp [hk, lookupKey]
    · simp [hk, lookupKey, ih]

theorem lookupKey_modifyKey_of_ne {k' : κ} (hne : k' ≠ k) : lookupKey k' (modifyKey k f l) = lookupKey k' l := by
  induction l with
  | nil => rfl
  | cons p ps ih =>
    rw [modifyKey]
    by_cases hk : p.1 = k
    · have hk' : p.1 ≠ k' := fun heq => hne (heq.symm.trans hk)
      simp [hk, lookupKey, Ne.symm hne]
    · simp [hk, lookupKey, ih]

theorem eraseKey_sublist : (eraseKey k l).Sublist l := by
  induction l with
  | nil => exact List.Sublist.refl _
  | cons p ps ih =>
    rw [eraseKey]
    split
    · exact List.sublist_cons_self p ps
    · exact ih.cons_cons p

theorem keys_modifyKey : (modifyKey k f l).map (·.1) = l.map (·.1) := by
  induction l with
  | nil => rfl
  | cons p ps ih =>
    rw [modifyKey]
    split
    · rfl
    · rw [List.map_cons, List.map_cons, ih]

theorem modifyKey_eq_map (hnodup : (l.map (·.1)).Nodup) :
    modifyKey k f l = l.map fun p => (p.1, if p.1 = k then f p.2 else p.2) := by
  induction l with
  | nil => rfl
  | cons q qs ih =>
    rw [List.map_cons, List.nodup_cons] at hnodup
    rw [modifyKey, List.map_cons]
    split
    next hk =>
      congr 1
      refine ((List.map_congr_left fun p hp => ?_).trans (List.map_id qs)).symm
      have hne : p.1 ≠ k := fun heq => hnodup.1 (hk ▸ heq ▸ List.mem_map_of_mem hp)
      rw [if_neg hne]
      rfl
    next => rw [ih hnodup.2]

theorem length_modifyKey : (modifyKey k f l).length = l.length := by
  have h := congrArg List.length (@keys_modifyKey κ β _ k f l)
  rwa [List.length_map, List.length_map] at h

theorem sum_modifyKey (w : β → Nat) (h : lookupKey k l = some v) :
    ((modifyKey k f l).map fun p => w p.2).sum + w v = (l.map fun p => w p.2).sum + w (f v) := by
  induction l with
  | nil => cases h
  | cons p ps ih =>
    rw [lookupKey] at h
    rw [modifyKey]
    split at h
    next hk =>
      cases h
      simp only [hk, if_true, List.map_cons, List.sum_cons]
      omega
    next hk =>
      have hrest := ih h
      simp only [hk, if_false, List.map_cons, List.sum_cons]
      omega

theorem sum_eraseKey (w : β → Nat) (h : lookupKey k l = some v) :
    ((eraseKey k l).map fun p => w p.2).sum + w v = (l.map fun p => w p.2).sum := by
  induction l with
  | nil => cases h
  | cons p ps ih =>
    rw [lookupKey] at h
    rw [eraseKey]
    split at h
    next hk =>
      cases h
      simp only [hk, if_true, List.map_cons, List.sum_cons]
      omega
    next hk =>
      have hrest := ih h
      simp only [hk, if_false, List.map_cons, List.sum_cons]
      omega

omit [DecidableEq κ] in
theorem countP_eq_sum {α : Type*} (P : α → Bool) (l : List α) :
    l.countP P = (l.map fun a => if P a then 1 else 0).sum := by
  induction l with
  | nil => rfl
  | cons a l ih =>
    rw [List.countP_cons, List.map_cons, List.sum_cons, ih]
    omega

end Framework
