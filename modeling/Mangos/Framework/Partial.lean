import Mathlib.Data.Fintype.Card
import Mathlib.Data.List.Basic
import Mathlib.Data.Set.Finite.Basic
import Mathlib.Logic.Relation

/-!
# Functions that may not return

A function that needs more nested calls than it was given returns nothing.
-/

namespace Framework

variable {σ α : Type*}

/-- `f`, so many times. -/
def repeatM (f : σ → Option σ) : Nat → σ → Option σ
  | 0, s => some s
  | n + 1, s => (f s).bind (repeatM f n)

/-- What `f` returns `g` returns too. -/
def Approx (f g : σ → Option σ) : Prop := ∀ s s', f s = some s' → g s = some s'

def Returns (f : σ → Option σ) : Prop := ∀ s, ∃ s', f s = some s'

def Hangs (f : σ → Option σ) : Prop := ∀ s, f s = none

theorem Approx.refl (f : σ → Option σ) : Approx f f := fun _ _ h => h

theorem Approx.returns {f g : σ → Option σ} (h : Approx f g) (hf : Returns f) : Returns g := by
  intro s
  obtain ⟨s', hs'⟩ := hf s
  exact ⟨s', h s s' hs'⟩

theorem Approx.bind {f f' g g' : σ → Option σ} (hf : Approx f f') (hg : Approx g g') :
    Approx (fun s => (f s).bind g) (fun s => (f' s).bind g') := by
  intro s s' h
  obtain ⟨t, ht, hrest⟩ := Option.bind_eq_some_iff.mp h
  exact Option.bind_eq_some_iff.mpr ⟨t, hf s t ht, hg t s' hrest⟩

theorem Returns.bind {f g : σ → Option σ} (hf : Returns f) (hg : Returns g) : Returns fun s => (f s).bind g := by
  intro s
  obtain ⟨t, ht⟩ := hf s
  obtain ⟨s', hs'⟩ := hg t
  exact ⟨s', Option.bind_eq_some_iff.mpr ⟨t, ht, hs'⟩⟩

theorem Approx.repeatM {f g : σ → Option σ} (h : Approx f g) (n : Nat) : Approx (repeatM f n) (repeatM g n) := by
  induction n with
  | zero => exact .refl _
  | succ n ih => exact h.bind ih

theorem Returns.repeatM {f : σ → Option σ} (h : Returns f) (n : Nat) : Returns (repeatM f n) := by
  induction n with
  | zero => exact fun s => ⟨s, rfl⟩
  | succ n ih => exact h.bind ih

theorem Hangs.repeatM {f : σ → Option σ} (h : Hangs f) {n : Nat} (hn : 0 < n) : Hangs (repeatM f n) := by
  intro s
  cases n with
  | zero => exact absurd hn (Nat.lt_irrefl 0)
  | succ n => rw [Framework.repeatM, h s, Option.bind_none]

theorem foldlM_cons_eq (f : σ → α → Option σ) (a : α) (l : List α) :
    (fun s => (a :: l).foldlM f s) = fun s => (f s a).bind fun s => l.foldlM f s :=
  funext fun _ => List.foldlM_cons

theorem approx_foldlM {f g : σ → α → Option σ} {l : List α} (h : ∀ a ∈ l, Approx (fun s => f s a) (fun s => g s a)) :
    Approx (fun s => l.foldlM f s) (fun s => l.foldlM g s) := by
  induction l with
  | nil => exact .refl _
  | cons a l ih =>
    rw [foldlM_cons_eq, foldlM_cons_eq]
    exact (h a List.mem_cons_self).bind (ih fun b hb => h b (List.mem_cons_of_mem a hb))

theorem returns_foldlM {f : σ → α → Option σ} {l : List α} (h : ∀ a ∈ l, Returns fun s => f s a) :
    Returns fun s => l.foldlM f s := by
  induction l with
  | nil => exact fun s => ⟨s, rfl⟩
  | cons a l ih =>
    rw [foldlM_cons_eq]
    exact (h a List.mem_cons_self).bind (ih fun b hb => h b (List.mem_cons_of_mem a hb))

theorem exists_common {P : α → Nat → Prop} {l : List α} (hmono : ∀ a n n', n ≤ n' → P a n → P a n')
    (h : ∀ a ∈ l, ∃ n, P a n) : ∃ n, ∀ a ∈ l, P a n := by
  induction l with
  | nil => exact ⟨0, fun a ha => (by cases ha)⟩
  | cons b l ih =>
    obtain ⟨n, hn⟩ := h b List.mem_cons_self
    obtain ⟨n', hn'⟩ := ih fun a ha => h a (List.mem_cons_of_mem b ha)
    refine ⟨max n n', fun a ha => ?_⟩
    rcases List.mem_cons.mp ha with rfl | ha
    · exact hmono a n _ (Nat.le_max_left n n') hn
    · exact hmono a n' _ (Nat.le_max_right n n') (hn' a ha)

theorem hangs_foldlM {f : σ → α → Option σ} {l : List α} {a : α} (ha : a ∈ l) (h : Hangs fun s => f s a) :
    Hangs fun s => l.foldlM f s := by
  intro s
  induction l generalizing s with
  | nil => cases ha
  | cons b l ih =>
    rw [foldlM_cons_eq]
    refine Option.bind_eq_none_iff.mpr fun s' hs' => ?_
    rcases List.mem_cons.mp ha with rfl | ha
    · exact absurd ((h s).symm.trans hs') (by simp)
    · exact ih ha s'

/-!
## Walks without circles

A walk along a relation that can reach finitely many points only ends, unless it can run in a circle.
-/

open Relation

variable {α : Type*} {R : α → α → Prop} {a b : α}

/-- No walk from `a` comes to a point that it can return to. -/
def NoCircle (R : α → α → Prop) (a : α) : Prop := ∀ b, ReflTransGen R a b → ¬ TransGen R b b

theorem noCircle_of_lt (size : α → Nat) (h : ∀ a b, R a b → size b < size a) (a : α) : NoCircle R a := by
  have hdown : ∀ b c, TransGen R b c → size c < size b := by
    intro b c hbc
    induction hbc with
    | single hstep => exact h _ _ hstep
    | tail _ hstep ih => exact (h _ _ hstep).trans ih
  exact fun b _ hcircle => Nat.lt_irrefl _ (hdown b b hcircle)

theorem exists_step_of_circle (h : ¬ NoCircle R a) : ∃ b, R a b ∧ ¬ NoCircle R b := by
  rw [NoCircle] at h
  push Not at h
  obtain ⟨c, hac, hcircle⟩ := h
  rcases ReflTransGen.cases_head hac with rfl | ⟨b, hab, hbc⟩
  · obtain ⟨b, hab, hba⟩ := TransGen.head'_iff.mp hcircle
    exact ⟨b, hab, fun hno => hno a hba hcircle⟩
  · exact ⟨b, hab, fun hno => hno c hbc hcircle⟩

theorem NoCircle.acc (h : NoCircle R a) (hfinite : {b | ReflTransGen R a b}.Finite) : Acc (fun y x => R x y) a := by
  have : Finite {b | ReflTransGen R a b} := hfinite
  let below : {b | ReflTransGen R a b} → {b | ReflTransGen R a b} → Prop := fun y x => TransGen R x.1 y.1
  have htrans : IsTrans _ below := ⟨fun _ _ _ hxy hyz => hyz.trans hxy⟩
  have hirrefl : Std.Irrefl below := ⟨fun x hx => h x.1 x.2 hx⟩
  have hwf : WellFounded below := Finite.wellFounded_of_trans_of_irrefl below
  have hacc : ∀ x : {b | ReflTransGen R a b}, Acc (fun y x => R x y) x.1 := by
    intro x
    induction x using hwf.induction with
    | h x ih =>
      refine ⟨x.1, fun y hxy => ?_⟩
      exact ih ⟨y, x.2.tail hxy⟩ (.single hxy)
  exact hacc ⟨a, .refl⟩

end Framework
