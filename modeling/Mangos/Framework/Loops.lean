import Mathlib.Algebra.Group.Nat.Defs
import Mathlib.Data.List.Nodup
import Mathlib.Order.Nat

/-!
# Loops of an unsigned counter

A counter of 32 bits goes up or down until it has passed a bound.
-/

namespace Framework

def countWhile (continues : UInt32 → Bool) (next : UInt32 → UInt32) :
    Nat → UInt32 → Option (List UInt32)
  | 0, _ => none
  | fuel + 1, i =>
    if continues i then (countWhile continues next fuel (next i)).map (i :: ·) else some []

def loopFuel : Nat := 2 ^ 32 + 1

/-- `for (i = start; i <= stop; ++i)`. -/
def countUp (start stop : UInt32) : Option (List UInt32) :=
  countWhile (· ≤ stop) (· + 1) loopFuel start

/-- `for (i = start; i >= stop; --i)`. -/
def countDown (start stop : UInt32) : Option (List UInt32) :=
  countWhile (stop ≤ ·) (· - 1) loopFuel start

def Yields {α : Type*} (run : Option (List α)) (which : α → Prop) : Prop :=
  ∃ results, run = some results ∧ results.Nodup ∧ ∀ a, a ∈ results ↔ which a

def Between (low high i : UInt32) : Prop := low ≤ i ∧ i ≤ high

theorem between_iff {low high i : UInt32} : Between low high i ↔ low.toNat ≤ i.toNat ∧ i.toNat ≤ high.toNat := by
  rw [Between, UInt32.le_iff_toNat_le, UInt32.le_iff_toNat_le]

theorem countWhile_up {stop : UInt32} (hstop : stop.toNat < 2 ^ 32 - 1) {fuel : Nat} {start : UInt32}
    (hfuel : stop.toNat + 1 < start.toNat + fuel) (hpos : 0 < fuel) :
    Yields (countWhile (· ≤ stop) (· + 1) fuel start) (Between start stop) := by
  induction fuel generalizing start with
  | zero => exact absurd hpos (Nat.lt_irrefl 0)
  | succ fuel ih =>
    rw [countWhile]
    by_cases hle : start ≤ stop
    · have hle' : start.toNat ≤ stop.toNat := UInt32.le_iff_toNat_le.mp hle
      have hnext : (start + 1).toNat = start.toNat + 1 := by
        rw [UInt32.toNat_add, UInt32.toNat_one]
        exact Nat.mod_eq_of_lt (by omega)
      obtain ⟨values, hvalues, hnodup, hmem⟩ := ih (by omega : stop.toNat + 1 < (start + 1).toNat + fuel)
        (by omega)
      refine ⟨start :: values, by simp [hle, hvalues], ?_, ?_⟩
      · rw [List.nodup_cons]
        refine ⟨fun hin => ?_, hnodup⟩
        have hlow := (between_iff.mp ((hmem start).mp hin)).1
        omega
      · intro i
        rw [List.mem_cons, hmem]
        simp only [between_iff, ← UInt32.toNat_inj, hnext]
        omega
    · refine ⟨[], by simp [hle], List.nodup_nil, fun i => ?_⟩
      rw [UInt32.le_iff_toNat_le] at hle
      simp only [between_iff, List.not_mem_nil, false_iff]
      omega

theorem countWhile_down {stop : UInt32} (hstop : 0 < stop.toNat) {fuel : Nat} {start : UInt32}
    (hfuel : start.toNat < fuel) : Yields (countWhile (stop ≤ ·) (· - 1) fuel start) (Between stop start) := by
  induction fuel generalizing start with
  | zero => exact absurd hfuel (Nat.not_lt_zero _)
  | succ fuel ih =>
    rw [countWhile]
    by_cases hle : stop ≤ start
    · have hle' : stop.toNat ≤ start.toNat := UInt32.le_iff_toNat_le.mp hle
      have hone : (1 : UInt32) ≤ start := by
        rw [UInt32.le_iff_toNat_le, UInt32.toNat_one]
        omega
      have hnext : (start - 1).toNat = start.toNat - 1 := by
        rw [UInt32.toNat_sub_of_le _ _ hone, UInt32.toNat_one]
      obtain ⟨values, hvalues, hnodup, hmem⟩ := ih (by omega : (start - 1).toNat < fuel)
      refine ⟨start :: values, by simp [hle, hvalues], ?_, ?_⟩
      · rw [List.nodup_cons]
        refine ⟨fun hin => ?_, hnodup⟩
        have hhigh := (between_iff.mp ((hmem start).mp hin)).2
        omega
      · intro i
        rw [List.mem_cons, hmem]
        simp only [between_iff, ← UInt32.toNat_inj, hnext]
        omega
    · refine ⟨[], by simp [hle], List.nodup_nil, fun i => ?_⟩
      rw [UInt32.le_iff_toNat_le] at hle
      simp only [between_iff, List.not_mem_nil, false_iff]
      omega

theorem countUp_yields (start : UInt32) {stop : UInt32} (hstop : stop.toNat < 2 ^ 32 - 1) :
    Yields (countUp start stop) (Between start stop) := by
  apply countWhile_up hstop
  · rw [loopFuel]
    omega
  · decide

theorem countDown_yields (start : UInt32) {stop : UInt32} (hstop : 0 < stop.toNat) :
    Yields (countDown start stop) (Between stop start) := by
  have hlt := start.toNat_lt
  apply countWhile_down hstop
  rw [loopFuel]
  omega

def gather {α β : Type*} (values : List α) (body : α → Option (List β)) : Option (List β) :=
  match values with
  | [] => some []
  | a :: values => (body a).bind fun bs => (gather values body).map (bs ++ ·)

section Yields

variable {α β : Type*} {run run' : Option (List α)} {which which' : α → Prop}

theorem Yields.congr (h : Yields run which) (hiff : ∀ a, which a ↔ which' a) : Yields run which' := by
  rwa [← funext fun a => propext (hiff a)]

theorem yields_some {results : List α} : Yields (some results) which ↔ results.Nodup ∧ ∀ a, a ∈ results ↔ which a := by
  simp [Yields]

theorem Yields.flatMap (h : Yields run which) {f : α → List β} (hf : ∀ a, (f a).Nodup)
    (hone : ∀ a a' b, b ∈ f a → b ∈ f a' → a = a') :
    Yields (run.map (·.flatMap f)) fun b => ∃ a, which a ∧ b ∈ f a := by
  obtain ⟨results, rfl, hnodup, hmem⟩ := h
  rw [Option.map_some, yields_some]
  constructor
  · rw [List.nodup_flatMap]
    refine ⟨fun a _ => hf a, hnodup.pairwise_of_forall_ne fun a _ a' _ hne b hb hb' => ?_⟩
    exact hne (hone a a' b hb hb')
  · intro b
    simp only [List.mem_flatMap, hmem]

theorem Yields.map (h : Yields run which) {f : α → β} (hf : Function.Injective f) :
    Yields (run.map (·.map f)) fun b => ∃ a, which a ∧ f a = b := by
  obtain ⟨results, rfl, hnodup, hmem⟩ := h
  rw [Option.map_some, yields_some]
  refine ⟨hnodup.map hf, fun b => ?_⟩
  simp only [List.mem_map, hmem]

theorem Yields.append (h : Yields run which) (h' : Yields run' which') (hother : ∀ a, which a → ¬ which' a) :
    Yields (run.bind fun results => run'.map (results ++ ·)) fun a => which a ∨ which' a := by
  obtain ⟨results, rfl, hnodup, hmem⟩ := h
  obtain ⟨results', rfl, hnodup', hmem'⟩ := h'
  rw [Option.bind_some, Option.map_some, yields_some]
  constructor
  · refine hnodup.append hnodup' fun a ha ha' => ?_
    exact hother a ((hmem a).mp ha) ((hmem' a).mp ha')
  · intro a
    rw [List.mem_append, hmem, hmem']

theorem gather_yields {values : List α} {body : α → Option (List β)} {part : α → β → Prop}
    (hnodup : values.Nodup) (hbody : ∀ a ∈ values, Yields (body a) (part a))
    (hone : ∀ a ∈ values, ∀ a' ∈ values, ∀ b, part a b → part a' b → a = a') :
    Yields (gather values body) fun b => ∃ a ∈ values, part a b := by
  induction values with
  | nil => simp [gather, yields_some]
  | cons a values ih =>
    obtain ⟨hnew, hnodup'⟩ := List.nodup_cons.mp hnodup
    have hrest := ih hnodup' (fun b hb => hbody b (List.mem_cons_of_mem a hb)) fun b hb b' hb' =>
      hone b (List.mem_cons_of_mem a hb) b' (List.mem_cons_of_mem a hb')
    have hboth := (hbody a List.mem_cons_self).append hrest fun b hb ⟨a', ha', hb'⟩ => by
      have heq := hone a List.mem_cons_self a' (List.mem_cons_of_mem a ha') b hb hb'
      exact hnew (heq ▸ ha')
    apply Yields.congr hboth
    intro b
    simp only [List.exists_mem_cons_iff]

theorem Yields.gather (h : Yields run which) {body : α → Option (List β)} {part : α → β → Prop}
    (hbody : ∀ a, which a → Yields (body a) (part a))
    (hone : ∀ a a' b, which a → which a' → part a b → part a' b → a = a') :
    Yields (run.bind fun values => gather values body) fun b => ∃ a, which a ∧ part a b := by
  obtain ⟨values, rfl, hnodup, hmem⟩ := h
  rw [Option.bind_some]
  apply Yields.congr (gather_yields hnodup (fun a ha => hbody a ((hmem a).mp ha))
    fun a ha a' ha' b => hone a a' b ((hmem a).mp ha) ((hmem a').mp ha'))
  intro b
  simp only [hmem]

end Yields

/-!
## Loops that can be left

A loop goes on while a condition holds, and a turn of it may leave it in between.
-/

variable {State : Type*} {continues : State → Bool} {turn : State → State × Bool}

/-- The state in which `while (continues)` ends, or nothing if it goes on after so many turns. A turn
says whether it leaves the loop. -/
def whileLoop (continues : State → Bool) (turn : State → State × Bool) : Nat → State → Option State
  | 0, _ => none
  | fuel + 1, s =>
    if continues s then
      if (turn s).2 then some (turn s).1 else whileLoop continues turn fuel (turn s).1
    else some s

theorem whileLoop_ends {Inv : State → Prop} (size : State → Nat)
    (hkeep : ∀ s, Inv s → continues s = true → Inv (turn s).1)
    (hless : ∀ s, Inv s → continues s = true → (turn s).2 = false → size (turn s).1 < size s) {s : State} (hs : Inv s) :
    ∃ final, (∀ fuel, size s < fuel → whileLoop continues turn fuel s = some final) ∧ Inv final := by
  -- The number of turns that are left is at most the measure of the state.
  induction hsize : size s using Nat.strong_induction_on generalizing s with
  | _ n ih =>
    by_cases hgo : continues s = true
    · cases hleft : (turn s).2 with
      | true =>
        refine ⟨(turn s).1, fun fuel hfuel => ?_, hkeep s hs hgo⟩
        cases fuel with
        | zero => exact absurd hfuel (Nat.not_lt_zero n)
        | succ fuel => simp [whileLoop, hgo, hleft]
      | false =>
        have hlt : size (turn s).1 < n := hsize ▸ hless s hs hgo hleft
        obtain ⟨final, hfinal, hinv⟩ := ih _ hlt (hkeep s hs hgo) rfl
        refine ⟨final, fun fuel hfuel => ?_, hinv⟩
        cases fuel with
        | zero => exact absurd hfuel (Nat.not_lt_zero n)
        | succ fuel => simp [whileLoop, hgo, hleft, hfinal fuel (by omega)]
    · refine ⟨s, fun fuel hfuel => ?_, hs⟩
      cases fuel with
      | zero => exact absurd hfuel (Nat.not_lt_zero n)
      | succ fuel => simp [whileLoop, hgo]

theorem continues_final {Inv : State → Prop} (hkeep : ∀ s, Inv s → continues s = true → Inv (turn s).1)
    (hstay : ∀ s, Inv s → continues s = true → (turn s).2 = false) {fuel : Nat} {s final : State}
    (hs : Inv s) (h : whileLoop continues turn fuel s = some final) : continues final = false := by
  induction fuel generalizing s with
  | zero => cases h
  | succ fuel ih =>
    rw [whileLoop] at h
    cases hgo : continues s with
    | false =>
      rw [if_neg (by simp [hgo])] at h
      rw [← Option.some_inj.mp h, hgo]
    | true =>
      rw [if_pos hgo, if_neg (by simp [hstay s hs hgo])] at h
      exact ih (hkeep s hs hgo) h

theorem whileLoop_backward {P : State → Prop} {final : State} (hend : ∀ s, continues s = false → P s)
    (hback : ∀ s, continues s = true → (turn s).2 = false → P (turn s).1 → P s)
    (hleft : ∀ s, continues s = true → (turn s).2 = true → (turn s).1 = final → P s) {fuel : Nat}
    {s : State} (h : whileLoop continues turn fuel s = some final) : P s := by
  induction fuel generalizing s with
  | zero => cases h
  | succ fuel ih =>
    rw [whileLoop] at h
    cases hgo : continues s with
    | false => exact hend s hgo
    | true =>
      rw [if_pos hgo] at h
      cases hturn : (turn s).2 with
      | false =>
        rw [if_neg (by simp [hturn])] at h
        exact hback s hgo hturn (ih h)
      | true =>
        rw [if_pos hturn] at h
        exact hleft s hgo hturn (Option.some_inj.mp h)

end Framework
