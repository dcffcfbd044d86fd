import Mathlib.Data.List.Basic
import Mathlib.Order.Nat

/-!
# Runs of a step function

Events are handled one after the other, each in the state its predecessors left behind.
-/

namespace Framework

variable {State Event : Type*}

/-- The state after handling the events from left to right. -/
def run (step : State → Event → State) (s : State) (es : List Event) : State :=
  es.foldl step s

/-- `ok` holds of every event in the state that event meets. -/
def Guarded (step : State → Event → State) (ok : State → Event → Prop) :
    State → List Event → Prop
  | _, [] => True
  | s, e :: es => ok s e ∧ Guarded step ok (step s e) es

@[simp] theorem run_nil (step : State → Event → State) (s : State) : run step s [] = s := rfl

@[simp] theorem run_cons (step : State → Event → State) (s : State) (e : Event)
    (es : List Event) : run step s (e :: es) = run step (step s e) es := rfl

theorem run_append (step : State → Event → State) (s : State) (es fs : List Event) :
    run step s (es ++ fs) = run step (run step s es) fs :=
  List.foldl_append

@[simp] theorem guarded_nil (step : State → Event → State) (ok : State → Event → Prop)
    (s : State) : Guarded step ok s [] := trivial

@[simp] theorem guarded_cons (step : State → Event → State) (ok : State → Event → Prop)
    (s : State) (e : Event) (es : List Event) :
    Guarded step ok s (e :: es) ↔ ok s e ∧ Guarded step ok (step s e) es := Iff.rfl

theorem guarded_append (step : State → Event → State) (ok : State → Event → Prop)
    (s : State) (es fs : List Event) : Guarded step ok s (es ++ fs) ↔
      Guarded step ok s es ∧ Guarded step ok (run step s es) fs := by
  induction es generalizing s with
  | nil => simp
  | cons e es ih => simp [ih, and_assoc]

theorem guarded_of_forall {step : State → Event → State} {ok : State → Event → Prop}
    (h : ∀ s e, ok s e) (s : State) (es : List Event) : Guarded step ok s es := by
  induction es generalizing s with
  | nil => trivial
  | cons e es ih => exact ⟨h s e, ih _⟩

instance Guarded.decidable (step : State → Event → State) (ok : State → Event → Prop)
    [∀ s e, Decidable (ok s e)] : ∀ s es, Decidable (Guarded step ok s es)
  | _, [] => .isTrue trivial
  | s, e :: es =>
    @instDecidableAnd _ _ (inferInstance : Decidable (ok s e))
      (Guarded.decidable step ok (step s e) es)

theorem run_invariant {step : State → Event → State} {ok : State → Event → Prop}
    {Inv : State → Prop} (hstep : ∀ s e, ok s e → Inv s → Inv (step s e))
    {s : State} {es : List Event} (hok : Guarded step ok s es) (hs : Inv s) : Inv (run step s es) := by
  induction es generalizing s with
  | nil => exact hs
  | cons e es ih => exact ih hok.2 (hstep s e hok.1 hs)

theorem guarded_of_invariant {step : State → Event → State} {ok P : State → Event → Prop}
    {Inv : State → Prop} (hstep : ∀ s e, ok s e → Inv s → Inv (step s e))
    (hP : ∀ s e, ok s e → Inv s → P s e) {s : State} {es : List Event}
    (hok : Guarded step ok s es) (hs : Inv s) : Guarded step P s es := by
  induction es generalizing s with
  | nil => trivial
  | cons e es ih => exact ⟨hP s e hok.1 hs, ih hok.2 (hstep s e hok.1 hs)⟩

theorem guarded_iff_of_kept {step : State → Event → State} {P ok : State → Event → Prop}
    {Inv : State → Prop} (hstep : ∀ s e, ok s e → Inv s → Inv (step s e))
    (h : ∀ s e, Inv s → (P s e ↔ ok s e)) {s : State} (es : List Event) (hs : Inv s) :
    Guarded step P s es ↔ Guarded step ok s es := by
  induction es generalizing s with
  | nil => rfl
  | cons e es ih =>
    rw [guarded_cons, guarded_cons, h s e hs]
    exact and_congr_right fun hok => ih (hstep s e hok hs)

theorem guarded_iff_of_invariant {step : State → Event → State} {P Q : State → Event → Prop}
    {Inv : State → Prop} (hstep : ∀ s e, Inv s → Inv (step s e))
    (h : ∀ s e, Inv s → (P s e ↔ Q s e)) {s : State} (es : List Event) (hs : Inv s) :
    Guarded step P s es ↔ Guarded step Q s es :=
  guarded_iff_of_kept (fun s e _ => hstep s e) h es hs

theorem run_relation {step : State → Event → State} {ok : State → Event → Prop}
    {Inv : State → Prop} {Rel : State → State → Prop} (hrefl : ∀ s, Rel s s)
    (htrans : ∀ s t u, Rel s t → Rel t u → Rel s u) (hstep : ∀ s e, ok s e → Inv s → Inv (step s e))
    (hrel : ∀ s e, ok s e → Inv s → Rel s (step s e))
    {s : State} {es : List Event} (hok : Guarded step ok s es) (hs : Inv s) : Rel s (run step s es) := by
  induction es generalizing s with
  | nil => exact hrefl s
  | cons e es ih =>
    have hhead := hrel s e hok.1 hs
    have htail := ih hok.2 (hstep s e hok.1 hs)
    exact htrans _ _ _ hhead htail

theorem run_rel {step : State → Event → State} {Rel : State → State → Prop}
    (hrefl : ∀ s, Rel s s) (htrans : ∀ s t u, Rel s t → Rel t u → Rel s u)
    (hrel : ∀ s e, Rel s (step s e)) (s : State) (es : List Event) : Rel s (run step s es) := by
  induction es generalizing s with
  | nil => exact hrefl s
  | cons e es ih => exact htrans _ _ _ (hrel s e) (ih (step s e))

theorem run_always_iff_of_mem {step : State → Event → State} {ok : State → Event → Prop}
    {E : Event → Prop} {Inv P : State → Prop} (hP : ∀ s, Inv s → P s)
    (hstep : ∀ s e, E e → ok s e → Inv s → Inv (step s e))
    (hbad : ∀ s e, E e → ¬ ok s e → Inv s → ¬ P (step s e)) {s : State} {es : List Event}
    (hes : ∀ e ∈ es, E e) (hs : Inv s) : (∀ fs, fs <+: es → P (run step s fs)) ↔ Guarded step ok s es := by
  induction es generalizing s with
  | nil => simp [hP s hs]
  | cons e es ih =>
    have he : E e := hes e List.mem_cons_self
    have hrest : ∀ f ∈ es, E f := fun f hf => hes f (List.mem_cons_of_mem e hf)
    constructor
    · intro h
      have hfirst : P (step s e) := h [e] ⟨es, rfl⟩
      have hok : ok s e := by
        by_contra hnot
        exact hbad s e he hnot hs hfirst
      refine ⟨hok, (ih hrest (hstep s e he hok hs)).mp fun fs hfs => ?_⟩
      exact h (e :: fs) (List.cons_prefix_cons.mpr ⟨rfl, hfs⟩)
    · rintro ⟨hok, hguard⟩ fs hfs
      cases fs with
      | nil => exact hP s hs
      | cons f fs =>
        obtain ⟨rfl, htail⟩ := List.cons_prefix_cons.mp hfs
        exact (ih hrest (hstep s f he hok hs)).mpr hguard fs htail

theorem run_always_iff {step : State → Event → State} {ok : State → Event → Prop}
    {Inv P : State → Prop} (hP : ∀ s, Inv s → P s) (hstep : ∀ s e, ok s e → Inv s → Inv (step s e))
    (hbad : ∀ s e, ¬ ok s e → Inv s → ¬ P (step s e)) {s : State} {es : List Event}
    (hs : Inv s) : (∀ fs, fs <+: es → P (run step s fs)) ↔ Guarded step ok s es :=
  run_always_iff_of_mem (E := fun _ => True) hP (fun s e _ => hstep s e) (fun s e _ => hbad s e)
    (fun _ _ => trivial) hs

theorem run_end_iff {step : State → Event → State} {ok : State → Event → Prop}
    {Inv Lost P : State → Prop} (hP : ∀ s, Inv s → P s) (hnot : ∀ s, Lost s → ¬ P s)
    (hstep : ∀ s e, ok s e → Inv s → Inv (step s e)) (hbad : ∀ s e, ¬ ok s e → Inv s → Lost (step s e))
    (hlost : ∀ s e, Lost s → Lost (step s e)) {s : State} {es : List Event} (hs : Inv s) :
    P (run step s es) ↔ Guarded step ok s es := by
  have hrun : ∀ es s, Lost s → ¬ P (run step s es) := by
    intro es
    induction es with
    | nil => exact hnot
    | cons e es ih => exact fun s h => ih (step s e) (hlost s e h)
  induction es generalizing s with
  | nil => simp [hP s hs]
  | cons e es ih =>
    by_cases hok : ok s e
    · simp [hok, ih (hstep s e hok hs)]
    · simp [hok, hrun es _ (hbad s e hok hs)]

theorem run_keeps_iff {ι : Type*} {step : State → Event → State} {ok : State → Event → Prop}
    {size : ι → State → Nat} (hmono : ∀ s e i, size i s ≤ size i (step s e))
    (hok : ∀ s e, (∀ i, size i (step s e) = size i s) ↔ ok s e) (s : State) (es : List Event) :
    (∀ i, size i (run step s es) = size i s) ↔ Guarded step ok s es := by
  have hrun : ∀ es s i, size i s ≤ size i (run step s es) := by
    intro es
    induction es with
    | nil => exact fun s i => le_refl (size i s)
    | cons e es ih => exact fun s i => (hmono s e i).trans (ih (step s e) i)
  induction es generalizing s with
  | nil => simp
  | cons e es ih =>
    constructor
    · intro h
      have hstep : ∀ i, size i (step s e) = size i s := fun i =>
        le_antisymm ((hrun es (step s e) i).trans (h i).le) (hmono s e i)
      exact ⟨(hok s e).mp hstep, (ih (step s e)).mp fun i => (h i).trans (hstep i).symm⟩
    · intro h i
      exact ((ih (step s e)).mpr h.2 i).trans ((hok s e).mpr h.1 i)

end Framework
