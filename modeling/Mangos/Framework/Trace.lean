import Mangos.Framework.Run

/-!
# Labelled runs and componentwise refinement

A machine with an append-only log refines a family of small labelled transition systems when
every event moves each component by exactly the labels it logged for that component.
-/

namespace Framework

variable {State Event Phase Label ι : Type*}

/-- The labels emitted on the way from one state of a transition system to another. -/
inductive Trace (move : Phase → List Label → Phase → Prop) : Phase → List Label → Phase → Prop
  | nil (p : Phase) : Trace move p [] p
  | snoc {p q r : Phase} {ls ms : List Label} :
      Trace move p ls q → move q ms r → Trace move p (ls ++ ms) r

variable {move : Phase → List Label → Phase → Prop}

theorem Trace.single {p q : Phase} {ls : List Label} (h : move p ls q) : Trace move p ls q := by
  simpa using Trace.snoc (.nil p) h

theorem Trace.append {p q r : Phase} {ls ms : List Label} (h : Trace move p ls q)
    (h' : Trace move q ms r) : Trace move p (ls ++ ms) r := by
  induction h' with
  | nil => simpa using h
  | snoc _ hmove ih =>
    rw [← List.append_assoc]
    exact ih.snoc hmove

theorem Trace.invariant (Inv : List Label → Phase → Prop) {p q : Phase} {ls : List Label}
    (hmove : ∀ ls p ms q, Inv ls p → move p ms q → Inv (ls ++ ms) q)
    (h : Trace move p ls q) (h₀ : Inv [] p) : Inv ls q := by
  induction h with
  | nil => exact h₀
  | snoc _ hlast ih => exact hmove _ _ _ _ ih hlast

section Refinement

variable [DecidableEq ι] (move : Phase → List Label → Phase → Prop) (view : ι → State → Phase)
  (log : State → List Label) (owner : Label → ι)

def Refines (s t : State) : Prop :=
  ∃ tail, log t = log s ++ tail ∧ ∀ i, Trace move (view i s) (tail.filter (owner · = i)) (view i t)

variable {move view log owner}

theorem Refines.refl (s : State) : Refines move view log owner s s :=
  ⟨[], by simp, fun i => by simpa using Trace.nil (view i s)⟩

theorem Refines.trans (s t u : State) (h : Refines move view log owner s t)
    (h' : Refines move view log owner t u) : Refines move view log owner s u := by
  obtain ⟨tail, hlog, htrace⟩ := h
  obtain ⟨tail', hlog', htrace'⟩ := h'
  refine ⟨tail ++ tail', by rw [hlog', hlog, List.append_assoc], fun i => ?_⟩
  rw [List.filter_append]
  exact (htrace i).append (htrace' i)

theorem Refines.single {s t : State} {i : ι} {ls : List Label} (hlog : log t = log s ++ ls)
    (howner : ∀ l ∈ ls, owner l = i) (hmove : move (view i s) ls (view i t))
    (hother : ∀ j, j ≠ i → view j t = view j s) : Refines move view log owner s t := by
  refine ⟨ls, hlog, fun j => ?_⟩
  by_cases hj : j = i
  · subst hj
    have hall : ls.filter (owner · = j) = ls :=
      List.filter_eq_self.mpr fun l hl => by simp [howner l hl]
    rw [hall]
    exact .single hmove
  · have hnone : ls.filter (owner · = j) = [] :=
      List.filter_eq_nil_iff.mpr fun l hl => by simp [howner l hl, Ne.symm hj]
    rw [hnone, hother j hj]
    exact .nil _

theorem Refines.silent {s t : State} (hlog : log t = log s)
    (hview : ∀ i, view i t = view i s) : Refines move view log owner s t :=
  ⟨[], by simp [hlog], fun i => by simpa [hview i] using Trace.nil (view i s)⟩

theorem Refines.run {step : State → Event → State} {ok : State → Event → Prop}
    {Inv : State → Prop} (hinv : ∀ s e, ok s e → Inv s → Inv (step s e))
    (hstep : ∀ s e, ok s e → Inv s → Refines move view log owner s (step s e))
    {s : State} {es : List Event} (hok : Guarded step ok s es) (hs : Inv s) :
    Refines move view log owner s (run step s es) :=
  run_relation Refines.refl Refines.trans hinv hstep hok hs

end Refinement

/-!
## Traces that obey a rule

A rule says which element may come next after the elements that came before.
-/

variable {α : Type*} {rule : List α → α → Prop}

/-- Each element of the trace is allowed after those before it. -/
def Obeys (rule : List α → α → Prop) (l : List α) : Prop :=
  ∀ before a after, l = before ++ a :: after → rule before a

theorem obeys_nil : Obeys rule [] := by
  intro before a after h
  simp at h

theorem Obeys.of_append {l m : List α} (h : Obeys rule (l ++ m)) : Obeys rule l := by
  intro before a after heq
  exact h before a (after ++ m) (by simp [heq])

theorem Obeys.last {l : List α} {a : α} (h : Obeys rule (l ++ [a])) : rule l a :=
  h l a [] rfl

theorem obeys_concat {l : List α} {a : α} : Obeys rule (l ++ [a]) ↔ Obeys rule l ∧ rule l a := by
  constructor
  · exact fun h => ⟨h.of_append, h.last⟩
  · rintro ⟨hl, ha⟩ before b after heq
    rcases List.eq_nil_or_concat after with rfl | ⟨rest, c, rfl⟩
    · obtain ⟨hbefore, hb⟩ := List.append_inj' heq rfl
      cases hb
      exact hbefore ▸ ha
    · have heq' : l ++ [a] = (before ++ b :: rest) ++ [c] := by simpa using heq
      exact hl before b rest (List.append_inj' heq' rfl).1

theorem not_obeys_of_prefix {l m : List α} (hlm : l <+: m) (h : ¬ Obeys rule l) : ¬ Obeys rule m := by
  obtain ⟨rest, rfl⟩ := hlm
  exact fun hm => h hm.of_append

end Framework
