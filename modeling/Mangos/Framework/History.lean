import Mathlib.Data.List.Induction

/-!
# Histories

What a log says of the past of each of its entries, and whether something has been so since one of them.
-/

namespace Framework

variable {Label : Type*} {log l : List Label} {x : Label}

def AtEach (P : List Label → Label → Prop) (log : List Label) : Prop :=
  ∀ before x after, log = before ++ x :: after → P before x

variable {P : List Label → Label → Prop}

theorem atEach_nil : AtEach P [] := by
  intro before x after h
  simp at h

theorem atEach_snoc : AtEach P (log ++ [x]) ↔ AtEach P log ∧ P log x := by
  constructor
  · intro h
    refine ⟨fun before y after hlog => ?_, h log x [] rfl⟩
    exact h before y (after ++ [x]) (by rw [hlog, List.append_assoc, List.cons_append])
  · rintro ⟨h, hx⟩ before y after hlog
    rcases List.eq_nil_or_concat after with rfl | ⟨after, z, rfl⟩
    · obtain ⟨rfl, hyx⟩ := List.append_inj' hlog rfl
      cases hyx
      exact hx
    · rw [List.concat_eq_append, ← List.cons_append, ← List.append_assoc] at hlog
      exact h before y after (List.append_inj' hlog rfl).1

theorem AtEach.append (h : AtEach P log) (hl : ∀ x ∈ l, ∀ before, P before x) : AtEach P (log ++ l) := by
  induction l generalizing log with
  | nil => simpa using h
  | cons x l ih =>
    rw [List.append_cons]
    apply ih
    · exact atEach_snoc.mpr ⟨h, hl x List.mem_cons_self log⟩
    · exact fun y hy => hl y (List.mem_cons_of_mem x hy)

section Since

variable (on off : Label → Bool)

/-- There was an `on`, and no `off` after it. -/
def since (log : List Label) : Bool :=
  log.foldl (fun b x => on x || b && !off x) false

@[simp] theorem since_nil : since on off [] = false := rfl

@[simp] theorem since_snoc (log : List Label) (x : Label) :
    since on off (log ++ [x]) = (on x || since on off log && !off x) := by
  simp [since]

variable {on off}

theorem since_of_append (hon : ∀ x ∈ l, on x = false) (h : since on off (log ++ l) = true) :
    since on off log = true := by
  induction l generalizing log with
  | nil => simpa using h
  | cons x l ih =>
    rw [List.append_cons] at h
    have hx := ih (fun y hy => hon y (List.mem_cons_of_mem x hy)) h
    rw [since_snoc, hon x List.mem_cons_self] at hx
    simp only [Bool.false_or, Bool.and_eq_true] at hx
    exact hx.1

theorem since_eq_false (hon : ∀ x ∈ log, on x = false) : since on off log = false := by
  by_contra h
  have hnil : since on off [] = true := since_of_append hon (by simpa using h)
  simp at hnil

theorem since_append_of_on (hon : on x = true) (hoff : ∀ y ∈ l, off y = false) :
    since on off (log ++ x :: l) = true := by
  induction l using List.reverseRecOn with
  | nil => simp [hon]
  | append_singleton l y ih =>
    rw [← List.cons_append, ← List.append_assoc, since_snoc, ih fun z hz => hoff z (List.mem_append_left _ hz)]
    simp [hoff y (List.mem_append_right _ (List.mem_singleton_self y))]

theorem since_append_off (hon : ∀ y ∈ l, on y = false) (hx : x ∈ l) (hoff : off x = true) :
    since on off (log ++ l) = false := by
  obtain ⟨l₁, l₂, rfl⟩ := List.append_of_mem hx
  by_contra hsince
  rw [Bool.not_eq_false, List.append_cons, ← List.append_assoc] at hsince
  have hlast := since_of_append (fun y hy => hon y (by simp [hy])) hsince
  simp [← List.append_assoc, hoff, hon x (by simp)] at hlast

end Since

end Framework
