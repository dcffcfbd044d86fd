import Mathlib.Logic.Basic

/-!
# Checks of something that changes in time

Between two checks a thing is on and off at moments of its own.
-/

namespace Framework

variable {on : Int → Bool} {first last m : Int}

/-- The thing is the same from one moment to another. -/
def Steady (on : Int → Bool) (first last : Int) : Prop :=
  ∀ t u, first ≤ t → t ≤ last → first ≤ u → u ≤ last → on t = on u

/-- What the thing is in between is what it has been since the first moment or will be until the last, so
that a check at one of the two sees it. -/
def Seen (on : Int → Bool) (first last : Int) : Prop :=
  ∀ t, first ≤ t → t ≤ last → Steady on first t ∨ Steady on t last

theorem steady_of_forall {b : Bool} (h : ∀ t, first ≤ t → t ≤ last → on t = b) : Steady on first last := by
  intro t u ht ht' hu hu'
  rw [h t ht ht', h u hu hu']

theorem Steady.mono (h : Steady on first last) {first' last' : Int} (hfirst : first ≤ first')
    (hlast : last' ≤ last) : Steady on first' last' :=
  fun t u ht ht' hu hu' => h t u (Int.le_trans hfirst ht) (Int.le_trans ht' hlast)
    (Int.le_trans hfirst hu) (Int.le_trans hu' hlast)

theorem steady_single (on : Int → Bool) (hle : last ≤ first) : Steady on first last := by
  intro t u ht ht' hu hu'
  have heq : t = u := by omega
  rw [heq]

theorem Steady.seen (h : Steady on first m) (h' : Steady on (m + 1) last) : Seen on first last := by
  intro t ht ht'
  by_cases hle : t ≤ m
  · exact .inl (h.mono (Int.le_refl first) hle)
  · exact .inr (h'.mono (by omega) (Int.le_refl last))

theorem Steady.seen_next (h : Steady on first m) (hlast : last ≤ m + 1) : Seen on first last :=
  h.seen (steady_single on hlast)

end Framework
