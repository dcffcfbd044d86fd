import Mathlib.Algebra.Order.Floor.Ring
import Mathlib.Data.Rat.Floor
import Mathlib.Tactic.Linarith
import Mathlib.Tactic.Positivity
import Mathlib.Tactic.Ring

/-!
# Discs and the cells of a plane

The cells of a plane have sides of 1 and reach up to the sides of their neighbours, which do not belong to
them.
-/

namespace Framework

/-- How far a coordinate is from the interval from `c` to `c + 1`. -/
def gap (u : ℚ) (c : ℤ) : ℚ := max 0 (max (u - (c + 1)) (c - u))

def Near (u v r : ℚ) (c e : ℤ) : Prop :=
  gap u c ^ 2 + gap v e ^ 2 < r ^ 2 ∨ gap u c ^ 2 + gap v e ^ 2 = r ^ 2 ∧ u < c + 1 ∧ v < e + 1

instance (u v r : ℚ) (c e : ℤ) : Decidable (Near u v r c e) := inferInstanceAs (Decidable (_ ∨ _))

variable {u v r p q : ℚ} {c e : ℤ}

theorem gap_nonneg (u : ℚ) (c : ℤ) : 0 ≤ gap u c := le_max_left _ _

theorem gap_le_abs (hlow : c ≤ p) (hhigh : p < c + 1) : gap u c ≤ |p - u| ∧ (c + 1 ≤ u → gap u c < |p - u|) := by
  have hright : p - u ≤ |p - u| := le_abs_self _
  have hleft : u - p ≤ |p - u| := by
    rw [abs_sub_comm]
    exact le_abs_self _
  constructor
  · exact max_le (abs_nonneg _) (max_le (by linarith) (by linarith))
  · intro hu
    exact max_lt (by linarith) (max_lt (by linarith) (by linarith))

theorem exists_near_coord (u : ℚ) (c : ℤ) {ε : ℚ} (hε : 0 < ε) (hone : ε ≤ 1) :
    ∃ p : ℚ, c ≤ p ∧ p < c + 1 ∧ |p - u| ≤ if u < c + 1 then gap u c else gap u c + ε := by
  by_cases hu : u < c + 1
  · rw [if_pos hu]
    refine ⟨max u c, le_max_right _ _, max_lt hu (by linarith), ?_⟩
    rcases le_total u c with hle | hle
    · rw [max_eq_right hle, abs_of_nonneg (by linarith)]
      exact (le_max_right _ _).trans (le_max_right _ _)
    · rw [max_eq_left hle, sub_self, abs_zero]
      exact gap_nonneg u c
  · rw [if_neg hu]
    have hgap : u - (c + 1) ≤ gap u c := (le_max_left _ _).trans (le_max_right _ _)
    refine ⟨c + 1 - ε, by linarith, by linarith, ?_⟩
    rw [abs_of_nonpos (by linarith)]
    linarith

theorem near_of_exists (hp : c ≤ p ∧ p < c + 1) (hq : e ≤ q ∧ q < e + 1)
    (hin : (p - u) ^ 2 + (q - v) ^ 2 ≤ r ^ 2) : Near u v r c e := by
  obtain ⟨hu, hu'⟩ := @gap_le_abs u p c hp.1 hp.2
  obtain ⟨hv, hv'⟩ := @gap_le_abs v q e hq.1 hq.2
  have hx : gap u c ^ 2 ≤ (p - u) ^ 2 := by
    rw [← sq_abs (p - u)]
    exact pow_le_pow_left₀ (gap_nonneg u c) hu 2
  have hy : gap v e ^ 2 ≤ (q - v) ^ 2 := by
    rw [← sq_abs (q - v)]
    exact pow_le_pow_left₀ (gap_nonneg v e) hv 2
  by_cases hopen : u < c + 1 ∧ v < e + 1
  · rcases lt_or_eq_of_le ((add_le_add hx hy).trans hin) with hlt | heq
    · exact .inl hlt
    · exact .inr ⟨heq, hopen⟩
  · left
    rw [not_and_or, not_lt, not_lt] at hopen
    rcases hopen with hcu | hev
    · have hlt : gap u c ^ 2 < (p - u) ^ 2 := by
        rw [← sq_abs (p - u)]
        exact pow_lt_pow_left₀ (hu' hcu) (gap_nonneg u c) two_ne_zero
      linarith
    · have hlt : gap v e ^ 2 < (q - v) ^ 2 := by
        rw [← sq_abs (q - v)]
        exact pow_lt_pow_left₀ (hv' hev) (gap_nonneg v e) two_ne_zero
      linarith

theorem exists_of_near (h : Near u v r c e) :
    ∃ p q : ℚ, (c ≤ p ∧ p < c + 1) ∧ (e ≤ q ∧ q < e + 1) ∧ (p - u) ^ 2 + (q - v) ^ 2 ≤ r ^ 2 := by
  rcases h with hlt | ⟨heq, hu, hv⟩
  · have hx := gap_nonneg u c
    have hy := gap_nonneg v e
    have hsum : 0 < 2 * (gap u c + gap v e) + 2 := by positivity
    -- so much may be added to both gaps
    obtain ⟨ε, hpos, hone, hsmall⟩ : ∃ ε : ℚ, 0 < ε ∧ ε ≤ 1 ∧
        ε * (2 * (gap u c + gap v e) + 2) ≤ r ^ 2 - (gap u c ^ 2 + gap v e ^ 2) := by
      refine ⟨min 1 ((r ^ 2 - (gap u c ^ 2 + gap v e ^ 2)) / (2 * (gap u c + gap v e) + 2)), ?_, min_le_left _ _, ?_⟩
      · exact lt_min one_pos (div_pos (by linarith) hsum)
      · rw [← le_div_iff₀ hsum]
        exact min_le_right _ _
    obtain ⟨p, hp, hp', hpu⟩ := exists_near_coord u c hpos hone
    obtain ⟨q, hq, hq', hqv⟩ := exists_near_coord v e hpos hone
    have hpu' : |p - u| ≤ gap u c + ε := by
      split at hpu
      · linarith
      · exact hpu
    have hqv' : |q - v| ≤ gap v e + ε := by
      split at hqv
      · linarith
      · exact hqv
    refine ⟨p, q, ⟨hp, hp'⟩, ⟨hq, hq'⟩, ?_⟩
    have hp2 : (p - u) ^ 2 ≤ (gap u c + ε) ^ 2 := by
      rw [← sq_abs (p - u)]
      exact pow_le_pow_left₀ (abs_nonneg _) hpu' 2
    have hq2 : (q - v) ^ 2 ≤ (gap v e + ε) ^ 2 := by
      rw [← sq_abs (q - v)]
      exact pow_le_pow_left₀ (abs_nonneg _) hqv' 2
    have hsquare : ε ^ 2 ≤ ε := by
      rw [sq]
      exact mul_le_of_le_one_left hpos.le hone
    have hexpand : (gap u c + ε) ^ 2 + (gap v e + ε) ^ 2 =
        gap u c ^ 2 + gap v e ^ 2 + 2 * ε * (gap u c + gap v e) + 2 * ε ^ 2 := by
      ring
    linarith
  · obtain ⟨p, hp, hp', hpu⟩ := exists_near_coord u c one_pos le_rfl
    obtain ⟨q, hq, hq', hqv⟩ := exists_near_coord v e one_pos le_rfl
    rw [if_pos hu] at hpu
    rw [if_pos hv] at hqv
    refine ⟨p, q, ⟨hp, hp'⟩, ⟨hq, hq'⟩, ?_⟩
    rw [← heq, ← sq_abs (p - u), ← sq_abs (q - v)]
    exact add_le_add (pow_le_pow_left₀ (abs_nonneg _) hpu 2) (pow_le_pow_left₀ (abs_nonneg _) hqv 2)

end Framework
