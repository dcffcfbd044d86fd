import Mathlib.Data.Nat.Init

/-!
# An allowance for each period

Something may be done a number of times within a period.
-/

namespace Framework

/-- The start of the current period and what is left of it. -/
structure Allowance where
  start : Nat
  rem : Nat
  deriving DecidableEq, Repr

namespace Allowance

/-- A period that has expired gives way to one that starts `now`. -/
def renew (expired : Nat → Bool) (now limit : Nat) (a : Allowance) : Allowance :=
  if expired a.start then ⟨now, limit⟩ else a

def pay (a : Allowance) : Allowance := { a with rem := a.rem - 1 }

def carried (a a' : Allowance) (taken : Nat) : Nat := if a'.start = a.start then taken else 0

def Within (limit taken : Nat) (a : Allowance) : Prop := taken + a.rem ≤ limit

variable {expired : Nat → Bool} {now limit taken : Nat} {a : Allowance}

theorem carried_self (a : Allowance) (taken : Nat) : carried a a taken = taken := by
  simp [carried]

theorem renew_renew (hnow : expired now = false) :
    (a.renew expired now limit).renew expired now limit = a.renew expired now limit := by
  unfold renew
  by_cases ha : expired a.start
  · simp [ha, hnow]
  · simp [ha]

theorem renew_pay (hnow : expired now = false) :
    ((a.renew expired now limit).pay).renew expired now limit = (a.renew expired now limit).pay := by
  unfold renew pay
  by_cases ha : expired a.start
  · simp [ha, hnow]
  · simp [ha]

theorem Within.renew (hnow : expired now = false) (h : Within limit taken a) :
    Within limit (carried a (a.renew expired now limit) taken) (a.renew expired now limit) := by
  unfold Within at *
  by_cases ha : expired a.start
  · have hne : now ≠ a.start := by
      intro heq
      rw [← heq, hnow] at ha
      cases ha
    simp [Allowance.renew, carried, ha, hne]
  · simpa [Allowance.renew, carried, ha] using h

/-- Nothing is counted before the first period begins. -/
def Counted (limit taken : Nat) (a : Allowance) : Prop :=
  (a.start = 0 ∧ taken = 0) ∨ Within limit taken a

theorem Counted.renew (hnow : expired now = false) (hfirst : expired 0 = true) (h : Counted limit taken a) :
    Within limit (carried a (a.renew expired now limit) taken) (a.renew expired now limit) := by
  rcases h with ⟨hstart, htaken⟩ | hwithin
  · simp [Allowance.renew, Within, carried, hstart, hfirst, htaken]
  · exact hwithin.renew hnow

theorem Counted.pay (hnow : expired now = false) (hfirst : expired 0 = true) (h : Counted limit taken a)
    (hrem : 0 < (a.renew expired now limit).rem) :
    Within limit (carried a (a.renew expired now limit).pay taken + 1) (a.renew expired now limit).pay := by
  have hrenewed := h.renew hnow hfirst
  have hstart : carried a (a.renew expired now limit).pay taken =
      carried a (a.renew expired now limit) taken := rfl
  unfold Within at *
  rw [hstart]
  have hleft : (a.renew expired now limit).pay.rem = (a.renew expired now limit).rem - 1 := rfl
  omega

theorem Within.mono {taken' : Nat} (h : Within limit taken a) (hle : taken' ≤ taken) : Within limit taken' a := by
  unfold Within at *
  omega

end Allowance

end Framework
