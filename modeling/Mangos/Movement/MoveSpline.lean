import Mathlib.Algebra.Order.Ring.Int
import Mathlib.Data.Int.Order.Basic
import Mathlib.Logic.Function.Basic
import Mathlib.Tactic.IntervalCases
import Mathlib.Tactic.Linarith

/-!
# Progress along a spline

`updateState` moves a spline on by a time.
-/

namespace Mangos

def int32Max : Int := 2 ^ 31 - 1

/-- `minimal_duration`, in milliseconds. -/
def minimalDuration : Int := 1

/-- `lengths` of a node is the time at which it is reached. -/
structure Spline where
  lengths : Nat → Int
  indexLo : Nat
  indexHi : Nat
  cyclic : Bool

namespace Spline

variable (sp : Spline)

def isEmpty : Bool := sp.indexLo == sp.indexHi

def length : Int := sp.lengths sp.indexHi

def setLength (i : Nat) (length : Int) : Spline :=
  { sp with lengths := Function.update sp.lengths i length }

/-- The loop of `initLengths` with `n` nodes to go. A length that overflowed counts as the greatest
one, and lengths that fall trip the assertion. -/
def initLengthsFrom (cacher : Nat → Int) :
    (n i : Nat) → (prevLength : Int) → (lengths : Nat → Int) → Option (Nat → Int)
  | 0, _, _, lengths => some lengths
  | n + 1, i, prevLength, lengths =>
    let newLength := if cacher i < 0 then int32Max else cacher i
    if prevLength ≤ newLength then
      initLengthsFrom cacher n (i + 1) newLength (Function.update lengths (i + 1) newLength)
    else none

/-- `Spline::initLengths`; `cacher` gives what the initializer returns at each node. -/
def initLengths (cacher : Nat → Int) : Option Spline :=
  (initLengthsFrom cacher (sp.indexHi - sp.indexLo) sp.indexLo 0 sp.lengths).map fun lengths =>
    { sp with lengths := lengths }

/-- The lengths start at zero, do not fall, and do not end there. -/
structure Measured : Prop where
  lo_lt_hi : sp.indexLo < sp.indexHi
  lo : sp.lengths sp.indexLo = 0
  mono : ∀ i, sp.indexLo ≤ i → i < sp.indexHi → sp.lengths i ≤ sp.lengths (i + 1)
  total : minimalDuration ≤ sp.length

end Spline

inductive UpdateResult
  | none | arrived | nextCycle | nextSegment

/-- The part of a spline movement that `updateState` reads. `done` is the flag in `splineflags`; the
times are 32-bit words, and none of them ever exceeds the greatest length. -/
structure MoveSpline where
  spline : Spline
  timePassed : Int
  pointIdx : Nat
  done : Bool

namespace MoveSpline

variable (s : MoveSpline)

/-- The end of `MoveSpline::init_spline`: the lengths are computed, and a spline without any gets a
length of its own. -/
def initSpline (cacher : Nat → Int) : Option MoveSpline :=
  (s.spline.initLengths cacher).map fun sp =>
    let sp := if sp.length < minimalDuration then
      sp.setLength sp.indexHi (if sp.cyclic then 1000 else 1) else sp
    { s with spline := sp, pointIdx := sp.indexLo }

/-- `MoveSpline::Initialize` with a path of `count` points, where `done` is not set. The array of lengths is
resized, and what it holds of an earlier path is not cleared. -/
def initializeSpline (count : Nat) (cyclic : Bool) (cacher : Nat → Int) : Option MoveSpline :=
  let indexHi := if cyclic then count + 1 else count
  let lengths i := if i ≤ indexHi then s.spline.lengths i else 0
  initSpline ⟨⟨lengths, 1, indexHi, cyclic⟩, 0, 1, false⟩ cacher

def initialized : Bool := !s.spline.isEmpty

def duration : Int := if s.initialized then s.spline.length else 0

def nextTimestamp : Int := s.spline.lengths (s.pointIdx + 1)

def segmentTimeElapsed : Int := s.nextTimestamp - s.timePassed

/-- `MoveSpline::_Finalize`. -/
def finalize : MoveSpline :=
  { s with done := true, pointIdx := s.spline.indexHi - 1, timePassed := s.duration }

def nextPoint (left : Int) : MoveSpline × Int × UpdateResult :=
  let next := { s with pointIdx := s.pointIdx + 1 }
  if next.pointIdx < s.spline.indexHi then (next, left, .nextSegment)
  else if s.spline.cyclic then
    ({ next with pointIdx := s.spline.indexLo, timePassed := s.timePassed.tmod s.duration }, left, .nextCycle)
  else (next.finalize, 0, .arrived)

/-- `MoveSpline::_updateState`, with what is left of the time. There is no result when the assertion
fails. -/
def _updateState (msTimeDiff : Int) : Option (MoveSpline × Int × UpdateResult) :=
  if s.done then some (s, 0, .arrived)
  else
    let minimalDiff := min msTimeDiff s.segmentTimeElapsed
    if minimalDiff < 0 then none
    else
      let moved := { s with timePassed := s.timePassed + minimalDiff }
      let left := msTimeDiff - minimalDiff
      if moved.nextTimestamp ≤ moved.timePassed then some (moved.nextPoint left)
      else some (moved, left, .none)

/-- `MoveSpline::updateState`. There is no result when an assertion fails or the loop goes on for
more than so many turns. -/
def updateState (s : MoveSpline) : Nat → Int → Option MoveSpline
  | 0, _ => none
  | fuel + 1, difftime =>
    if !s.initialized then none
    else match s._updateState difftime with
      | none => none
      | some (next, left, _) => if 0 < left then next.updateState fuel left else some next

end MoveSpline

/-!
## Spline progress does not depend on the update granularity

A turn that stays on its segment can be taken in two parts, and one that reaches the end of the segment
leaves the rest of the time to the turns behind it.
-/

namespace Spline

variable {sp : Spline}

theorem Measured.lengths_le (h : sp.Measured) {i j : Nat} (hi : sp.indexLo ≤ i) (hij : i ≤ j)
    (hj : j ≤ sp.indexHi) : sp.lengths i ≤ sp.lengths j := by
  induction j, hij using Nat.le_induction with
  | base => exact le_refl _
  | succ j hij ih => exact (ih (by omega)).trans (h.mono j (hi.trans hij) hj)

private theorem initLengthsFrom_spec {cacher : Nat → Int} {n i : Nat} {prev : Int}
    {lengths out : Nat → Int} (hprev : lengths i = prev) (h : initLengthsFrom cacher n i prev lengths = some out) :
    (∀ j ≤ i, out j = lengths j) ∧ ∀ j, i ≤ j → j < i + n → out j ≤ out (j + 1) := by
  induction n generalizing i prev lengths with
  | zero =>
    obtain rfl : lengths = out := by simpa [initLengthsFrom] using h
    exact ⟨fun _ _ => rfl, fun j hj hlt => by omega⟩
  | succ n ih =>
    simp only [initLengthsFrom] at h
    generalize (if cacher i < 0 then int32Max else cacher i) = newLength at h
    split at h
    next hle =>
      obtain ⟨hkept, hmono⟩ := ih (Function.update_self _ _ _) h
      have hbefore : ∀ j ≤ i, out j = lengths j := by
        intro j hj
        rw [hkept j (by omega), Function.update_of_ne (by omega)]
      refine ⟨hbefore, fun j hj hlt => ?_⟩
      rcases hj.eq_or_lt with rfl | hj
      · rw [hbefore i le_rfl, hkept (i + 1) le_rfl, Function.update_self, hprev]
        exact hle
      · exact hmono j hj (by omega)
    next => cases h

end Spline

namespace MoveSpline

variable {s s' : MoveSpline} {d : Int}

/-- The time is one at which the spline is on the segment of its point. -/
structure OnSegment (s : MoveSpline) : Prop where
  lo : s.spline.indexLo ≤ s.pointIdx
  hi : s.pointIdx < s.spline.indexHi
  start : s.spline.lengths s.pointIdx ≤ s.timePassed
  stop : s.timePassed ≤ s.nextTimestamp

structure Running (s : MoveSpline) : Prop where
  measured : s.spline.Measured
  onSegment : s.OnSegment
  done : s.done = false

/-- The update ends, in `s'`, whatever number of turns it is allowed above some bound. -/
def Updates (s : MoveSpline) (d : Int) (s' : MoveSpline) : Prop :=
  ∃ turns, ∀ fuel, turns < fuel → s.updateState fuel d = some s'

theorem running_initSpline {cacher : Nat → Int} (hlt : s.spline.indexLo < s.spline.indexHi)
    (hlo : s.spline.lengths s.spline.indexLo = 0) (htime : s.timePassed = 0) (hdone : s.done = false)
    (h : s.initSpline cacher = some s') : s'.Running := by
  simp only [initSpline, Spline.initLengths, Option.map_map, Option.map_eq_some_iff] at h
  obtain ⟨lengths, hlengths, rfl⟩ := h
  obtain ⟨hkept, hmono⟩ := Spline.initLengthsFrom_spec hlo hlengths
  have hstart : lengths s.spline.indexLo = 0 := by rw [hkept _ le_rfl, hlo]
  have hmeasured : Spline.Measured
      (if ({ s.spline with lengths := lengths } : Spline).length < minimalDuration then
        ({ s.spline with lengths := lengths } : Spline).setLength s.spline.indexHi
          (if s.spline.cyclic then 1000 else 1)
      else { s.spline with lengths := lengths }) := by
    split
    next hshort =>
      -- all lengths are those of the start, so any last one is above them
      have hlast : minimalDuration ≤ if s.spline.cyclic then 1000 else 1 := by
        unfold minimalDuration
        split <;> decide
      refine ⟨hlt, ?_, fun i hi hlt' => ?_, ?_⟩
      · simpa [Spline.setLength, hlt.ne] using hstart
      · change Function.update lengths _ _ i ≤ Function.update lengths _ _ (i + 1)
        have hle := hmono i hi (by change i < s.spline.indexHi at hlt'; omega)
        rw [Function.update_of_ne (by change i < s.spline.indexHi at hlt'; omega)]
        by_cases hend : i + 1 = s.spline.indexHi
        · rw [hend, Function.update_self]
          rw [hend] at hle
          exact (hle.trans_lt hshort).le.trans hlast
        · rwa [Function.update_of_ne hend]
      · simpa [Spline.length, Spline.setLength] using hlast
    next hlong =>
      refine ⟨hlt, hstart, fun i hi hlt' => hmono i hi ?_, not_lt.mp hlong⟩
      change i < s.spline.indexHi at hlt'
      omega
  have hlo' := hmeasured.lo
  have hfirst := hmeasured.mono _ le_rfl hmeasured.lo_lt_hi
  refine ⟨hmeasured, ⟨le_rfl, hmeasured.lo_lt_hi, ?_, ?_⟩, hdone⟩
  · exact hlo'.trans htime.symm |>.le
  · exact htime.trans hlo'.symm |>.le.trans hfirst

theorem OnSegment.initialized (h : s.OnSegment) : s.initialized := by
  have hne : s.spline.indexLo ≠ s.spline.indexHi := (h.lo.trans_lt h.hi).ne
  simp [MoveSpline.initialized, Spline.isEmpty, hne]

theorem OnSegment.duration (h : s.OnSegment) : s.duration = s.spline.length := by
  simp [MoveSpline.duration, h.initialized]

theorem Running.segmentTimeElapsed_nonneg (h : s.Running) : 0 ≤ s.segmentTimeElapsed :=
  Int.sub_nonneg_of_le h.onSegment.stop

theorem Running.nextTimestamp_le (h : s.Running) : s.nextTimestamp ≤ s.spline.length :=
  h.measured.lengths_le (h.onSegment.lo.trans (Nat.le_succ _)) h.onSegment.hi le_rfl

theorem Running.timePassed_nonneg (h : s.Running) : 0 ≤ s.timePassed := by
  rw [← h.measured.lo]
  exact (h.measured.lengths_le le_rfl h.onSegment.lo h.onSegment.hi.le).trans h.onSegment.start

def atNextTimestamp (s : MoveSpline) : MoveSpline := { s with timePassed := s.nextTimestamp }

def advance (s : MoveSpline) : MoveSpline := (s.atNextTimestamp.nextPoint 0).1

theorem updateTurn_eq (hdone : s.done = false) {used : Int}
    (hused : min d s.segmentTimeElapsed = used) (hnonneg : 0 ≤ used) : s._updateState d =
      if s.nextTimestamp ≤ s.timePassed + used then
        some (({ s with timePassed := s.timePassed + used } : MoveSpline).nextPoint (d - used))
      else some ({ s with timePassed := s.timePassed + used }, d - used, .none) := by
  rw [_updateState, if_neg (by simp [hdone])]
  dsimp only
  rw [hused, if_neg hnonneg.not_gt]
  rfl

theorem updateTurn_of_lt (h : s.Running) (hd : 0 < d) (hlt : d < s.segmentTimeElapsed) :
    s._updateState d = some ({ s with timePassed := s.timePassed + d }, 0, .none) := by
  have hstay : s.timePassed + d < s.nextTimestamp := by
    rw [segmentTimeElapsed] at hlt
    omega
  rw [updateTurn_eq h.done (min_eq_left hlt.le) hd.le, if_neg (not_le.mpr hstay), Int.sub_self]

theorem updateTurn_of_le (h : s.Running) (hle : s.segmentTimeElapsed ≤ d) :
    s._updateState d = some (s.atNextTimestamp.nextPoint (d - s.segmentTimeElapsed)) := by
  have hend : s.timePassed + s.segmentTimeElapsed = s.nextTimestamp := by
    rw [segmentTimeElapsed]
    omega
  rw [updateTurn_eq h.done (min_eq_right hle) h.segmentTimeElapsed_nonneg, hend, if_pos le_rfl]
  rfl

theorem nextPoint_segment (h : s.pointIdx + 1 < s.spline.indexHi) (left : Int) :
    s.nextPoint left = ({ s with pointIdx := s.pointIdx + 1 }, left, .nextSegment) := by
  simp [nextPoint, h]

theorem nextPoint_cycle (h : s.spline.indexHi ≤ s.pointIdx + 1) (hcyclic : s.spline.cyclic = true)
    (left : Int) : s.nextPoint left =
      ({ s with pointIdx := s.spline.indexLo, timePassed := s.timePassed.tmod s.duration }, left,
        .nextCycle) := by
  simp [nextPoint, not_lt.mpr h, hcyclic]

theorem nextPoint_arrived (h : s.spline.indexHi ≤ s.pointIdx + 1) (hsingle : s.spline.cyclic = false)
    (left : Int) : s.nextPoint left = (s.finalize, 0, .arrived) := by
  simp [nextPoint, not_lt.mpr h, hsingle, finalize, MoveSpline.duration, MoveSpline.initialized]

/-- What the end of a segment leads to. -/
inductive Advanced (s : MoveSpline) : Prop
  | nextSegment (running : s.advance.Running) (point : s.advance.pointIdx = s.pointIdx + 1)
      (time : s.advance.timePassed = s.nextTimestamp)
      (turn : ∀ left, ∃ r, s.atNextTimestamp.nextPoint left = (s.advance, left, r))
  | nextCycle (cyclic : s.spline.cyclic = true) (running : s.advance.Running)
      (stop : s.nextTimestamp = s.spline.length) (time : s.advance.timePassed = 0)
      (turn : ∀ left, ∃ r, s.atNextTimestamp.nextPoint left = (s.advance, left, r))
  | arrived (single : s.spline.cyclic = false) (onSegment : s.advance.OnSegment)
      (stop : s.nextTimestamp = s.spline.length) (done : s.advance.done = true)
      (turn : ∀ left, ∃ r, s.atNextTimestamp.nextPoint left = (s.advance, 0, r))

theorem advance_spline (s : MoveSpline) : s.advance.spline = s.spline := by
  rw [advance, nextPoint]
  dsimp only
  split
  · rfl
  · split <;> rfl

private theorem Running.advanced_segment (h : s.Running) (hnext : s.pointIdx + 1 < s.spline.indexHi) : s.Advanced := by
  have hlo := h.onSegment.lo.trans (Nat.le_succ _)
  have hturn := @nextPoint_segment s.atNextTimestamp hnext
  have hadv : s.advance = { s.atNextTimestamp with pointIdx := s.pointIdx + 1 } := by
    rw [advance, hturn]
    rfl
  refine .nextSegment ?_ (by rw [hadv]) (by rw [hadv]; rfl) fun left => ⟨_, by rw [hturn, hadv]; rfl⟩
  rw [hadv]
  exact ⟨h.measured, ⟨hlo, hnext, le_rfl, h.measured.mono _ hlo hnext⟩, h.done⟩

private theorem Running.advanced_last (h : s.Running) (hlast : s.pointIdx + 1 = s.spline.indexHi) : s.Advanced := by
  have hseg := h.onSegment
  have hstop : s.nextTimestamp = s.spline.length := by rw [nextTimestamp, hlast, Spline.length]
  have hduration : s.atNextTimestamp.duration = s.spline.length := hseg.duration
  cases hcyclic : s.spline.cyclic with
  | true =>
    have hturn := @nextPoint_cycle s.atNextTimestamp hlast.ge hcyclic
    have hzero : s.atNextTimestamp.timePassed.tmod s.atNextTimestamp.duration = 0 := by
      rw [hduration, atNextTimestamp, hstop, Int.tmod_self]
    rw [hzero] at hturn
    have hadv : s.advance = { s with pointIdx := s.spline.indexLo, timePassed := 0 } := by
      rw [advance, hturn]
      rfl
    refine .nextCycle hcyclic ?_ hstop (by rw [hadv]) fun left => ⟨_, by rw [hturn, hadv]; rfl⟩
    rw [hadv]
    refine ⟨h.measured, ⟨le_rfl, h.measured.lo_lt_hi, h.measured.lo.le, ?_⟩, h.done⟩
    exact h.measured.lo.ge.trans (h.measured.mono _ le_rfl h.measured.lo_lt_hi)
  | false =>
    have hturn := @nextPoint_arrived s.atNextTimestamp hlast.ge hcyclic
    have hadv : s.advance = s.atNextTimestamp.finalize := by rw [advance, hturn]
    refine .arrived hcyclic ?_ hstop (by rw [hadv]; rfl) fun left => ⟨_, by rw [hturn, hadv]⟩
    have hpoint : s.spline.indexHi - 1 = s.pointIdx := by omega
    rw [hadv]
    refine ⟨?_, ?_, ?_, ?_⟩
    · exact hpoint.ge.trans' hseg.lo
    · exact hpoint.trans_lt hseg.hi
    · change s.spline.lengths (s.spline.indexHi - 1) ≤ s.atNextTimestamp.duration
      rw [hpoint, hduration, ← hstop]
      exact hseg.start.trans hseg.stop
    · change s.atNextTimestamp.duration ≤ s.spline.lengths (s.spline.indexHi - 1 + 1)
      rw [hduration, hpoint, hlast, Spline.length]

theorem Running.advanced (h : s.Running) : s.Advanced := by
  have hhi := h.onSegment.hi
  by_cases hnext : s.pointIdx + 1 < s.spline.indexHi
  · exact h.advanced_segment hnext
  · exact h.advanced_last (by omega)

theorem updates_iff_of_stop {next : MoveSpline} {left : Int} {r : UpdateResult}
    (hinit : s.initialized) (hturn : s._updateState d = some (next, left, r)) (hleft : left ≤ 0) :
    s.Updates d s' ↔ s' = next := by
  have hfuel : ∀ fuel, s.updateState (fuel + 1) d = some next := by
    intro fuel
    simp [updateState, hinit, hturn, not_lt.mpr hleft]
  constructor
  · rintro ⟨turns, h⟩
    have hlast := h (turns + 1) (Nat.lt_succ_self _)
    rw [hfuel] at hlast
    exact (Option.some.inj hlast).symm
  · rintro rfl
    refine ⟨0, fun fuel hpos => ?_⟩
    obtain ⟨fuel, rfl⟩ := Nat.exists_eq_succ_of_ne_zero hpos.ne'
    exact hfuel fuel

theorem updates_iff_of_go {next : MoveSpline} {left : Int} {r : UpdateResult}
    (hinit : s.initialized) (hturn : s._updateState d = some (next, left, r)) (hleft : 0 < left) :
    s.Updates d s' ↔ next.Updates left s' := by
  have hfuel : ∀ fuel, s.updateState (fuel + 1) d = next.updateState fuel left := by
    intro fuel
    simp [updateState, hinit, hturn, hleft]
  constructor
  · rintro ⟨turns, h⟩
    refine ⟨turns, fun fuel hlt => ?_⟩
    rw [← hfuel]
    exact h (fuel + 1) (hlt.trans (Nat.lt_succ_self _))
  · rintro ⟨turns, h⟩
    refine ⟨turns + 1, fun fuel hlt => ?_⟩
    obtain ⟨fuel, rfl⟩ := Nat.exists_eq_succ_of_ne_zero (Nat.ne_zero_of_lt hlt)
    rw [hfuel]
    exact h fuel (Nat.lt_of_succ_lt_succ hlt)

theorem updates_iff_of_done (hinit : s.initialized) (hdone : s.done = true) : s.Updates d s' ↔ s' = s :=
  updates_iff_of_stop hinit (if_pos hdone) le_rfl

theorem updates_iff_of_lt (h : s.Running) (hd : 0 < d) (hlt : d < s.segmentTimeElapsed) :
    s.Updates d s' ↔ s' = { s with timePassed := s.timePassed + d } :=
  updates_iff_of_stop h.onSegment.initialized (updateTurn_of_lt h hd hlt) le_rfl

theorem updates_iff_of_arrived (h : s.Running) (hle : s.segmentTimeElapsed ≤ d)
    (hturn : ∀ left, ∃ r, s.atNextTimestamp.nextPoint left = (s.advance, 0, r)) : s.Updates d s' ↔ s' = s.advance := by
  obtain ⟨r, hr⟩ := hturn (d - s.segmentTimeElapsed)
  exact updates_iff_of_stop h.onSegment.initialized ((updateTurn_of_le h hle).trans (by rw [hr]))
    le_rfl

theorem updates_iff_of_advance (h : s.Running) (hle : s.segmentTimeElapsed ≤ d)
    (hturn : ∀ left, ∃ r, s.atNextTimestamp.nextPoint left = (s.advance, left, r)) :
    s.Updates d s' ↔ if d = s.segmentTimeElapsed then s' = s.advance
      else s.advance.Updates (d - s.segmentTimeElapsed) s' := by
  obtain ⟨r, hr⟩ := hturn (d - s.segmentTimeElapsed)
  have hfirst := (updateTurn_of_le h hle).trans (by rw [hr])
  split
  next heq => exact updates_iff_of_stop h.onSegment.initialized hfirst (by omega)
  next hne => exact updates_iff_of_go h.onSegment.initialized hfirst (by omega)

def turnsLeft (s : MoveSpline) (d : Int) : Nat :=
  (d + s.timePassed).toNat * (s.spline.indexHi + 1) + (s.spline.indexHi - s.pointIdx)

private theorem turnsLeft_lt_of_cycle {n m hi x y : Nat} (hlt : n < m) (hx : x ≤ hi) :
    n * (hi + 1) + x < m * (hi + 1) + y := by
  have hmul : (n + 1) * (hi + 1) ≤ m * (hi + 1) := Nat.mul_le_mul_right _ hlt
  rw [Nat.succ_mul] at hmul
  omega

theorem Running.update_induction {motive : MoveSpline → Int → Prop}
    (stay : ∀ s d, s.Running → 0 < d → d < s.segmentTimeElapsed → motive s d)
    (arrive : ∀ s d, s.Running → s.segmentTimeElapsed ≤ d → s.advance.OnSegment →
      s.advance.done = true → s.nextTimestamp = s.spline.length → s.spline.cyclic = false →
      (∀ left, ∃ r, s.atNextTimestamp.nextPoint left = (s.advance, 0, r)) → motive s d)
    (next : ∀ s d, s.Running → s.segmentTimeElapsed ≤ d → s.advance.Running →
      (s.spline.cyclic = false → s.advance.timePassed = s.nextTimestamp) →
      (∀ left, ∃ r, s.atNextTimestamp.nextPoint left = (s.advance, left, r)) →
      (d ≠ s.segmentTimeElapsed → motive s.advance (d - s.segmentTimeElapsed)) → motive s d)
    (h : s.Running) (hd : 0 < d) : motive s d := by
  induction hturns : s.turnsLeft d using Nat.strong_induction_on generalizing s d with
  | _ turns ih =>
    subst hturns
    rcases lt_or_ge d s.segmentTimeElapsed with hlt | hle
    · exact stay s d h hd hlt
    have htime := h.timePassed_nonneg
    have hhi := h.onSegment.hi
    cases h.advanced with
    | arrived single onSegment stop done turn =>
      exact arrive s d h hle onSegment done stop single turn
    | nextSegment running point time turn =>
      refine next s d h hle running (fun _ => time) turn fun hne => ih _ ?_ running (by omega) rfl
      rw [turnsLeft, turnsLeft, advance_spline, time, point]
      have hsame : d - s.segmentTimeElapsed + s.nextTimestamp = d + s.timePassed := by
        rw [segmentTimeElapsed]
        omega
      rw [hsame]
      omega
    | nextCycle cyclic running stop time turn =>
      refine next s d h hle running (fun hsingle => ?_) turn fun hne =>
        ih _ ?_ running (by omega) rfl
      · rw [cyclic] at hsingle
        cases hsingle
      · rw [turnsLeft, turnsLeft, advance_spline, time]
        refine turnsLeft_lt_of_cycle ?_ (Nat.sub_le _ _)
        have htotal := h.measured.total
        rw [← stop] at htotal
        unfold minimalDuration at htotal
        rw [segmentTimeElapsed] at *
        omega

/-- Where an update leads, whether it arrives there or not. -/
structure Moved (s : MoveSpline) (d : Int) (s' : MoveSpline) : Prop where
  spline : s'.spline = s.spline
  onSegment : s'.OnSegment
  beyond : s.spline.cyclic = false → s.duration < s.timePassed + d → s'.done = true
  before : s.spline.cyclic = false → s'.done = true → s.duration ≤ s.timePassed + d

theorem exists_updates (h : s.Running) (hd : 0 < d) : ∃ s', s.Updates d s' ∧ s.Moved d s' := by
  refine h.update_induction (motive := fun s d => ∃ s', s.Updates d s' ∧ s.Moved d s')
    ?stay ?arrive ?next hd
  case stay =>
      intro s d h hd hlt
      have hstay : s.timePassed + d < s.nextTimestamp := by
        rw [segmentTimeElapsed] at hlt
        omega
      refine ⟨_, (updates_iff_of_lt h hd hlt).mpr rfl, rfl, ?_, fun _ hbeyond => ?_, fun _ hdone => ?_⟩
      · have hseg := h.onSegment
        exact ⟨hseg.lo, hseg.hi, by linarith [hseg.start], hstay.le⟩
      · rw [h.onSegment.duration] at hbeyond
        exact absurd h.nextTimestamp_le (by omega)
      · exact absurd hdone (by simp [h.done])
  case arrive =>
      intro s d h hle onSegment done stop single turn
      refine ⟨_, (updates_iff_of_arrived h hle turn).mpr rfl, s.advance_spline, onSegment,
        fun _ _ => done, fun _ _ => ?_⟩
      rw [h.onSegment.duration, ← stop]
      rw [segmentTimeElapsed] at hle
      omega
  case next =>
      intro s d h hle running time turn ih
      have hiff := @updates_iff_of_advance s
      have hduration : s.advance.duration = s.duration := by
        rw [running.onSegment.duration, h.onSegment.duration, advance_spline]
      by_cases heq : d = s.segmentTimeElapsed
      · refine ⟨s.advance, (hiff h hle turn).mpr (by rw [if_pos heq]), s.advance_spline,
          running.onSegment, fun _ hbeyond => ?_, fun _ hdone => ?_⟩
        · have hle' := h.nextTimestamp_le
          rw [h.onSegment.duration] at hbeyond
          rw [segmentTimeElapsed] at heq
          omega
        · exact absurd hdone (by simp [running.done])
      · obtain ⟨s', hs', hmoved⟩ := ih heq
        have htotal : s.spline.cyclic = false →
            s.advance.timePassed + (d - s.segmentTimeElapsed) = s.timePassed + d := by
          intro hsingle
          rw [time hsingle, segmentTimeElapsed]
          omega
        refine ⟨s', (hiff h hle turn).mpr (by rwa [if_neg heq]),
          hmoved.spline.trans s.advance_spline, hmoved.onSegment, fun hsingle hbeyond => ?_,
          fun hsingle hdone => ?_⟩
        · refine hmoved.beyond (by rwa [advance_spline]) ?_
          rwa [hduration, htotal hsingle]
        · rw [← hduration, ← htotal hsingle]
          exact hmoved.before (by rwa [advance_spline]) hdone

private theorem updateTurn_add {b : Int} (h : s.Running) (hd : 0 < d) (hlt : d < s.segmentTimeElapsed)
    (hb : 0 < b) : s._updateState (d + b) =
      ({ s with timePassed := s.timePassed + d } : MoveSpline)._updateState b := by
  have hrest : min b ({ s with timePassed := s.timePassed + d } : MoveSpline).segmentTimeElapsed =
      min b (s.segmentTimeElapsed - d) := congrArg (min b) (Int.sub_sub _ _ _).symm
  have hmin : min (d + b) s.segmentTimeElapsed = d + min b (s.segmentTimeElapsed - d) := by omega
  have hpos : 0 < min b (s.segmentTimeElapsed - d) := by omega
  have hleft : d + b - (d + min b (s.segmentTimeElapsed - d)) =
      b - min b (s.segmentTimeElapsed - d) := by omega
  rw [updateTurn_eq h.done hmin (Int.add_pos hd hpos).le, hleft, ← Int.add_assoc]
  exact (@updateTurn_eq { s with timePassed := s.timePassed + d } b h.done _ hrest hpos.le).symm

private theorem updates_congr {t : MoveSpline} {b : Int} (hs : s.initialized) (ht : t.initialized)
    (hturn : s._updateState d = t._updateState b) : s.Updates d s' ↔ t.Updates b s' := by
  have hfuel : ∀ fuel, s.updateState fuel d = t.updateState fuel b := by
    intro fuel
    cases fuel with
    | zero => rfl
    | succ fuel => simp [updateState, hs, ht, hturn]
  simp [Updates, hfuel]

theorem updates_add_iff {a b : Int} {s₁ s₂ : MoveSpline} (h : s.Running) (ha : 0 < a) (hb : 0 < b)
    (h₁ : s.Updates a s₁) : s.Updates (a + b) s₂ ↔ s₁.Updates b s₂ := by
  refine h.update_induction
    (motive := fun s a => ∀ s₁, s.Updates a s₁ → (s.Updates (a + b) s₂ ↔ s₁.Updates b s₂))
    ?stay ?arrive ?next ha s₁ h₁
  case stay =>
    intro s d h hd hlt s₁ h₁
    obtain rfl := (updates_iff_of_lt h hd hlt).mp h₁
    exact updates_congr h.onSegment.initialized h.onSegment.initialized (updateTurn_add h hd hlt hb)
  case arrive =>
    intro s d h hle onSegment done _ _ turn s₁ h₁
    obtain rfl := (updates_iff_of_arrived h hle turn).mp h₁
    rw [updates_iff_of_arrived h (by omega) turn, updates_iff_of_done onSegment.initialized done]
  case next =>
    intro s d h hle running _ turn ih s₁ h₁
    have hlong : d + b ≠ s.segmentTimeElapsed := by omega
    rw [updates_iff_of_advance h (by omega) turn, if_neg hlong]
    rw [updates_iff_of_advance h hle turn] at h₁
    by_cases heq : d = s.segmentTimeElapsed
    · rw [if_pos heq] at h₁
      rw [h₁, heq, add_sub_cancel_left]
    · rw [if_neg heq] at h₁
      rw [← ih heq s₁ h₁]
      have hrest : d + b - s.segmentTimeElapsed = d - s.segmentTimeElapsed + b := by omega
      rw [hrest]

/-- Updates by several times lead from `s` to `s'`. -/
def UpdatesBy : MoveSpline → List Int → MoveSpline → Prop
  | s, [], s' => s' = s
  | s, d :: ds, s' => ∃ t, s.Updates d t ∧ UpdatesBy t ds s'

theorem exists_updatesBy {a : Int} {s₁ : MoveSpline} {ds : List Int} (h : s.Running) (ha : 0 < a)
    (hds : ∀ d ∈ ds, 0 < d) (h₁ : s.Updates a s₁) (hmoved : s.Moved a s₁) :
    ∃ s', s₁.UpdatesBy ds s' ∧ s.Updates (a + ds.sum) s' ∧ s.Moved (a + ds.sum) s' := by
  induction ds generalizing a s₁ with
  | nil => exact ⟨s₁, rfl, by simpa using h₁, by simpa using hmoved⟩
  | cons d ds ih =>
    have hd := hds d List.mem_cons_self
    obtain ⟨s₂, h₂, hmoved₂⟩ := exists_updates h (Int.add_pos ha hd)
    obtain ⟨s', hs', hsum⟩ := ih (Int.add_pos ha hd) (fun d hmem => hds d (List.mem_cons_of_mem _ hmem)) h₂ hmoved₂
    rw [add_assoc, ← List.sum_cons] at hsum
    exact ⟨s', ⟨s₂, (updates_add_iff h ha hd h₁).mp h₂, hs'⟩, hsum⟩

theorem lengths_initSpline {cacher : Nat → Int} (hlo : s.spline.lengths s.spline.indexLo = 0)
    (hlt : s.spline.indexLo < s.spline.indexHi) (h : s.initSpline cacher = some s') :
    s'.spline.lengths s.spline.indexLo = 0 := by
  simp only [initSpline, Spline.initLengths, Option.map_map, Option.map_eq_some_iff] at h
  obtain ⟨lengths, hlengths, rfl⟩ := h
  have hstart := (Spline.initLengthsFrom_spec hlo hlengths).1 _ le_rfl
  rw [hlo] at hstart
  dsimp only [Function.comp_apply]
  split
  · simpa [Spline.setLength, hlt.ne] using hstart
  · exact hstart

/-- However a spline was used before, the next path starts at time zero, and any number of updates leads where one
by the sum of their times does. -/
theorem initializeSpline_granularity {count : Nat} {cyclic : Bool} {cacher : Nat → Int} {ds : List Int}
    (hstart : s.spline.lengths 1 = 0) (hcount : 2 ≤ count) (h : s.initializeSpline count cyclic cacher = some s')
    (hne : ds ≠ []) (hds : ∀ d ∈ ds, 0 < d) : ∃ s₁, s'.UpdatesBy ds s₁ ∧ s'.Updates ds.sum s₁ ∧
      s'.Moved ds.sum s₁ ∧ s₁.spline.lengths 1 = 0 := by
  have hlt : 1 < if cyclic then count + 1 else count := by split <;> omega
  have hlo : (if 1 ≤ if cyclic then count + 1 else count then s.spline.lengths 1 else 0) = 0 := by
    rw [if_pos hlt.le, hstart]
  have hrunning : s'.Running := running_initSpline hlt hlo rfl rfl h
  cases ds with
  | nil => exact absurd rfl hne
  | cons d ds =>
    have hd := hds d List.mem_cons_self
    obtain ⟨t, ht, hmoved⟩ := exists_updates hrunning hd
    obtain ⟨s₁, hs₁, hone, hmoved₁⟩ :=
      exists_updatesBy hrunning hd (fun d hmem => hds d (List.mem_cons_of_mem _ hmem)) ht hmoved
    refine ⟨s₁, ⟨t, ht, hs₁⟩, hone, hmoved₁, ?_⟩
    rw [hmoved₁.spline]
    exact lengths_initSpline hlo hlt h

private def parked : MoveSpline := ⟨⟨Function.const Nat 0, 0, 0, false⟩, 0, 0, true⟩

theorem initializeSpline_granularity_parked : ∃ s' ∈ parked.initializeSpline 2 false (Function.const Nat 401),
    ∃ s₁, s'.UpdatesBy [100, 200] s₁ ∧ s'.Updates 300 s₁ ∧ s'.Moved 300 s₁ ∧ s₁.spline.lengths 1 = 0 :=
  ⟨_, rfl, @initializeSpline_granularity parked _ 2 false (Function.const Nat 401) [100, 200] rfl (by decide) rfl
    (by decide) (by decide)⟩

end MoveSpline

/-- Every update of a running spline ends, on a segment. Two updates lead where one by the sum of their times does,
and one that is no cycle arrives in time. -/
theorem updateState_granularity {s : MoveSpline} (h : s.Running) {a b : Int} (ha : 0 < a)
    (hb : 0 < b) : ∃ s₁ s₂, s.Updates a s₁ ∧ s₁.Updates b s₂ ∧ s.Updates (a + b) s₂ ∧
      s.Moved a s₁ ∧ s.Moved (a + b) s₂ := by
  obtain ⟨s₁, h₁, hmoved⟩ := MoveSpline.exists_updates h ha
  obtain ⟨s₂, h₂, hmoved'⟩ := MoveSpline.exists_updates h (Int.add_pos ha hb)
  exact ⟨s₁, s₂, h₁, (MoveSpline.updates_add_iff h ha hb h₁).mp h₂, h₂, hmoved, hmoved'⟩

/-- A patrol around four points, two of which are the same. -/
private def patrol : MoveSpline where
  spline :=
    { lengths := fun i => [0, 0, 400, 400, 1000, 1400].getD i 0
      indexLo := 1
      indexHi := 5
      cyclic := true }
  timePassed := 0
  pointIdx := 1
  done := false

private theorem patrol_running : patrol.Running where
  measured := by
    refine ⟨by decide, rfl, fun i hlo hhi => ?_, by decide⟩
    change 1 ≤ i at hlo
    change i < 5 at hhi
    interval_cases i <;> decide
  onSegment := ⟨by decide, by decide, by decide, by decide⟩
  done := rfl

theorem updateState_granularity_patrol : ∃ s₁ s₂, patrol.Updates 400 s₁ ∧ s₁.Updates 1500 s₂ ∧
    patrol.Updates (400 + 1500) s₂ ∧ patrol.Moved 400 s₁ ∧ patrol.Moved (400 + 1500) s₂ :=
  updateState_granularity patrol_running (by decide) (by decide)

/-- It goes once around, and over the pair of equal points twice. -/
example : (patrol.updateState 9 1900).map (fun s => (s.pointIdx, s.timePassed)) = some (3, 500) := by
  decide +kernel

end Mangos
