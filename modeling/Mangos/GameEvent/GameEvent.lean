import Mangos.Framework.Switches
import Mangos.Framework.Words

/-!
# Game events

An event takes place again and again between its start and its end: every `occurence` minutes for
`length` minutes.
-/

namespace Mangos

open Framework

structure GameEventData where
  start : Int
  endTime : Int
  occurence : UInt32
  length : UInt32
  deriving DecidableEq, Repr

def maxGeCheckDelay : UInt32 := 86400

namespace GameEventData

variable (e : GameEventData)

/-- The checks of `LoadFromDB`. -/
def IsAccepted : Prop := e.length ≠ 0 ∧ e.length ≤ e.occurence

instance : Decidable e.IsAccepted := inferInstanceAs (Decidable (_ ∧ _))

/-- `occurence * MINUTE`. -/
def period : Nat := (e.occurence * 60).toNat

/-- `length * MINUTE`. -/
def duration : Nat := (e.length * 60).toNat

def phase (now : Int) : Int := (now - e.start) % e.period

def checkOneGameEvent (now : Int) : Bool :=
  e.start < now && now < e.endTime && e.period ≠ 0 && e.phase now < e.duration

def nextCheck (now : Int) : UInt32 :=
  if e.endTime < now then maxGeCheckDelay
  else if now < e.start then UInt32.ofInt (e.start - now)
  else
    let delay : UInt32 :=
      if e.phase now < e.duration then UInt32.ofInt (e.duration - e.phase now)
      else UInt32.ofInt (e.period - e.phase now)
    if e.endTime < now + delay.toNat then UInt32.ofInt (e.endTime - now) else delay

variable {e}

theorem period_lt (e : GameEventData) : e.period < 2 ^ 32 := (e.occurence * 60).toNat_lt

theorem duration_lt (e : GameEventData) : e.duration < 2 ^ 32 := (e.length * 60).toNat_lt

theorem four_dvd_minutes (minutes : UInt32) : 4 ∣ (minutes * 60).toNat := by
  rw [UInt32.toNat_mul]
  change 4 ∣ minutes.toNat * 60 % 2 ^ 32
  omega

theorem phase_nonneg (hperiod : e.period ≠ 0) (now : Int) : 0 ≤ e.phase now :=
  Int.emod_nonneg _ (by omega)

theorem phase_lt (hperiod : e.period ≠ 0) (now : Int) : e.phase now < e.period :=
  Int.emod_lt_of_pos _ (by omega)

theorem phase_add {now d : Int} : e.phase (now + d) = (e.phase now + d) % e.period := by
  rw [phase, phase, Int.emod_add_emod]
  congr 1
  omega

theorem phase_add_of_lt (now : Int) {d : Int} (h : 0 ≤ e.phase now + d) (h' : e.phase now + d < e.period) :
    e.phase (now + d) = e.phase now + d := by
  rw [phase_add, Int.emod_eq_of_lt h h']

theorem phase_add_of_eq {now d : Int} (h : e.phase now + d = e.period) : e.phase (now + d) = 0 := by
  rw [phase_add, h, Int.emod_self]

theorem nextCheck_before {now : Int} (hend : now ≤ e.endTime) (hstart : now < e.start) :
    (e.nextCheck now).toNat ≤ e.start - now := by
  rw [nextCheck, if_neg (by omega), if_pos hstart, toNat_ofInt]
  omega

theorem nextCheck_within {now : Int} (hperiod : e.period ≠ 0) (hstart : e.start ≤ now)
    (hend : now ≤ e.endTime) : ∃ delay : Int, (e.nextCheck now).toNat = min delay (e.endTime - now) ∧
      (e.phase now < e.duration ∧ delay = e.duration - e.phase now ∨
        e.duration ≤ e.phase now ∧ delay = e.period - e.phase now) := by
  have hphase := phase_nonneg hperiod now
  have hlt := phase_lt hperiod now
  have hperiod_lt := e.period_lt
  have hduration_lt := e.duration_lt
  have hwait : ∀ delay : Int, 0 ≤ delay → delay < 2 ^ 32 →
      ((if e.endTime < now + (UInt32.ofInt delay).toNat then UInt32.ofInt (e.endTime - now)
        else UInt32.ofInt delay).toNat : Int) = min delay (e.endTime - now) := by
    intro delay hpos hsmall
    have hdelay := toNat_ofInt_of_lt hpos hsmall
    split
    case isTrue hover => rw [toNat_ofInt_of_lt (by omega) (by omega)]; omega
    case isFalse hunder => omega
  rw [nextCheck, if_neg (by omega), if_neg (by omega)]
  dsimp only
  by_cases hin : e.phase now < e.duration
  · refine ⟨_, ?_, .inl ⟨hin, rfl⟩⟩
    rw [if_pos hin]
    exact hwait _ (by omega) (by omega)
  · refine ⟨_, ?_, .inr ⟨by omega, rfl⟩⟩
    rw [if_neg hin]
    exact hwait _ (by omega) (by omega)

theorem checkOneGameEvent_eq_true {now : Int} : e.checkOneGameEvent now = true ↔
      e.start < now ∧ now < e.endTime ∧ e.period ≠ 0 ∧ e.phase now < e.duration := by
  simp [checkOneGameEvent, and_assoc]

theorem checkOneGameEvent_eq_false {now : Int} : e.checkOneGameEvent now = false ↔
      (e.start < now → now < e.endTime → e.period ≠ 0 → e.duration ≤ e.phase now) := by
  rw [← Bool.not_eq_true, checkOneGameEvent_eq_true]
  simp only [not_and, Int.not_lt]

theorem check_of_phase {t : Int} (hperiod : e.period ≠ 0) (hstart : e.start < t)
    (hend : t < e.endTime) (hphase : e.phase t < e.duration) : e.checkOneGameEvent t = true :=
  checkOneGameEvent_eq_true.mpr ⟨hstart, hend, hperiod, hphase⟩

theorem check_after {t : Int} (hend : e.endTime ≤ t) : e.checkOneGameEvent t = false :=
  checkOneGameEvent_eq_false.mpr (by omega)

theorem check_before {t : Int} (hstart : t ≤ e.start) : e.checkOneGameEvent t = false :=
  checkOneGameEvent_eq_false.mpr (by omega)

theorem check_of_pause {t : Int} (hphase : e.duration ≤ e.phase t) : e.checkOneGameEvent t = false :=
  checkOneGameEvent_eq_false.mpr fun _ _ _ => hphase

theorem phase_lt_duration (hperiod : e.period ≠ 0) (now : Int) {t : Int} (hle : now ≤ t)
    (h : e.phase now + (t - now) < e.duration) : e.phase t < e.duration := by
  have hphase := phase_nonneg hperiod now
  by_cases hwrap : e.phase now + (t - now) < e.period
  · have hadd := phase_add_of_lt (e := e) now (d := t - now) (by omega) hwrap
    rw [show now + (t - now) = t by omega] at hadd
    omega
  · have hlt := phase_lt hperiod t
    omega

theorem duration_le_phase (hperiod : e.period ≠ 0) (now : Int) {t : Int} (hle : now ≤ t)
    (h : e.duration ≤ e.phase now + (t - now)) (h' : e.phase now + (t - now) < e.period) : e.duration ≤ e.phase t := by
  have hphase := phase_nonneg hperiod now
  have hadd := phase_add_of_lt (e := e) now (d := t - now) (by omega) h'
  rw [show now + (t - now) = t by omega] at hadd
  omega

theorem steady_until_nextCheck (e : GameEventData) (now : Int) :
    Steady e.checkOneGameEvent (now + 1) (now + (e.nextCheck now).toNat - 1) := by
  by_cases hperiod : e.period = 0
  · exact steady_of_forall fun t _ _ =>
      checkOneGameEvent_eq_false.mpr fun _ _ hne => absurd hperiod hne
  by_cases hend : e.endTime < now
  · exact steady_of_forall fun t ht _ => check_after (by omega)
  by_cases hstart : now < e.start
  · have hnext := nextCheck_before (by omega) hstart
    exact steady_of_forall fun t _ ht => check_before (by omega)
  obtain ⟨delay, hnext, ⟨hin, rfl⟩ | ⟨hout, rfl⟩⟩ :=
    nextCheck_within hperiod (Int.not_lt.mp hstart) (Int.not_lt.mp hend)
  · apply steady_of_forall
    intro t ht ht'
    exact check_of_phase hperiod (by omega) (by omega)
      (phase_lt_duration hperiod now (by omega) (by omega))
  · apply steady_of_forall
    intro t ht ht'
    exact check_of_pause (duration_le_phase hperiod now (by omega) (by omega) (by omega))

def LastsASecond (e : GameEventData) : Prop := e.start + 1 < e.endTime ∧ e.phase (e.endTime - 1) = 0

instance (e : GameEventData) : Decidable e.LastsASecond := inferInstanceAs (Decidable (_ ∧ _))

theorem seen_within {now last : Int} (hperiod : e.period ≠ 0) (hstart : e.start < now)
    (hend : now ≤ e.endTime) (hin : e.phase now < e.duration)
    (hlast : last ≤ now + (e.nextCheck now).toNat + 1) : Seen e.checkOneGameEvent now last := by
  obtain ⟨delay, hnext, ⟨-, hdelay⟩ | ⟨hout, -⟩⟩ := nextCheck_within hperiod (by omega) hend
  case inr => omega
  by_cases hover : now = e.endTime
  · exact (steady_single _ (Int.le_refl now)).seen_next (by omega)
  -- The event is on at least until the next check is due.
  have hon : ∀ t, now ≤ t → t < now + (e.nextCheck now).toNat → e.checkOneGameEvent t = true := by
    intro t ht ht'
    exact check_of_phase hperiod (by omega) (by omega)
      (phase_lt_duration hperiod now (by omega) (by omega))
  by_cases hcut : e.endTime ≤ now + (e.nextCheck now).toNat
  · apply Steady.seen (m := now + (e.nextCheck now).toNat - 1)
    · exact steady_of_forall fun t ht ht' => hon t ht (by omega)
    · exact steady_of_forall fun t ht _ => check_after (by omega)
  by_cases hlong : e.period ≤ e.duration
  · apply Steady.seen_next (m := now + (e.nextCheck now).toNat) _ hlast
    apply steady_of_forall
    intro t ht ht'
    have hlt := phase_lt hperiod t
    exact check_of_phase hperiod (by omega) (by omega) (by omega)
  · -- The pause between two occurences is longer than a second.
    have hperiod_four : 4 ∣ e.period := four_dvd_minutes e.occurence
    have hduration_four : 4 ∣ e.duration := four_dvd_minutes e.length
    apply Steady.seen (m := now + (e.nextCheck now).toNat - 1)
    · exact steady_of_forall fun t ht ht' => hon t ht (by omega)
    · exact steady_of_forall fun t ht ht' =>
        check_of_pause (duration_le_phase hperiod now (by omega) (by omega) (by omega))

theorem seen_between {now last : Int} (hperiod : e.period ≠ 0) (hstart : e.start < now)
    (hend : now ≤ e.endTime) (hout : e.duration ≤ e.phase now) (hsecond : ¬ e.LastsASecond)
    (hlast : last ≤ now + (e.nextCheck now).toNat + 1) : Seen e.checkOneGameEvent now last := by
  obtain ⟨delay, hnext, ⟨hin, -⟩ | ⟨-, hdelay⟩⟩ := nextCheck_within hperiod (by omega) hend
  case inl => omega
  have hlt := phase_lt hperiod now
  have hoff : ∀ t, now ≤ t → t < now + (e.nextCheck now).toNat → e.checkOneGameEvent t = false := by
    intro t ht ht'
    exact check_of_pause (duration_le_phase hperiod now (by omega) (by omega) (by omega))
  apply Steady.seen (m := now + (e.nextCheck now).toNat - 1)
  · exact steady_of_forall fun t ht ht' => hoff t ht (by omega)
  by_cases hcut : e.endTime ≤ now + (e.nextCheck now).toNat
  · exact steady_of_forall fun t ht _ => check_after (by omega)
  -- The next occurence begins, and there is more than a second of it.
  have hbegins : e.phase (now + (e.nextCheck now).toNat) = 0 := phase_add_of_eq (by omega)
  have hperiod_four : 4 ∣ e.period := four_dvd_minutes e.occurence
  have hduration_four : 4 ∣ e.duration := four_dvd_minutes e.length
  have hmore : e.endTime ≠ now + (e.nextCheck now).toNat + 1 := by
    intro hsame
    apply hsecond
    refine ⟨by omega, ?_⟩
    rw [hsame, Int.add_sub_cancel]
    exact hbegins
  by_cases hnone : e.duration = 0
  · exact steady_of_forall fun t ht ht' => check_of_pause (by
      have hphase := phase_nonneg hperiod t
      omega)
  · apply steady_of_forall
    intro t ht ht'
    apply check_of_phase hperiod (by omega) (by omega)
    apply phase_lt_duration hperiod (now + (e.nextCheck now).toNat) (by omega)
    omega

theorem seen_at_nextCheck {now last : Int} (hperiod : e.period ≠ 0) (hstart : e.start ≠ now)
    (hsecond : ¬ e.LastsASecond) (hlast : last ≤ now + (e.nextCheck now).toNat + 1) :
    Seen e.checkOneGameEvent now last := by
  by_cases hend : e.endTime < now
  · have hoff : Steady e.checkOneGameEvent now last :=
      steady_of_forall fun t ht _ => check_after (by omega)
    exact hoff.seen_next (by omega)
  by_cases hbefore : now < e.start
  · have hnext := nextCheck_before (Int.not_lt.mp hend) hbefore
    apply Steady.seen_next (m := now + (e.nextCheck now).toNat) _ hlast
    exact steady_of_forall fun t _ ht => check_before (by omega)
  by_cases hin : e.phase now < e.duration
  · exact seen_within hperiod (by omega) (Int.not_lt.mp hend) hin hlast
  · exact seen_between hperiod (by omega) (Int.not_lt.mp hend) (Int.not_lt.mp hin) hsecond hlast

theorem lasts_iff (e : GameEventData) :
    (∀ t, e.start < t → t < e.start + 60 * e.length.toNat → e.checkOneGameEvent t = true) ↔
      e.length = 0 ∨ e.period ≠ 0 ∧ e.start + 60 * e.length.toNat ≤ e.endTime ∧
          (60 * e.length.toNat < 2 ^ 32 ∨ e.period ≤ e.duration) := by
  have hduration : e.duration = 60 * e.length.toNat % 2 ^ 32 := by
    rw [duration, UInt32.toNat_mul, Nat.mul_comm]
    rfl
  have hnone : e.length = 0 ↔ e.length.toNat = 0 := by
    rw [← UInt32.toNat_inj]
    rfl
  have hfirst : e.phase e.start = 0 := by rw [phase, Int.sub_self, Int.zero_emod]
  constructor
  · intro hall
    by_cases hlength : e.length.toNat = 0
    · exact .inl (hnone.mpr hlength)
    right
    have hsecond := hall (e.start + 1) (by omega) (by omega)
    have hlast := hall (e.start + (60 * e.length.toNat - 1 : Nat)) (by omega) (by omega)
    obtain ⟨-, -, hperiod, hbegun⟩ := checkOneGameEvent_eq_true.mp hsecond
    obtain ⟨-, hend, -, -⟩ := checkOneGameEvent_eq_true.mp hlast
    refine ⟨hperiod, by omega, ?_⟩
    by_cases hlong : e.period ≤ e.duration
    · exact .inr hlong
    left
    have hfour : 4 ∣ e.period := four_dvd_minutes e.occurence
    have hone := phase_add_of_lt (e := e) e.start (d := 1) (by omega) (by omega)
    by_cases hover : e.duration < 60 * e.length.toNat
    · -- The event pauses when the truncated duration is over.
      have hpause := hall (e.start + e.duration) (by omega) (by omega)
      have hout := duration_le_phase hperiod e.start (t := e.start + e.duration) (by omega) (by omega)
        (by omega)
      rw [check_of_pause hout] at hpause
      exact absurd hpause Bool.false_ne_true
    · omega
  · rintro (hlength | ⟨hperiod, hend, hlong⟩) t ht ht'
    · have hzero := hnone.mp hlength
      omega
    · apply check_of_phase hperiod ht (by omega)
      have hlt := phase_lt hperiod t
      cases hlong with
      | inl hsmall => exact phase_lt_duration hperiod e.start (by omega) (by omega)
      | inr hmore => omega

end GameEventData

end Mangos
