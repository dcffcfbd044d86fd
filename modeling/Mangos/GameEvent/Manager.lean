import Mangos.Framework.Run
import Mangos.GameEvent.GameEvent
import Mathlib.Logic.Function.Basic

/-!
# The game event manager

The manager starts and stops the events.
-/

namespace Mangos

open Framework Function

/-- `mGameEvent` from its second entry on, and `m_ActiveEvents`. -/
structure GameEventMgr where
  events : List GameEventData
  active : Nat → Bool

namespace GameEventMgr

variable (m : GameEventMgr)

def checkOneGameEvent (id : Nat) (now : Int) : Bool :=
  (m.events[id]?).any (·.checkOneGameEvent now)

def modifyEvent (id : Nat) (change : GameEventData → GameEventData) : GameEventMgr :=
  { m with events := m.events.modify id change }

def startEvent (id : Nat) (overwrite : Bool) (now : Int) : GameEventMgr :=
  let applied := { m with active := update m.active id true }
  if overwrite then
    applied.modifyEvent id fun e =>
      { e with
        start := now
        endTime := if e.endTime ≤ now then now + e.length.toNat else e.endTime }
  else applied

def stopEvent (id : Nat) (overwrite : Bool) (now : Int) : GameEventMgr :=
  let unapplied := { m with active := update m.active id false }
  if overwrite then
    unapplied.modifyEvent id fun e =>
      let start := now - e.duration
      { e with
        start
        endTime := if e.endTime ≤ start then start + e.length.toNat else e.endTime }
  else unapplied

/-- One turn of the loop of `Update`, with the delay until the next check of the events so far. -/
def updateEvent (now : Int) (state : GameEventMgr × UInt32) (id : Nat) : GameEventMgr × UInt32 :=
  let m := state.1
  let checked :=
    if m.checkOneGameEvent id now then if m.active id then m else m.startEvent id false now
    else if m.active id then m.stopEvent id false now else m
  let calcDelay := (checked.events[id]?).elim maxGeCheckDelay (·.nextCheck now)
  (checked, if calcDelay < state.2 then calcDelay else state.2)

/-- `GameEventMgr::Update`, with the delay in milliseconds that it returns. -/
def update (now : Int) : GameEventMgr × UInt32 :=
  let state := (List.range m.events.length).foldl (updateEvent now) (m, maxGeCheckDelay)
  (state.1, (state.2 + 1) * 1000)

theorem updateEvent_events (now : Int) (state : GameEventMgr × UInt32) (id : Nat) :
    (updateEvent now state id).1.events = state.1.events := by
  simp only [updateEvent, startEvent, stopEvent, Bool.false_eq_true, if_false]
  split_ifs <;> rfl

theorem updateEvent_active (now : Int) (state : GameEventMgr × UInt32) (id other : Nat) :
    (updateEvent now state id).1.active other =
      if other = id then state.1.checkOneGameEvent id now else state.1.active other := by
  by_cases hother : other = id
  · subst hother
    simp only [updateEvent, startEvent, stopEvent, Bool.false_eq_true, if_false, if_true]
    split_ifs with hcheck hactive hactive
    · rw [hactive, hcheck]
    · rw [hcheck]
      exact update_self _ _ _
    · rw [Bool.not_eq_true _ |>.mp hcheck]
      exact update_self _ _ _
    · rw [Bool.not_eq_true _ |>.mp hcheck, Bool.not_eq_true _ |>.mp hactive]
  · simp only [updateEvent, startEvent, stopEvent, Bool.false_eq_true, if_false, hother]
    split_ifs
    · rfl
    · exact update_of_ne hother _ _
    · exact update_of_ne hother _ _
    · rfl

theorem updateEvent_delay (now : Int) (state : GameEventMgr × UInt32) (id : Nat) :
    (updateEvent now state id).2 ≤ state.2 ∧
      ∀ e, state.1.events[id]? = some e → (updateEvent now state id).2 ≤ e.nextCheck now := by
  have hevents := updateEvent_events now state id
  simp only [updateEvent] at hevents ⊢
  rw [hevents]
  split_ifs with hless
  · refine ⟨UInt32.le_of_lt hless, fun e he => ?_⟩
    rw [he]
    exact UInt32.le_refl _
  · refine ⟨UInt32.le_refl _, fun e he => ?_⟩
    rw [he] at hless
    exact UInt32.not_lt.mp hless

theorem checkOneGameEvent_congr {m m' : GameEventMgr} (h : m'.events = m.events) (id : Nat) (now : Int) :
    m'.checkOneGameEvent id now = m.checkOneGameEvent id now := by
  rw [checkOneGameEvent, checkOneGameEvent, h]

theorem foldl_updateEvent (now : Int) (ids : List Nat) (state : GameEventMgr × UInt32) :
    (ids.foldl (updateEvent now) state).1.events = state.1.events ∧
      (∀ id, (ids.foldl (updateEvent now) state).1.active id =
        if id ∈ ids then state.1.checkOneGameEvent id now else state.1.active id) ∧
      (ids.foldl (updateEvent now) state).2 ≤ state.2 ∧ ∀ id ∈ ids, ∀ e, state.1.events[id]? = some e →
        (ids.foldl (updateEvent now) state).2 ≤ e.nextCheck now := by
  induction ids generalizing state with
  | nil => simp
  | cons first ids ih =>
    obtain ⟨hevents, hactive, hdelay, hnext⟩ := ih (updateEvent now state first)
    have hsame := updateEvent_events now state first
    obtain ⟨hless, hfirst⟩ := updateEvent_delay now state first
    rw [hsame] at hevents hnext
    refine ⟨hevents, fun id => ?_, UInt32.le_trans hdelay hless, fun id hid e he => ?_⟩
    · rw [List.foldl_cons, hactive, updateEvent_active, checkOneGameEvent_congr hsame]
      by_cases hid : id ∈ ids
      · simp [hid]
      · by_cases heq : id = first
        · simp [heq]
        · simp [hid, heq]
    · cases List.mem_cons.mp hid with
      | inl heq => exact UInt32.le_trans hdelay (hfirst e (heq ▸ he))
      | inr hin => exact hnext id hin e he

theorem update_spec (m : GameEventMgr) (now : Int) : (m.update now).1.events = m.events ∧
      ∀ id e, m.events[id]? = some e → (m.update now).1.active id = e.checkOneGameEvent now ∧
        ((m.update now).2.toNat / 1000 : Nat) ≤ (e.nextCheck now).toNat + 1 := by
  obtain ⟨hevents, hactive, hdelay, hnext⟩ :=
    foldl_updateEvent now (List.range m.events.length) (m, maxGeCheckDelay)
  refine ⟨hevents, fun id e he => ⟨?_, ?_⟩⟩
  · have hid : id < m.events.length := (List.getElem?_eq_some_iff.mp he).1
    have hof := hactive id
    rw [if_pos (List.mem_range.mpr hid)] at hof
    rw [update]
    simpa [checkOneGameEvent, he] using hof
  · have hid : id < m.events.length := (List.getElem?_eq_some_iff.mp he).1
    have hof := UInt32.le_iff_toNat_le.mp (hnext id (List.mem_range.mpr hid) e he)
    have hmax := UInt32.le_iff_toNat_le.mp hdelay
    rw [update]
    dsimp only
    generalize ((List.range m.events.length).foldl (updateEvent now) (m, maxGeCheckDelay)).2 = delay
      at hof hmax ⊢
    change delay.toNat ≤ 86400 at hmax
    rw [UInt32.toNat_mul, UInt32.toNat_add]
    change (delay.toNat + 1) % 2 ^ 32 * 1000 % 2 ^ 32 / 1000 ≤ _
    omega

theorem startEvent_check {m : GameEventMgr} {id : Nat} {e : GameEventData} (he : m.events[id]? = some e)
    (now t : Int) : (m.startEvent id true now).checkOneGameEvent id t = GameEventData.checkOneGameEvent { e with
          start := now
          endTime := if e.endTime ≤ now then now + e.length.toNat else e.endTime } t := by
  simp [startEvent, modifyEvent, checkOneGameEvent, he]

end GameEventMgr

/-- An event started by hand is on for its length in minutes if it had at least as long to go before. -/
theorem startEvent_lasts_iff (m : GameEventMgr) (id : Nat) (e : GameEventData) (now : Int)
    (he : m.events[id]? = some e) : (∀ t, now < t → t < now + 60 * e.length.toNat →
        (m.startEvent id true now).checkOneGameEvent id t = true) ↔ e.length = 0 ∨
        e.period ≠ 0 ∧ now + 60 * e.length.toNat ≤ e.endTime ∧
          (60 * e.length.toNat < 2 ^ 32 ∨ e.period ≤ e.duration) := by
  simp only [GameEventMgr.startEvent_check he]
  have hlasts := GameEventData.lasts_iff
    { e with
      start := now
      endTime := if e.endTime ≤ now then now + e.length.toNat else e.endTime }
  apply hlasts.trans
  dsimp only [GameEventData.period, GameEventData.duration]
  have hlength : e.length = 0 ↔ e.length.toNat = 0 := by
    rw [← UInt32.toNat_inj]
    rfl
  split
  case isFalse hlater => rfl
  case isTrue hpast =>
    rw [hlength]
    have hshort : ¬ (e.length.toNat ≠ 0 ∧ now + 60 * e.length.toNat ≤ now + e.length.toNat) := by omega
    have hover : ¬ (e.length.toNat ≠ 0 ∧ now + 60 * e.length.toNat ≤ e.endTime) := by omega
    tauto

/-- A yearly event of a day that is a minute from its end. -/
def endingEvent : GameEventMgr := ⟨[⟨0, 86400, 525600, 1440⟩], fun _ => false⟩

theorem startEvent_lasts_early :
    endingEvent.events[0]? = some ⟨0, 86400, 525600, 1440⟩ ∧ ∀ t, 0 < t → t < 0 + 60 * 1440 →
      (endingEvent.startEvent 0 true 0).checkOneGameEvent 0 t = true :=
  ⟨rfl, (startEvent_lasts_iff endingEvent 0 ⟨0, 86400, 525600, 1440⟩ 0 rfl).mpr (.inr (by decide))⟩

/-- When it is over, the event is on for as many seconds as it is to be on for minutes. -/
theorem startEvent_too_short : ¬ ∀ t, 86400 < t → t < 86400 + 60 * 1440 →
      (endingEvent.startEvent 0 true 86400).checkOneGameEvent 0 t = true := by
  intro hall
  have hlater := hall (86400 + 1440) (by decide) (by decide)
  exact absurd hlater (by decide)

/-- The manager right after an update, the time of it, and the delay it asked for. -/
structure GameEventClock where
  mgr : GameEventMgr
  now : Int
  delay : UInt32

namespace GameEventClock

def updated (m : GameEventMgr) (now : Int) : GameEventClock :=
  ⟨(m.update now).1, now, (m.update now).2⟩

/-- The next update comes after some seconds, when the delay is over at the latest. -/
def step (c : GameEventClock) (wait : Nat) : GameEventClock :=
  updated c.mgr (c.now + min wait (c.delay.toNat / 1000))

/-- No event begins just now or ends a second after an occurence of it begins, and none has a period of
0 seconds. -/
def NoneAtEdge (c : GameEventClock) (_ : Nat) : Prop :=
  ∀ e ∈ c.mgr.events, e.period ≠ 0 ∧ e.start ≠ c.now ∧ ¬ e.LastsASecond

instance (c : GameEventClock) (wait : Nat) : Decidable (NoneAtEdge c wait) :=
  inferInstanceAs (Decidable (∀ e ∈ c.mgr.events, _))

/-- Between two updates an event does not change before its next check, and whatever it does one of them
sees; after each the event is active if it is to be. -/
def NothingMissed (c : GameEventClock) (wait : Nat) : Prop :=
  ∀ id e, c.mgr.events[id]? = some e → Steady e.checkOneGameEvent (c.now + 1) (c.now + (e.nextCheck c.now).toNat - 1) ∧
      Seen e.checkOneGameEvent c.now (c.step wait).now ∧ c.mgr.active id = e.checkOneGameEvent c.now ∧
      (c.step wait).mgr.active id = e.checkOneGameEvent (c.step wait).now

theorem updated_step (m : GameEventMgr) (now : Int) (wait : Nat)
    (hedge : NoneAtEdge (updated m now) wait) : NothingMissed (updated m now) wait := by
  obtain ⟨hevents, hupdate⟩ := m.update_spec now
  intro id e he
  change (m.update now).1.events[id]? = some e at he
  rw [hevents] at he
  obtain ⟨hactive, hdelay⟩ := hupdate id e he
  have hmem : e ∈ (updated m now).mgr.events := by
    change e ∈ (m.update now).1.events
    rw [hevents]
    exact List.mem_of_getElem? he
  obtain ⟨hperiod, hstart, hsecond⟩ := hedge e hmem
  refine ⟨e.steady_until_nextCheck now, ?_, hactive, ?_⟩
  · apply GameEventData.seen_at_nextCheck hperiod hstart hsecond
    change now + ((min wait ((m.update now).2.toNat / 1000) : Nat) : Int) ≤ now + (e.nextCheck now).toNat + 1
    omega
  · have hnext := ((m.update now).1.update_spec ((updated m now).step wait).now).2 id e
      (by rw [hevents, he])
    exact hnext.1

end GameEventClock

/-- In a run of updates in which no event is at an edge when one of them is made, nothing is missed. -/
theorem gameEvents_nothing_missed (m : GameEventMgr) (now : Int) (waits : List Nat)
    (hedge : Guarded GameEventClock.step GameEventClock.NoneAtEdge (.updated m now) waits) :
    Guarded GameEventClock.step GameEventClock.NothingMissed (.updated m now) waits := by
  have hinv : ∀ (c : GameEventClock) (wait : Nat), c.NoneAtEdge wait →
      (∃ m now, c = .updated m now) → ∃ m now, c.step wait = .updated m now :=
    fun c wait _ _ => ⟨c.mgr, _, rfl⟩
  apply guarded_of_invariant hinv _ hedge ⟨m, now, rfl⟩
  rintro c wait hsafe ⟨m, now, rfl⟩
  exact GameEventClock.updated_step m now wait hsafe

/-- An event of an hour a day, from a second after the first day on. -/
def dailyEvent : GameEventData := ⟨86401, 1000000, 1440, 60⟩

theorem dailyEvent_nothing_missed : Guarded GameEventClock.step GameEventClock.NothingMissed
      (.updated ⟨[dailyEvent], fun _ => false⟩ 1) [86401, 3600, 86401] :=
  gameEvents_nothing_missed _ 1 _ (by decide +kernel)

/-- An update at the very start of the event finds it off and asks to be the next one after the first hour
of it. -/
theorem dailyEvent_missed : dailyEvent.IsAccepted ∧ ¬ Guarded GameEventClock.step GameEventClock.NothingMissed
        (.updated ⟨[dailyEvent], fun _ => false⟩ 0) [86401, 3601] := by
  refine ⟨by decide, fun hall => ?_⟩
  obtain ⟨-, hseen, -⟩ := hall.2.1 0 dailyEvent (by decide +kernel)
  -- A second after the start the event is on, though it is off at this check and at the next one.
  have honly := hseen 86402 (by decide +kernel) (by decide +kernel)
  cases honly with
  | inl hbefore =>
    exact absurd (hbefore 86401 86402 (by decide +kernel) (by decide) (by decide +kernel) (by decide))
      (by decide)
  | inr hafter =>
    exact absurd (hafter 86402 90002 (by decide) (by decide +kernel) (by decide) (by decide +kernel))
      (by decide)

end Mangos
