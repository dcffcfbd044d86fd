import Mangos.Dungeon.ResetScheduler
import Mangos.Framework.Loops

/-!
# Updates of the reset scheduler

An update takes the events off the queue that are due.
-/

namespace Mangos

open Framework Function

/-- A scheduler in an update, with the events processed and those added, each with its time. An update that is aborted
ends the program. -/
structure ResetUpdate where
  scheduler : DungeonResetScheduler
  processed : List (Int × DungeonResetEvent)
  added : List (Int × DungeonResetEvent)
  aborted : Bool

namespace ResetUpdate

variable (w : ResetWorld) (t : LocalTime) (u : ResetUpdate)

/-- The event at the beginning of the queue becomes another one in its place, which is scheduled too; then
the queue loses the event at its beginning. -/
def reschedule (time : Int) (event : DungeonResetEvent) : ResetUpdate :=
  let queue := u.scheduler.queue.modifyHead fun _ => event
  let scheduled := { u.scheduler with queue }.scheduleReset time event
  { u with
    scheduler := { scheduled with queue := scheduled.queue.tail }
    added := u.added ++ [(time, event)] }

def warn (event : DungeonResetEvent) : ResetUpdate :=
  let type := event.type.next
  u.reschedule (u.scheduler.getResetTimeFor event.mapDiff - type.delay) { event with type }

def reset (entry : MapDifficultyEntry) (event : DungeonResetEvent) : ResetUpdate :=
  let nextReset := w.calculateNextResetTime t (some entry)
  let scheduler :=
    (u.scheduler.updateResetTime event.mapDiff nextReset).setResetTimeFor event.mapDiff nextReset
  let type := ResetEventType.first t.now nextReset
  { u with scheduler }.reschedule (nextReset - type.delay) { event with type }

/-- What is done with the event at the beginning of the queue. -/
def process (event : DungeonResetEvent) : ResetUpdate :=
  if event.type = .normalDungeon then
    { u with scheduler := { u.scheduler with queue := u.scheduler.queue.tail } }
  else if (w.isDungeon event.mapid).isNone then { u with aborted := true }
  else if event.type ≠ .informLast then u.warn event
  else
    match w.getMapDifficultyData event.mapDiff with
    | none => { u with aborted := true }
    | some entry => u.reset w t entry event

def isDue : Bool := u.scheduler.queue.toList.head?.any fun x => x.1 < (t.now : Int)

/-- A turn of the loop of `Update`. -/
def turn : ResetUpdate × Bool :=
  match u.scheduler.queue.toList.head? with
  | none => (u, true)
  | some x =>
    let next := { u with processed := u.processed ++ [x] }.process w t x.2
    (next, next.aborted)

/-- `DungeonResetScheduler::Update` with so many turns at most. -/
def update (s : DungeonResetScheduler) (fuel : Nat) : Option ResetUpdate :=
  whileLoop (isDue t) (turn w t) fuel ⟨s, [], [], false⟩

end ResetUpdate

namespace ResetWorld

variable (w : ResetWorld) (t : LocalTime)

def HasRoom (mapDiff : MapDiff) : Prop :=
  ∃ entry, w.getMapDifficultyData mapDiff = some entry ∧
    t.secondOfDay + 60 ≤ w.resetHour + w.getMaxResetTimeFor (some entry)

variable {w t} {entry : MapDifficultyEntry}

theorem room_iff : t.secondOfDay + 60 ≤ w.resetHour + w.getMaxResetTimeFor (some entry) ↔
      t.now + 60 ≤ w.calculateNextResetTime t (some entry) := by
  rw [calculateNextResetTime, if_neg (by simp), LocalTime.zeroHour]
  omega

end ResetWorld

theorem ResetEventType.delay_next (type : ResetEventType) : 60 ≤ type.next.delay := by
  cases type <;> decide

theorem ResetEventType.first_not_due {now resetTime : Int} :
    now ≤ resetTime - (first now resetTime).delay ↔ now + 60 ≤ resetTime := by
  rw [first]
  cases hfound : [inform1, inform2, inform3].find? fun type => now + type.delay < resetTime with
  | none =>
    change now ≤ resetTime - 60 ↔ _
    omega
  | some type =>
    have hlater : now + type.delay < resetTime := by simpa using List.find?_some hfound
    have hdelay : 60 ≤ type.delay := by
      have hmem := List.mem_of_find?_eq_some hfound
      simp only [List.mem_cons, List.not_mem_nil, or_false] at hmem
      rcases hmem with rfl | rfl | rfl <;> decide
    rw [Option.getD_some]
    omega

namespace ResetUpdate

variable {w : ResetWorld} {t : LocalTime} {u : ResetUpdate} {x : Int × DungeonResetEvent}
  {rest : List (Int × DungeonResetEvent)}

theorem reschedule_queue (h : u.scheduler.queue.toList = x :: rest) (time : Int)
    (event : DungeonResetEvent) : (u.reschedule time event).scheduler.queue.toList =
      if time < x.1 then (x.1, event) :: rest else rest.orderedInsert (fun x y => x.1 < y.1) (time, event) :=
  Multimap.toList_tail_insert_modifyHead h time event

/-- An event has been processed, and another one of the same map and difficulty scheduled. -/
structure Rescheduled (w : ResetWorld) (t : LocalTime) (u : ResetUpdate) (x : Int × DungeonResetEvent)
    (rest : List (Int × DungeonResetEvent)) (time : Int) (event : DungeonResetEvent)
    (u' : ResetUpdate) : Prop where
  type : x.2.type ≠ .normalDungeon
  known : (w.isDungeon x.2.mapid).isSome
  mapid : event.mapid = x.2.mapid
  mapDiff : event.mapDiff = x.2.mapDiff
  queue : u'.scheduler.queue.toList = if time < x.1 then (x.1, event) :: rest
    else rest.orderedInsert (fun x y => x.1 < y.1) (time, event)
  added : u'.added = u.added ++ [(time, event)]
  times :
    (x.2.type ≠ .informLast ∧ event.type = x.2.type.next ∧
      time = u.scheduler.getResetTimeFor x.2.mapDiff - event.type.delay ∧
      u'.scheduler.resetTimes = u.scheduler.resetTimes) ∨
    (x.2.type = .informLast ∧ ∃ entry, w.getMapDifficultyData x.2.mapDiff = some entry ∧
      time = w.calculateNextResetTime t (some entry) -
        (ResetEventType.first t.now (w.calculateNextResetTime t (some entry))).delay ∧
      event.type = .first t.now (w.calculateNextResetTime t (some entry)) ∧ u'.scheduler.resetTimes =
        Function.update u.scheduler.resetTimes x.2.mapDiff
          (some (w.calculateNextResetTime t (some entry))))

theorem warn_rescheduled (h : u.scheduler.queue.toList = x :: rest) (hnormal : x.2.type ≠ .normalDungeon)
    (hlast : x.2.type ≠ .informLast) (hknown : (w.isDungeon x.2.mapid).isSome) :
    Rescheduled w t u x rest (u.scheduler.getResetTimeFor x.2.mapDiff - x.2.type.next.delay)
      { x.2 with type := x.2.type.next } (u.warn x.2) where
  type := hnormal
  known := hknown
  mapid := rfl
  mapDiff := rfl
  queue := reschedule_queue h _ _
  added := rfl
  times := .inl ⟨hlast, rfl, rfl, rfl⟩

theorem reset_rescheduled (h : u.scheduler.queue.toList = x :: rest) (hlast : x.2.type = .informLast)
    (hknown : (w.isDungeon x.2.mapid).isSome) {entry : MapDifficultyEntry}
    (hentry : w.getMapDifficultyData x.2.mapDiff = some entry) : Rescheduled w t u x rest
      (w.calculateNextResetTime t (some entry) -
        (ResetEventType.first t.now (w.calculateNextResetTime t (some entry))).delay)
      { x.2 with type := .first t.now (w.calculateNextResetTime t (some entry)) }
      (u.reset w t entry x.2) where
  type := by rw [hlast]; decide
  known := hknown
  mapid := rfl
  mapDiff := rfl
  queue := by
    apply reschedule_queue
    simp only [DungeonResetScheduler.setResetTimeFor, DungeonResetScheduler.updateResetTime]
    split <;> exact h
  added := rfl
  times := by
    refine .inr ⟨hlast, entry, hentry, rfl, rfl, ?_⟩
    simp [reset, reschedule, DungeonResetScheduler.setResetTimeFor]

theorem Rescheduled.of_processed {processed : List (Int × DungeonResetEvent)} {time : Int}
    {event : DungeonResetEvent} {u' : ResetUpdate} (h : Rescheduled w t { u with processed } x rest time event u') :
    Rescheduled w t u x rest time event u' :=
  ⟨h.type, h.known, h.mapid, h.mapDiff, h.queue, h.added, h.times⟩

theorem turn_cases (h : u.scheduler.queue.toList = x :: rest) (haborted : u.aborted = false) :
    (turn w t u).2 = (turn w t u).1.aborted ∧
      ((turn w t u).1.aborted = true ∧ x.2.type ≠ .normalDungeon ∧ ((w.isDungeon x.2.mapid).isNone ∨
            x.2.type = .informLast ∧ w.getMapDifficultyData x.2.mapDiff = none) ∨
        (turn w t u).1.aborted = false ∧ (turn w t u).1.processed = u.processed ++ [x] ∧
          (x.2.type = .normalDungeon ∧ (turn w t u).1.scheduler.queue.toList = rest ∧
              (turn w t u).1.added = u.added ∧ (turn w t u).1.scheduler.resetTimes = u.scheduler.resetTimes ∨
            ∃ time event, Rescheduled w t u x rest time event (turn w t u).1)) := by
  rw [turn, h]
  refine ⟨rfl, ?_⟩
  simp only [List.head?_cons, process]
  by_cases hnormal : x.2.type = .normalDungeon
  · rw [if_pos hnormal]
    refine .inr ⟨haborted, rfl, .inl ⟨hnormal, ?_, rfl, rfl⟩⟩
    rw [Multimap.toList_tail, h, List.tail_cons]
  rw [if_neg hnormal]
  cases hknown : w.isDungeon x.2.mapid with
  | none => exact .inl ⟨rfl, hnormal, .inl rfl⟩
  | some dungeon =>
    rw [if_neg (by simp)]
    by_cases hlast : x.2.type = .informLast
    · rw [if_neg (by simp [hlast])]
      cases hentry : w.getMapDifficultyData x.2.mapDiff with
      | none => exact .inl ⟨rfl, hnormal, .inr ⟨hlast, rfl⟩⟩
      | some entry =>
        have hreset := reset_rescheduled (w := w) (t := t)
          (u := { u with processed := u.processed ++ [x] }) h hlast (by simp [hknown]) hentry
        exact .inr ⟨haborted, rfl, .inr ⟨_, _, hreset.of_processed⟩⟩
    · rw [if_pos hlast]
      have hwarn := warn_rescheduled (w := w) (t := t)
        (u := { u with processed := u.processed ++ [x] }) h hnormal hlast (by simp [hknown])
      exact .inr ⟨haborted, rfl, .inr ⟨_, _, hwarn.of_processed⟩⟩

end ResetUpdate

end Mangos
