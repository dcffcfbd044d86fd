import Mangos.Framework.Table
import Mathlib.Logic.Function.Basic
import Mathlib.Order.Nat

/-!
# The dungeon reset scheduler

The instances of a raid or heroic dungeon are reset all at once, at an hour of the day and after a number of
days.
-/

namespace Mangos

open Framework Function

/-- `DAY`. -/
def secondsPerDay : Nat := 86400

/-- `INSTANCE_MAX_RESET_OFFSET`. -/
def instanceMaxResetOffset : Nat := 7 * secondsPerDay

/-- A moment, and the seconds of the local day that are over by then. -/
structure LocalTime where
  now : Nat
  secondOfDay : Nat
  lt : secondOfDay < secondsPerDay

def LocalTime.zeroHour (t : LocalTime) : Int := t.now - t.secondOfDay

/-- A map and a difficulty, as `PAIR32`. -/
abbrev MapDiff := Nat × Nat

structure MapDifficultyEntry where
  resetTime : UInt32
  deriving DecidableEq

/-- What is read of configuration and stores. `rated` is a number of days times
`CONFIG_FLOAT_RATE_INSTANCE_RESET_TIME`, in days, and `isDungeon` is `IsDungeon` of the entry of a map. -/
structure ResetWorld where
  resetTimeHour : UInt32
  rated : UInt32 → UInt32
  isDungeon : Nat → Option Bool
  mapDifficulties : List (MapDiff × MapDifficultyEntry)
  nodup : (mapDifficulties.map (·.1)).Nodup

inductive ResetEventType
  | normalDungeon | inform1 | inform2 | inform3 | informLast
  deriving DecidableEq, Repr

namespace ResetEventType

/-- `resetEventTypeDelay`. -/
def delay : ResetEventType → Int
  | normalDungeon => 0
  | inform1 => 3600
  | inform2 => 900
  | inform3 => 300
  | informLast => 60

def next : ResetEventType → ResetEventType
  | normalDungeon => inform1
  | inform1 => inform2
  | inform2 => inform3
  | inform3 | informLast => informLast

/-- The first warning that is not late for a reset. -/
def first (now resetTime : Int) : ResetEventType :=
  ([inform1, inform2, inform3].find? fun type => now + type.delay < resetTime).getD informLast

end ResetEventType

structure DungeonResetEvent where
  type : ResetEventType
  difficulty : Nat
  mapid : Nat
  instanceId : Nat
  deriving DecidableEq, Repr

def DungeonResetEvent.mapDiff (event : DungeonResetEvent) : MapDiff := (event.mapid, event.difficulty)

/-- A row of the table `instance_reset`. -/
structure ResetRow where
  mapid : Nat
  difficulty : Nat
  resettime : UInt64
  deriving DecidableEq

def ResetRow.mapDiff (row : ResetRow) : MapDiff := (row.mapid, row.difficulty)

namespace ResetWorld

variable (w : ResetWorld) (t : LocalTime)

def getMapDifficultyData (mapDiff : MapDiff) : Option MapDifficultyEntry :=
  (w.mapDifficulties.find? (·.1 = mapDiff)).map (·.2)

def getMaxResetTimeFor (entry : Option MapDifficultyEntry) : Nat :=
  match entry with
  | none => 0
  | some entry =>
    let delay := (w.rated (entry.resetTime / 86400) * 86400).toNat
    if delay < secondsPerDay then secondsPerDay
    else if instanceMaxResetOffset < delay then instanceMaxResetOffset
    else delay

/-- `CONFIG_UINT32_INSTANCE_RESET_TIME_HOUR * HOUR`. -/
def resetHour : Nat := (w.resetTimeHour * 3600).toNat

def calculateNextResetTime (entry : Option MapDifficultyEntry) : Int :=
  if entry.isNone then 0 else w.resetHour + w.getMaxResetTimeFor entry + t.zeroHour

end ResetWorld

structure DungeonResetScheduler where
  resetTimes : MapDiff → Option Int
  queue : Multimap Int DungeonResetEvent
  instanceReset : Table ResetRow.mapDiff

namespace DungeonResetScheduler

variable (s : DungeonResetScheduler)

def getResetTimeFor (mapDiff : MapDiff) : Int := (s.resetTimes mapDiff).getD 0

def setResetTimeFor (mapDiff : MapDiff) (time : Int) : DungeonResetScheduler :=
  { s with resetTimes := update s.resetTimes mapDiff (some time) }

/-- `REPLACE INTO instance_reset`. -/
def saveResetTime (mapDiff : MapDiff) (time : Int) : DungeonResetScheduler :=
  { s with instanceReset := s.instanceReset.replace ⟨mapDiff.1, mapDiff.2, .ofInt time⟩ }

/-- `UPDATE instance_reset SET resettime`. -/
def updateResetTime (mapDiff : MapDiff) (time : Int) : DungeonResetScheduler :=
  if (s.instanceReset.lookup mapDiff).isSome then s.saveResetTime mapDiff time else s

/-- `DungeonResetScheduler::ScheduleReset` with `add` true. -/
def scheduleReset (time : Int) (event : DungeonResetEvent) : DungeonResetScheduler :=
  { s with queue := s.queue.insert (time, event) }

@[simp] theorem scheduleReset_resetTimes (time : Int) (event : DungeonResetEvent) :
    (s.scheduleReset time event).resetTimes = s.resetTimes := rfl

@[simp] theorem saveResetTime_resetTimes (mapDiff : MapDiff) (time : Int) :
    (s.saveResetTime mapDiff time).resetTimes = s.resetTimes := rfl

@[simp] theorem updateResetTime_resetTimes (mapDiff : MapDiff) (time : Int) :
    (s.updateResetTime mapDiff time).resetTimes = s.resetTimes := by
  rw [updateResetTime]
  split <;> rfl

end DungeonResetScheduler

namespace ResetWorld

variable {w : ResetWorld} {t : LocalTime} {entry : MapDifficultyEntry}

theorem getMaxResetTimeFor_bounds : secondsPerDay ≤ w.getMaxResetTimeFor (some entry) ∧
      w.getMaxResetTimeFor (some entry) ≤ instanceMaxResetOffset := by
  rw [getMaxResetTimeFor, instanceMaxResetOffset]
  split
  · omega
  · split <;> omega

theorem calculateNextResetTime_bounds : t.now < w.calculateNextResetTime t (some entry) ∧
      w.calculateNextResetTime t (some entry) ≤ t.zeroHour + w.resetHour + w.getMaxResetTimeFor (some entry) := by
  have hperiod : secondsPerDay ≤ w.getMaxResetTimeFor (some entry) := getMaxResetTimeFor_bounds.1
  have hlt := t.lt
  rw [calculateNextResetTime, if_neg (by simp), LocalTime.zeroHour]
  omega

theorem getMapDifficultyData_eq_some {mapDiff : MapDiff} :
    w.getMapDifficultyData mapDiff = some entry ↔ (mapDiff, entry) ∈ w.mapDifficulties := by
  rw [getMapDifficultyData, Option.map_eq_some_iff]
  constructor
  · rintro ⟨p, hp, rfl⟩
    have hkey : p.1 = mapDiff := by simpa using List.find?_some hp
    rw [← hkey]
    exact List.mem_of_find?_eq_some hp
  · intro hmem
    cases hfound : w.mapDifficulties.find? (·.1 = mapDiff) with
    | none => simpa using List.find?_eq_none.mp hfound _ hmem
    | some p =>
      have hkey : p.1 = mapDiff := by simpa using List.find?_some hfound
      have hsame := List.inj_on_of_nodup_map w.nodup (List.mem_of_find?_eq_some hfound) hmem hkey
      exact ⟨p, rfl, by rw [hsame]⟩

end ResetWorld

end Mangos
