import Mangos.Dungeon.ResetScheduler
import Mangos.Framework.Sweep

/-!
# Loading the reset times

At a start the reset times that were stored are moved to the hour of the configuration.
-/

namespace Mangos

open Framework Function Std

/-- A row of the table `instance` with a reset time. -/
structure InstanceRow where
  id : Nat
  mapid : Nat
  difficulty : Nat
  resettime : UInt64

def InstanceRow.mapDiff (row : InstanceRow) : MapDiff := (row.mapid, row.difficulty)

/-- The last respawn time of the creatures of an instance. -/
structure RespawnRow where
  respawntime : UInt64
  instanceId : Nat

namespace ResetWorld

variable (w : ResetWorld) (t : LocalTime)

def IsValid (mapDiff : MapDiff) : Prop :=
  w.isDungeon mapDiff.1 = some true ∧ (w.getMapDifficultyData mapDiff).isSome

instance (mapDiff : MapDiff) : Decidable (w.IsValid mapDiff) := inferInstanceAs (Decidable (_ ∧ _))

def instanceResetTimes (instances : List InstanceRow) (respawns : List RespawnRow) :
    ExtTreeMap Nat (MapDiff × Int) :=
  let stored := instances.foldl (fun times row =>
    if row.resettime ≠ 0 ∧ w.IsValid row.mapDiff ∧
        (w.getMapDifficultyData row.mapDiff).all (·.resetTime = 0) then
      times.insert row.id (row.mapDiff, row.resettime.toInt64.toInt)
    else times) ∅
  respawns.foldl (fun times row =>
    times.modify row.instanceId fun time => (time.1, (row.respawntime + 2 * 3600).toInt64.toInt)) stored

def oldResetTime (row : ResetRow) : Int :=
  if t.now + instanceMaxResetOffset < row.resettime.toNat then
    w.calculateNextResetTime t (w.getMapDifficultyData row.mapDiff)
  else row.resettime.toNat

def newResetTime (row : ResetRow) : Int :=
  w.oldResetTime t row / secondsPerDay * secondsPerDay + w.resetHour

def nextWeek : Int := (t.now / secondsPerDay * secondsPerDay + 7 * secondsPerDay : Nat)

end ResetWorld

namespace DungeonResetScheduler

variable (w : ResetWorld) (t : LocalTime)

def scheduleInstance (s : DungeonResetScheduler) (entry : Nat × MapDiff × Int) : DungeonResetScheduler :=
  if t.now < entry.2.2 then
    s.scheduleReset entry.2.2 ⟨.normalDungeon, entry.2.1.2, entry.2.1.1, entry.1⟩
  else s

/-- A turn of the loop over the rows of `instance_reset`. -/
def loadRow (s : DungeonResetScheduler) (row : ResetRow) : DungeonResetScheduler :=
  if w.IsValid row.mapDiff then
    let saved :=
      if w.oldResetTime t row ≠ w.newResetTime t row ∧ t.now < w.newResetTime t row then
        s.updateResetTime row.mapDiff (w.newResetTime t row)
      else s
    saved.setResetTimeFor row.mapDiff (w.newResetTime t row)
  else { s with instanceReset := s.instanceReset.delete row.mapDiff }

/-- A turn of the loop over `sMapDifficultyMap`. -/
def loadMapDifficulty (s : DungeonResetScheduler) (entry : MapDiff × MapDifficultyEntry) :
    DungeonResetScheduler :=
  if entry.2.resetTime = 0 then s
  else if w.isDungeon entry.1.1 = some true then
    let old := s.getResetTimeFor entry.1
    let anew := old = 0 ∨ old < t.now ∨ ResetWorld.nextWeek t < old
    let time := if anew then w.calculateNextResetTime t (some entry.2) else old
    let saved := if anew then s.saveResetTime entry.1 time else s
    let type := ResetEventType.first t.now time
    (saved.setResetTimeFor entry.1 time).scheduleReset (time - type.delay)
      ⟨type, entry.1.2, entry.1.1, 0⟩
  else s

/-- `DungeonResetScheduler::LoadResetTimes` of a new scheduler. -/
def loadResetTimes (instances : List InstanceRow) (respawns : List RespawnRow)
    (table : Table ResetRow.mapDiff) : DungeonResetScheduler :=
  let scheduled := (w.instanceResetTimes instances respawns).toList.foldl (scheduleInstance t)
    ⟨fun _ => none, .empty, table⟩
  run (loadMapDifficulty w t) (run (loadRow w t) scheduled table.rows) w.mapDifficulties

@[simp] theorem loadRow_resetTimes_self (s : DungeonResetScheduler) (row : ResetRow) :
    (loadRow w t s row).resetTimes row.mapDiff =
      if w.IsValid row.mapDiff then some (w.newResetTime t row) else s.resetTimes row.mapDiff := by
  rw [loadRow]
  split
  · simp [setResetTimeFor]
  · rfl

theorem loadRow_resetTimes_of_ne (s : DungeonResetScheduler) (row : ResetRow) (mapDiff : MapDiff)
    (hne : mapDiff ≠ row.mapDiff) : (loadRow w t s row).resetTimes mapDiff = s.resetTimes mapDiff := by
  rw [loadRow]
  split
  · simp only [setResetTimeFor, update_of_ne hne]
    split
    · rw [updateResetTime_resetTimes]
    · rfl
  · rfl

def resetTimeAnew (entry : MapDiff × MapDifficultyEntry) (old : Option Int) : Option Int :=
  if entry.2.resetTime ≠ 0 ∧ w.isDungeon entry.1.1 = some true then
    if old.getD 0 = 0 ∨ old.getD 0 < t.now ∨ ResetWorld.nextWeek t < old.getD 0 then
      some (w.calculateNextResetTime t (some entry.2))
    else old
  else old

theorem loadMapDifficulty_resetTimes_self (s : DungeonResetScheduler)
    (entry : MapDiff × MapDifficultyEntry) : (loadMapDifficulty w t s entry).resetTimes entry.1 =
      resetTimeAnew w t entry (s.resetTimes entry.1) := by
  rw [loadMapDifficulty, resetTimeAnew]
  by_cases hown : entry.2.resetTime = 0
  · rw [if_pos hown, if_neg (by simp [hown])]
  by_cases hdungeon : w.isDungeon entry.1.1 = some true
  · rw [if_neg hown, if_pos hdungeon, if_pos ⟨hown, hdungeon⟩]
    by_cases hanew : s.getResetTimeFor entry.1 = 0 ∨ s.getResetTimeFor entry.1 < t.now ∨
        ResetWorld.nextWeek t < s.getResetTimeFor entry.1
    · have hanew' := hanew
      rw [getResetTimeFor] at hanew'
      simp [setResetTimeFor, hanew, hanew']
    · have hold := hanew
      rw [getResetTimeFor] at hold
      rw [if_neg hold]
      have hstored : s.resetTimes entry.1 = some (s.getResetTimeFor entry.1) := by
        rw [getResetTimeFor]
        cases hnone : s.resetTimes entry.1 with
        | none => exact absurd (.inl (by rw [hnone]; rfl)) hold
        | some time => rfl
      simp [setResetTimeFor, hanew, hstored]
  · rw [if_neg hown, if_neg hdungeon, if_neg (fun h => hdungeon h.2)]

theorem loadMapDifficulty_resetTimes_of_ne (s : DungeonResetScheduler)
    (entry : MapDiff × MapDifficultyEntry) (mapDiff : MapDiff) (hne : mapDiff ≠ entry.1) :
    (loadMapDifficulty w t s entry).resetTimes mapDiff = s.resetTimes mapDiff := by
  rw [loadMapDifficulty]
  split
  · rfl
  · split
    · simp only [scheduleReset_resetTimes, setResetTimeFor, update_of_ne hne]
      split <;> rfl
    · rfl

theorem foldl_scheduleInstance_resetTimes (s : DungeonResetScheduler) (entries : List (Nat × MapDiff × Int)) :
    (entries.foldl (scheduleInstance t) s).resetTimes = s.resetTimes := by
  have hsame : ∀ s entry, (scheduleInstance t s entry).resetTimes = s.resetTimes := by
    intro s entry
    rw [scheduleInstance]
    split <;> rfl
  exact run_unchanged hsame s entries

theorem loadResetTimes_resetTimes (instances : List InstanceRow) (respawns : List RespawnRow)
    (table : Table ResetRow.mapDiff) {mapDiff : MapDiff} {entry : MapDifficultyEntry}
    (hentry : w.getMapDifficultyData mapDiff = some entry) (hdungeon : w.isDungeon mapDiff.1 = some true) :
    (loadResetTimes w t instances respawns table).resetTimes mapDiff =
      resetTimeAnew w t (mapDiff, entry) ((table.lookup mapDiff).map (w.newResetTime t)) := by
  have hmem := ResetWorld.getMapDifficultyData_eq_some.mp hentry
  have hvalid : w.IsValid mapDiff := ⟨hdungeon, by rw [hentry]; rfl⟩
  have hanew := @view_run_items_of_mem _ _ _ _ (fun e : MapDiff × MapDifficultyEntry => e.1) _
    resetTimes _ (loadMapDifficulty_resetTimes_self w t) (loadMapDifficulty_resetTimes_of_ne w t) _
    w.nodup _ hmem
  rw [loadResetTimes, hanew]
  congr 1
  cases hrow : table.lookup mapDiff with
  | none =>
    have hnone : mapDiff ∉ table.rows.map ResetRow.mapDiff := by
      intro hin
      obtain ⟨row, hmem, hkey⟩ := List.mem_map.mp hin
      rw [Table.lookup_eq_some.mpr ⟨hmem, hkey⟩] at hrow
      cases hrow
    rw [view_run_items_of_not_mem (loadRow_resetTimes_of_ne w t) hnone, foldl_scheduleInstance_resetTimes]
    rfl
  | some row =>
    obtain ⟨hin, rfl⟩ := Table.lookup_eq_some.mp hrow
    have hself := @view_run_items_of_mem _ _ _ _ ResetRow.mapDiff (loadRow w t) resetTimes
      (fun row old => if w.IsValid row.mapDiff then some (w.newResetTime t row) else old)
      (loadRow_resetTimes_self w t) (loadRow_resetTimes_of_ne w t) _ table.nodup row hin
    rw [hself, if_pos hvalid]
    rfl

end DungeonResetScheduler

namespace ResetWorld

variable {w : ResetWorld} {t : LocalTime} {row : ResetRow}

/-- The reset time that the row leads to is kept: it is not over, and not after next week. -/
def Keeps (w : ResetWorld) (t : LocalTime) (row : ResetRow) : Prop :=
  w.newResetTime t row ≠ 0 ∧ t.now ≤ w.newResetTime t row ∧ w.newResetTime t row ≤ nextWeek t

instance (w : ResetWorld) (t : LocalTime) (row : ResetRow) : Decidable (w.Keeps t row) :=
  inferInstanceAs (Decidable (_ ∧ _ ∧ _))

theorem newResetTime_le (hkeeps : w.Keeps t row) : w.newResetTime t row ≤ row.resettime.toNat ∨
      w.newResetTime t row = (row.resettime.toNat / secondsPerDay * secondsPerDay + w.resetHour : Nat) := by
  obtain ⟨-, -, hweek⟩ := hkeeps
  by_cases hwrong : t.now + instanceMaxResetOffset < row.resettime.toNat
  · left
    rw [nextWeek] at hweek
    rw [instanceMaxResetOffset] at hwrong
    have htoday := Nat.div_mul_le_self t.now secondsPerDay
    omega
  · right
    rw [newResetTime, oldResetTime, if_neg hwrong]
    rfl

end ResetWorld

namespace DungeonResetScheduler

variable {w : ResetWorld} {t : LocalTime} {mapDiff : MapDiff} {entry : MapDifficultyEntry}

/-- What a restart does to the reset time of a dungeon. A stored time that is to come is moved to the hour
of the configuration on its day. A time that is calculated lies ahead, and at most a period after the hour
of today. -/
def RestartsWell (w : ResetWorld) (t : LocalTime) (table : Table ResetRow.mapDiff) (mapDiff : MapDiff)
    (entry : MapDifficultyEntry) (resetTime : Int) : Prop :=
  (∀ row, table.lookup mapDiff = some row → t.now < row.resettime.toNat → w.Keeps t row →
    resetTime ≤ row.resettime.toNat ∨
      resetTime = (row.resettime.toNat / secondsPerDay * secondsPerDay + w.resetHour : Nat)) ∧
  (entry.resetTime ≠ 0 → (∀ row, table.lookup mapDiff = some row → ¬ w.Keeps t row) → t.now < resetTime ∧
      resetTime ≤ t.zeroHour + w.resetHour + w.getMaxResetTimeFor (some entry))

theorem resetTimeAnew_keeps {row : ResetRow} (hkeeps : w.Keeps t row) :
    resetTimeAnew w t (mapDiff, entry) (some (w.newResetTime t row)) = some (w.newResetTime t row) := by
  obtain ⟨hzero, hover, hweek⟩ := hkeeps
  rw [resetTimeAnew, Option.getD_some]
  split
  · rw [if_neg]
    rintro (h | h | h)
    · exact hzero h
    · exact absurd h (Int.not_lt.mpr hover)
    · exact absurd h (Int.not_lt.mpr hweek)
  · rfl

theorem resetTimeAnew_calculated (hown : entry.resetTime ≠ 0) (hdungeon : w.isDungeon mapDiff.1 = some true)
    {old : Option ResetRow} (hold : ∀ row, old = some row → ¬ w.Keeps t row) :
    resetTimeAnew w t (mapDiff, entry) (old.map (w.newResetTime t)) =
      some (w.calculateNextResetTime t (some entry)) := by
  rw [resetTimeAnew, if_pos ⟨hown, hdungeon⟩, if_pos]
  cases old with
  | none => exact .inl rfl
  | some row =>
    have hlost := hold row rfl
    rw [ResetWorld.Keeps] at hlost
    rw [Option.map_some, Option.getD_some]
    omega

end DungeonResetScheduler

theorem loadResetTimes_restartsWell (w : ResetWorld) (t : LocalTime) (instances : List InstanceRow)
    (respawns : List RespawnRow) (table : Table ResetRow.mapDiff) (mapDiff : MapDiff)
    (entry : MapDifficultyEntry) (hentry : w.getMapDifficultyData mapDiff = some entry)
    (hdungeon : w.isDungeon mapDiff.1 = some true) : DungeonResetScheduler.RestartsWell w t table mapDiff entry
      ((DungeonResetScheduler.loadResetTimes w t instances respawns table).getResetTimeFor mapDiff) := by
  have hloaded :=
    DungeonResetScheduler.loadResetTimes_resetTimes w t instances respawns table hentry hdungeon
  constructor
  · intro row hrow _ hkeeps
    rw [hrow, Option.map_some, DungeonResetScheduler.resetTimeAnew_keeps hkeeps] at hloaded
    rw [DungeonResetScheduler.getResetTimeFor, hloaded, Option.getD_some]
    exact ResetWorld.newResetTime_le hkeeps
  · intro hown hlost
    rw [DungeonResetScheduler.resetTimeAnew_calculated hown hdungeon hlost] at hloaded
    rw [DungeonResetScheduler.getResetTimeFor, hloaded, Option.getD_some]
    exact ResetWorld.calculateNextResetTime_bounds

def dailyDungeon : ResetWorld where
  resetTimeHour := 4
  rated := id
  isDungeon := fun _ => some true
  mapDifficulties := [((249, 0), ⟨86400⟩)]
  nodup := List.nodup_singleton _

def noon : LocalTime := ⟨100 * 86400 + 12 * 3600, 12 * 3600, by decide⟩

def night : LocalTime := ⟨100 * 86400 + 3 * 3600, 3 * 3600, by decide⟩

/-- A reset that is stored for two in the next night. -/
def storedReset : Table ResetRow.mapDiff := ⟨[⟨249, 0, 101 * 86400 + 2 * 3600⟩], List.nodup_singleton _⟩

theorem dailyDungeon_restartsWell : DungeonResetScheduler.RestartsWell dailyDungeon noon storedReset (249, 0) ⟨86400⟩
      ((DungeonResetScheduler.loadResetTimes dailyDungeon noon [] [] storedReset).getResetTimeFor (249, 0)) :=
  loadResetTimes_restartsWell dailyDungeon noon [] [] storedReset (249, 0) ⟨86400⟩ rfl rfl

/-- The restart moves the reset from two to four. Without a stored time, a reset is calculated at three in
the night for more than a day later. -/
theorem restart_postpones :
    (∃ row, storedReset.lookup (249, 0) = some row ∧ noon.now < row.resettime.toNat ∧ row.resettime.toNat <
        (DungeonResetScheduler.loadResetTimes dailyDungeon noon [] [] storedReset).getResetTimeFor
          (249, 0)) ∧ night.now + dailyDungeon.getMaxResetTimeFor (some ⟨86400⟩) <
      (DungeonResetScheduler.loadResetTimes dailyDungeon night [] [] (.empty _)).getResetTimeFor (249, 0) :=
  ⟨⟨⟨249, 0, 101 * 86400 + 2 * 3600⟩, by decide +kernel, by decide +kernel, by decide +kernel⟩,
    by decide +kernel⟩

end Mangos
