import Mangos.Dungeon.Update
import Mathlib.Algebra.GroupWithZero.Nat

/-!
# Every event that is due, once

An update ends if no reset is calculated that is due again at once.
-/

namespace Mangos

open Framework

def dueAt (now : Int) (l : List (Int × DungeonResetEvent)) : List (Int × DungeonResetEvent) :=
  l.filter fun x => x.1 < now

def laterThan (now : Int) (l : List (Int × DungeonResetEvent)) : List (Int × DungeonResetEvent) :=
  l.filter fun x => now ≤ x.1

section Lists

variable {now time : Int} {event : DungeonResetEvent} {x : Int × DungeonResetEvent}
  {l l' : List (Int × DungeonResetEvent)}

theorem dueAt_cons_of_lt (h : x.1 < now) : dueAt now (x :: l) = x :: dueAt now l :=
  List.filter_cons_of_pos (by simpa using h)

theorem laterThan_cons_of_lt (h : x.1 < now) : laterThan now (x :: l) = laterThan now l :=
  List.filter_cons_of_neg (by simpa using h)

theorem dueAt_append : dueAt now (l ++ l') = dueAt now l ++ dueAt now l' := List.filter_append ..

theorem laterThan_append : laterThan now (l ++ l') = laterThan now l ++ laterThan now l' :=
  List.filter_append ..

theorem perm_move {α : Type*} {done rest added queue all : List α} {a : α}
    (h : (done ++ a :: rest).Perm all) (hqueue : queue.Perm (added ++ rest)) :
    (done ++ a :: queue).Perm (all ++ added) := by
  have hswap : (a :: queue).Perm (a :: rest ++ added) :=
    (hqueue.trans List.perm_append_comm).cons a
  have hdone := hswap.append_left done
  rw [← List.append_assoc] at hdone
  exact hdone.trans (h.append_right added)

def rescheduledQueue (x : Int × DungeonResetEvent) (l : List (Int × DungeonResetEvent)) (time : Int)
    (event : DungeonResetEvent) : List (Int × DungeonResetEvent) :=
  if time < x.1 then (x.1, event) :: l else l.orderedInsert (fun x y => x.1 < y.1) (time, event)

theorem rescheduledQueue_perm (x : Int × DungeonResetEvent) (l : List (Int × DungeonResetEvent))
    (time : Int) (event : DungeonResetEvent) :
    ∃ time', (rescheduledQueue x l time event).Perm ((time', event) :: l) ∧ x.1 ≤ time' ∧
      (time' = time ∨ time < x.1 ∧ time' = x.1) := by
  rw [rescheduledQueue]
  split
  case isTrue hearly => exact ⟨x.1, .refl _, Int.le_refl _, .inr ⟨hearly, rfl⟩⟩
  case isFalse hlate =>
    exact ⟨time, List.perm_orderedInsert _ _ l, Int.not_lt.mp hlate, .inl rfl⟩

theorem rescheduledQueue_sublist : l.Sublist (rescheduledQueue x l time event) := by
  rw [rescheduledQueue]
  split
  · exact List.sublist_cons_self _ l
  · exact List.sublist_orderedInsert _ l


theorem dueAt_rescheduledQueue (hx : x.1 < now) : ((dueAt now (rescheduledQueue x l time event)).map (·.2)).Perm
      ((dueAt now ((time, event) :: l)).map (·.2)) := by
  obtain ⟨time', hperm, -, htime⟩ := rescheduledQueue_perm x l time event
  apply ((hperm.filter _).map _).trans
  change ((dueAt now ((time', event) :: l)).map (·.2)).Perm _
  rcases htime with rfl | ⟨hearly, rfl⟩
  · exact .refl _
  · have hdue : (time, event).1 < now := Int.lt_trans hearly hx
    have hplace : (x.1, event).1 < now := hx
    rw [dueAt_cons_of_lt hplace, dueAt_cons_of_lt hdue]
    exact .refl _

theorem laterThan_rescheduledQueue (hx : x.1 < now) :
    (laterThan now (rescheduledQueue x l time event)).Perm (laterThan now ((time, event) :: l)) := by
  obtain ⟨time', hperm, -, htime⟩ := rescheduledQueue_perm x l time event
  apply (hperm.filter _).trans
  change (laterThan now ((time', event) :: l)).Perm _
  rcases htime with rfl | ⟨hearly, rfl⟩
  · exact .refl _
  · have hdue : (time, event).1 < now := Int.lt_trans hearly hx
    have hplace : (x.1, event).1 < now := hx
    rw [laterThan_cons_of_lt hplace, laterThan_cons_of_lt hdue]

end Lists

namespace ResetUpdate

variable {w : ResetWorld} {t : LocalTime} {s : DungeonResetScheduler} {u u' : ResetUpdate}
  {x : Int × DungeonResetEvent} {rest : List (Int × DungeonResetEvent)} {time : Int}
  {event : DungeonResetEvent}

/-- What the turns so far have processed, of an update that began with `s`. -/
structure Exact (t : LocalTime) (s : DungeonResetScheduler) (u : ResetUpdate) : Prop where
  /-- The events that were due at the beginning are processed in their order. -/
  initial : (dueAt t.now s.queue.toList).Sublist (u.processed ++ dueAt t.now u.scheduler.queue.toList)
  sorted : u.processed.Pairwise fun x y => x.1 ≤ y.1
  before : ∀ x ∈ u.processed, ∀ y ∈ u.scheduler.queue.toList, x.1 ≤ y.1
  /-- The events that are due, or were added and are due, are processed or left to be so. -/
  events : ((u.processed ++ dueAt t.now u.scheduler.queue.toList).map (·.2)).Perm
    ((dueAt t.now (s.queue.toList ++ u.added)).map (·.2))
  /-- The others stay. -/
  later : (laterThan t.now u.scheduler.queue.toList).Perm (laterThan t.now (s.queue.toList ++ u.added))

theorem exact_start (t : LocalTime) (s : DungeonResetScheduler) : Exact t s ⟨s, [], [], false⟩ where
  initial := .refl _
  sorted := .nil
  before := by simp
  events := by simp
  later := by simp

theorem Exact.processed (h : Exact t s u) (hqueue : u.scheduler.queue.toList = x :: rest)
    (hdue : x.1 < t.now) {queue' added : List (Int × DungeonResetEvent)}
    (hprocessed : u'.processed = u.processed ++ [x]) (hqueue' : u'.scheduler.queue.toList = queue')
    (hadded : u'.added = u.added ++ added) (hrest : rest.Sublist queue') (hafter : ∀ y ∈ queue', x.1 ≤ y.1)
    (hevents : ((dueAt t.now queue').map (·.2)).Perm ((dueAt t.now (added ++ rest)).map (·.2)))
    (hlater : (laterThan t.now queue').Perm (laterThan t.now (added ++ rest))) : Exact t s u' where
  initial := by
    have hinitial := h.initial
    rw [hqueue, dueAt_cons_of_lt hdue] at hinitial
    rw [hprocessed, hqueue', List.append_assoc, List.singleton_append]
    apply hinitial.trans
    exact .append (.refl _) (.cons_cons x (hrest.filter _))
  sorted := by
    rw [hprocessed, List.pairwise_append]
    refine ⟨h.sorted, List.pairwise_singleton .., fun y hy z hz => ?_⟩
    rw [List.mem_singleton.mp hz]
    exact h.before y hy x (by rw [hqueue]; exact List.mem_cons_self)
  before := by
    intro y hy z hz
    rw [hqueue'] at hz
    rw [hprocessed, List.mem_append, List.mem_singleton] at hy
    cases hy with
    | inl hold =>
      have hle := h.before y hold x (by rw [hqueue]; exact List.mem_cons_self)
      exact Int.le_trans hle (hafter z hz)
    | inr heq =>
      rw [heq]
      exact hafter z hz
  events := by
    have hold := h.events
    rw [hqueue, dueAt_cons_of_lt hdue, List.map_append, List.map_cons] at hold
    rw [dueAt_append, List.map_append] at hevents
    rw [hprocessed, hqueue', hadded, ← List.append_assoc, dueAt_append]
    simp only [List.map_append, List.map_cons, List.append_assoc, List.singleton_append]
    exact perm_move hold hevents
  later := by
    have hold := h.later
    rw [hqueue, laterThan_cons_of_lt hdue] at hold
    rw [hqueue', hadded, ← List.append_assoc, laterThan_append]
    apply hlater.trans
    rw [laterThan_append]
    exact List.perm_append_comm.trans (hold.append_right _)

theorem le_of_queue (hqueue : u.scheduler.queue.toList = x :: rest) {y : Int × DungeonResetEvent}
    (hy : y ∈ rest) : x.1 ≤ y.1 := by
  have hsorted := u.scheduler.queue.sorted
  rw [hqueue] at hsorted
  exact (List.pairwise_cons.mp hsorted).1 y hy

theorem Exact.rescheduled (h : Exact t s u) (hqueue : u.scheduler.queue.toList = x :: rest)
    (hdue : x.1 < t.now) (hprocessed : u'.processed = u.processed ++ [x])
    (hagain : Rescheduled w t u x rest time event u') : Exact t s u' := by
  apply h.processed hqueue hdue hprocessed hagain.queue hagain.added rescheduledQueue_sublist
  · intro y hy
    obtain ⟨time', hperm, hle, -⟩ := rescheduledQueue_perm x rest time event
    rcases List.mem_cons.mp (hperm.mem_iff.mp hy) with rfl | hrest
    · exact hle
    · exact le_of_queue hqueue hrest
  · exact dueAt_rescheduledQueue hdue
  · exact laterThan_rescheduledQueue hdue

theorem Exact.normal (h : Exact t s u) (hqueue : u.scheduler.queue.toList = x :: rest)
    (hdue : x.1 < t.now) (hprocessed : u'.processed = u.processed ++ [x])
    (hqueue' : u'.scheduler.queue.toList = rest) (hadded : u'.added = u.added) : Exact t s u' := by
  have hnone : u'.added = u.added ++ [] := by rw [hadded, List.append_nil]
  exact h.processed hqueue hdue hprocessed hqueue' hnone (.refl _) (fun _ => le_of_queue hqueue)
    (.refl _) (.refl _)

/-- No event that is due is reset again at once, and the maps are known. -/
def CanEnd (w : ResetWorld) (t : LocalTime) (s : DungeonResetScheduler) : Prop :=
  ∀ x ∈ s.queue.toList, x.1 < t.now → x.2.type ≠ .normalDungeon → (w.isDungeon x.2.mapid).isSome ∧
      (x.2.type = .informLast ∨ s.getResetTimeFor x.2.mapDiff < t.now + 60 → w.HasRoom t x.2.mapDiff)

def turnsOf (t : LocalTime) (x : Int × DungeonResetEvent) : Nat :=
  if x.1 < t.now then
    match x.2.type with
    | .normalDungeon | .informLast => 1
    | .inform1 => 4
    | .inform2 => 3
    | .inform3 => 2
  else 0

def size (t : LocalTime) (u : ResetUpdate) : Nat := (u.scheduler.queue.toList.map (turnsOf t)).sum

theorem turnsOf_pos (hdue : x.1 < t.now) : 0 < turnsOf t x := by
  rw [turnsOf, if_pos hdue]
  split <;> decide

theorem turnsOf_next (hdue : x.1 < t.now) (hnormal : x.2.type ≠ .normalDungeon)
    (hlast : x.2.type ≠ .informLast) (htype : event.type = x.2.type.next) (time : Int) :
    turnsOf t (time, event) < turnsOf t x := by
  rw [turnsOf, turnsOf, if_pos hdue, htype]
  cases hkind : x.2.type <;> simp_all [ResetEventType.next]
  all_goals
    split <;> decide

theorem turnsOf_later (h : t.now ≤ x.1) : turnsOf t x = 0 := if_neg (Int.not_lt.mpr h)

theorem room_of_hasRoom {entry : MapDifficultyEntry} {mapDiff : MapDiff}
    (hentry : w.getMapDifficultyData mapDiff = some entry) (hroom : w.HasRoom t mapDiff) :
    t.now + 60 ≤ w.calculateNextResetTime t (some entry) := by
  obtain ⟨entry', hentry', hroom⟩ := hroom
  rw [hentry] at hentry'
  cases hentry'
  exact ResetWorld.room_iff.mp hroom

theorem Rescheduled.turnsOf_lt (h : Rescheduled w t u x rest time event u') (hdue : x.1 < t.now)
    (hend : x.2.type = .informLast → w.HasRoom t x.2.mapDiff) {time' : Int}
    (htime : time' = time ∨ time < x.1 ∧ time' = x.1) : turnsOf t (time', event) < turnsOf t x := by
  rcases h.times with ⟨hlast, htype, -⟩ | ⟨hlast, entry, hentry, hnext, -⟩
  · exact turnsOf_next hdue h.type hlast htype time'
  · have hroom := room_of_hasRoom hentry (hend hlast)
    have hlater := ResetEventType.first_not_due.mpr hroom
    have hsame : time' = time := by omega
    have hzero : turnsOf t (time', event) = 0 := turnsOf_later (by change t.now ≤ time'; omega)
    have hpos := turnsOf_pos hdue
    omega

theorem Rescheduled.size_lt (h : Rescheduled w t u x rest time event u')
    (hqueue : u.scheduler.queue.toList = x :: rest) (hdue : x.1 < t.now)
    (hend : x.2.type = .informLast → w.HasRoom t x.2.mapDiff) : size t u' < size t u := by
  obtain ⟨time', hperm, -, htime⟩ := rescheduledQueue_perm x rest time event
  have hlt := h.turnsOf_lt hdue hend htime
  have hsum : size t u' = turnsOf t (time', event) + (rest.map (turnsOf t)).sum := by
    rw [size, h.queue]
    exact (hperm.map (turnsOf t)).sum_nat
  have hold : size t u = turnsOf t x + (rest.map (turnsOf t)).sum := by
    rw [size, hqueue, List.map_cons, List.sum_cons]
  omega

theorem Rescheduled.canEnd (h : Rescheduled w t u x rest time event u')
    (hqueue : u.scheduler.queue.toList = x :: rest) (hdue : x.1 < t.now)
    (hend : CanEnd w t u.scheduler) : CanEnd w t u'.scheduler := by
  have hx := hend x (by rw [hqueue]; exact List.mem_cons_self) hdue h.type
  obtain ⟨time', hperm, -, htime⟩ := rescheduledQueue_perm x rest time event
  have hmem : ∀ y ∈ u'.scheduler.queue.toList, y = (time', event) ∨ y ∈ rest := by
    intro y hy
    rw [h.queue] at hy
    exact List.mem_cons.mp (hperm.mem_iff.mp hy)
  have hrest : ∀ y ∈ rest, y ∈ u.scheduler.queue.toList := by
    intro y hy
    rw [hqueue]
    exact List.mem_cons_of_mem x hy
  intro y hy hydue hynormal
  rcases h.times with ⟨hlast, htype, htimeEq, htimes⟩ | ⟨hlast, entry, hentry, hnext, -, htimes⟩
  · have hsame : ∀ mapDiff, u'.scheduler.getResetTimeFor mapDiff = u.scheduler.getResetTimeFor mapDiff :=
      fun mapDiff => by rw [DungeonResetScheduler.getResetTimeFor, htimes]; rfl
    rw [hsame]
    rcases hmem y hy with rfl | hin
    · refine ⟨by rw [h.mapid]; exact hx.1, fun hagain => ?_⟩
      change w.HasRoom t event.mapDiff
      rw [h.mapDiff]
      apply hx.2
      right
      -- The event is due again, so the reset is not more than a minute away.
      rcases hagain with hinform | hsoon
      · change event.type = _ at hinform
        rw [hinform, ResetEventType.delay] at htimeEq
        have hdue' : time' < t.now := hydue
        omega
      · change u.scheduler.getResetTimeFor event.mapDiff < _ at hsoon
        rwa [h.mapDiff] at hsoon
    · exact hend y (hrest y hin) hydue hynormal
  · have hroom := hx.2 (.inl hlast)
    have hlater := room_of_hasRoom hentry hroom
    have hnot := ResetEventType.first_not_due.mpr hlater
    rcases hmem y hy with rfl | hin
    · have hdue' : time' < t.now := hydue
      omega
    · obtain ⟨hknown, hagain⟩ := hend y (hrest y hin) hydue hynormal
      refine ⟨hknown, fun hsoon => ?_⟩
      by_cases hsame : y.2.mapDiff = x.2.mapDiff
      · rw [hsame]
        exact hroom
      · apply hagain
        rw [DungeonResetScheduler.getResetTimeFor, htimes, Function.update_of_ne hsame] at hsoon
        exact hsoon

theorem isDue_iff : isDue t u = true ↔ ∃ x rest, u.scheduler.queue.toList = x :: rest ∧ x.1 < t.now := by
  rw [isDue]
  cases hqueue : u.scheduler.queue.toList with
  | nil => simp
  | cons x rest => simp

/-- What holds in an update that ends. -/
structure Ending (w : ResetWorld) (t : LocalTime) (s : DungeonResetScheduler) (u : ResetUpdate) : Prop where
  exact : Exact t s u
  canEnd : CanEnd w t u.scheduler
  running : u.aborted = false

theorem canEnd_rest (hend : CanEnd w t u.scheduler) (hqueue : u.scheduler.queue.toList = x :: rest)
    (hqueue' : u'.scheduler.queue.toList = rest)
    (htimes : u'.scheduler.resetTimes = u.scheduler.resetTimes) : CanEnd w t u'.scheduler := by
  intro y hy hdue hnormal
  rw [hqueue'] at hy
  rw [DungeonResetScheduler.getResetTimeFor, htimes]
  exact hend y (by rw [hqueue]; exact List.mem_cons_of_mem x hy) hdue hnormal

theorem Ending.turn (h : Ending w t s u) (hgo : isDue t u = true) :
    Ending w t s (turn w t u).1 ∧ (ResetUpdate.turn w t u).2 = false ∧
      size t (ResetUpdate.turn w t u).1 < size t u := by
  obtain ⟨x, rest, hqueue, hdue⟩ := isDue_iff.mp hgo
  have hmem : x ∈ u.scheduler.queue.toList := by
    rw [hqueue]
    exact List.mem_cons_self
  obtain ⟨hleft, ⟨-, hnormal, hlost⟩ | ⟨hrunning, hprocessed, hcase⟩⟩ :=
    turn_cases (w := w) (t := t) hqueue h.running
  · -- The map and the difficulty are known.
    obtain ⟨hknown, hroom⟩ := h.canEnd x hmem hdue hnormal
    rcases hlost with hnone | ⟨hlast, hnone⟩
    · rw [Option.isSome_iff_ne_none] at hknown
      exact absurd (Option.isNone_iff_eq_none.mp hnone) hknown
    · obtain ⟨entry, hentry, -⟩ := hroom (.inl hlast)
      rw [hnone] at hentry
      cases hentry
  · rw [hleft, hrunning]
    rcases hcase with ⟨-, hqueue', hadded, htimes⟩ | ⟨time, event, hagain⟩
    · have hexact := h.exact.normal hqueue hdue hprocessed hqueue' hadded
      refine ⟨⟨hexact, canEnd_rest h.canEnd hqueue hqueue' htimes, hrunning⟩, rfl, ?_⟩
      have hpos := turnsOf_pos (x := x) hdue
      rw [size, size, hqueue, hqueue', List.map_cons, List.sum_cons]
      omega
    · refine ⟨⟨h.exact.rescheduled hqueue hdue hprocessed hagain,
        hagain.canEnd hqueue hdue h.canEnd, hrunning⟩, rfl, hagain.size_lt hqueue hdue fun hlast => ?_⟩
      exact (h.canEnd x hmem hdue hagain.type).2 (.inl hlast)

/-- An update that is over has processed what was due, and left the rest. -/
structure Drained (t : LocalTime) (s : DungeonResetScheduler) (u : ResetUpdate) : Prop where
  running : u.aborted = false
  initial : (dueAt t.now s.queue.toList).Sublist u.processed
  sorted : u.processed.Pairwise fun x y => x.1 ≤ y.1
  events : (u.processed.map (·.2)).Perm ((dueAt t.now (s.queue.toList ++ u.added)).map (·.2))
  left : u.scheduler.queue.toList.Perm (laterThan t.now (s.queue.toList ++ u.added))

theorem drained_of_exact (hexact : Exact t s u) (hrunning : u.aborted = false) (hover : isDue t u = false) :
    Drained t s u := by
  have hlater : ∀ x ∈ u.scheduler.queue.toList, t.now ≤ x.1 := by
    intro x hx
    cases hqueue : u.scheduler.queue.toList with
    | nil => rw [hqueue] at hx; cases hx
    | cons y rest =>
      have hhead : t.now ≤ y.1 := by
        rw [← Int.not_lt]
        intro hdue
        rw [isDue_iff.mpr ⟨y, rest, hqueue, hdue⟩] at hover
        cases hover
      rw [hqueue] at hx
      cases List.mem_cons.mp hx with
      | inl heq => rw [heq]; exact hhead
      | inr hrest => exact Int.le_trans hhead (le_of_queue hqueue hrest)
  have hnone : dueAt t.now u.scheduler.queue.toList = [] := by
    apply List.filter_eq_nil_iff.mpr
    intro x hx
    simpa using hlater x hx
  have hall : laterThan t.now u.scheduler.queue.toList = u.scheduler.queue.toList := by
    apply List.filter_eq_self.mpr
    intro x hx
    simpa using hlater x hx
  have hinitial := hexact.initial
  have hevents := hexact.events
  have hleft := hexact.later
  rw [hnone, List.append_nil] at hinitial hevents
  rw [hall] at hleft
  exact ⟨hrunning, hinitial, hexact.sorted, hevents, hleft⟩

theorem next_ne_normal (type : ResetEventType) (h : type ≠ .normalDungeon) : type.next ≠ .normalDungeon := by
  cases type <;> simp_all [ResetEventType.next]

theorem first_ne_normal (now resetTime : Int) : ResetEventType.first now resetTime ≠ .normalDungeon := by
  intro hfirst
  have hmem : ResetEventType.normalDungeon ∈
      [ResetEventType.inform1, .inform2, .inform3, .informLast] := by
    rw [← hfirst, ResetEventType.first]
    cases hfound : [ResetEventType.inform1, .inform2, .inform3].find?
        fun type => now + type.delay < resetTime with
    | none => decide
    | some type =>
      have hin := List.mem_of_find?_eq_some hfound
      exact List.mem_append_left [ResetEventType.informLast] hin
  exact absurd hmem (by decide)

theorem Rescheduled.canEnd_before (h : Rescheduled w t u x rest time event u')
    (hqueue : u.scheduler.queue.toList = x :: rest) (hdue : x.1 < t.now)
    (hend : CanEnd w t u'.scheduler) : CanEnd w t u.scheduler := by
  obtain ⟨time', hperm, -, htime⟩ := rescheduledQueue_perm x rest time event
  have hmem : ∀ y, y = (time', event) ∨ y ∈ rest → y ∈ u'.scheduler.queue.toList := by
    intro y hy
    rw [h.queue]
    exact hperm.mem_iff.mpr (List.mem_cons.mpr hy)
  have hnew : time < t.now → event.type ≠ .normalDungeon →
      u'.scheduler.getResetTimeFor x.2.mapDiff < t.now + 60 → w.HasRoom t x.2.mapDiff := by
    intro hsoon hnormal hreset
    have hdue' : time' < t.now := by omega
    have hroom := (hend _ (hmem _ (.inl rfl)) hdue' hnormal).2 (.inr (by rwa [h.mapDiff]))
    rwa [h.mapDiff] at hroom
  intro y hy hydue hynormal
  rw [hqueue] at hy
  rcases h.times with ⟨hlast, htype, htimeEq, htimes⟩ | ⟨hlast, entry, hentry, hnext, htype, htimes⟩
  · have hsame : ∀ mapDiff, u'.scheduler.getResetTimeFor mapDiff = u.scheduler.getResetTimeFor mapDiff :=
      fun mapDiff => by rw [DungeonResetScheduler.getResetTimeFor, htimes]; rfl
    rcases List.mem_cons.mp hy with rfl | hin
    · refine ⟨h.known, fun hagain => ?_⟩
      have hsoon := hagain.resolve_left hlast
      have hdelay := ResetEventType.delay_next y.2.type
      rw [← htype] at hdelay
      apply hnew (by omega)
      · rw [htype]
        exact next_ne_normal _ h.type
      · rwa [hsame]
    · have hy' := hend y (hmem y (.inr hin)) hydue hynormal
      rwa [hsame] at hy'
  · have hreset : u'.scheduler.getResetTimeFor x.2.mapDiff = w.calculateNextResetTime t (some entry) := by
      rw [DungeonResetScheduler.getResetTimeFor, htimes, Function.update_self]
      rfl
    have hroom : w.HasRoom t x.2.mapDiff := by
      by_cases hlater : t.now + 60 ≤ w.calculateNextResetTime t (some entry)
      · exact ⟨entry, hentry, ResetWorld.room_iff.mpr hlater⟩
      · -- The next reset would be due at once, and again after that.
        have hagain := (not_congr ResetEventType.first_not_due).mpr hlater
        apply hnew (by omega)
        · rw [htype]
          exact first_ne_normal _ _
        · rw [hreset]
          exact Int.not_le.mp hlater
    rcases List.mem_cons.mp hy with rfl | hin
    · exact ⟨h.known, fun _ => hroom⟩
    · obtain ⟨hknown, hagain⟩ := hend y (hmem y (.inr hin)) hydue hynormal
      refine ⟨hknown, fun hsoon => ?_⟩
      by_cases hsame : y.2.mapDiff = x.2.mapDiff
      · rw [hsame]
        exact hroom
      · apply hagain
        rw [DungeonResetScheduler.getResetTimeFor, htimes, Function.update_of_ne hsame]
        exact hsoon

theorem canEnd_of_ends {final : ResetUpdate} {fuel : Nat} (hrunning : u.aborted = false)
    (hfinal : final.aborted = false)
    (h : whileLoop (isDue t) (ResetUpdate.turn w t) fuel u = some final) : CanEnd w t u.scheduler := by
  have hback := @whileLoop_backward _ (isDue t) (ResetUpdate.turn w t)
    (fun u => u.aborted = false → CanEnd w t u.scheduler) final ?_ ?_ ?_ fuel u h
  · exact hback hrunning
  · intro u hover _ x hx hdue
    exfalso
    cases hqueue : u.scheduler.queue.toList with
    | nil => rw [hqueue] at hx; cases hx
    | cons y rest =>
      have hhead : ¬ y.1 < t.now := by
        intro hdue'
        rw [isDue_iff.mpr ⟨y, rest, hqueue, hdue'⟩] at hover
        cases hover
      rw [hqueue] at hx
      cases List.mem_cons.mp hx with
      | inl heq => exact hhead (heq ▸ hdue)
      | inr hrest =>
        have hle := le_of_queue hqueue hrest
        omega
  · intro u hgo hstay hnext hrunning
    obtain ⟨x, rest, hqueue, hdue⟩ := isDue_iff.mp hgo
    obtain ⟨hleft, ⟨habort, -⟩ | ⟨hrunning', -, hcase⟩⟩ := turn_cases (w := w) (t := t) hqueue hrunning
    · rw [hleft, habort] at hstay
      cases hstay
    · have hend := hnext hrunning'
      rcases hcase with ⟨hnormal, hqueue', -, htimes⟩ | ⟨time, event, hagain⟩
      · intro y hy hydue hynormal
        rw [hqueue] at hy
        cases List.mem_cons.mp hy with
        | inl heq => exact absurd (heq ▸ hnormal) hynormal
        | inr hin =>
          have hy' := hend y (by rw [hqueue']; exact hin) hydue hynormal
          rwa [DungeonResetScheduler.getResetTimeFor, htimes] at hy'
      · exact hagain.canEnd_before hqueue hdue hend
  · intro u hgo hleft hlast hrunning
    obtain ⟨x, rest, hqueue, hdue⟩ := isDue_iff.mp hgo
    obtain ⟨hsame, -⟩ := turn_cases (w := w) (t := t) hqueue hrunning
    rw [hsame, hlast, hfinal] at hleft
    cases hleft

end ResetUpdate

/-- An update ends with every event that is due processed once, if it can. -/
theorem resetScheduler_drained_iff (w : ResetWorld) (t : LocalTime) (s : DungeonResetScheduler) :
    (∃ n final, (∀ fuel, n ≤ fuel → ResetUpdate.update w t s fuel = some final) ∧
      ResetUpdate.Drained t s final) ↔ ResetUpdate.CanEnd w t s := by
  constructor
  · rintro ⟨n, final, hends, hdrained⟩
    exact ResetUpdate.canEnd_of_ends rfl hdrained.running (hends n (Nat.le_refl n))
  · intro hend
    have hstart : ResetUpdate.Ending w t s ⟨s, [], [], false⟩ :=
      ⟨ResetUpdate.exact_start t s, hend, rfl⟩
    have hkeep : ∀ u, ResetUpdate.Ending w t s u → ResetUpdate.isDue t u = true →
        ResetUpdate.Ending w t s (ResetUpdate.turn w t u).1 := fun u hu hgo => (hu.turn hgo).1
    obtain ⟨final, hends, hfinal⟩ := whileLoop_ends (ResetUpdate.size t) hkeep
      (fun u hu hgo _ => (hu.turn hgo).2.2) hstart
    have hover := continues_final hkeep (fun u hu hgo => (hu.turn hgo).2.1) hstart
      (hends _ (Nat.lt_succ_self _))
    exact ⟨_, final, hends, ResetUpdate.drained_of_exact hfinal.exact hfinal.running hover⟩

private theorem midnight_nodup : (([((249, 0), ⟨86400⟩)] : List (MapDiff × MapDifficultyEntry)).map (·.1)).Nodup :=
  List.nodup_singleton _

/-- A dungeon that is reset every day at midnight. -/
def midnightDungeon : ResetWorld where
  resetTimeHour := 0
  rated := id
  isDungeon := Function.const Nat (some true)
  mapDifficulties := [((249, 0), ⟨86400⟩)]
  nodup := midnight_nodup

def beforeMidnight : LocalTime := ⟨101 * 86400 - 30, 86400 - 30, by decide⟩

/-- The reset of midnight, which is made a minute before. -/
def midnightReset : DungeonResetScheduler where
  resetTimes := fun _ => some (101 * 86400)
  queue := ⟨[(101 * 86400 - 60, ⟨.informLast, 0, 249, 0⟩)], List.pairwise_singleton _ _⟩
  instanceReset := .empty _

/-- The next reset is calculated for the same midnight, over and over. -/
theorem midnightReset_never_drained : ¬ ∃ n final, (∀ fuel, n ≤ fuel →
        ResetUpdate.update midnightDungeon beforeMidnight midnightReset fuel = some final) ∧
      ResetUpdate.Drained beforeMidnight midnightReset final := by
  rintro ⟨n, final, hends, hdrained⟩
  have hend := ResetUpdate.canEnd_of_ends rfl hdrained.running (hends n (Nat.le_refl n))
  have hreset := hend (101 * 86400 - 60, ⟨.informLast, 0, 249, 0⟩) List.mem_cons_self (by decide)
    (by decide)
  obtain ⟨entry, hentry, hroom⟩ := hreset.2 (.inl rfl)
  have honly : entry = ⟨86400⟩ := (Option.some_inj.mp hentry).symm
  rw [honly] at hroom
  exact absurd hroom (by decide)

end Mangos
