import Mangos.Event.Processor
import Mangos.Framework.History

/-!
# Killed events

A kill marks the list when the queue is merged next.
-/

namespace Mangos

open Framework

namespace EventHappening

def isKill : EventHappening → Bool
  | .killed _ => true
  | _ => false

def kills (id : Nat) : EventHappening → Bool
  | .killed pending => id ∈ pending
  | _ => false

def isAborted (id : Nat) : EventHappening → Bool
  | .aborted id' _ => id' = id
  | _ => false

def Quiet : EventHappening → Prop
  | .killed _ => False
  | .executed .. => False
  | _ => True

theorem Quiet.isKill {x : EventHappening} (h : x.Quiet) : x.isKill = false := by
  cases x with
  | killed => exact h.elim
  | _ => rfl

theorem Quiet.kills {x : EventHappening} (h : x.Quiet) (id : Nat) : x.kills id = false := by
  cases x with
  | killed => exact h.elim
  | _ => rfl

end EventHappening

open EventHappening

def Doomed (id : Nat) (log : List EventHappening) : Prop := since isKill (isAdded id) log = true

def AwaitsAbort (id : Nat) (log : List EventHappening) : Prop :=
  since (kills id) (isAborted id) log = true

def ExecutesNew (before : List EventHappening) (x : EventHappening) : Prop :=
  ∀ id time now, x = .executed id time now → ¬ Doomed id before

section Log

variable {log l : List EventHappening} {id : Nat}

theorem Doomed.of_append (hl : ∀ x ∈ l, x.Quiet) (h : Doomed id (log ++ l)) : Doomed id log :=
  since_of_append (fun x hx => (hl x hx).isKill) h

theorem AwaitsAbort.of_append (hl : ∀ x ∈ l, x.Quiet) (h : AwaitsAbort id (log ++ l)) : AwaitsAbort id log :=
  since_of_append (fun x hx => (hl x hx).kills id) h

theorem executesNew_append (hl : ∀ x ∈ l, x.Quiet) (h : AtEach ExecutesNew log) : AtEach ExecutesNew (log ++ l) := by
  apply h.append
  rintro x hx before id time now rfl
  exact (hl _ hx).elim

theorem not_doomed_of_added (hl : ∀ x ∈ l, x.Quiet) (h : .added id ∈ l) : ¬ Doomed id (log ++ l) := by
  have hend : since isKill (isAdded id) (log ++ l) = false :=
    since_append_off (fun x hx => (hl x hx).isKill) h (by simp [isAdded])
  simp [Doomed, hend]

theorem not_awaitsAbort_of_aborted (hl : ∀ x ∈ l, x.Quiet) {deleted : Bool}
    (h : .aborted id deleted ∈ l) : ¬ AwaitsAbort id (log ++ l) := by
  have hend : since (kills id) (isAborted id) (log ++ l) = false :=
    since_append_off (fun x hx => (hl x hx).kills id) h (by simp [isAborted])
  simp [AwaitsAbort, hend]

end Log

namespace WorldObjectEventProcessor

variable {s : WorldObjectEventProcessor}

/-- Every event of the list that is due at that time is to be aborted. -/
def Drained (s : WorldObjectEventProcessor) (time : Nat) : Prop :=
  ∀ x ∈ s.events.toList, x.1 ≤ time → s.toAbort x.2.id = true

instance (time : Nat) : Decidable (s.Drained time) :=
  inferInstanceAs (Decidable (∀ x ∈ s.events.toList, _))

/-- Kills are asked for when no event waits in the queue and none in the list is due in the update that is going on;
an update without a merge is not begun while a kill is needed and an event is due. -/
def KillReaches (s : WorldObjectEventProcessor) : EventCall → Prop
  | .killAllEvents => s.queue = [] ∧ (s.phase = .idle ∨ s.Drained s.time)
  | .update p_time => s.phase = .idle → s.needKill = true → s.Drained (s.time + p_time)
  | _ => True

instance : ∀ call, Decidable (s.KillReaches call)
  | .killAllEvents => inferInstanceAs (Decidable (_ ∧ _))
  | .update _ => inferInstanceAs (Decidable (_ → _))
  | .addEvent .. => .isTrue trivial
  | .killAllEventsForced .. => .isTrue trivial
  | .renewEvents .. => .isTrue trivial
  | .updateForced .. => .isTrue trivial
  | .turn => .isTrue trivial
  | .returned => .isTrue trivial

/-- The events that a kill was asked for are not executed: as long as it is needed none is due, and after
it they are to be aborted. -/
structure KillHeld (s : WorldObjectEventProcessor) : Prop where
  queue : ∀ x ∈ s.queue, ¬ Doomed x.2.id s.log
  events : s.needKill = false → ∀ x ∈ s.events.toList, s.toAbort x.2.id = false → ¬ Doomed x.2.id s.log
  updating : s.phase ≠ .idle → s.needKill = true → s.Drained s.time
  executed : AtEach ExecutesNew s.log
  awaits : ∀ id, AwaitsAbort id s.log → s.needKill = true ∧ id ∈ s.events.toList.map (·.2.id)

theorem KillHeld.addEvent (h : s.KillHeld) (event : BasicEvent) (e_time : Nat) :
    (s.addEvent event e_time).KillHeld := by
  have hquiet : ∀ x ∈ [EventHappening.added event.id], x.Quiet := by simp [Quiet]
  refine ⟨fun x hx => ?_, fun hneed x hx hlive hdoomed => ?_, h.updating,
    executesNew_append hquiet h.executed, fun id hid => h.awaits id (hid.of_append hquiet)⟩
  · rcases List.mem_append.mp hx with hx | hx
    · exact fun hdoomed => h.queue x hx (hdoomed.of_append hquiet)
    · rw [List.mem_singleton.mp hx]
      exact not_doomed_of_added hquiet (List.mem_singleton_self _)
  · exact h.events hneed x hx hlive (hdoomed.of_append hquiet)

theorem KillHeld.killNeeded (h : s.KillHeld) (hidle : s.phase = .idle)
    (isDeletable : BasicEvent → Bool) (additions : List (BasicEvent × Nat)) :
    (s.killNeeded isDeletable additions).KillHeld ∧ (s.killNeeded isDeletable additions).needKill = false := by
  rw [WorldObjectEventProcessor.killNeeded, addEvents_eq]
  split
  next hneed =>
    refine ⟨?_, rfl⟩
    have haborted : ∀ x ∈ s.events.toList.map fun x =>
        EventHappening.aborted x.2.id (false || isDeletable x.2), x.Quiet := by
      intro x hx
      obtain ⟨y, -, rfl⟩ := List.mem_map.mp hx
      trivial
    have hadded : ∀ x ∈ additions.map fun a => EventHappening.added a.1.id, x.Quiet := by
      intro x hx
      obtain ⟨a, -, rfl⟩ := List.mem_map.mp hx
      trivial
    refine ⟨fun x hx => ?_, fun _ x hx hlive => ?_, fun hphase => absurd hidle hphase,
      executesNew_append hadded (executesNew_append haborted h.executed), fun id hid => ?_⟩
    · rcases List.mem_append.mp hx with hx | hx
      · exact fun hdoomed => h.queue x hx ((hdoomed.of_append hadded).of_append haborted)
      · obtain ⟨a, ha, rfl⟩ := List.mem_map.mp hx
        exact not_doomed_of_added hadded (List.mem_map.mpr ⟨a, ha, rfl⟩)
    · have hin := (List.mem_filter.mp hx).1
      have habort : s.events.toList.any (·.2.id = x.2.id) = true :=
        List.any_eq_true.mpr ⟨x, hin, by simp⟩
      simp [killList, habort] at hlive
    · have hold := hid.of_append hadded
      obtain ⟨-, hin⟩ := h.awaits id (hold.of_append haborted)
      obtain ⟨x, hx, rfl⟩ := List.mem_map.mp hin
      exact absurd hold (not_awaitsAbort_of_aborted haborted (List.mem_map.mpr ⟨x, hx, rfl⟩))
  next hneed => exact ⟨h, Bool.not_eq_true _ ▸ hneed⟩

theorem KillHeld.mergeEvent (h : s.KillHeld) (hneed : s.needKill = false) {x : Nat × BasicEvent}
    (hx : ¬ Doomed x.2.id s.log) : (s.mergeEvent x).KillHeld ∧ (s.mergeEvent x).needKill = false ∧
      ∀ id, Doomed id (s.mergeEvent x).log → Doomed id s.log := by
  rcases mergeEvent_cases s x with ⟨-, heq⟩ | ⟨-, heq⟩
  · rw [heq]
    have hquiet : ∀ y ∈ [EventHappening.dropped x.2.id], y.Quiet := by simp [Quiet]
    refine ⟨⟨fun y hy hdoomed => ?_, fun _ y hy hlive hdoomed => ?_, h.updating,
      executesNew_append hquiet h.executed, fun id hid => h.awaits id (hid.of_append hquiet)⟩,
      hneed, fun id hid => hid.of_append hquiet⟩
    · exact h.queue y hy (hdoomed.of_append hquiet)
    · exact h.events hneed y hy hlive (hdoomed.of_append hquiet)
  · rw [heq]
    have hquiet : ∀ y ∈ [EventHappening.merged x.2.id x.1 s.time], y.Quiet := by simp [Quiet]
    refine ⟨⟨fun y hy hdoomed => ?_, fun _ y hy hlive hdoomed => ?_, fun _ hkill => ?_,
      executesNew_append hquiet h.executed, fun id hid => ?_⟩, hneed, fun id hid => hid.of_append hquiet⟩
    · exact h.queue y hy (hdoomed.of_append hquiet)
    · rcases (Multimap.mem_insert s.events).mp hy with rfl | hy
      · exact hx (hdoomed.of_append hquiet)
      · exact h.events hneed y hy hlive (hdoomed.of_append hquiet)
    · simp [hneed] at hkill
    · have hold := (h.awaits id (hid.of_append hquiet)).1
      simp [hneed] at hold

theorem KillHeld.mergeQueue (h : s.KillHeld) (hneed : s.needKill = false) :
    s.mergeQueue.KillHeld ∧ s.mergeQueue.needKill = false := by
  have hfold : ∀ (l : List (Nat × BasicEvent)) (s : WorldObjectEventProcessor), s.KillHeld →
      s.needKill = false → (∀ x ∈ l, ¬ Doomed x.2.id s.log) →
      (l.foldl WorldObjectEventProcessor.mergeEvent s).KillHeld ∧
        (l.foldl WorldObjectEventProcessor.mergeEvent s).needKill = false := by
    intro l
    induction l with
    | nil => exact fun s h hneed _ => ⟨h, hneed⟩
    | cons x l ih =>
      intro s h hneed hl
      obtain ⟨hheld, hneed', hdoomed⟩ := h.mergeEvent hneed (hl x List.mem_cons_self)
      exact ih _ hheld hneed' fun y hy hd => hl y (List.mem_cons_of_mem x hy) (hdoomed _ hd)
  obtain ⟨hheld, hneed'⟩ := hfold s.queue s h hneed h.queue
  refine ⟨⟨fun x hx => ?_, hheld.events, hheld.updating, hheld.executed, hheld.awaits⟩, hneed'⟩
  cases hx

theorem KillHeld.renewEvents (h : s.KillHeld) (hidle : s.phase = .idle)
    (isDeletable : BasicEvent → Bool) (additions : List (BasicEvent × Nat)) :
    (s.renewEvents isDeletable additions).KillHeld ∧ (s.renewEvents isDeletable additions).needKill = false := by
  obtain ⟨hheld, hneed⟩ := h.killNeeded hidle isDeletable additions
  exact hheld.mergeQueue hneed

theorem KillHeld.killForced (h : s.KillHeld) (hneed : s.needKill = false)
    (isDeletable : BasicEvent → Bool) : (s.killList true isDeletable).KillHeld := by
  have hquiet : ∀ x ∈ s.events.toList.map fun x =>
      EventHappening.aborted x.2.id (true || isDeletable x.2), x.Quiet := by
    intro x hx
    obtain ⟨y, -, rfl⟩ := List.mem_map.mp hx
    trivial
  refine ⟨fun x hx hdoomed => h.queue x hx (hdoomed.of_append hquiet), fun _ x hx => ?_,
    fun _ hkill => ?_, executesNew_append hquiet h.executed, fun id hid => ?_⟩
  · simp [killList] at hx
  · simp [killList, hneed] at hkill
  · have hold := (h.awaits id (hid.of_append hquiet)).1
    simp [hneed] at hold

theorem KillHeld.killAllEvents (h : s.KillHeld) (hqueue : s.queue = [])
    (hdrained : s.phase = .idle ∨ s.Drained s.time) : s.killAllEvents.KillHeld := by
  refine ⟨fun x hx => ?_, fun hneed => ?_, fun hphase _ => hdrained.resolve_left hphase,
    atEach_snoc.mpr ⟨h.executed, fun _ _ _ hx => by cases hx⟩, fun id hid => ⟨rfl, ?_⟩⟩
  · simp [WorldObjectEventProcessor.killAllEvents, hqueue] at hx
  · cases hneed
  · have hcases : id ∈ s.pending ∨ AwaitsAbort id s.log := by
      simpa [AwaitsAbort, WorldObjectEventProcessor.killAllEvents, kills, isAborted] using hid
    rcases hcases with hpending | hold
    · simpa [WorldObjectEventProcessor.killAllEvents, pending, hqueue] using hpending
    · exact (h.awaits id hold).2

theorem KillHeld.beginUpdate (h : s.KillHeld) {p_time : Nat}
    (hdrained : s.needKill = true → s.Drained (s.time + p_time)) : (s.beginUpdate p_time).KillHeld :=
  ⟨h.queue, h.events, fun _ => hdrained, h.executed, h.awaits⟩

theorem KillHeld.updateEvent (h : s.KillHeld) (hphase : s.phase = .updating) : s.updateEvent.KillHeld := by
  have hrunning : s.phase ≠ .idle := by simp [hphase]
  have htail : ∀ x ∈ s.events.tail.toList, x ∈ s.events.toList := fun x hx =>
    List.mem_of_mem_tail hx
  rcases updateEvent_cases s with heq | ⟨x, hhead, hdue, ⟨habort, heq⟩ | ⟨hlive, heq⟩⟩
  · rw [heq]
    exact ⟨h.queue, h.events, fun hidle => absurd rfl hidle, h.executed, h.awaits⟩
  · rw [heq]
    have hquiet : ∀ y ∈ [EventHappening.aborted x.2.id true], y.Quiet := by simp [Quiet]
    refine ⟨fun y hy hdoomed => h.queue y hy (hdoomed.of_append hquiet),
      fun hneed y hy hlive hdoomed => ?_, fun _ hneed y hy => ?_,
      executesNew_append hquiet h.executed, fun id hid => ?_⟩
    · exact h.events hneed y (htail y hy) hlive (hdoomed.of_append hquiet)
    · exact h.updating hrunning hneed y (htail y hy)
    · obtain ⟨hneed, hin⟩ := h.awaits id (hid.of_append hquiet)
      refine ⟨hneed, ?_⟩
      -- the first event is another one
      have hne : id ≠ x.2.id := by
        rintro rfl
        exact not_awaitsAbort_of_aborted hquiet (List.mem_singleton_self _) hid
      obtain ⟨l, hl⟩ := List.head?_eq_some_iff.mp hhead
      simp only [hl, List.map_cons, List.mem_cons] at hin
      simpa [hl] using hin.resolve_left hne
  · rw [heq]
    have hneed : s.needKill = false := by
      rw [← Bool.not_eq_true]
      intro hneed
      have habort := h.updating hrunning hneed x (List.mem_of_mem_head? hhead) hdue
      simp [hlive] at habort
    have hdoomed : ∀ id, Doomed id (s.log ++ [.executed x.2.id x.1 s.time]) → Doomed id s.log := by
      intro id hid
      simpa [Doomed, isKill, isAdded] using hid
    refine ⟨fun y hy hd => h.queue y hy (hdoomed _ hd), fun _ y hy hlive' hd => ?_,
      fun _ hkill => ?_, atEach_snoc.mpr ⟨h.executed, ?_⟩, fun id hid => ?_⟩
    · exact h.events hneed y (htail y hy) hlive' (hdoomed _ hd)
    · simp [hneed] at hkill
    · rintro id time now heq
      cases heq
      exact h.events hneed x (List.mem_of_mem_head? hhead) hlive
    · have hold : AwaitsAbort id s.log := by
        simpa [AwaitsAbort, kills, isAborted] using hid
      have := (h.awaits id hold).1
      simp [hneed] at this

theorem KillHeld.step (h : s.KillHeld) {call : EventCall} (hcall : s.KillReaches call) : (s.step call).KillHeld := by
  cases call with
  | addEvent event e_time => exact h.addEvent event e_time
  | killAllEvents => exact h.killAllEvents hcall.1 hcall.2
  | killAllEventsForced isDeletable additions =>
    rw [WorldObjectEventProcessor.step]
    split
    next hidle =>
      obtain ⟨hheld, hneed⟩ := h.renewEvents hidle isDeletable additions
      exact hheld.killForced hneed isDeletable
    next => exact h
  | renewEvents isDeletable additions =>
    rw [WorldObjectEventProcessor.step]
    split
    next hidle => exact (h.renewEvents hidle isDeletable additions).1
    next => exact h
  | update p_time =>
    rw [WorldObjectEventProcessor.step]
    split
    next hidle => exact h.beginUpdate (hcall hidle)
    next => exact h
  | updateForced p_time isDeletable additions =>
    rw [WorldObjectEventProcessor.step]
    split
    next hidle =>
      obtain ⟨hheld, hneed⟩ := h.renewEvents hidle isDeletable additions
      exact hheld.beginUpdate fun hkill => by simp [hneed] at hkill
    next => exact h
  | turn =>
    rw [WorldObjectEventProcessor.step]
    split
    next hphase => exact h.updateEvent hphase
    next => exact h
  | returned =>
    rw [WorldObjectEventProcessor.step]
    split
    next hphase =>
      exact ⟨h.queue, h.events, fun _ => h.updating (by simp [hphase]), h.executed, h.awaits⟩
    next => exact h

/-- A processor that is in no update, from which on there is a log. -/
def fromNow (s : WorldObjectEventProcessor) : WorldObjectEventProcessor :=
  { s with phase := .idle, log := [] }

theorem killHeld_fromNow (s : WorldObjectEventProcessor) : s.fromNow.KillHeld := by
  refine ⟨fun x _ => ?_, fun _ x _ _ => ?_, fun hphase => absurd rfl hphase, atEach_nil, fun id hid => ?_⟩
  · simp [Doomed, fromNow]
  · simp [Doomed, fromNow]
  · simp [AwaitsAbort, fromNow] at hid

end WorldObjectEventProcessor

open WorldObjectEventProcessor

/-- What is executed after a kill was added after it. -/
def KilledNeverRun (log : List EventHappening) : Prop :=
  ∀ before pending m₁ id time now m₂,
    log = before ++ .killed pending :: (m₁ ++ .executed id time now :: m₂) → .added id ∈ m₁

/-- What was pending at a kill is aborted since, or waits in the list for a kill that is needed. -/
def KilledAborted (s : WorldObjectEventProcessor) : Prop :=
  ∀ before pending after, s.log = before ++ .killed pending :: after →
    ∀ id ∈ pending, (∃ deleted, .aborted id deleted ∈ after) ∨ s.needKill = true ∧ id ∈ s.events.toList.map (·.2.id)

theorem WorldObjectEventProcessor.KillHeld.neverRun {s : WorldObjectEventProcessor}
    (h : s.KillHeld) : KilledNeverRun s.log := by
  intro before pending m₁ id time now m₂ hlog
  by_contra hadded
  refine h.executed (before ++ .killed pending :: m₁) _ m₂ (by simp [hlog]) id time now rfl ?_
  apply since_append_of_on
  · rfl
  · intro y hy
    cases y with
    | added id' =>
      simp only [isAdded, decide_eq_false_iff_not]
      rintro rfl
      exact hadded hy
    | _ => rfl

theorem WorldObjectEventProcessor.KillHeld.killedAborted {s : WorldObjectEventProcessor}
    (h : s.KillHeld) : KilledAborted s := by
  intro before pending after hlog id hid
  by_cases haborted : ∃ deleted, .aborted id deleted ∈ after
  · exact .inl haborted
  · refine .inr (h.awaits id ?_)
    rw [hlog]
    apply since_append_of_on
    · simpa [kills] using hid
    · intro y hy
      cases y with
      | aborted id' deleted =>
        simp only [isAborted, decide_eq_false_iff_not]
        rintro rfl
        exact haborted ⟨deleted, hy⟩
      | _ => rfl

/-- In a run in which the kills reach the events, what was pending at a kill is aborted and not
executed. -/
theorem killed_events_never_run (s : WorldObjectEventProcessor) (calls : List EventCall)
    (h : Guarded step KillReaches s.fromNow calls) :
    KilledNeverRun (run step s.fromNow calls).log ∧ KilledAborted (run step s.fromNow calls) := by
  have hheld : (run step s.fromNow calls).KillHeld :=
    run_invariant (fun s call hcall h => h.step hcall) h (killHeld_fromNow s)
  exact ⟨hheld.neverRun, hheld.killedAborted⟩

/-- An event in the list, a kill and an update. -/
theorem killed_events_never_run_merged :
    let calls : List EventCall := [.addEvent ⟨1, .common⟩ 10, .renewEvents (fun _ => true) [],
      .killAllEvents, .renewEvents (fun _ => true) [], .update 20, .turn]
    let s := run step (fromNow { needKill := false }) calls
    KilledNeverRun s.log ∧ KilledAborted s ∧ s.log = [.added 1, .merged 1 10 0, .killed [1], .aborted 1 true] :=
  have h := killed_events_never_run { needKill := false } _ (by decide +kernel)
  ⟨h.1, h.2, by decide +kernel⟩

/-- An event that is still in the queue at the kill is merged later, and executed. -/
theorem killed_events_run_queued :
    ¬ KilledNeverRun (run step (fromNow { needKill := false }) [.addEvent ⟨1, .common⟩ 10,
      .killAllEvents, .renewEvents (fun _ => true) [], .update 20, .turn]).log := by
  intro h
  have hlog : (run step (fromNow { needKill := false }) [.addEvent ⟨1, .common⟩ 10,
      .killAllEvents, .renewEvents (fun _ => true) [], .update 20, .turn]).log =
      [.added 1, .killed [1], .merged 1 10 0, .executed 1 10 20] := by decide +kernel
  have hadded := h [.added 1] [1] [.merged 1 10 0] 1 10 20 [] hlog
  simp at hadded

end Mangos
