import Mathlib.Data.List.Count
import Mangos.Event.Processor
import Mangos.Framework.History

/-!
# The order of events

An event is ended once for each time it was added.
-/

namespace Mangos

open Framework

namespace EventHappening

def isEnd (id : Nat) : EventHappening → Bool
  | .executed id' _ _ => id' = id
  | .dropped id' => id' = id
  | .aborted id' deleted => id' = id && deleted
  | _ => false

def isExecutedAfter (time : Nat) : EventHappening → Bool
  | .executed _ time' _ => time < time'
  | _ => false

def isLateMerge (id time : Nat) : EventHappening → Bool
  | .merged id' time' now => id' = id && time' = time && time < now
  | _ => false

end EventHappening

open EventHappening

def Overtaken (id time : Nat) (log : List EventHappening) : Prop :=
  since (isExecutedAfter time) (isLateMerge id time) log = true

def ExecutedInOrder (before : List EventHappening) (x : EventHappening) : Prop :=
  ∀ id time now, x = .executed id time now → ¬ Overtaken id time before ∧ time ≤ now

def EventHappening.Still : EventHappening → Prop
  | .executed .. => False
  | _ => True

section Log

variable {log l : List EventHappening} {id time : Nat}

theorem EventHappening.Still.isExecutedAfter {x : EventHappening} (h : x.Still) (time : Nat) :
    x.isExecutedAfter time = false := by
  cases x with
  | executed => exact h.elim
  | _ => rfl

theorem Overtaken.of_append (hl : ∀ x ∈ l, x.Still) (h : Overtaken id time (log ++ l)) : Overtaken id time log :=
  since_of_append (fun x hx => (hl x hx).isExecutedAfter time) h

theorem executedInOrder_append (hl : ∀ x ∈ l, x.Still) (h : AtEach ExecutedInOrder log) :
    AtEach ExecutedInOrder (log ++ l) := by
  apply h.append
  rintro x hx before id time now rfl
  exact (hl _ hx).elim

end Log

namespace WorldObjectEventProcessor

variable {s : WorldObjectEventProcessor}

/-- The list has not been overtaken, nothing was executed in the future, and unique types are unique. -/
structure InOrder (s : WorldObjectEventProcessor) : Prop where
  past : ∀ id time now, .executed id time now ∈ s.log → time ≤ s.time
  events : ∀ x ∈ s.events.toList, ¬ Overtaken x.2.id x.1 s.log
  executed : AtEach ExecutedInOrder s.log
  unique : ∀ type, type = .unique ∨ type = .evadeUnique → s.events.toList.countP (·.2.type = type) ≤ 1

theorem InOrder.fewer (h : s.InOrder) {t : WorldObjectEventProcessor} {l : List EventHappening}
    (hl : ∀ x ∈ l, x.Still) (hlog : t.log = s.log ++ l) (htime : s.time ≤ t.time)
    (hevents : t.events.toList.Sublist s.events.toList) : t.InOrder := by
  refine ⟨fun id time now hx => ?_, fun x hx hover => ?_, ?_, fun type htype => ?_⟩
  · rw [hlog, List.mem_append] at hx
    rcases hx with hx | hx
    · exact (h.past id time now hx).trans htime
    · exact (hl _ hx).elim
  · rw [hlog] at hover
    exact h.events x (hevents.subset hx) (hover.of_append hl)
  · rw [hlog]
    exact executedInOrder_append hl h.executed
  · exact (hevents.countP_le).trans (h.unique type htype)

theorem InOrder.addEvent (h : s.InOrder) (event : BasicEvent) (e_time : Nat) : (s.addEvent event e_time).InOrder :=
  h.fewer (l := [.added event.id]) (by simp [Still]) rfl (Nat.le_refl _) (.refl _)

theorem InOrder.killList (h : s.InOrder) (force : Bool) (isDeletable : BasicEvent → Bool) :
    (s.killList force isDeletable).InOrder := by
  refine h.fewer (l := s.events.toList.map fun x => .aborted x.2.id (force || isDeletable x.2)) ?_
    rfl (Nat.le_refl _) ?_
  · intro x hx
    obtain ⟨y, -, rfl⟩ := List.mem_map.mp hx
    trivial
  · cases force with
    | true => exact List.nil_sublist _
    | false => exact List.filter_sublist

theorem InOrder.killNeeded (h : s.InOrder) (isDeletable : BasicEvent → Bool)
    (additions : List (BasicEvent × Nat)) : (s.killNeeded isDeletable additions).InOrder := by
  rw [WorldObjectEventProcessor.killNeeded, addEvents_eq]
  split
  · refine (h.killList false isDeletable).fewer
      (l := additions.map fun a => .added a.1.id) ?_ rfl (Nat.le_refl _) (.refl _)
    intro x hx
    obtain ⟨a, -, rfl⟩ := List.mem_map.mp hx
    trivial
  · exact h

theorem InOrder.mergeEvent (h : s.InOrder) (x : Nat × BasicEvent) : (s.mergeEvent x).InOrder := by
  rcases mergeEvent_cases s x with ⟨-, heq⟩ | ⟨hnew, heq⟩
  · rw [heq]
    exact h.fewer (l := [.dropped x.2.id]) (by simp [Still]) rfl (Nat.le_refl _) (.refl _)
  · rw [heq]
    have hstill : ∀ y ∈ [EventHappening.merged x.2.id x.1 s.time], y.Still := by simp [Still]
    refine ⟨fun id time now hy => ?_, fun y hy hover => ?_,
      executedInOrder_append hstill h.executed, fun type htype => ?_⟩
    · rcases List.mem_append.mp hy with hy | hy
      · exact h.past id time now hy
      · exact (hstill _ hy).elim
    · rcases (Multimap.mem_insert s.events).mp hy with rfl | hy
      · by_cases hlate : y.1 < s.time
        · simp [Overtaken, isLateMerge, isExecutedAfter, hlate] at hover
        · -- nothing can have been executed that was planned for later
          have hnone : ∀ z ∈ s.log, z.isExecutedAfter y.1 = false := by
            intro z hz
            cases z with
            | executed id time now =>
              have hpast := h.past id time now hz
              simp only [isExecutedAfter, decide_eq_false_iff_not]
              omega
            | _ => rfl
          have hfalse : since (isExecutedAfter y.1) (isLateMerge y.2.id y.1) s.log = false :=
            since_eq_false hnone
          have hold := hover.of_append hstill
          simp [Overtaken, hfalse] at hold
      · exact h.events y hy (hover.of_append hstill)
    · rw [(s.events.perm_insert x).countP_eq, List.countP_cons]
      by_cases hx : x.2.type = type
      · have hzero : s.events.toList.countP (·.2.type = type) = 0 := by
          rw [List.countP_eq_zero]
          intro y hy
          simpa [← hx] using hnew (hx ▸ htype) y hy
        simp [hzero, hx]
      · simpa [hx] using h.unique type htype

theorem InOrder.mergeQueue (h : s.InOrder) : s.mergeQueue.InOrder := by
  have hfold : ∀ (l : List (Nat × BasicEvent)) (s : WorldObjectEventProcessor), s.InOrder →
      (l.foldl WorldObjectEventProcessor.mergeEvent s).InOrder := by
    intro l
    induction l with
    | nil => exact fun _ h => h
    | cons x l ih => exact fun s h => ih _ (h.mergeEvent x)
  have hall := hfold s.queue s h
  exact ⟨hall.past, hall.events, hall.executed, hall.unique⟩

theorem InOrder.renewEvents (h : s.InOrder) (isDeletable : BasicEvent → Bool)
    (additions : List (BasicEvent × Nat)) : (s.renewEvents isDeletable additions).InOrder :=
  (h.killNeeded isDeletable additions).mergeQueue

theorem InOrder.beginUpdate (h : s.InOrder) (p_time : Nat) : (s.beginUpdate p_time).InOrder :=
  h.fewer (l := []) (by simp) (by simp [WorldObjectEventProcessor.beginUpdate])
    (Nat.le_add_right _ _) (.refl _)

theorem InOrder.updateEvent (h : s.InOrder) : s.updateEvent.InOrder := by
  have htail : s.events.tail.toList.Sublist s.events.toList := List.tail_sublist _
  rcases updateEvent_cases s with heq | ⟨x, hhead, hdue, ⟨-, heq⟩ | ⟨-, heq⟩⟩
  · rw [heq]
    exact ⟨h.past, h.events, h.executed, h.unique⟩
  · rw [heq]
    exact h.fewer (l := [.aborted x.2.id true]) (by simp [Still]) rfl (Nat.le_refl _) htail
  · rw [heq]
    refine ⟨fun id time now hy => ?_, fun y hy hover => ?_,
      atEach_snoc.mpr ⟨h.executed, ?_⟩, fun type htype => ?_⟩
    · rcases List.mem_append.mp hy with hy | hy
      · exact h.past id time now hy
      · cases List.mem_singleton.mp hy
        exact hdue
    · have hin := htail.subset hy
      -- the first event of the list is not after the others
      have hle := Multimap.key_le_of_head? hhead hin
      refine h.events y hin ?_
      simpa [Overtaken, isExecutedAfter, isLateMerge, Nat.not_lt.mpr hle] using hover
    · rintro id time now heq
      cases heq
      exact ⟨h.events x (List.mem_of_mem_head? hhead), hdue⟩
    · exact htail.countP_le.trans (h.unique type htype)

theorem InOrder.step (h : s.InOrder) (call : EventCall) : (s.step call).InOrder := by
  cases call with
  | addEvent event e_time => exact h.addEvent event e_time
  | killAllEvents =>
    exact h.fewer (l := [.killed s.pending]) (by simp [Still]) rfl (Nat.le_refl _) (.refl _)
  | killAllEventsForced isDeletable additions =>
    rw [WorldObjectEventProcessor.step]
    split
    · exact (h.renewEvents isDeletable additions).killList true isDeletable
    · exact h
  | renewEvents isDeletable additions =>
    rw [WorldObjectEventProcessor.step]
    split
    · exact h.renewEvents isDeletable additions
    · exact h
  | update p_time =>
    rw [WorldObjectEventProcessor.step]
    split
    · exact h.beginUpdate p_time
    · exact h
  | updateForced p_time isDeletable additions =>
    rw [WorldObjectEventProcessor.step]
    split
    · exact (h.renewEvents isDeletable additions).beginUpdate p_time
    · exact h
  | turn =>
    rw [WorldObjectEventProcessor.step]
    split
    · exact h.updateEvent
    · exact h
  | returned =>
    rw [WorldObjectEventProcessor.step]
    split
    · exact ⟨h.past, h.events, h.executed, h.unique⟩
    · exact h

def Accounted (s : WorldObjectEventProcessor) (waiting : List (Nat × BasicEvent)) : Prop :=
  ∀ id, s.log.countP (isAdded id) =
    waiting.countP (·.2.id = id) + s.events.toList.countP (·.2.id = id) + s.log.countP (isEnd id)

theorem Accounted.addEvent {waiting : List (Nat × BasicEvent)} (h : s.Accounted waiting)
    (event : BasicEvent) (e_time : Nat) : (s.addEvent event e_time).Accounted (waiting ++ [(e_time, event)]) := by
  intro id
  have hold := h id
  by_cases hid : event.id = id
  all_goals
    simp [WorldObjectEventProcessor.addEvent, isAdded, isEnd, hid]
    omega

theorem Accounted.addEvents {waiting : List (Nat × BasicEvent)} (h : s.Accounted waiting)
    (additions : List (BasicEvent × Nat)) :
    (s.addEvents additions).Accounted (waiting ++ additions.map fun a => (a.2, a.1)) := by
  induction additions generalizing s waiting with
  | nil => simpa [WorldObjectEventProcessor.addEvents] using h
  | cons a additions ih =>
    have hrest := ih (h.addEvent a.1 a.2)
    rwa [List.append_assoc] at hrest

theorem Accounted.killList {waiting : List (Nat × BasicEvent)} (h : s.Accounted waiting)
    (force : Bool) (isDeletable : BasicEvent → Bool) : (s.killList force isDeletable).Accounted waiting := by
  intro id
  have hadded : (s.events.toList.map fun x =>
      EventHappening.aborted x.2.id (force || isDeletable x.2)).countP (isAdded id) = 0 := by
    simp [List.countP_map, Function.comp_def, isAdded]
  have hended : (s.events.toList.map fun x =>
      EventHappening.aborted x.2.id (force || isDeletable x.2)).countP (isEnd id) =
        (s.events.toList.filter fun x => force || isDeletable x.2).countP (·.2.id = id) := by
    rw [List.countP_map, List.countP_filter]
    rfl
  have hsplit : s.events.toList.countP (·.2.id = id) =
      (s.events.toList.filter fun x => force || isDeletable x.2).countP (·.2.id = id) +
        (s.events.toList.filter fun x => !(force || isDeletable x.2)).countP (·.2.id = id) := by
    rw [List.countP_eq_countP_filter_add _ _ fun x => force || isDeletable x.2]
  have hleft : (s.killList force isDeletable).events.toList =
      s.events.toList.filter fun x => !(force || isDeletable x.2) := by
    cases force with
    | true => simp [WorldObjectEventProcessor.killList]
    | false => rfl
  have hlog : (s.killList force isDeletable).log = s.log ++ s.events.toList.map fun x =>
      .aborted x.2.id (force || isDeletable x.2) := rfl
  have hold := h id
  rw [hleft, hlog, List.countP_append, List.countP_append, hadded, hended]
  omega

theorem Accounted.mergeEvent {waiting : List (Nat × BasicEvent)} {x : Nat × BasicEvent}
    (h : s.Accounted (x :: waiting)) : (s.mergeEvent x).Accounted waiting := by
  intro id
  have hold := h id
  rw [List.countP_cons] at hold
  rcases mergeEvent_cases s x with ⟨-, heq⟩ | ⟨-, heq⟩
  · rw [heq]
    by_cases hid : x.2.id = id
    all_goals
      simp [isAdded, isEnd, hid] at hold ⊢
      omega
  · rw [heq]
    by_cases hid : x.2.id = id
    all_goals
      simp [(s.events.perm_insert x).countP_eq, isAdded, isEnd, hid] at hold ⊢
      omega

theorem Accounted.mergeQueue (h : s.Accounted s.queue) : s.mergeQueue.Accounted [] := by
  have hfold : ∀ (l : List (Nat × BasicEvent)) (s : WorldObjectEventProcessor), s.Accounted l →
      (l.foldl WorldObjectEventProcessor.mergeEvent s).Accounted [] := by
    intro l
    induction l with
    | nil => exact fun _ h => h
    | cons x l ih => exact fun s h => ih _ h.mergeEvent
  exact hfold s.queue s h

theorem Accounted.renewEvents (h : s.Accounted s.queue) (isDeletable : BasicEvent → Bool)
    (additions : List (BasicEvent × Nat)) :
    (s.renewEvents isDeletable additions).Accounted (s.renewEvents isDeletable additions).queue := by
  have hkill : (s.killNeeded isDeletable additions).Accounted
      (s.killNeeded isDeletable additions).queue := by
    rw [WorldObjectEventProcessor.killNeeded]
    split
    · have hall := (h.killList false isDeletable).addEvents additions
      rw [addEvents_eq] at hall ⊢
      exact hall
    · exact h
  exact hkill.mergeQueue

theorem Accounted.updateEvent (h : s.Accounted s.queue) : s.updateEvent.Accounted s.updateEvent.queue := by
  rcases updateEvent_cases s with heq | ⟨x, hhead, -, ⟨-, heq⟩ | ⟨-, heq⟩⟩
  · rw [heq]
    exact h
  all_goals
    rw [heq]
    intro id
    have hold := h id
    obtain ⟨l, hl⟩ := List.head?_eq_some_iff.mp hhead
    rw [hl, List.countP_cons] at hold
    by_cases hid : x.2.id = id
    all_goals
      simp [isAdded, isEnd, hl, hid] at hold ⊢
      omega

theorem Accounted.step (h : s.Accounted s.queue) (call : EventCall) : (s.step call).Accounted (s.step call).queue := by
  cases call with
  | addEvent event e_time => exact h.addEvent event e_time
  | killAllEvents =>
    intro id
    have hold := h id
    simpa [WorldObjectEventProcessor.step, killAllEvents, isAdded, isEnd] using hold
  | killAllEventsForced isDeletable additions =>
    rw [WorldObjectEventProcessor.step]
    split
    · exact (h.renewEvents isDeletable additions).killList true isDeletable
    · exact h
  | renewEvents isDeletable additions =>
    rw [WorldObjectEventProcessor.step]
    split
    · exact h.renewEvents isDeletable additions
    · exact h
  | update p_time =>
    rw [WorldObjectEventProcessor.step]
    split
    · exact h
    · exact h
  | updateForced p_time isDeletable additions =>
    rw [WorldObjectEventProcessor.step]
    split
    · exact h.renewEvents isDeletable additions
    · exact h
  | turn =>
    rw [WorldObjectEventProcessor.step]
    split
    · exact h.updateEvent
    · exact h
  | returned =>
    rw [WorldObjectEventProcessor.step]
    split
    · exact h
    · exact h

def turns (s : WorldObjectEventProcessor) : List EventCall → Nat
  | [] => 0
  | call :: calls =>
    (match call, s.phase with
      | .turn, .updating => 1
      | _, _ => 0) + turns (s.step call) calls

def StillUpdating (s : WorldObjectEventProcessor) (_ : EventCall) : Prop := s.phase ≠ .idle

theorem events_step {call : EventCall} (h : s.phase ≠ .idle) (hcall : call ≠ .turn) :
    (s.step call).events = s.events := by
  cases call with
  | turn => exact absurd rfl hcall
  | returned =>
    rw [WorldObjectEventProcessor.step]
    split <;> rfl
  | _ => simp [WorldObjectEventProcessor.step, h, addEvent, killAllEvents]

theorem turns_le (calls : List EventCall) (h : Guarded step StillUpdating s calls) :
    s.turns calls ≤ s.events.toList.length + 1 := by
  induction calls generalizing s with
  | nil => exact Nat.zero_le _
  | cons call calls ih =>
    obtain ⟨hphase, hrest⟩ := h
    by_cases hcall : call = .turn ∧ s.phase = .updating
    · obtain ⟨rfl, hupdating⟩ := hcall
      have hstep : s.step .turn = s.updateEvent := by simp [WorldObjectEventProcessor.step, hupdating]
      simp only [turns, hupdating]
      have htaken : s.updateEvent.phase = .idle ∨
          s.updateEvent.events.toList.length + 1 = s.events.toList.length := by
        rcases updateEvent_cases s with heq | ⟨x, hhead, -, ⟨-, heq⟩ | ⟨-, heq⟩⟩
        · rw [heq]
          exact .inl rfl
        all_goals
          rw [heq]
          obtain ⟨l, hl⟩ := List.head?_eq_some_iff.mp hhead
          exact .inr (by simp [hl])
      rcases htaken with hidle | htaken
      · cases calls with
        | nil => simp [turns]
        | cons call calls => exact absurd (hstep ▸ hidle) hrest.1
      · have hle := ih hrest
        rw [hstep] at hle ⊢
        omega
    · have hzero : s.turns (call :: calls) = (s.step call).turns calls := by
        rw [turns, Nat.zero_add]
        exact fun hturn hupdating => hcall ⟨hturn, hupdating⟩
      have hevents : (s.step call).events = s.events := by
        by_cases hturn : call = .turn
        · subst hturn
          have hnot : s.phase ≠ .updating := fun hupdating => hcall ⟨rfl, hupdating⟩
          simp [WorldObjectEventProcessor.step, hnot]
        · exact events_step hphase hturn
      have hle := ih hrest
      rw [hevents] at hle
      rw [hzero]
      exact hle

end WorldObjectEventProcessor

open WorldObjectEventProcessor

/-- In every run from a new processor: an addition ends once; what is executed after something planned
for later was merged late in between; nothing is executed before its time; an update ends; and the list
has at most one event of a unique type. -/
theorem events_once_in_order (needKill : Bool) (calls : List EventCall) :
    let s := run step { needKill := needKill } calls
    (∀ id, s.log.countP (isAdded id) = s.pending.count id + s.log.countP (isEnd id)) ∧
      (∀ m₁ id time now m₂ id' time' now' m₃,
        s.log = m₁ ++ .executed id time now :: (m₂ ++ .executed id' time' now' :: m₃) →
        time ≤ time' ∨ ∃ merge, .merged id' time' merge ∈ m₂ ∧ time' < merge) ∧
      (∀ id time now, .executed id time now ∈ s.log → time ≤ now) ∧
      (∀ more, Guarded step StillUpdating s more → s.turns more ≤ s.events.toList.length + 1) ∧
      ∀ type, type = .unique ∨ type = .evadeUnique → s.events.toList.countP (·.2.type = type) ≤ 1 := by
  intro s
  have hall : s.Accounted s.queue ∧ s.InOrder := by
    have hinv : ∀ (t : WorldObjectEventProcessor) (call : EventCall), True → t.Accounted t.queue ∧ t.InOrder →
        (t.step call).Accounted (t.step call).queue ∧ (t.step call).InOrder :=
      fun t call _ h => ⟨h.1.step call, h.2.step call⟩
    apply run_invariant hinv (guarded_of_forall (fun _ _ => trivial) _ _)
    exact ⟨fun id => rfl, ⟨fun _ _ _ hx => (by cases hx), fun _ hx => (by cases hx), atEach_nil,
      fun _ _ => Nat.zero_le 1⟩⟩
  obtain ⟨haccounted, horder⟩ := hall
  refine ⟨fun id => ?_, fun m₁ id time now m₂ id' time' now' m₃ hlog => ?_,
    fun id time now hx => ?_, fun more hmore => turns_le more hmore, horder.unique⟩
  · have hcount := haccounted id
    have hpending : s.pending.count id =
        s.queue.countP (·.2.id = id) + s.events.toList.countP (·.2.id = id) := by
      rw [pending, List.count_eq_countP, List.countP_map, List.countP_append]
      simp [Function.comp_def, beq_eq_decide]
    rw [hcount, hpending]
  · by_contra hnot
    simp only [not_or, not_exists, not_and, Nat.not_le] at hnot
    obtain ⟨hlt, hlate⟩ := hnot
    refine (horder.executed (m₁ ++ .executed id time now :: m₂) _ m₃ (by simp [hlog]) id' time' now'
      rfl).1 ?_
    apply since_append_of_on
    · simpa [isExecutedAfter] using hlt
    · intro y hy
      cases y with
      | merged id'' time'' merge =>
        simp only [isLateMerge, Bool.and_eq_false_iff, decide_eq_false_iff_not]
        by_contra hboth
        simp only [not_or, not_not] at hboth
        obtain ⟨⟨rfl, rfl⟩, hbefore⟩ := hboth
        exact hlate merge hy hbefore
      | _ => rfl
  · obtain ⟨before, after, hlog⟩ := List.append_of_mem hx
    exact (horder.executed before _ after hlog id time now rfl).2

/-- An event that is added when its time is over comes after a later one. -/
theorem events_executed_late :
    let s := run step { needKill := false } [.addEvent ⟨1, .common⟩ 100,
      .updateForced 200 (fun _ => true) [], .turn, .returned, .turn, .addEvent ⟨2, .common⟩ 50,
      .updateForced 1 (fun _ => true) [], .turn]
    s.log = [.added 1, .merged 1 100 0, .executed 1 100 200, .added 2, .merged 2 50 200, .executed 2 50 201] := by
  decide +kernel

end Mangos
