import Mangos.Framework.Table
import Mangos.Framework.Run

/-!
# The events of a world object

New events wait in a queue, also those that an event adds while it is executed.
-/

namespace Mangos

inductive WorldObjectEventType
  | common | unique | evadeUnique | repeatable | death
  deriving DecidableEq, Repr

/-- An event object. -/
structure BasicEvent where
  id : Nat
  type : WorldObjectEventType
  deriving DecidableEq, Repr

/-- What happens to events, with the planned time, and the time of the processor where it plays a role. -/
inductive EventHappening
  | added (id : Nat)
  | merged (id time now : Nat)
  | dropped (id : Nat)
  | executed (id time now : Nat)
  | aborted (id : Nat) (deleted : Bool)
  | killed (pending : List Nat)
  deriving DecidableEq, Repr

def EventHappening.isAdded (id : Nat) : EventHappening → Bool
  | .added id' => id' = id
  | _ => false

/-- Where the processor is: in no update, in the event loop of an update, or in an event that this loop
executes. -/
inductive UpdatePhase
  | idle
  | updating
  | executing (id : Nat)
  deriving DecidableEq, Repr

/-- The processor, with the `to_Abort` of the events, and a log of what happened. -/
structure WorldObjectEventProcessor where
  time : Nat := 0
  events : Framework.Multimap Nat BasicEvent := .empty
  queue : List (Nat × BasicEvent) := []
  needKill : Bool
  toAbort : Nat → Bool := fun _ => false
  phase : UpdatePhase := .idle
  log : List EventHappening := []

namespace WorldObjectEventProcessor

variable (s : WorldObjectEventProcessor)

def pending : List Nat := (s.queue ++ s.events.toList).map (·.2.id)

def addEvent (event : BasicEvent) (e_time : Nat) : WorldObjectEventProcessor :=
  { s with queue := s.queue ++ [(e_time, event)], log := s.log ++ [.added event.id] }

/-- `EventProcessor::KillAllEvents`, of the list. -/
def killList (force : Bool) (isDeletable : BasicEvent → Bool) : WorldObjectEventProcessor :=
  { s with
    toAbort := fun id => s.toAbort id || s.events.toList.any (·.2.id = id)
    events := if force then .empty else s.events.filter fun x => !isDeletable x.2
    log := s.log ++ s.events.toList.map fun x => .aborted x.2.id (force || isDeletable x.2) }

/-- One turn of the loop in `RenewEvents`: an event of a unique type is dropped when the list has one of
that type. -/
def mergeEvent (s : WorldObjectEventProcessor) (x : Nat × BasicEvent) : WorldObjectEventProcessor :=
  if (x.2.type = .unique ∨ x.2.type = .evadeUnique) ∧ s.events.toList.any (·.2.type = x.2.type) then
    { s with log := s.log ++ [.dropped x.2.id] }
  else
    { s with events := s.events.insert x, log := s.log ++ [.merged x.2.id x.1 s.time] }

def addEvents (additions : List (BasicEvent × Nat)) : WorldObjectEventProcessor :=
  additions.foldl (fun s a => s.addEvent a.1 a.2) s

def killNeeded (isDeletable : BasicEvent → Bool) (additions : List (BasicEvent × Nat)) :
    WorldObjectEventProcessor :=
  if s.needKill then { (s.killList false isDeletable).addEvents additions with needKill := false }
  else s

def mergeQueue : WorldObjectEventProcessor :=
  { s.queue.foldl mergeEvent s with queue := [] }

def renewEvents (isDeletable : BasicEvent → Bool) (additions : List (BasicEvent × Nat)) :
    WorldObjectEventProcessor :=
  (s.killNeeded isDeletable additions).mergeQueue

/-- `WorldObjectEventProcessor::KillAllEvents` with `force` false. -/
def killAllEvents : WorldObjectEventProcessor :=
  { s with needKill := true, log := s.log ++ [.killed s.pending] }

/-- `WorldObjectEventProcessor::KillAllEvents` with `force` true. -/
def killAllEventsForced (isDeletable : BasicEvent → Bool) (additions : List (BasicEvent × Nat)) :
    WorldObjectEventProcessor :=
  (s.renewEvents isDeletable additions).killList true isDeletable

/-- `EventProcessor::Update` up to the loop. -/
def beginUpdate (p_time : Nat) : WorldObjectEventProcessor :=
  { s with time := s.time + p_time, phase := .updating }

/-- One turn of the loop in `EventProcessor::Update`, up to the call of the event. -/
def updateEvent : WorldObjectEventProcessor :=
  match s.events.toList.head? with
  | none => { s with phase := .idle }
  | some (time, event) =>
    if s.time < time then { s with phase := .idle }
    else if s.toAbort event.id then
      { s with events := s.events.tail, log := s.log ++ [.aborted event.id true] }
    else
      { s with
        events := s.events.tail
        phase := .executing event.id
        log := s.log ++ [.executed event.id time s.time] }

end WorldObjectEventProcessor

/-- A call of the processor, or the next turn of an update. An event that is executed can add events and
ask for a kill; the other calls take the lock that an update holds. -/
inductive EventCall
  | addEvent (event : BasicEvent) (e_time : Nat)
  | killAllEvents
  | killAllEventsForced (isDeletable : BasicEvent → Bool) (additions : List (BasicEvent × Nat))
  | renewEvents (isDeletable : BasicEvent → Bool) (additions : List (BasicEvent × Nat))
  | update (p_time : Nat)
  | updateForced (p_time : Nat) (isDeletable : BasicEvent → Bool)
      (additions : List (BasicEvent × Nat))
  | turn
  | returned

namespace WorldObjectEventProcessor

/-- Calls that an update keeps waiting have no effect. -/
def step (s : WorldObjectEventProcessor) : EventCall → WorldObjectEventProcessor
  | .addEvent event e_time => s.addEvent event e_time
  | .killAllEvents => s.killAllEvents
  | .killAllEventsForced isDeletable additions =>
    if s.phase = .idle then s.killAllEventsForced isDeletable additions else s
  | .renewEvents isDeletable additions =>
    if s.phase = .idle then s.renewEvents isDeletable additions else s
  | .update p_time => if s.phase = .idle then s.beginUpdate p_time else s
  | .updateForced p_time isDeletable additions =>
    if s.phase = .idle then (s.renewEvents isDeletable additions).beginUpdate p_time else s
  | .turn => if s.phase = .updating then s.updateEvent else s
  | .returned =>
    match s.phase with
    | .executing _ => { s with phase := .updating }
    | _ => s

theorem addEvents_eq (s : WorldObjectEventProcessor) (additions : List (BasicEvent × Nat)) : s.addEvents additions =
      { s with
        queue := s.queue ++ additions.map fun a => (a.2, a.1)
        log := s.log ++ additions.map fun a => .added a.1.id } := by
  induction additions generalizing s with
  | nil => simp [addEvents]
  | cons a additions ih =>
    have hstep : s.addEvents (a :: additions) = (s.addEvent a.1 a.2).addEvents additions := rfl
    rw [hstep, ih]
    simp [addEvent]

theorem mergeEvent_cases (s : WorldObjectEventProcessor) (x : Nat × BasicEvent) :
    (((x.2.type = .unique ∨ x.2.type = .evadeUnique) ∧ ∃ y ∈ s.events.toList, y.2.type = x.2.type) ∧
      s.mergeEvent x = { s with log := s.log ++ [.dropped x.2.id] }) ∨
    (((x.2.type = .unique ∨ x.2.type = .evadeUnique) → ∀ y ∈ s.events.toList, y.2.type ≠ x.2.type) ∧ s.mergeEvent x =
        { s with events := s.events.insert x, log := s.log ++ [.merged x.2.id x.1 s.time] }) := by
  rw [mergeEvent]
  split
  next hdrop =>
    obtain ⟨htype, y, hy, heq⟩ : _ ∧ ∃ y ∈ s.events.toList, y.2.type = x.2.type := by
      simpa using hdrop
    exact .inl ⟨⟨htype, y, hy, heq⟩, rfl⟩
  next hkeep =>
    refine .inr ⟨fun htype y hy heq => hkeep ⟨htype, ?_⟩, rfl⟩
    exact List.any_eq_true.mpr ⟨y, hy, by simpa using heq⟩

theorem updateEvent_cases (s : WorldObjectEventProcessor) : s.updateEvent = { s with phase := .idle } ∨
    ∃ x, s.events.toList.head? = some x ∧ x.1 ≤ s.time ∧ (s.toAbort x.2.id = true ∧ s.updateEvent = { s with
            events := s.events.tail
            log := s.log ++ [.aborted x.2.id true] } ∨
        s.toAbort x.2.id = false ∧ s.updateEvent = { s with
            events := s.events.tail
            phase := .executing x.2.id
            log := s.log ++ [.executed x.2.id x.1 s.time] }) := by
  rw [updateEvent]
  split
  next => exact .inl rfl
  next time event hhead =>
    split
    next => exact .inl rfl
    next hdue =>
      refine .inr ⟨(time, event), hhead, Nat.not_lt.mp hdue, ?_⟩
      cases habort : s.toAbort event.id with
      | true => exact .inl ⟨rfl, rfl⟩
      | false => exact .inr ⟨rfl, rfl⟩

end WorldObjectEventProcessor

end Mangos
