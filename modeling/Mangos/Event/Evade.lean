import Mangos.Event.Processor
import Mangos.Object.ObjectGuid

/-!
# Delayed evades

A creature with nobody left to fight evades after a while.
-/

namespace Mangos

/-- A unit with its events, which are numbered as they are made. `delayedEvade` is
`UNIT_STAT_DELAYED_EVADE` among its states. -/
structure Evader where
  isCreature : Bool
  highGuid : HighGuid
  delayedEvade : Bool := false
  nextEvent : Nat := 0
  processor : WorldObjectEventProcessor

/-- What may be done to the events of a unit while one of them is executed. -/
inductive EventAction
  | addEvent (type : WorldObjectEventType) (e_time : Nat)
  | killAllEvents

/-- What `EvadeDelayEvent::Execute` finds: the answers to its questions, and what the unit does to its events while a
target is selected and while it evades. -/
structure Evasion where
  inEvadeMode : Bool := false
  selectHostileTarget : Bool := false
  selecting : List EventAction := []
  ownerSelectHostileTarget : Bool := false
  ownerSelecting : List EventAction := []
  isAILocked : Bool := false
  isDespawned : Bool := false
  isCharmed : Bool := false
  canNotReactOrLostControl : Bool := false
  evading : List EventAction := []

/-- What happens to a unit and to its events. Only `EvadeDelayEvent` has the type `evadeUnique`. -/
inductive EvaderCall
  | act (action : EventAction)
  | clearUnitState
  | killAllEventsForced (isDeletable : BasicEvent → Bool)
      (additions : List (WorldObjectEventType × Nat))
  | renewEvents (isDeletable : BasicEvent → Bool) (additions : List (WorldObjectEventType × Nat))
  | update (p_time : Nat)
  | updateForced (p_time : Nat) (isDeletable : BasicEvent → Bool)
      (additions : List (WorldObjectEventType × Nat))
  | turn (v : Evasion)
  | returned

namespace WorldObjectEventProcessor

variable (p : WorldObjectEventProcessor)

def HasEvade : Prop := ∃ x ∈ p.queue ++ p.events.toList, x.2.type = .evadeUnique

instance : Decidable p.HasEvade := List.decidableBEx _ _

/-- The event that the next turn of the loop in `Update` executes. -/
def nextExecuted : Option BasicEvent :=
  if p.phase = .updating then
    (p.events.toList.head?.filter fun x => x.1 ≤ p.time && !p.toAbort x.2.id).map (·.2)
  else none

end WorldObjectEventProcessor

/-- `EvadeDelayEvent` leaves `IsDeletable` as it is in `BasicEvent`. -/
def deletableWithEvades (isDeletable : BasicEvent → Bool) (event : BasicEvent) : Bool :=
  event.type == .evadeUnique || isDeletable event

def numberEvents : Nat → List (WorldObjectEventType × Nat) → List (BasicEvent × Nat)
  | _, [] => []
  | n, a :: additions => (⟨n, a.1⟩, a.2) :: numberEvents (n + 1) additions

namespace Evader

variable (u : Evader)

/-- A unit as its constructor leaves it; the constructor of the processor does not set `needKill`. -/
def created (isCreature : Bool) (highGuid : HighGuid) (needKill : Bool) : Evader where
  isCreature := isCreature
  highGuid := highGuid
  processor := { needKill := needKill }

def clearUnitState : Evader := { u with delayedEvade := false }

def made (types : List WorldObjectEventType) : Evader :=
  { u with
    nextEvent := u.nextEvent + types.length
    delayedEvade := u.delayedEvade || (u.isCreature && types.contains .evadeUnique) }

/-- `WorldObject::AddEvent` of a new event. -/
def addEvent (type : WorldObjectEventType) (e_time : Nat) : Evader :=
  { u.made [type] with processor := u.processor.addEvent ⟨u.nextEvent, type⟩ e_time }

def act : EventAction → Evader
  | .addEvent type e_time => u.addEvent type e_time
  | .killAllEvents => { u with processor := u.processor.killAllEvents }

def acts (actions : List EventAction) : Evader := actions.foldl act u

def additionsMade (additions : List (WorldObjectEventType × Nat)) :
    List (WorldObjectEventType × Nat) :=
  if u.processor.needKill then additions else []

def renewEvents (isDeletable : BasicEvent → Bool) (additions : List (WorldObjectEventType × Nat)) :
    Evader :=
  { u.made ((u.additionsMade additions).map (·.1)) with
    processor := u.processor.renewEvents (deletableWithEvades isDeletable)
      (numberEvents u.nextEvent (u.additionsMade additions)) }

def killAllEventsForced (isDeletable : BasicEvent → Bool)
    (additions : List (WorldObjectEventType × Nat)) : Evader :=
  { u.made ((u.additionsMade additions).map (·.1)) with
    processor := u.processor.killAllEventsForced (deletableWithEvades isDeletable)
      (numberEvents u.nextEvent (u.additionsMade additions)) }

/-- `EvadeDelayEvent::Execute`, and whether the event is to be deleted. -/
def execute (v : Evasion) : Evader × Bool :=
  let u := u.clearUnitState
  if v.inEvadeMode then (u, true)
  else
    let u := u.acts v.selecting
    if v.selectHostileTarget then (u, true)
    else match u.highGuid with
      | .unit | .vehicle =>
        if v.isAILocked then ({ u with delayedEvade := true }, false)
        else if v.isDespawned || v.isCharmed || v.canNotReactOrLostControl then (u, true)
        else (u.acts v.evading, true)
      | .pet =>
        let u := u.acts v.ownerSelecting
        if v.ownerSelectHostileTarget then (u, true)
        else if v.isAILocked then ({ u with delayedEvade := true }, false)
        else if v.isDespawned then (u, true)
        else (u.acts v.evading, true)
      | _ => (u, true)

/-- The next turn of an update. What is executed is taken out of the list first. -/
def taken : Evader := { u with processor := u.processor.step .turn }

/-- A turn executes an event for an evade to its end; of another event it is the beginning only. -/
def turn (v : Evasion) : Evader :=
  match u.processor.nextExecuted with
  | some event =>
    if event.type = .evadeUnique then
      let executed := (u.taken.execute v).1
      { executed with processor := executed.processor.step .returned }
    else u.taken
  | none => u.taken

/-- Calls that an update keeps waiting have no effect. -/
def step (u : Evader) : EvaderCall → Evader
  | .act action => u.act action
  | .clearUnitState => u.clearUnitState
  | .killAllEventsForced isDeletable additions =>
    if u.processor.phase = .idle then u.killAllEventsForced isDeletable additions else u
  | .renewEvents isDeletable additions =>
    if u.processor.phase = .idle then u.renewEvents isDeletable additions else u
  | .update p_time => { u with processor := u.processor.step (.update p_time) }
  | .updateForced p_time isDeletable additions =>
    if u.processor.phase = .idle then
      let renewed := u.renewEvents isDeletable additions
      { renewed with processor := renewed.processor.beginUpdate p_time }
    else u
  | .turn v => u.turn v
  | .returned => { u with processor := u.processor.step .returned }

/-- A unit that is about to evade has an event for it. -/
def EvadePending : Prop := u.delayedEvade = true → u.processor.HasEvade

instance : Decidable u.EvadePending := inferInstanceAs (Decidable (_ → _))

/-- An event for an evade that is executed and not to be deleted is pending again. -/
def PutBack : EvaderCall → Prop
  | .turn v => ∀ event, u.processor.nextExecuted = some event → event.type = .evadeUnique →
      (u.taken.execute v).2 = false → event.id ∈ (u.turn v).processor.pending
  | _ => True

/-- `Execute` gets as far as the lock of the AI, and finds it locked. -/
def meetsLock (v : Evasion) : Bool :=
  !v.inEvadeMode && !v.selectHostileTarget && v.isAILocked &&
    match u.highGuid with
    | .unit | .vehicle => true
    | .pet => !v.ownerSelectHostileTarget
    | _ => false

/-- No event for an evade meets a locked AI, and the events of a unit that is about to evade are not
all aborted: either such an event is still queued, or one is added meanwhile. -/
def Undisturbed : EvaderCall → Prop
  | .turn v => ∀ event, u.processor.nextExecuted = some event → event.type = .evadeUnique → u.meetsLock v = false
  | .renewEvents _ additions | .updateForced _ _ additions =>
    u.processor.phase = .idle → u.processor.needKill = true → u.delayedEvade = true →
      (∃ x ∈ u.processor.queue, x.2.type = .evadeUnique) ∨ ∃ a ∈ additions, a.1 = WorldObjectEventType.evadeUnique
  | .killAllEventsForced _ additions => u.processor.phase = .idle →
      (u.made ((u.additionsMade additions).map (·.1))).delayedEvade = false
  | _ => True

end Evader

/-!
## A delayed evade has an event

It goes away in three ways: another one in the list takes its place, it is executed, or it is killed.
-/

open Framework

namespace WorldObjectEventProcessor

variable {p p' : WorldObjectEventProcessor} {n : Nat} {isDeletable : BasicEvent → Bool}

/-- No pending event has the number of another or of one to come, and those for an evade are not to be
aborted. -/
structure Labelled (p : WorldObjectEventProcessor) (n : Nat) : Prop where
  nodup : p.pending.Nodup
  fresh : ∀ id ∈ p.pending, id < n
  aborted : ∀ id, p.toAbort id = true → id < n
  live : ∀ x ∈ p.queue ++ p.events.toList, x.2.type = .evadeUnique → p.toAbort x.2.id = false

theorem Labelled.fewer (h : p.Labelled n) (hsub : (p'.queue ++ p'.events.toList).Subperm (p.queue ++ p.events.toList))
    (habort : p'.toAbort = p.toAbort) : p'.Labelled n := by
  obtain ⟨l, hperm, hl⟩ := id hsub
  refine ⟨(hperm.map _).nodup_iff.mp (h.nodup.sublist (hl.map _)), fun id hid => ?_,
    fun id hid => h.aborted id (habort ▸ hid), fun x hx htype => ?_⟩
  · exact h.fresh id (List.map_subset _ hsub.subset hid)
  · rw [habort]
    exact h.live x (hsub.subset hx) htype

theorem pending_addEvent (event : BasicEvent) (e_time : Nat) :
    (p.addEvent event e_time).pending.Perm (event.id :: p.pending) := by
  simp [pending, addEvent]

theorem Labelled.addEvent (h : p.Labelled n) (type : WorldObjectEventType) (e_time : Nat) :
    (p.addEvent ⟨n, type⟩ e_time).Labelled (n + 1) := by
  have hperm := @pending_addEvent p ⟨n, type⟩ e_time
  refine ⟨?_, fun id hid => ?_, fun id hid => (h.aborted id hid).trans (Nat.lt_succ_self n), ?_⟩
  · rw [hperm.nodup_iff, List.nodup_cons]
    exact ⟨fun hn => lt_irrefl n (h.fresh n hn), h.nodup⟩
  · rcases List.mem_cons.mp (hperm.mem_iff.mp hid) with hid | hid
    · exact Nat.lt_succ_of_le hid.le
    · exact (h.fresh id hid).trans (Nat.lt_succ_self n)
  · intro x hx htype
    have hmem : x = (e_time, ⟨n, type⟩) ∨ x ∈ p.queue ++ p.events.toList := by
      simpa [WorldObjectEventProcessor.addEvent, or_assoc, or_left_comm] using hx
    rcases hmem with rfl | hmem
    · exact Bool.eq_false_iff.mpr fun habort => lt_irrefl n (h.aborted n habort)
    · exact h.live x hmem htype

theorem Labelled.addEvents (h : p.Labelled n) (additions : List (WorldObjectEventType × Nat)) :
    (p.addEvents (numberEvents n additions)).Labelled (n + additions.length) := by
  induction additions generalizing p n with
  | nil => exact h
  | cons a additions ih =>
    have hrest := ih (h.addEvent a.1 a.2)
    rwa [Nat.add_assoc, Nat.add_comm 1] at hrest

theorem type_ne_of_mem_killList {force : Bool} {x : Nat × BasicEvent}
    (hx : x ∈ (p.killList force (deletableWithEvades isDeletable)).events.toList) : x.2.type ≠ .evadeUnique := by
  cases force with
  | true => simp [killList] at hx
  | false =>
    intro htype
    simp [killList, deletableWithEvades, htype] at hx

theorem killList_sublist (force : Bool) : (p.killList force isDeletable).events.toList.Sublist p.events.toList := by
  cases force with
  | true => simp [killList]
  | false => exact List.filter_sublist

theorem Labelled.killList (h : p.Labelled n) (force : Bool) :
    (p.killList force (deletableWithEvades isDeletable)).Labelled n := by
  have hsub := @killList_sublist p (deletableWithEvades isDeletable) force
  have hpending : (p.killList force (deletableWithEvades isDeletable)).pending.Sublist p.pending :=
    ((List.Sublist.refl p.queue).append hsub).map _
  refine ⟨h.nodup.sublist hpending, fun id hid => h.fresh id (hpending.subset hid), fun id hid => ?_,
    fun x hx htype => ?_⟩
  · have hcases : p.toAbort id = true ∨ ∃ x ∈ p.events.toList, x.2.id = id := by
      simpa [WorldObjectEventProcessor.killList] using hid
    rcases hcases with habort | ⟨x, hx, rfl⟩
    · exact h.aborted id habort
    · exact h.fresh _ (List.mem_map.mpr ⟨x, List.mem_append_right _ hx, rfl⟩)
  · rcases List.mem_append.mp hx with hqueue | hevents
    · have hlive := h.live x (List.mem_append_left _ hqueue) htype
      have hother : ∀ y ∈ p.events.toList, y.2.id ≠ x.2.id := by
        have hnodup := h.nodup
        rw [pending, List.map_append, List.nodup_append] at hnodup
        intro y hy heq
        exact hnodup.2.2 _ (List.mem_map.mpr ⟨x, hqueue, rfl⟩) _ (List.mem_map.mpr ⟨y, hy, rfl⟩)
          heq.symm
      simpa [WorldObjectEventProcessor.killList, hlive] using hother
    · exact absurd htype (type_ne_of_mem_killList hevents)

private theorem subperm_mergeEvents (l : List (Nat × BasicEvent)) :
    (l.foldl mergeEvent p).events.toList.Subperm (l ++ p.events.toList) ∧
      (l.foldl mergeEvent p).toAbort = p.toAbort := by
  induction l generalizing p with
  | nil => exact ⟨List.Subperm.refl _, rfl⟩
  | cons x l ih =>
    obtain ⟨hsub, habort⟩ := ih (p := p.mergeEvent x)
    have hone : (p.mergeEvent x).events.toList.Subperm (x :: p.events.toList) ∧
        (p.mergeEvent x).toAbort = p.toAbort := by
      rcases mergeEvent_cases p x with ⟨-, heq⟩ | ⟨-, heq⟩
      · rw [heq]
        exact ⟨(List.sublist_cons_self _ _).subperm, rfl⟩
      · rw [heq]
        exact ⟨(p.events.perm_insert x).subperm, rfl⟩
    refine ⟨?_, habort.trans hone.2⟩
    have hrest := hsub.trans ((List.subperm_append_left l).mpr hone.1)
    exact hrest.trans List.perm_middle.subperm

theorem Labelled.mergeQueue (h : p.Labelled n) : p.mergeQueue.Labelled n := by
  obtain ⟨hsub, habort⟩ := @subperm_mergeEvents p p.queue
  exact h.fewer (by simpa [WorldObjectEventProcessor.mergeQueue] using hsub) habort

theorem hasEvade_mergeQueue : p.mergeQueue.HasEvade ↔ p.HasEvade := by
  have hfold : ∀ (l : List (Nat × BasicEvent)) (p : WorldObjectEventProcessor),
      (∃ x ∈ (l.foldl mergeEvent p).events.toList, x.2.type = .evadeUnique) ↔
        ∃ x ∈ l ++ p.events.toList, x.2.type = .evadeUnique := by
    intro l
    induction l with
    | nil => exact fun p => Iff.rfl
    | cons x l ih =>
      intro p
      rw [List.foldl_cons, ih]
      rcases mergeEvent_cases p x with ⟨⟨-, y, hy, htype⟩, heq⟩ | ⟨-, heq⟩
      · rw [heq]
        constructor
        · rintro ⟨z, hz, hevade⟩
          exact ⟨z, List.mem_cons_of_mem x hz, hevade⟩
        · rintro ⟨z, hz, hevade⟩
          rcases List.mem_cons.mp hz with rfl | hz
          · exact ⟨y, List.mem_append_right _ hy, htype.trans hevade⟩
          · exact ⟨z, hz, hevade⟩
      · rw [heq]
        have hmem : ∀ z, z ∈ l ++ (p.events.insert x).toList ↔ z ∈ x :: (l ++ p.events.toList) := by
          intro z
          simp [or_left_comm]
        simp only [hmem, List.cons_append]
  have hall := hfold p.queue p
  simpa [HasEvade, mergeQueue] using hall

theorem hasEvade_addEvent (event : BasicEvent) (e_time : Nat) :
    (p.addEvent event e_time).HasEvade ↔ event.type = .evadeUnique ∨ p.HasEvade := by
  have hmem : ∀ x, x ∈ p.queue ++ [(e_time, event)] ++ p.events.toList ↔
      x = (e_time, event) ∨ x ∈ p.queue ++ p.events.toList := by
    intro x
    simp [or_left_comm]
  change (∃ x ∈ p.queue ++ [(e_time, event)] ++ p.events.toList, x.2.type = .evadeUnique) ↔ _
  simp only [hmem, or_and_right, exists_or, exists_eq_left, HasEvade]

theorem hasEvade_addEvents (n : Nat) (additions : List (WorldObjectEventType × Nat)) :
    (p.addEvents (numberEvents n additions)).HasEvade ↔
      p.HasEvade ∨ ∃ a ∈ additions, a.1 = WorldObjectEventType.evadeUnique := by
  induction additions generalizing p n with
  | nil => simp [numberEvents, WorldObjectEventProcessor.addEvents]
  | cons a additions ih =>
    have hstep : p.addEvents (numberEvents n (a :: additions)) =
      (p.addEvent ⟨n, a.1⟩ a.2).addEvents (numberEvents (n + 1) additions) := rfl
    rw [hstep, ih, hasEvade_addEvent]
    simp only [List.exists_mem_cons_iff, or_assoc, or_left_comm]

theorem step_turn_cases (p : WorldObjectEventProcessor) :
    (p.step .turn).queue = p.queue ∧ (p.step .turn).toAbort = p.toAbort ∧
      ((∃ time event, p.nextExecuted = some event ∧ p.events.toList = (time, event) :: (p.step .turn).events.toList) ∨
        (p.nextExecuted = none ∧ ∃ x, p.toAbort x.2.id = true ∧ p.events.toList = x :: (p.step .turn).events.toList) ∨
        (p.nextExecuted = none ∧ (p.step .turn).events = p.events)) := by
  rw [nextExecuted]
  by_cases hphase : p.phase = .updating
  · have hstep : p.step .turn = p.updateEvent := by simp [WorldObjectEventProcessor.step, hphase]
    rw [hstep, if_pos hphase, updateEvent]
    cases hhead : p.events.toList.head? with
    | none => exact ⟨rfl, rfl, .inr (.inr ⟨rfl, rfl⟩)⟩
    | some x =>
      obtain ⟨time, event⟩ := x
      obtain ⟨l, hl⟩ := List.head?_eq_some_iff.mp hhead
      have htail : p.events.toList = (time, event) :: p.events.tail.toList := by simp [hl]
      dsimp only
      by_cases hdue : p.time < time
      · rw [if_pos hdue]
        exact ⟨rfl, rfl, .inr (.inr ⟨by simp [hdue], rfl⟩)⟩
      · rw [if_neg hdue]
        cases habort : p.toAbort event.id with
        | true => exact ⟨rfl, rfl, .inr (.inl ⟨by simp [habort], _, habort, htail⟩)⟩
        | false =>
          refine ⟨rfl, rfl, .inl ⟨time, event, ?_, htail⟩⟩
          simp [habort, Nat.not_lt.mp hdue]
  · have hstep : p.step .turn = p := by simp [WorldObjectEventProcessor.step, hphase]
    rw [hstep, if_neg hphase]
    exact ⟨rfl, rfl, .inr (.inr ⟨rfl, rfl⟩)⟩

theorem hasEvade_renewEvents (n : Nat) (additions : List (WorldObjectEventType × Nat)) :
    (p.renewEvents (deletableWithEvades isDeletable) (numberEvents n additions)).HasEvade ↔
      if p.needKill then (∃ x ∈ p.queue, x.2.type = .evadeUnique) ∨
        ∃ a ∈ additions, a.1 = WorldObjectEventType.evadeUnique else p.HasEvade := by
  rw [renewEvents, hasEvade_mergeQueue, killNeeded]
  split
  next =>
    have hqueue : (p.killList false (deletableWithEvades isDeletable)).HasEvade ↔
        ∃ x ∈ p.queue, x.2.type = .evadeUnique := by
      constructor
      · rintro ⟨x, hx, htype⟩
        rcases List.mem_append.mp hx with hx | hx
        · exact ⟨x, hx, htype⟩
        · exact absurd htype (type_ne_of_mem_killList hx)
      · rintro ⟨x, hx, htype⟩
        exact ⟨x, List.mem_append_left _ hx, htype⟩
    rw [← hqueue]
    exact hasEvade_addEvents n additions
  next => rfl

theorem Labelled.renewEvents (h : p.Labelled n) (additions : List (WorldObjectEventType × Nat))
    (hnone : p.needKill = false → additions = []) :
    (p.renewEvents (deletableWithEvades isDeletable) (numberEvents n additions)).Labelled (n + additions.length) := by
  rw [WorldObjectEventProcessor.renewEvents, killNeeded]
  split
  next =>
    have hadded := (@Labelled.killList _ _ isDeletable h false).addEvents additions
    apply Labelled.mergeQueue
    exact hadded.fewer (List.Subperm.refl _) rfl
  next hneed =>
    rw [hnone (Bool.not_eq_true _ ▸ hneed)]
    exact h.mergeQueue

end WorldObjectEventProcessor

open WorldObjectEventProcessor

namespace Evader

variable {u : Evader} {v : Evasion}

/-- What holds of every unit whose events were not disturbed. -/
structure Tracked (u : Evader) : Prop where
  labelled : u.processor.Labelled u.nextEvent
  pending : u.EvadePending

theorem made_delayedEvade (types : List WorldObjectEventType) : (u.made types).delayedEvade = true ↔
      u.delayedEvade = true ∨ u.isCreature = true ∧ .evadeUnique ∈ types := by
  simp [made]

theorem Tracked.act (h : u.Tracked) (action : EventAction) : (u.act action).Tracked := by
  cases action with
  | addEvent type e_time =>
    refine ⟨h.labelled.addEvent type e_time, fun hdelayed => ?_⟩
    have hcases := made_delayedEvade [type] |>.mp hdelayed
    refine (hasEvade_addEvent _ _).mpr ?_
    rcases hcases with hdelayed | ⟨-, hmem⟩
    · exact .inr (h.pending hdelayed)
    · exact .inl (List.mem_singleton.mp hmem).symm
  | killAllEvents => exact ⟨h.labelled.fewer (List.Subperm.refl _) rfl, h.pending⟩

theorem Tracked.acts (h : u.Tracked) (actions : List EventAction) : (u.acts actions).Tracked := by
  induction actions generalizing u with
  | nil => exact h
  | cons action actions ih => exact ih (h.act action)

theorem acts_highGuid (actions : List EventAction) : (u.acts actions).highGuid = u.highGuid := by
  induction actions generalizing u with
  | nil => rfl
  | cons action actions ih =>
    refine (@ih (u.act action)).trans ?_
    cases action with
    | addEvent => rfl
    | killAllEvents => rfl

theorem not_mem_pending_acts {id : Nat} (hid : id < u.nextEvent) (hgone : id ∉ u.processor.pending)
    (actions : List EventAction) : id ∉ (u.acts actions).processor.pending := by
  induction actions generalizing u with
  | nil => exact hgone
  | cons action actions ih =>
    cases action with
    | addEvent type e_time =>
      refine ih (u := u.act (.addEvent type e_time)) (hid.trans (Nat.lt_succ_self _)) ?_
      intro hmem
      rcases List.mem_cons.mp ((pending_addEvent _ _).mem_iff.mp hmem) with heq | hmem
      · exact hid.ne heq
      · exact hgone hmem
    | killAllEvents => exact ih (u := u.act .killAllEvents) hid hgone

theorem acts_append (actions more : List EventAction) : (u.acts actions).acts more = u.acts (actions ++ more) :=
  List.foldl_append.symm

private theorem lock_cases (v : Evasion) (actions : List EventAction) (leaves : Bool) :
    ∃ all, (v.isAILocked = false ∧ (if v.isAILocked then ({ u.acts actions with delayedEvade := true }, false)
        else if leaves then (u.acts actions, true)
        else ((u.acts actions).acts v.evading, true)) = (u.acts all, true)) ∨ (v.isAILocked = true ∧
        (if v.isAILocked then ({ u.acts actions with delayedEvade := true }, false)
        else if leaves then (u.acts actions, true)
        else ((u.acts actions).acts v.evading, true)) =
          ({ u.acts all with delayedEvade := true }, false)) := by
  cases v.isAILocked with
  | true => exact ⟨actions, .inr ⟨rfl, rfl⟩⟩
  | false =>
    cases leaves with
    | true => exact ⟨actions, .inl ⟨rfl, rfl⟩⟩
    | false => exact ⟨actions ++ v.evading, .inl ⟨rfl, by simp [acts_append]⟩⟩

theorem execute_cases (u : Evader) (v : Evasion) : ∃ actions,
    (u.meetsLock v = false ∧ u.execute v = (u.clearUnitState.acts actions, true)) ∨ (u.meetsLock v = true ∧
        u.execute v = ({ u.clearUnitState.acts actions with delayedEvade := true }, false)) := by
  cases hmode : v.inEvadeMode with
  | true => exact ⟨[], .inl ⟨by simp [meetsLock, hmode], by simp [execute, hmode, acts]⟩⟩
  | false =>
    cases hselect : v.selectHostileTarget with
    | true =>
      exact ⟨v.selecting, .inl ⟨by simp [meetsLock, hselect], by simp [execute, hmode, hselect]⟩⟩
    | false =>
      have hguid : (u.clearUnitState.acts v.selecting).highGuid = u.highGuid := acts_highGuid _
      have hcreature := @lock_cases u.clearUnitState v v.selecting
        (v.isDespawned || v.isCharmed || v.canNotReactOrLostControl)
      have hpet := @lock_cases u.clearUnitState v (v.selecting ++ v.ownerSelecting) v.isDespawned
      cases h : u.highGuid
      case unit =>
        simpa [meetsLock, execute, hmode, hselect, hguid, h] using hcreature
      case vehicle =>
        simpa [meetsLock, execute, hmode, hselect, hguid, h] using hcreature
      case pet =>
        cases howner : v.ownerSelectHostileTarget with
        | true =>
          refine ⟨v.selecting ++ v.ownerSelecting, .inl ⟨?_, ?_⟩⟩
          · simp [meetsLock, howner, h]
          · simp [execute, hmode, hselect, hguid, h, howner, acts_append]
        | false =>
          simpa [meetsLock, execute, hmode, hselect, hguid, h, howner, acts_append] using hpet
      all_goals
        refine ⟨v.selecting, .inl ⟨?_, ?_⟩⟩
        · simp [meetsLock, h]
        · simp [execute, hmode, hselect, hguid, h]

theorem evadePending_renewEvents_iff (h : u.EvadePending) (isDeletable : BasicEvent → Bool)
    (additions : List (WorldObjectEventType × Nat)) : (u.renewEvents isDeletable additions).EvadePending ↔
      (u.processor.needKill = true → u.delayedEvade = true → (∃ x ∈ u.processor.queue, x.2.type = .evadeUnique) ∨
          ∃ a ∈ additions, a.1 = WorldObjectEventType.evadeUnique) := by
  change ((u.made ((u.additionsMade additions).map (·.1))).delayedEvade = true → _) ↔ _
  rw [made_delayedEvade]
  change _ → (u.processor.renewEvents (deletableWithEvades isDeletable)
    (numberEvents u.nextEvent (u.additionsMade additions))).HasEvade ↔ _
  rw [hasEvade_renewEvents]
  cases hneed : u.processor.needKill with
  | false => simpa [additionsMade, hneed, EvadePending] using h
  | true =>
    simp only [additionsMade, hneed, if_true, forall_const, List.mem_map]
    constructor
    · exact fun hall hdelayed => hall (.inl hdelayed)
    · rintro hall (hdelayed | ⟨-, a, ha, htype⟩)
      · exact hall hdelayed
      · exact .inr ⟨a, ha, htype⟩

private theorem labelled_renewEvents (h : u.processor.Labelled u.nextEvent)
    (isDeletable : BasicEvent → Bool) (additions : List (WorldObjectEventType × Nat)) :
    (u.renewEvents isDeletable additions).processor.Labelled (u.renewEvents isDeletable additions).nextEvent := by
  have hrenewed := @Labelled.renewEvents _ _ isDeletable h (u.additionsMade additions) (by
    intro hneed
    simp [additionsMade, hneed])
  simpa [Evader.renewEvents, made] using hrenewed

theorem evadePending_killAllEventsForced_iff (isDeletable : BasicEvent → Bool)
    (additions : List (WorldObjectEventType × Nat)) : (u.killAllEventsForced isDeletable additions).EvadePending ↔
      (u.made ((u.additionsMade additions).map (·.1))).delayedEvade = false := by
  have hnone : ¬ (u.killAllEventsForced isDeletable additions).processor.HasEvade := by
    rintro ⟨x, hx, -⟩
    simp [Evader.killAllEventsForced, WorldObjectEventProcessor.killAllEventsForced, killList,
      WorldObjectEventProcessor.renewEvents, mergeQueue] at hx
  rw [EvadePending, ← Bool.not_eq_true]
  exact forall_congr' fun _ => iff_false_intro hnone

private theorem labelled_taken (h : u.processor.Labelled u.nextEvent) : u.taken.processor.Labelled u.nextEvent := by
  obtain ⟨hqueue, habort, hcases⟩ := step_turn_cases u.processor
  refine h.fewer ?_ habort
  change ((u.processor.step .turn).queue ++ _).Subperm _
  rw [hqueue]
  apply (List.subperm_append_left _).mpr
  rcases hcases with ⟨time, event, -, hlist⟩ | ⟨-, x, -, hlist⟩ | ⟨-, hlist⟩
  · rw [hlist]
    exact (List.sublist_cons_self _ _).subperm
  · rw [hlist]
    exact (List.sublist_cons_self _ _).subperm
  · rw [← hlist]
    exact List.Subperm.refl _

private theorem evadePending_taken (h : u.Tracked)
    (hother : ∀ event, u.processor.nextExecuted = some event → event.type ≠ .evadeUnique) : u.taken.EvadePending := by
  intro hdelayed
  obtain ⟨y, hy, htype⟩ := h.pending hdelayed
  obtain ⟨hqueue, -, hcases⟩ := step_turn_cases u.processor
  have hkept : ∀ x l, u.processor.events.toList = x :: l → x.2.type ≠ .evadeUnique →
      y ∈ u.processor.queue ++ l := by
    intro x l hlist hne
    rw [hlist] at hy
    rcases List.mem_append.mp hy with hy | hy
    · exact List.mem_append_left _ hy
    · rcases List.mem_cons.mp hy with rfl | hy
      · exact absurd htype hne
      · exact List.mem_append_right _ hy
  refine ⟨y, ?_, htype⟩
  change y ∈ (u.processor.step .turn).queue ++ _
  rw [hqueue]
  rcases hcases with ⟨time, event, hnext, hlist⟩ | ⟨-, x, habort, hlist⟩ | ⟨-, hlist⟩
  · exact hkept _ _ hlist (hother event hnext)
  · refine hkept _ _ hlist fun hevade => ?_
    have hlive := h.labelled.live x (by simp [hlist]) hevade
    rw [habort] at hlive
    cases hlive
  · exact hlist ▸ hy

private theorem tracked_clear (h : u.processor.Labelled u.nextEvent) : u.clearUnitState.Tracked :=
  ⟨h, fun hdelayed => by cases hdelayed⟩

private theorem not_mem_pending_taken (h : u.processor.Labelled u.nextEvent) {event : BasicEvent}
    (hnext : u.processor.nextExecuted = some event) :
    event.id < u.nextEvent ∧ event.id ∉ u.taken.processor.pending := by
  obtain ⟨hqueue, -, hcases⟩ := step_turn_cases u.processor
  rcases hcases with ⟨time, event', hnext', hlist⟩ | ⟨hnone, -⟩ | ⟨hnone, -⟩
  · obtain rfl : event' = event := Option.some.inj (hnext'.symm.trans hnext)
    have hperm : u.processor.pending.Perm (event'.id :: u.taken.processor.pending) := by
      rw [pending, hlist, ← hqueue]
      exact (List.perm_middle.map _)
    refine ⟨h.fresh _ (hperm.mem_iff.mpr List.mem_cons_self), ?_⟩
    exact (List.nodup_cons.mp (hperm.nodup_iff.mp h.nodup)).1
  · rw [hnone] at hnext
    cases hnext
  · rw [hnone] at hnext
    cases hnext

private theorem step_update_same (p : WorldObjectEventProcessor) (p_time : Nat) :
    (p.step (.update p_time)).queue = p.queue ∧ (p.step (.update p_time)).events = p.events ∧
      (p.step (.update p_time)).toAbort = p.toAbort := by
  by_cases hphase : p.phase = .idle
  all_goals simp [WorldObjectEventProcessor.step, hphase, beginUpdate]

private theorem step_returned_same (p : WorldObjectEventProcessor) :
    (p.step .returned).queue = p.queue ∧ (p.step .returned).events = p.events ∧
      (p.step .returned).toAbort = p.toAbort := by
  cases hphase : p.phase
  all_goals simp [WorldObjectEventProcessor.step, hphase]

private theorem Tracked.same (h : u.Tracked) {p : WorldObjectEventProcessor}
    (hsame : p.queue = u.processor.queue ∧ p.events = u.processor.events ∧
      p.toAbort = u.processor.toAbort) : ({ u with processor := p } : Evader).Tracked := by
  obtain ⟨hqueue, hevents, habort⟩ := hsame
  refine ⟨h.labelled.fewer ?_ habort, fun hdelayed => ?_⟩
  · rw [hqueue, hevents]
  · obtain ⟨x, hx, htype⟩ := h.pending hdelayed
    exact ⟨x, by rwa [hqueue, hevents], htype⟩

private theorem turn_evade (h : u.Tracked) {event : BasicEvent}
    (hnext : u.processor.nextExecuted = some event) (htype : event.type = .evadeUnique) :
    ((u.turn v).EvadePending ∧ u.PutBack (.turn v) ↔ u.meetsLock v = false) ∧
      (u.meetsLock v = false → (u.turn v).Tracked) := by
  have hturn : u.turn v = { (u.taken.execute v).1 with
      processor := (u.taken.execute v).1.processor.step .returned } := by
    simp [turn, hnext, htype]
  have hsame := step_returned_same (u.taken.execute v).1.processor
  have hclear : u.taken.clearUnitState.Tracked := tracked_clear (labelled_taken h.labelled)
  obtain ⟨actions, ⟨hopen, hexecute⟩ | ⟨hlocked, hexecute⟩⟩ := execute_cases u.taken v
  · have hopen' : u.meetsLock v = false := hopen
    have htracked : (u.turn v).Tracked := by
      rw [hturn]
      refine Tracked.same ?_ hsame
      rw [hexecute]
      exact hclear.acts actions
    refine ⟨⟨fun _ => hopen', fun _ => ⟨htracked.pending, fun event _ _ hkept => ?_⟩⟩, fun _ => htracked⟩
    rw [hexecute] at hkept
    cases hkept
  · have hlocked' : u.meetsLock v = true := hlocked
    refine ⟨⟨fun hall => ?_, fun hopen => ?_⟩, fun hopen => ?_⟩
    · have hback := hall.2 event hnext htype (by rw [hexecute])
      obtain ⟨hid, hgone⟩ := not_mem_pending_taken h.labelled hnext
      rw [hturn, pending, hsame.1, hsame.2.1, hexecute] at hback
      exact absurd hback (not_mem_pending_acts (u := u.taken.clearUnitState) hid hgone actions)
    · rw [hlocked'] at hopen
      cases hopen
    · rw [hlocked'] at hopen
      cases hopen

private theorem turn_other (h : u.Tracked)
    (hother : ∀ event, u.processor.nextExecuted = some event → event.type ≠ .evadeUnique) : (u.turn v).Tracked := by
  have hturn : u.turn v = u.taken := by
    rw [turn]
    cases hnext : u.processor.nextExecuted with
    | none => rfl
    | some event => exact if_neg (hother event hnext)
  rw [hturn]
  exact ⟨labelled_taken h.labelled, evadePending_taken h hother⟩

private theorem renewEvents_iff (h : u.Tracked) (isDeletable : BasicEvent → Bool)
    (additions : List (WorldObjectEventType × Nat)) : ((u.renewEvents isDeletable additions).EvadePending ↔
        (u.processor.needKill = true → u.delayedEvade = true → (∃ x ∈ u.processor.queue, x.2.type = .evadeUnique) ∨
            ∃ a ∈ additions, a.1 = WorldObjectEventType.evadeUnique)) ∧
      ((u.processor.needKill = true → u.delayedEvade = true → (∃ x ∈ u.processor.queue, x.2.type = .evadeUnique) ∨
            ∃ a ∈ additions, a.1 = WorldObjectEventType.evadeUnique) →
        (u.renewEvents isDeletable additions).Tracked) := by
  have hiff := evadePending_renewEvents_iff h.pending isDeletable additions
  exact ⟨hiff, fun hquiet => ⟨labelled_renewEvents h.labelled isDeletable additions, hiff.mpr hquiet⟩⟩

theorem step_iff (h : u.Tracked) (call : EvaderCall) :
    ((u.step call).EvadePending ∧ u.PutBack call ↔ u.Undisturbed call) ∧
      (u.Undisturbed call → (u.step call).Tracked) := by
  have hkept : (u.step call).Tracked → u.PutBack call → u.Undisturbed call →
      ((u.step call).EvadePending ∧ u.PutBack call ↔ u.Undisturbed call) ∧
        (u.Undisturbed call → (u.step call).Tracked) :=
    fun htracked hback hquiet => ⟨⟨fun _ => hquiet, fun _ => ⟨htracked.pending, hback⟩⟩, fun _ => htracked⟩
  cases call with
  | act action => exact hkept (h.act action) trivial trivial
  | clearUnitState => exact hkept (tracked_clear h.labelled) trivial trivial
  | update p_time => exact hkept (h.same (step_update_same _ _)) trivial trivial
  | returned => exact hkept (h.same (step_returned_same _)) trivial trivial
  | turn v =>
    by_cases hevade : ∃ event, u.processor.nextExecuted = some event ∧ event.type = .evadeUnique
    · obtain ⟨event, hnext, htype⟩ := hevade
      have hquiet : u.Undisturbed (.turn v) ↔ u.meetsLock v = false :=
        ⟨fun hall => hall event hnext htype, fun hopen _ _ _ => hopen⟩
      rw [hquiet]
      exact turn_evade h hnext htype
    · have hother : ∀ event, u.processor.nextExecuted = some event → event.type ≠ .evadeUnique :=
        fun event hnext htype => hevade ⟨event, hnext, htype⟩
      exact hkept (turn_other h hother) (fun event hnext htype => absurd htype (hother event hnext))
        (fun event hnext htype => absurd htype (hother event hnext))
  | renewEvents isDeletable additions =>
    by_cases hidle : u.processor.phase = .idle
    · obtain ⟨hiff, htracked⟩ := renewEvents_iff h isDeletable additions
      simp only [step, PutBack, Undisturbed, hidle, if_true, and_true, forall_const]
      exact ⟨hiff, htracked⟩
    · exact hkept (by simpa [step, hidle] using h) trivial fun hidle' => absurd hidle' hidle
  | updateForced p_time isDeletable additions =>
    by_cases hidle : u.processor.phase = .idle
    · obtain ⟨hiff, htracked⟩ := renewEvents_iff h isDeletable additions
      simp only [step, PutBack, Undisturbed, hidle, if_true, and_true, forall_const]
      exact ⟨hiff, fun hquiet => (htracked hquiet).same ⟨rfl, rfl, rfl⟩⟩
    · exact hkept (by simpa [step, hidle] using h) trivial fun hidle' => absurd hidle' hidle
  | killAllEventsForced isDeletable additions =>
    by_cases hidle : u.processor.phase = .idle
    · have hiff := @evadePending_killAllEventsForced_iff u isDeletable additions
      simp only [step, PutBack, Undisturbed, hidle, if_true, and_true, forall_const]
      exact ⟨hiff, fun hquiet =>
        ⟨(labelled_renewEvents h.labelled isDeletable additions).killList true, hiff.mpr hquiet⟩⟩
    · exact hkept (by simpa [step, hidle] using h) trivial fun hidle' => absurd hidle' hidle

end Evader

/-- In a run of a new unit, a delayed evade has a pending event, and what `Execute` holds back is pending again,
exactly if no event for an evade meets a locked AI and no kill takes the events of a unit about to evade. -/
theorem evade_pending_iff (isCreature : Bool) (highGuid : HighGuid) (needKill : Bool) (calls : List EvaderCall) :
    Guarded Evader.step (fun u call => (u.step call).EvadePending ∧ u.PutBack call)
        (Evader.created isCreature highGuid needKill) calls ↔
      Guarded Evader.step Evader.Undisturbed (Evader.created isCreature highGuid needKill) calls := by
  apply guarded_iff_of_kept
  · exact fun u call hquiet (h : u.Tracked) => (Evader.step_iff h call).2 hquiet
  · exact fun u call h => (Evader.step_iff h call).1
  · refine ⟨⟨List.nodup_nil, ?_, ?_, ?_⟩, ?_⟩
    · exact fun id hid => absurd hid List.not_mem_nil
    · exact fun id hid => absurd hid Bool.false_ne_true
    · exact fun x hx => absurd hx List.not_mem_nil
    · exact fun hdelayed => absurd hdelayed Bool.false_ne_true

/-- The event is due while the AI of the creature is locked: the state stays, and no event is left. -/
theorem evade_lost_at_lock : ¬ Guarded Evader.step (fun u call => (u.step call).EvadePending ∧ u.PutBack call)
      (Evader.created true .unit false) [.act (.addEvent .evadeUnique 1000),
        .renewEvents (Function.const BasicEvent true) [], .update 1500, .turn { isAILocked := true }] :=
  fun h => absurd h.2.2.2.1.1 (by decide +kernel)

end Mangos
