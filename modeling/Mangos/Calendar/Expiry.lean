import Mangos.Calendar.OneInvite

/-!
# The end of an event

An event ends when its creator removes it, when a calendar that it belongs to is removed, or when it has
expired.
-/

namespace Mangos.CalendarMgr

open Framework Std

variable {m m' : CalendarMgr}

def MayEnd (op : Op) (eventId : Nat) (ev : CalendarEvent) : Prop :=
  op = .removeEvent ev.creatorGuid eventId ∨ op = .removePlayerCalendar ev.creatorGuid ∨
    op = .removeGuildCalendar ev.creatorGuid ev.guildId ∨
      ∃ delaySec now, op = .update delaySec now ∧ 0 ≤ delaySec ∧ ev.eventTime + delaySec ≤ now

/-- An event that was live and is not after the request had a reason to end. -/
def EndsForCause (m : CalendarMgr) (op : Op) : Prop :=
  ∀ (eventId : Nat) (ev : CalendarEvent), m.getEventById eventId = some ev →
    (m.step op).getEventById eventId = none → MayEnd op eventId ev

def isUpdate : Op → Bool
  | .update _ _ => true
  | _ => false

/-- Nothing is left of an event, in memory and in the database. -/
structure Gone (m : CalendarMgr) (eventId : Nat) : Prop where
  event : m.eventStore[eventId]? = none
  invites : ∀ (inviteId : Nat) (invite : CalendarInvite),
    m.inviteStore[inviteId]? = some invite → invite.eventId ≠ eventId
  eventRow : m.calendarEvents[eventId]? = none
  inviteRows : ∀ (inviteId : Nat) (row : InviteRow), m.calendarInvites[inviteId]? = some row → row.eventId ≠ eventId

/-- Whatever was created before and is not live is gone when two updates have passed since. -/
def CleanedUp (ops : List Op) : Prop :=
  ∀ before after, ops = before ++ after → ∀ eventId < (run step {} before).eventGuids,
    (run step {} before).getEventById eventId = none → 2 ≤ after.countP isUpdate → (run step {} ops).Gone eventId

/-- The request finds only events that list somebody or have expired, when it is an update, and only
guild events of the guild, when the calendar of a guild member is removed. -/
def KeepsEvents (m : CalendarMgr) : Op → Prop
  | .update delaySec now =>
    ∀ (eventId : Nat) (ev : CalendarEvent), m.getEventById eventId = some ev →
      isEventReadyForRemove delaySec now ev.eventTime = false → ev.invitee.isEmpty = false
  | .removeGuildCalendar guid guildId =>
    ∀ (eventId : Nat) (ev : CalendarEvent), m.getEventById eventId = some ev →
      ev.creatorGuid = guid → (ev.isGuildEvent || ev.isGuildAnnouncement) = true → ev.guildId = guildId
  | _ => True

theorem isEventReadyForRemove_iff {delaySec now eventTime : Int} :
    isEventReadyForRemove delaySec now eventTime = true ↔ 0 ≤ delaySec ∧ eventTime + delaySec ≤ now := by
  unfold isEventReadyForRemove
  split
  next h => simp [Int.not_le.mpr h]
  next h => simp [Int.not_lt.mp h]

theorem eventStore_removeCalendarEntries (guid : Nat) (meant : CalendarEvent → Bool)
    (m : CalendarMgr) (a : Nat) : (run (removeCalendarEntry guid meant) m m.eventStore.keys).eventStore[a]? =
      (m.eventStore[a]?).map fun ev =>
        if ev.creatorGuid = guid ∧ meant ev ∧ !ev.deleted then { ev with deleted := true } else ev := by
  have hsweep := @lookup_run_keys _ _ _ _ _ _ _ (removeCalendarEntry guid meant)
    CalendarMgr.eventStore
    (fun ev => some (if ev.creatorGuid = guid ∧ meant ev ∧ !ev.deleted then
      { ev with deleted := true } else ev)) ?_ ?_ m a
  · rw [hsweep, Option.map_eq_bind]
    rfl
  · intro s k
    unfold removeCalendarEntry
    cases hev : s.eventStore[k]? with
    | none => simp [hev]
    | some ev =>
      simp only [Option.bind_some]
      split
      next => simp
      next => exact hev
  · intro s k j hj
    unfold removeCalendarEntry
    cases hev : s.eventStore[k]? with
    | none => rfl
    | some ev =>
      simp only
      split
      next => rw [eventStore_setEvent, if_neg (Ne.symm hj), eventStore_removeInviteByGuid]
      next => rfl

/-- What the first loop of `SaveToDB` leaves of an event. -/
def savedEvent (ev : CalendarEvent) : Option CalendarEvent :=
  if !ev.saved then some { ev with saved := true } else if ev.deleted then none else some ev

def savedInvite (invite : CalendarInvite) : Option CalendarInvite :=
  if !invite.saved then some { invite with saved := true }
  else if invite.deleted then none else some invite

theorem eventStore_saveEvents (m : CalendarMgr) (a : Nat) :
    m.saveEvents.eventStore[a]? = (m.eventStore[a]?).bind savedEvent := by
  refine @lookup_run_keys _ _ _ _ _ _ _ saveEvent CalendarMgr.eventStore savedEvent ?_ ?_ m a
  · intro s k
    unfold saveEvent
    cases hev : s.eventStore[k]? with
    | none => simp [hev]
    | some ev =>
      simp only [Option.bind_some, savedEvent]
      split
      next => simp
      next =>
        split
        next => simp
        next => exact hev
  · intro s k j hj
    unfold saveEvent
    cases hev : s.eventStore[k]? with
    | none => rfl
    | some ev =>
      simp only
      split
      next => rw [eventStore_setEvent, if_neg (Ne.symm hj)]; rfl
      next =>
        split
        next => rw [lookup_erase, if_neg (Ne.symm hj)]
        next => rfl

theorem inviteStore_saveInvites (m : CalendarMgr) (a : Nat) :
    m.saveInvites.inviteStore[a]? = (m.inviteStore[a]?).bind savedInvite := by
  refine @lookup_run_keys _ _ _ _ _ _ _ saveInvite CalendarMgr.inviteStore savedInvite ?_ ?_ m a
  · intro s k
    unfold saveInvite
    cases hinvite : s.inviteStore[k]? with
    | none => simp [hinvite]
    | some invite =>
      simp only [Option.bind_some, savedInvite]
      split
      next => simp
      next =>
        split
        next => simp
        next => exact hinvite
  · intro s k j hj
    unfold saveInvite
    cases hinvite : s.inviteStore[k]? with
    | none => rfl
    | some invite =>
      simp only
      split
      next => rw [inviteStore_setInvite, if_neg (Ne.symm hj)]; rfl
      next =>
        split
        next => rw [lookup_erase, if_neg (Ne.symm hj)]
        next => rfl

theorem eventStore_saveInvites (m : CalendarMgr) : m.saveInvites.eventStore = m.eventStore :=
  run_unchanged eventStore_saveInvite m _

theorem eventStore_update (m : CalendarMgr) (delaySec now : Int) (a : Nat) : (m.update delaySec now).eventStore[a]? =
      ((m.eventStore[a]?).map (markEvent delaySec now)).bind savedEvent := by
  rw [update, saveToDB, eventStore_saveInvites, eventStore_saveEvents]
  simp [markInvites, markEvents, ExtTreeMap.getElem?_map]

theorem savedEvent_filter_eq_none_iff {ev : CalendarEvent} :
    (savedEvent ev).filter (!·.deleted) = none ↔ ev.deleted = true := by
  cases hdeleted : ev.deleted with
  | true => cases hsaved : ev.saved <;> simp [savedEvent, hsaved, hdeleted, Option.filter_some]
  | false => cases hsaved : ev.saved <;> simp [savedEvent, hsaved, hdeleted, Option.filter_some]

theorem markEvent_deleted_iff {delaySec now : Int} {ev : CalendarEvent} (hlive : ev.deleted = false) :
    (markEvent delaySec now ev).deleted = true ↔
      isEventReadyForRemove delaySec now ev.eventTime = true ∨ ev.invitee.isEmpty = true := by
  unfold markEvent
  rw [if_neg (by rw [hlive]; decide)]
  split
  next h => exact iff_of_true rfl h
  next h => exact iff_of_false (by rw [hlive]; decide) h

theorem getEventById_update_eq_none_iff {delaySec now : Int} {eventId : Nat} {ev : CalendarEvent}
    (hev : m.getEventById eventId = some ev) : (m.update delaySec now).getEventById eventId = none ↔
      isEventReadyForRemove delaySec now ev.eventTime = true ∨ ev.invitee.isEmpty = true := by
  obtain ⟨hlookup, hlive⟩ := getEventById_eq_some.mp hev
  unfold getEventById
  rw [eventStore_update, hlookup, Option.map_some, Option.bind_some, savedEvent_filter_eq_none_iff,
    markEvent_deleted_iff hlive]

theorem getEventById_removeCalendar_eq_none_iff {guid : Nat} {meant : CalendarEvent → Bool}
    {eventId : Nat} {ev : CalendarEvent} (hev : m.getEventById eventId = some ev) :
    (run (removeCalendarEntry guid meant) m m.eventStore.keys).getEventById eventId = none ↔
      ev.creatorGuid = guid ∧ meant ev = true := by
  obtain ⟨hlookup, hlive⟩ := getEventById_eq_some.mp hev
  unfold getEventById
  rw [eventStore_removeCalendarEntries, hlookup]
  by_cases hmeant : ev.creatorGuid = guid ∧ meant ev = true
  · simp [hmeant, hlive, Option.filter_some]
  · simp [hmeant, hlive, Option.filter_some]

theorem live_of_setEvent {eventId a : Nat} {ev' changed : CalendarEvent}
    (hlive : changed.deleted = false) (ha : m.getEventById a = some ev') : (m.setEvent eventId changed).getEventById a ≠ none := by
  intro hnone
  by_cases heq : eventId = a
  · simp [getEventById, heq, hlive, Option.filter_some] at hnone
  · have hsame : (m.setEvent eventId changed).getEventById a = m.getEventById a := by
      simp [getEventById, heq]
    rw [hsame, ha] at hnone
    cases hnone

theorem live_addEvent {guid guildId newId a : Nat} {data : EventData} {now : Int}
    {ev : CalendarEvent} (h : m.addEvent guid guildId data now = .ok (m', newId))
    (ha : m.getEventById a = some ev) : ∃ ev', m'.getEventById a = some ev' := by
  by_cases heq : newId = a
  · obtain ⟨new, hnew, -⟩ := getEventById_addEvent h
    exact ⟨new, heq ▸ hnew⟩
  · obtain ⟨hlookup, hlive⟩ := getEventById_eq_some.mp ha
    exact ⟨ev, getEventById_eq_some.mpr ⟨by rw [eventStore_addEvent h, if_neg heq, hlookup], hlive⟩⟩

theorem live_addInvite {eventId senderGuid inviteeGuid status rank a : Nat} {now : Int}
    {ev : CalendarEvent} (hm : Sound m) (ha : m.getEventById a = some ev) :
    ∃ ev', (m.addInvite eventId senderGuid inviteeGuid status rank now).getEventById a = some ev' := by
  cases hev : m.eventStore[eventId]? with
  | none => exact ⟨ev, by simpa [addInvite, hev] using ha⟩
  | some old =>
    rw [getEventById_addInvite hm hev, ha]
    split
    · exact ⟨_, rfl⟩
    · exact ⟨ev, rfl⟩

theorem live_run {Visit : Type} {visit : CalendarMgr → Visit → CalendarMgr} {a : Nat}
    {ev : CalendarEvent} (hsound : ∀ s k, Sound s → Sound (visit s k))
    (hvisit : ∀ s k ev, Sound s → s.getEventById a = some ev → ∃ ev', (visit s k).getEventById a = some ev')
    (hm : Sound m) (ha : m.getEventById a = some ev) (visits : List Visit) :
    ∃ ev', (run visit m visits).getEventById a = some ev' := by
  induction visits generalizing m ev with
  | nil => exact ⟨ev, ha⟩
  | cons k visits ih =>
    obtain ⟨ev', hev'⟩ := hvisit m k ev hm ha
    exact ih (hsound m k hm) hev'

theorem live_copyInvite {newId guid a inviteId : Nat} {now : Int} {ev : CalendarEvent}
    (hm : Sound m) (ha : m.getEventById a = some ev) :
    ∃ ev', (copyInvite newId guid now m inviteId).getEventById a = some ev' := by
  unfold copyInvite
  cases m.getInviteById inviteId with
  | none => exact ⟨ev, ha⟩
  | some invite => exact live_addInvite hm ha

theorem live_touchEvent {eventId a : Nat} {ev : CalendarEvent} (ha : m.getEventById a = some ev) :
    ∃ ev', (m.touchEvent eventId).getEventById a = some ev' := by
  obtain ⟨hlookup, hlive⟩ := getEventById_eq_some.mp ha
  refine ⟨_, getEventById_eq_some.mpr ⟨by rw [eventStore_touchEvent, hlookup]; rfl, ?_⟩⟩
  split <;> exact hlive

theorem mayEnd_change {op : Op} (hm : Sound m) (h : Change m op m') (hok : m.KeepsEvents op)
    {eventId : Nat} {ev : CalendarEvent} (hev : m.getEventById eventId = some ev)
    (hend : m'.getEventById eventId = none) : MayEnd op eventId ev := by
  have hadded : ∀ {n : CalendarMgr}, (∃ ev', n.getEventById eventId = some ev') →
      n.getEventById eventId = none → MayEnd op eventId ev := by
    rintro n ⟨ev', hlive⟩ hnone
    rw [hlive] at hnone
    cases hnone
  cases h with
  | refused => exact hadded ⟨ev, hev⟩ hend
  | created invitees hnew =>
    obtain ⟨ev', hlive⟩ := live_addEvent hnew hev
    exact hadded (live_run (fun _ _ hs => hs.addInvite) (fun _ _ _ hs h => live_addInvite hs h)
      (hm.addEvent hnew) hlive invitees) hend
  | announced invitees hnew =>
    obtain ⟨ev', hlive⟩ := live_addEvent hnew hev
    exact hadded (live_addInvite (hm.addEvent hnew) hlive) hend
  | copied hold hnew =>
    obtain ⟨ev', hlive⟩ := live_addEvent hnew hev
    obtain ⟨copied, hcopied⟩ := live_run (fun _ k hs => hs.copyInvite k)
      (fun _ _ _ hs h => live_copyInvite hs h) (hm.addEvent hnew) hlive _
    exact hadded (live_touchEvent hcopied) hend
  | copiedAnnouncement hold hnew =>
    obtain ⟨ev', hlive⟩ := live_addEvent hnew hev
    obtain ⟨added, hadd⟩ := live_addInvite (hm.addEvent hnew) hlive
    exact hadded (live_touchEvent hadd) hend
  | signedUp => exact hadded (live_addInvite hm hev) hend
  | invited => exact hadded (live_addInvite hm hev) hend
  | updated hold => exact absurd hend (live_of_setEvent (getEventById_eq_some.mp hold).2 hev)
  | @removed guid removedId old hold hright =>
    by_cases heq : removedId = eventId
    · subst heq
      rw [hev] at hold
      cases hold
      exact .inl (by rw [hright])
    · have hsame : (m.setEvent removedId { old with deleted := true }).getEventById eventId =
          m.getEventById eventId := by
        simp [getEventById, heq]
      exact hadded ⟨ev, hsame.trans hev⟩ hend
  | responded | statusSet | ranked | inviteRemoved => exact hadded ⟨ev, hev⟩ hend
  | playerGone guid =>
    have hmine := (getEventById_removeCalendar_eq_none_iff hev).mp hend
    exact .inr (.inl (by rw [hmine.1]))
  | guildLeft guid guildId =>
    have hmine := (getEventById_removeCalendar_eq_none_iff hev).mp hend
    have hguild := hok eventId ev hev hmine.1 hmine.2
    exact .inr (.inr (.inl (by rw [hmine.1, hguild])))
  | ticked delaySec now =>
    rcases (getEventById_update_eq_none_iff hev).mp hend with hready | hempty
    · obtain ⟨hdelay, htime⟩ := isEventReadyForRemove_iff.mp hready
      exact .inr (.inr (.inr ⟨delaySec, now, rfl, hdelay, htime⟩))
    · cases hready : isEventReadyForRemove delaySec now ev.eventTime with
      | true =>
        obtain ⟨hdelay, htime⟩ := isEventReadyForRemove_iff.mp hready
        exact .inr (.inr (.inr ⟨delaySec, now, rfl, hdelay, htime⟩))
      | false =>
        rw [hok eventId ev hev hready] at hempty
        cases hempty

theorem endsForCause_iff (hm : Sound m) (op : Op) : m.EndsForCause op ↔ m.KeepsEvents op := by
  constructor
  · intro h
    cases op with
    | update delaySec now =>
      intro eventId ev hev hready
      by_contra hlist
      have hempty : ev.invitee.isEmpty = true := by simpa using hlist
      have hend := (getEventById_update_eq_none_iff hev).mpr
        (.inr hempty : isEventReadyForRemove delaySec now ev.eventTime = true ∨ _)
      rcases h eventId ev hev hend with hop | hop | hop | ⟨d, n, hop, hdelay, htime⟩
      · cases hop
      · cases hop
      · cases hop
      · cases hop
        rw [isEventReadyForRemove_iff.mpr ⟨hdelay, htime⟩] at hready
        cases hready
    | removeGuildCalendar guid guildId =>
      intro eventId ev hev hcreator hkind
      have hend : (m.removeGuildCalendar guid guildId).getEventById eventId = none :=
        (getEventById_removeCalendar_eq_none_iff hev).mpr ⟨hcreator, hkind⟩
      rcases h eventId ev hev hend with hop | hop | hop | ⟨d, n, hop, -⟩
      · cases hop
      · cases hop
      · cases hop
        rfl
      · cases hop
    | _ => trivial
  · intro h eventId ev hev hend
    exact mayEnd_change hm (change_step m op) h hev hend

/-- The event was created and is not live. -/
structure Ended (m : CalendarMgr) (eventId : Nat) : Prop where
  created : eventId < m.eventGuids
  notLive : m.getEventById eventId = none

/-- The event's entry and its invites are as before. -/
structure Still (eventId : Nat) (m m' : CalendarMgr) : Prop where
  guids : m.eventGuids ≤ m'.eventGuids
  event : m'.eventStore[eventId]? = m.eventStore[eventId]?
  invites : ∀ (inviteId : Nat) (invite : CalendarInvite),
    m'.inviteStore[inviteId]? = some invite → invite.eventId = eventId → m.inviteStore[inviteId]? = some invite

variable {eventId : Nat}

theorem Still.refl (eventId : Nat) (m : CalendarMgr) : Still eventId m m :=
  ⟨Nat.le_refl _, rfl, fun _ _ h _ => h⟩

theorem Still.trans {n : CalendarMgr} (h : Still eventId m m') (h' : Still eventId m' n) : Still eventId m n where
  guids := h.guids.trans h'.guids
  event := h'.event.trans h.event
  invites inviteId invite hinvite hevent :=
    h.invites inviteId invite (h'.invites inviteId invite hinvite hevent) hevent

theorem Ended.still (h : Ended m eventId) (hstill : Still eventId m m') : Ended m' eventId where
  created := h.created.trans_le hstill.guids
  notLive := by
    unfold getEventById
    rw [hstill.event]
    exact h.notLive

theorem Ended.ne_live {other : Nat} {ev : CalendarEvent} (h : Ended m eventId)
    (hev : m.getEventById other = some ev) : other ≠ eventId := by
  intro heq
  rw [heq, h.notLive] at hev
  cases hev

theorem still_setEvent {other : Nat} {changed : CalendarEvent} (hne : other ≠ eventId) :
    Still eventId m (m.setEvent other changed) :=
  ⟨Nat.le_refl _, by rw [eventStore_setEvent, if_neg hne], fun _ _ h _ => h⟩

theorem still_touchEvent {other : Nat} (hne : other ≠ eventId) : Still eventId m (m.touchEvent other) :=
  ⟨Nat.le_refl _, by simp [eventStore_touchEvent, hne], fun _ _ h _ => h⟩

theorem still_setInvite {inviteId : Nat} {changed : CalendarInvite}
    (hne : changed.eventId ≠ eventId) : Still eventId m (m.setInvite inviteId changed) := by
  refine ⟨Nat.le_refl _, rfl, fun a invite ha hevent => ?_⟩
  rw [inviteStore_setInvite] at ha
  split at ha
  next =>
    cases ha
    exact absurd hevent hne
  next => exact ha

theorem still_addEvent {guid guildId newId : Nat} {data : EventData} {now : Int}
    (h : m.addEvent guid guildId data now = .ok (m', newId)) (hended : Ended m eventId) :
    Still eventId m m' ∧ newId ≠ eventId := by
  have hstore := eventStore_addEvent h eventId
  obtain ⟨-, -, rfl, rfl⟩ := addEvent_eq_ok.mp h
  have hne : m.eventGuids ≠ eventId := Nat.ne_of_gt hended.created
  rw [if_neg hne] at hstore
  exact ⟨⟨Nat.le_succ _, hstore, fun _ _ h _ => h⟩, hne⟩

theorem still_addInvite {other senderGuid inviteeGuid status rank : Nat} {now : Int}
    (hm : Sound m) (hne : other ≠ eventId) :
    Still eventId m (m.addInvite other senderGuid inviteeGuid status rank now) := by
  cases hev : m.eventStore[other]? with
  | none => simpa [addInvite, hev] using Still.refl eventId m
  | some ev =>
    rw [addInvite_eq hm hev]
    have hinvite : (newInvite ev other senderGuid inviteeGuid status rank now).eventId ≠ eventId :=
      hne
    have hlisted : Still eventId m (m.setEvent other (listing ev m.inviteGuids)) :=
      still_setEvent hne
    have hstored := hlisted.trans (@still_setInvite _ eventId m.inviteGuids _ hinvite)
    exact ⟨hstored.guids, hstored.event, hstored.invites⟩

theorem still_run {Visit : Type} {visit : CalendarMgr → Visit → CalendarMgr}
    (hsound : ∀ s k, Sound s → Sound (visit s k))
    (hvisit : ∀ s k, Sound s → Ended s eventId → Still eventId s (visit s k))
    (hm : Sound m) (hended : Ended m eventId) (visits : List Visit) : Still eventId m (run visit m visits) := by
  induction visits generalizing m with
  | nil => exact .refl eventId m
  | cons k visits ih =>
    have hfirst := hvisit m k hm hended
    exact hfirst.trans (ih (hsound m k hm) (hended.still hfirst))

theorem still_copyInvite {newId guid inviteId : Nat} {now : Int} (hm : Sound m)
    (hne : newId ≠ eventId) : Still eventId m (copyInvite newId guid now m inviteId) := by
  unfold copyInvite
  cases m.getInviteById inviteId with
  | none => exact .refl eventId m
  | some invite => exact still_addInvite hm hne

theorem still_copyInvites {newId guid : Nat} {now : Int} (hm : Sound m) (hne : newId ≠ eventId)
    (hended : Ended m eventId) (inviteIds : List Nat) : Still eventId m (run (copyInvite newId guid now) m inviteIds) :=
  still_run (fun _ k hs => hs.copyInvite k) (fun _ _ hs _ => still_copyInvite hs hne) hm hended
    inviteIds

theorem still_removeCalendarEntry {guid other : Nat} {meant : CalendarEvent → Bool} (hm : Sound m)
    (hended : Ended m eventId) : Still eventId m (removeCalendarEntry guid meant m other) := by
  unfold removeCalendarEntry
  cases hev : m.eventStore[other]? with
  | none => exact .refl eventId m
  | some ev =>
    simp only
    split
    next hmeant =>
      have hne : other ≠ eventId :=
        hended.ne_live (getEventById_eq_some.mpr ⟨hev, by simpa using hmeant.2.2⟩)
      refine Still.trans ?_ (still_setEvent hne)
      unfold removeInviteByGuid
      split
      next =>
        have hsame := sameRest_run_removeInviteIf (·.inviteeGuid = guid) m ev.invitee.toList
        refine ⟨by rw [hsame.eventGuids], by rw [hsame.eventStore], fun a invite ha hevent => ?_⟩
        rw [inviteStore_run_removeInviteIf] at ha
        obtain ⟨old, hold, rfl⟩ := Option.map_eq_some_iff.mp ha
        by_cases hmem : a ∈ ev.invitee
        · have holdevent := (hm.listed other ev hev a hmem).2 old hold
          have hkept : (struck (·.inviteeGuid = guid) old).eventId = old.eventId := by
            unfold struck
            split <;> rfl
          rw [if_pos hmem, hkept, holdevent] at hevent
          exact absurd hevent hne
        · rw [if_neg hmem] at hevent ⊢
          exact hold
      next => exact .refl eventId m
    next => exact .refl eventId m

theorem Targets.still {guid other inviteId : Nat} {ev : CalendarEvent}
    {invite changed : CalendarInvite} (h : Targets m guid other inviteId ev invite) (hm : Sound m)
    (hended : Ended m eventId) (hevent : changed.eventId = invite.eventId) :
    Still eventId m (m.setInvite inviteId changed) := by
  obtain ⟨hmem, hlookup, -⟩ := h.lookup
  have hother := (hm.listed other ev (getEventById_eq_some.mp h.event).1 inviteId hmem).2 invite hlookup
  exact still_setInvite (by rw [hevent, hother]; exact hended.ne_live h.event)

theorem still_change {op : Op} (hm : Sound m) (h : Change m op m') (hop : isUpdate op = false)
    (hended : Ended m eventId) : Still eventId m m' := by
  cases h with
  | refused => exact .refl eventId m
  | created invitees hnew =>
    obtain ⟨hadd, hne⟩ := still_addEvent hnew hended
    exact hadd.trans (still_run (fun _ _ hs => hs.addInvite) (fun _ _ hs _ => still_addInvite hs hne)
      (hm.addEvent hnew) (hended.still hadd) invitees)
  | announced invitees hnew =>
    obtain ⟨hadd, hne⟩ := still_addEvent hnew hended
    exact hadd.trans (still_addInvite (hm.addEvent hnew) hne)
  | copied hev hnew =>
    obtain ⟨hadd, hne⟩ := still_addEvent hnew hended
    exact (hadd.trans (still_copyInvites (hm.addEvent hnew) hne (hended.still hadd) _)).trans
      (still_touchEvent hne)
  | copiedAnnouncement hev hnew =>
    obtain ⟨hadd, hne⟩ := still_addEvent hnew hended
    exact (hadd.trans (still_addInvite (hm.addEvent hnew) hne)).trans (still_touchEvent hne)
  | signedUp hev => exact still_addInvite hm (hended.ne_live hev)
  | invited _ _ _ hev => exact still_addInvite hm (hended.ne_live hev)
  | updated hev => exact still_setEvent (hended.ne_live hev)
  | removed hev => exact still_setEvent (hended.ne_live hev)
  | responded h | statusSet h | ranked h | inviteRemoved h => exact h.still hm hended rfl
  | playerGone guid | guildLeft guid =>
    exact still_run (fun s k hs => hs.keeps (keeps_removeCalendarEntry guid _ s k))
      (fun _ _ hs h => still_removeCalendarEntry hs h) hm hended _
  | ticked => cases hop

/-- Whatever is left of the event is flagged, and is saved: the next update erases it. -/
structure Closing (m : CalendarMgr) (eventId : Nat) : Prop where
  event : ∀ ev : CalendarEvent, m.eventStore[eventId]? = some ev → ev.saved = true ∧ ev.deleted = true
  invites : ∀ (inviteId : Nat) (invite : CalendarInvite),
    m.inviteStore[inviteId]? = some invite → invite.eventId = eventId → invite.saved = true ∧ invite.deleted = true

/-- Nothing is left in memory. -/
structure Erased (m : CalendarMgr) (eventId : Nat) : Prop where
  event : m.eventStore[eventId]? = none
  invites : ∀ (inviteId : Nat) (invite : CalendarInvite),
    m.inviteStore[inviteId]? = some invite → invite.eventId ≠ eventId

theorem Erased.closing (h : Erased m eventId) : Closing m eventId where
  event ev hev := by
    rw [h.event] at hev
    cases hev
  invites inviteId invite hinvite hevent := absurd hevent (h.invites inviteId invite hinvite)

theorem Closing.still (h : Closing m eventId) (hstill : Still eventId m m') : Closing m' eventId where
  event ev hev := h.event ev (hstill.event ▸ hev)
  invites inviteId invite hinvite hevent :=
    h.invites inviteId invite (hstill.invites inviteId invite hinvite hevent) hevent

theorem Erased.still (h : Erased m eventId) (hstill : Still eventId m m') : Erased m' eventId where
  event := hstill.event.trans h.event
  invites inviteId invite hinvite hevent :=
    h.invites inviteId invite (hstill.invites inviteId invite hinvite hevent) hevent

theorem Erased.gone (h : Erased m eventId) (hm : Sound m) : Gone m eventId where
  event := h.event
  invites := h.invites
  eventRow := by
    cases hrow : m.calendarEvents[eventId]? with
    | none => rfl
    | some row =>
      obtain ⟨ev, hev⟩ := hm.eventRows eventId row hrow
      rw [h.event] at hev
      cases hev
  inviteRows inviteId row hrow := by
    obtain ⟨invite, hinvite, hevent⟩ := hm.inviteRows inviteId row hrow
    rw [hevent]
    exact h.invites inviteId invite hinvite

theorem inviteStore_saveEvents (m : CalendarMgr) {a : Nat} {changed : CalendarInvite}
    (h : m.saveEvents.inviteStore[a]? = some changed) :
    ∃ invite, m.inviteStore[a]? = some invite ∧ changed.eventId = invite.eventId ∧
      changed.saved = invite.saved ∧ (invite.deleted = true → changed = invite) := by
  have hrel := @run_rel _ _ saveEvent
    (fun m m' : CalendarMgr => ∀ changed : CalendarInvite, m'.inviteStore[a]? = some changed →
      ∃ invite, m.inviteStore[a]? = some invite ∧ changed.eventId = invite.eventId ∧
        changed.saved = invite.saved ∧ (invite.deleted = true → changed = invite))
    (fun _ invite hinvite => ⟨invite, hinvite, rfl, rfl, fun _ => rfl⟩) ?_ ?_ m m.eventStore.keys
  · exact hrel changed h
  · intro s t u hst htu changed hu
    obtain ⟨mid, hmid, hevent, hsaved, hdeleted⟩ := htu changed hu
    obtain ⟨invite, hinvite, hevent', hsaved', hdeleted'⟩ := hst mid hmid
    refine ⟨invite, hinvite, hevent.trans hevent', hsaved.trans hsaved', fun hd => ?_⟩
    have hsame := hdeleted' hd
    exact (hdeleted (hsame ▸ hd)).trans hsame
  · intro s k changed hs
    unfold saveEvent at hs
    cases hev : s.eventStore[k]? with
    | none => exact ⟨changed, by simpa [hev] using hs, rfl, rfl, fun _ => rfl⟩
    | some ev =>
      simp only [hev] at hs
      split at hs
      next => exact ⟨changed, hs, rfl, rfl, fun _ => rfl⟩
      next =>
        split at hs
        next =>
          have hs' : (s.removeAllInvite ev).inviteStore[a]? = some changed := hs
          rw [removeAllInvite, inviteStore_run_removeInviteIf] at hs'
          obtain ⟨invite, hinvite, rfl⟩ := Option.map_eq_some_iff.mp hs'
          refine ⟨invite, hinvite, ?_, ?_, fun hd => ?_⟩
          · unfold struck
            split <;> [split <;> rfl; rfl]
          · unfold struck
            split <;> [split <;> rfl; rfl]
          · simp [struck, hd]
        next => exact ⟨changed, hs, rfl, rfl, fun _ => rfl⟩

theorem of_savedInvite {before changed : CalendarInvite} (h : savedInvite before = some changed) :
    changed.eventId = before.eventId ∧ changed.deleted = before.deleted ∧ changed.saved = true ∧
      ¬ (before.saved = true ∧ before.deleted = true) := by
  unfold savedInvite at h
  cases hs : before.saved with
  | false =>
    simp only [hs, Bool.not_false, if_true, Option.some.injEq] at h
    subst h
    simp
  | true =>
    cases hd : before.deleted with
    | true => simp [hs, hd] at h
    | false =>
      simp only [hs, hd, Bool.not_true, Bool.false_eq_true, if_false, Option.some.injEq] at h
      subst h
      simp [hs, hd]

theorem markInvite_saved (m : CalendarMgr) (invite : CalendarInvite) : (m.markInvite invite).saved = invite.saved := by
  unfold markInvite
  split
  · rfl
  · split <;> rfl

theorem markInvite_deleted (m : CalendarMgr) {invite : CalendarInvite}
    (h : m.getEventById invite.eventId = none) : (m.markInvite invite).deleted = true := by
  unfold markInvite
  split
  next hd => exact hd
  next =>
    split
    next => rfl
    next hno => exact absurd (.inr h) hno

theorem inviteStore_update {delaySec now : Int} {a : Nat} {changed : CalendarInvite}
    (h : (m.update delaySec now).inviteStore[a]? = some changed)
    (hended : m.getEventById changed.eventId = none) : changed.saved = true ∧ changed.deleted = true ∧
      ∃ invite, m.inviteStore[a]? = some invite ∧ invite.eventId = changed.eventId ∧
        ¬ (invite.saved = true ∧ invite.deleted = true) := by
  rw [update, saveToDB, inviteStore_saveInvites] at h
  obtain ⟨before, hbefore, hsave⟩ := Option.bind_eq_some_iff.mp h
  obtain ⟨marked, hmarked, hevent, hsaved, hdeleted⟩ := inviteStore_saveEvents _ hbefore
  rw [markInvites, ExtTreeMap.getElem?_map] at hmarked
  obtain ⟨invite, hinvite, rfl⟩ := Option.map_eq_some_iff.mp hmarked
  obtain ⟨hkeptEvent, hkeptDeleted, hisSaved, hnot⟩ := of_savedInvite hsave
  rw [markInvite_eventId] at hevent
  rw [markInvite_saved] at hsaved
  have hnotLive : (m.markEvents delaySec now).getEventById invite.eventId = none := by
    cases hlive : (m.markEvents delaySec now).getEventById invite.eventId with
    | none => rfl
    | some ev =>
      obtain ⟨old, hold⟩ := (fewer_markEvents delaySec now m).events _ ev hlive
      rw [← hevent, ← hkeptEvent, hended] at hold
      cases hold
  have hflag := markInvite_deleted (m.markEvents delaySec now) hnotLive
  have hbeforeFlag : before.deleted = true := by
    rw [hdeleted hflag]
    exact hflag
  refine ⟨hisSaved, hkeptDeleted.trans hbeforeFlag, invite, hinvite, (hkeptEvent.trans hevent).symm, ?_⟩
  rintro ⟨hs, -⟩
  exact hnot ⟨hsaved.trans hs, hbeforeFlag⟩

theorem deleted_of_notLive (h : m.getEventById eventId = none) {ev : CalendarEvent}
    (hev : m.eventStore[eventId]? = some ev) : ev.deleted = true := by
  cases hd : ev.deleted with
  | true => rfl
  | false =>
    rw [getEventById_eq_some.mpr ⟨hev, hd⟩] at h
    cases h

theorem eventStore_update_of_notLive (h : m.getEventById eventId = none) (delaySec now : Int) :
    (m.update delaySec now).eventStore[eventId]? = (m.eventStore[eventId]?).bind savedEvent := by
  rw [eventStore_update]
  cases hev : m.eventStore[eventId]? with
  | none => rfl
  | some ev => simp [markEvent, deleted_of_notLive h hev]

theorem eventGuids_update (m : CalendarMgr) (delaySec now : Int) :
    (m.update delaySec now).eventGuids = m.eventGuids := by
  have hevents : ∀ (s : CalendarMgr) (k : Nat), (saveEvent s k).eventGuids = s.eventGuids := by
    intro s k
    unfold saveEvent
    cases s.eventStore[k]? with
    | none => rfl
    | some ev =>
      simp only
      split
      · rfl
      · split
        · exact (sameRest_run_removeInviteIf _ s _).eventGuids
        · rfl
  have hinvites : ∀ (s : CalendarMgr) (k : Nat), (saveInvite s k).eventGuids = s.eventGuids := by
    intro s k
    unfold saveInvite
    cases s.inviteStore[k]? with
    | none => rfl
    | some invite =>
      simp only
      split
      · rfl
      · split <;> rfl
  exact (run_unchanged hinvites _ _).trans (run_unchanged hevents _ _)

theorem Ended.update (hended : Ended m eventId) (delaySec now : Int) :
    Ended (m.update delaySec now) eventId ∧ Closing (m.update delaySec now) eventId := by
  have hguids := eventGuids_update m delaySec now
  have hclosing : Closing (m.update delaySec now) eventId := by
    refine ⟨fun ev hev => ?_, fun inviteId invite hinvite hevent => ?_⟩
    · rw [eventStore_update_of_notLive hended.notLive] at hev
      obtain ⟨old, hold, hsave⟩ := Option.bind_eq_some_iff.mp hev
      have hd := deleted_of_notLive hended.notLive hold
      unfold savedEvent at hsave
      cases hs : old.saved with
      | false =>
        simp only [hs, Bool.not_false, if_true, Option.some.injEq] at hsave
        subst hsave
        exact ⟨rfl, hd⟩
      | true => simp [hs, hd] at hsave
    · obtain ⟨hsaved, hdeleted, -⟩ := inviteStore_update hinvite (hevent ▸ hended.notLive)
      exact ⟨hsaved, hdeleted⟩
  refine ⟨⟨hguids ▸ hended.created, ?_⟩, hclosing⟩
  cases hlive : (m.update delaySec now).getEventById eventId with
  | none => rfl
  | some ev =>
    obtain ⟨hlookup, hlive⟩ := getEventById_eq_some.mp hlive
    rw [(hclosing.event ev hlookup).2] at hlive
    cases hlive

theorem Closing.update (h : Closing m eventId) (hended : Ended m eventId) (delaySec now : Int) :
    Erased (m.update delaySec now) eventId where
  event := by
    rw [eventStore_update_of_notLive hended.notLive]
    cases hev : m.eventStore[eventId]? with
    | none => rfl
    | some ev =>
      obtain ⟨hsaved, hdeleted⟩ := h.event ev hev
      simp [savedEvent, hsaved, hdeleted]
  invites inviteId changed hchanged hevent := by
    obtain ⟨-, -, invite, hinvite, hsame, hnot⟩ :=
      inviteStore_update hchanged (hevent ▸ hended.notLive)
    exact hnot (h.invites inviteId invite hinvite (hsame.trans hevent))

theorem Ended.step (hended : Ended m eventId) (hm : Sound m) (op : Op) : Ended (m.step op) eventId := by
  cases op with
  | update delaySec now => exact (hended.update delaySec now).1
  | _ => exact hended.still (still_change hm (change_step m _) rfl hended)

theorem Closing.step (h : Closing m eventId) (hm : Sound m) (hended : Ended m eventId) (op : Op) :
    Closing (m.step op) eventId := by
  cases op with
  | update delaySec now => exact (hended.update delaySec now).2
  | _ => exact h.still (still_change hm (change_step m _) rfl hended)

theorem Erased.step (h : Erased m eventId) (hm : Sound m) (hended : Ended m eventId) (op : Op) :
    Erased (m.step op) eventId := by
  cases op with
  | update delaySec now => exact h.closing.update hended delaySec now
  | _ => exact h.still (still_change hm (change_step m _) rfl hended)

theorem erased_run (hm : Sound m) (hended : Ended m eventId) (ops : List Op) :
    (Erased m eventId → Erased (run step m ops) eventId) ∧
      (Closing m eventId → 1 ≤ ops.countP isUpdate → Erased (run step m ops) eventId) ∧
        (2 ≤ ops.countP isUpdate → Erased (run step m ops) eventId) := by
  induction ops generalizing m with
  | nil => simp
  | cons op ops ih =>
    obtain ⟨herased, hclosing, hany⟩ := ih (hm.step op) (hended.step hm op)
    refine ⟨fun h => herased (h.step hm hended op), fun h hcount => ?_, fun hcount => ?_⟩
    · cases hop : isUpdate op with
      | true =>
        cases op with
        | update delaySec now => exact herased (h.update hended delaySec now)
        | _ => cases hop
      | false =>
        rw [List.countP_cons_of_neg (by simp [hop])] at hcount
        exact hclosing (h.step hm hended op) hcount
    · cases hop : isUpdate op with
      | true =>
        rw [List.countP_cons_of_pos hop] at hcount
        cases op with
        | update delaySec now => exact hclosing (hended.update delaySec now).2 (by omega)
        | _ => cases hop
      | false =>
        rw [List.countP_cons_of_neg (by simp [hop])] at hcount
        exact hany hcount

theorem cleanedUp (ops : List Op) : CleanedUp ops := by
  rintro before after rfl eventId hcreated hnotLive hcount
  have hsound : Sound (run step {} before) := sound_run before
  have herased := (erased_run hsound ⟨hcreated, hnotLive⟩ after).2.2 hcount
  rw [run_append]
  exact herased.gone (run_append step {} before after ▸ sound_run (before ++ after))

/-- Events end for a reason, and are gone two updates later, exactly when no update finds an unexpired event that
lists nobody and no guild calendar is removed over events of another guild. -/
theorem endsForCause_cleanedUp_iff (ops : List Op) :
    (Guarded step EndsForCause {} ops ∧ CleanedUp ops) ↔ Guarded step KeepsEvents {} ops := by
  rw [and_iff_left (cleanedUp ops)]
  exact guarded_iff_of_invariant (fun _ op hm => hm.step op) (fun _ op hm => endsForCause_iff hm op)
    ops sound_empty

def announcement : EventData :=
  { title := "meeting", eventTime := 60, flags := calendarFlagGuildAnnouncement }

/-- An announcement lists nobody, so the first update ends it. -/
theorem not_always_endsForCause : ¬ ∀ ops, Guarded step EndsForCause {} ops ∧ CleanedUp ops := by
  intro h
  have hupdate := (h [.addEvent 1 7 announcement [] 0, .update 0 1]).1.2.1
  let m : CalendarMgr := step {} (.addEvent 1 7 announcement [] 0)
  have htime : (m.getEventById 1).map (·.eventTime) = some 60 := by decide +kernel
  have hgone : ((m.step (.update 0 1)).getEventById 1).isNone = true := by decide +kernel
  obtain ⟨ev, hev, htime⟩ := Option.map_eq_some_iff.mp htime
  rcases hupdate 1 ev hev (Option.isNone_iff_eq_none.mp hgone) with hop | hop | hop | ⟨d, n, hop, -, hle⟩
  · cases hop
  · cases hop
  · cases hop
  · cases hop
    rw [htime] at hle
    exact absurd hle (by decide)

end Mangos.CalendarMgr
