import Mangos.Calendar.Steps

/-!
# Moderation rights

Who may change what in an event: its creator, its owner and its moderators.
-/

namespace Mangos.CalendarMgr

open Framework Std

variable {m m' : CalendarMgr}

def Moderates (m : CalendarMgr) (eventId guid : Nat) : Prop :=
  (∃ ev, m.getEventById eventId = some ev ∧ ev.creatorGuid = guid) ∨
    ∃ inviteId invite, m.getInviteById inviteId = some invite ∧ invite.eventId = eventId ∧
      invite.inviteeGuid = guid ∧ (invite.rank = calendarRankModerator ∨ invite.rank = calendarRankOwner)

def Op.actor : Op → Option Nat
  | .addEvent guid _ _ _ _ | .copyEvent guid _ _ _ _ | .signup guid _ _ _ _
  | .eventInvite guid _ _ _ _ _ _ | .updateEvent guid _ _ | .removeEvent guid _
  | .rsvp guid _ _ _ _ | .status guid _ _ _ _ | .moderatorStatus guid _ _ _
  | .removeInvite guid _ _ => some guid
  | .removePlayerCalendar _ | .removeGuildCalendar _ _ | .update _ _ => none

def Op.creates : Op → Bool
  | .addEvent _ _ _ _ _ | .copyEvent _ _ _ _ _ => true
  | _ => false

def ByRight (m : CalendarMgr) (op : Op) (eventId : Nat) : Prop :=
  ∃ guid, op.actor = some guid ∧ m.Moderates eventId guid

def CalendarEvent.facts (ev : CalendarEvent) : EventData × Nat × Nat :=
  (ev.toEventData, ev.creatorGuid, ev.guildId)

/-- What the request did to ranks, events and invites was done by those who may. -/
structure FairChange (m : CalendarMgr) (op : Op) (m' : CalendarMgr) : Prop where
  /-- Who becomes a moderator was made one by the creation of the event, or from above. -/
  moderator : ∀ (inviteId : Nat) (invite : CalendarInvite),
    m'.getInviteById inviteId = some invite → invite.rank = calendarRankModerator →
      (∃ old, m.getInviteById inviteId = some old ∧ old.rank = calendarRankModerator) ∨
        (op.creates ∧ m.eventStore[invite.eventId]? = none) ∨ m.ByRight op invite.eventId
  /-- Nobody but the owner changes the owner's rank. -/
  owner : ∀ (inviteId : Nat) (old invite : CalendarInvite),
    m.getInviteById inviteId = some old → old.rank = calendarRankOwner →
      m'.inviteStore[inviteId]? = some invite → invite.rank ≠ calendarRankOwner → op.actor = some old.inviteeGuid
  /-- A player changes or removes only events that he moderates. -/
  event : ∀ (eventId guid : Nat) (old : CalendarEvent), m.getEventById eventId = some old → op.actor = some guid →
      (m'.getEventById eventId).map CalendarEvent.facts ≠ some (CalendarEvent.facts old) → m.Moderates eventId guid
  /-- A player changes or removes only his own invites and those to events that he moderates. -/
  invite : ∀ (inviteId guid : Nat) (old : CalendarInvite), m.getInviteById inviteId = some old →
    op.actor = some guid → old.inviteeGuid ≠ guid → m'.getInviteById inviteId ≠ some old → m.Moderates old.eventId guid

def Fair (m : CalendarMgr) (op : Op) : Prop := m.FairChange op (m.step op)

/-- A rank is set only by those who may: a moderator is made by somebody who moderates the event, and the
rank of an owner is left to him. -/
def RanksFromAbove (m : CalendarMgr) : Op → Prop
  | .moderatorStatus guid eventId inviteId rank =>
    ∀ ev invite, Targets m guid eventId inviteId ev invite → rank ≠ calendarRankOwner →
      (rank = calendarRankModerator → invite.rank ≠ calendarRankModerator → m.Moderates eventId guid) ∧
          (invite.rank = calendarRankOwner → invite.inviteeGuid = guid)
  | _ => True

theorem MayChange.moderates (hm : Sound m) {eventId guid : Nat} {ev : CalendarEvent}
    {invite : CalendarInvite} (hev : m.getEventById eventId = some ev)
    (h : m.MayChange ev invite guid) (hother : invite.inviteeGuid ≠ guid) : m.Moderates eventId guid := by
  rcases h with hown | ⟨updater, hupdater, hrank⟩
  · exact absurd hown hother
  · obtain ⟨-, hguid, inviteId, hmem, hlive⟩ := getInviteByGuid_eq_some hupdater
    have hevent := (hm.listed eventId ev (getEventById_eq_some.mp hev).1 inviteId hmem).2 updater
      (getInviteById_eq_some.mp hlive).1
    exact .inr ⟨inviteId, updater, hlive, hevent, hguid, hrank⟩

theorem fairChange_of_invites {op : Op} (hinvites : m'.inviteStore = m.inviteStore)
    (hevent : ∀ (eventId guid : Nat) (old : CalendarEvent), m.getEventById eventId = some old → op.actor = some guid →
        (m'.getEventById eventId).map CalendarEvent.facts ≠ some (CalendarEvent.facts old) →
          m.Moderates eventId guid) : FairChange m op m' where
  moderator inviteId invite hlive hrank :=
    .inl ⟨invite, by rwa [getInviteById, hinvites] at hlive, hrank⟩
  owner inviteId old invite hold hrank hlookup hother := by
    rw [hinvites, (getInviteById_eq_some.mp hold).1] at hlookup
    cases hlookup
    exact absurd hrank hother
  event := hevent
  invite inviteId guid old hold _ _ hchanged := by
    rw [getInviteById, hinvites] at hchanged
    exact absurd hold hchanged

theorem fairChange_refl (m : CalendarMgr) (op : Op) : FairChange m op m :=
  fairChange_of_invites rfl fun eventId _ old hold _ hchanged => by
    rw [hold] at hchanged
    exact absurd rfl hchanged

theorem fairChange_setEvent {op : Op} {eventId : Nat} {changed : CalendarEvent}
    (h : ∀ guid, op.actor = some guid → m.Moderates eventId guid) : FairChange m op (m.setEvent eventId changed) := by
  refine fairChange_of_invites inviteStore_setEvent fun a guid old hold hactor hchanged => ?_
  by_cases heq : eventId = a
  · exact heq ▸ h guid hactor
  · have hsame : (m.setEvent eventId changed).getEventById a = m.getEventById a := by
      simp [getEventById, heq]
    rw [hsame, hold] at hchanged
    exact absurd rfl hchanged

theorem Targets.fairChange {op : Op} {guid eventId inviteId : Nat} {ev : CalendarEvent}
    {invite changed : CalendarInvite} (h : Targets m guid eventId inviteId ev invite) (hm : Sound m)
    (hactor : op.actor = some guid) (hevent : changed.eventId = invite.eventId)
    (hmoderator : changed.rank = calendarRankModerator → invite.rank ≠ calendarRankModerator →
      m.Moderates eventId guid) (howner : invite.rank = calendarRankOwner → changed.rank ≠ calendarRankOwner →
      invite.inviteeGuid = guid) : FairChange m op (m.setInvite inviteId changed) := by
  obtain ⟨hmem, hlookup, hlive⟩ := h.lookup
  have hget : m.getInviteById inviteId = some invite := getInviteById_eq_some.mpr ⟨hlookup, hlive⟩
  have hof : invite.eventId = eventId :=
    (hm.listed eventId ev (getEventById_eq_some.mp h.event).1 inviteId hmem).2 invite hlookup
  have hothers : ∀ a, inviteId ≠ a →
      (m.setInvite inviteId changed).inviteStore[a]? = m.inviteStore[a]? := fun a hne => by
    rw [inviteStore_setInvite, if_neg hne]
  refine ⟨fun a found ha hrank => ?_, fun a old found ha hrank hfound hother => ?_,
    fun a guid' old hold _ hchanged => ?_, fun a guid' old hold hactor' hforeign hchanged => ?_⟩
  · by_cases heq : inviteId = a
    · have hfound := (getInviteById_eq_some.mp ha).1
      rw [inviteStore_setInvite, if_pos heq] at hfound
      cases hfound
      by_cases hwas : invite.rank = calendarRankModerator
      · exact .inl ⟨invite, heq ▸ hget, hwas⟩
      · exact .inr (.inr ⟨guid, hactor, by rw [hevent, hof]; exact hmoderator hrank hwas⟩)
    · exact .inl ⟨found, by rwa [getInviteById, hothers a heq] at ha, hrank⟩
  · by_cases heq : inviteId = a
    · rw [inviteStore_setInvite, if_pos heq] at hfound
      cases hfound
      subst heq
      rw [hget] at ha
      cases ha
      rw [howner hrank hother]
      exact hactor
    · rw [hothers a heq, (getInviteById_eq_some.mp ha).1] at hfound
      cases hfound
      exact absurd hrank hother
  · rw [getEventById_setInvite, hold] at hchanged
    exact absurd rfl hchanged
  · by_cases heq : inviteId = a
    · subst heq
      rw [hget] at hold
      cases hold
      rw [hactor] at hactor'
      cases hactor'
      rw [hof]
      exact h.right.moderates hm h.event hforeign
    · rw [getInviteById, hothers a heq] at hchanged
      exact absurd hold hchanged

theorem Flagged.fairChange {op : Op} (h : Flagged m m') (hactor : op.actor = none) : FairChange m op m' where
  moderator inviteId invite hlive hrank := by
    obtain ⟨hlookup, hkept⟩ := getInviteById_eq_some.mp hlive
    obtain ⟨old, hold, heq, hdeleted⟩ := h inviteId invite hlookup
    have hwas : old.deleted = false := by
      cases hd : old.deleted with
      | false => rfl
      | true => rw [hdeleted hd] at hkept; exact hkept
    rw [heq] at hrank
    exact .inl ⟨old, getInviteById_eq_some.mpr ⟨hold, hwas⟩, hrank⟩
  owner inviteId old invite hold hrank hlookup hother := by
    obtain ⟨before, hbefore, heq, -⟩ := h inviteId invite hlookup
    rw [(getInviteById_eq_some.mp hold).1] at hbefore
    cases hbefore
    rw [heq] at hother
    exact absurd hrank hother
  event _ _ _ _ hsome := by
    rw [hactor] at hsome
    cases hsome
  invite _ _ _ _ hsome := by
    rw [hactor] at hsome
    cases hsome

/-- Nothing that was there is changed, and the new invites are as `Admitted` says. -/
structure Adds (Admitted : CalendarInvite → Prop) (m m' : CalendarMgr) : Prop where
  invites : ∀ (inviteId : Nat) (invite : CalendarInvite),
    m.inviteStore[inviteId]? = some invite → m'.inviteStore[inviteId]? = some invite
  events : ∀ (eventId : Nat) (ev : CalendarEvent), m.getEventById eventId = some ev →
    ∃ ev', m'.getEventById eventId = some ev' ∧ CalendarEvent.facts ev' = CalendarEvent.facts ev
  new : ∀ (inviteId : Nat) (invite : CalendarInvite), m'.inviteStore[inviteId]? = some invite →
    m.inviteStore[inviteId]? = some invite ∨ Admitted invite

variable {Admitted : CalendarInvite → Prop}

theorem Adds.refl (m : CalendarMgr) : Adds Admitted m m :=
  ⟨fun _ _ h => h, fun _ ev h => ⟨ev, h, rfl⟩, fun _ _ h => .inl h⟩

theorem Adds.trans {n : CalendarMgr} (h : Adds Admitted m m') (h' : Adds Admitted m' n) : Adds Admitted m n where
  invites inviteId invite hinvite := h'.invites inviteId invite (h.invites inviteId invite hinvite)
  events eventId ev hev := by
    obtain ⟨mid, hmid, hfacts⟩ := h.events eventId ev hev
    obtain ⟨last, hlast, hfacts'⟩ := h'.events eventId mid hmid
    exact ⟨last, hlast, hfacts'.trans hfacts⟩
  new inviteId invite hinvite := by
    rcases h'.new inviteId invite hinvite with hmid | hnew
    · exact h.new inviteId invite hmid
    · exact .inr hnew

theorem Adds.fairChange {op : Op} (h : Adds Admitted m m')
    (hadmitted : ∀ invite, Admitted invite → invite.rank = calendarRankModerator →
      op.creates ∧ m.eventStore[invite.eventId]? = none) : FairChange m op m' where
  moderator inviteId invite hlive hrank := by
    obtain ⟨hlookup, hkept⟩ := getInviteById_eq_some.mp hlive
    rcases h.new inviteId invite hlookup with hold | hnew
    · exact .inl ⟨invite, getInviteById_eq_some.mpr ⟨hold, hkept⟩, hrank⟩
    · exact .inr (.inl (hadmitted invite hnew hrank))
  owner inviteId old invite hold hrank hlookup hother := by
    rw [h.invites inviteId old (getInviteById_eq_some.mp hold).1] at hlookup
    cases hlookup
    exact absurd hrank hother
  event eventId guid old hold _ hchanged := by
    obtain ⟨ev, hev, hfacts⟩ := h.events eventId old hold
    rw [hev, Option.map_some, hfacts] at hchanged
    exact absurd rfl hchanged
  invite inviteId guid old hold _ _ hchanged := by
    obtain ⟨hlookup, hlive⟩ := getInviteById_eq_some.mp hold
    exact absurd (getInviteById_eq_some.mpr ⟨h.invites inviteId old hlookup, hlive⟩) hchanged

theorem Adds.fairChange_new {op : Op} {newId : Nat} (h : Adds (fun invite => invite.eventId = newId) m m')
    (hcreates : op.creates = true) (hfree : m.eventStore[newId]? = none) : FairChange m op m' :=
  h.fairChange fun _ heq _ => ⟨hcreates, heq ▸ hfree⟩

theorem free_addEvent {guid guildId newId : Nat} {data : EventData} {now : Int} (hm : Sound m)
    (h : m.addEvent guid guildId data now = .ok (m', newId)) : m.eventStore[newId]? = none := by
  obtain ⟨-, -, rfl, -⟩ := addEvent_eq_ok.mp h
  cases hev : m.eventStore[m.eventGuids]? with
  | none => rfl
  | some ev => exact absurd (hm.eventIds _ ev hev).2 (lt_irrefl _)

theorem adds_addEvent {guid guildId newId : Nat} {data : EventData} {now : Int} (hm : Sound m)
    (h : m.addEvent guid guildId data now = .ok (m', newId)) : Adds Admitted m m' := by
  have hstore := eventStore_addEvent h
  have hfree := free_addEvent hm h
  obtain ⟨-, -, rfl, rfl⟩ := addEvent_eq_ok.mp h
  refine ⟨fun _ _ h => h, fun a ev ha => ?_, fun _ _ h => .inl h⟩
  obtain ⟨hlookup, hlive⟩ := getEventById_eq_some.mp ha
  have hne : m.eventGuids ≠ a := by
    intro heq
    rw [← heq, hfree] at hlookup
    cases hlookup
  exact ⟨ev, getEventById_eq_some.mpr ⟨by rw [hstore, if_neg hne, hlookup], hlive⟩, rfl⟩

theorem adds_addInvite {eventId senderGuid inviteeGuid status rank : Nat} {now : Int} (hm : Sound m)
    (hadmitted : ∀ ev, Admitted (newInvite ev eventId senderGuid inviteeGuid status rank now)) :
    Adds Admitted m (m.addInvite eventId senderGuid inviteeGuid status rank now) := by
  cases hev : m.eventStore[eventId]? with
  | none => simpa [addInvite, hev] using Adds.refl m
  | some ev =>
    rw [addInvite_eq hm hev]
    refine ⟨fun a invite ha => ?_, fun a old ha => ?_, fun a invite ha => ?_⟩
    · have hne : m.inviteGuids ≠ a := by
        have := (hm.inviteIds a invite ha).1
        omega
      simpa [hne] using ha
    · by_cases heq : eventId = a
      · obtain ⟨hlookup, hlive⟩ := getEventById_eq_some.mp ha
        rw [← heq, hev] at hlookup
        cases hlookup
        refine ⟨listing ev m.inviteGuids, getEventById_eq_some.mpr ⟨by simp [heq], ?_⟩, ?_⟩
        · unfold listing
          split <;> exact hlive
        · unfold listing
          split <;> rfl
      · exact ⟨old, by simpa [getEventById, heq] using ha, rfl⟩
    · by_cases heq : m.inviteGuids = a
      · have hnew : newInvite ev eventId senderGuid inviteeGuid status rank now = invite := by
          simpa [heq] using ha
        exact .inr (hnew ▸ hadmitted ev)
      · exact .inl (by simpa [heq] using ha)

theorem adds_touchEvent (m : CalendarMgr) (eventId : Nat) : Adds Admitted m (m.touchEvent eventId) := by
  refine ⟨fun _ _ h => h, fun a ev ha => ?_, fun _ _ h => .inl h⟩
  obtain ⟨hlookup, hlive⟩ := getEventById_eq_some.mp ha
  refine ⟨_, getEventById_eq_some.mpr ⟨by rw [eventStore_touchEvent, hlookup]; rfl, ?_⟩, ?_⟩
  · split <;> exact hlive
  · split <;> rfl

theorem adds_addInvites {eventId senderGuid : Nat} {now : Int} (hm : Sound m)
    (hadmitted : ∀ invite : CalendarInvite, invite.eventId = eventId → Admitted invite)
    (invitees : List Invitee) : Adds Admitted m (m.addInvites eventId senderGuid now invitees) := by
  induction invitees generalizing m with
  | nil => exact .refl m
  | cons i invitees ih =>
    exact (adds_addInvite hm fun _ => hadmitted _ rfl).trans (ih hm.addInvite)

theorem adds_copyInvites {newId guid : Nat} {now : Int} (hm : Sound m)
    (hadmitted : ∀ invite : CalendarInvite, invite.eventId = newId → Admitted invite)
    (inviteIds : List Nat) : Adds Admitted m (run (copyInvite newId guid now) m inviteIds) := by
  induction inviteIds generalizing m with
  | nil => exact .refl m
  | cons a inviteIds ih =>
    refine Adds.trans ?_ (ih (hm.copyInvite a))
    unfold copyInvite
    cases m.getInviteById a with
    | none => exact .refl m
    | some invite => exact adds_addInvite hm fun _ => hadmitted _ rfl

theorem fairChange_addInvite {op : Op} {eventId senderGuid inviteeGuid status : Nat} {now : Int} (hm : Sound m) :
    FairChange m op (m.addInvite eventId senderGuid inviteeGuid status calendarRankPlayer now) := by
  have hadds : Adds (fun invite => invite.rank = calendarRankPlayer) m
      (m.addInvite eventId senderGuid inviteeGuid status calendarRankPlayer now) :=
    adds_addInvite hm fun _ => rfl
  apply hadds.fairChange
  intro invite hplayer hmoderator
  rw [hplayer] at hmoderator
  exact absurd hmoderator (by decide)

theorem fairChange_change {op : Op} (hm : Sound m) (h : Change m op m')
    (hok : m.RanksFromAbove op) : FairChange m op m' := by
  cases h with
  | refused => exact fairChange_refl m op
  | created invitees hnew =>
    have hnewSound := hm.addEvent hnew
    exact ((adds_addEvent hm hnew).trans (adds_addInvites hnewSound (fun _ h => h) invitees)).fairChange_new
      rfl (free_addEvent hm hnew)
  | announced invitees hnew =>
    have hnewSound := hm.addEvent hnew
    exact ((adds_addEvent hm hnew).trans (adds_addInvite hnewSound fun _ => rfl)).fairChange_new rfl
      (free_addEvent hm hnew)
  | copied hev hnew =>
    have hnewSound := hm.addEvent hnew
    exact (((adds_addEvent hm hnew).trans (adds_copyInvites hnewSound (fun _ h => h) _)).trans
      (adds_touchEvent _ _)).fairChange_new rfl (free_addEvent hm hnew)
  | copiedAnnouncement hev hnew =>
    have hnewSound := hm.addEvent hnew
    exact (((adds_addEvent hm hnew).trans (adds_addInvite hnewSound fun _ => rfl)).trans
      (adds_touchEvent _ _)).fairChange_new rfl (free_addEvent hm hnew)
  | signedUp | invited => exact fairChange_addInvite hm
  | @updated guid eventId data ev hev hright =>
    apply fairChange_setEvent
    intro actor hactor
    cases hactor
    rcases hright with rfl | ⟨updater, hupdater, hrank⟩
    · exact .inl ⟨ev, hev, rfl⟩
    · obtain ⟨-, hguid, inviteId, hmem, hlive⟩ := getInviteByGuid_eq_some hupdater
      have hevent := (hm.listed eventId ev (getEventById_eq_some.mp hev).1 inviteId hmem).2 updater
        (getInviteById_eq_some.mp hlive).1
      exact .inr ⟨inviteId, updater, hlive, hevent, hguid, .inl hrank⟩
  | @removed guid eventId ev hev hright =>
    apply fairChange_setEvent
    intro actor hactor
    cases hactor
    exact .inl ⟨ev, hev, hright.symm⟩
  | responded h | statusSet h | inviteRemoved h =>
    exact h.fairChange hm rfl rfl (fun hrank hnot => absurd hrank hnot)
      (fun hrank hnot => absurd hrank hnot)
  | @ranked guid eventId inviteId rank ev invite htargets hrank =>
    obtain ⟨hmoderator, howner⟩ := hok ev invite htargets hrank
    exact htargets.fairChange hm rfl rfl hmoderator fun hwas _ => howner hwas
  | playerGone guid | guildLeft guid =>
    exact Flagged.fairChange (run_rel Flagged.refl (fun _ _ _ => Flagged.trans)
      (flagged_removeCalendarEntry guid _) m _) rfl
  | ticked delaySec now => exact (flagged_update delaySec now m).fairChange rfl

theorem step_moderatorStatus {guid eventId inviteId rank : Nat} {ev : CalendarEvent}
    {invite : CalendarInvite} (h : Targets m guid eventId inviteId ev invite)
    (hrank : rank ≠ calendarRankOwner) : m.step (.moderatorStatus guid eventId inviteId rank) =
      m.setInvite inviteId { invite with rank, saved := false, updated := true } := by
  have hchange : m.handleCalendarEventModeratorStatus guid eventId inviteId rank =
      .ok (m.setInvite inviteId { invite with rank, saved := false, updated := true }) := by
    simp only [handleCalendarEventModeratorStatus, h.event]
    exact changeInvite_eq_ok.mpr ⟨invite, _, h.listed, h.right, by simp [hrank], rfl⟩
  simp [step, handle, hchange]

theorem fair_iff (hm : Sound m) (op : Op) : m.Fair op ↔ m.RanksFromAbove op := by
  constructor
  · intro h
    cases op with
    | moderatorStatus guid eventId inviteId rank =>
      intro ev invite htargets hrank
      have hstep := step_moderatorStatus htargets hrank
      obtain ⟨hmem, hlookup, hlive⟩ := htargets.lookup
      have hget : m.getInviteById inviteId = some invite :=
        getInviteById_eq_some.mpr ⟨hlookup, hlive⟩
      have hset : (m.step (.moderatorStatus guid eventId inviteId rank)).inviteStore[inviteId]? =
          some { invite with rank, saved := false, updated := true } := by
        rw [hstep, inviteStore_setInvite, if_pos rfl]
      constructor
      · intro hmoderator hwas
        have hof := (hm.listed eventId ev (getEventById_eq_some.mp htargets.event).1 inviteId
          hmem).2 invite hlookup
        rcases h.moderator inviteId _ (getInviteById_eq_some.mpr ⟨hset, hlive⟩) hmoderator with
          ⟨old, hold, hrankOld⟩ | ⟨hcreates, -⟩ | ⟨actor, hactor, hright⟩
        · rw [hget] at hold
          cases hold
          exact absurd hrankOld hwas
        · cases hcreates
        · cases hactor
          rwa [← hof]
      · intro howner
        have hactor := h.owner inviteId invite _ hget howner hset hrank
        exact (Option.some.inj hactor).symm
    | _ => trivial
  · exact fairChange_change hm (change_step m op)

/-- Rights are granted from above throughout a run exactly when every rank in it is set from above. -/
theorem fair_run_iff (ops : List Op) : Guarded step Fair {} ops ↔ Guarded step RanksFromAbove {} ops :=
  guarded_iff_of_invariant (fun _ op hm => hm.step op) (fun _ op hm => fair_iff hm op) ops sound_empty

def signedUpEvent : CalendarMgr :=
  run step {} [.addEvent 1 0 { title := "raid", eventTime := 60 } [] 0, .signup 2 0 1 false 1]

/-- Who has signed up for an event can make himself its moderator. -/
theorem not_always_fair : ¬ ∀ ops, Guarded step Fair {} ops := by
  intro h
  have hrank := (h [.addEvent 1 0 { title := "raid", eventTime := 60 } [] 0, .signup 2 0 1 false 1,
    .moderatorStatus 2 1 1 calendarRankModerator]).2.2.1
  have hcreator : (signedUpEvent.getEventById 1).map (·.creatorGuid) = some 1 := by decide +kernel
  have hall : ∀ p ∈ signedUpEvent.inviteStore.toList, p.2.rank = calendarRankPlayer := by
    decide +kernel
  have hset : ((signedUpEvent.step (.moderatorStatus 2 1 1 calendarRankModerator)).getInviteById 1).map
      (fun invite => (invite.eventId, invite.rank)) = some (1, calendarRankModerator) := by
    decide +kernel
  have hplayers : ∀ (inviteId : Nat) (invite : CalendarInvite),
      signedUpEvent.getInviteById inviteId = some invite → invite.rank = calendarRankPlayer :=
    fun inviteId invite hlive => hall (inviteId, invite)
      (ExtTreeMap.mem_toList_iff_getElem?_eq_some.mpr (getInviteById_eq_some.mp hlive).1)
  obtain ⟨invite, hlive, heq⟩ := Option.map_eq_some_iff.mp hset
  obtain ⟨hevent, hmoderator⟩ := Prod.mk.inj heq
  rcases hrank.moderator 1 invite hlive hmoderator with
    ⟨old, hold, hwas⟩ | ⟨hcreates, -⟩ | ⟨actor, hactor, hright⟩
  · rw [hplayers 1 old hold] at hwas
    exact absurd hwas (by decide)
  · cases hcreates
  · cases hactor
    rcases hright with ⟨ev, hev, hguid⟩ | ⟨inviteId, other, hother, -, -, hranked⟩
    · rw [hevent] at hev
      obtain ⟨ev', hev', hone⟩ := Option.map_eq_some_iff.mp hcreator
      have hsame : some ev = some ev' := hev.symm.trans hev'
      cases hsame
      omega
    · rw [hplayers inviteId other hother] at hranked
      exact absurd hranked (by decide)

end Mangos.CalendarMgr
