import Mangos.Calendar.Sound

/-!
# What a request does

A request is refused, or it makes one of a few changes under the conditions that its handler tests.
-/

namespace Mangos.CalendarMgr

open Framework Std

variable {m m' : CalendarMgr}

theorem Sound.withEventRows (hm : Sound m) {rows : ExtTreeMap Nat EventRow}
    (h : ∀ (eventId : Nat) (row : EventRow), rows[eventId]? = some row →
      ∃ ev, m.eventStore[eventId]? = some ev) : Sound { m with calendarEvents := rows } where
  eventGuids_pos := hm.eventGuids_pos
  eventIds := hm.eventIds
  inviteIds := hm.inviteIds
  listed := hm.listed
  lists := hm.lists
  eventRows := h
  inviteRows := hm.inviteRows

theorem Sound.withInviteRows (hm : Sound m) {rows : ExtTreeMap Nat InviteRow}
    (h : ∀ (inviteId : Nat) (row : InviteRow), rows[inviteId]? = some row →
      ∃ invite, m.inviteStore[inviteId]? = some invite ∧ row.eventId = invite.eventId) :
    Sound { m with calendarInvites := rows } where
  eventGuids_pos := hm.eventGuids_pos
  eventIds := hm.eventIds
  inviteIds := hm.inviteIds
  listed := hm.listed
  lists := hm.lists
  eventRows := hm.eventRows
  inviteRows := h

theorem Sound.eraseEvent (hm : Sound m) {eventId : Nat}
    (h : ∀ (inviteId : Nat) (invite : CalendarInvite), m.getInviteById inviteId = some invite →
      invite.eventId ≠ eventId) : Sound { m with
      calendarEvents := m.calendarEvents.erase eventId
      eventStore := m.eventStore.erase eventId } where
  eventGuids_pos := hm.eventGuids_pos
  eventIds a ev ha := by
    rw [lookup_erase] at ha
    split at ha
    next => cases ha
    next => exact hm.eventIds a ev ha
  inviteIds := hm.inviteIds
  listed a ev ha := by
    rw [lookup_erase] at ha
    split at ha
    next => cases ha
    next => exact hm.listed a ev ha
  lists inviteId invite hinvite := by
    obtain ⟨ev, hev, hmem⟩ := hm.lists inviteId invite hinvite
    have hne : eventId ≠ invite.eventId := Ne.symm (h inviteId invite hinvite)
    exact ⟨ev, by rw [lookup_erase, if_neg hne, hev], hmem⟩
  eventRows a row hrow := by
    rw [lookup_erase] at hrow
    split at hrow
    next => cases hrow
    next hne =>
      obtain ⟨ev, hev⟩ := hm.eventRows a row hrow
      exact ⟨ev, by rw [lookup_erase, if_neg hne, hev]⟩
  inviteRows := hm.inviteRows

theorem Sound.eraseInvite (hm : Sound m) {inviteId : Nat} : Sound { m with
      calendarInvites := m.calendarInvites.erase inviteId
      inviteStore := m.inviteStore.erase inviteId } where
  eventGuids_pos := hm.eventGuids_pos
  eventIds := hm.eventIds
  inviteIds a invite ha := by
    rw [lookup_erase] at ha
    split at ha
    next => cases ha
    next => exact hm.inviteIds a invite ha
  listed a ev ha b hb := by
    obtain ⟨hlt, hevent⟩ := hm.listed a ev ha b hb
    refine ⟨hlt, fun invite hinvite => ?_⟩
    rw [lookup_erase] at hinvite
    split at hinvite
    next => cases hinvite
    next => exact hevent invite hinvite
  lists a invite ha := by
    obtain ⟨hlookup, hlive⟩ := getInviteById_eq_some.mp ha
    rw [lookup_erase] at hlookup
    split at hlookup
    next => cases hlookup
    next => exact hm.lists a invite (getInviteById_eq_some.mpr ⟨hlookup, hlive⟩)
  eventRows := hm.eventRows
  inviteRows a row hrow := by
    rw [lookup_erase] at hrow
    split at hrow
    next => cases hrow
    next hne =>
      obtain ⟨invite, hinvite, hevent⟩ := hm.inviteRows a row hrow
      exact ⟨invite, by rw [lookup_erase, if_neg hne, hinvite], hevent⟩

theorem not_live_removeAllInvite {ev : CalendarEvent} {inviteId : Nat} {invite : CalendarInvite}
    (h : (m.removeAllInvite ev).getInviteById inviteId = some invite) : inviteId ∉ ev.invitee := by
  intro hmem
  obtain ⟨hlookup, hlive⟩ := getInviteById_eq_some.mp h
  rw [removeAllInvite, inviteStore_run_removeInviteIf] at hlookup
  obtain ⟨old, hold, rfl⟩ := Option.map_eq_some_iff.mp hlookup
  cases hd : old.deleted with
  | true => simp [hmem, struck, hd] at hlive
  | false => simp [hmem, struck, hd] at hlive

theorem sound_saveEvent (m : CalendarMgr) (eventId : Nat) (hm : Sound m) : Sound (saveEvent m eventId) := by
  unfold saveEvent
  cases hev : m.eventStore[eventId]? with
  | none => exact hm
  | some ev =>
    simp only
    split
    next =>
      have hlist : { ev with saved := true }.invitee = ev.invitee := rfl
      refine (hm.keeps (keeps_setEvent hev hlist)).withEventRows fun a row hrow => ?_
      by_cases heq : eventId = a
      · exact ⟨_, by rw [eventStore_setEvent, if_pos heq]⟩
      · simp only [saveEventToDB, lookup_insert, lookup_erase, if_neg heq] at hrow
        obtain ⟨old, hold⟩ := hm.eventRows a row hrow
        exact ⟨old, by rw [eventStore_setEvent, if_neg heq, hold]⟩
    next =>
      split
      next =>
        -- the destructor leaves no live invite of the event
        have hsound : Sound (m.removeAllInvite ev) := hm.keeps (keeps_run_removeInviteIf _ m _)
        have hsame := sameRest_run_removeInviteIf (fun _ => true) m ev.invitee.toList
        have hnone : ∀ (inviteId : Nat) (invite : CalendarInvite),
            (m.removeAllInvite ev).getInviteById inviteId = some invite → invite.eventId ≠ eventId := by
          intro inviteId invite hinvite heq
          obtain ⟨other, hother, hmem⟩ := hsound.lists inviteId invite hinvite
          have hstore : (m.removeAllInvite ev).eventStore = m.eventStore := hsame.eventStore
          rw [hstore, heq, hev] at hother
          cases hother
          exact not_live_removeAllInvite hinvite hmem
        have herased := hsound.eraseEvent hnone
        have hstore : (m.removeAllInvite ev).eventStore = m.eventStore := hsame.eventStore
        have hrows : (m.removeAllInvite ev).calendarEvents = m.calendarEvents :=
          hsame.calendarEvents
        rwa [hstore, hrows] at herased
      next => exact hm

theorem sound_saveInvite (m : CalendarMgr) (inviteId : Nat) (hm : Sound m) : Sound (saveInvite m inviteId) := by
  unfold saveInvite
  cases hinvite : m.inviteStore[inviteId]? with
  | none => exact hm
  | some invite =>
    simp only
    split
    next =>
      have hkeeps : Keeps m (m.setInvite inviteId { invite with saved := true }) :=
        keeps_setInvite hinvite rfl fun h => h
      refine (hm.keeps hkeeps).withInviteRows fun a row hrow => ?_
      by_cases heq : inviteId = a
      · simp only [saveInviteToDB, lookup_insert, if_pos heq] at hrow
        cases hrow
        exact ⟨{ invite with saved := true }, by rw [inviteStore_setInvite, if_pos heq], rfl⟩
      · simp only [saveInviteToDB, lookup_insert, lookup_erase, if_neg heq] at hrow
        obtain ⟨old, hold, hevent⟩ := hm.inviteRows a row hrow
        exact ⟨old, by rw [inviteStore_setInvite, if_neg heq, hold], hevent⟩
    next =>
      split
      next => exact hm.eraseInvite
      next => exact hm

theorem Sound.marked (hm : Sound m) (delaySec now : Int) : Sound (m.markEvents delaySec now).markInvites :=
  (hm.keeps (keeps_markEvents delaySec now m)).keeps (keeps_markInvites _)

theorem Sound.update (hm : Sound m) (delaySec now : Int) : Sound (m.update delaySec now) := by
  have hsaved : Sound ((m.markEvents delaySec now).markInvites).saveEvents :=
    (hm.marked delaySec now).run sound_saveEvent _
  exact hsaved.run sound_saveInvite _

def Flagged (m m' : CalendarMgr) : Prop :=
  ∀ (inviteId : Nat) (invite' : CalendarInvite), m'.inviteStore[inviteId]? = some invite' →
    ∃ invite, m.inviteStore[inviteId]? = some invite ∧
      invite' = { invite with saved := invite'.saved, deleted := invite'.deleted } ∧
        (invite.deleted = true → invite'.deleted = true)

theorem Flagged.refl (m : CalendarMgr) : Flagged m m := fun _ invite h => ⟨invite, h, rfl, id⟩

theorem Flagged.trans {n : CalendarMgr} (h : Flagged m m') (h' : Flagged m' n) : Flagged m n := by
  intro inviteId invite hn
  obtain ⟨mid, hmid, heq, hdeleted⟩ := h' inviteId invite hn
  obtain ⟨old, hold, heq', hdeleted'⟩ := h inviteId mid hmid
  refine ⟨old, hold, ?_, fun hd => hdeleted (hdeleted' hd)⟩
  rw [heq, heq']

theorem flagged_setInvite {inviteId : Nat} {invite : CalendarInvite} {saved deleted : Bool}
    (hinvite : m.inviteStore[inviteId]? = some invite) (hdeleted : invite.deleted = true → deleted = true) :
    Flagged m (m.setInvite inviteId { invite with saved, deleted }) := by
  intro a changed ha
  rw [inviteStore_setInvite] at ha
  split at ha
  next heq =>
    cases ha
    exact ⟨invite, heq ▸ hinvite, rfl, hdeleted⟩
  next => exact ⟨changed, ha, rfl, id⟩

theorem flagged_removeInviteIf (meant : CalendarInvite → Bool) (m : CalendarMgr) (inviteId : Nat) :
    Flagged m (removeInviteIf meant m inviteId) := by
  unfold removeInviteIf
  cases hget : m.getInviteById inviteId with
  | none => exact .refl m
  | some invite =>
    simp only
    split
    · exact flagged_setInvite (getInviteById_eq_some.mp hget).1 fun _ => rfl
    · exact .refl m

theorem flagged_run_removeInviteIf (meant : CalendarInvite → Bool) (m : CalendarMgr)
    (ids : List Nat) : Flagged m (run (removeInviteIf meant) m ids) :=
  run_rel Flagged.refl (fun _ _ _ => Flagged.trans) (flagged_removeInviteIf meant) m ids

theorem flagged_removeCalendarEntry (guid : Nat) (meant : CalendarEvent → Bool) (m : CalendarMgr)
    (eventId : Nat) : Flagged m (removeCalendarEntry guid meant m eventId) := by
  unfold removeCalendarEntry removeInviteByGuid
  cases m.eventStore[eventId]? with
  | none => exact .refl m
  | some ev =>
    simp only
    split
    · split
      · exact flagged_run_removeInviteIf _ m ev.invitee.toList
      · exact .refl m
    · exact .refl m

theorem flagged_markInvites (m : CalendarMgr) : Flagged m m.markInvites := by
  intro a changed ha
  rw [markInvites, ExtTreeMap.getElem?_map] at ha
  obtain ⟨invite, hinvite, rfl⟩ := Option.map_eq_some_iff.mp ha
  refine ⟨invite, hinvite, ?_, fun hd => ?_⟩
  · unfold markInvite
    split
    · rfl
    · split <;> rfl
  · rw [markInvite_of_deleted hd, hd]

theorem flagged_saveEvent (m : CalendarMgr) (eventId : Nat) : Flagged m (saveEvent m eventId) := by
  unfold saveEvent
  cases m.eventStore[eventId]? with
  | none => exact .refl m
  | some ev =>
    simp only
    split
    · exact .refl m
    · split
      · exact flagged_run_removeInviteIf _ m ev.invitee.toList
      · exact .refl m

theorem flagged_saveInvite (m : CalendarMgr) (inviteId : Nat) : Flagged m (saveInvite m inviteId) := by
  unfold saveInvite
  cases hinvite : m.inviteStore[inviteId]? with
  | none => exact .refl m
  | some invite =>
    simp only
    split
    next => exact flagged_setInvite hinvite id
    next =>
      split
      next =>
        intro a other ha
        rw [lookup_erase] at ha
        split at ha
        next => cases ha
        next => exact ⟨other, ha, rfl, id⟩
      next => exact .refl m

theorem flagged_update (delaySec now : Int) (m : CalendarMgr) : Flagged m (m.update delaySec now) := by
  have hmarked : Flagged m (m.markEvents delaySec now).markInvites := flagged_markInvites _
  have hevents : Flagged (m.markEvents delaySec now).markInvites
      (m.markEvents delaySec now).markInvites.saveEvents :=
    run_rel Flagged.refl (fun _ _ _ => Flagged.trans) flagged_saveEvent _ _
  exact (hmarked.trans hevents).trans
    (run_rel Flagged.refl (fun _ _ _ => Flagged.trans) flagged_saveInvite _ _)

/-- The player may change the invite: it is his own, or the first of his invites to the event has the rank
of a moderator or the owner. -/
def MayChange (m : CalendarMgr) (ev : CalendarEvent) (invite : CalendarInvite) (guid : Nat) : Prop :=
  invite.inviteeGuid = guid ∨ ∃ updater, m.getInviteByGuid ev guid = some updater ∧
    (updater.rank = calendarRankModerator ∨ updater.rank = calendarRankOwner)

theorem mayChange_eq_ok {ev : CalendarEvent} {invite : CalendarInvite} {guid : Nat} {u : Unit} :
    m.mayChange ev invite guid = .ok u ↔ m.MayChange ev invite guid := by
  unfold mayChange MayChange
  by_cases hown : invite.inviteeGuid = guid
  · simp [hown]
  · cases m.getInviteByGuid ev guid with
    | none => simp [hown]
    | some updater =>
      by_cases hrank : updater.rank ≠ calendarRankModerator ∧ updater.rank ≠ calendarRankOwner
      · simp [hown, hrank]
      · have hgranted : updater.rank = calendarRankModerator ∨ updater.rank = calendarRankOwner := by
          by_contra hnot
          exact hrank (not_or.mp hnot)
        simp [hown, hrank, hgranted]

/-- The live event and the live invite to it that a request names. -/
structure Targets (m : CalendarMgr) (guid eventId inviteId : Nat) (ev : CalendarEvent)
    (invite : CalendarInvite) : Prop where
  event : m.getEventById eventId = some ev
  listed : m.eventInviteById ev inviteId = some invite
  right : m.MayChange ev invite guid

theorem changeInvite_eq_ok {ev : CalendarEvent} {guid inviteId : Nat}
    {change : CalendarInvite → Except CalendarError CalendarInvite} :
    m.changeInvite ev guid inviteId change = .ok m' ↔ ∃ invite changed, m.eventInviteById ev inviteId = some invite ∧
        m.MayChange ev invite guid ∧ change invite = .ok changed ∧ m' = m.setInvite inviteId changed := by
  unfold changeInvite
  cases m.eventInviteById ev inviteId with
  | none => simp
  | some invite =>
    simp only [Option.some.injEq, exists_and_left, exists_eq_left']
    cases hmay : m.mayChange ev invite guid with
    | error e =>
      have hnot : ¬ m.MayChange ev invite guid := fun h => by
        rw [← mayChange_eq_ok (u := ()), hmay] at h
        cases h
      simp [hnot]
    | ok u =>
      have hright := mayChange_eq_ok.mp hmay
      cases hchange : change invite with
      | error e => simp
      | ok changed => simp [hright, eq_comm]

/-- The calendar after a request that is not refused. -/
inductive Change (m : CalendarMgr) : Op → CalendarMgr → Prop
  | refused (op : Op) : Change m op m
  | created {guid guildId newId : Nat} {data : EventData} (invitees : List Invitee) {now : Int}
      {m' : CalendarMgr} (hnew : m.addEvent guid guildId data now = .ok (m', newId))
      (hkind : data.isGuildAnnouncement = false) :
      Change m (.addEvent guid guildId data invitees now) (m'.addInvites newId guid now invitees)
  | announced {guid guildId newId : Nat} {data : EventData} (invitees : List Invitee) {now : Int}
      {m' : CalendarMgr} (hnew : m.addEvent guid guildId data now = .ok (m', newId))
      (hkind : data.isGuildAnnouncement = true) :
      Change m (.addEvent guid guildId data invitees now)
        (m'.addInvite newId guid 0 calendarStatusNotSignedUp calendarRankPlayer now)
  | copied {guid guildId eventId newId : Nat} {newTime now : Int} {ev : CalendarEvent}
      {m' : CalendarMgr} (hev : m.getEventById eventId = some ev)
      (hnew : m.addEvent guid guildId { ev.toEventData with eventTime := newTime } now =
        .ok (m', newId)) (hkind : ev.isGuildAnnouncement = false) :
      Change m (.copyEvent guid guildId eventId newTime now)
        ((run (copyInvite newId guid now) m' ev.invitee.toList).touchEvent newId)
  | copiedAnnouncement {guid guildId eventId newId : Nat} {newTime now : Int} {ev : CalendarEvent}
      {m' : CalendarMgr} (hev : m.getEventById eventId = some ev)
      (hnew : m.addEvent guid guildId { ev.toEventData with eventTime := newTime } now =
        .ok (m', newId)) (hkind : ev.isGuildAnnouncement = true) :
      Change m (.copyEvent guid guildId eventId newTime now)
        ((m'.addInvite newId guid guid calendarStatusConfirmed calendarRankOwner now).touchEvent newId)
  | signedUp {guid guildId eventId : Nat} {tentative : Bool} {now : Int} {ev : CalendarEvent}
      (hev : m.getEventById eventId = some ev)
      (hguild : ¬ (ev.isGuildEvent ∧ ev.guildId ≠ guildId)) :
      Change m (.signup guid guildId eventId tentative now)
        (m.addInvite eventId guid guid
          (if tentative then calendarStatusTentative else calendarStatusSignedUp)
          calendarRankPlayer now)
  | invited {guid guildId eventId : Nat} {invitee : InviteeInfo} {isGuildEvent : Bool} {now : Int}
      {ev : CalendarEvent} (hplayer : isPlayerGuid invitee.guid) (hallied : invitee.allied = true)
      (hignore : invitee.ignoringYou = false) (hev : m.getEventById eventId = some ev)
      (hguild : ¬ (ev.isGuildEvent ∧ ev.guildId = invitee.guildId)) :
      Change m (.eventInvite guid guildId eventId invitee false isGuildEvent now)
        (m.addInvite eventId guid invitee.guid calendarStatusInvited calendarRankPlayer now)
  | updated {guid eventId : Nat} {data : EventData} {ev : CalendarEvent}
      (hev : m.getEventById eventId = some ev)
      (hright : guid = ev.creatorGuid ∨ ∃ updater, m.getInviteByGuid ev guid = some updater ∧
        updater.rank = calendarRankModerator) :
      Change m (.updateEvent guid eventId data)
        (m.setEvent eventId { ev with toEventData := data, saved := false, updated := true })
  | removed {guid eventId : Nat} {ev : CalendarEvent} (hev : m.getEventById eventId = some ev)
      (hright : guid = ev.creatorGuid) :
      Change m (.removeEvent guid eventId) (m.setEvent eventId { ev with deleted := true })
  | responded {guid eventId inviteId status : Nat} {now : Int} {ev : CalendarEvent}
      {invite : CalendarInvite} (htargets : Targets m guid eventId inviteId ev invite) :
      Change m (.rsvp guid eventId inviteId status now)
        (m.setInvite inviteId (answered status now invite))
  | statusSet {guid eventId inviteId status : Nat} {now : Int} {ev : CalendarEvent}
      {invite : CalendarInvite} (htargets : Targets m guid eventId inviteId ev invite) :
      Change m (.status guid eventId inviteId status now)
        (m.setInvite inviteId (answered status now invite))
  | ranked {guid eventId inviteId rank : Nat} {ev : CalendarEvent} {invite : CalendarInvite}
      (htargets : Targets m guid eventId inviteId ev invite) (hrank : rank ≠ calendarRankOwner) :
      Change m (.moderatorStatus guid eventId inviteId rank)
        (m.setInvite inviteId { invite with rank, saved := false, updated := true })
  | inviteRemoved {guid eventId inviteId : Nat} {ev : CalendarEvent} {invite : CalendarInvite}
      (htargets : Targets m guid eventId inviteId ev invite)
      (hcreator : ev.creatorGuid ≠ invite.inviteeGuid) :
      Change m (.removeInvite guid eventId inviteId)
        (m.setInvite inviteId { invite with deleted := true })
  | playerGone (guid : Nat) : Change m (.removePlayerCalendar guid) (m.removePlayerCalendar guid)
  | guildLeft (guid guildId : Nat) :
      Change m (.removeGuildCalendar guid guildId) (m.removeGuildCalendar guid guildId)
  | ticked (delaySec now : Int) : Change m (.update delaySec now) (m.update delaySec now)

section Inversion

variable {guid guildId eventId inviteId : Nat} {now : Int}

theorem change_addEvent {data : EventData} {invitees : List Invitee}
    (h : m.handleCalendarAddEvent guid guildId data invitees now = .ok m') :
    Change m (.addEvent guid guildId data invitees now) m' := by
  unfold handleCalendarAddEvent at h
  cases hnew : m.addEvent guid guildId data now with
  | error e => simp [hnew] at h
  | ok p =>
    cases hkind : data.isGuildAnnouncement with
    | true =>
      simp only [hnew, hkind, if_true, Except.ok.injEq] at h
      exact h ▸ .announced invitees hnew hkind
    | false =>
      simp only [hnew, hkind, Bool.false_eq_true, if_false, Except.ok.injEq] at h
      exact h ▸ .created invitees hnew hkind

theorem change_copyEvent {newTime : Int} (h : m.copyEvent eventId newTime guid guildId now = .ok m') :
    Change m (.copyEvent guid guildId eventId newTime now) m' := by
  unfold copyEvent at h
  cases hev : m.getEventById eventId with
  | none => simp [hev] at h
  | some ev =>
    cases hnew : m.addEvent guid guildId { ev.toEventData with eventTime := newTime } now with
    | error e => simp [hev, hnew] at h
    | ok p =>
      cases hkind : ev.isGuildAnnouncement with
      | true =>
        simp only [hev, hnew, hkind, if_true, Except.ok.injEq] at h
        exact h ▸ .copiedAnnouncement hev hnew hkind
      | false =>
        simp only [hev, hnew, hkind, Bool.false_eq_true, if_false, Except.ok.injEq] at h
        exact h ▸ .copied hev hnew hkind

theorem change_signup {tentative : Bool} (h : m.handleCalendarEventSignup guid guildId eventId tentative now = .ok m') :
    Change m (.signup guid guildId eventId tentative now) m' := by
  unfold handleCalendarEventSignup at h
  cases hev : m.getEventById eventId with
  | none => simp [hev] at h
  | some ev =>
    by_cases hguild : ev.isGuildEvent ∧ ev.guildId ≠ guildId
    · simp [hev, hguild] at h
    · simp only [hev, hguild, if_false, Except.ok.injEq] at h
      exact h ▸ .signedUp hev hguild

theorem change_eventInvite {invitee : InviteeInfo} {isPreInvite isGuildEvent : Bool}
    (h : m.handleCalendarEventInvite guid guildId eventId invitee isPreInvite isGuildEvent now = .ok m') :
    Change m (.eventInvite guid guildId eventId invitee isPreInvite isGuildEvent now) m' := by
  unfold handleCalendarEventInvite at h
  by_cases hplayer : isPlayerGuid invitee.guid
  · cases hallied : invitee.allied with
    | false => simp [hplayer, hallied] at h
    | true =>
      cases hignore : invitee.ignoringYou with
      | true => simp [hplayer, hallied, hignore] at h
      | false =>
        cases isPreInvite with
        | true =>
          by_cases hguild : isGuildEvent ∧ invitee.guildId = guildId
          · simp [hplayer, hallied, hignore, hguild] at h
          · simp [hplayer, hallied, hignore, hguild] at h
            exact h ▸ .refused _
        | false =>
          cases hev : m.getEventById eventId with
          | none => simp [hplayer, hallied, hignore, hev] at h
          | some ev =>
            by_cases hguild : ev.isGuildEvent ∧ ev.guildId = invitee.guildId
            · simp [hplayer, hallied, hignore, hev, hguild] at h
            · simp [hplayer, hallied, hignore, hev, hguild] at h
              exact h ▸ .invited hplayer hallied hignore hev hguild
  · simp [hplayer] at h

theorem change_updateEvent {data : EventData} (h : m.handleCalendarUpdateEvent guid eventId data = .ok m') :
    Change m (.updateEvent guid eventId data) m' := by
  unfold handleCalendarUpdateEvent at h
  cases hev : m.getEventById eventId with
  | none => simp [hev] at h
  | some ev =>
    by_cases hcreator : guid = ev.creatorGuid
    · simp [hev, hcreator] at h
      exact h ▸ .updated hev (.inl hcreator)
    · cases hupdater : m.getInviteByGuid ev guid with
      | none => simp [hev, hcreator, hupdater] at h
      | some updater =>
        by_cases hrank : updater.rank = calendarRankModerator
        · simp [hev, hcreator, hupdater, hrank] at h
          exact h ▸ .updated hev (.inr ⟨updater, hupdater, hrank⟩)
        · simp [hev, hcreator, hupdater, hrank] at h

theorem change_removeEvent (h : m.removeEvent eventId guid = .ok m') : Change m (.removeEvent guid eventId) m' := by
  unfold removeEvent at h
  cases hev : m.getEventById eventId with
  | none => simp [hev] at h
  | some ev =>
    by_cases hcreator : guid = ev.creatorGuid
    · simp [hev, hcreator] at h
      exact h ▸ .removed hev hcreator
    · simp [hev, hcreator] at h

theorem change_rsvp {status : Nat} (h : m.handleCalendarEventRsvp guid eventId inviteId status now = .ok m') :
    Change m (.rsvp guid eventId inviteId status now) m' := by
  unfold handleCalendarEventRsvp at h
  cases hev : m.getEventById eventId with
  | none => simp [hev] at h
  | some ev =>
    by_cases hlocked : status ≠ calendarStatusRemoved ∧ ev.invitesLocked
    · simp [hev, hlocked] at h
    · simp only [hev, hlocked, if_false] at h
      obtain ⟨invite, changed, hinvite, hright, hchange, rfl⟩ := changeInvite_eq_ok.mp h
      cases hchange
      exact .responded ⟨hev, hinvite, hright⟩

theorem change_status {status : Nat} (h : m.handleCalendarEventStatus guid eventId inviteId status now = .ok m') :
    Change m (.status guid eventId inviteId status now) m' := by
  unfold handleCalendarEventStatus at h
  cases hev : m.getEventById eventId with
  | none => simp [hev] at h
  | some ev =>
    simp only [hev] at h
    obtain ⟨invite, changed, hinvite, hright, hchange, rfl⟩ := changeInvite_eq_ok.mp h
    cases hchange
    exact .statusSet ⟨hev, hinvite, hright⟩

theorem change_moderatorStatus {rank : Nat}
    (h : m.handleCalendarEventModeratorStatus guid eventId inviteId rank = .ok m') :
    Change m (.moderatorStatus guid eventId inviteId rank) m' := by
  unfold handleCalendarEventModeratorStatus at h
  cases hev : m.getEventById eventId with
  | none => simp [hev] at h
  | some ev =>
    simp only [hev] at h
    obtain ⟨invite, changed, hinvite, hright, hchange, rfl⟩ := changeInvite_eq_ok.mp h
    by_cases hrank : rank = calendarRankOwner
    · simp [hrank] at hchange
    · simp only [hrank, if_false, Except.ok.injEq] at hchange
      exact hchange ▸ .ranked ⟨hev, hinvite, hright⟩ hrank

theorem change_removeInvite (h : m.removeInvite eventId inviteId guid = .ok m') :
    Change m (.removeInvite guid eventId inviteId) m' := by
  unfold removeInvite at h
  cases hev : m.getEventById eventId with
  | none => simp [hev] at h
  | some ev =>
    simp only [hev] at h
    obtain ⟨invite, changed, hinvite, hright, hchange, rfl⟩ := changeInvite_eq_ok.mp h
    by_cases hcreator : ev.creatorGuid = invite.inviteeGuid
    · simp [hcreator] at hchange
    · simp only [hcreator, if_false, Except.ok.injEq] at hchange
      exact hchange ▸ .inviteRemoved ⟨hev, hinvite, hright⟩ hcreator

end Inversion

theorem change_step (m : CalendarMgr) (op : Op) : Change m op (m.step op) := by
  unfold step
  cases h : m.handle op with
  | error e => exact .refused op
  | ok m' =>
    cases op with
    | addEvent => exact change_addEvent h
    | copyEvent => exact change_copyEvent h
    | signup => exact change_signup h
    | eventInvite => exact change_eventInvite h
    | updateEvent => exact change_updateEvent h
    | removeEvent => exact change_removeEvent h
    | rsvp => exact change_rsvp h
    | status => exact change_status h
    | moderatorStatus => exact change_moderatorStatus h
    | removeInvite => exact change_removeInvite h
    | removePlayerCalendar guid =>
      cases h
      exact .playerGone guid
    | removeGuildCalendar guid guildId =>
      cases h
      exact .guildLeft guid guildId
    | update delaySec now =>
      cases h
      exact .ticked delaySec now

theorem Targets.lookup {guid eventId inviteId : Nat} {ev : CalendarEvent} {invite : CalendarInvite}
    (h : Targets m guid eventId inviteId ev invite) :
    inviteId ∈ ev.invitee ∧ m.inviteStore[inviteId]? = some invite ∧ invite.deleted = false := by
  obtain ⟨hmem, hget⟩ := eventInviteById_eq_some.mp h.listed
  exact ⟨hmem, getInviteById_eq_some.mp hget⟩

theorem Targets.keeps {guid eventId inviteId : Nat} {ev : CalendarEvent}
    {invite changed : CalendarInvite} (h : Targets m guid eventId inviteId ev invite)
    (hevent : changed.eventId = invite.eventId) : Keeps m (m.setInvite inviteId changed) := by
  obtain ⟨-, hlookup, hlive⟩ := h.lookup
  exact keeps_setInvite hlookup hevent fun hd => by simp [hlive] at hd

theorem Sound.change {op : Op} (hm : Sound m) (h : Change m op m') : Sound m' := by
  cases h with
  | refused => exact hm
  | created invitees hnew => exact (hm.addEvent hnew).addInvites invitees
  | announced invitees hnew => exact (hm.addEvent hnew).addInvite
  | copied hev hnew =>
    exact ((hm.addEvent hnew).copyInvites _).keeps (keeps_touchEvent _ _)
  | copiedAnnouncement hev hnew =>
    exact (hm.addEvent hnew).addInvite.keeps (keeps_touchEvent _ _)
  | signedUp => exact hm.addInvite
  | invited => exact hm.addInvite
  | updated hev => exact hm.keeps (keeps_setEvent (getEventById_eq_some.mp hev).1 rfl)
  | removed hev => exact hm.keeps (keeps_setEvent (getEventById_eq_some.mp hev).1 rfl)
  | responded htargets => exact hm.keeps (htargets.keeps rfl)
  | statusSet htargets => exact hm.keeps (htargets.keeps rfl)
  | ranked htargets => exact hm.keeps (htargets.keeps rfl)
  | inviteRemoved htargets => exact hm.keeps (htargets.keeps rfl)
  | playerGone guid =>
    exact hm.keeps (run_rel Keeps.refl (fun _ _ _ => Keeps.trans)
      (keeps_removeCalendarEntry guid _) m _)
  | guildLeft guid guildId =>
    exact hm.keeps (run_rel Keeps.refl (fun _ _ _ => Keeps.trans)
      (keeps_removeCalendarEntry guid _) m _)
  | ticked delaySec now => exact hm.update delaySec now

theorem Sound.step (hm : Sound m) (op : Op) : Sound (m.step op) := hm.change (change_step m op)

theorem sound_run (ops : List Op) : Sound (run CalendarMgr.step {} ops) :=
  sound_empty.run (fun _ op hs => hs.step op) ops

end Mangos.CalendarMgr
