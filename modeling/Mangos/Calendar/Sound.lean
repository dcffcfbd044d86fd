import Mangos.Calendar.Calendar
import Mangos.Framework.Sweep

/-!
# What the stores agree on

Whatever the requests, the ids of the stores are older than the generators, the live invites are listed
by the events that they name, and the tables hold no rows but those of stored events and invites.
-/

namespace Mangos.CalendarMgr

open Framework Std

variable {m m' : CalendarMgr}

theorem getEventById_eq_some {eventId : Nat} {ev : CalendarEvent} :
    m.getEventById eventId = some ev ↔ m.eventStore[eventId]? = some ev ∧ ev.deleted = false := by
  simp [getEventById, Option.filter_eq_some_iff]

theorem getInviteById_eq_some {inviteId : Nat} {invite : CalendarInvite} : m.getInviteById inviteId = some invite ↔
      m.inviteStore[inviteId]? = some invite ∧ invite.deleted = false := by
  simp [getInviteById, Option.filter_eq_some_iff]

theorem getInviteById_of_lookup {inviteId : Nat} {invite : CalendarInvite}
    (h : m.inviteStore[inviteId]? = some invite) :
    m.getInviteById inviteId = if invite.deleted then none else some invite := by
  cases hdeleted : invite.deleted with
  | true => simp [getInviteById, h, Option.filter_some, hdeleted]
  | false => simp [getInviteById, h, Option.filter_some, hdeleted]

theorem eventInviteById_eq_some {ev : CalendarEvent} {inviteId : Nat} {invite : CalendarInvite} :
    m.eventInviteById ev inviteId = some invite ↔ inviteId ∈ ev.invitee ∧ m.getInviteById inviteId = some invite := by
  simp [eventInviteById]

theorem getInviteByGuid_eq_some {ev : CalendarEvent} {guid : Nat} {invite : CalendarInvite}
    (h : m.getInviteByGuid ev guid = some invite) : isPlayerGuid guid ∧ invite.inviteeGuid = guid ∧
      ∃ inviteId ∈ ev.invitee, m.getInviteById inviteId = some invite := by
  unfold getInviteByGuid at h
  split at h
  next hplayer =>
    obtain ⟨inviteId, hmem, hfound⟩ := List.exists_of_findSome?_eq_some h
    obtain ⟨hinvite, hguid⟩ := Option.filter_eq_some_iff.mp hfound
    exact ⟨hplayer, by simpa using hguid, inviteId, by simpa using hmem, hinvite⟩
  next => cases h

theorem getInviteByGuid_eq_none {ev : CalendarEvent} {guid : Nat} (hplayer : isPlayerGuid guid) :
    m.getInviteByGuid ev guid = none ↔ ∀ inviteId ∈ ev.invitee, ∀ invite, m.getInviteById inviteId = some invite →
        invite.inviteeGuid ≠ guid := by
  simp [getInviteByGuid, hplayer, Option.filter_eq_none_iff]

section Setters

variable {eventId inviteId a : Nat} {ev : CalendarEvent} {invite : CalendarInvite}

@[simp] theorem eventStore_setEvent :
    (m.setEvent eventId ev).eventStore[a]? = if eventId = a then some ev else m.eventStore[a]? :=
  lookup_insert

@[simp] theorem inviteStore_setEvent : (m.setEvent eventId ev).inviteStore = m.inviteStore := rfl
@[simp] theorem eventGuids_setEvent : (m.setEvent eventId ev).eventGuids = m.eventGuids := rfl
@[simp] theorem inviteGuids_setEvent : (m.setEvent eventId ev).inviteGuids = m.inviteGuids := rfl

@[simp] theorem calendarEvents_setEvent : (m.setEvent eventId ev).calendarEvents = m.calendarEvents := rfl

@[simp] theorem calendarInvites_setEvent : (m.setEvent eventId ev).calendarInvites = m.calendarInvites := rfl

@[simp] theorem inviteStore_setInvite : (m.setInvite inviteId invite).inviteStore[a]? =
      if inviteId = a then some invite else m.inviteStore[a]? :=
  lookup_insert

@[simp] theorem eventStore_setInvite : (m.setInvite inviteId invite).eventStore = m.eventStore := rfl
@[simp] theorem eventGuids_setInvite : (m.setInvite inviteId invite).eventGuids = m.eventGuids := rfl
@[simp] theorem inviteGuids_setInvite : (m.setInvite inviteId invite).inviteGuids = m.inviteGuids := rfl

@[simp] theorem calendarEvents_setInvite : (m.setInvite inviteId invite).calendarEvents = m.calendarEvents := rfl

@[simp] theorem calendarInvites_setInvite : (m.setInvite inviteId invite).calendarInvites = m.calendarInvites := rfl

@[simp] theorem getInviteById_setEvent :
    (m.setEvent eventId ev).getInviteById inviteId = m.getInviteById inviteId := rfl

@[simp] theorem getEventById_setInvite :
    (m.setInvite inviteId invite).getEventById eventId = m.getEventById eventId := rfl

@[simp] theorem eventStore_touchEvent : (m.touchEvent eventId).eventStore[a]? = (m.eventStore[a]?).map fun ev =>
        if eventId = a then { ev with saved := false, updated := true } else ev := by
  simp only [touchEvent, lookup_modify]
  split
  next => rfl
  next => simp

end Setters

theorem nodup_toList (s : ExtTreeSet Nat) : s.toList.Nodup :=
  s.distinct_toList.imp fun h heq => h (by simp [heq])

/-- The invite after its turn, when invites that are `meant` are removed. -/
def struck (meant : CalendarInvite → Bool) (invite : CalendarInvite) : CalendarInvite :=
  if !invite.deleted ∧ meant invite then { invite with deleted := true } else invite

theorem inviteStore_removeInviteIf_self (meant : CalendarInvite → Bool) (m : CalendarMgr)
    (inviteId : Nat) : (removeInviteIf meant m inviteId).inviteStore[inviteId]? =
      (m.inviteStore[inviteId]?).map (struck meant) := by
  cases hinvite : m.inviteStore[inviteId]? with
  | none => simp [removeInviteIf, getInviteById, hinvite]
  | some invite =>
    have hget := getInviteById_of_lookup hinvite
    cases hdeleted : invite.deleted with
    | true => simp [removeInviteIf, hget, struck, hinvite, hdeleted]
    | false =>
      cases hmeant : meant invite with
      | true => simp [removeInviteIf, hget, struck, hdeleted, hmeant]
      | false => simp [removeInviteIf, hget, struck, hinvite, hdeleted, hmeant]

theorem inviteStore_removeInviteIf_of_ne (meant : CalendarInvite → Bool) (m : CalendarMgr)
    {inviteId a : Nat} (h : a ≠ inviteId) : (removeInviteIf meant m inviteId).inviteStore[a]? = m.inviteStore[a]? := by
  unfold removeInviteIf
  cases m.getInviteById inviteId with
  | none => rfl
  | some invite =>
    cases hmeant : meant invite with
    | true => simp [hmeant, Ne.symm h]
    | false => simp [hmeant]

theorem inviteStore_run_removeInviteIf (meant : CalendarInvite → Bool) (m : CalendarMgr)
    (s : ExtTreeSet Nat) (a : Nat) : (run (removeInviteIf meant) m s.toList).inviteStore[a]? =
      (m.inviteStore[a]?).map fun invite => if a ∈ s then struck meant invite else invite := by
  have hother : ∀ (m : CalendarMgr) (k j : Nat), j ≠ k →
      (removeInviteIf meant m k).inviteStore[j]? = m.inviteStore[j]? :=
    fun m k j h => inviteStore_removeInviteIf_of_ne meant m h
  by_cases ha : a ∈ s
  · have hmem : a ∈ s.toList := by simpa using ha
    have hturn := @view_run_of_mem _ _ _ (removeInviteIf meant)
      (fun (m : CalendarMgr) (k : Nat) => m.inviteStore[k]?) (fun _ v => v.map (struck meant))
      (inviteStore_removeInviteIf_self meant) hother _ (nodup_toList s) a hmem m
    simpa [ha] using hturn
  · have hmem : a ∉ s.toList := by simpa using ha
    have hkept := @view_run_of_not_mem _ _ _ (removeInviteIf meant)
      (fun (m : CalendarMgr) (k : Nat) => m.inviteStore[k]?) hother _ a hmem m
    simpa [ha] using hkept

/-- Everything but the invite store. -/
structure SameRest (m m' : CalendarMgr) : Prop where
  eventStore : m'.eventStore = m.eventStore
  eventGuids : m'.eventGuids = m.eventGuids
  inviteGuids : m'.inviteGuids = m.inviteGuids
  calendarEvents : m'.calendarEvents = m.calendarEvents
  calendarInvites : m'.calendarInvites = m.calendarInvites

theorem SameRest.refl (m : CalendarMgr) : SameRest m m := ⟨rfl, rfl, rfl, rfl, rfl⟩

theorem SameRest.trans {n : CalendarMgr} (h : SameRest m m') (h' : SameRest m' n) : SameRest m n :=
  ⟨h'.1.trans h.1, h'.2.trans h.2, h'.3.trans h.3, h'.4.trans h.4, h'.5.trans h.5⟩

theorem sameRest_removeInviteIf (meant : CalendarInvite → Bool) (m : CalendarMgr) (inviteId : Nat) :
    SameRest m (removeInviteIf meant m inviteId) := by
  unfold removeInviteIf
  cases m.getInviteById inviteId with
  | none => exact .refl m
  | some invite =>
    cases hmeant : meant invite with
    | true =>
      simp only [hmeant, if_true]
      exact ⟨rfl, rfl, rfl, rfl, rfl⟩
    | false => simpa [hmeant] using SameRest.refl m

theorem sameRest_run_removeInviteIf (meant : CalendarInvite → Bool) (m : CalendarMgr)
    (ids : List Nat) : SameRest m (run (removeInviteIf meant) m ids) :=
  run_rel SameRest.refl (fun _ _ _ => SameRest.trans) (sameRest_removeInviteIf meant) m ids

/-- Events and invites stay where they are, with their lists, their events and their rows; an invite that
is removed stays so. -/
structure Keeps (m m' : CalendarMgr) : Prop where
  events : ∀ eventId : Nat, (m'.eventStore[eventId]?).map (·.invitee) = (m.eventStore[eventId]?).map (·.invitee)
  invites : ∀ inviteId : Nat, (m'.inviteStore[inviteId]?).map (·.eventId) = (m.inviteStore[inviteId]?).map (·.eventId)
  removed : ∀ inviteId invite', m'.getInviteById inviteId = some invite' →
    ∃ invite, m.getInviteById inviteId = some invite
  eventGuids : m'.eventGuids = m.eventGuids
  inviteGuids : m'.inviteGuids = m.inviteGuids
  calendarEvents : m'.calendarEvents = m.calendarEvents
  calendarInvites : m'.calendarInvites = m.calendarInvites

theorem Keeps.refl (m : CalendarMgr) : Keeps m m :=
  ⟨fun _ => rfl, fun _ => rfl, fun _ invite h => ⟨invite, h⟩, rfl, rfl, rfl, rfl⟩

theorem Keeps.trans {n : CalendarMgr} (h : Keeps m m') (h' : Keeps m' n) : Keeps m n where
  events eventId := (h'.events eventId).trans (h.events eventId)
  invites inviteId := (h'.invites inviteId).trans (h.invites inviteId)
  removed inviteId invite hn := by
    obtain ⟨invite', hm'⟩ := h'.removed inviteId invite hn
    exact h.removed inviteId invite' hm'
  eventGuids := h'.eventGuids.trans h.eventGuids
  inviteGuids := h'.inviteGuids.trans h.inviteGuids
  calendarEvents := h'.calendarEvents.trans h.calendarEvents
  calendarInvites := h'.calendarInvites.trans h.calendarInvites

theorem keeps_setEvent {eventId : Nat} {ev ev' : CalendarEvent}
    (hev : m.eventStore[eventId]? = some ev) (hlist : ev'.invitee = ev.invitee) : Keeps m (m.setEvent eventId ev') := by
  refine ⟨fun a => ?_, fun _ => rfl, fun _ invite h => ⟨invite, h⟩, rfl, rfl, rfl, rfl⟩
  rw [eventStore_setEvent]
  split
  next heq =>
    subst heq
    simp [hev, hlist]
  next => rfl

theorem keeps_setInvite {inviteId : Nat} {invite invite' : CalendarInvite}
    (hinvite : m.inviteStore[inviteId]? = some invite) (hevent : invite'.eventId = invite.eventId)
    (hdeleted : invite.deleted = true → invite'.deleted = true) : Keeps m (m.setInvite inviteId invite') := by
  refine ⟨fun _ => rfl, fun a => ?_, fun a changed h => ?_, rfl, rfl, rfl, rfl⟩
  · rw [inviteStore_setInvite]
    split
    next heq =>
      subst heq
      simp [hinvite, hevent]
    next => rfl
  · obtain ⟨hlookup, hlive⟩ := getInviteById_eq_some.mp h
    rw [inviteStore_setInvite] at hlookup
    split at hlookup
    next heq =>
      subst heq
      cases hlookup
      have hwas : invite.deleted = false := by
        cases hd : invite.deleted with
        | false => rfl
        | true => simp [hdeleted hd] at hlive
      exact ⟨invite, getInviteById_eq_some.mpr ⟨hinvite, hwas⟩⟩
    next => exact ⟨changed, getInviteById_eq_some.mpr ⟨hlookup, hlive⟩⟩

theorem keeps_removeInviteIf (meant : CalendarInvite → Bool) (m : CalendarMgr) (inviteId : Nat) :
    Keeps m (removeInviteIf meant m inviteId) := by
  unfold removeInviteIf
  cases hget : m.getInviteById inviteId with
  | none => exact .refl m
  | some invite =>
    have hlookup := (getInviteById_eq_some.mp hget).1
    cases hmeant : meant invite with
    | true =>
      simp only [hmeant, if_true]
      exact keeps_setInvite hlookup rfl fun _ => rfl
    | false => simpa [hmeant] using Keeps.refl m

theorem keeps_run_removeInviteIf (meant : CalendarInvite → Bool) (m : CalendarMgr)
    (ids : List Nat) : Keeps m (run (removeInviteIf meant) m ids) :=
  run_rel Keeps.refl (fun _ _ _ => Keeps.trans) (keeps_removeInviteIf meant) m ids

theorem eventStore_removeInviteByGuid (m : CalendarMgr) (ev : CalendarEvent) (guid : Nat) :
    (m.removeInviteByGuid ev guid).eventStore = m.eventStore := by
  unfold removeInviteByGuid
  split
  next => exact (sameRest_run_removeInviteIf _ m _).eventStore
  next => rfl

theorem keeps_removeInviteByGuid (m : CalendarMgr) (ev : CalendarEvent) (guid : Nat) :
    Keeps m (m.removeInviteByGuid ev guid) := by
  unfold removeInviteByGuid
  split
  next => exact keeps_run_removeInviteIf _ m _
  next => exact .refl m

theorem keeps_removeCalendarEntry (guid : Nat) (meant : CalendarEvent → Bool) (m : CalendarMgr)
    (eventId : Nat) : Keeps m (removeCalendarEntry guid meant m eventId) := by
  unfold removeCalendarEntry
  cases hev : m.eventStore[eventId]? with
  | none => exact .refl m
  | some ev =>
    simp only
    split
    next =>
      have hsame : (m.removeInviteByGuid ev guid).eventStore[eventId]? = some ev := by
        rw [eventStore_removeInviteByGuid, hev]
      have hlist : { ev with deleted := true }.invitee = ev.invitee := rfl
      exact (keeps_removeInviteByGuid m ev guid).trans (keeps_setEvent hsame hlist)
    next => exact .refl m

theorem keeps_markEvents (delaySec now : Int) (m : CalendarMgr) : Keeps m (m.markEvents delaySec now) := by
  refine ⟨fun a => ?_, fun _ => rfl, fun _ invite h => ⟨invite, h⟩, rfl, rfl, rfl, rfl⟩
  have hlist : ∀ ev : CalendarEvent, (markEvent delaySec now ev).invitee = ev.invitee := by
    intro ev
    unfold markEvent
    split
    · rfl
    · split <;> rfl
  simp [markEvents, ExtTreeMap.getElem?_map, Function.comp_def, hlist]

theorem markInvite_eventId (m : CalendarMgr) (invite : CalendarInvite) :
    (m.markInvite invite).eventId = invite.eventId := by
  unfold markInvite
  split
  · rfl
  · split <;> rfl

theorem markInvite_of_deleted {invite : CalendarInvite} (h : invite.deleted = true) : m.markInvite invite = invite := by
  simp [markInvite, h]

theorem keeps_markInvites (m : CalendarMgr) : Keeps m m.markInvites := by
  refine ⟨fun _ => rfl, fun a => ?_, fun a changed h => ?_, rfl, rfl, rfl, rfl⟩
  · simp [markInvites, ExtTreeMap.getElem?_map, Function.comp_def, markInvite_eventId]
  · obtain ⟨hlookup, hlive⟩ := getInviteById_eq_some.mp h
    rw [markInvites, ExtTreeMap.getElem?_map] at hlookup
    obtain ⟨invite, hinvite, rfl⟩ := Option.map_eq_some_iff.mp hlookup
    refine ⟨invite, getInviteById_eq_some.mpr ⟨hinvite, ?_⟩⟩
    cases hd : invite.deleted with
    | false => rfl
    | true => simp [markInvite_of_deleted hd, hd] at hlive

theorem keeps_touchEvent (m : CalendarMgr) (eventId : Nat) : Keeps m (m.touchEvent eventId) := by
  refine ⟨fun a => ?_, fun _ => rfl, fun _ invite h => ⟨invite, h⟩, rfl, rfl, rfl, rfl⟩
  rw [eventStore_touchEvent, Option.map_map]
  congr 1
  funext ev
  simp only [Function.comp_def]
  split <;> rfl

structure Sound (m : CalendarMgr) : Prop where
  eventGuids_pos : 0 < m.eventGuids
  eventIds : ∀ (eventId : Nat) (ev : CalendarEvent), m.eventStore[eventId]? = some ev →
    0 < eventId ∧ eventId < m.eventGuids
  inviteIds : ∀ (inviteId : Nat) (invite : CalendarInvite),
    m.inviteStore[inviteId]? = some invite → inviteId < m.inviteGuids ∧ invite.eventId < m.eventGuids
  listed : ∀ (eventId : Nat) (ev : CalendarEvent), m.eventStore[eventId]? = some ev →
    ∀ inviteId ∈ ev.invitee, inviteId < m.inviteGuids ∧
      ∀ invite : CalendarInvite, m.inviteStore[inviteId]? = some invite → invite.eventId = eventId
  lists : ∀ (inviteId : Nat) (invite : CalendarInvite), m.getInviteById inviteId = some invite →
    ∃ ev : CalendarEvent, m.eventStore[invite.eventId]? = some ev ∧ inviteId ∈ ev.invitee
  eventRows : ∀ (eventId : Nat) (row : EventRow), m.calendarEvents[eventId]? = some row →
    ∃ ev, m.eventStore[eventId]? = some ev
  inviteRows : ∀ (inviteId : Nat) (row : InviteRow), m.calendarInvites[inviteId]? = some row →
    ∃ invite, m.inviteStore[inviteId]? = some invite ∧ row.eventId = invite.eventId

theorem sound_empty : Sound {} := by
  constructor <;> simp [getInviteById]

theorem Keeps.event {eventId : Nat} {ev' : CalendarEvent} (h : Keeps m m') (hev : m'.eventStore[eventId]? = some ev') :
    ∃ ev, m.eventStore[eventId]? = some ev ∧ ev.invitee = ev'.invitee := by
  have heq := h.events eventId
  rw [hev] at heq
  exact Option.map_eq_some_iff.mp heq.symm

theorem Keeps.event_of {eventId : Nat} {ev : CalendarEvent} (h : Keeps m m') (hev : m.eventStore[eventId]? = some ev) :
    ∃ ev', m'.eventStore[eventId]? = some ev' ∧ ev'.invitee = ev.invitee := by
  have heq := h.events eventId
  rw [hev] at heq
  exact Option.map_eq_some_iff.mp heq

theorem Keeps.invite {inviteId : Nat} {invite' : CalendarInvite} (h : Keeps m m')
    (hinvite : m'.inviteStore[inviteId]? = some invite') :
    ∃ invite, m.inviteStore[inviteId]? = some invite ∧ invite.eventId = invite'.eventId := by
  have heq := h.invites inviteId
  rw [hinvite] at heq
  exact Option.map_eq_some_iff.mp heq.symm

theorem Keeps.invite_of {inviteId : Nat} {invite : CalendarInvite} (h : Keeps m m')
    (hinvite : m.inviteStore[inviteId]? = some invite) :
    ∃ invite', m'.inviteStore[inviteId]? = some invite' ∧ invite'.eventId = invite.eventId := by
  have heq := h.invites inviteId
  rw [hinvite] at heq
  exact Option.map_eq_some_iff.mp heq

theorem Sound.keeps (hm : Sound m) (h : Keeps m m') : Sound m' where
  eventGuids_pos := by
    rw [h.eventGuids]
    exact hm.eventGuids_pos
  eventIds eventId ev' hev' := by
    obtain ⟨ev, hev, -⟩ := h.event hev'
    rw [h.eventGuids]
    exact hm.eventIds eventId ev hev
  inviteIds inviteId invite' hinvite' := by
    obtain ⟨invite, hinvite, hevent⟩ := h.invite hinvite'
    rw [h.inviteGuids, h.eventGuids, ← hevent]
    exact hm.inviteIds inviteId invite hinvite
  listed eventId ev' hev' inviteId hmem := by
    obtain ⟨ev, hev, hlist⟩ := h.event hev'
    obtain ⟨hold, hevent⟩ := hm.listed eventId ev hev inviteId (hlist ▸ hmem)
    refine ⟨h.inviteGuids ▸ hold, fun invite' hinvite' => ?_⟩
    obtain ⟨invite, hinvite, heq⟩ := h.invite hinvite'
    rw [← heq]
    exact hevent invite hinvite
  lists inviteId invite' hinvite' := by
    obtain ⟨invite, hlive⟩ := h.removed inviteId invite' hinvite'
    obtain ⟨ev, hev, hmem⟩ := hm.lists inviteId invite hlive
    obtain ⟨old, hold, heq⟩ := h.invite (getInviteById_eq_some.mp hinvite').1
    rw [(getInviteById_eq_some.mp hlive).1] at hold
    cases hold
    obtain ⟨ev', hev', hlist⟩ := h.event_of hev
    exact ⟨ev', heq ▸ hev', hlist ▸ hmem⟩
  eventRows eventId row hrow := by
    rw [h.calendarEvents] at hrow
    obtain ⟨ev, hev⟩ := hm.eventRows eventId row hrow
    obtain ⟨ev', hev', -⟩ := h.event_of hev
    exact ⟨ev', hev'⟩
  inviteRows inviteId row hrow := by
    rw [h.calendarInvites] at hrow
    obtain ⟨invite, hinvite, hevent⟩ := hm.inviteRows inviteId row hrow
    obtain ⟨invite', hinvite', heq⟩ := h.invite_of hinvite
    exact ⟨invite', hinvite', hevent.trans heq.symm⟩

theorem addEvent_eq_ok {guid guildId newId : Nat} {data : EventData} {now : Int} :
    m.addEvent guid guildId data now = .ok (m', newId) ↔
      data.title ≠ "" ∧ ¬ data.eventTime < now ∧ newId = m.eventGuids ∧ m' = { m.setEvent m.eventGuids { data with
                  creatorGuid := guid
                  guildId := if data.isGuildEvent ∨ data.flags ≠ 0 then guildId else 0 } with
               eventGuids := m.eventGuids + 1 } := by
  unfold addEvent
  split
  next htitle => simp [htitle]
  next htitle =>
    split
    next htime => simp [htime]
    next htime =>
      simp only [Except.ok.injEq, Prod.mk.injEq, ne_eq, htitle, htime, not_false_eq_true, true_and]
      constructor
      · rintro ⟨rfl, rfl⟩
        exact ⟨rfl, rfl⟩
      · rintro ⟨rfl, rfl⟩
        exact ⟨rfl, rfl⟩

theorem eventStore_addEvent {guid guildId newId : Nat} {data : EventData} {now : Int}
    (h : m.addEvent guid guildId data now = .ok (m', newId)) (a : Nat) : m'.eventStore[a]? =
      if newId = a then
        some { data with
          creatorGuid := guid
          guildId := if data.isGuildEvent ∨ data.flags ≠ 0 then guildId else 0 }
      else m.eventStore[a]? := by
  obtain ⟨-, -, rfl, rfl⟩ := addEvent_eq_ok.mp h
  exact eventStore_setEvent

theorem Sound.addEvent {guid guildId newId : Nat} {data : EventData} {now : Int} (hm : Sound m)
    (h : m.addEvent guid guildId data now = .ok (m', newId)) : Sound m' := by
  obtain ⟨-, -, rfl, rfl⟩ := addEvent_eq_ok.mp h
  have hold : ∀ (eventId : Nat) (ev : CalendarEvent), m.eventStore[eventId]? = some ev →
      m.eventGuids ≠ eventId := by
    intro eventId ev hev
    have := (hm.eventIds eventId ev hev).2
    omega
  refine ⟨Nat.succ_pos _, ?_, ?_, ?_, ?_, ?_, hm.inviteRows⟩
  · intro eventId ev hev
    rw [eventStore_setEvent] at hev
    split at hev
    next heq =>
      subst heq
      exact ⟨hm.eventGuids_pos, Nat.lt_succ_self _⟩
    next =>
      obtain ⟨hpos, hlt⟩ := hm.eventIds eventId ev hev
      exact ⟨hpos, Nat.lt_succ_of_lt hlt⟩
  · intro inviteId invite hinvite
    obtain ⟨hid, hevent⟩ := hm.inviteIds inviteId invite hinvite
    exact ⟨hid, Nat.lt_succ_of_lt hevent⟩
  · intro eventId ev hev inviteId hmem
    rw [eventStore_setEvent] at hev
    split at hev
    next =>
      cases hev
      simp at hmem
    next => exact hm.listed eventId ev hev inviteId hmem
  · intro inviteId invite hinvite
    obtain ⟨ev, hev, hmem⟩ := hm.lists inviteId invite hinvite
    exact ⟨ev, by rw [eventStore_setEvent, if_neg (hold _ ev hev), hev], hmem⟩
  · intro eventId row hrow
    obtain ⟨ev, hev⟩ := hm.eventRows eventId row hrow
    exact ⟨ev, by rw [eventStore_setEvent, if_neg (hold _ ev hev), hev]⟩

/-- The invite that `AddInvite` stores. -/
def newInvite (ev : CalendarEvent) (eventId senderGuid inviteeGuid status rank : Nat)
    (statusTime : Int) : CalendarInvite :=
  { eventId, inviteeGuid, senderGuid, lastUpdateTime := statusTime, status, rank
    updated := !ev.isGuildAnnouncement, deleted := ev.isGuildAnnouncement }

def listing (ev : CalendarEvent) (inviteId : Nat) : CalendarEvent :=
  if ev.isGuildAnnouncement then ev else { ev with invitee := ev.invitee.insert inviteId }

theorem addInvite_eq {eventId senderGuid inviteeGuid status rank : Nat} {statusTime : Int}
    {ev : CalendarEvent} (hm : Sound m) (hev : m.eventStore[eventId]? = some ev) :
    m.addInvite eventId senderGuid inviteeGuid status rank statusTime =
      { (m.setEvent eventId (listing ev m.inviteGuids)).setInvite m.inviteGuids
          (newInvite ev eventId senderGuid inviteeGuid status rank statusTime) with
        inviteGuids := m.inviteGuids + 1 } := by
  have hfresh : m.inviteGuids ∉ ev.invitee := fun hmem =>
    absurd (hm.listed eventId ev hev _ hmem).1 (lt_irrefl _)
  cases hkind : ev.isGuildAnnouncement with
  | true =>
    have hsame : m.eventStore.insert eventId ev = m.eventStore := by
      apply ExtTreeMap.ext_getElem?
      intro a
      rw [lookup_insert]
      split
      next heq => rw [← heq, hev]
      next => rfl
    simp [addInvite, hev, hkind, newInvite, listing, setEvent, setInvite, hsame]
  | false =>
    simp [addInvite, hev, hkind, newInvite, listing, setEvent, setInvite, CalendarEvent.addInvite, hfresh]

theorem mem_listing {ev : CalendarEvent} {inviteId a : Nat} : a ∈ (listing ev inviteId).invitee ↔
      a ∈ ev.invitee ∨ (ev.isGuildAnnouncement = false ∧ a = inviteId) := by
  unfold listing
  cases ev.isGuildAnnouncement with
  | true => simp
  | false =>
    rw [or_comm, @eq_comm _ a]
    simp

theorem Sound.addInvite {eventId senderGuid inviteeGuid status rank : Nat} {statusTime : Int}
    (hm : Sound m) : Sound (m.addInvite eventId senderGuid inviteeGuid status rank statusTime) := by
  cases hev : m.eventStore[eventId]? with
  | none => simpa [CalendarMgr.addInvite, hev] using hm
  | some ev =>
    rw [addInvite_eq hm hev]
    refine ⟨hm.eventGuids_pos, ?_, ?_, ?_, ?_, ?_, ?_⟩
    · intro a changed ha
      simp only [eventStore_setInvite, eventStore_setEvent] at ha
      split at ha
      next heq => exact heq ▸ hm.eventIds eventId ev hev
      next => exact hm.eventIds a changed ha
    · intro a invite ha
      simp only [inviteStore_setInvite, inviteStore_setEvent] at ha
      split at ha
      next heq =>
        cases ha
        exact ⟨heq ▸ Nat.lt_succ_self _, (hm.eventIds eventId ev hev).2⟩
      next =>
        obtain ⟨hid, hevent⟩ := hm.inviteIds a invite ha
        exact ⟨Nat.lt_succ_of_lt hid, hevent⟩
    · intro a changed ha inviteId hmem
      simp only [eventStore_setInvite, eventStore_setEvent] at ha
      have hcase : (∃ old : CalendarEvent, m.eventStore[a]? = some old ∧ inviteId ∈ old.invitee) ∨
          (a = eventId ∧ inviteId = m.inviteGuids) := by
        split at ha
        next heq =>
          cases ha
          rcases mem_listing.mp hmem with hin | hnew
          · exact .inl ⟨ev, heq ▸ hev, hin⟩
          · exact .inr ⟨heq.symm, hnew.2⟩
        next => exact .inl ⟨changed, ha, hmem⟩
      rcases hcase with ⟨old, hold, hin⟩ | ⟨rfl, rfl⟩
      · obtain ⟨hlt, hevent⟩ := hm.listed a old hold inviteId hin
        refine ⟨Nat.lt_succ_of_lt hlt, fun invite hinvite => ?_⟩
        simp only [inviteStore_setInvite, inviteStore_setEvent] at hinvite
        rw [if_neg (by omega)] at hinvite
        exact hevent invite hinvite
      · refine ⟨Nat.lt_succ_self _, fun invite hinvite => ?_⟩
        simp only [inviteStore_setInvite, if_true] at hinvite
        cases hinvite
        rfl
    · intro a invite ha
      obtain ⟨hlookup, hlive⟩ := getInviteById_eq_some.mp ha
      simp only [inviteStore_setInvite, inviteStore_setEvent] at hlookup
      split at hlookup
      next heq =>
        cases hlookup
        refine ⟨listing ev m.inviteGuids, by simp [newInvite], mem_listing.mpr (.inr ⟨hlive, heq.symm⟩)⟩
      next =>
        obtain ⟨old, hold, hmem⟩ := hm.lists a invite (getInviteById_eq_some.mpr ⟨hlookup, hlive⟩)
        by_cases heq : eventId = invite.eventId
        · rw [← heq, hev] at hold
          cases hold
          exact ⟨listing ev m.inviteGuids, by simp [← heq], mem_listing.mpr (.inl hmem)⟩
        · exact ⟨old, by simp [heq, hold], hmem⟩
    · intro a row hrow
      obtain ⟨old, hold⟩ := hm.eventRows a row hrow
      by_cases heq : eventId = a
      · exact ⟨listing ev m.inviteGuids, by simp [heq]⟩
      · exact ⟨old, by simp [heq, hold]⟩
    · intro a row hrow
      obtain ⟨invite, hinvite, hevent⟩ := hm.inviteRows a row hrow
      have hne : m.inviteGuids ≠ a := by
        have := (hm.inviteIds a invite hinvite).1
        omega
      exact ⟨invite, by simp [hne, hinvite], hevent⟩

theorem Sound.run {Visit : Type} {visit : CalendarMgr → Visit → CalendarMgr}
    (h : ∀ m k, Sound m → Sound (visit m k)) (hm : Sound m) (visits : List Visit) : Sound (run visit m visits) :=
  run_invariant (fun s k _ hs => h s k hs) (guarded_of_forall (fun _ _ => trivial) m visits) hm

theorem Sound.addInvites {eventId senderGuid : Nat} {now : Int} (hm : Sound m)
    (invitees : List Invitee) : Sound (m.addInvites eventId senderGuid now invitees) :=
  hm.run (fun _ _ hs => hs.addInvite) invitees

theorem Sound.copyInvite {newId guid : Nat} {now : Int} (hm : Sound m) (inviteId : Nat) :
    Sound (CalendarMgr.copyInvite newId guid now m inviteId) := by
  unfold CalendarMgr.copyInvite
  cases m.getInviteById inviteId with
  | none => exact hm
  | some invite => exact hm.addInvite

theorem Sound.copyInvites {newId guid : Nat} {now : Int} (hm : Sound m) (inviteIds : List Nat) :
    Sound (Framework.run (CalendarMgr.copyInvite newId guid now) m inviteIds) :=
  hm.run (fun _ k hs => hs.copyInvite k) inviteIds

end Mangos.CalendarMgr
