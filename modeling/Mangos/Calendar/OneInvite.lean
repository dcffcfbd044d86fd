import Mangos.Calendar.Steps

/-!
# One invite of a player to an event

The stores agree on the invites whatever the requests.
-/

namespace Mangos.CalendarMgr

open Framework Std

variable {m m' : CalendarMgr}

def NoInvite (m : CalendarMgr) (eventId guid : Nat) : Prop :=
  ∀ (inviteId : Nat) (invite : CalendarInvite), m.getInviteById inviteId = some invite →
    invite.eventId = eventId → invite.inviteeGuid ≠ guid

def AtMostOneInvite (m : CalendarMgr) (eventId guid : Nat) : Prop :=
  ∀ (i j : Nat) (invite invite' : CalendarInvite), m.getInviteById i = some invite →
    m.getInviteById j = some invite' → invite.eventId = eventId → invite'.eventId = eventId →
      invite.inviteeGuid = guid → invite'.inviteeGuid = guid → i = j

def OneInviteEach (m : CalendarMgr) : Prop :=
  ∀ (eventId : Nat) (ev : CalendarEvent), m.getEventById eventId = some ev →
    ∀ guid, isPlayerGuid guid → m.AtMostOneInvite eventId guid

/-- Invites are unique and two-sided: a live invite is listed by its event, which is in the store, live or
flagged until the next update. -/
structure TwoSided (m : CalendarMgr) : Prop where
  unique : m.OneInviteEach
  listed : ∀ (inviteId : Nat) (invite : CalendarInvite), m.getInviteById inviteId = some invite →
    ∃ ev : CalendarEvent, m.eventStore[invite.eventId]? = some ev ∧ inviteId ∈ ev.invitee

/-- The request invites nobody twice: a new event names every player once, and who signs up or is invited has no live
invite to the event. Announcements list no invites. -/
def InvitesOnce (m : CalendarMgr) : Op → Prop
  | .addEvent _ _ data invitees now =>
    data.title ≠ "" → ¬ data.eventTime < now → data.isGuildAnnouncement = false →
      ((invitees.map (·.guid)).filter fun guid => isPlayerGuid guid).Nodup
  | .signup guid guildId eventId _ _ =>
    ∀ ev, m.getEventById eventId = some ev → ¬ (ev.isGuildEvent ∧ ev.guildId ≠ guildId) →
      ev.isGuildAnnouncement = false → m.getInviteByGuid ev guid = none
  | .eventInvite _ _ eventId invitee isPreInvite _ _ =>
    isPreInvite = false → invitee.allied = true → invitee.ignoringYou = false →
      ∀ ev, m.getEventById eventId = some ev → ¬ (ev.isGuildEvent ∧ ev.guildId = invitee.guildId) →
          ev.isGuildAnnouncement = false → m.getInviteByGuid ev invitee.guid = none
  | _ => True

/-- Whatever is live now was live before, with the same invitee. -/
structure Fewer (m m' : CalendarMgr) : Prop where
  events : ∀ (eventId : Nat) (ev' : CalendarEvent), m'.getEventById eventId = some ev' →
    ∃ ev, m.getEventById eventId = some ev
  invites : ∀ (inviteId : Nat) (invite' : CalendarInvite), m'.getInviteById inviteId = some invite' →
    ∃ invite, m.getInviteById inviteId = some invite ∧ invite.eventId = invite'.eventId ∧
      invite.inviteeGuid = invite'.inviteeGuid

theorem Fewer.refl (m : CalendarMgr) : Fewer m m :=
  ⟨fun _ ev h => ⟨ev, h⟩, fun _ invite h => ⟨invite, h, rfl, rfl⟩⟩

theorem Fewer.trans {n : CalendarMgr} (h : Fewer m m') (h' : Fewer m' n) : Fewer m n where
  events eventId ev hev := by
    obtain ⟨ev', hev'⟩ := h'.events eventId ev hev
    exact h.events eventId ev' hev'
  invites inviteId invite hinvite := by
    obtain ⟨invite', hlive, hevent, hguid⟩ := h'.invites inviteId invite hinvite
    obtain ⟨old, hold, hevent', hguid'⟩ := h.invites inviteId invite' hlive
    exact ⟨old, hold, hevent'.trans hevent, hguid'.trans hguid⟩

theorem OneInviteEach.fewer (hone : OneInviteEach m) (h : Fewer m m') : OneInviteEach m' := by
  intro eventId ev' hev' guid hguid i j invite invite' hi hj hevent hevent' hinvitee hinvitee'
  obtain ⟨ev, hev⟩ := h.events eventId ev' hev'
  obtain ⟨a, ha, haevent, haguid⟩ := h.invites i invite hi
  obtain ⟨b, hb, hbevent, hbguid⟩ := h.invites j invite' hj
  exact hone eventId ev hev guid hguid i j a b ha hb (haevent.trans hevent)
    (hbevent.trans hevent') (haguid.trans hinvitee) (hbguid.trans hinvitee')

theorem fewer_setEvent {eventId : Nat} {ev ev' : CalendarEvent}
    (hev : m.getEventById eventId = some ev) : Fewer m (m.setEvent eventId ev') := by
  refine ⟨fun a changed ha => ?_, fun _ invite h => ⟨invite, h, rfl, rfl⟩⟩
  obtain ⟨hlookup, hlive⟩ := getEventById_eq_some.mp ha
  rw [eventStore_setEvent] at hlookup
  split at hlookup
  next heq => exact ⟨ev, heq ▸ hev⟩
  next => exact ⟨changed, getEventById_eq_some.mpr ⟨hlookup, hlive⟩⟩

theorem fewer_setInvite {inviteId : Nat} {invite changed : CalendarInvite}
    (hinvite : m.getInviteById inviteId = some invite) (hevent : invite.eventId = changed.eventId)
    (hguid : invite.inviteeGuid = changed.inviteeGuid) : Fewer m (m.setInvite inviteId changed) := by
  refine ⟨fun _ ev h => ⟨ev, h⟩, fun a other ha => ?_⟩
  obtain ⟨hlookup, hlive⟩ := getInviteById_eq_some.mp ha
  rw [inviteStore_setInvite] at hlookup
  split at hlookup
  next heq =>
    cases hlookup
    exact ⟨invite, heq ▸ hinvite, hevent, hguid⟩
  next => exact ⟨other, getInviteById_eq_some.mpr ⟨hlookup, hlive⟩, rfl, rfl⟩

theorem Flagged.fewer (h : Flagged m m')
    (hevents : ∀ (eventId : Nat) (ev' : CalendarEvent), m'.getEventById eventId = some ev' →
      ∃ ev, m.getEventById eventId = some ev) : Fewer m m' where
  events := hevents
  invites inviteId invite' hinvite' := by
    obtain ⟨hlookup, hlive⟩ := getInviteById_eq_some.mp hinvite'
    obtain ⟨invite, hinvite, heq, hdeleted⟩ := h inviteId invite' hlookup
    have hwas : invite.deleted = false := by
      cases hd : invite.deleted with
      | false => rfl
      | true => rw [hdeleted hd] at hlive; exact hlive
    exact ⟨invite, getInviteById_eq_some.mpr ⟨hinvite, hwas⟩, by rw [heq], by rw [heq]⟩

theorem fewer_run_removeInviteIf (meant : CalendarInvite → Bool) (m : CalendarMgr)
    (ids : List Nat) : Fewer m (run (removeInviteIf meant) m ids) := by
  apply (flagged_run_removeInviteIf meant m ids).fewer
  intro eventId ev hev
  have hsame := (sameRest_run_removeInviteIf meant m ids).eventStore
  exact ⟨ev, by rwa [getEventById, hsame] at hev⟩

theorem fewer_removeInviteByGuid (m : CalendarMgr) (ev : CalendarEvent) (guid : Nat) :
    Fewer m (m.removeInviteByGuid ev guid) := by
  unfold removeInviteByGuid
  split
  · exact fewer_run_removeInviteIf _ m _
  · exact .refl m

theorem fewer_removeCalendarEntry (guid : Nat) (meant : CalendarEvent → Bool) (m : CalendarMgr)
    (eventId : Nat) : Fewer m (removeCalendarEntry guid meant m eventId) := by
  unfold removeCalendarEntry
  cases hev : m.eventStore[eventId]? with
  | none => exact .refl m
  | some ev =>
    simp only
    split
    next hmeant =>
      have hlive : (m.removeInviteByGuid ev guid).getEventById eventId = some ev := by
        rw [getEventById_eq_some, eventStore_removeInviteByGuid]
        exact ⟨hev, by simpa using hmeant.2.2⟩
      exact (fewer_removeInviteByGuid m ev guid).trans (fewer_setEvent hlive)
    next => exact .refl m

theorem fewer_markEvents (delaySec now : Int) (m : CalendarMgr) : Fewer m (m.markEvents delaySec now) := by
  refine ⟨fun a changed ha => ?_, fun _ invite h => ⟨invite, h, rfl, rfl⟩⟩
  obtain ⟨hlookup, hlive⟩ := getEventById_eq_some.mp ha
  rw [markEvents, ExtTreeMap.getElem?_map] at hlookup
  obtain ⟨ev, hev, rfl⟩ := Option.map_eq_some_iff.mp hlookup
  refine ⟨ev, getEventById_eq_some.mpr ⟨hev, ?_⟩⟩
  cases hd : ev.deleted with
  | false => rfl
  | true => simp [markEvent, hd] at hlive

theorem fewer_markInvites (m : CalendarMgr) : Fewer m m.markInvites :=
  (flagged_markInvites m).fewer fun _ ev h => ⟨ev, h⟩

theorem fewer_saveEvent (m : CalendarMgr) (eventId : Nat) : Fewer m (saveEvent m eventId) := by
  apply (flagged_saveEvent m eventId).fewer
  intro a changed ha
  obtain ⟨hlookup, hlive⟩ := getEventById_eq_some.mp ha
  unfold saveEvent at hlookup
  cases hev : m.eventStore[eventId]? with
  | none => exact ⟨changed, by simpa [saveEvent, hev] using ha⟩
  | some ev =>
    simp only [hev] at hlookup
    split at hlookup
    next =>
      rw [eventStore_setEvent] at hlookup
      split at hlookup
      next heq =>
        cases hlookup
        exact ⟨ev, getEventById_eq_some.mpr ⟨heq ▸ hev, hlive⟩⟩
      next => exact ⟨changed, getEventById_eq_some.mpr ⟨hlookup, hlive⟩⟩
    next =>
      split at hlookup
      next =>
        rw [lookup_erase] at hlookup
        split at hlookup
        next => cases hlookup
        next => exact ⟨changed, getEventById_eq_some.mpr ⟨hlookup, hlive⟩⟩
      next => exact ⟨changed, getEventById_eq_some.mpr ⟨hlookup, hlive⟩⟩

theorem eventStore_saveInvite (m : CalendarMgr) (inviteId : Nat) :
    (saveInvite m inviteId).eventStore = m.eventStore := by
  unfold saveInvite
  cases m.inviteStore[inviteId]? with
  | none => rfl
  | some invite =>
    simp only
    split
    · rfl
    · split <;> rfl

theorem fewer_saveInvite (m : CalendarMgr) (inviteId : Nat) : Fewer m (saveInvite m inviteId) := by
  apply (flagged_saveInvite m inviteId).fewer
  intro eventId ev hev
  exact ⟨ev, by rwa [getEventById, eventStore_saveInvite] at hev⟩

theorem fewer_update (delaySec now : Int) (m : CalendarMgr) : Fewer m (m.update delaySec now) := by
  have hmarked := (fewer_markEvents delaySec now m).trans (fewer_markInvites _)
  have hevents : Fewer (m.markEvents delaySec now).markInvites
      (m.markEvents delaySec now).markInvites.saveEvents :=
    run_rel Fewer.refl (fun _ _ _ => Fewer.trans) fewer_saveEvent _ _
  exact (hmarked.trans hevents).trans
    (run_rel Fewer.refl (fun _ _ _ => Fewer.trans) fewer_saveInvite _ _)

theorem fewer_touchEvent (m : CalendarMgr) (eventId : Nat) : Fewer m (m.touchEvent eventId) := by
  refine ⟨fun a changed ha => ?_, fun _ invite h => ⟨invite, h, rfl, rfl⟩⟩
  obtain ⟨hlookup, hlive⟩ := getEventById_eq_some.mp ha
  rw [eventStore_touchEvent] at hlookup
  obtain ⟨ev, hev, rfl⟩ := Option.map_eq_some_iff.mp hlookup
  refine ⟨ev, getEventById_eq_some.mpr ⟨hev, ?_⟩⟩
  split at hlive <;> exact hlive

section NewInvite

variable {eventId senderGuid inviteeGuid status rank : Nat} {now : Int} {ev : CalendarEvent}

theorem getInviteById_addInvite (hm : Sound m) (hev : m.eventStore[eventId]? = some ev) (a : Nat) :
    (m.addInvite eventId senderGuid inviteeGuid status rank now).getInviteById a =
      if m.inviteGuids = a then if ev.isGuildAnnouncement then none
        else some (newInvite ev eventId senderGuid inviteeGuid status rank now) else m.getInviteById a := by
  rw [addInvite_eq hm hev]
  by_cases heq : m.inviteGuids = a
  · have hlookup : ({ (m.setEvent eventId (listing ev m.inviteGuids)).setInvite m.inviteGuids
        (newInvite ev eventId senderGuid inviteeGuid status rank now) with
          inviteGuids := m.inviteGuids + 1 } : CalendarMgr).inviteStore[a]? =
        some (newInvite ev eventId senderGuid inviteeGuid status rank now) := by
      simp [heq]
    rw [getInviteById_of_lookup hlookup, if_pos heq]
    rfl
  · simp [getInviteById, heq]

theorem getEventById_addInvite (hm : Sound m) (hev : m.eventStore[eventId]? = some ev) (a : Nat) :
    (m.addInvite eventId senderGuid inviteeGuid status rank now).getEventById a =
      if eventId = a then (m.getEventById a).map (listing · m.inviteGuids) else m.getEventById a := by
  rw [addInvite_eq hm hev]
  by_cases heq : eventId = a
  · subst heq
    have hlisting : (listing ev m.inviteGuids).deleted = ev.deleted := by
      unfold listing
      split <;> rfl
    cases hd : ev.deleted with
    | true => simp [getEventById, hev, Option.filter_some, hlisting, hd]
    | false => simp [getEventById, hev, Option.filter_some, hlisting, hd]
  · simp [getEventById, heq]

theorem fewer_of_addInvite (hm : Sound m) (hev : m.getEventById eventId = some ev) :
    Fewer (m.addInvite eventId senderGuid inviteeGuid status rank now) m := by
  have hstored := (getEventById_eq_some.mp hev).1
  refine ⟨fun a old ha => ?_, fun a old ha => ?_⟩
  · rw [getEventById_addInvite hm hstored, ha]
    split
    next => exact ⟨_, rfl⟩
    next => exact ⟨old, rfl⟩
  · have hne : m.inviteGuids ≠ a := by
      have := (hm.inviteIds a old (getInviteById_eq_some.mp ha).1).1
      omega
    exact ⟨old, by rw [getInviteById_addInvite hm hstored, if_neg hne, ha], rfl, rfl⟩

theorem getEventById_addInvite_self (hm : Sound m) (hev : m.getEventById eventId = some ev) :
    (m.addInvite eventId senderGuid inviteeGuid status rank now).getEventById eventId =
      some (listing ev m.inviteGuids) := by
  rw [getEventById_addInvite hm (getEventById_eq_some.mp hev).1, if_pos rfl, hev]
  rfl

theorem fewer_of_addInvites (hm : Sound m) (hev : m.getEventById eventId = some ev)
    (invitees : List Invitee) : Fewer (m.addInvites eventId senderGuid now invitees) m := by
  induction invitees generalizing m ev with
  | nil => exact .refl m
  | cons i invitees ih =>
    exact (ih hm.addInvite (getEventById_addInvite_self hm hev)).trans (fewer_of_addInvite hm hev)

theorem fewer_addInvite_announcement (hm : Sound m) (hev : m.eventStore[eventId]? = some ev)
    (hkind : ev.isGuildAnnouncement = true) : Fewer m (m.addInvite eventId senderGuid inviteeGuid status rank now) := by
  refine ⟨fun a changed ha => ?_, fun a invite ha => ?_⟩
  · rw [getEventById_addInvite hm hev] at ha
    split at ha
    next =>
      obtain ⟨old, hold, -⟩ := Option.map_eq_some_iff.mp ha
      exact ⟨old, hold⟩
    next => exact ⟨changed, ha⟩
  · rw [getInviteById_addInvite hm hev] at ha
    split at ha
    next => simp at ha
    next => exact ⟨invite, ha, rfl, rfl⟩

theorem noInvite_addInvite_iff (hm : Sound m) (hev : m.eventStore[eventId]? = some ev)
    (hkind : ev.isGuildAnnouncement = false) {guid : Nat} :
    (m.addInvite eventId senderGuid inviteeGuid status rank now).NoInvite eventId guid ↔
      m.NoInvite eventId guid ∧ inviteeGuid ≠ guid := by
  constructor
  · intro h
    constructor
    · intro a invite ha
      have hne : m.inviteGuids ≠ a := by
        have := (hm.inviteIds a invite (getInviteById_eq_some.mp ha).1).1
        omega
      exact h a invite (by rw [getInviteById_addInvite hm hev, if_neg hne, ha])
    · exact h m.inviteGuids _ (by rw [getInviteById_addInvite hm hev, if_pos rfl, hkind]; rfl) rfl
  · rintro ⟨hnone, hne⟩ a invite ha hevent
    rw [getInviteById_addInvite hm hev] at ha
    split at ha
    next =>
      rw [hkind] at ha
      cases ha
      exact hne
    next => exact hnone a invite ha hevent

theorem oneInviteEach_addInvite_iff (hm : Sound m) (hone : m.OneInviteEach)
    (hev : m.getEventById eventId = some ev) (hkind : ev.isGuildAnnouncement = false) :
    (m.addInvite eventId senderGuid inviteeGuid status rank now).OneInviteEach ↔
      (isPlayerGuid inviteeGuid → m.NoInvite eventId inviteeGuid) := by
  have hstored := (getEventById_eq_some.mp hev).1
  have hnew : (m.addInvite eventId senderGuid inviteeGuid status rank now).getInviteById
      m.inviteGuids = some (newInvite ev eventId senderGuid inviteeGuid status rank now) := by
    rw [getInviteById_addInvite hm hstored, if_pos rfl, hkind]
    rfl
  have hkept : ∀ (a : Nat) (invite : CalendarInvite), m.getInviteById a = some invite →
      m.inviteGuids ≠ a ∧ (m.addInvite eventId senderGuid inviteeGuid status rank now).getInviteById a =
        some invite := by
    intro a invite ha
    have hlt := (hm.inviteIds a invite (getInviteById_eq_some.mp ha).1).1
    have hne : m.inviteGuids ≠ a := by omega
    exact ⟨hne, by rw [getInviteById_addInvite hm hstored, if_neg hne, ha]⟩
  constructor
  · intro h hplayer a invite ha hevent hguid
    obtain ⟨hne, ha'⟩ := hkept a invite ha
    exact hne (h eventId _ (getEventById_addInvite_self hm hev) inviteeGuid hplayer _ _ _ invite hnew
      ha' rfl hevent rfl hguid)
  · intro h a changed ha guid hguid i j invite invite' hi hj hevent hevent' hinvitee hinvitee'
    obtain ⟨old, hold⟩ : ∃ old, m.getEventById a = some old := by
      rw [getEventById_addInvite hm hstored] at ha
      split at ha
      next =>
        obtain ⟨old, hold, -⟩ := Option.map_eq_some_iff.mp ha
        exact ⟨old, hold⟩
      next => exact ⟨changed, ha⟩
    rw [getInviteById_addInvite hm hstored] at hi hj
    split at hi
    next hfirst =>
      split at hj
      next hsecond => exact hfirst.symm.trans hsecond
      next =>
        rw [hkind] at hi
        cases hi
        cases hevent
        cases hinvitee
        exact absurd hinvitee' (h hguid j invite' hj hevent')
    next =>
      split at hj
      next =>
        rw [hkind] at hj
        cases hj
        cases hevent'
        cases hinvitee'
        exact absurd hinvitee (h hguid i invite hi hevent)
      next => exact hone a old hold guid hguid i j invite invite' hi hj hevent hevent' hinvitee hinvitee'

theorem oneInviteEach_addInvites_iff (hm : Sound m) (hone : m.OneInviteEach)
    (hev : m.getEventById eventId = some ev) (hkind : ev.isGuildAnnouncement = false)
    (invitees : List Invitee) : (m.addInvites eventId senderGuid now invitees).OneInviteEach ↔
      ((invitees.map (·.guid)).filter fun guid => isPlayerGuid guid).Nodup ∧
        ∀ i ∈ invitees, isPlayerGuid i.guid → m.NoInvite eventId i.guid := by
  induction invitees generalizing m ev with
  | nil => simpa [addInvites] using hone
  | cons i invitees ih =>
    let next := m.addInvite eventId senderGuid i.guid i.status i.rank now
    have hsound : Sound next := hm.addInvite
    have hlive : next.getEventById eventId = some (listing ev m.inviteGuids) :=
      getEventById_addInvite_self hm hev
    have hkind' : (listing ev m.inviteGuids).isGuildAnnouncement = false := by
      unfold listing
      split <;> exact hkind
    have hfirst : next.OneInviteEach ↔ (isPlayerGuid i.guid → m.NoInvite eventId i.guid) :=
      oneInviteEach_addInvite_iff hm hone hev hkind
    have hnone : ∀ guid, next.NoInvite eventId guid ↔ m.NoInvite eventId guid ∧ i.guid ≠ guid :=
      fun guid => noInvite_addInvite_iff hm (getEventById_eq_some.mp hev).1 hkind
    have hrest : (m.addInvites eventId senderGuid now (i :: invitees)) =
        next.addInvites eventId senderGuid now invitees := rfl
    rw [hrest]
    by_cases hok : next.OneInviteEach
    · rw [ih hsound hok hlive hkind']
      have hi := hfirst.mp hok
      by_cases hplayer : isPlayerGuid i.guid
      · have hmine := hi hplayer
        simp only [List.map_cons, List.filter_cons, hplayer, decide_true, if_true, List.nodup_cons,
          List.mem_filter, List.mem_map, List.forall_mem_cons, hnone, and_true]
        constructor
        · rintro ⟨hnodup, hothers⟩
          refine ⟨⟨?_, hnodup⟩, fun _ => hmine, fun j hj hp => (hothers j hj hp).1⟩
          rintro ⟨j, hj, heq⟩
          exact (hothers j hj (heq ▸ hplayer)).2 heq.symm
        · rintro ⟨⟨hnew, hnodup⟩, -, hothers⟩
          exact ⟨hnodup, fun j hj hp => ⟨hothers j hj hp, fun heq => hnew ⟨j, hj, heq.symm⟩⟩⟩
      · simp only [List.map_cons, List.filter_cons, hplayer, decide_false, Bool.false_eq_true,
          if_false, List.forall_mem_cons, hnone, false_imp_iff, true_and]
        constructor
        · rintro ⟨hnodup, hothers⟩
          exact ⟨hnodup, fun j hj hp => (hothers j hj hp).1⟩
        · rintro ⟨hnodup, hothers⟩
          exact ⟨hnodup, fun j hj hp => ⟨hothers j hj hp, fun heq => hplayer (heq ▸ hp)⟩⟩
    · constructor
      · intro h
        -- later invites do not take the second one away
        exact absurd (h.fewer (fewer_of_addInvites hsound hlive invitees)) hok
      · rintro ⟨-, hall⟩
        exact absurd (hfirst.mpr (hall i List.mem_cons_self)) hok

end NewInvite

section NewEvent

variable {guid guildId newId : Nat} {data : EventData} {now : Int}

theorem getEventById_addEvent (h : m.addEvent guid guildId data now = .ok (m', newId)) :
    ∃ ev, m'.getEventById newId = some ev ∧ ev.toEventData = data := by
  have hstored := eventStore_addEvent h newId
  rw [if_pos rfl] at hstored
  exact ⟨_, getEventById_eq_some.mpr ⟨hstored, rfl⟩, rfl⟩

theorem getInviteById_addEvent (h : m.addEvent guid guildId data now = .ok (m', newId)) (a : Nat) :
    m'.getInviteById a = m.getInviteById a := by
  obtain ⟨-, -, -, rfl⟩ := addEvent_eq_ok.mp h
  rfl

theorem noInvite_addEvent (hm : Sound m) (h : m.addEvent guid guildId data now = .ok (m', newId))
    (other : Nat) : m'.NoInvite newId other := by
  intro a invite ha hevent
  rw [getInviteById_addEvent h] at ha
  have hlt := (hm.inviteIds a invite (getInviteById_eq_some.mp ha).1).2
  obtain ⟨-, -, rfl, -⟩ := addEvent_eq_ok.mp h
  omega

theorem oneInviteEach_addEvent (hm : Sound m) (hone : m.OneInviteEach)
    (h : m.addEvent guid guildId data now = .ok (m', newId)) : m'.OneInviteEach := by
  intro a changed ha other hother
  by_cases heq : newId = a
  · subst heq
    intro i j invite invite' hi _ hevent _ hguid _
    exact absurd hguid (noInvite_addEvent hm h other i invite hi hevent)
  · have hold : m.getEventById a = some changed := by
      obtain ⟨hlookup, hlive⟩ := getEventById_eq_some.mp ha
      rw [eventStore_addEvent h, if_neg heq] at hlookup
      exact getEventById_eq_some.mpr ⟨hlookup, hlive⟩
    intro i j invite invite' hi hj
    rw [getInviteById_addEvent h] at hi hj
    exact hone a changed hold other hother i j invite invite' hi hj

theorem oneInviteEach_created_iff (hm : Sound m) (hone : m.OneInviteEach)
    (h : m.addEvent guid guildId data now = .ok (m', newId))
    (hkind : data.isGuildAnnouncement = false) (invitees : List Invitee) :
    (m'.addInvites newId guid now invitees).OneInviteEach ↔
      ((invitees.map (·.guid)).filter fun guid => isPlayerGuid guid).Nodup := by
  obtain ⟨ev, hev, hdata⟩ := getEventById_addEvent h
  rw [oneInviteEach_addInvites_iff (hm.addEvent h) (oneInviteEach_addEvent hm hone h) hev
    (by rw [hdata, hkind])]
  exact and_iff_left fun i _ _ => noInvite_addEvent hm h i.guid

theorem oneInviteEach_announced (hm : Sound m) (hone : m.OneInviteEach)
    (h : m.addEvent guid guildId data now = .ok (m', newId))
    (hkind : data.isGuildAnnouncement = true) {inviteeGuid status rank : Nat} :
    (m'.addInvite newId guid inviteeGuid status rank now).OneInviteEach := by
  obtain ⟨ev, hev, hdata⟩ := getEventById_addEvent h
  exact (oneInviteEach_addEvent hm hone h).fewer (fewer_addInvite_announcement
    (hm.addEvent h) (getEventById_eq_some.mp hev).1 (by rw [hdata, hkind]))

theorem copiedInvitee_guid (invite : CalendarInvite) : (copiedInvitee guid invite).guid = invite.inviteeGuid := by
  unfold copiedInvitee
  split
  next h => exact h.symm
  next => split <;> rfl

theorem run_copyInvite (hm : Sound m') {ev : CalendarEvent} (hev : m'.eventStore[newId]? = some ev)
    (ids : List Nat) (h : ∀ a ∈ ids, m'.getInviteById a = m.getInviteById a ∧ a < m'.inviteGuids) :
    run (copyInvite newId guid now) m' ids = m'.addInvites newId guid now
        (ids.filterMap fun a => (m.getInviteById a).map (copiedInvitee guid)) := by
  induction ids generalizing m' ev with
  | nil => rfl
  | cons a ids ih =>
    obtain ⟨⟨ha, -⟩, hids⟩ := List.forall_mem_cons.mp h
    cases hinvite : m.getInviteById a with
    | none =>
      have hskip : copyInvite newId guid now m' a = m' := by
        simp [copyInvite, ha, hinvite]
      rw [run_cons, hskip, ih hm hev hids]
      simp [hinvite]
    | some invite =>
      have hadd : copyInvite newId guid now m' a = m'.addInvite newId guid
          (copiedInvitee guid invite).guid (copiedInvitee guid invite).status
          (copiedInvitee guid invite).rank now := by
        simp [copyInvite, ha, hinvite]
      have hstored : (copyInvite newId guid now m' a).eventStore[newId]? =
          some (listing ev m'.inviteGuids) := by
        rw [hadd, addInvite_eq hm hev]
        simp
      have hguids : (copyInvite newId guid now m' a).inviteGuids = m'.inviteGuids + 1 := by
        rw [hadd, addInvite_eq hm hev]
      rw [run_cons, ih (hm.copyInvite a) hstored]
      · simp [hinvite, hadd, addInvites]
      · intro b hb
        obtain ⟨hget, hlt⟩ := hids b hb
        refine ⟨?_, by omega⟩
        rw [hadd, getInviteById_addInvite hm hev, if_neg (by omega), hget]

theorem nodup_copied (hm : Sound m) (hone : m.OneInviteEach) {eventId : Nat} {ev : CalendarEvent}
    (hev : m.getEventById eventId = some ev) :
    (((ev.invitee.toList.filterMap fun a => (m.getInviteById a).map (copiedInvitee guid)).map
      (·.guid)).filter fun guid => isPlayerGuid guid).Nodup := by
  rw [List.map_filterMap, List.filter_filterMap, List.Nodup, List.pairwise_filterMap]
  refine (nodup_toList ev.invitee).imp_of_mem ?_
  intro a b ha hb hne other hother other' hother' heq
  subst heq
  simp only [Option.map_map, Option.filter_eq_some_iff, Option.map_eq_some_iff,
    Function.comp_apply, copiedInvitee_guid, decide_eq_true_eq] at hother hother'
  obtain ⟨⟨invite, hinvite, hguid⟩, hplayer⟩ := hother
  obtain ⟨⟨invite', hinvite', hguid'⟩, -⟩ := hother'
  have hstored := (getEventById_eq_some.mp hev).1
  have hevent := (hm.listed eventId ev hstored a (by simpa using ha)).2 invite
    (getInviteById_eq_some.mp hinvite).1
  have hevent' := (hm.listed eventId ev hstored b (by simpa using hb)).2 invite'
    (getInviteById_eq_some.mp hinvite').1
  exact hne (hone eventId ev hev other hplayer a b invite invite' hinvite hinvite' hevent hevent'
    hguid hguid')

theorem oneInviteEach_copied (hm : Sound m) (hone : m.OneInviteEach) {eventId : Nat}
    {ev : CalendarEvent} (hev : m.getEventById eventId = some ev) {newTime : Int}
    (h : m.addEvent guid guildId { ev.toEventData with eventTime := newTime } now = .ok (m', newId))
    (hkind : ev.isGuildAnnouncement = false) :
    ((run (copyInvite newId guid now) m' ev.invitee.toList).touchEvent newId).OneInviteEach := by
  have hsound := hm.addEvent h
  obtain ⟨new, hnew, -⟩ := getEventById_addEvent h
  have hread : ∀ a ∈ ev.invitee.toList, m'.getInviteById a = m.getInviteById a ∧ a < m'.inviteGuids := by
    intro a ha
    have hlt := (hm.listed eventId ev (getEventById_eq_some.mp hev).1 a (by simpa using ha)).1
    have hguids : m'.inviteGuids = m.inviteGuids := by
      obtain ⟨-, -, -, rfl⟩ := addEvent_eq_ok.mp h
      rfl
    exact ⟨getInviteById_addEvent h a, hguids ▸ hlt⟩
  rw [run_copyInvite hsound (getEventById_eq_some.mp hnew).1 _ hread]
  exact ((oneInviteEach_created_iff hm hone h hkind _).mpr (nodup_copied hm hone hev)).fewer
    (fewer_touchEvent _ _)

end NewEvent

theorem getInviteByGuid_eq_none_iff (hm : Sound m) {eventId guid : Nat} {ev : CalendarEvent}
    (hev : m.getEventById eventId = some ev) :
    m.getInviteByGuid ev guid = none ↔ (isPlayerGuid guid → m.NoInvite eventId guid) := by
  have hstored := (getEventById_eq_some.mp hev).1
  by_cases hplayer : isPlayerGuid guid
  · rw [getInviteByGuid_eq_none hplayer]
    simp only [hplayer, true_imp_iff]
    constructor
    · intro h a invite ha hevent
      obtain ⟨other, hother, hmem⟩ := hm.lists a invite ha
      rw [hevent, hstored] at hother
      cases hother
      exact h a hmem invite ha
    · intro h a hmem invite ha
      exact h a invite ha ((hm.listed eventId ev hstored a hmem).2 invite
        (getInviteById_eq_some.mp ha).1)
  · simp [getInviteByGuid, hplayer]

theorem oneInviteEach_change {op : Op} (hm : Sound m) (hone : m.OneInviteEach)
    (h : Change m op m') (hok : m.InvitesOnce op) : m'.OneInviteEach := by
  cases h with
  | refused => exact hone
  | created invitees hnew hkind =>
    obtain ⟨htitle, htime, -, -⟩ := addEvent_eq_ok.mp hnew
    exact (oneInviteEach_created_iff hm hone hnew hkind invitees).mpr (hok htitle htime hkind)
  | announced invitees hnew hkind => exact oneInviteEach_announced hm hone hnew hkind
  | copied hev hnew hkind => exact oneInviteEach_copied hm hone hev hnew hkind
  | copiedAnnouncement hev hnew hkind =>
    exact (oneInviteEach_announced hm hone hnew hkind).fewer (fewer_touchEvent _ _)
  | @signedUp guid guildId eventId tentative now ev hev hguild =>
    cases hkind : ev.isGuildAnnouncement with
    | true =>
      exact hone.fewer (fewer_addInvite_announcement hm (getEventById_eq_some.mp hev).1 hkind)
    | false =>
      exact (oneInviteEach_addInvite_iff hm hone hev hkind).mpr
        ((getInviteByGuid_eq_none_iff hm hev).mp (hok ev hev hguild hkind))
  | @invited guid guildId eventId invitee isGuildEvent now ev hplayer hallied hignore hev hguild =>
    cases hkind : ev.isGuildAnnouncement with
    | true =>
      exact hone.fewer (fewer_addInvite_announcement hm (getEventById_eq_some.mp hev).1 hkind)
    | false =>
      exact (oneInviteEach_addInvite_iff hm hone hev hkind).mpr
        ((getInviteByGuid_eq_none_iff hm hev).mp (hok rfl hallied hignore ev hev hguild hkind))
  | updated hev => exact hone.fewer (fewer_setEvent hev)
  | removed hev => exact hone.fewer (fewer_setEvent hev)
  | responded h | statusSet h | ranked h | inviteRemoved h =>
    exact hone.fewer (fewer_setInvite (eventInviteById_eq_some.mp h.listed).2 rfl rfl)
  | playerGone guid | guildLeft guid =>
    exact hone.fewer (run_rel Fewer.refl (fun _ _ _ => Fewer.trans)
      (fewer_removeCalendarEntry guid _) m _)
  | ticked delaySec now => exact hone.fewer (fewer_update delaySec now m)

theorem not_oneInviteEach_step {op : Op} (hm : Sound m) (hone : m.OneInviteEach)
    (hnot : ¬ m.InvitesOnce op) : ¬ (m.step op).OneInviteEach := by
  cases op with
  | addEvent guid guildId data invitees now =>
    simp only [InvitesOnce, not_forall] at hnot
    obtain ⟨htitle, htime, hkind, hdup⟩ := hnot
    have hnew : m.addEvent guid guildId data now = .ok (_, m.eventGuids) :=
      addEvent_eq_ok.mpr ⟨htitle, htime, rfl, rfl⟩
    simp only [step, handle, handleCalendarAddEvent, hnew, hkind, Bool.false_eq_true, if_false]
    rwa [oneInviteEach_created_iff hm hone hnew hkind]
  | signup guid guildId eventId tentative now =>
    simp only [InvitesOnce, not_forall] at hnot
    obtain ⟨ev, hev, hguild, hkind, hfound⟩ := hnot
    simp only [step, handle, handleCalendarEventSignup, hev, if_neg hguild]
    rw [oneInviteEach_addInvite_iff hm hone hev hkind]
    rwa [getInviteByGuid_eq_none_iff hm hev] at hfound
  | eventInvite guid guildId eventId invitee isPreInvite isGuildEvent now =>
    simp only [InvitesOnce, not_forall] at hnot
    obtain ⟨hpre, hallied, hignore, ev, hev, hguild, hkind, hfound⟩ := hnot
    have hplayer : isPlayerGuid invitee.guid := by
      by_contra hno
      exact hfound (by simp [getInviteByGuid, hno])
    simp only [step, handle, handleCalendarEventInvite, hplayer, hallied, hignore, hpre, hev,
      not_true_eq_false, Bool.not_true, Bool.not_false, Bool.false_eq_true, if_true, if_false, if_neg hguild]
    rw [oneInviteEach_addInvite_iff hm hone hev hkind]
    rwa [getInviteByGuid_eq_none_iff hm hev] at hfound
  | _ => exact absurd trivial hnot

/-- In every state of a run the invites are unique and two-sided exactly when no request of the run
invites anybody twice. -/
theorem twoSided_iff (ops : List Op) :
    (∀ done, done <+: ops → TwoSided (run step {} done)) ↔ Guarded step InvitesOnce {} ops := by
  have hempty : OneInviteEach {} := fun eventId ev hev => by simp [getEventById] at hev
  exact @run_always_iff _ _ step InvitesOnce (fun m => Sound m ∧ m.OneInviteEach) TwoSided
    (fun m hm => ⟨hm.2, hm.1.lists⟩)
    (fun m op hok hm => ⟨hm.1.step op, oneInviteEach_change hm.1 hm.2 (change_step m op) hok⟩)
    (fun m op hnot hm h => not_oneInviteEach_step hm.1 hm.2 hnot h.unique)
    {} ops ⟨sound_empty, hempty⟩

def signedUpTwice : List Op :=
  [.addEvent 1 0 { title := "raid", eventTime := 60 } [] 0, .signup 2 0 1 false 1, .signup 2 0 1 true 2]

/-- The second sign-up is a second invite. -/
theorem not_always_twoSided : ¬ ∀ ops done, done <+: ops → TwoSided (run step {} done) := by
  intro h
  have hall := h signedUpTwice signedUpTwice List.prefix_rfl
  have hev : ((run step {} signedUpTwice).getEventById 1).isSome = true := by decide +kernel
  have hfirst : (run step {} signedUpTwice).getInviteById 1 =
      some ⟨1, 2, 2, 1, calendarStatusSignedUp, calendarRankPlayer, false, true, false⟩ := by
    decide +kernel
  have hsecond : (run step {} signedUpTwice).getInviteById 2 =
      some ⟨1, 2, 2, 2, calendarStatusTentative, calendarRankPlayer, false, true, false⟩ := by
    decide +kernel
  obtain ⟨ev, hev⟩ := Option.isSome_iff_exists.mp hev
  have hsame := hall.unique 1 ev hev 2 (by decide) 1 2 _ _ hfirst hsecond rfl rfl rfl rfl
  exact absurd hsame (by decide)

end Mangos.CalendarMgr
