import Mangos.Framework.OrdMap
import Mangos.Framework.Run
import Std.Data.ExtTreeSet
import Mathlib.Algebra.Group.Nat.Defs

/-!
# The calendar

Events and invites in their two stores, the requests of the players, the clean-up that `Update` makes of
both stores, and the two tables of the database.
-/

namespace Mangos

open Framework Std

def calendarFlagInvitesLocked : BitVec 32 := 0x010
def calendarFlagGuildAnnouncement : BitVec 32 := 0x040
def calendarFlagGuildEvent : BitVec 32 := 0x400

def calendarStatusInvited : Nat := 0
def calendarStatusConfirmed : Nat := 3
def calendarStatusSignedUp : Nat := 6
def calendarStatusNotSignedUp : Nat := 7
def calendarStatusTentative : Nat := 8
def calendarStatusRemoved : Nat := 9

def calendarRankPlayer : Nat := 0
def calendarRankModerator : Nat := 1
def calendarRankOwner : Nat := 2

/-- `ObjectGuid::IsPlayer`: the high part of a player's guid is 0. -/
def isPlayerGuid (guid : Nat) : Prop := guid ≠ 0 ∧ guid / 2 ^ 52 = 0

instance (guid : Nat) : Decidable (isPlayerGuid guid) :=
  inferInstanceAs (Decidable (guid ≠ 0 ∧ guid / 2 ^ 52 = 0))

/-- The answers of `SendCalendarCommandResult`. -/
inductive CalendarError where
  | eventInvalid
  | needsTitle
  | invalidDate
  | permissions
  | notInvited
  | noInvite
  | deleteCreatorFailed
  | internal
  | guildPlayerNotInGuild
  | playerNotFound
  | notAllied
  | ignoringYou
  | noGuildInvites
  | eventLocked
  deriving DecidableEq, Repr

/-- What a player writes into an event. -/
structure EventData where
  title : String
  description : String := ""
  type : Nat := 0
  dungeonId : Int := -1
  eventTime : Int
  unknownTime : Int := 0
  flags : BitVec 32 := 0
  deriving DecidableEq, Repr

structure CalendarEvent extends EventData where
  creatorGuid : Nat
  guildId : Nat
  invitee : ExtTreeSet Nat := ∅
  saved : Bool := false
  updated : Bool := false
  deleted : Bool := false

structure CalendarInvite where
  eventId : Nat
  inviteeGuid : Nat
  senderGuid : Nat
  lastUpdateTime : Int
  status : Nat
  rank : Nat
  saved : Bool := false
  updated : Bool := false
  deleted : Bool := false
  deriving DecidableEq, Repr

/-- A row of `calendar_events`. -/
structure EventRow where
  creatorGuid : Nat
  guildId : Nat
  type : Nat
  flags : BitVec 32
  dungeonId : Int
  eventTime : Int
  title : String
  description : String
  deriving DecidableEq, Repr

/-- A row of `calendar_invites`. -/
structure InviteRow where
  eventId : Nat
  inviteeGuid : Nat
  senderGuid : Nat
  status : Nat
  lastUpdateTime : Int
  rank : Nat
  deriving DecidableEq, Repr

namespace EventData

def isGuildEvent (d : EventData) : Bool := d.flags &&& calendarFlagGuildEvent ≠ 0
def isGuildAnnouncement (d : EventData) : Bool := d.flags &&& calendarFlagGuildAnnouncement ≠ 0
def invitesLocked (d : EventData) : Bool := d.flags &&& calendarFlagInvitesLocked ≠ 0

end EventData

/-- `CalendarEvent::AddInvite` of an invite by its id; `none` is its answer `false`. -/
def CalendarEvent.addInvite (ev : CalendarEvent) (inviteId : Nat) : Option CalendarEvent :=
  if inviteId ∈ ev.invitee then none else some { ev with invitee := ev.invitee.insert inviteId }

/-- The stores, the guid generators, and the two tables. -/
structure CalendarMgr where
  eventStore : ExtTreeMap Nat CalendarEvent := ∅
  inviteStore : ExtTreeMap Nat CalendarInvite := ∅
  eventGuids : Nat := 1
  inviteGuids : Nat := 1
  calendarEvents : ExtTreeMap Nat EventRow := ∅
  calendarInvites : ExtTreeMap Nat InviteRow := ∅

namespace CalendarMgr

variable (m : CalendarMgr)

def getEventById (eventId : Nat) : Option CalendarEvent :=
  m.eventStore[eventId]?.filter (!·.deleted)

def getInviteById (inviteId : Nat) : Option CalendarInvite :=
  m.inviteStore[inviteId]?.filter (!·.deleted)

/-- `CalendarEvent::GetInviteById`. -/
def eventInviteById (ev : CalendarEvent) (inviteId : Nat) : Option CalendarInvite :=
  if inviteId ∈ ev.invitee then m.getInviteById inviteId else none

/-- `CalendarEvent::GetInviteByGuid`: the first live invite of the player in the order of the set. -/
def getInviteByGuid (ev : CalendarEvent) (guid : Nat) : Option CalendarInvite :=
  if isPlayerGuid guid then
    ev.invitee.toList.findSome? fun id => (m.getInviteById id).filter (·.inviteeGuid = guid)
  else none

def setEvent (eventId : Nat) (ev : CalendarEvent) : CalendarMgr :=
  { m with eventStore := m.eventStore.insert eventId ev }

def setInvite (inviteId : Nat) (invite : CalendarInvite) : CalendarMgr :=
  { m with inviteStore := m.inviteStore.insert inviteId invite }

/-- `CalendarEvent::RemoveInviteById(inviteId)`, when the invite is one that is meant. -/
def removeInviteIf (meant : CalendarInvite → Bool) (m : CalendarMgr) (inviteId : Nat) :
    CalendarMgr :=
  match m.getInviteById inviteId with
  | none => m
  | some invite =>
    if meant invite then m.setInvite inviteId { invite with deleted := true } else m

def removeInviteByGuid (ev : CalendarEvent) (guid : Nat) : CalendarMgr :=
  if isPlayerGuid guid then
    run (removeInviteIf (·.inviteeGuid = guid)) m ev.invitee.toList
  else m

/-- `CalendarEvent::RemoveAllInvite`, which the destructor of an event calls. -/
def removeAllInvite (ev : CalendarEvent) : CalendarMgr :=
  run (removeInviteIf fun _ => true) m ev.invitee.toList

/-- The new event with its id; `guildId` is the guild of the player. -/
def addEvent (guid guildId : Nat) (data : EventData) (now : Int) :
    Except CalendarError (CalendarMgr × Nat) :=
  if data.title = "" then .error .needsTitle
  else if data.eventTime < now then .error .invalidDate
  else
    -- the source writes `flags && CALENDAR_FLAG_GUILD_ANNOUNCEMENT` for the second test
    let guild := if data.isGuildEvent ∨ data.flags ≠ 0 then guildId else 0
    let ev : CalendarEvent := { data with creatorGuid := guid, guildId := guild }
    .ok ({ m.setEvent m.eventGuids ev with eventGuids := m.eventGuids + 1 }, m.eventGuids)

def addInvite (eventId senderGuid inviteeGuid status rank : Nat) (statusTime : Int) :
    CalendarMgr :=
  match m.eventStore[eventId]? with
  | none => m
  | some ev =>
    let invite : CalendarInvite :=
      { eventId, inviteeGuid, senderGuid, lastUpdateTime := statusTime, status, rank }
    let next : CalendarMgr := { m with inviteGuids := m.inviteGuids + 1 }
    if ev.isGuildAnnouncement then
      next.setInvite m.inviteGuids { invite with deleted := true }
    else
      match ev.addInvite m.inviteGuids with
      | none => next.setInvite m.inviteGuids { invite with deleted := true }
      | some ev =>
        (next.setEvent eventId ev).setInvite m.inviteGuids
          { invite with saved := false, updated := true }

/-- An invitee as the packet of a new event names him. -/
structure Invitee where
  guid : Nat
  status : Nat
  rank : Nat

def addInvites (eventId senderGuid : Nat) (now : Int) (invitees : List Invitee) : CalendarMgr :=
  run (fun m (i : Invitee) => m.addInvite eventId senderGuid i.guid i.status i.rank now) m invitees

def handleCalendarAddEvent (guid guildId : Nat) (data : EventData) (invitees : List Invitee)
    (now : Int) : Except CalendarError CalendarMgr :=
  match m.addEvent guid guildId data now with
  | .error e => .error e
  | .ok (m, eventId) =>
    if data.isGuildAnnouncement then
      .ok (m.addInvite eventId guid 0 calendarStatusNotSignedUp calendarRankPlayer now)
    else .ok (m.addInvites eventId guid now invitees)

/-- The invitee of a copied event for an invite of the event that `guid` copies. -/
def copiedInvitee (guid : Nat) (invite : CalendarInvite) : Invitee :=
  if invite.inviteeGuid = guid then ⟨guid, calendarStatusConfirmed, calendarRankOwner⟩
  else if invite.rank = calendarRankModerator then
    ⟨invite.inviteeGuid, calendarStatusInvited, calendarRankModerator⟩
  else ⟨invite.inviteeGuid, calendarStatusInvited, calendarRankPlayer⟩

/-- One turn of the loop of `CopyEvent`, for one invite id of the copied event. -/
def copyInvite (newId guid : Nat) (now : Int) (m : CalendarMgr) (inviteId : Nat) : CalendarMgr :=
  match m.getInviteById inviteId with
  | none => m
  | some invite =>
    let i := copiedInvitee guid invite
    m.addInvite newId guid i.guid i.status i.rank now

def touchEvent (eventId : Nat) : CalendarMgr :=
  { m with
    eventStore := m.eventStore.modify eventId fun ev => { ev with saved := false, updated := true } }

def copyEvent (eventId : Nat) (newTime : Int) (guid guildId : Nat) (now : Int) :
    Except CalendarError CalendarMgr :=
  match m.getEventById eventId with
  | none => .error .eventInvalid
  | some ev =>
    match m.addEvent guid guildId { ev.toEventData with eventTime := newTime } now with
    -- `AddEvent` has sent its own answer before
    | .error _ => .error .internal
    | .ok (m, newId) =>
      let m :=
        if ev.isGuildAnnouncement then
          m.addInvite newId guid guid calendarStatusConfirmed calendarRankOwner now
        else run (copyInvite newId guid now) m ev.invitee.toList
      .ok (m.touchEvent newId)

def handleCalendarEventSignup (guid guildId eventId : Nat) (tentative : Bool) (now : Int) :
    Except CalendarError CalendarMgr :=
  match m.getEventById eventId with
  | none => .error .eventInvalid
  | some ev =>
    if ev.isGuildEvent ∧ ev.guildId ≠ guildId then .error .guildPlayerNotInGuild
    else
      let status := if tentative then calendarStatusTentative else calendarStatusSignedUp
      .ok (m.addInvite eventId guid guid status calendarRankPlayer now)

/-- What the handler of an invite finds out about the invitee by his name; the guid is empty when
nobody has the name. -/
structure InviteeInfo where
  guid : Nat
  allied : Bool
  guildId : Nat
  ignoringYou : Bool

/-- `allied` stands for the comparison of the teams and for the configured exception from it. -/
def handleCalendarEventInvite (guid guildId eventId : Nat) (invitee : InviteeInfo)
    (isPreInvite isGuildEvent : Bool) (now : Int) : Except CalendarError CalendarMgr :=
  if ¬ isPlayerGuid invitee.guid then .error .playerNotFound
  else if !invitee.allied then .error .notAllied
  else if invitee.ignoringYou then .error .ignoringYou
  else if !isPreInvite then
    match m.getEventById eventId with
    | none => .error .eventInvalid
    | some ev =>
      if ev.isGuildEvent ∧ ev.guildId = invitee.guildId then .error .noGuildInvites
      else .ok (m.addInvite eventId guid invitee.guid calendarStatusInvited calendarRankPlayer now)
  else if isGuildEvent ∧ invitee.guildId = guildId then .error .noGuildInvites
  -- the invite that is sent back to the client is not stored
  else .ok m

def handleCalendarUpdateEvent (guid eventId : Nat) (data : EventData) :
    Except CalendarError CalendarMgr :=
  match m.getEventById eventId with
  | none => .error .eventInvalid
  | some ev =>
    let change : Except CalendarError CalendarMgr :=
      .ok (m.setEvent eventId { ev with toEventData := data, saved := false, updated := true })
    if guid ≠ ev.creatorGuid then
      match m.getInviteByGuid ev guid with
      | none => .error .notInvited
      | some updater =>
        if updater.rank ≠ calendarRankModerator then .error .permissions else change
    else change

def removeEvent (eventId remover : Nat) : Except CalendarError CalendarMgr :=
  match m.getEventById eventId with
  | none => .error .eventInvalid
  | some ev =>
    if remover ≠ ev.creatorGuid then .error .permissions
    else .ok (m.setEvent eventId { ev with deleted := true })

def mayChange (ev : CalendarEvent) (invite : CalendarInvite) (guid : Nat) :
    Except CalendarError Unit :=
  if invite.inviteeGuid ≠ guid then
    match m.getInviteByGuid ev guid with
    | none => .error .notInvited
    | some updater =>
      if updater.rank ≠ calendarRankModerator ∧ updater.rank ≠ calendarRankOwner then
        .error .permissions
      else .ok ()
  else .ok ()

/-- The handlers, once the event is found: the invite is looked up, the player's right is tested, and the changed
invite is stored unless the change is refused. -/
def changeInvite (ev : CalendarEvent) (guid inviteId : Nat)
    (change : CalendarInvite → Except CalendarError CalendarInvite) :
    Except CalendarError CalendarMgr :=
  match m.eventInviteById ev inviteId with
  | none => .error .noInvite
  | some invite =>
    match m.mayChange ev invite guid with
    | .error e => .error e
    | .ok () =>
      match change invite with
      | .error e => .error e
      | .ok invite => .ok (m.setInvite inviteId invite)

def answered (status : Nat) (now : Int) (invite : CalendarInvite) : CalendarInvite :=
  { invite with status, lastUpdateTime := now, saved := false, updated := true }

def handleCalendarEventRsvp (guid eventId inviteId status : Nat) (now : Int) :
    Except CalendarError CalendarMgr :=
  match m.getEventById eventId with
  | none => .error .eventInvalid
  | some ev =>
    if status ≠ calendarStatusRemoved ∧ ev.invitesLocked then .error .eventLocked
    else m.changeInvite ev guid inviteId fun invite => .ok (answered status now invite)

def handleCalendarEventStatus (guid eventId inviteId status : Nat) (now : Int) :
    Except CalendarError CalendarMgr :=
  match m.getEventById eventId with
  | none => .error .eventInvalid
  | some ev => m.changeInvite ev guid inviteId fun invite => .ok (answered status now invite)

def handleCalendarEventModeratorStatus (guid eventId inviteId rank : Nat) :
    Except CalendarError CalendarMgr :=
  match m.getEventById eventId with
  | none => .error .eventInvalid
  | some ev =>
    m.changeInvite ev guid inviteId fun invite =>
      if rank = calendarRankOwner then .error .permissions
      else .ok { invite with rank, saved := false, updated := true }

/-- `CalendarMgr::RemoveInvite`, called by the handlers of a removed invite and of a complaint. -/
def removeInvite (eventId inviteId remover : Nat) : Except CalendarError CalendarMgr :=
  match m.getEventById eventId with
  | none => .error .eventInvalid
  | some ev =>
    m.changeInvite ev remover inviteId fun invite =>
      if ev.creatorGuid = invite.inviteeGuid then .error .deleteCreatorFailed
      else .ok { invite with deleted := true }

/-- One turn of the loops over the event store, for the events of `guid` that are meant. -/
def removeCalendarEntry (guid : Nat) (meant : CalendarEvent → Bool) (m : CalendarMgr)
    (eventId : Nat) : CalendarMgr :=
  match m.eventStore[eventId]? with
  | none => m
  | some ev =>
    if ev.creatorGuid = guid ∧ meant ev ∧ !ev.deleted then
      (m.removeInviteByGuid ev guid).setEvent eventId { ev with deleted := true }
    else m

def removePlayerCalendar (guid : Nat) : CalendarMgr :=
  run (removeCalendarEntry guid fun _ => true) m m.eventStore.keys

def removeGuildCalendar (guid _guildId : Nat) : CalendarMgr :=
  run (removeCalendarEntry guid fun ev => ev.isGuildEvent || ev.isGuildAnnouncement) m
    m.eventStore.keys

/-- `delaySec` is the configured delay, negative when nothing expires. -/
def isEventReadyForRemove (delaySec now eventTime : Int) : Bool :=
  if delaySec < 0 then false else eventTime + delaySec ≤ now

/-- The first part of `Update`: what has expired is marked. -/
def markEvent (delaySec now : Int) (ev : CalendarEvent) : CalendarEvent :=
  if ev.deleted then ev
  else if isEventReadyForRemove delaySec now ev.eventTime ∨ ev.invitee.isEmpty then
    { ev with deleted := true }
  else ev

def markEvents (delaySec now : Int) : CalendarMgr :=
  { m with eventStore := m.eventStore.map fun _ => markEvent delaySec now }

def markInvite (invite : CalendarInvite) : CalendarInvite :=
  if invite.deleted then invite
  else if invite.eventId = 0 ∨ m.getEventById invite.eventId = none then
    { invite with deleted := true }
  else invite

def markInvites : CalendarMgr :=
  { m with inviteStore := m.inviteStore.map fun _ => m.markInvite }

def eventRow (ev : CalendarEvent) : EventRow :=
  { creatorGuid := ev.creatorGuid, guildId := ev.guildId, type := ev.type, flags := ev.flags
    dungeonId := ev.dungeonId, eventTime := ev.eventTime, title := ev.title
    description := ev.description }

def inviteRow (invite : CalendarInvite) : InviteRow :=
  { eventId := invite.eventId, inviteeGuid := invite.inviteeGuid, senderGuid := invite.senderGuid
    status := invite.status, lastUpdateTime := invite.lastUpdateTime, rank := invite.rank }

def saveEventToDB (eventId : Nat) (ev : CalendarEvent) : CalendarMgr :=
  { m with calendarEvents := (m.calendarEvents.erase eventId).insert eventId (eventRow ev) }

def saveInviteToDB (inviteId : Nat) (invite : CalendarInvite) : CalendarMgr :=
  { m with calendarInvites := (m.calendarInvites.erase inviteId).insert inviteId (inviteRow invite) }

/-- One turn of the first loop of `SaveToDB`. -/
def saveEvent (m : CalendarMgr) (eventId : Nat) : CalendarMgr :=
  match m.eventStore[eventId]? with
  | none => m
  | some ev =>
    if !ev.saved then (m.saveEventToDB eventId ev).setEvent eventId { ev with saved := true }
    else if ev.deleted then
      { m.removeAllInvite ev with
        calendarEvents := m.calendarEvents.erase eventId
        eventStore := m.eventStore.erase eventId }
    else m

def saveInvite (m : CalendarMgr) (inviteId : Nat) : CalendarMgr :=
  match m.inviteStore[inviteId]? with
  | none => m
  | some invite =>
    if !invite.saved then
      (m.saveInviteToDB inviteId invite).setInvite inviteId { invite with saved := true }
    else if invite.deleted then
      { m with
        calendarInvites := m.calendarInvites.erase inviteId
        inviteStore := m.inviteStore.erase inviteId }
    else m

def saveEvents : CalendarMgr := run saveEvent m m.eventStore.keys

def saveInvites : CalendarMgr := run saveInvite m m.inviteStore.keys

def saveToDB : CalendarMgr := m.saveEvents.saveInvites

def update (delaySec now : Int) : CalendarMgr := ((m.markEvents delaySec now).markInvites).saveToDB

/-- What reaches the calendar: the requests of players, who are named first, the removal of a character
or of a guild member, and the update of the world. -/
inductive Op where
  | addEvent (guid guildId : Nat) (data : EventData) (invitees : List Invitee) (now : Int)
  | copyEvent (guid guildId eventId : Nat) (newTime now : Int)
  | signup (guid guildId eventId : Nat) (tentative : Bool) (now : Int)
  | eventInvite (guid guildId eventId : Nat) (invitee : InviteeInfo) (isPreInvite isGuildEvent : Bool)
      (now : Int)
  | updateEvent (guid eventId : Nat) (data : EventData)
  | removeEvent (guid eventId : Nat)
  | rsvp (guid eventId inviteId status : Nat) (now : Int)
  | status (guid eventId inviteId status : Nat) (now : Int)
  | moderatorStatus (guid eventId inviteId rank : Nat)
  | removeInvite (guid eventId inviteId : Nat)
  | removePlayerCalendar (guid : Nat)
  | removeGuildCalendar (guid guildId : Nat)
  | update (delaySec now : Int)

def handle : Op → Except CalendarError CalendarMgr
  | .addEvent guid guildId data invitees now =>
    m.handleCalendarAddEvent guid guildId data invitees now
  | .copyEvent guid guildId eventId newTime now => m.copyEvent eventId newTime guid guildId now
  | .signup guid guildId eventId tentative now =>
    m.handleCalendarEventSignup guid guildId eventId tentative now
  | .eventInvite guid guildId eventId invitee isPreInvite isGuildEvent now =>
    m.handleCalendarEventInvite guid guildId eventId invitee isPreInvite isGuildEvent now
  | .updateEvent guid eventId data => m.handleCalendarUpdateEvent guid eventId data
  | .removeEvent guid eventId => m.removeEvent eventId guid
  | .rsvp guid eventId inviteId status now =>
    m.handleCalendarEventRsvp guid eventId inviteId status now
  | .status guid eventId inviteId status now =>
    m.handleCalendarEventStatus guid eventId inviteId status now
  | .moderatorStatus guid eventId inviteId rank =>
    m.handleCalendarEventModeratorStatus guid eventId inviteId rank
  | .removeInvite guid eventId inviteId => m.removeInvite eventId inviteId guid
  | .removePlayerCalendar guid => .ok (m.removePlayerCalendar guid)
  | .removeGuildCalendar guid guildId => .ok (m.removeGuildCalendar guid guildId)
  | .update delaySec now => .ok (m.update delaySec now)

/-- A refused request leaves the calendar as it is. -/
def step (m : CalendarMgr) (op : Op) : CalendarMgr :=
  match m.handle op with
  | .error _ => m
  | .ok m' => m'

end CalendarMgr

end Mangos
