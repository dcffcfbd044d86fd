import Mangos.Framework.Run
import Mangos.Group.Group

/-!
# Who leads a group

One group with the player objects that are linked to it.
-/

namespace Mangos

open Framework

namespace Group

variable (grp : Group)

/-- `_getMemberCSlot`. -/
def getMemberSlot (guid : Nat) : Option MemberSlot := grp.memberSlots.find? (·.guid = guid)

def disbandSize : Nat := if grp.bgGroup || grp.groupType.lfd then 1 else 2

end Group

/-- A `GroupReference`: a player object linked to the group, that may be between two maps. -/
structure GroupReference where
  guid : Nat
  inWorld : Bool := true
  bot : Bool := false
  deriving DecidableEq, Repr

/-- An `SMSG_GROUP_SET_LEADER`, and the name in the slot of the leader when it was sent. -/
structure SetLeaderPacket where
  name : String
  leaderName : Option String
  deriving DecidableEq, Repr

/-- A group with its `m_memberMgr`, newest link first, and the packets it has sent. It is `gone` once it
is disbanded or deletes itself. -/
structure LedGroup where
  grp : Group
  members : List GroupReference := []
  waitLeaderTimer : Nat := 0
  gone : Bool := false
  sent : List SetLeaderPacket := []
  deriving DecidableEq, Repr

namespace LedGroup

variable (s : LedGroup)

def getMemberWithRole (role : MemberSlot → Bool) : Option Nat :=
  (s.members.find? fun ref =>
    ref.inWorld && ref.guid ≠ s.grp.leaderGuid && (s.grp.getMemberSlot ref.guid).any role &&
      !ref.bot).map (·.guid)

/-- The member that `ChangeLeaderToFirstSuitableMember` picks. -/
def firstSuitableMember : Option Nat :=
  (if s.grp.groupType.raid then
    s.getMemberWithRole (·.assistant) <|> s.getMemberWithRole (·.mainTank) <|>
      s.getMemberWithRole (·.mainAssistant)
  else none) <|> s.getMemberWithRole fun _ => true

/-- The broadcast of a `SMSG_GROUP_SET_LEADER`. -/
def sendSetLeader (name : String) : LedGroup :=
  { s with sent := s.sent ++ [⟨name, (s.grp.getMemberSlot s.grp.leaderGuid).map (·.name)⟩] }

def changeLeader (guid : Nat) : LedGroup :=
  match s.grp.getMemberSlot guid with
  | none => s
  | some slot => { s with grp := s.grp.setLeader guid }.sendSetLeader slot.name

/-- `LinkMember`: the newest reference comes first. -/
def linkMember (ref : GroupReference) : LedGroup :=
  { s with members := ref :: s.members.filter (·.guid ≠ ref.guid) }

/-- How `sObjectMgr.GetPlayer` finds the player objects of a group that are to leave it. -/
def unlinkInWorld (leaves : Nat → Bool) : LedGroup :=
  { s with members := s.members.filter fun ref => !(ref.inWorld && leaves ref.guid) }

/-- `Group::AddMember`, for a player object if there is one. -/
def addMember (guid : Nat) (name : String) (player : Option GroupReference) : LedGroup :=
  if s.grp.isMember guid then s
  else match s.grp.freeSubGroup with
    | none => s
    | some subgroup =>
      if s.grp.isFull || guid = 0 then s
      else
        let added := { s with grp := s.grp.pushMember { guid, name, group := subgroup } }
        match player with
        | none => added
        | some ref => added.linkMember { ref with guid }

/-- `Group::_removeMember`, with whether the leader was removed. -/
def eraseMember (guid : Nat) : LedGroup × Bool :=
  let left := { s.unlinkInWorld (· = guid) with grp := s.grp.eraseMember guid }
  if s.grp.isLeader guid then
    if 0 < left.grp.memberSlots.length then
      match left.firstSuitableMember with
      | none => (left, true)
      | some newLeader => ({ left with grp := left.grp.setLeader newLeader }, true)
    else (left, true)
  else (left, false)

def disband : LedGroup :=
  { s.unlinkInWorld s.grp.isMember with
    grp := { s.grp with memberSlots := [], leaderGuid := 0, invitees := [] }
    gone := true }

def removeMember (guid : Nat) (logout : Bool) : LedGroup :=
  if logout && s.grp.isLeader guid then s
  else if s.grp.disbandSize < s.grp.memberSlots.length then
    let (left, leaderChanged) := s.eraseMember guid
    if leaderChanged then
      match left.grp.memberSlots.head? with
      | none => left
      | some front => left.sendSetLeader front.name
    else left
  else s.disband

def checkLeader (period guid : Nat) (logout : Bool) : LedGroup :=
  if s.grp.isLeader guid then { s with waitLeaderTimer := if logout then period else 0 }
  else if logout || 0 < s.waitLeaderTimer then s
  else match s.members.find? (·.guid = s.grp.leaderGuid) with
    | none => { s with waitLeaderTimer := period }
    | some leader => if leader.inWorld then s else { s with waitLeaderTimer := period }

def update (diff : Nat) : LedGroup :=
  if s.waitLeaderTimer = 0 then s
  else if diff < s.waitLeaderTimer then { s with waitLeaderTimer := s.waitLeaderTimer - diff }
  else
    let s := { s with waitLeaderTimer := 0 }
    match s.firstSuitableMember with
    | some newLeader => s.changeLeader newLeader
    | none =>
      let left := s.removeMember s.grp.leaderGuid false
      if left.grp.memberSlots.length ≤ 1 then { left with gone := true } else left

/-- `Group::Create` of a new group. -/
def create (bgGroup : Bool) (leader : Nat) (name : String) (player : Option GroupReference) :
    LedGroup :=
  let grp : Group :=
    { bgGroup, leaderGuid := leader, groupType := if bgGroup then .bgRaid else .normal }
  let grp := if grp.groupType.raid then grp.initRaidSubGroupsCounter else grp
  LedGroup.addMember { grp } leader name player

end LedGroup

/-- What happens to a group. Player objects are linked and unlinked as players come, go and change groups, and are out
of the world while they change maps. -/
inductive LeaderEvent
  | addMember (guid : Nat) (name : String) (player : Option GroupReference)
  | removeMember (guid : Nat) (logout : Bool)
  | changeLeader (guid : Nat)
  | update (diff : Nat)
  | checkLeader (guid : Nat) (logout : Bool)
  | link (ref : GroupReference)
  | unlink (guid : Nat)
  | setInWorld (guid : Nat) (inWorld : Bool)
  | convertToRaid
  | setFlags (guid : Nat) (assistant mainTank mainAssistant : Bool)
  deriving DecidableEq, Repr

/-- One event; `period` is how long the group waits for its leader. -/
def leaderStep (period : Nat) (s : LedGroup) (e : LeaderEvent) : LedGroup :=
  if s.gone then s
  else match e with
    | .addMember guid name player => s.addMember guid name player
    | .removeMember guid logout => s.removeMember guid logout
    | .changeLeader guid => s.changeLeader guid
    | .update diff => s.update diff
    | .checkLeader guid logout => s.checkLeader period guid logout
    | .link ref => s.linkMember ref
    | .unlink guid => { s with members := s.members.filter (·.guid ≠ guid) }
    | .setInWorld guid inWorld =>
      { s with
        members := s.members.map fun ref => if ref.guid = guid then { ref with inWorld } else ref }
    | .convertToRaid =>
      { s with
        grp := { s.grp with
          groupType := { s.grp.groupType with raid := true } }.initRaidSubGroupsCounter }
    | .setFlags guid assistant mainTank mainAssistant =>
      { s with
        grp := { s.grp with
          memberSlots := s.grp.memberSlots.map fun slot =>
            if slot.guid = guid then { slot with assistant, mainTank, mainAssistant } else slot } }

end Mangos
