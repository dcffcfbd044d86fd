import Mangos.Framework.Counters
import Mangos.Group.Succession

/-!
# The subgroups of a raid

A raid keeps the number of members of each subgroup in an array beside the slots.
-/

namespace Mangos

open Framework

namespace Group

/-- `_setMembersGroup` of a member with the `SubGroupCounterDecrease` that follows it. -/
def setMembersGroup (grp : Group) (guid prevSubGroup group : Nat) : Group :=
  { grp with
    memberSlots := changeFirst (·.guid = guid) (fun slot => { slot with group }) grp.memberSlots
    subGroupsCounts := grp.subGroupsCounts.map fun counts =>
      (counts.modify group fun n => (n + 1) % 256).modify prevSubGroup fun n => (n + 255) % 256 }

def hasFreeSlotSubGroup (grp : Group) (subgroup : Nat) : Bool :=
  match grp.subGroupsCounts with
  | none => false
  | some counts => (counts[subgroup]?).any (· < maxGroupSize)

end Group

/-- A group guid of a player and the `GroupReference` that goes with it, which keeps its subgroup when
it is unlinked. -/
structure SubGroupRef where
  group : Nat := 0
  subGroup : Nat := 0
  deriving DecidableEq, Repr

/-- A player object; `group` is what `GetGroupRef` gives and `originalGroup` what `GetOriginalGroupRef`
does. -/
structure RaidPlayer where
  inWorld : Bool := true
  group : SubGroupRef := {}
  originalGroup : SubGroupRef := {}
  deriving DecidableEq, Repr

/-- A group with its guid, the player objects and the other groups in `mGroupMap`. -/
structure RaidState where
  guid : Nat
  grp : Group
  players : Nat → Option RaidPlayer
  others : Nat → Bool

namespace RaidState

variable (s : RaidState)

/-- `ObjectMgr::GetGroup`. -/
def isKnown (group : Nat) : Bool := group = s.guid || s.others group

/-- `Player::SetGroup` and `Player::SetOriginalGroup` of one of the references. -/
def link (ref : SubGroupRef) (group subGroup : Nat) : SubGroupRef :=
  if s.isKnown group then ⟨group, subGroup⟩ else { ref with group := 0 }

def setPlayer (guid : Nat) (p : RaidPlayer) : RaidState :=
  { s with players := Function.update s.players guid (some p) }

/-- How `_addMember` links a player object. -/
def linkMember (guid subGroup : Nat) : RaidState :=
  match s.players guid with
  | none => s
  | some p =>
    if s.isKnown p.group.group && s.grp.bgGroup then
      s.setPlayer guid { p with
        originalGroup := s.link p.originalGroup p.group.group p.group.subGroup
        group := s.link p.group s.guid subGroup }
    else if s.isKnown p.group.group then
      s.setPlayer guid { p with originalGroup := s.link p.originalGroup s.guid subGroup }
    else s.setPlayer guid { p with group := s.link p.group s.guid subGroup }

/-- How `_removeMember` and `Disband` unlink a player object, which they see only in the world. -/
def unlinkMember (guid : Nat) : RaidState :=
  match s.players guid with
  | none => s
  | some p =>
    if !p.inWorld then s
    else if s.grp.bgGroup then
      s.setPlayer guid { p with
        group := s.link p.group p.originalGroup.group p.originalGroup.subGroup
        originalGroup := s.link p.originalGroup 0 0 }
    else if p.originalGroup.group = s.guid then
      s.setPlayer guid { p with originalGroup := s.link p.originalGroup 0 0 }
    else s.setPlayer guid { p with group := s.link p.group 0 0 }

def addMember (guid : Nat) : RaidState :=
  if s.grp.isMember guid then s
  else match s.grp.freeSubGroup with
    | none => s
    | some subGroup =>
      if s.grp.isFull || guid = 0 then s
      else { s with grp := s.grp.pushMember { guid, group := subGroup } }.linkMember guid subGroup

def disband : RaidState :=
  let s := s.grp.memberSlots.foldl (fun s slot => s.unlinkMember slot.guid) s
  { s with grp := { s.grp with memberSlots := [], leaderGuid := 0, invitees := [] } }

/-- `Group::RemoveMember`; `newLeader` is the successor of a leader who is removed. -/
def removeMember (guid : Nat) (logout : Bool) (newLeader : Option Nat) : RaidState :=
  if logout && s.grp.isLeader guid then s
  else if s.grp.disbandSize < s.grp.memberSlots.length then
    let erased := s.grp.eraseMember guid
    let led := if s.grp.isLeader guid then (newLeader.map erased.setLeader).getD erased else erased
    { s.unlinkMember guid with grp := led }
  else s.disband

def convertToRaid : RaidState :=
  { s with
    grp := { s.grp with
      groupType := { s.grp.groupType with raid := true } }.initRaidSubGroupsCounter }

/-- The subgroup that the move of player `p` counts down. -/
def prevSubGroup (p : RaidPlayer) : Nat :=
  if p.group.group = s.guid then p.group.subGroup else p.originalGroup.subGroup

/-- `Group::ChangeMembersGroup` of a player in the world. -/
def changePlayersGroup (guid : Nat) (p : RaidPlayer) (group : Nat) : RaidState :=
  if p.group.subGroup = group then s
  else match s.grp.getMemberSlot guid with
    | none => s
    | some _ =>
      let s' : RaidState := { s with grp := s.grp.setMembersGroup guid (s.prevSubGroup p) group }
      if p.group.group = s.guid then
        s'.setPlayer guid { p with group := { p.group with subGroup := group } }
      else s'.setPlayer guid { p with originalGroup := { p.originalGroup with subGroup := group } }

/-- The player object that `ObjectMgr::GetPlayer` finds. -/
def inWorldPlayer (guid : Nat) : Option RaidPlayer := (s.players guid).filter (·.inWorld)

def changeMembersGroup (guid group : Nat) : RaidState :=
  if !s.grp.groupType.raid then s
  else match s.inWorldPlayer guid with
    | some p => s.changePlayersGroup guid p group
    | none =>
      match s.grp.getMemberSlot guid with
      | none => s
      | some slot =>
        if slot.group = group then s
        else { s with grp := s.grp.setMembersGroup guid slot.group group }

/-- What `HandleGroupChangeSubGroupOpcode` asks of a move. -/
def canChangeTo (group : Nat) : Bool := group < maxRaidSubgroups && s.grp.hasFreeSlotSubGroup group

/-- `Group::Create` of a new group. -/
def create (guid : Nat) (bgGroup : Bool) (leader : Nat) (players : Nat → Option RaidPlayer)
    (others : Nat → Bool) : RaidState :=
  let grp : Group :=
    { bgGroup, leaderGuid := leader, groupType := if bgGroup then .bgRaid else .normal }
  let grp := if grp.groupType.raid then grp.initRaidSubGroupsCounter else grp
  addMember { guid, grp, players, others } leader

end RaidState

/-- What happens to a group. Players log in and out, change maps and join other groups, and those come
and go. -/
inductive RaidEvent
  | addMember (guid : Nat)
  | removeMember (guid : Nat) (logout : Bool) (newLeader : Option Nat)
  | convertToRaid
  | changeMembersGroup (guid group : Nat)
  | setPlayer (guid : Nat) (player : Option RaidPlayer)
  | setOther (group : Nat) (isKnown : Bool)
  deriving DecidableEq, Repr

def raidStep (s : RaidState) : RaidEvent → RaidState
  | .addMember guid => s.addMember guid
  | .removeMember guid logout newLeader => s.removeMember guid logout newLeader
  | .convertToRaid => s.convertToRaid
  | .changeMembersGroup guid group =>
    if s.canChangeTo group then s.changeMembersGroup guid group else s
  | .setPlayer guid player => { s with players := Function.update s.players guid player }
  | .setOther group isKnown => { s with others := Function.update s.others group isKnown }

end Mangos
