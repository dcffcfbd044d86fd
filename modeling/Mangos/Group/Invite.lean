import Mangos.Framework.Run
import Mangos.Group.Group

/-!
# Group invites

The requests that invite a player to a group, answer an invite, uninvite a player or leave, and
everything else that creates, changes and ends groups.
-/

namespace Mangos

open Framework

inductive PartyResult
  | ok | badPlayerName | targetNotInGroup | groupFull | alreadyInGroup | notInGroup | notLeader
  | playerWrongFaction | ignoringYou | inviteRestricted | targetNotInInstance
  | raidDisallowedByLevel
  deriving DecidableEq, Repr

/-- What the handlers look up outside the groups: whether the two players may group at all, and
whether the one who asks is in a battleground. -/
structure InviteChecks where
  wrongFaction : Bool := false
  otherInstance : Bool := false
  ignored : Bool := false
  belowRaidLevel : Bool := false
  inBattleGround : Bool := false
  deriving DecidableEq, Repr

namespace GroupWorld

variable (w : GroupWorld)

/-- `Group::AddLeaderInvite` for a new group. The guid of the group is made after the leader's
invite was recorded, so the leader's invite names no group. -/
def addLeaderInvite (grp : Group) (guid : Nat) : Option (GroupWorld × Nat × Group) :=
  match w.addInvite 0 grp guid with
  | none => none
  | some (w', grp') =>
    let grp'' := { grp' with leaderGuid := guid }
    some ({ w'.addGroup w'.nextGroup grp'' with nextGroup := w'.nextGroup + 1 }, w'.nextGroup, grp'')

/-- `WorldSession::HandleGroupInviteOpcode`, with the result sent if there is one. -/
def handleGroupInvite (inviter target : Nat) (checks : InviteChecks) :
    GroupWorld × Option PartyResult :=
  match w.players inviter, w.players target with
  | none, _ => (w, none)
  | some _, none => (w, some .badPlayerName)
  | some asker, some asked =>
    let g := w.invitingGroup asker
    if checks.wrongFaction then (w, some .playerWrongFaction)
    else if checks.otherInstance then (w, some .targetNotInInstance)
    else if checks.ignored then (w, some .ignoringYou)
    else if (w.groups g).any (·.groupType.raid) && checks.belowRaidLevel then
      (w, some .raidDisallowedByLevel)
    else if asked.groupInvite ≠ 0 then (w, some .alreadyInGroup)
    else if (w.groups (w.invitingGroup asked)).isSome then (w, some .alreadyInGroup)
    else match w.groups g with
      | none =>
        match w.addLeaderInvite {} inviter with
        | none => (w, none)
        | some (w', g', grp) =>
          match w'.addInvite g' grp target with
          | none => (w'.removeGroup g', none)
          | some (w'', grp') => (w''.addGroup g' grp', some .ok)
      | some grp =>
        if !grp.isLeader inviter && !grp.isAssistant inviter then (w, some .notLeader)
        else if grp.isFull then (w, some .groupFull)
        else match w.addInvite g grp target with
          | none => (w, none)
          | some (w', grp') => (w'.addGroup g grp', some .ok)

/-- The part of `HandleGroupInviteResponseOpcode` for an accepted invite, up to `AddMember`:
`none` where the handler returns early. -/
def acceptInvite (g : Nat) (grp : Group) (guid : Nat) : GroupWorld × Bool × Option PartyResult :=
  let w := w.removeInvite g guid
  if grp.isLeader guid then (w, false, none)
  else if grp.isFull then (w, false, some .groupFull)
  else if !grp.isCreated then
    let w := w.removeInvite g grp.leaderGuid
    let (w, created) := w.create g grp.leaderGuid
    (w, created, none)
  else (w, true, none)

/-- `WorldSession::HandleGroupInviteResponseOpcode`. -/
def handleGroupInviteResponse (guid : Nat) (accepted : Bool) : GroupWorld × Option PartyResult :=
  match w.players guid with
  | none => (w, none)
  | some p =>
    match w.groups p.groupInvite with
    | none => (w, none)
    | some grp =>
      let (w, goOn, result) :=
        if accepted then w.acceptInvite p.groupInvite grp guid else (w, true, none)
      if goOn then ((w.addMember p.groupInvite guid).getD w, result) else (w, result)

/-- `WorldSession::HandleGroupUninviteGuidOpcode`. -/
def handleGroupUninviteGuid (guid target : Nat) (checks : InviteChecks) (newLeader : Option Nat) :
    GroupWorld × Option PartyResult :=
  if target = guid then (w, none)
  else match w.players guid with
    | none => (w, none)
    | some p =>
      match w.groups p.group with
      | none => (w, none)
      | some grp =>
        if grp.isMember target && grp.isLFGGroup then (w, none)
        else if !grp.isLeader guid && !grp.isAssistant guid then (w, some .notLeader)
        else if checks.inBattleGround then (w, some .inviteRestricted)
        else if grp.isMember target then
          if grp.isLeader target then (w, none)
          else ((w.removeMember p.group target false newLeader).1, none)
        else if grp.invitees.any (·.guid = target) then
          if grp.isLeader target then (w, none) else (w.uninviteFromGroup target, none)
        else (w, some .targetNotInGroup)

def login (guid : Nat) : GroupWorld :=
  if guid ≠ 0 && (w.players guid).isNone then
    { w with
      players := Function.update w.players guid (some { login := w.nextLogin })
      nextLogin := w.nextLogin + 1 }
  else w

/-- The group part of `LogoutPlayer`. `normal` is a logout that is no kick or disconnect. -/
def logout (guid : Nat) (normal : Bool) (newLeader : Option Nat) : GroupWorld :=
  let w := w.uninviteFromGroup guid
  let w :=
    match w.players guid with
    | none => w
    | some p =>
      match w.groups p.group with
      | none => w
      | some grp =>
        if !grp.groupType.raid && normal then w.removeFromGroup guid true newLeader else w
  { w with players := Function.update w.players guid none }

def createGroup (groupType : GroupType) (bgGroup : Bool) (leader : Nat) : GroupWorld :=
  let w' := { w.addGroup w.nextGroup { groupType, bgGroup } with nextGroup := w.nextGroup + 1 }
  (w'.create w.nextGroup leader).1

end GroupWorld

inductive GroupEvent
  | invite (inviter target : Nat) (checks : InviteChecks)
  | response (guid : Nat) (accepted : Bool)
  | uninvite (guid target : Nat) (checks : InviteChecks) (newLeader : Option Nat)
  | leave (guid : Nat) (newLeader : Option Nat)
  | login (guid : Nat)
  | logout (guid : Nat) (normal : Bool) (newLeader : Option Nat)
  | loadGroup (guid group : Nat)
  | createGroup (groupType : GroupType) (bgGroup : Bool) (leader : Nat)
  | addMember (g guid : Nat)
  | removeMember (g guid : Nat) (newLeader : Option Nat)
  | disband (g : Nat)
  | convertToRaid (g : Nat)
  | setLeader (g guid : Nat)
  | setAssistant (g guid : Nat) (assistant : Bool)
  | setGroupType (g : Nat) (groupType : GroupType)

/-- One event. The last ones are what the other subsystems do to groups. -/
def groupStep (w : GroupWorld) : GroupEvent → GroupWorld
  | .invite inviter target checks => (w.handleGroupInvite inviter target checks).1
  | .response guid accepted => (w.handleGroupInviteResponse guid accepted).1
  | .uninvite guid target checks newLeader =>
    (w.handleGroupUninviteGuid guid target checks newLeader).1
  | .leave guid newLeader => w.removeFromGroup guid false newLeader
  | .login guid => w.login guid
  | .logout guid normal newLeader => w.logout guid normal newLeader
  | .loadGroup guid g => if (w.groups g).any (·.isMember guid) then w.setGroup guid g else w
  | .createGroup groupType bgGroup leader => w.createGroup groupType bgGroup leader
  | .addMember g guid => (w.addMember g guid).getD w
  | .removeMember g guid newLeader => (w.removeMember g guid false newLeader).1
  | .disband g => w.disband g
  | .convertToRaid g => w.updateGroup g fun grp =>
    { grp with groupType := { grp.groupType with raid := true } }.initRaidSubGroupsCounter
  | .setLeader g guid => w.updateGroup g (·.setLeader guid)
  | .setAssistant g guid assistant => w.updateGroup g fun grp =>
    { grp with
      memberSlots := grp.memberSlots.map fun slot =>
        if slot.guid = guid then { slot with assistant } else slot }
  | .setGroupType g groupType => w.updateGroup g fun grp => { grp with groupType }

/-- The world after the server has loaded its groups: nobody is online and nobody is invited. -/
def GroupWorld.initial (loaded : List Group) : GroupWorld where
  players _ := none
  groups g := if g = 0 then none else (loaded[g - 1]?).map fun grp => { grp with invitees := [] }
  nextGroup := loaded.length + 1
  nextLogin := 1

end Mangos
