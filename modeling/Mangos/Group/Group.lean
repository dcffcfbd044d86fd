import Mathlib.Data.List.Basic
import Mathlib.Logic.Function.Basic

/-!
# Groups

A `Group` with its members, its raid subgroups and the players invited to it, and the world of groups and
online players the group code works on.
-/

namespace Mangos

def maxGroupSize : Nat := 5
def maxRaidSize : Nat := 40
def maxRaidSubgroups : Nat := 8

/-- The bits of `GroupType`. -/
structure GroupType where
  bg : Bool := false
  raid : Bool := false
  lfd : Bool := false
  deriving DecidableEq, Repr

def GroupType.normal : GroupType := {}
def GroupType.bgRaid : GroupType := { bg := true, raid := true }

/-- A `Player*`: every login makes a new object. -/
structure PlayerRef where
  guid : Nat
  login : Nat
  deriving DecidableEq, Repr

structure MemberSlot where
  guid : Nat
  name : String := ""
  group : Nat
  assistant : Bool := false
  mainTank : Bool := false
  mainAssistant : Bool := false
  deriving DecidableEq, Repr

/-- `bgGroup` is whether the group belongs to a battleground or a battlefield. -/
structure Group where
  groupType : GroupType := .normal
  bgGroup : Bool := false
  leaderGuid : Nat := 0
  memberSlots : List MemberSlot := []
  subGroupsCounts : Option (List Nat) := none
  invitees : List PlayerRef := []
  deriving DecidableEq, Repr

namespace Group

variable (grp : Group)

def isLFGGroup : Bool := grp.groupType.lfd && !grp.groupType.raid

def isFull : Bool :=
  if grp.groupType = .normal || grp.isLFGGroup then maxGroupSize ≤ grp.memberSlots.length
  else maxRaidSize ≤ grp.memberSlots.length

def isCreated : Bool := 0 < grp.memberSlots.length

def isMember (guid : Nat) : Bool := grp.memberSlots.any (·.guid = guid)

def isLeader (guid : Nat) : Bool := grp.leaderGuid = guid

def isAssistant (guid : Nat) : Bool := grp.memberSlots.any fun slot =>
  slot.guid = guid && slot.assistant

def initRaidSubGroupsCounter : Group :=
  { grp with
    subGroupsCounts := some <| (List.range maxRaidSubgroups).map fun subgroup =>
      grp.memberSlots.countP (·.group = subgroup) }

/-- The subgroup `_addMember` picks: the first one with a free place in a raid. -/
def freeSubGroup : Option Nat :=
  match grp.subGroupsCounts with
  | none => some 0
  | some counts => counts.findIdx? (· < maxGroupSize)

/-- `m_memberSlots.push_back` with `SubGroupCounterIncrease`; the counters are bytes. -/
def pushMember (slot : MemberSlot) : Group :=
  { grp with
    memberSlots := grp.memberSlots ++ [slot]
    subGroupsCounts := grp.subGroupsCounts.map (·.modify slot.group fun n => (n + 1) % 256) }

/-- The end of `_removeMember`: the slot goes with `SubGroupCounterDecrease`. -/
def eraseMember (guid : Nat) : Group :=
  match grp.memberSlots.find? (·.guid = guid) with
  | none => grp
  | some slot =>
    { grp with
      memberSlots := grp.memberSlots.eraseP (·.guid = guid)
      subGroupsCounts := grp.subGroupsCounts.map (·.modify slot.group fun n => (n + 255) % 256) }

/-- `_setLeader` for a member. -/
def setLeader (guid : Nat) : Group :=
  if grp.isMember guid then { grp with leaderGuid := guid } else grp

theorem eraseMember_invitees (guid : Nat) : (grp.eraseMember guid).invitees = grp.invitees := by
  unfold eraseMember
  split
  · rfl
  · rfl

theorem setLeader_invitees (guid : Nat) : (grp.setLeader guid).invitees = grp.invitees := by
  unfold setLeader
  split
  · rfl
  · rfl

end Group

/-- The group fields of an online `Player`. A guid of 0 is the empty guid. -/
structure GroupPlayer where
  login : Nat
  groupInvite : Nat := 0
  group : Nat := 0
  originalGroup : Nat := 0
  deriving DecidableEq, Repr

structure GroupWorld where
  players : Nat → Option GroupPlayer
  groups : Nat → Option Group
  nextGroup : Nat
  nextLogin : Nat

namespace GroupWorld

variable (w : GroupWorld)

def updatePlayer (guid : Nat) (f : GroupPlayer → GroupPlayer) : GroupWorld :=
  { w with players := Function.update w.players guid ((w.players guid).map f) }

def setGroupInvite (guid g : Nat) : GroupWorld :=
  w.updatePlayer guid fun p => { p with groupInvite := g }

def updateGroup (g : Nat) (f : Group → Group) : GroupWorld :=
  { w with groups := Function.update w.groups g ((w.groups g).map f) }

def addGroup (g : Nat) (grp : Group) : GroupWorld :=
  { w with groups := Function.update w.groups g (some grp) }

def removeGroup (g : Nat) : GroupWorld :=
  { w with groups := Function.update w.groups g none }

/-- The guid `SetGroup` and `SetOriginalGroup` store: that of a group in the map, or none. -/
def knownGroup (g : Nat) : Nat := if (w.groups g).isSome then g else 0

def setGroup (guid g : Nat) : GroupWorld :=
  w.updatePlayer guid fun p => { p with group := w.knownGroup g }

def setOriginalGroup (guid g : Nat) : GroupWorld :=
  w.updatePlayer guid fun p => { p with originalGroup := w.knownGroup g }

/-- How a player object leaves group `g`, in `_removeMember` and in `Disband`. -/
def unlinkMember (g guid : Nat) (bgGroup : Bool) : GroupWorld :=
  match w.players guid with
  | none => w
  | some p =>
    if bgGroup then (w.setGroup guid p.originalGroup).setOriginalGroup guid 0
    else if p.originalGroup = g then w.setOriginalGroup guid 0
    else w.setGroup guid 0

def removeInvite (g guid : Nat) : GroupWorld :=
  match w.players guid with
  | none => w
  | some p =>
    (w.updateGroup g fun grp =>
      { grp with invitees := grp.invitees.filter (· ≠ ⟨guid, p.login⟩) }).setGroupInvite guid 0

/-- `(*itr)->SetGroupInvite(ObjectGuid())`: a player object that is gone is not seen any more. -/
def clearInvite (ref : PlayerRef) : GroupWorld :=
  w.updatePlayer ref.guid fun p => if p.login = ref.login then { p with groupInvite := 0 } else p

def removeAllInvites (g : Nat) : GroupWorld :=
  match w.groups g with
  | none => w
  | some grp =>
    (grp.invitees.foldl clearInvite w).updateGroup g fun grp => { grp with invitees := [] }

def invitingGroup (p : GroupPlayer) : Nat :=
  if (w.groups p.group).any (·.bgGroup) then p.originalGroup else p.group

/-- `Group::AddInvite` of the online player `guid` to the group `grp` with guid `g`, which need
not be in the map yet. -/
def addInvite (g : Nat) (grp : Group) (guid : Nat) : Option (GroupWorld × Group) :=
  match w.players guid with
  | none => none
  | some p =>
    if p.groupInvite ≠ 0 then none
    else if (w.groups (w.invitingGroup p)).isSome then none
    else some (w.setGroupInvite guid g,
      { grp with invitees := grp.invitees.filter (· ≠ ⟨guid, p.login⟩) ++ [⟨guid, p.login⟩] })

/-- `Group::AddMember`; there is no other effect when it returns false. -/
def addMember (g guid : Nat) : Option GroupWorld :=
  match w.groups g with
  | none => none
  | some grp =>
    if grp.isMember guid then none
    else match grp.freeSubGroup with
      | none => none
      | some subgroup =>
        if grp.isFull then none
        else if guid = 0 then none
        else
          let w := w.updateGroup g (·.pushMember { guid, group := subgroup })
          let w := w.setGroupInvite guid 0
          some <| match w.players guid with
            | none => w
            | some p =>
              if (w.groups p.group).isSome && grp.bgGroup then
                (w.setOriginalGroup guid p.group).setGroup guid g
              else if (w.groups p.group).isSome then w.setOriginalGroup guid g
              else w.setGroup guid g

/-- `Group::Create` for a group in the map, with its result. -/
def create (g leader : Nat) : GroupWorld × Bool :=
  let w := w.updateGroup g fun grp =>
    let grp := { grp with
      leaderGuid := leader
      groupType := if grp.bgGroup then .bgRaid else .normal }
    if grp.groupType.raid then grp.initRaidSubGroupsCounter else grp
  match w.addMember g leader with
  | none => (w, false)
  | some w' => (w', true)

def disband (g : Nat) : GroupWorld :=
  match w.groups g with
  | none => w
  | some grp =>
    let left := grp.memberSlots.foldl (fun w slot => w.unlinkMember g slot.guid grp.bgGroup) w
    (left.removeAllInvites g).removeGroup g

/-- `Group::RemoveMember` with the number of members left. `newLeader` is the member
`ChangeLeaderToFirstSuitableMember` finds among those in the world. -/
def removeMember (g guid : Nat) (logout : Bool) (newLeader : Option Nat) : GroupWorld × Nat :=
  match w.groups g with
  | none => (w, 0)
  | some grp =>
    if logout && grp.isLeader guid then (w, grp.memberSlots.length)
    else if (if grp.bgGroup || grp.groupType.lfd then 1 else 2) < grp.memberSlots.length then
      let erased := grp.eraseMember guid
      let led := if grp.isLeader guid then (newLeader.map erased.setLeader).getD erased else erased
      ((w.unlinkMember g guid grp.bgGroup).updateGroup g fun _ => led, led.memberSlots.length)
    else (w.disband g, 0)

def removeFromGroup (guid : Nat) (logout : Bool) (newLeader : Option Nat) : GroupWorld :=
  match w.players guid with
  | none => w
  | some p =>
    match w.groups p.group with
    | none => w.setGroup guid 0
    | some _ =>
      let (w', left) := w.removeMember p.group guid logout newLeader
      if left ≤ 1 then w'.removeGroup p.group else w'

def uninviteFromGroup (guid : Nat) : GroupWorld :=
  match w.players guid with
  | none => w
  | some p =>
    match w.groups p.groupInvite with
    | none => w.setGroupInvite guid 0
    | some grp =>
      let w' := w.removeInvite p.groupInvite guid
      if grp.memberSlots.length ≤ 1 then
        ((w'.removeAllInvites p.groupInvite).disband p.groupInvite).removeGroup p.groupInvite
      else w'

end GroupWorld

end Mangos
