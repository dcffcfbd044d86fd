import Mangos.Framework.Assoc

/-!
# Vote kicks of the dungeon finder

A group of the dungeon finder with its members, those of them that are online, and its `LFGGroupState`, in
which a vote to kick a member is held.
-/

namespace Mangos

open Framework

inductive LFGState
  | none | lfr | lfg | rolecheck | queued | proposal | boot | dungeon | finishedDungeon
  deriving DecidableEq, Repr

inductive LFGAnswer
  | pending | deny | agree
  deriving DecidableEq, Repr

def lfgTimeBoot : Nat := 120
def maxLfgGroupSize : Nat := 5

/-- The fields of `LFGGroupState` that the votes work on. -/
structure LFGGroupState where
  state : LFGState := .none
  savedstate : LFGState := .none
  bootCancelTime : Nat := 0
  votesNeeded : Nat := 3
  kicksLeft : Nat := 0
  bootVotes : List (Nat × LFGAnswer) := []
  bootVictim : Nat := 0
  deriving DecidableEq, Repr

namespace LFGGroupState

variable (lfg : LFGGroupState)

def saveState : LFGGroupState := { lfg with savedstate := lfg.state }

def restoreState : LFGGroupState := { lfg with state := lfg.savedstate }

def isBootActive (now : Nat) : Bool := lfg.state = .boot && now < lfg.bootCancelTime

def firstVote (kicker victim guid : Nat) : LFGAnswer :=
  if guid = victim then .deny else if guid = kicker then .agree else .pending

/-- `LFGGroupState::StartBoot`; `online` has the members that the loop over the group finds, each of
them once. -/
def startBoot (now : Nat) (online : List Nat) (kicker victim : Nat) : LFGGroupState :=
  { lfg.saveState with
    bootVotes := online.map fun guid => (guid, firstVote kicker victim guid)
    bootVictim := victim
    bootCancelTime := now + lfgTimeBoot
    state := .boot }

/-- `LFGGroupState::UpdateBoot`; nothing when there is no entry for the voter, where the code writes
through the end of the map. -/
def updateBoot (kicker : Nat) (answer : LFGAnswer) : Option LFGGroupState :=
  match lookupKey kicker lfg.bootVotes with
  | none => none
  | some .pending => some { lfg with bootVotes := modifyKey kicker (fun _ => answer) lfg.bootVotes }
  | some _ => some lfg

def stopBoot : LFGGroupState :=
  { lfg with bootVotes := [], bootVictim := 0, bootCancelTime := 0 }.restoreState

def clear (maxKicks : Nat) : LFGGroupState :=
  { lfg with votesNeeded := 3, kicksLeft := maxKicks, state := .none }.saveState.stopBoot

def agreeNum : Nat := lfg.bootVotes.countP (·.2 = .agree) % 256
def denyNum : Nat := lfg.bootVotes.countP (·.2 = .deny) % 256

/-- `LFGGroupState::GetBootResult`; the difference of the sizes is one of unsigned numbers. -/
def getBootResult : LFGAnswer :=
  if lfg.votesNeeded ≤ lfg.agreeNum then .agree
  else if (lfg.bootVotes.length + 2 ^ 64 - lfg.votesNeeded) % 2 ^ 64 < lfg.denyNum then .deny
  else .pending

def decreaseKicksLeft : LFGGroupState := { lfg with kicksLeft := lfg.kicksLeft - 1 }

end LFGGroupState

/-- A group of the dungeon finder. A disbanded group has no members. `queued` is whether it is in
`m_groupQueue`; `undefined` says that a pointer past the end of a map was written through. -/
structure LFGGroup where
  members : List Nat
  online : List Nat
  lfg : LFGGroupState
  queued : Bool := false
  now : Nat := 0
  undefined : Bool := false
  deriving DecidableEq, Repr

namespace LFGGroup

variable (grp : LFGGroup)

def isBootActive : Bool := grp.lfg.isBootActive grp.now

def disband : LFGGroup := { grp with members := [], online := [] }

/-- `Group::RemoveMember` for a group of the dungeon finder. -/
def removeMember (guid : Nat) : LFGGroup :=
  if 1 < grp.members.length then
    { grp with members := grp.members.erase guid, online := grp.online.erase guid }
  else grp.disband

/-- The start of `LFGMgr::InitBoot`: a vote, unless one is active. -/
def beginBoot (kicker victim : Nat) : LFGGroup :=
  if grp.isBootActive then grp
  else
    { grp with
      lfg := { grp.lfg with votesNeeded := (grp.members.length + 1) / 2 % 256 }.startBoot grp.now
        grp.online kicker victim }

/-- `LFGMgr::InitBoot` for the request to remove a member, with the checks of its handler: the victim is another
member, who is looked up among the players in the world. -/
def initBoot (kicker victim : Nat) : LFGGroup :=
  if kicker ∈ grp.online ∧ victim ≠ kicker ∧ victim ∈ grp.members ∧ victim ∈ grp.online then
    let grp := grp.beginBoot kicker victim
    if grp.lfg.kicksLeft = 0 then grp.disband else grp
  else grp

/-- `LFGMgr::CleanupBoots` at one group. -/
def cleanupBoots : LFGGroup :=
  if grp.queued ∧ grp.members ≠ [] ∧ grp.lfg.state = .boot ∧ grp.isBootActive = false then
    { grp with lfg := grp.lfg.stopBoot }
  else grp

def kickVictim (player : Nat) : LFGGroup :=
  let victim := grp.lfg.bootVictim
  let grp := grp.removeMember victim
  if player = victim ∨ grp.members = [] then grp
  else if grp.isBootActive then { grp with lfg := grp.lfg.decreaseKicksLeft.stopBoot }
  else grp

/-- The end of `LFGMgr::UpdateBoot`; `found` is whether a victim that is not online in the group is in the
world. -/
def decideBoot (player : Nat) (found : Bool) : LFGGroup :=
  match grp.lfg.getBootResult with
  | .agree =>
    if grp.lfg.bootVictim ∈ grp.online ∨ found then grp.kickVictim player
    else { grp with lfg := grp.lfg.stopBoot }
  | .deny => { grp with lfg := grp.lfg.stopBoot }
  | .pending => grp

/-- `LFGMgr::UpdateBoot` for a player of the group. -/
def updateBoot (player : Nat) (agree found : Bool) : LFGGroup :=
  if player ∈ grp.online ∧ grp.isBootActive then
    match grp.lfg.updateBoot player (if agree then .agree else .deny) with
    | none => { grp with undefined := true }
    | some lfg => { grp with lfg }.decideBoot player found
  else grp

/-- `Group::AddMember`, for a group that is there and not full. -/
def addMember (player : Nat) : LFGGroup :=
  if grp.members ≠ [] ∧ grp.members.length < maxLfgGroupSize ∧ player ∉ grp.members then
    { grp with members := grp.members ++ [player], online := grp.online.erase player ++ [player] }
  else grp

def login (player : Nat) : LFGGroup :=
  if player ∈ grp.members ∧ player ∉ grp.online then
    { grp with online := grp.online ++ [player] }
  else grp

/-- `LFGMgr::Leave` for the leader of the group: the group leaves the finder. -/
def leaveFinder (maxKicks : Nat) : LFGGroup :=
  { grp with lfg := grp.lfg.clear maxKicks, queued := false }

/-- A logout. When the leader goes, the group leaves the finder and waits for him; another player leaves the group, or
stays a member if his connection is lost. -/
def logout (player : Nat) (leader socket : Bool) (maxKicks : Nat) : LFGGroup :=
  if player ∈ grp.online then
    if leader then { grp.leaveFinder maxKicks with online := grp.online.erase player }
    else if socket then grp.removeMember player
    else { grp with online := grp.online.erase player }
  else grp

end LFGGroup

/-- What happens to a group. The leader and the number of kicks of the configuration are inputs. -/
inductive BootEvent
  | initBoot (kicker victim : Nat)
  | answer (player : Nat) (agree found : Bool)
  | cleanup
  | passTime (seconds : Nat)
  | queue (queued : Bool)
  | join (player : Nat)
  | leave (player : Nat)
  | login (player : Nat)
  | logout (player : Nat) (leader socket : Bool) (maxKicks : Nat)
  | leaveFinder (maxKicks : Nat)

def LFGGroup.handle (grp : LFGGroup) : BootEvent → LFGGroup
  | .initBoot kicker victim => grp.initBoot kicker victim
  | .answer player agree found => grp.updateBoot player agree found
  | .cleanup => grp.cleanupBoots
  | .passTime seconds => { grp with now := grp.now + seconds }
  | .queue queued => { grp with queued }
  | .join player => grp.addMember player
  | .leave player => if player ∈ grp.members then grp.removeMember player else grp
  | .login player => grp.login player
  | .logout player leader socket maxKicks => grp.logout player leader socket maxKicks
  | .leaveFinder maxKicks => grp.leaveFinder maxKicks

end Mangos
