import Mangos.Framework.Shelves
import Mathlib.Data.Finset.Sort
import Mathlib.Data.List.AList
import Mathlib.Data.List.FinRange

/-!
# The queue of a kind of battleground

Players wait in groups.
-/

namespace Mangos

open Framework Function

def maxBattlegroundBrackets : Nat := 16

inductive Team
  | alliance | horde
  deriving DecidableEq, Repr

def Team.other : Team → Team
  | alliance => horde
  | horde => alliance

/-- `BattleGroundQueueGroupTypes`. -/
inductive QueueGroupType
  | premadeAlliance | premadeHorde | normalAlliance | normalHorde
  deriving DecidableEq, Repr

namespace QueueGroupType

/-- `BG_QUEUE_PREMADE_ALLIANCE + i`. -/
def premade : Team → QueueGroupType
  | .alliance => premadeAlliance
  | .horde => premadeHorde

/-- `BG_QUEUE_NORMAL_ALLIANCE + i`. -/
def normal : Team → QueueGroupType
  | .alliance => normalAlliance
  | .horde => normalHorde

/-- The team that the parity of the index stands for. -/
def team : QueueGroupType → Team
  | premadeAlliance => .alliance
  | premadeHorde => .horde
  | normalAlliance => .alliance
  | normalHorde => .horde

@[simp] theorem team_premade (t : Team) : (premade t).team = t := by cases t <;> rfl

@[simp] theorem team_normal (t : Team) : (normal t).team = t := by cases t <;> rfl

theorem premade_ne_normal (t t' : Team) : premade t ≠ normal t' := by
  cases t <;> cases t' <;> decide

end QueueGroupType

/-- The two indices of `m_QueuedGroups`. -/
structure QueuePlace where
  bracketId : Fin maxBattlegroundBrackets
  type : QueueGroupType
  deriving DecidableEq, Repr

structure GroupQueueInfo where
  players : Finset Nat
  groupTeam : Team
  isRated : Bool
  arenaTeamId : Nat
  joinTime : Nat
  removeInviteTime : Nat
  isInvitedToBGInstanceGUID : Nat
  arenaTeamRating : Nat
  opponentsTeamRating : Nat

/-- `BattleGroundQueue`. Groups are known by their addresses; `nextGroup` is one that was never given
out. -/
structure BattleGroundQueue where
  queuedPlayers : AList fun _ : Nat => Nat
  groups : Nat → Option GroupQueueInfo
  queuedGroups : QueuePlace → List Nat
  nextGroup : Nat

/-- Who joins: a player alone, or the members of the group that he leads. -/
structure QueueParty where
  leader : Nat
  team : Team
  grp : Option (List Nat)
  leader_mem : ∀ members ∈ grp, leader ∈ members

def QueueParty.alone (leader : Nat) (team : Team) : QueueParty := ⟨leader, team, none, by simp⟩

def QueueParty.members (party : QueueParty) : List Nat := party.grp.getD [party.leader]

theorem QueueParty.leader_mem_members (party : QueueParty) : party.leader ∈ party.members := by
  cases hgrp : party.grp with
  | none => simp [members, hgrp]
  | some members => simpa [QueueParty.members, hgrp] using party.leader_mem members hgrp

namespace BattleGroundQueue

variable (s : BattleGroundQueue)

def empty : BattleGroundQueue where
  queuedPlayers := ∅
  groups _ := none
  queuedGroups _ := []
  nextGroup := 0

def modifyGroup (g : Nat) (change : GroupQueueInfo → GroupQueueInfo) : BattleGroundQueue :=
  { s with groups := update s.groups g ((s.groups g).map change) }

/-- One turn of the loop of `AddGroup` over the members. -/
def addMember (g : Nat) (s : BattleGroundQueue) (guid : Nat) : BattleGroundQueue :=
  { s with queuedPlayers := s.queuedPlayers.insert guid g }.modifyGroup g fun ginfo =>
    { ginfo with players := insert guid ginfo.players }

def addGroup (bracketId : Fin maxBattlegroundBrackets) (party : QueueParty)
    (isRated isPremade : Bool) (joinTime arenaRating arenaTeamId : Nat) : BattleGroundQueue :=
  let g := s.nextGroup
  let ginfo : GroupQueueInfo :=
    { players := ∅
      groupTeam := party.team
      isRated
      arenaTeamId
      joinTime
      removeInviteTime := 0
      isInvitedToBGInstanceGUID := 0
      arenaTeamRating := arenaRating
      opponentsTeamRating := 0 }
  let created := { s with groups := update s.groups g (some ginfo), nextGroup := g + 1 }
  let filled := party.members.foldl (addMember g) created
  let place : QueuePlace :=
    ⟨bracketId, if !isRated && !isPremade then .normal party.team else .premade party.team⟩
  { filled with
    queuedGroups := update filled.queuedGroups place (filled.queuedGroups place ++ [g]) }

/-- How `RemovePlayer` finds the list of a group: brackets from the last to the first, in each the lists of one team,
and the last list found counts. -/
def findGroup (g : Nat) (team : Team) : Option QueuePlace :=
  (List.finRange maxBattlegroundBrackets).reverse.findSome? fun bracketId =>
    if g ∈ s.queuedGroups ⟨bracketId, .normal team⟩ then some ⟨bracketId, .normal team⟩
    else if g ∈ s.queuedGroups ⟨bracketId, .premade team⟩ then some ⟨bracketId, .premade team⟩
    else none

def leaveGroup (guid g : Nat) : BattleGroundQueue :=
  { s with queuedPlayers := s.queuedPlayers.erase guid }.modifyGroup g fun ginfo =>
    { ginfo with players := ginfo.players.erase guid }

def deleteGroup (place : QueuePlace) (g : Nat) : BattleGroundQueue :=
  { s with
    groups := update s.groups g none
    queuedGroups := update s.queuedGroups place ((s.queuedGroups place).erase g) }

theorem length_keys_leaveGroup {guid g g' : Nat} (h : s.queuedPlayers.lookup guid = some g) :
    (s.leaveGroup guid g').queuedPlayers.keys.length < s.queuedPlayers.keys.length := by
  have hmem : guid ∈ s.queuedPlayers.keys := by
    apply AList.mem_keys.mpr
    apply AList.lookup_isSome.mp
    rw [h]
    rfl
  have hpos := List.length_pos_of_mem hmem
  show (s.queuedPlayers.erase guid).keys.length < s.queuedPlayers.keys.length
  rw [AList.keys_erase, List.length_erase_of_mem hmem]
  omega

/-- `BattleGroundQueue::RemovePlayer`. With a player who leaves a rated group that is not invited, the
others of the group leave one by one. -/
def removePlayer (s : BattleGroundQueue) (guid : Nat) : BattleGroundQueue :=
  match h : s.queuedPlayers.lookup guid with
  | none => s
  | some g =>
    match s.groups g with
    | none => s
    | some ginfo =>
      match s.findGroup g ginfo.groupTeam with
      | none => s
      | some place =>
        let left := s.leaveGroup guid g
        match ((ginfo.players.erase guid).sort (· ≤ ·)).head? with
        | none => left.deleteGroup place g
        | some next =>
          if ginfo.isInvitedToBGInstanceGUID = 0 && ginfo.isRated then
            removePlayer left next
          else left
termination_by s.queuedPlayers.keys.length
decreasing_by exact s.length_keys_leaveGroup h

/-- `BattleGroundQueue::InviteGroupToBG`, as far as the queue goes. -/
def inviteGroupToBG (g : Nat) (side : Option Team) (instanceId removeInviteTime : Nat) :
    BattleGroundQueue :=
  s.modifyGroup g fun ginfo =>
    let ginfo := match side with
      | none => ginfo
      | some team => { ginfo with groupTeam := team }
    if ginfo.isInvitedToBGInstanceGUID = 0 then
      { ginfo with isInvitedToBGInstanceGUID := instanceId, removeInviteTime }
    else ginfo

end BattleGroundQueue

end Mangos
