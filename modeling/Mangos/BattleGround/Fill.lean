import Mangos.BattleGround.Match
import Mangos.Framework.Loops

/-!
# Filling a running battleground

Groups of the normal queues are picked for the free slots of a battleground that runs.
-/

namespace Mangos

open Framework Function

inductive BattleGroundStatus
  | none | waitQueue | waitJoin | inProgress | waitLeave
  deriving DecidableEq, Repr

/-- `BattleGround`, as the queue uses it. -/
structure BattleGround where
  instanceId : Nat
  status : BattleGroundStatus
  maxPlayersPerTeam : UInt32
  invitedCount : Team → UInt32

namespace BattleGround

variable (bg : BattleGround)

def getFreeSlotsForTeam (team : Team) : UInt32 :=
  if bg.status = .waitJoin ∨ bg.status = .inProgress then
    if bg.invitedCount team < bg.maxPlayersPerTeam then
      bg.maxPlayersPerTeam - bg.invitedCount team
    else 0
  else 0

def increaseInvitedCount (team : Team) : BattleGround :=
  { bg with invitedCount := update bg.invitedCount team (bg.invitedCount team + 1) }

end BattleGround

/-- The pool of a team, and its queue from the group on that is the next to be tried. -/
structure TeamFill where
  pool : SelectionPool
  queue : List Nat

namespace BattleGroundQueue

variable (s : BattleGroundQueue)

/-- `Players.size()` of a group. -/
def groupSize (g : Nat) : Nat := (s.groups g).elim 0 (·.players.card)

/-- The loop of `FillPlayersToBG` over a queue. A group that the pool has no room for is tried again the
next time. -/
def addGroups (desiredCount : UInt32) : SelectionPool → List Nat → TeamFill
  | pool, [] => ⟨pool, []⟩
  | pool, g :: queue =>
    let added := s.addToPool pool g desiredCount.toNat
    if added.2 then addGroups desiredCount added.1 queue else ⟨added.1, g :: queue⟩

/-- One turn of the search of `KickGroup`: the group to kick with its position, and whether one of about
the right size was found. -/
def pickGroup (size : UInt32) (groupToKick : (Nat × Nat) × Bool) (itr : Nat × Nat) :
    (Nat × Nat) × Bool :=
  if (UInt32.ofNat (s.groupSize itr.1) - size).toInt32.abs ≤ 1 then (itr, true)
  else if !groupToKick.2 && s.groupSize groupToKick.1.1 ≤ s.groupSize itr.1 then (itr, false)
  else groupToKick

def kickGroup (pool : SelectionPool) (size : UInt32) : SelectionPool × Bool :=
  match pool.selectedGroups.zipIdx with
  | [] => (pool, true)
  | first :: others =>
    let groupToKick := ((first :: others).foldl (s.pickGroup size) (first, false)).1
    if pool.playerCount ≠ 0 then
      (⟨pool.selectedGroups.eraseIdx groupToKick.2, pool.playerCount - s.groupSize groupToKick.1⟩,
        !(s.groupSize groupToKick.1 ≤ (size + 1).toNat))
    else (pool, true)

def diff (free : Team → UInt32) (fill : Team → TeamFill) (team : Team) : Int32 :=
  (free team).toInt32 - (UInt32.ofNat (fill team).pool.playerCount).toInt32

/-- The number of players that a pool is filled up to again: the other team lacks `diffOther`. -/
def refillCount (free : UInt32) (diffOther : Int32) : UInt32 :=
  if diffOther ≤ free.toInt32 then (free.toInt32 - diffOther).toUInt32 else 0

def kickAndRefill (size desiredCount : UInt32) (fill : TeamFill) : TeamFill :=
  let kicked := s.kickGroup fill.pool size
  if kicked.2 then s.addGroups desiredCount kicked.1 fill.queue else ⟨kicked.1, fill.queue⟩

/-- A turn of the balancing in which `team` lacks fewer players than the other, and whether it is the
last one. -/
def kickTurn (free : Team → UInt32) (fill : Team → TeamFill) (team : Team) :
    (Team → TeamFill) × Bool :=
  let diffOther := diff free fill team.other
  let size := (diffOther - diff free fill team).toUInt32
  let own := s.kickAndRefill size (refillCount (free team) diffOther) (fill team)
  if own.pool.playerCount ≠ 0 then (update fill team own, false)
  else if (free team).toInt32 ≤ diffOther + 1 then (update fill team own, true)
  else
    let other : TeamFill :=
      ⟨(s.kickGroup (fill team.other).pool size).1, (fill team.other).queue⟩
    (update (update fill team own) team.other other, false)

def unbalanced (free : Team → UInt32) (fill : Team → TeamFill) : Bool :=
  1 < (diff free fill .alliance - diff free fill .horde).abs &&
    (0 < (fill .horde).pool.playerCount || 0 < (fill .alliance).pool.playerCount)

def balanceTurn (free : Team → UInt32) (fill : Team → TeamFill) : (Team → TeamFill) × Bool :=
  if diff free fill .alliance < diff free fill .horde then s.kickTurn free fill .alliance
  else s.kickTurn free fill .horde

/-- `BattleGroundQueue::FillPlayersToBG`: the pools at its end, if the balancing ends after less than
`fuel` turns. -/
def fillPlayersToBG (bg : BattleGround) (bracketId : Fin maxBattlegroundBrackets)
    (invitationType : Nat) (pools : Team → SelectionPool) (fuel : Nat) :
    Option (Team → SelectionPool) :=
  let free := bg.getFreeSlotsForTeam
  let fill (team : Team) :=
    s.addGroups (free team) (pools team) (s.queuedGroups ⟨bracketId, .normal team⟩)
  let balanced :=
    if invitationType = 0 then some fill
    else whileLoop (unbalanced free) (s.balanceTurn free) fuel fill
  balanced.map fun fill team => (fill team).pool

/-- `InviteGroupToBG` with the counters of the battleground, for the team of the group. Players who are
not online are skipped. -/
def inviteToRunning (online : Nat → Bool) (removeInviteTime : Nat)
    (state : BattleGroundQueue × BattleGround) (g : Nat) : BattleGroundQueue × BattleGround :=
  match state.1.groups g with
  | none => state
  | some ginfo =>
    (state.1.inviteGroupToBG g (some ginfo.groupTeam) state.2.instanceId removeInviteTime,
      if ginfo.isInvitedToBGInstanceGUID = 0 then
        (ginfo.players.sort (· ≤ ·)).foldl
          (fun bg guid => if online guid then bg.increaseInvitedCount ginfo.groupTeam else bg)
          state.2
      else state.2)

/-- The invitations of `Update` to a running battleground. -/
def invitePools (online : Nat → Bool) (removeInviteTime : Nat) (pools : Team → SelectionPool)
    (state : BattleGroundQueue × BattleGround) : BattleGroundQueue × BattleGround :=
  ((pools .alliance).selectedGroups ++ (pools .horde).selectedGroups).foldl
    (inviteToRunning online removeInviteTime) state

end BattleGroundQueue

end Mangos
