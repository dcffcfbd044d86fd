import Mangos.BattleGround.Queue

/-!
# Getting a match together

The parts of `BattleGroundQueue::Update` that pick groups and move them between the lists of a
bracket: premade groups that waited too long, groups of one faction that play each other, and teams of
a rated match.
-/

namespace Mangos

open Framework Function

structure SelectionPool where
  selectedGroups : List Nat
  playerCount : Nat

def SelectionPool.init : SelectionPool := ⟨[], 0⟩

def int32 (t : Nat) : Int := Int.bmod t (2 ^ 32)

namespace BattleGroundQueue

variable (s : BattleGroundQueue)

def notInvited (g : Nat) : Bool :=
  (s.groups g).any fun ginfo => ginfo.isInvitedToBGInstanceGUID = 0

/-- `SelectionPool::AddGroup`. -/
def addToPool (pool : SelectionPool) (g desiredCount : Nat) : SelectionPool × Bool :=
  match s.groups g with
  | none => (pool, false)
  | some ginfo =>
    let size := ginfo.players.card
    if ginfo.isInvitedToBGInstanceGUID = 0 && pool.playerCount + size ≤ desiredCount then
      (⟨pool.selectedGroups ++ [g], pool.playerCount + size⟩, true)
    else (pool, pool.playerCount < desiredCount)

def fillPool (desiredCount : Nat) : SelectionPool → List Nat → SelectionPool
  | pool, [] => pool
  | pool, g :: groups =>
    if s.notInvited g then
      let (pool, more) := s.addToPool pool g desiredCount
      if more then fillPool desiredCount pool groups else pool
    else fillPool desiredCount pool groups

def movePremade (bracketId : Fin maxBattlegroundBrackets) (minPlayers timeBefore : Nat)
    (s : BattleGroundQueue) (team : Team) : BattleGroundQueue :=
  match s.queuedGroups ⟨bracketId, .premade team⟩ with
  | [] => s
  | g :: _ =>
    match s.groups g with
    | none => s
    | some ginfo =>
      if ginfo.isInvitedToBGInstanceGUID = 0 &&
          (ginfo.joinTime < timeBefore || ginfo.players.card < minPlayers) then
        { s with
          queuedGroups :=
            move s.queuedGroups ⟨bracketId, .premade team⟩ ⟨bracketId, .normal team⟩ g }
      else s

/-- `BattleGroundQueue::CheckPremadeMatch`, with the pools for the match if there is one. -/
def checkPremadeMatch (bracketId : Fin maxBattlegroundBrackets)
    (minPlayers maxPlayers timeBefore : Nat) :
    BattleGroundQueue × Option (Team → SelectionPool) :=
  let first (team : Team) := (s.queuedGroups ⟨bracketId, .premade team⟩).find? s.notInvited
  match first .alliance, first .horde with
  | some ali, some horde =>
    let aliPool := (s.addToPool .init ali maxPlayers).1
    let hordePool := (s.addToPool .init horde maxPlayers).1
    let most := max aliPool.playerCount hordePool.playerCount
    (s, some fun team =>
      s.fillPool most (if team = .alliance then aliPool else hordePool)
        (s.queuedGroups ⟨bracketId, .normal team⟩))
  | _, _ =>
    ([Team.alliance, Team.horde].foldl (movePremade bracketId minPlayers timeBefore) s, none)

def fillUntil (minPlayers maxPlayers : Nat) : SelectionPool → List Nat → SelectionPool × List Nat
  | pool, [] => (pool, [])
  | pool, g :: groups =>
    if s.notInvited g then
      let pool := (s.addToPool pool g maxPlayers).1
      if minPlayers ≤ pool.playerCount then (pool, groups)
      else fillUntil minPlayers maxPlayers pool groups
    else fillUntil minPlayers maxPlayers pool groups

/-- `BattleGroundQueue::CheckNormalMatch`; `testing` is whether a battleground is tested. -/
def checkNormalMatch (bracketId : Fin maxBattlegroundBrackets) (minPlayers maxPlayers : Nat)
    (invitationType : Nat) (testing : Bool) : (Team → SelectionPool) × Bool :=
  let filled (team : Team) :=
    s.fillUntil minPlayers maxPlayers .init (s.queuedGroups ⟨bracketId, .normal team⟩)
  let pools (team : Team) := (filled team).1
  let enough (pools : Team → SelectionPool) : Bool :=
    minPlayers ≤ (pools .alliance).playerCount && minPlayers ≤ (pools .horde).playerCount
  let fewer : Team :=
    if (pools .horde).playerCount < (pools .alliance).playerCount then .horde else .alliance
  let balanced :=
    if invitationType ≠ 0 && enough pools then
      update pools fewer
        (s.fillPool (pools fewer.other).playerCount (pools fewer) (filled fewer).2)
    else pools
  let difference : Int := (balanced .horde).playerCount - (balanced .alliance).playerCount
  if invitationType ≠ 0 && enough pools && 2 < difference.natAbs then (balanced, false)
  else if testing && ((balanced .alliance).playerCount ≠ 0 || (balanced .horde).playerCount ≠ 0)
  then (balanced, true)
  else (balanced, enough balanced)

/-- The first `g` after `ginfo` is taken out of a list. -/
def eraseAfter (ginfo g : Nat) : List Nat → List Nat
  | [] => []
  | first :: groups =>
    if first = ginfo then first :: groups.erase g else first :: eraseAfter ginfo g groups

/-- A group behind `ginfo` in the queue of its faction changes sides. -/
def splitGroup (bracketId : Fin maxBattlegroundBrackets) (team : Team) (ginfo : Nat)
    (s : BattleGroundQueue) (g : Nat) : BattleGroundQueue :=
  let place : QueuePlace := ⟨bracketId, .normal team⟩
  let otherPlace : QueuePlace := ⟨bracketId, .normal team.other⟩
  let pushed := update s.queuedGroups otherPlace (g :: s.queuedGroups otherPlace)
  { s.modifyGroup g fun ginfo => { ginfo with groupTeam := team.other } with
    queuedGroups := update pushed place (eraseAfter ginfo g (pushed place)) }

/-- `BattleGroundQueue::CheckSkirmishForSameFaction` with the pools of `CheckNormalMatch`. -/
def checkSkirmishForSameFaction (bracketId : Fin maxBattlegroundBrackets)
    (pools : Team → SelectionPool) (minPlayers : Nat) :
    BattleGroundQueue × (Team → SelectionPool) × Bool :=
  if (pools .alliance).playerCount < minPlayers && (pools .horde).playerCount < minPlayers then
    (s, pools, false)
  else
    let team : Team := if (pools .horde).playerCount = minPlayers then .horde else .alliance
    let groups := s.queuedGroups ⟨bracketId, .normal team⟩
    match (pools team).selectedGroups.getLast? with
    | none => (s, pools, false)
    | some ginfo =>
      if ginfo ∉ groups then (s, update pools team.other .init, false)
      else
        let otherPool := s.fillPool minPlayers .init (groups.dropWhile (· ≠ ginfo)).tail
        let pools := update pools team.other otherPool
        if otherPool.playerCount ≠ minPlayers then (s, pools, false)
        else (otherPool.selectedGroups.foldl (splitGroup bracketId team ginfo) s, pools, true)

/-- The rating of the team that joined last or, in an automatic update, of the team that waits for
the longest time. -/
def arenaRatingOf (bracketId : Fin maxBattlegroundBrackets) (arenaRating : Nat) : Option Nat :=
  let front (team : Team) := (s.queuedGroups ⟨bracketId, .premade team⟩).head?.bind s.groups
  if arenaRating ≠ 0 then some arenaRating
  else match front .alliance, front .horde with
    | none, none => none
    | some front1, none => some front1.arenaTeamRating
    | none, some front2 => some front2.arenaTeamRating
    | some front1, some front2 =>
      if front1.joinTime < front2.joinTime then some front1.arenaTeamRating
      else some front2.arenaTeamRating

def ratingMatches (minRating maxRating : Nat) (discardTime : Int) (g : Nat) : Bool :=
  (s.groups g).any fun ginfo =>
    ginfo.isInvitedToBGInstanceGUID = 0 &&
      ((minRating ≤ ginfo.arenaTeamRating && ginfo.arenaTeamRating ≤ maxRating) ||
        int32 ginfo.joinTime < discardTime)

def ratedTeams (bracketId : Fin maxBattlegroundBrackets) (eligible : Nat → Bool)
    (maxPlayers : Nat) : Option (Nat × Nat) :=
  let groups (team : Team) := s.queuedGroups ⟨bracketId, .premade team⟩
  let fits (g : Nat) : Bool := 0 < (s.addToPool .init g maxPlayers).1.playerCount
  let first (team : Team) := ((groups team).find? eligible).filter fits
  let next (team : Team) (g : Nat) :=
    (((groups team).dropWhile (· ≠ g)).tail.find? fun g =>
      eligible g && (s.groups g).any fun ginfo => ginfo.arenaTeamId ≠ 0).filter fits
  match first .alliance, first .horde with
  | some ali, some horde => some (ali, horde)
  | none, some horde => (next .horde horde).map fun ali => (ali, horde)
  | some ali, none => (next .alliance ali).map fun horde => (ali, horde)
  | none, none => none

def moveRated (bracketId : Fin maxBattlegroundBrackets) (team : Team) (g : Nat) :
    BattleGroundQueue :=
  match s.groups g with
  | none => s
  | some ginfo =>
    if ginfo.groupTeam ≠ team then
      { s with
        queuedGroups :=
          move s.queuedGroups ⟨bracketId, .premade team.other⟩ ⟨bracketId, .premade team⟩ g }
    else s

def startRated (bracketId : Fin maxBattlegroundBrackets) (ali horde : Nat)
    (instanceId removeInviteTime : Nat) : BattleGroundQueue :=
  let ratingOf (g : Nat) := (s.groups g).elim 0 (·.arenaTeamRating)
  let rated := (s.modifyGroup ali fun ginfo =>
    { ginfo with opponentsTeamRating := ratingOf horde }).modifyGroup horde fun ginfo =>
      { ginfo with opponentsTeamRating := ratingOf ali }
  let moved := (rated.moveRated bracketId .alliance ali).moveRated bracketId .horde horde
  (moved.inviteGroupToBG ali (some .alliance) instanceId removeInviteTime).inviteGroupToBG horde
    (some .horde) instanceId removeInviteTime

/-- The rated part of `BattleGroundQueue::Update`; `arena` is the instance of the arena, if one could
be created. -/
def updateRated (bracketId : Fin maxBattlegroundBrackets) (arenaRating maxRatingDifference : Nat)
    (discardTime : Int) (maxPlayers : Nat) (arena : Option Nat) (removeInviteTime : Nat) :
    BattleGroundQueue :=
  match s.arenaRatingOf bracketId arenaRating with
  | none => s
  | some rating =>
    let minRating := if rating ≤ maxRatingDifference then 0 else rating - maxRatingDifference
    let maxRating := (rating + maxRatingDifference) % 2 ^ 32
    match s.ratedTeams bracketId (s.ratingMatches minRating maxRating discardTime) maxPlayers, arena with
    | some (ali, horde), some instanceId =>
      s.startRated bracketId ali horde instanceId removeInviteTime
    | _, _ => s

end BattleGroundQueue

/-- What happens to the queue. A group is invited for its own team here; in a rated match, where it
need not be, the invitation is part of the match. -/
inductive QueueEvent
  | addGroup (bracketId : Fin maxBattlegroundBrackets) (party : QueueParty)
      (isRated isPremade : Bool) (joinTime arenaRating arenaTeamId : Nat)
  | removePlayer (guid : Nat)
  | inviteGroupToBG (g instanceId removeInviteTime : Nat)
  | checkPremadeMatch (bracketId : Fin maxBattlegroundBrackets)
      (minPlayers maxPlayers timeBefore : Nat)
  | checkSkirmish (bracketId : Fin maxBattlegroundBrackets)
      (minPlayers maxPlayers invitationType : Nat)
  | updateRated (bracketId : Fin maxBattlegroundBrackets)
      (arenaRating maxRatingDifference : Nat) (discardTime : Int) (maxPlayers : Nat)
      (arena : Option Nat) (removeInviteTime : Nat)

def queueStep (s : BattleGroundQueue) : QueueEvent → BattleGroundQueue
  | .addGroup bracketId party isRated isPremade joinTime arenaRating arenaTeamId =>
    s.addGroup bracketId party isRated isPremade joinTime arenaRating arenaTeamId
  | .removePlayer guid => s.removePlayer guid
  | .inviteGroupToBG g instanceId removeInviteTime =>
    s.inviteGroupToBG g ((s.groups g).map (·.groupTeam)) instanceId removeInviteTime
  | .checkPremadeMatch bracketId minPlayers maxPlayers timeBefore =>
    (s.checkPremadeMatch bracketId minPlayers maxPlayers timeBefore).1
  | .checkSkirmish bracketId minPlayers maxPlayers invitationType =>
    (s.checkSkirmishForSameFaction bracketId
      (s.checkNormalMatch bracketId minPlayers maxPlayers invitationType false).1 minPlayers).1
  | .updateRated bracketId arenaRating maxRatingDifference discardTime maxPlayers arena
      removeInviteTime =>
      s.updateRated bracketId arenaRating maxRatingDifference discardTime maxPlayers arena
        removeInviteTime

end Mangos
