import Mangos.Lfg.Finder

/-!
# Proposals of the dungeon finder

A proposal is sent to the players that a search has put together, they answer it, and when all have agreed a
group is created or filled from it.
-/

namespace Mangos.LFGMgr

open Framework Std

variable (m : LFGMgr)

/-- `LFGProposal::GetGroup`; nothing when the group is gone. -/
def proposalGroup (p : LFGProposal) : Option Nat := p.group.filter fun gid => (m.groups gid).isSome

def askPlayer (id guid : Nat) : LFGMgr :=
  let m₁ := m.setProposal id fun p =>
    { p with players := p.players.insert guid, cancelTime := m.now + lfgTimeProposal }
  (m₁.setPlayer guid fun lfg =>
    { lfg with state := .proposal, answer := .pending }).removeFromSearchMatrix guid

def awaitAnswers : Option Nat → LFGMgr
  | none => m
  | some gid => m.setPartyState gid fun lfg => { lfg with state := .proposal }

def sendProposal (id guid : Nat) : LFGMgr :=
  match m.proposals[id]? with
  | none => m
  | some p =>
    if m.world guid then
      ((m.askPlayer id guid).awaitAnswers (m.proposalGroup p)).note (.put id guid)
    else m

def newProposalId (gid : Option Nat) : Nat :=
  match (gid.bind m.groups).bind (·.lfg.proposal) with
  | some id => if id = 0 then m.proposalID + 1 else id
  | none => m.proposalID + 1

def askGroup (id : Nat) : Option Nat → LFGMgr
  | none => m
  | some gid =>
    (m.setPartyState gid fun lfg => { lfg with proposal := some id, state := .proposal }).setPlayers
      (m.present gid) fun lfg => { lfg with state := .proposal, answer := .pending }

/-- The start of `LFGMgr::CreateProposal`: the proposal is entered, in the place of an older one with its
id, and the group is asked. -/
def enterProposal (id : Nat) (dungeon : LFGDungeonEntry) (gid : Option Nat) : LFGMgr :=
  let p : LFGProposal := { dungeon, group := gid, cancelTime := m.now + lfgTimeProposal }
  -- an id that is not newly generated is an older one
  let m₁ : LFGMgr :=
    { m with proposals := m.proposals.insert id p, proposalID := max m.proposalID id }
  (m₁.askGroup id gid).note (.created id)

def createProposal (dungeon : LFGDungeonEntry) (gid : Option Nat) (guids : List Nat) : LFGMgr :=
  let id := m.newProposalId gid
  run (fun m guid => m.sendProposal id guid) (m.enterProposal id dungeon gid) guids

def removeDecliner (id decliner : Nat) : LFGMgr :=
  m.setProposal id fun p =>
    { p with
      players := p.players.filter (· ≠ decliner)
      decliners := p.decliners.insert decliner }

/-- `LFGMgr::RemoveProposal` for a player who declined. -/
def declineProposal (decliner id : Nat) : LFGMgr :=
  match m.proposals[id]? with
  | none => m
  | some p =>
    if p.deleted then m
    else
      let m₁ := m.setProposal id ({ · with deleted := true })
      match m.proposalGroup p with
      | some gid =>
        if m.groupOf decliner = some gid then m₁.leaveAsLeader gid
        else (m₁.removeDecliner id decliner).leave decliner
      | none => (m₁.removeDecliner id decliner).leave decliner

/-- One player's turn when a proposal has failed: who had agreed goes back into the queue, without being
listed in the search matrix. -/
def requeuePlayer (type : LFGType) (guid : Nat) : LFGMgr :=
  if m.world guid then
    if (m.players guid).answer = .agree then
      (m.addToQueue (.player guid) type).setState [guid] .queued
    else m.removeFromQueue (.player guid)
  else m

def requeueGroup (type : LFGType) (gid : Nat) : LFGMgr :=
  let m₁ := m.setPartyState gid fun lfg => { lfg with proposal := none, state := .queued }
  if m.queueInfo (.group gid) = none then m₁.addToQueue (.group gid) type else m₁

/-- `LFGMgr::RemoveProposal` for a proposal without success. -/
def failProposal (id : Nat) : LFGMgr :=
  match m.proposals[id]? with
  | none => m
  | some p =>
    let m₁ := m.setProposal id ({ · with deleted := true })
    let m₂ := run (fun m guid => m.requeuePlayer p.dungeon.type guid) m₁ p.players
    let m₃ := match m.proposalGroup p with
      | none => m₂
      | some gid => m₂.requeueGroup p.dungeon.type gid
    { m₃ with proposals := m₃.proposals.erase id }

def isExpired (p : LFGProposal) : Bool := 0 < p.cancelTime && p.cancelTime < m.now

/-- `LFGMgr::CleanupProposals`; `LFGMgr::Update` skips a type that nobody is queued for. -/
def cleanupProposals (type : LFGType) : LFGMgr :=
  if m.playerQueue type = [] ∧ m.groupQueue type = [] then m
  else
    let due := m.proposals.toList.filter fun e =>
      e.2.dungeon.type = type ∧ (m.isExpired e.2 ∨ e.2.deleted)
    run failProposal m (due.map (·.1))

/-- What is drawn when a group is formed: the dungeon that a random one stands for, if one suits everybody, and the
player elected as the leader. -/
structure Draw where
  dungeon : Option LFGDungeonEntry
  leader : Nat
  deriving DecidableEq, Repr

/-- `LFGMgr::LeaderElection`: some player in the world, if there is any. -/
def leaderElection (guids : List Nat) (preferred : Nat) : Option Nat :=
  if preferred ∈ guids ∧ m.world preferred then some preferred else guids.find? (m.world ·)

def realDungeon (p : LFGProposal) (draw : Draw) : Option LFGDungeonEntry :=
  match ((m.proposalGroup p).bind m.groups).bind (·.lfg.dungeon) with
  | some dungeon => some dungeon
  | none => if p.dungeon.type = .randomDungeon then draw.dungeon else some p.dungeon

/-- `Group::Create` with a leader in the world, who is in no group, and `ConvertToLFG`. -/
def newGroup (id : Nat) (p : LFGProposal) (real : LFGDungeonEntry) (leader : Nat) : LFGMgr :=
  let party := (Party.convertToLFG { leader, members := [leader] } p.dungeon.type)
  let lfg : PartyState :=
    { state := .proposal, proposal := some id, dungeons := [p.dungeon], dungeon := some real }
  { m with
    groups := Function.update m.groups m.nextGroup (some { party with lfg })
    groupOf := Function.update m.groupOf leader (some m.nextGroup)
    nextGroup := m.nextGroup + 1 }

/-- `LFGProposal::RemoveMember`. -/
def removeProposed (id guid : Nat) : LFGMgr :=
  m.setProposal id fun p => { p with players := p.players.filter (· ≠ guid) }

def createLFDGroup (id : Nat) (p : LFGProposal) (real : LFGDungeonEntry) (leader : Nat) : LFGMgr :=
  ((m.newGroup id p real leader).addMemberToLFDGroup leader).removeProposed id leader

def convertGroup (gid : Nat) (p : LFGProposal) (real : LFGDungeonEntry) : LFGMgr :=
  let m₁ := m.setPartyState gid ({ · with dungeon := some real })
  if ((m.groups gid).map (·.isLFGGroup)).getD true then m₁
  else
    run addMemberToLFDGroup (m₁.setParty gid fun party => party.convertToLFG p.dungeon.type)
      (m.present gid)

def movePlayer (id gid guid : Nat) : LFGMgr :=
  let m₁ :=
    if m.world guid ∧ m.groupOf guid ≠ some gid then
      (m.removeFromGroup guid false).addMember gid guid
    else m
  m₁.removeProposed id guid

/-- The end of `LFGMgr::UpdateProposal`. -/
def fillGroup (id gid : Nat) (guids : List Nat) : LFGMgr :=
  let m₁ := run (fun m guid => m.movePlayer id gid guid) m guids
  let m₂ : LFGMgr := { m₁ with proposals := m₁.proposals.erase id }
  (m₂.setPartyState gid fun lfg =>
    { lfg with status := .notSaved, state := .dungeon }).removeFromQueue (.group gid)

/-- The part of `LFGMgr::UpdateProposal` that is reached when all have answered. -/
def formGroup (id : Nat) (p : LFGProposal) (draw : Draw) : LFGMgr :=
  match m.realDungeon p draw, m.proposalGroup p with
  | none, _ => m.setProposal id ({ · with deleted := true })
  | some real, some gid =>
    ((m.note (.formed id (m.present gid))).convertGroup gid p real).fillGroup id gid p.players
  | some real, none =>
    match m.leaderElection p.players draw.leader with
    | none => m.setProposal id ({ · with deleted := true })
    | some leader =>
      let m₁ := (m.note (.formed id [])).removeFromGroup leader false
      (m₁.createLFDGroup id p real leader).fillGroup id m₁.nextGroup p.players

def allAnswered (p : LFGProposal) : Bool :=
  (p.players.all fun guid => !m.world guid || (m.players guid).answer = .agree) &&
    (((m.proposalGroup p).map m.present).getD []).all fun guid => (m.players guid).answer = .agree

/-- `LFGMgr::UpdateProposal` lets the answer of a player through. -/
def admits (p : LFGProposal) (guid : Nat) : Bool :=
  m.world guid &&
    (guid ∈ p.players || (m.proposalGroup p).isNone || m.proposalGroup p = m.groupOf guid)

/-- `LFGMgr::UpdateProposal`, which is given the guid that the packet of `sender` names. -/
def updateProposal (sender id guid : Nat) (accept : Bool) (draw : Draw) : LFGMgr :=
  match m.proposals[id]? with
  | none => m
  | some p =>
    if m.admits p guid then
      let m₁ := (m.setPlayer guid ({ · with answer := if accept then .agree else .deny })).note
        (.answered id sender guid accept)
      if accept then
        if m₁.allAnswered p then m₁.formGroup id p draw else m₁
      else m₁.declineProposal guid id
    else m

/-!
## Runs of the dungeon finder

The requests of the players and the rounds of `LFGMgr::Update`, which may pick any selection of candidates
for a proposal.
-/

open Framework

variable (m : LFGMgr)

/-- `LFGMgr::GetGroupJoinResult`; `allowed` has the players whom their own checks let through. -/
def groupJoinOk (gid : Nat) (party : Party) (allowed : List Nat) : Bool :=
  (party.raid || party.members.length ≤ maxGroupSize) &&
    (!party.raid || party.lfg.type = .raid) && (m.present gid).all (· ∈ allowed)

def startRoleCheck (gid leader : Nat) : LFGMgr :=
  let m₁ := m.setPartyState gid fun lfg => { lfg with state := .rolecheck }
  let m₂ := m₁.setState ((m.present gid).filter (· ≠ leader)) .rolecheck
  m₂.setState ((m.present gid).filter (· = leader)) .queued

def enlistMembers (guids : List Nat) (joined : LFGState) : LFGMgr :=
  (run (fun m guid => m.removeFromQueue (.player guid)) m guids).setState guids joined

/-- A group joins the queue; `extend` is whether raids of the raid finder are extended. -/
def joinAsGroup (gid : Nat) (party : Party) (type : LFGType) (extend : Bool) : LFGMgr :=
  let joined : LFGState := if type = .raid then .lfr else .lfg
  let m₁ := m.addToQueue (.group gid) type
  match party.lfg.state with
  | .none | .finishedDungeon =>
    let m₂ := (m₁.setPartyState gid fun lfg =>
      { lfg with state := joined, status := .notSaved }).enlistMembers (m.present gid) joined
    if type = .raid ∧ extend then m₂.setParty gid fun party => party.convertToLFG type
    else m₂.startRoleCheck gid party.leader
  | .dungeon =>
    if type = .raid then m₁
    else
      ((m₁.setState (m.present gid) .lfg).setPartyState gid fun lfg =>
        { lfg with status := .notSaved }).startRoleCheck gid party.leader
  | _ => m

def joinAsPlayer (guid : Nat) (type : LFGType) : LFGMgr :=
  ((m.addToQueue (.player guid) type).addToSearchMatrix guid).setState [guid]
    (if type = .raid then .lfr else .queued)

def join (guid : Nat) (allowed : List Nat) (extend : Bool) : LFGMgr :=
  let type := (m.players guid).type
  match m.getGroup guid with
  | none =>
    if type = .none then m
    else if (m.queueInfo (.player guid)).isSome then m.removeFromQueue (.player guid)
    else if guid ∈ allowed ∧ (m.players guid).dungeons ≠ [] then m.joinAsPlayer guid type
    else m.setPlayer guid fun _ => {}
  | some (gid, party) =>
    if (guid ≠ party.leader ∧ party.lfg.status ≠ .offerContinue) ∨ type = .none then m
    else
      let m₁ := m.removeFromQueue (.group gid)
      if (m.queueInfo (.group gid)).isSome ∧ party.lfg.state ≠ .dungeon then m₁
      else if m.groupJoinOk gid party allowed then m₁.joinAsGroup gid party type extend
      else m₁.setPlayer guid fun _ => {}

/-- `WorldSession::HandleLfgJoinOpcode`. -/
def handleLfgJoin (guid : Nat) (dungeons : List LFGDungeonEntry) (allowed : List Nat)
    (extend : Bool) : LFGMgr :=
  let m₁ := m.setPlayer guid (·.setDungeons dungeons)
  let m₂ := match m.getGroup guid with
    | none => m₁
    | some (gid, party) =>
      if party.leader = guid then
        m₁.setPartyState gid fun lfg =>
          { lfg with dungeons := dungeons, type := typeOfDungeons dungeons }
      else m₁
  m₂.join guid allowed extend

/-- `WorldSession::HandleLfrLeaveOpcode`. -/
def handleLfrLeave (guid : Nat) (dungeon : LFGDungeonEntry) : LFGMgr :=
  if m.getGroup guid = none then
    let m₁ := m.setPlayer guid (·.removeDungeon dungeon)
    if (m₁.players guid).dungeons = [] then m₁.leave guid else m₁
  else m

def clearLFRList (guid : Nat) : LFGMgr :=
  (m.setPlayer guid (·.setDungeons [])).removeFromQueue (.player guid)

/-- `LFGMgr::UpdateRoleCheck`; `chosen` has the members who have chosen a role, and `fit` is whether
their roles fit together. -/
def updateRoleCheck (gid : Nat) (chosen : List Nat) (fit : Bool) : LFGMgr :=
  match m.groups gid with
  | none => m
  | some party =>
    if party.lfg.state = .rolecheck then
      let ready := (m.present gid).filter fun g => (m.players g).state = .queued ∨ g ∈ chosen
      let m₁ := m.setState ready .queued
      if ready = m.present gid ∧ fit then m₁.setPartyState gid ({ · with state := .queued })
      else m₁
    else m

/-- `LFGMgr::CleanupRoleChecks` at a group whose time is up. -/
def cleanupRoleCheck (gid : Nat) : LFGMgr :=
  if (m.groups gid).map (·.lfg.state) = some .rolecheck then
    (m.setPartyState gid fun _ => {}).removeFromQueue (.group gid)
  else m

/-- `LFGMgr::IsGroupCompleted` without a group. -/
def isCompleted (count : Nat) : Bool := (m.debug && 2 < count) || maxGroupSize ≤ count

/-- `LFGMgr::IsGroupCompleted` for a group with additional members. -/
def isGroupCompleted (party : Party) (count : Nat) : Bool :=
  (m.debug && 2 < party.members.length + count) ||
    (if party.raid then party.raidSize else maxGroupSize) ≤ party.members.length + count

/-- `LFGMgr::TryCreateGroup` for the entry of a dungeon, out of whose players `picked` are taken. -/
def tryCreateGroup (entry : LFGDungeonEntry) (picked : List Nat) (dungeon : LFGDungeonEntry) :
    LFGMgr :=
  if picked.Nodup ∧ m.isCompleted picked.length ∧
      ∀ g ∈ picked, g ∈ (m.searchMatrix entry).getD [] ∧ m.world g ∧ dungeon ∈ (m.players g).dungeons then
    m.createProposal dungeon none picked
  else m

def isCandidate (type : LFGType) (guid : Nat) : Bool :=
  m.world guid && (m.players guid).state = .queued &&
    (m.queueInfo (.player guid)).any fun info => info.queueID ∈ m.playerQueue type

/-- `LFGMgr::TryCompleteGroups` at a group of the queue. -/
def tryCompleteGroup (type : LFGType) (gid : Nat) (picked : List Nat)
    (dungeon : LFGDungeonEntry) : LFGMgr :=
  match m.groups gid with
  | none => m
  | some party =>
    if (m.queueInfo (.group gid)).any (·.queueID ∈ m.groupQueue type) ∧
        party.lfg.state = .queued ∧ dungeon ∈ party.lfg.dungeons ∧ picked.Nodup ∧
        m.isGroupCompleted party picked.length ∧
        ∀ g ∈ picked, m.isCandidate type g ∧ dungeon ∈ (m.players g).dungeons then
      m.createProposal dungeon (some gid) picked
    else m

def logout (guid : Nat) (regular : Bool) : LFGMgr :=
  let raid := (m.getGroup guid).any (·.2.raid)
  let m₁ := if regular ∧ raid = false then m.removeFromGroup guid true else m
  { m₁ with world := Function.update m₁.world guid false }

inductive Op
  | join (guid : Nat) (dungeons : List LFGDungeonEntry) (allowed : List Nat) (extend : Bool)
  | leave (guid : Nat)
  | lfrLeave (guid : Nat) (dungeon : LFGDungeonEntry)
  | clearLFRList (guid : Nat)
  | setRoles (guid : Nat) (chosen : List Nat) (fit : Bool)
  | tryCreateGroup (entry : LFGDungeonEntry) (picked : List Nat) (dungeon : LFGDungeonEntry)
  | tryCompleteGroup (type : LFGType) (gid : Nat) (picked : List Nat) (dungeon : LFGDungeonEntry)
  | proposalResult (sender id guid : Nat) (accept : Bool) (draw : Draw)
  | cleanupProposals (type : LFGType)
  | cleanupRoleCheck (gid : Nat)
  | cleanupSearchMatrix
  | enterWorld (guid : Nat)
  | leaveWorld (guid : Nat)
  | logout (guid : Nat) (regular : Bool)
  | wait (time : Nat)
  deriving DecidableEq, Repr

def Op.sender : Op → Option Nat
  | .join guid .. | .leave guid | .lfrLeave guid _ | .clearLFRList guid | .setRoles guid .. => some guid
  | .proposalResult sender .. => some sender
  | .leaveWorld guid | .logout guid _ => some guid
  | _ => none

def handle : Op → LFGMgr
  | .join guid dungeons allowed extend => m.handleLfgJoin guid dungeons allowed extend
  | .leave guid => m.leave guid
  | .lfrLeave guid dungeon => m.handleLfrLeave guid dungeon
  | .clearLFRList guid => m.clearLFRList guid
  | .setRoles guid chosen fit =>
    match m.getGroup guid with
    | none => m
    | some (gid, _) => m.updateRoleCheck gid chosen fit
  | .tryCreateGroup entry picked dungeon => m.tryCreateGroup entry picked dungeon
  | .tryCompleteGroup type gid picked dungeon => m.tryCompleteGroup type gid picked dungeon
  | .proposalResult sender id guid accept draw => m.updateProposal sender id guid accept draw
  | .cleanupProposals type => m.cleanupProposals type
  | .cleanupRoleCheck gid => m.cleanupRoleCheck gid
  | .cleanupSearchMatrix => m.cleanupSearchMatrix
  | .enterWorld guid => { m with world := Function.update m.world guid true }
  | .leaveWorld guid => { m with world := Function.update m.world guid false }
  | .logout guid regular => m.logout guid regular
  | .wait time => { m with now := m.now + time }

def step (op : Op) : LFGMgr := if op.sender.all (m.world ·) then m.handle op else m

end Mangos.LFGMgr
