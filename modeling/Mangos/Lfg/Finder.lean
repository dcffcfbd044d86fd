import Mangos.Lfg.Boot
import Mangos.Group.Group
import Mangos.Framework.OrdMap
import Mangos.Framework.Run

/-!
# The dungeon finder

`LFGMgr` with what it keeps for players and groups, the queues with the entries that they point at, and the
search matrix, in which the players are listed under the dungeons that they look for.
-/

namespace Mangos

open Framework Std

inductive LFGType
  | none | dungeon | raid | quest | zone | heroicDungeon | randomDungeon
  deriving DecidableEq, Repr

inductive LFGDungeonStatus
  | saved | notSaved | offerContinue | complete
  deriving DecidableEq, Repr

structure LFGDungeonEntry where
  id : Nat
  type : LFGType
  deriving DecidableEq, Repr

/-- The guid of what is queued. -/
inductive LFGGuid
  | player (guid : Nat)
  | group (gid : Nat)
  deriving DecidableEq, Repr

/-- The set of dungeons is listed in the order in which the code walks through it. -/
structure LFGPlayerState where
  dungeons : List LFGDungeonEntry := []
  type : LFGType := .none
  state : LFGState := .none
  answer : LFGAnswer := .pending
  deriving DecidableEq, Repr

def typeOfDungeons (dungeons : List LFGDungeonEntry) : LFGType :=
  (dungeons.head?.map (·.type)).getD .none

namespace LFGPlayerState

variable (lfg : LFGPlayerState)

def setDungeons (dungeons : List LFGDungeonEntry) : LFGPlayerState :=
  { lfg with dungeons := dungeons, type := typeOfDungeons dungeons }

def removeDungeon (dungeon : LFGDungeonEntry) : LFGPlayerState :=
  lfg.setDungeons (lfg.dungeons.filter (· ≠ dungeon))

end LFGPlayerState

/-- The fields of `LFGGroupState` that joining and proposals work on. `proposal` is the id behind the
pointer to the group's proposal, which stays when the proposal is erased. -/
structure PartyState where
  dungeons : List LFGDungeonEntry := []
  type : LFGType := .none
  state : LFGState := .none
  status : LFGDungeonStatus := .notSaved
  dungeon : Option LFGDungeonEntry := none
  proposal : Option Nat := none
  deriving DecidableEq, Repr

/-- A `Group` with its `LFGGroupState`. `raidSize` is how many players its raid difficulty asks for. -/
structure Party where
  leader : Nat
  members : List Nat
  raid : Bool := false
  raidSize : Nat := 10
  lfd : Bool := false
  lfg : PartyState := {}
  deriving DecidableEq, Repr

namespace Party

variable (party : Party)

def isLFGGroup : Bool := party.lfd && !party.raid

def isFull : Bool :=
  if party.raid then maxRaidSize ≤ party.members.length
  else maxGroupSize ≤ party.members.length

def fewestMembers : Nat := if party.lfd then 1 else 2

def convertToLFG : LFGType → Party
  | .raid => { party with raid := true, lfd := true }
  | .none => party
  | _ => if party.raid then party else { party with lfd := true }

end Party

/-- An entry of `m_queueInfoMap`. A pointer to it is its `queueID`, which no other entry ever has. -/
structure LFGQueueInfo where
  guid : LFGGuid
  type : LFGType
  queueID : Nat
  deriving DecidableEq, Repr

structure LFGProposal where
  dungeon : LFGDungeonEntry
  group : Option Nat := none
  players : List Nat := []
  decliners : List Nat := []
  cancelTime : Nat := 0
  deleted : Bool := false
  deriving DecidableEq, Repr

def lfgTimeProposal : Nat := 120

/-- What has been done with proposals: one was created, a player was put into it, an answer was taken, it formed a
group. `formed` has the group's players in the world before others joined, `answered` who sent the answer and whom it
names. -/
inductive ProposalNote
  | created (id : Nat)
  | put (id guid : Nat)
  | answered (id sender guid : Nat) (accept : Bool)
  | formed (id : Nat) (present : List Nat)
  deriving DecidableEq, Repr

def ProposalNote.id : ProposalNote → Nat
  | .created id | .put id _ | .answered id _ _ _ | .formed id _ => id

/-- `world` says which players are in the world. `players` has a state for every player, since asking
for a missing one creates it. `log` is not in the code: it records what was done with proposals. -/
structure LFGMgr where
  world : Nat → Bool
  groupOf : Nat → Option Nat
  groups : Nat → Option Party
  nextGroup : Nat
  players : Nat → LFGPlayerState := fun _ => {}
  queueInfo : LFGGuid → Option LFGQueueInfo := fun _ => none
  queueID : Nat := 0
  playerQueue : LFGType → List Nat := fun _ => []
  groupQueue : LFGType → List Nat := fun _ => []
  searchMatrix : LFGDungeonEntry → Option (List Nat) := fun _ => none
  proposals : ExtTreeMap Nat LFGProposal := ∅
  proposalID : Nat := 0
  now : Nat := 0
  debug : Bool := false
  log : List ProposalNote := []

namespace LFGMgr

variable (m : LFGMgr)

/-- Nobody uses the dungeon finder yet. The groups are numbered by their places in the list. -/
def start (world : Nat → Bool) (parties : List Party) (debug : Bool) : LFGMgr where
  world := world
  groupOf guid := parties.findIdx? (guid ∈ ·.members)
  groups gid := (parties[gid]?).map fun party => { party with lfg := {} }
  nextGroup := parties.length
  debug := debug

def setPlayer (guid : Nat) (f : LFGPlayerState → LFGPlayerState) : LFGMgr :=
  { m with players := Function.update m.players guid (f (m.players guid)) }

def setPlayers (guids : List Nat) (f : LFGPlayerState → LFGPlayerState) : LFGMgr :=
  { m with players := fun guid => if guid ∈ guids then f (m.players guid) else m.players guid }

def setState (guids : List Nat) (state : LFGState) : LFGMgr :=
  m.setPlayers guids fun lfg => { lfg with state := state }

def setParty (gid : Nat) (f : Party → Party) : LFGMgr :=
  { m with groups := Function.update m.groups gid ((m.groups gid).map f) }

/-- A change of the group's `LFGGroupState`. -/
def setPartyState (gid : Nat) (f : PartyState → PartyState) : LFGMgr :=
  m.setParty gid fun party => { party with lfg := f party.lfg }

def setProposal (id : Nat) (f : LFGProposal → LFGProposal) : LFGMgr :=
  { m with proposals := m.proposals.modify id f }

def note (n : ProposalNote) : LFGMgr := { m with log := m.log ++ [n] }

def present (gid : Nat) : List Nat :=
  ((m.groups gid).map (·.members)).getD [] |>.filter
    fun guid => m.world guid && m.groupOf guid == some gid

def getGroup (guid : Nat) : Option (Nat × Party) :=
  (m.groupOf guid).bind fun gid => (m.groups gid).map fun party => (gid, party)

def removeFromQueue (guid : LFGGuid) : LFGMgr :=
  match m.queueInfo guid with
  | none => m
  | some info =>
    let dropFrom (queue : LFGType → List Nat) : LFGType → List Nat :=
      Function.update queue info.type ((queue info.type).filter (· ≠ info.queueID))
    let queueInfo := Function.update m.queueInfo guid none
    match guid with
    | .group _ => { m with queueInfo := queueInfo, groupQueue := dropFrom m.groupQueue }
    | .player _ => { m with queueInfo := queueInfo, playerQueue := dropFrom m.playerQueue }

/-- The end of `LFGMgr::AddToQueue`, when no entry of the guid is left. -/
def insertInQueue (guid : LFGGuid) (type : LFGType) : LFGMgr :=
  let id := m.queueID + 1
  let addTo (queue : LFGType → List Nat) : LFGType → List Nat :=
    Function.update queue type ((queue type).insert id)
  let queueInfo := Function.update m.queueInfo guid (some ⟨guid, type, id⟩)
  match guid with
  | .group _ => { m with queueID := id, queueInfo := queueInfo, groupQueue := addTo m.groupQueue }
  | .player _ => { m with queueID := id, queueInfo := queueInfo, playerQueue := addTo m.playerQueue }

def addToQueue (guid : LFGGuid) (type : LFGType) : LFGMgr :=
  if type = .none then m else (m.removeFromQueue guid).insertInQueue guid type

/-- The players under a dungeon after `guid` was added. An entry that is there without players is not
replaced by `insert`. -/
def addApplicant (guid : Nat) : Option (List Nat) → Option (List Nat)
  | none => some [guid]
  | some [] => some []
  | some guids => some (guids.insert guid)

def addToSearchMatrix (guid : Nat) : LFGMgr :=
  if m.world guid then
    { m with
      searchMatrix := fun dungeon =>
        if dungeon ∈ (m.players guid).dungeons then addApplicant guid (m.searchMatrix dungeon)
        else m.searchMatrix dungeon }
  else m

/-- The players under a dungeon after `guid` was taken out; an entry that this empties is erased. -/
def dropApplicant (guid : Nat) : Option (List Nat) → Option (List Nat)
  | none => none
  | some [] => some []
  | some guids =>
    let left := guids.filter (· ≠ guid)
    if left = [] then none else some left

def removeFromSearchMatrix (guid : Nat) : LFGMgr :=
  if m.world guid then
    { m with
      searchMatrix := fun dungeon =>
        if dungeon ∈ (m.players guid).dungeons then dropApplicant guid (m.searchMatrix dungeon)
        else m.searchMatrix dungeon }
  else m

def cleanupSearchMatrix : LFGMgr :=
  { m with searchMatrix := fun dungeon => (m.searchMatrix dungeon).map (·.filter fun g => m.world g) }

def unqueue (guid : Nat) : LFGMgr :=
  (m.removeFromQueue (.player guid)).removeFromSearchMatrix guid

/-- What `LFGMgr::Leave` does for one player. -/
def leaveQueue (guid : Nat) : LFGMgr := (m.unqueue guid).setPlayer guid fun _ => {}

/-- `LFGMgr::Leave` for the leader of a group. -/
def leaveGroup (gid : Nat) (party : Party) : LFGMgr :=
  let m₁ := m.removeFromQueue (.group gid)
  let m₂ := match party.lfg.state, party.lfg.proposal with
    | .proposal, some id => m₁.setProposal id ({ · with deleted := true })
    | _, _ => m₁
  (run leaveQueue m₂ (m.present gid)).setPartyState gid fun _ => {}

def leave (guid : Nat) : LFGMgr :=
  match m.getGroup guid with
  | none => m.leaveQueue guid
  | some (gid, party) => if guid = party.leader then m.leaveGroup gid party else m

/-- `LFGMgr::Leave` for a group, by way of its leader. -/
def leaveAsLeader (gid : Nat) : LFGMgr :=
  match m.groups gid with
  | none => m
  | some party => if m.world party.leader then m.leave party.leader else m

def addMemberToLFDGroup (guid : Nat) : LFGMgr :=
  if m.world guid then
    match m.getGroup guid with
    | none => m
    | some (_, party) =>
      (m.unqueue guid).setPlayer guid fun lfg => { lfg with state := party.lfg.state }
  else m

def offerContinue (gid : Nat) : LFGMgr :=
  m.setPartyState gid fun lfg =>
    if lfg.dungeon = none ∨ lfg.status = .offerContinue ∨ lfg.status = .complete then lfg
    else { lfg with status := .offerContinue }

/-- Between `LFG_STATE_LFG` and `LFG_STATE_FINISHED_DUNGEON`. -/
def isUnderWay : LFGState → Bool
  | .rolecheck | .queued | .proposal | .boot | .dungeon => true
  | _ => false

/-- `LFGMgr::RemoveMemberFromLFDGroup` for a group of the dungeon finder, which the player has left. -/
def removeMemberFromLFDGroup (gid guid : Nat) : LFGMgr :=
  if m.world guid then
    let m₁ := match m.groups gid with
      | none => m
      | some party =>
        if party.isLFGGroup ∧ 1 < party.members.length ∧ isUnderWay party.lfg.state then
          m.offerContinue gid
        else m
    (m₁.leave guid).setPlayer guid fun _ => {}
  else m

def setGroup (guid : Nat) (gid : Option Nat) : LFGMgr :=
  { m with groupOf := Function.update m.groupOf guid gid }

def deleteGroup (gid : Nat) : LFGMgr :=
  { m with
    groups := Function.update m.groups gid none
    groupOf := fun guid => if m.groupOf guid = some gid then none else m.groupOf guid }

/-- One member's turn in `Group::Disband`. -/
def disbandMember (gid : Nat) (lfd : Bool) (guid : Nat) : LFGMgr :=
  if m.world guid then
    let m₁ := m.setGroup guid none
    if lfd then m₁.removeMemberFromLFDGroup gid guid else m₁
  else m

/-- `Group::_removeMember`. -/
def unlinkMember (gid guid : Nat) : LFGMgr :=
  let m₁ := if m.world guid then m.setGroup guid none else m
  m₁.setParty gid fun party =>
    { party with
      members := party.members.filter (· ≠ guid)
      leader :=
        if party.leader = guid then
          ((m₁.present gid).find? (· ≠ guid)).getD party.leader
        else party.leader }

def loseMember (gid guid : Nat) (lfd : Bool) : LFGMgr :=
  let m₁ := m.unlinkMember gid guid
  if lfd then m₁.removeMemberFromLFDGroup gid guid else m₁

/-- `Group::RemoveMember`, and the group's destruction when at most one member is left. -/
def removeMember (gid guid : Nat) (logout : Bool) : LFGMgr :=
  match m.groups gid with
  | none => m
  | some party =>
    if logout ∧ party.leader = guid then m
    else if party.fewestMembers < party.members.length then
      let m₁ := m.loseMember gid guid party.lfd
      if (party.members.filter (· ≠ guid)).length ≤ 1 then m₁.deleteGroup gid else m₁
    else (run (fun m g => m.disbandMember gid party.lfd g) m party.members).deleteGroup gid

def removeFromGroup (guid : Nat) (logout : Bool) : LFGMgr :=
  match m.groupOf guid with
  | none => m
  | some gid => m.removeMember gid guid logout

def addMember (gid guid : Nat) : LFGMgr :=
  match m.groups gid with
  | none => m
  | some party =>
    if guid ∈ party.members ∨ party.isFull then m
    else
      let m₁ := m.setParty gid fun party => { party with members := party.members ++ [guid] }
      let m₂ := if m.groupOf guid = none then m₁.setGroup guid (some gid) else m₁
      if party.lfd then m₂.addMemberToLFDGroup guid else m₂

end LFGMgr

end Mangos
