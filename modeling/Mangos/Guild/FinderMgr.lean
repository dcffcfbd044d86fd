import Mangos.BattleGround.Queue
import Mangos.Framework.Assoc
import Mangos.Framework.OrdMap
import Mangos.Framework.Run
import Mangos.Framework.Table
import Std.Data.ExtTreeMap

/-!
# The guild finder and its tables

Requests of players to join guilds, and what guilds are looking for, are kept in memory and in two tables.
-/

namespace Mangos

open Std Framework

/-- A request to join a guild; a row of `guild_finder_applicant` has the same fields. -/
structure MembershipRequest where
  guildId : Nat
  playerGuid : Nat
  availability : UInt8
  classRoles : UInt8
  interests : UInt8
  comment : String
  submitTime : Nat
  deriving DecidableEq

/-- The row of a request, where the time has 32 bits. -/
def MembershipRequest.row (r : MembershipRequest) : MembershipRequest :=
  { r with submitTime := r.submitTime % 2 ^ 32 }

/-- A row of `guild_finder_guild_settings`. -/
structure GuildSettingsRow where
  guildId : Nat
  availability : UInt8
  classRoles : UInt8
  interests : UInt8
  level : UInt8
  listed : Bool
  comment : String
  deriving DecidableEq

/-- What a guild is looking for, with the team that no row tells. -/
structure LFGuildSettings where
  row : GuildSettingsRow
  team : Team
  deriving DecidableEq

def applicantKey (r : MembershipRequest) : Nat × Nat := (r.guildId, r.playerGuid)

structure FinderTables where
  applicants : Table applicantKey
  guildSettings : Table GuildSettingsRow.guildId

inductive FinderStatement
  | replaceApplicant (row : MembershipRequest)
  | deleteApplicant (guildId playerGuid : Nat)
  | replaceSettings (row : GuildSettingsRow)
  | deleteSettings (guildId : Nat)
  deriving DecidableEq

namespace FinderTables

variable (t : FinderTables)

def empty : FinderTables := ⟨.empty applicantKey, .empty GuildSettingsRow.guildId⟩

def execute : FinderStatement → FinderTables
  | .replaceApplicant row => { t with applicants := t.applicants.replace row }
  | .deleteApplicant guildId playerGuid =>
    { t with applicants := t.applicants.delete (guildId, playerGuid) }
  | .replaceSettings row => { t with guildSettings := t.guildSettings.replace row }
  | .deleteSettings guildId => { t with guildSettings := t.guildSettings.delete guildId }

end FinderTables

structure GuildFinderMgr where
  guildSettings : ExtTreeMap Nat LFGuildSettings
  membershipRequests : ExtTreeMap Nat (List MembershipRequest)

/-- What else the load queries see: the characters, the races of the members that a guild is joined with, the orders
of rows, and the races of the horde. -/
structure FinderWorld where
  hasName : Nat → Bool
  memberRaces : Nat → List Nat
  isHorde : Nat → Bool
  settingsOrder : Shuffle (GuildSettingsRow × Nat)
  applicantOrder : Shuffle MembershipRequest

def FinderWorld.team (w : FinderWorld) (race : Nat) : Team := if w.isHorde race then .horde else .alliance

namespace GuildFinderMgr

variable (m : GuildFinderMgr)

def empty : GuildFinderMgr := ⟨∅, ∅⟩

def requestsOf (guildId : Nat) : List MembershipRequest := m.membershipRequests[guildId]?.getD []

def hasRequest (playerId guildId : Nat) : Bool :=
  (m.requestsOf guildId).any (·.playerGuid = playerId)

def joinedSettings (w : FinderWorld) (rows : List GuildSettingsRow) : List (GuildSettingsRow × Nat) :=
  rows.flatMap fun row =>
    if w.memberRaces row.guildId = [] then [(row, 0)]
    else (w.memberRaces row.guildId).map (row, ·)

/-- `LoadGuildSettings`, whose query has a limit of one row. -/
def loadGuildSettings (w : FinderWorld) (rows : List GuildSettingsRow) : GuildFinderMgr :=
  { m with
    guildSettings := ((w.settingsOrder.apply (joinedSettings w rows)).take 1).foldl
      (fun settings p => settings.insert p.1.guildId ⟨p.1, w.team p.2⟩) m.guildSettings }

/-- `LoadMembershipRequests`, without the requests of characters that are gone. -/
def loadMembershipRequests (w : FinderWorld) (rows : List MembershipRequest) : GuildFinderMgr :=
  { m with
    membershipRequests := ((w.applicantOrder.apply rows).filter (w.hasName ·.playerGuid)).foldl
      (fun requests r => upsert requests r.guildId [] (· ++ [r])) m.membershipRequests }

def loadFromDB (w : FinderWorld) (t : FinderTables) : GuildFinderMgr :=
  (empty.loadGuildSettings w t.guildSettings.rows).loadMembershipRequests w t.applicants.rows

def addMembershipRequest (guildGuid : Nat) (request : MembershipRequest) :
    GuildFinderMgr × List FinderStatement :=
  ({ m with membershipRequests := upsert m.membershipRequests guildGuid [] (· ++ [request]) },
    [.replaceApplicant request.row])

def removeAllMembershipRequestsFromPlayer (playerId : Nat) : GuildFinderMgr × List FinderStatement :=
  ({ m with
      membershipRequests :=
        m.membershipRequests.map fun _ requests => requests.eraseP (·.playerGuid = playerId) },
    m.membershipRequests.toList.filterMap fun p =>
      (p.2.find? (·.playerGuid = playerId)).map fun r => .deleteApplicant r.guildId r.playerGuid)

def removeMembershipRequest (playerId guildId : Nat) : GuildFinderMgr × List FinderStatement :=
  ({ m with
      membershipRequests :=
        upsert m.membershipRequests guildId [] (List.eraseP (·.playerGuid = playerId)) },
    (((m.requestsOf guildId).find? (·.playerGuid = playerId)).map fun r =>
      .deleteApplicant r.guildId r.playerGuid).toList)

def setGuildSettings (guildGuid : Nat) (settings : LFGuildSettings) :
    GuildFinderMgr × List FinderStatement :=
  ({ m with guildSettings := m.guildSettings.insert guildGuid settings }, [.replaceSettings settings.row])

/-- `DeleteGuild`, which deletes the row of the settings with each request. -/
def deleteGuild (guildId : Nat) : GuildFinderMgr × List FinderStatement :=
  ({ m with
      membershipRequests := m.membershipRequests.erase guildId
      guildSettings := m.guildSettings.erase guildId }, (m.requestsOf guildId).flatMap fun r =>
      [.deleteApplicant r.guildId r.playerGuid, .deleteSettings r.guildId])

end GuildFinderMgr

/-- The callers file a request under the guild that it names, and settings under the guild they are
of. -/
inductive FinderOp
  | addMembershipRequest (request : MembershipRequest)
  | removeAllMembershipRequestsFromPlayer (playerId : Nat)
  | removeMembershipRequest (playerId guildId : Nat)
  | setGuildSettings (settings : LFGuildSettings)
  | deleteGuild (guildId : Nat)

/-- The memory together with the tables. -/
structure FinderState where
  mgr : GuildFinderMgr
  tables : FinderTables

namespace FinderState

def start : FinderState := ⟨.empty, .empty⟩

variable (s : FinderState)

def perform (m : GuildFinderMgr) : FinderOp → GuildFinderMgr × List FinderStatement
  | .addMembershipRequest request => m.addMembershipRequest request.guildId request
  | .removeAllMembershipRequestsFromPlayer playerId => m.removeAllMembershipRequestsFromPlayer playerId
  | .removeMembershipRequest playerId guildId => m.removeMembershipRequest playerId guildId
  | .setGuildSettings settings => m.setGuildSettings settings.row.guildId settings
  | .deleteGuild guildId => m.deleteGuild guildId

/-- The operation changes the memory, and its statements are executed. -/
def step (s : FinderState) (op : FinderOp) : FinderState where
  mgr := (perform s.mgr op).1
  tables := (perform s.mgr op).2.foldl FinderTables.execute s.tables

/-- The tables hold what the memory holds, with one request at most for each player and guild. -/
structure Agree : Prop where
  requests : ∀ g r, r ∈ s.mgr.requestsOf g ↔ r.guildId = g ∧ s.tables.applicants.lookup (applicantKey r) = some r
  unique : ∀ g, ((s.mgr.requestsOf g).map (·.playerGuid)).Nodup
  settings : ∀ g : Nat, (s.mgr.guildSettings[g]?).map (·.row) = s.tables.guildSettings.lookup g

/-- The characters who want to join are there, and the members of a guild are of its team. -/
structure Fits (m : GuildFinderMgr) (w : FinderWorld) : Prop where
  names : ∀ g, ∀ r ∈ m.requestsOf g, w.hasName r.playerGuid = true
  teams : ∀ (g : Nat) settings, m.guildSettings[g]? = some settings →
    ∀ race ∈ if w.memberRaces g = [] then [0] else w.memberRaces g, w.team race = settings.team

/-- The same requests for each guild, in whatever order, and the same settings. -/
structure SameStores (m m' : GuildFinderMgr) : Prop where
  requests : ∀ g, (m.requestsOf g).Perm (m'.requestsOf g)
  settings : ∀ g : Nat, m.guildSettings[g]? = m'.guildSettings[g]?

/-- Memory and tables agree, and loading the tables rebuilds the memory. -/
structure Consistent : Prop where
  agree : s.Agree
  load : ∀ w, Fits s.mgr w → SameStores s.mgr (GuildFinderMgr.loadFromDB w s.tables)

/-- The operations that keep memory and tables together. A player asks for a guild once, before the
times outgrow 32 bits; one guild at most has settings; a guild that is deleted has a request if it has
settings. -/
def Proper (s : FinderState) : FinderOp → Prop
  | .addMembershipRequest request =>
    s.mgr.hasRequest request.playerGuid request.guildId = false ∧ request.submitTime < 2 ^ 32
  | .setGuildSettings settings =>
    ∀ g : Nat, g ≠ settings.row.guildId → s.mgr.guildSettings[g]? = none
  | .deleteGuild guildId =>
    s.mgr.requestsOf guildId ≠ [] ∨ s.mgr.guildSettings[guildId]? = none
  | _ => True

end FinderState

end Mangos
