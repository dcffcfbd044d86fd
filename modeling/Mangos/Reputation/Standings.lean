import Mathlib.Data.List.Range
import Mangos.Framework.Run
import Mangos.Reputation.ReputationMgr

/-!
# The standings of a player

The standings are set up from the store of factions and read from the database.
-/

namespace Mangos

open Function

/-- Floating point numbers, with what is done to them here. -/
structure Floats (F : Type) where
  ofInt : Int32 → F
  mul : F → F → F
  toInt : F → Int32
  /-- The absolute value is above `M_NULL_F`. -/
  notNull : F → Bool

def maxSpilloverFactions : Nat := 5

structure RepSpilloverTemplate (F : Type) where
  faction : Fin maxSpilloverFactions → UInt32
  factionRate : Fin maxSpilloverFactions → F
  factionRank : Fin maxSpilloverFactions → UInt32

/-- A `FactionEntry` with the fields that are of use here only. -/
structure FactionRow (F : Type) extends FactionEntry where
  reputationFlags : Fin 4 → UInt32
  team : UInt32
  spilloverRateIn : F
  spilloverRateOut : F
  spilloverMaxRankIn : UInt32

/-- `sFactionStore`, in which 0 stands for no faction and a place in the list is that of one faction. -/
structure FactionStore (F : Type) where
  numRows : UInt32
  lookupEntry : UInt32 → Option (FactionRow F)
  lookupEntry_zero : lookupEntry 0 = none
  lookupEntry_lt : ∀ {id row}, lookupEntry id = some row → id < numRows
  lookupEntry_id : ∀ {id row}, lookupEntry id = some row → row.id = id
  listed_once : ∀ {id id' row row'}, lookupEntry id = some row → lookupEntry id' = some row' →
    0 ≤ row.reputationListID → row.reputationListID = row'.reputationListID → id = id'

/-- The factions of the reputation list, in the order of the store. -/
def FactionStore.listed {F : Type} (store : FactionStore F) : List (FactionRow F) :=
  (List.range' 1 (store.numRows.toNat - 1)).filterMap fun i =>
    (store.lookupEntry (UInt32.ofNat i)).filter fun row => 0 ≤ row.reputationListID

/-- What the server knows of the factions: the store, `repSpilloverTemplate` and `sFactionTeamMap`. -/
structure FactionTables (F : Type) where
  store : FactionStore F
  floats : Floats F
  spilloverTemplate : UInt32 → Option (RepSpilloverTemplate F)
  teamList : UInt32 → Option (List UInt32)

def factionFlagInactive : UInt32 := 0x20
def factionFlagTeamReputation : UInt32 := 0x80

namespace FactionState

variable (faction : FactionState)

def setInactive (inactive : Bool) : FactionState :=
  if inactive ∧ (faction.flags &&& (factionFlagInvisibleForced ||| factionFlagHidden) ≠ 0 ∨
      faction.flags &&& factionFlagVisible = 0) then faction
  else if (faction.flags &&& factionFlagInactive != 0) = inactive then faction
  else
    { faction with
      flags :=
        if inactive then faction.flags ||| factionFlagInactive
        else faction.flags &&& ~~~factionFlagInactive
      needSend := true
      needSave := true }

end FactionState

/-- A row of `character_reputation`. -/
structure ReputationRow where
  faction : UInt32
  standing : Int32
  flags : UInt32
  deriving DecidableEq, Repr

namespace ReputationMgr

variable {F : Type} (tables : FactionTables F) (m : ReputationMgr)

def getDefaultStateFlags (row : FactionRow F) : UInt32 :=
  (row.getIndexFitTo m.raceMask m.classMask).elim 0 row.reputationFlags

def getReputation (entry : FactionEntry) : Int32 := (m.total entry).getD 0

def getRank (entry : FactionEntry) : ReputationRank := reputationToRank (m.getReputation entry)

def setState (entry : FactionEntry) (faction : FactionState) : ReputationMgr :=
  { m with factions := update m.factions entry.reputationListID.toUInt32 (some faction) }

/-- What `Initialize` does for a faction of the list. -/
def initializeFaction (row : FactionRow F) : ReputationMgr :=
  let flags := m.getDefaultStateFlags row
  let m :=
    if flags &&& factionFlagVisible ≠ 0 then
      { m with visibleFactionCount := m.visibleFactionCount + 1 }
    else m
  let m := m.updateRankCounters .hostile (reputationToRank (m.getBaseReputation row.toFactionEntry))
  m.setState row.toFactionEntry ⟨flags, 0, true, true⟩

/-- `ReputationMgr::Initialize`. -/
def initializeFactions : ReputationMgr :=
  tables.store.listed.foldl initializeFaction
    { m with
      factions := fun _ => none
      visibleFactionCount := 0
      honoredFactionCount := 0
      reveredFactionCount := 0
      exaltedFactionCount := 0 }

def loadedState (forcedReactions : UInt32 → Option ReputationRank) (entry : FactionEntry)
    (dbFactionFlags : UInt32) (faction : FactionState) : FactionState × Bool :=
  let shown := if dbFactionFlags &&& factionFlagVisible ≠ 0 then faction.setVisible else (faction, false)
  let state :=
    if dbFactionFlags &&& factionFlagInactive ≠ 0 then shown.1.setInactive true else shown.1
  let state :=
    if dbFactionFlags &&& factionFlagAtWar ≠ 0 then state.setAtWar true
    else if state.flags &&& factionFlagVisible ≠ 0 then state.setAtWar false
    else state
  let rank := (forcedReactions entry.id).getD
    (reputationToRank (state.standing + m.getBaseReputation entry))
  let state := if rank.toNat ≤ ReputationRank.hostile.toNat then state.setAtWar true else state
  let state :=
    if state.flags = dbFactionFlags then { state with needSend := false, needSave := false } else state
  (state, shown.2)

/-- What `LoadFromDB` does for a row of the database. -/
def loadRow (forcedReactions : UInt32 → Option ReputationRank) (row : ReputationRow) : ReputationMgr :=
  match tables.store.lookupEntry row.faction with
  | none => m
  | some entry =>
    if entry.reputationListID < 0 then m
    else
      let faction := (m.factions entry.reputationListID.toUInt32).getD ⟨0, 0, false, false⟩
      let baseRep := m.getBaseReputation entry.toFactionEntry
      let loaded := m.loadedState forcedReactions entry.toFactionEntry row.flags
        { faction with standing := row.standing }
      let m := m.updateRankCounters (reputationToRank baseRep)
        (reputationToRank (baseRep + row.standing))
      { m.setState entry.toFactionEntry loaded.1 with
        visibleFactionCount := m.visibleFactionCount + if loaded.2 then 1 else 0 }

def loadFromDB (forcedReactions : UInt32 → Option ReputationRank) (rows : List ReputationRow) :
    ReputationMgr :=
  rows.foldl (loadRow tables · forcedReactions) (m.initializeFactions tables)

def changeFaction (cap : UInt32) (id : UInt32) (standing : Int32) (incremental : Bool) :
    ReputationMgr × Bool :=
  match tables.store.lookupEntry id with
  | none => (m, false)
  | some entry => m.setOneFactionReputation cap entry.toFactionEntry standing incremental

def getReputationRank (id : UInt32) : ReputationRank :=
  ((tables.store.lookupEntry id).map fun entry => m.getRank entry.toFactionEntry).getD
    (reputationToRank 0)

def spillTemplate (cap : UInt32) (template : RepSpilloverTemplate F) (standing : Int32)
    (incremental : Bool) : ReputationMgr × Bool :=
  (List.finRange maxSpilloverFactions).foldl (fun (m, increased) i =>
    if template.faction i ≠ 0 ∧
        (m.getReputationRank tables (template.faction i)).toNat ≤ (template.factionRank i).toNat then
      let spilloverRep := tables.floats.toInt
        (tables.floats.mul (tables.floats.ofInt standing) (template.factionRate i))
      let changed := m.changeFaction tables cap (template.faction i) spilloverRep incremental
      (changed.1, increased || changed.2)
    else (m, increased)) (m, false)

def spillList (cap : UInt32) (entry : FactionRow F) (spillOverRepOut : F) (incremental : Bool)
    (flist : List UInt32) : ReputationMgr × Bool :=
  flist.foldl (fun (m, increased) id =>
    match tables.store.lookupEntry id with
    | none => (m, increased)
    | some other =>
      if other.id = entry.id ∨
          other.spilloverMaxRankIn.toNat < (m.getRank other.toFactionEntry).toNat then (m, increased)
      else
        let spilloverRep := tables.floats.toInt (tables.floats.mul spillOverRepOut other.spilloverRateIn)
        if spilloverRep ≠ 0 ∨ !incremental then
          let changed := m.setOneFactionReputation cap other.toFactionEntry spilloverRep incremental
          (changed.1, increased || changed.2)
        else (m, increased)) (m, false)

def spillTeam (cap : UInt32) (entry : FactionRow F) (standing : Int32) (incremental : Bool) :
    ReputationMgr × Bool :=
  let spillOverRepOut := tables.floats.ofInt standing
  match tables.teamList entry.id with
  | some flist => m.spillList tables cap entry spillOverRepOut incremental flist
  | none =>
    if entry.team ≠ 0 ∧ tables.floats.notNull entry.spilloverRateOut then
      let spillOverRepOut := tables.floats.mul spillOverRepOut entry.spilloverRateOut
      match tables.store.lookupEntry entry.team with
      | none => (m, false)
      | some parent =>
        if (m.factions parent.reputationListID.toUInt32).any
            fun state => state.flags &&& factionFlagTeamReputation ≠ 0 then
          m.setOneFactionReputation cap parent.toFactionEntry (tables.floats.toInt spillOverRepOut)
            incremental
        else
          m.spillList tables cap entry spillOverRepOut incremental
            ((tables.teamList entry.team).getD [])
    else (m, false)

/-- `ReputationMgr::SendState`, for a player who is in the world. -/
def sendState : ReputationMgr :=
  { m with factions := fun id => (m.factions id).map fun state => { state with needSend := false } }

def setReputation (cap : UInt32) (inWorld : Bool) (entry : FactionRow F) (standing : Int32)
    (incremental : Bool) : ReputationMgr :=
  let spilled := match tables.spilloverTemplate entry.id with
    | some template => m.spillTemplate tables cap template standing incremental
    | none => m.spillTeam tables cap entry standing incremental
  if (spilled.1.factions entry.reputationListID.toUInt32).isSome then
    let changed := spilled.1.setOneFactionReputation cap entry.toFactionEntry standing incremental
    if inWorld then changed.1.sendState else changed.1
  else spilled.1

def setVisible (entry : FactionEntry) : ReputationMgr :=
  if entry.reputationListID < 0 then m
  else
    match m.factions entry.reputationListID.toUInt32 with
    | none => m
    | some faction =>
      let shown := faction.setVisible
      { m.setState entry shown.1 with
        visibleFactionCount := m.visibleFactionCount + if shown.2 then 1 else 0 }

def setAtWar (repListID : UInt32) (atWar : Bool) : ReputationMgr :=
  match m.factions repListID with
  | none => m
  | some faction =>
    if faction.flags &&& (factionFlagInvisibleForced ||| factionFlagHidden) ≠ 0 then m
    else { m with factions := update m.factions repListID (some (faction.setAtWar atWar)) }

def setInactive (repListID : UInt32) (inactive : Bool) : ReputationMgr :=
  match m.factions repListID with
  | none => m
  | some faction =>
    { m with factions := update m.factions repListID (some (faction.setInactive inactive)) }

end ReputationMgr

/-- What is done with the standings of a player. The reputation of the week is kept by the guild. -/
inductive ReputationEvent
  | initializeFactions
  | loadFromDB (forcedReactions : UInt32 → Option ReputationRank) (rows : List ReputationRow)
  | setReputation (cap : UInt32) (inWorld : Bool) (id : UInt32) (standing : Int32) (incremental : Bool)
  | setVisible (id : UInt32)
  | setAtWar (repListID : UInt32) (atWar : Bool)
  | setInactive (repListID : UInt32) (inactive : Bool)
  | guildWeek (weekReputation : Option UInt32)

def reputationStep {F : Type} (tables : FactionTables F) (m : ReputationMgr) :
    ReputationEvent → ReputationMgr
  | .initializeFactions => m.initializeFactions tables
  | .loadFromDB forcedReactions rows => m.loadFromDB tables forcedReactions rows
  | .setReputation cap inWorld id standing incremental =>
    match tables.store.lookupEntry id with
    | none => m
    | some entry => m.setReputation tables cap inWorld entry standing incremental
  | .setVisible id =>
    match tables.store.lookupEntry id with
    | none => m
    | some entry => m.setVisible entry.toFactionEntry
  | .setAtWar repListID atWar => m.setAtWar repListID atWar
  | .setInactive repListID inactive => m.setInactive repListID inactive
  | .guildWeek weekReputation => { m with weekReputation }

def OneRow (_ : ReputationMgr) : ReputationEvent → Prop
  | .loadFromDB _ rows => (rows.map (·.faction)).Nodup
  | _ => True

def ReputationMgr.new (raceMask classMask : UInt32) : ReputationMgr :=
  { raceMask, classMask
    visibleFactionCount := 0
    honoredFactionCount := 0
    reveredFactionCount := 0
    exaltedFactionCount := 0
    factions := fun _ => none
    weekReputation := none }

end Mangos
