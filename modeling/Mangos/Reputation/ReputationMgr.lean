import Mathlib.Data.List.FinRange
import Mathlib.Logic.Function.Basic
import Mathlib.Order.Nat

/-!
# The reputation manager

A player has a standing with each faction, which is counted from a base that the faction has for their race
and class.
-/

namespace Mangos

open Function

inductive ReputationRank
  | hated | hostile | unfriendly | neutral | friendly | honored | revered | exalted
  deriving DecidableEq, Repr

namespace ReputationRank

def toNat : ReputationRank → Nat
  | hated => 0
  | hostile => 1
  | unfriendly => 2
  | neutral => 3
  | friendly => 4
  | honored => 5
  | revered => 6
  | exalted => 7

/-- `ReputationMgr::PointsInRank`. -/
def points : ReputationRank → Int32
  | hated => 36000
  | hostile | unfriendly | neutral => 3000
  | friendly => 6000
  | honored => 12000
  | revered => 21000
  | exalted => 1000

def fromHighest : List ReputationRank :=
  [exalted, revered, honored, friendly, neutral, unfriendly, hostile, hated]

end ReputationRank

def reputationCap : Int32 := 42999

def reputationBottom : Int32 := -42000

/-- The loop of `ReputationToRank`. -/
def reputationToRankFrom (standing : Int32) : Int32 → List ReputationRank → ReputationRank
  | _, [] => .hated
  | limit, rank :: ranks =>
    if limit - rank.points ≤ standing then rank
    else reputationToRankFrom standing (limit - rank.points) ranks

def reputationToRank (standing : Int32) : ReputationRank :=
  reputationToRankFrom standing (reputationCap + 1) ReputationRank.fromHighest

def guildRepFaction : UInt32 := 1168

def factionFlagVisible : UInt32 := 0x01
def factionFlagAtWar : UInt32 := 0x02
def factionFlagHidden : UInt32 := 0x04
def factionFlagInvisibleForced : UInt32 := 0x08
def factionFlagPeaceForced : UInt32 := 0x10

structure FactionEntry where
  id : UInt32
  reputationListID : Int32
  baseRepRaceMask : Fin 4 → UInt32
  baseRepClassMask : Fin 4 → UInt32
  baseRepValue : Fin 4 → Int32

def FactionEntry.getIndexFitTo (entry : FactionEntry) (raceMask classMask : UInt32) : Option (Fin 4) :=
  (List.finRange 4).find? fun i =>
    (entry.baseRepRaceMask i = 0 ∨ entry.baseRepRaceMask i &&& raceMask ≠ 0) ∧
      (entry.baseRepClassMask i = 0 ∨ entry.baseRepClassMask i &&& classMask ≠ 0)

structure FactionState where
  flags : UInt32
  standing : Int32
  needSend : Bool
  needSave : Bool
  deriving DecidableEq, Repr

namespace FactionState

variable (faction : FactionState)

/-- `ReputationMgr::SetVisible`; `true` where the faction was not visible before. -/
def setVisible : FactionState × Bool :=
  if faction.flags &&& (factionFlagInvisibleForced ||| factionFlagHidden) ≠ 0 then (faction, false)
  else if faction.flags &&& factionFlagVisible ≠ 0 then (faction, false)
  else
    ({ faction with flags := faction.flags ||| factionFlagVisible, needSend := true, needSave := true }, true)

def setAtWar (atWar : Bool) : FactionState :=
  if atWar ∧ faction.flags &&& factionFlagPeaceForced ≠ 0 ∧
      reputationToRank faction.standing ≠ .hated then faction
  else if (faction.flags &&& factionFlagAtWar != 0) = atWar then faction
  else
    { faction with
      flags :=
        if atWar then faction.flags ||| factionFlagAtWar else faction.flags &&& ~~~factionFlagAtWar
      needSend := true
      needSave := true }

@[simp] theorem setVisible_standing : faction.setVisible.1.standing = faction.standing := by
  rw [setVisible]
  split
  · rfl
  · split <;> rfl

@[simp] theorem setAtWar_standing (atWar : Bool) : (faction.setAtWar atWar).standing = faction.standing := by
  rw [setAtWar]
  split
  · rfl
  · split <;> rfl

end FactionState

/-- `weekReputation` is `thisWeekReputation` of the player's slot in the guild they are in. -/
structure ReputationMgr where
  raceMask : UInt32
  classMask : UInt32
  visibleFactionCount : UInt8
  honoredFactionCount : UInt8
  reveredFactionCount : UInt8
  exaltedFactionCount : UInt8
  factions : UInt32 → Option FactionState
  weekReputation : Option UInt32

namespace ReputationMgr

variable (m : ReputationMgr)

def getBaseReputation (entry : FactionEntry) : Int32 :=
  (entry.getIndexFitTo m.raceMask m.classMask).elim 0 entry.baseRepValue

/-- What `GetReputation` returns for a faction of the list. -/
def total (entry : FactionEntry) : Option Int32 :=
  (m.factions entry.reputationListID.toUInt32).map fun faction =>
    faction.standing + m.getBaseReputation entry

def countRank (count : UInt8) (rank oldRank newRank : ReputationRank) : UInt8 :=
  let others := if rank.toNat ≤ oldRank.toNat then count - 1 else count
  if rank.toNat ≤ newRank.toNat then others + 1 else others

def updateRankCounters (oldRank newRank : ReputationRank) : ReputationMgr :=
  { m with
    exaltedFactionCount := countRank m.exaltedFactionCount .exalted oldRank newRank
    reveredFactionCount := countRank m.reveredFactionCount .revered oldRank newRank
    honoredFactionCount := countRank m.honoredFactionCount .honored oldRank newRank }

def weeklyChange (cap week : UInt32) (standing : Int32) : Int32 :=
  if standing.toUInt32 + week > cap then if cap > week then (cap - week).toInt32 else 0 else standing

def earn (cap : UInt32) (entry : FactionEntry) (standing : Int32) : Int32 × Option UInt32 :=
  if entry.id = guildRepFaction then
    match m.weekReputation with
    | none => (standing, none)
    | some week =>
      let capped := weeklyChange cap week standing
      (capped, some (week + capped.toUInt32))
  else (standing, m.weekReputation)

def bounded (standing : Int32) : Int32 :=
  if standing > reputationCap then reputationCap
  else if standing < reputationBottom then reputationBottom
  else standing

/-- `ReputationMgr::SetOneFactionReputation`; `true` where the rank is higher afterwards. -/
def setOneFactionReputation (cap : UInt32) (entry : FactionEntry) (standing : Int32)
    (incremental : Bool) : ReputationMgr × Bool :=
  match m.factions entry.reputationListID.toUInt32 with
  | none => (m, false)
  | some faction =>
    let baseRep := m.getBaseReputation entry
    let earned := if incremental then m.earn cap entry standing else (standing, m.weekReputation)
    let total := bounded (if incremental then earned.1 + (faction.standing + baseRep) else earned.1)
    let oldRank := reputationToRank (faction.standing + baseRep)
    let newRank := reputationToRank total
    let shown := FactionState.setVisible
      { faction with standing := total - baseRep, needSend := true, needSave := true }
    let updated := if newRank.toNat ≤ ReputationRank.hostile.toNat then shown.1.setAtWar true else shown.1
    let counted := updateRankCounters
      { m with
        factions := update m.factions entry.reputationListID.toUInt32 (some updated)
        weekReputation := earned.2
        visibleFactionCount := m.visibleFactionCount + if shown.2 then 1 else 0 } oldRank newRank
    (counted, oldRank.toNat < newRank.toNat)

theorem setOneFactionReputation_spec {m : ReputationMgr} {entry : FactionEntry} {old : Int32}
    (h : m.total entry = some old) (cap : UInt32) (change : Int32) :
    (m.setOneFactionReputation cap entry change true).1.total entry =
        some (bounded ((m.earn cap entry change).1 + old)) ∧
      (m.setOneFactionReputation cap entry change true).1.weekReputation = (m.earn cap entry change).2 := by
  obtain ⟨faction, hfaction, hold⟩ := Option.map_eq_some_iff.mp h
  rw [setOneFactionReputation, hfaction]
  constructor
  · change Option.map (fun state : FactionState => state.standing + m.getBaseReputation entry)
      (update m.factions _ (some _) _) = _
    rw [update_self, Option.map_some, hold]
    simp only [if_true]
    split <;> simp
  · rfl

end ReputationMgr

end Mangos
