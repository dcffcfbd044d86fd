import Mathlib.Algebra.Group.Nat.Defs
import Mathlib.Order.Nat

/-!
# The rank of an aura for a target

A buff cast on a target of a lower level is replaced by an earlier rank of it.
-/

namespace Mangos

structure SpellEffectEntry where
  effect : Nat
  effectImplicitTargetA : Nat

def maxEffectIndex : Nat := 3

/-- The rows of a spell that rank selection looks at: `spellLevels` is what `GetSpellLevels` finds and
`spellEffect` what `GetSpellEffect` finds. -/
structure SpellEntry where
  id : Nat
  attributes : Nat := 0
  spellLevels : Option Nat
  spellEffect : Fin maxEffectIndex → Option SpellEffectEntry

structure SpellChainNode where
  prev : Nat
  first : Nat
  rank : Nat

namespace Targets

def allPartyAroundCaster : Nat := 20
def singleFriend : Nat := 21
def allFriendlyUnitsAroundCaster : Nat := 30
def allFriendlyUnitsInArea : Nat := 31
def allParty : Nat := 33
def allPartyAroundCaster2 : Nat := 34
def singleParty : Nat := 35
def areaeffectParty : Nat := 37
def chainHeal : Nat := 45
def allRaidAroundCaster : Nat := 56
def singleFriend2 : Nat := 57
def areaeffectPartyAndClass : Nat := 61
def target119 : Nat := 119

end Targets

def spellEffectApplyAura : Nat := 6
def spellEffectApplyAreaAuraParty : Nat := 35
def spellEffectApplyAreaAuraRaid : Nat := 65
def spellAttrPassive : Nat := 0x40

def isExplicitPositiveTarget (targetA : Nat) : Bool :=
  [Targets.singleFriend, Targets.singleParty, Targets.chainHeal, Targets.singleFriend2,
    Targets.areaeffectPartyAndClass].contains targetA

def isAreaEffectPossitiveTarget (target : Nat) : Bool :=
  [Targets.allPartyAroundCaster, Targets.allFriendlyUnitsAroundCaster,
    Targets.allFriendlyUnitsInArea, Targets.allParty, Targets.allPartyAroundCaster2,
    Targets.areaeffectParty, Targets.allRaidAroundCaster, Targets.areaeffectPartyAndClass,
    Targets.target119].contains target

namespace SpellEntry

def getSpellLevel (s : SpellEntry) : Nat := s.spellLevels.getD 0

def hasAttribute (s : SpellEntry) (flag : Nat) : Bool := s.attributes &&& flag != 0

def isPassiveSpell (s : SpellEntry) : Bool := s.hasAttribute spellAttrPassive

end SpellEntry

/-- The spells and their chains of ranks, in which `prev` leads down in no circle. Which effects are
positive is left open. -/
structure SpellMgr where
  spellStore : Nat → Option SpellEntry
  spellChains : Nat → Option SpellChainNode
  isPositiveEffect : SpellEntry → Fin maxEffectIndex → Bool
  wellFounded : WellFounded fun prev id =>
    id ≠ 0 ∧ (spellChains id).elim 0 SpellChainNode.prev = prev

namespace SpellMgr

variable (mgr : SpellMgr)

def getPrevSpellInChain (id : Nat) : Nat := (mgr.spellChains id).elim 0 SpellChainNode.prev

def getSpellRank (id : Nat) : Nat := (mgr.spellChains id).elim 0 SpellChainNode.rank

/-- The test of one effect in the loop of `SelectAuraRankForLevel`. -/
def effectNeedsRank (s : SpellEntry) (i : Fin maxEffectIndex) : Bool :=
  match s.spellEffect i with
  | none => false
  | some e =>
    (e.effect == spellEffectApplyAura &&
        (isExplicitPositiveTarget e.effectImplicitTargetA ||
          isAreaEffectPossitiveTarget e.effectImplicitTargetA) ||
      e.effect == spellEffectApplyAreaAuraParty || e.effect == spellEffectApplyAreaAuraRaid) &&
    mgr.isPositiveEffect s i

def needRankSelection (s : SpellEntry) : Bool :=
  (List.finRange maxEffectIndex).any (mgr.effectNeedsRank s)

/-- The walk of `SelectAuraRankForLevel` from `nextSpellId` on. The level it asks for is that of
`spellInfo`, which does not change. -/
def walkRanks (spellInfo : SpellEntry) (level nextSpellId : Nat) : Option SpellEntry :=
  if _ : nextSpellId = 0 then none
  else match mgr.spellStore nextSpellId with
    | none => none
    | some nextSpellInfo =>
      if spellInfo.getSpellLevel ≤ (level + 10) % 2 ^ 32 then some nextSpellInfo
      else walkRanks spellInfo level (mgr.getPrevSpellInChain nextSpellId)
termination_by mgr.wellFounded.wrap nextSpellId
decreasing_by exact ⟨by assumption, rfl⟩

/-- `SpellMgr::SelectAuraRankForLevel`; the level is a word. -/
def selectAuraRankForLevel (spellInfo : SpellEntry) (level : Nat) : Option SpellEntry :=
  if spellInfo.getSpellLevel ≤ (level + 10) % 2 ^ 32 then some spellInfo
  else if spellInfo.isPassiveSpell then some spellInfo
  else if !mgr.needRankSelection spellInfo || mgr.getSpellRank spellInfo.id == 0 then some spellInfo
  else mgr.walkRanks spellInfo level spellInfo.id

/-- The spells on the way down from `id`, up to the first rank or to one that is not in the store. -/
def ranksFrom (id : Nat) : List SpellEntry :=
  if _ : id = 0 then []
  else match mgr.spellStore id with
    | none => []
    | some s => s :: ranksFrom (mgr.getPrevSpellInChain id)
termination_by mgr.wellFounded.wrap id
decreasing_by exact ⟨by assumption, rfl⟩

/-- The given spell and the ranks before it, from the last to the first. -/
def wayDown (s : SpellEntry) : List SpellEntry := s :: mgr.ranksFrom (mgr.getPrevSpellInChain s.id)

/-- The spell that rank selection is meant to find: the first on the way down for the level. -/
def rankForLevel (s : SpellEntry) (level : Nat) : Option SpellEntry :=
  (mgr.wayDown s).find? fun r => r.getSpellLevel ≤ level + 10

variable {mgr}

theorem walkRanks_of_lt {spellInfo : SpellEntry} {level : Nat}
    (h : (level + 10) % 2 ^ 32 < spellInfo.getSpellLevel) (id : Nat) : mgr.walkRanks spellInfo level id = none := by
  induction id using mgr.wellFounded.induction with
  | _ id ih =>
    rw [walkRanks]
    split
    next => rfl
    next hne =>
      cases mgr.spellStore id with
      | none => rfl
      | some next =>
        dsimp only
        rw [if_neg (Nat.not_le_of_gt h)]
        exact ih _ ⟨hne, rfl⟩

theorem selectAuraRankForLevel_eq {s : SpellEntry} (hpassive : s.isPassiveSpell = false)
    (hneed : mgr.needRankSelection s) (hrank : mgr.getSpellRank s.id ≠ 0) (level : Nat) :
    mgr.selectAuraRankForLevel s level =
      if s.getSpellLevel ≤ (level + 10) % 2 ^ 32 then some s else none := by
  rw [selectAuraRankForLevel]
  split
  next => rfl
  next hlevel => simp [hpassive, hneed, hrank, walkRanks_of_lt (Nat.lt_of_not_le hlevel)]

end SpellMgr

/-- The right rank is found exactly when the given spell will do, or when no rank will. -/
theorem selectAuraRankForLevel_right_iff {mgr : SpellMgr} {s : SpellEntry}
    (hpassive : s.isPassiveSpell = false) (hneed : mgr.needRankSelection s)
    (hrank : mgr.getSpellRank s.id ≠ 0) (level : Nat) : mgr.selectAuraRankForLevel s level = mgr.rankForLevel s level ↔
      s.getSpellLevel ≤ (level + 10) % 2 ^ 32 ∨ ∀ r ∈ mgr.wayDown s, level + 10 < r.getSpellLevel := by
  rw [SpellMgr.selectAuraRankForLevel_eq hpassive hneed hrank, SpellMgr.rankForLevel]
  by_cases hlevel : s.getSpellLevel ≤ (level + 10) % 2 ^ 32
  · have hfirst : s.getSpellLevel ≤ level + 10 := hlevel.trans (Nat.mod_le _ _)
    rw [if_pos hlevel, SpellMgr.wayDown, List.find?_cons_of_pos (by simpa using hfirst)]
    exact ⟨fun _ => .inl hlevel, fun _ => rfl⟩
  · simp only [hlevel, if_false, false_or, eq_comm (a := (none : Option SpellEntry)),
      List.find?_eq_none, decide_eq_true_eq, Nat.not_le]

private def fortitude (id level : Nat) : SpellEntry where
  id := id
  spellLevels := some level
  spellEffect := Function.const (Fin maxEffectIndex) (some ⟨spellEffectApplyAura, Targets.singleParty⟩)

private def fortitudeRanks : List (Nat × SpellChainNode) :=
  [(1243, ⟨0, 1243, 1⟩), (1244, ⟨1243, 1243, 2⟩), (1245, ⟨1244, 1243, 3⟩)]

private theorem prev_lt (id : Nat) (h : id ≠ 0) : (List.lookup id fortitudeRanks).elim 0 SpellChainNode.prev < id := by
  simp only [fortitudeRanks, List.lookup_cons, List.lookup_nil]
  grind

private def fortitudeMgr : SpellMgr where
  spellStore id := List.lookup id
    [(1243, fortitude 1243 1), (1244, fortitude 1244 12), (1245, fortitude 1245 24)]
  spellChains id := List.lookup id fortitudeRanks
  isPositiveEffect _ _ := true
  wellFounded := Subrelation.wf (fun h => h.2 ▸ prev_lt _ h.1) Nat.lt_wfRel.wf

theorem fortitude_right_for_twenty : fortitudeMgr.selectAuraRankForLevel (fortitude 1245 24) 20 =
      fortitudeMgr.rankForLevel (fortitude 1245 24) 20 :=
  (selectAuraRankForLevel_right_iff (by decide) (by decide) (by decide) 20).mpr (.inl (by decide))

/-- For a target of level 3 the second rank would do, and no rank is found. -/
theorem fortitude_lost_for_three : (fortitude 1245 24).isPassiveSpell = false ∧
      fortitudeMgr.needRankSelection (fortitude 1245 24) = true ∧ fortitudeMgr.getSpellRank 1245 ≠ 0 ∧
      fortitudeMgr.rankForLevel (fortitude 1245 24) 3 = some (fortitude 1244 12) ∧
      fortitudeMgr.selectAuraRankForLevel (fortitude 1245 24) 3 = none := by
  refine ⟨by decide, by decide, by decide, ?_, ?_⟩
  · have hprev : fortitudeMgr.getPrevSpellInChain 1245 = 1244 := by decide
    have hstore : fortitudeMgr.spellStore 1244 = some (fortitude 1244 12) := rfl
    rw [SpellMgr.rankForLevel, SpellMgr.wayDown]
    change List.find? _ (fortitude 1245 24 :: fortitudeMgr.ranksFrom
      (fortitudeMgr.getPrevSpellInChain 1245)) = _
    rw [hprev, SpellMgr.ranksFrom, dif_neg (by decide), hstore]
    rfl
  · rw [SpellMgr.selectAuraRankForLevel_eq (by decide) (by decide) (by decide)]
    rfl

end Mangos
