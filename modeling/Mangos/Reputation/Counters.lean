import Mangos.Framework.Counters
import Mangos.Framework.Words
import Mangos.Reputation.Standings

/-!
# The counters of the reputation list

A counter is a byte.
-/

namespace Mangos

open Framework Function

namespace FactionState

variable (faction : FactionState)

def isVisible : Bool := faction.flags &&& factionFlagVisible != 0

theorem or_and_visible {flag : UInt32} (word : UInt32) (h : flag &&& factionFlagVisible = 0) :
    (word ||| flag) &&& factionFlagVisible = word &&& factionFlagVisible :=
  UInt32.toBitVec_inj.mp (or_and_of_disjoint (UInt32.toBitVec_inj.mpr h))

theorem and_not_and_visible {flag : UInt32} (word : UInt32) (h : flag &&& factionFlagVisible = 0) :
    (word &&& ~~~flag) &&& factionFlagVisible = word &&& factionFlagVisible :=
  UInt32.toBitVec_inj.mp (and_not_and_of_disjoint (UInt32.toBitVec_inj.mpr h))

@[simp] theorem setAtWar_isVisible (atWar : Bool) : (faction.setAtWar atWar).isVisible = faction.isVisible := by
  rw [setAtWar]
  split_ifs with hforced hset hwar
  · rfl
  · rfl
  · rw [isVisible, isVisible, or_and_visible _ (by decide)]
  · rw [isVisible, isVisible, and_not_and_visible _ (by decide)]

@[simp] theorem setInactive_isVisible (inactive : Bool) :
    (faction.setInactive inactive).isVisible = faction.isVisible := by
  rw [setInactive]
  split_ifs with hforced hset hinactive
  · rfl
  · rfl
  · rw [isVisible, isVisible, or_and_visible _ (by decide)]
  · rw [isVisible, isVisible, and_not_and_visible _ (by decide)]

@[simp] theorem setInactive_standing (inactive : Bool) :
    (faction.setInactive inactive).standing = faction.standing := by
  rw [setInactive]
  split_ifs <;> rfl

end FactionState

def indicator (p : Bool) : UInt8 := if p then 1 else 0

theorem FactionState.setVisible_isVisible (faction : FactionState) : indicator faction.setVisible.1.isVisible =
      indicator faction.isVisible + if faction.setVisible.2 then 1 else 0 := by
  rw [FactionState.setVisible]
  by_cases hhidden : faction.flags &&& (factionFlagInvisibleForced ||| factionFlagHidden) ≠ 0
  · rw [if_pos hhidden]
    simp
  by_cases hvisible : faction.flags &&& factionFlagVisible ≠ 0
  · rw [if_neg hhidden, if_pos hvisible]
    simp
  have hnot : faction.isVisible = false := by
    rw [not_not] at hvisible
    rw [FactionState.isVisible, hvisible]
    rfl
  have hbits : (faction.flags ||| factionFlagVisible) &&& factionFlagVisible = factionFlagVisible := by
    apply UInt32.toBitVec_inj.mp
    rw [UInt32.toBitVec_and, UInt32.toBitVec_or]
    ext i
    simp only [BitVec.getElem_and, BitVec.getElem_or]
    cases factionFlagVisible.toBitVec[i] <;> simp
  rw [if_neg hhidden, if_neg hvisible, hnot, FactionState.isVisible, hbits]
  rfl

def FactionEntry.key (entry : FactionEntry) : UInt32 := entry.reputationListID.toUInt32

namespace FactionStore

variable {F : Type} {store : FactionStore F} {row row' : FactionRow F}

theorem mem_listed : row ∈ store.listed ↔ store.lookupEntry row.id = some row ∧ 0 ≤ row.reputationListID := by
  rw [listed, List.mem_filterMap]
  constructor
  · rintro ⟨i, -, hrow⟩
    obtain ⟨hlookup, hlist⟩ := Option.filter_eq_some_iff.mp hrow
    rw [store.lookupEntry_id hlookup]
    exact ⟨hlookup, by simpa using hlist⟩
  · rintro ⟨hlookup, hlist⟩
    refine ⟨row.id.toNat, ?_, ?_⟩
    · have hlt := store.lookupEntry_lt hlookup
      rw [UInt32.lt_iff_toNat_lt] at hlt
      have hpos : row.id.toNat ≠ 0 := by
        intro hzero
        have hid : row.id = 0 := UInt32.toNat_inj.mp hzero
        rw [hid, store.lookupEntry_zero] at hlookup
        cases hlookup
      rw [List.mem_range'_1]
      omega
    · rw [UInt32.ofNat_toNat, hlookup, Option.filter_some, if_pos (by simpa using hlist)]

theorem key_inj {a b : Int32} (h : a.toUInt32 = b.toUInt32) : a = b := by
  rw [← Int32.toInt32_toUInt32 a, h, Int32.toInt32_toUInt32]

theorem eq_of_key (h : row ∈ store.listed) (h' : store.lookupEntry row'.id = some row')
    (hkey : row.key = row'.key) : row = row' := by
  obtain ⟨hlookup, hlist⟩ := mem_listed.mp h
  have hid := store.listed_once hlookup h' hlist (key_inj hkey)
  rw [hid, h'] at hlookup
  exact (Option.some.inj hlookup).symm

theorem nodup_keys : (store.listed.map (·.key)).Nodup := by
  rw [List.Nodup, List.pairwise_map, listed, List.pairwise_filterMap]
  have hrange : (List.range' 1 (store.numRows.toNat - 1)).Pairwise fun i j =>
      i < j ∧ j < store.numRows.toNat := by
    apply List.Pairwise.imp_of_mem _ List.pairwise_lt_range'
    intro i j _ hj hlt
    rw [List.mem_range'_1] at hj
    exact ⟨hlt, by omega⟩
  apply hrange.imp
  intro i j hij row hrow row' hrow' hkey
  obtain ⟨hlookup, hlist⟩ := Option.filter_eq_some_iff.mp hrow
  obtain ⟨hlookup', -⟩ := Option.filter_eq_some_iff.mp hrow'
  have hid := store.listed_once hlookup hlookup' (by simpa using hlist) (key_inj hkey)
  have hsize := store.numRows.toNat_lt
  have hi : i % 2 ^ 32 = i := Nat.mod_eq_of_lt (by omega)
  have hj : j % 2 ^ 32 = j := Nat.mod_eq_of_lt (by omega)
  have hnat := congrArg UInt32.toNat hid
  rw [UInt32.toNat_ofNat', UInt32.toNat_ofNat', hi, hj] at hnat
  omega

end FactionStore

namespace ReputationMgr

variable {F : Type} {store : FactionStore F} {m m' : ReputationMgr} {row : FactionRow F}
  {entry : FactionEntry}

def isVisible (m : ReputationMgr) (entry : FactionEntry) : Bool :=
  (m.factions entry.key).any FactionState.isVisible

def isRanked (rank : ReputationRank) (m : ReputationMgr) (entry : FactionEntry) : Bool :=
  rank.toNat ≤ (m.getRank entry).toNat

def visibleFactions (store : FactionStore F) (m : ReputationMgr) : Nat :=
  store.listed.countP fun row => m.isVisible row.toFactionEntry

def rankedFactions (store : FactionStore F) (rank : ReputationRank) (m : ReputationMgr) : Nat :=
  store.listed.countP fun row => m.isRanked rank row.toFactionEntry

/-- The counters are the numbers of the factions, as bytes, and the player has states for factions of the
list. -/
structure Counted (store : FactionStore F) (m : ReputationMgr) : Prop where
  owned : ∀ key faction, m.factions key = some faction → ∃ row ∈ store.listed, row.key = key
  visible : m.visibleFactionCount = UInt8.ofNat (m.visibleFactions store)
  honored : m.honoredFactionCount = UInt8.ofNat (m.rankedFactions store .honored)
  revered : m.reveredFactionCount = UInt8.ofNat (m.rankedFactions store .revered)
  exalted : m.exaltedFactionCount = UInt8.ofNat (m.rankedFactions store .exalted)

/-- The state of one faction is changed, and the counters are moved by that. -/
structure Moves (entry : FactionEntry) (m m' : ReputationMgr) : Prop where
  raceMask : m'.raceMask = m.raceMask
  classMask : m'.classMask = m.classMask
  others : ∀ key ≠ entry.key, m'.factions key = m.factions key
  visible : m'.visibleFactionCount + indicator (m.isVisible entry) =
    m.visibleFactionCount + indicator (m'.isVisible entry)
  honored : m'.honoredFactionCount + indicator (m.isRanked .honored entry) =
    m.honoredFactionCount + indicator (m'.isRanked .honored entry)
  revered : m'.reveredFactionCount + indicator (m.isRanked .revered entry) =
    m.reveredFactionCount + indicator (m'.isRanked .revered entry)
  exalted : m'.exaltedFactionCount + indicator (m.isRanked .exalted entry) =
    m.exaltedFactionCount + indicator (m'.isRanked .exalted entry)

theorem ofNat_indicator (n : Nat) (p : Bool) : UInt8.ofNat (n + if p then 1 else 0) = UInt8.ofNat n + indicator p := by
  rw [UInt8.ofNat_add, indicator]
  cases p <;> rfl

theorem count_moved {p q : FactionRow F → Bool} {c c' : UInt8} (hrow : row ∈ store.listed)
    (hsame : ∀ other ∈ store.listed, other.key ≠ row.key → q other = p other)
    (hmove : c' + indicator (p row) = c + indicator (q row))
    (hc : c = UInt8.ofNat (store.listed.countP p)) : c' = UInt8.ofNat (store.listed.countP q) := by
  have hcount := congrArg UInt8.ofNat
    (countP_changeAt (p := p) (q := q) store.nodup_keys hrow hsame)
  rw [ofNat_indicator, ofNat_indicator, ← hc, ← hmove] at hcount
  exact ((UInt8.add_left_inj _).mp hcount).symm

theorem total_congr {entry : FactionEntry} (hrace : m'.raceMask = m.raceMask)
    (hclass : m'.classMask = m.classMask) (h : m'.factions entry.key = m.factions entry.key) :
    m'.total entry = m.total entry := by
  rw [FactionEntry.key] at h
  rw [total, total, h, getBaseReputation, getBaseReputation, hrace, hclass]

theorem Moves.counted (h : Moves row.toFactionEntry m m') (hrow : row ∈ store.listed)
    (hm : m.Counted store) : m'.Counted store := by
  have hvisible : ∀ other ∈ store.listed, other.key ≠ row.key →
      m'.isVisible other.toFactionEntry = m.isVisible other.toFactionEntry := by
    intro other _ hne
    rw [isVisible, isVisible, h.others _ hne]
  have hranked : ∀ rank, ∀ other ∈ store.listed, other.key ≠ row.key →
      m'.isRanked rank other.toFactionEntry = m.isRanked rank other.toFactionEntry := by
    intro rank other _ hne
    rw [isRanked, isRanked, getRank, getRank, getReputation, getReputation,
      total_congr h.raceMask h.classMask (h.others _ hne)]
  refine ⟨fun key faction hkey => ?_, ?_, ?_, ?_, ?_⟩
  · by_cases hself : key = row.key
    · exact ⟨row, hrow, hself.symm⟩
    · rw [h.others key hself] at hkey
      exact hm.owned key faction hkey
  · exact count_moved hrow hvisible h.visible hm.visible
  · exact count_moved hrow (hranked .honored) h.honored hm.honored
  · exact count_moved hrow (hranked .revered) h.revered hm.revered
  · exact count_moved hrow (hranked .exalted) h.exalted hm.exalted

theorem countRank_add (count : UInt8) (rank oldRank newRank : ReputationRank) :
    countRank count rank oldRank newRank + indicator (rank.toNat ≤ oldRank.toNat) =
      count + indicator (rank.toNat ≤ newRank.toNat) := by
  rw [countRank, indicator, indicator]
  by_cases hold : rank.toNat ≤ oldRank.toNat
  · by_cases hnew : rank.toNat ≤ newRank.toNat
    · simp [hold, hnew]
    · simp [hold, hnew]
  · by_cases hnew : rank.toNat ≤ newRank.toNat
    · simp [hold, hnew]
    · simp [hold, hnew]

theorem isVisible_of {faction : FactionState} (h : m.factions entry.key = some faction) :
    m.isVisible entry = faction.isVisible := by
  rw [isVisible, h, Option.any_some]

theorem getRank_of {faction : FactionState} (h : m.factions entry.key = some faction) :
    m.getRank entry = reputationToRank (faction.standing + m.getBaseReputation entry) := by
  rw [FactionEntry.key] at h
  rw [getRank, getReputation, total, h, Option.map_some, Option.getD_some]

theorem getRank_of_none (h : m.factions entry.key = none) : m.getRank entry = .neutral := by
  rw [FactionEntry.key] at h
  rw [getRank, getReputation, total, h, Option.map_none, Option.getD_none]
  decide

theorem getBaseReputation_congr (hrace : m'.raceMask = m.raceMask) (hclass : m'.classMask = m.classMask) :
    m'.getBaseReputation entry = m.getBaseReputation entry := by
  rw [getBaseReputation, getBaseReputation, hrace, hclass]

theorem countRank_moved {count : UInt8} (rank : ReputationRank) {oldRank newRank : ReputationRank}
    (hold : m.getRank entry = oldRank) (hnew : m'.getRank entry = newRank) :
    countRank count rank oldRank newRank + indicator (m.isRanked rank entry) =
      count + indicator (m'.isRanked rank entry) := by
  rw [isRanked, isRanked, hold, hnew]
  exact countRank_add count rank oldRank newRank

theorem moves_of_ranks {faction faction' : FactionState} {oldRank newRank : ReputationRank}
    (hfaction : m.factions entry.key = some faction)
    (hstate : m'.factions = update m.factions entry.key (some faction'))
    (hrace : m'.raceMask = m.raceMask) (hclass : m'.classMask = m.classMask)
    (hvisible : m'.visibleFactionCount + indicator faction.isVisible =
      m.visibleFactionCount + indicator faction'.isVisible)
    (hhonored : m'.honoredFactionCount = countRank m.honoredFactionCount .honored oldRank newRank)
    (hrevered : m'.reveredFactionCount = countRank m.reveredFactionCount .revered oldRank newRank)
    (hexalted : m'.exaltedFactionCount = countRank m.exaltedFactionCount .exalted oldRank newRank)
    (hold : reputationToRank (faction.standing + m.getBaseReputation entry) = oldRank)
    (hnew : reputationToRank (faction'.standing + m.getBaseReputation entry) = newRank) : Moves entry m m' := by
  have hfaction' : m'.factions entry.key = some faction' := by rw [hstate, update_self]
  have holdRank : m.getRank entry = oldRank := by rw [getRank_of hfaction, hold]
  have hnewRank : m'.getRank entry = newRank := by
    rw [getRank_of hfaction', getBaseReputation_congr hrace hclass, hnew]
  refine ⟨hrace, hclass, fun key hne => ?_, ?_, ?_, ?_, ?_⟩
  · rw [hstate, update_of_ne hne]
  · rw [isVisible_of hfaction, isVisible_of hfaction', hvisible]
  · rw [hhonored]
    exact countRank_moved .honored holdRank hnewRank
  · rw [hrevered]
    exact countRank_moved .revered holdRank hnewRank
  · rw [hexalted]
    exact countRank_moved .exalted holdRank hnewRank

theorem countRank_self (count : UInt8) (rank oldRank : ReputationRank) :
    countRank count rank oldRank oldRank = count := by
  rw [countRank]
  split_ifs
  · exact UInt8.sub_add_cancel count 1
  · rfl

theorem moves_of_standing {faction faction' : FactionState} (hfaction : m.factions entry.key = some faction)
    (hstate : m'.factions = update m.factions entry.key (some faction'))
    (hsame : { m' with factions := m.factions, visibleFactionCount := m.visibleFactionCount } = m)
    (hvisible : m'.visibleFactionCount + indicator faction.isVisible =
      m.visibleFactionCount + indicator faction'.isVisible)
    (hstanding : faction'.standing = faction.standing) : Moves entry m m' := by
  have hrace := congrArg ReputationMgr.raceMask hsame
  have hclass := congrArg ReputationMgr.classMask hsame
  have hhonored := congrArg ReputationMgr.honoredFactionCount hsame
  have hrevered := congrArg ReputationMgr.reveredFactionCount hsame
  have hexalted := congrArg ReputationMgr.exaltedFactionCount hsame
  dsimp only at hrace hclass hhonored hrevered hexalted
  apply moves_of_ranks hfaction hstate hrace hclass hvisible _ _ _ rfl
  · rw [hstanding]
  · rw [countRank_self, hhonored]
  · rw [countRank_self, hrevered]
  · rw [countRank_self, hexalted]

theorem setVisible_moved (count : UInt8) (faction : FactionState) :
    (count + if faction.setVisible.2 then 1 else 0) + indicator faction.isVisible =
      count + indicator faction.setVisible.1.isVisible := by
  rw [FactionState.setVisible_isVisible, UInt8.add_assoc, UInt8.add_comm (indicator _)]

theorem ite_setAtWar_isVisible (faction : FactionState) (p : Prop) [Decidable p] :
    (if p then faction.setAtWar true else faction).isVisible = faction.isVisible := by
  split_ifs
  · exact faction.setAtWar_isVisible true
  · rfl

theorem setOneFactionReputation_counted (hm : m.Counted store) (hlookup : store.lookupEntry row.id = some row)
    (cap : UInt32) (standing : Int32) (incremental : Bool) :
    (m.setOneFactionReputation cap row.toFactionEntry standing incremental).1.Counted store := by
  cases hfaction : m.factions row.key with
  | none =>
    rw [FactionEntry.key] at hfaction
    rw [setOneFactionReputation, hfaction]
    exact hm
  | some faction =>
    obtain ⟨other, hother, hkey⟩ := hm.owned _ _ hfaction
    obtain rfl := FactionStore.eq_of_key hother hlookup hkey
    apply Moves.counted _ hother hm
    have hfaction' := hfaction
    rw [FactionEntry.key] at hfaction
    rw [setOneFactionReputation, hfaction]
    dsimp only
    generalize (if incremental then m.earn cap other.toFactionEntry standing
      else (standing, m.weekReputation)) = earned
    generalize bounded (if incremental then earned.1 +
      (faction.standing + m.getBaseReputation other.toFactionEntry) else earned.1) = total
    refine moves_of_ranks hfaction' rfl rfl rfl ?_ rfl rfl rfl rfl ?_
    · rw [ite_setAtWar_isVisible]
      exact setVisible_moved _ _
    · split_ifs
      · simp
      · simp

theorem changeFaction_counted {tables : FactionTables F} (hm : m.Counted tables.store) (cap id : UInt32)
    (standing : Int32) (incremental : Bool) :
    (m.changeFaction tables cap id standing incremental).1.Counted tables.store := by
  rw [changeFaction]
  cases hlookup : tables.store.lookupEntry id with
  | none => exact hm
  | some row =>
    have hrow := tables.store.lookupEntry_id hlookup
    rw [← hrow] at hlookup
    exact setOneFactionReputation_counted hm hlookup cap standing incremental

theorem spillTemplate_counted {tables : FactionTables F} (hm : m.Counted tables.store) (cap : UInt32)
    (template : RepSpilloverTemplate F) (standing : Int32) (incremental : Bool) :
    (m.spillTemplate tables cap template standing incremental).1.Counted tables.store := by
  rw [spillTemplate]
  generalize false = increased
  induction List.finRange maxSpilloverFactions generalizing m increased with
  | nil => exact hm
  | cons i is ih =>
    rw [List.foldl_cons]
    dsimp only
    split_ifs
    · exact ih (changeFaction_counted hm cap _ _ incremental) _
    · exact ih hm _

theorem spillList_counted {tables : FactionTables F} (hm : m.Counted tables.store) (cap : UInt32)
    (entry : FactionRow F) (spillOverRepOut : F) (incremental : Bool) (flist : List UInt32) :
    (m.spillList tables cap entry spillOverRepOut incremental flist).1.Counted tables.store := by
  rw [spillList]
  generalize false = increased
  induction flist generalizing m increased with
  | nil => exact hm
  | cons id ids ih =>
    rw [List.foldl_cons]
    cases hlookup : tables.store.lookupEntry id with
    | none => exact ih hm _
    | some other =>
      have hother := tables.store.lookupEntry_id hlookup
      rw [← hother] at hlookup
      dsimp only
      split_ifs
      · exact ih hm _
      · exact ih (setOneFactionReputation_counted hm hlookup cap _ incremental) _
      · exact ih hm _

theorem spillTeam_counted {tables : FactionTables F} (hm : m.Counted tables.store) (cap : UInt32)
    (entry : FactionRow F) (standing : Int32) (incremental : Bool) :
    (m.spillTeam tables cap entry standing incremental).1.Counted tables.store := by
  rw [spillTeam]
  cases tables.teamList entry.id with
  | some flist => exact spillList_counted hm cap entry _ incremental flist
  | none =>
    dsimp only
    split_ifs
    · cases hlookup : tables.store.lookupEntry entry.team with
      | none => exact hm
      | some parent =>
        have hparent := tables.store.lookupEntry_id hlookup
        rw [← hparent] at hlookup
        dsimp only
        split_ifs
        · exact setOneFactionReputation_counted hm hlookup cap _ incremental
        · exact spillList_counted hm cap entry _ incremental _
    · exact hm

theorem sendState_counted (hm : m.Counted store) : m.sendState.Counted store := by
  have hvisible : ∀ entry, m.sendState.isVisible entry = m.isVisible entry := by
    intro entry
    rw [isVisible, isVisible, sendState]
    dsimp only
    cases m.factions entry.key with
    | none => rfl
    | some faction => rfl
  have htotal : ∀ entry, m.sendState.total entry = m.total entry := by
    intro entry
    rw [total, total, sendState]
    dsimp only
    cases m.factions entry.reputationListID.toUInt32 with
    | none => rfl
    | some faction => rfl
  have hranked : ∀ rank entry, m.sendState.isRanked rank entry = m.isRanked rank entry := by
    intro rank entry
    rw [isRanked, isRanked, getRank, getRank, getReputation, getReputation, htotal]
  refine ⟨fun key faction hkey => ?_, ?_, ?_, ?_, ?_⟩
  · obtain ⟨old, hold, -⟩ := Option.map_eq_some_iff.mp hkey
    exact hm.owned key old hold
  · simp only [visibleFactions, hvisible]
    exact hm.visible
  · simp only [rankedFactions, hranked]
    exact hm.honored
  · simp only [rankedFactions, hranked]
    exact hm.revered
  · simp only [rankedFactions, hranked]
    exact hm.exalted

private theorem spilled_counted (hm : m.Counted store) (hlookup : store.lookupEntry row.id = some row)
    (cap : UInt32) (inWorld : Bool) (standing : Int32) (incremental : Bool) :
    Counted store (if (m.factions row.reputationListID.toUInt32).isSome then
      let changed := m.setOneFactionReputation cap row.toFactionEntry standing incremental
      if inWorld then changed.1.sendState else changed.1
    else m) := by
  have hchanged := setOneFactionReputation_counted hm hlookup cap standing incremental
  dsimp only
  split_ifs
  · exact sendState_counted hchanged
  · exact hchanged
  · exact hm

theorem setReputation_counted {tables : FactionTables F} (hm : m.Counted tables.store)
    (hlookup : tables.store.lookupEntry row.id = some row) (cap : UInt32) (inWorld : Bool)
    (standing : Int32) (incremental : Bool) :
    (m.setReputation tables cap inWorld row standing incremental).Counted tables.store := by
  refine spilled_counted ?_ hlookup cap inWorld standing incremental
  cases tables.spilloverTemplate row.id with
  | some template => exact spillTemplate_counted hm cap template standing incremental
  | none => exact spillTeam_counted hm cap row standing incremental

theorem setVisible_counted (hm : m.Counted store) (hlookup : store.lookupEntry row.id = some row) :
    (m.setVisible row.toFactionEntry).Counted store := by
  rw [setVisible]
  split_ifs
  · exact hm
  · cases hfaction : m.factions row.reputationListID.toUInt32 with
    | none => exact hm
    | some faction =>
      obtain ⟨other, hother, hkey⟩ := hm.owned _ _ hfaction
      obtain rfl := FactionStore.eq_of_key hother hlookup hkey
      apply Moves.counted _ hother hm
      exact moves_of_standing hfaction rfl rfl (setVisible_moved _ _)
        (FactionState.setVisible_standing faction)

theorem setFlags_counted (hm : m.Counted store) {key : UInt32} {faction faction' : FactionState}
    (hfaction : m.factions key = some faction) (hvisible : faction'.isVisible = faction.isVisible)
    (hstanding : faction'.standing = faction.standing) :
    Counted store { m with factions := update m.factions key (some faction') } := by
  obtain ⟨row, hrow, rfl⟩ := hm.owned key faction hfaction
  apply Moves.counted _ hrow hm
  refine moves_of_standing hfaction rfl rfl ?_ hstanding
  rw [hvisible]

theorem setAtWar_counted (hm : m.Counted store) (repListID : UInt32) (atWar : Bool) :
    (m.setAtWar repListID atWar).Counted store := by
  rw [setAtWar]
  cases hfaction : m.factions repListID with
  | none => exact hm
  | some faction =>
    dsimp only
    split_ifs
    · exact hm
    · exact setFlags_counted hm hfaction (faction.setAtWar_isVisible atWar) (faction.setAtWar_standing atWar)

theorem setInactive_counted (hm : m.Counted store) (repListID : UInt32) (inactive : Bool) :
    (m.setInactive repListID inactive).Counted store := by
  rw [setInactive]
  cases hfaction : m.factions repListID with
  | none => exact hm
  | some faction =>
    exact setFlags_counted hm hfaction (faction.setInactive_isVisible inactive)
      (faction.setInactive_standing inactive)

section SetUp

variable {rows : List (FactionRow F)}

theorem initializeFaction_factions (m : ReputationMgr) (row : FactionRow F) : (m.initializeFaction row).factions =
      update m.factions row.key (some ⟨m.getDefaultStateFlags row, 0, true, true⟩) := by
  rw [initializeFaction]
  split_ifs <;> rfl

theorem initializeFaction_moves (hnone : m.factions row.key = none) :
    Moves row.toFactionEntry m (m.initializeFaction row) := by
  have hold : m.getRank row.toFactionEntry = .neutral := getRank_of_none hnone
  have hhidden : m.isVisible row.toFactionEntry = false := by rw [isVisible, hnone, Option.any_none]
  have hstate : (m.initializeFaction row).factions row.key =
      some ⟨m.getDefaultStateFlags row, 0, true, true⟩ := by
    rw [initializeFaction_factions, update_self]
  have hrace : (m.initializeFaction row).raceMask = m.raceMask := by
    rw [initializeFaction]
    split_ifs <;> rfl
  have hclass : (m.initializeFaction row).classMask = m.classMask := by
    rw [initializeFaction]
    split_ifs <;> rfl
  have hnew : (m.initializeFaction row).getRank row.toFactionEntry =
      reputationToRank (m.getBaseReputation row.toFactionEntry) := by
    rw [getRank_of hstate, getBaseReputation_congr hrace hclass, Int32.zero_add]
  -- The rank is counted as if the faction had been hostile before, and neutral ones are not counted either.
  have hranked : ∀ (count : UInt8) (rank : ReputationRank), ReputationRank.neutral.toNat < rank.toNat →
      countRank count rank .hostile (reputationToRank (m.getBaseReputation row.toFactionEntry)) +
        indicator (m.isRanked rank row.toFactionEntry) =
        count + indicator ((m.initializeFaction row).isRanked rank row.toFactionEntry) := by
    intro count rank hrank
    have hneutral : ¬ rank.toNat ≤ ReputationRank.neutral.toNat := by omega
    have hhostile : ¬ rank.toNat ≤ ReputationRank.hostile.toNat := by
      simp only [ReputationRank.toNat] at hrank ⊢
      omega
    have hadd := countRank_add count rank .hostile
      (reputationToRank (m.getBaseReputation row.toFactionEntry))
    rw [isRanked, isRanked, hold, hnew]
    rw [decide_eq_false hhostile] at hadd
    rw [decide_eq_false hneutral]
    exact hadd
  refine ⟨hrace, hclass, fun key hne => ?_, ?_, ?_, ?_, ?_⟩
  · rw [initializeFaction_factions, update_of_ne hne]
  · rw [hhidden, isVisible_of hstate, initializeFaction, FactionState.isVisible]
    dsimp only
    split_ifs with hvisible
    · have hflag : (m.getDefaultStateFlags row &&& factionFlagVisible != 0) = true := by
        rw [bne_iff_ne]
        exact hvisible
      rw [hflag]
      exact UInt8.add_zero (m.visibleFactionCount + 1)
    · have hflag : (m.getDefaultStateFlags row &&& factionFlagVisible != 0) = false := by
        rw [not_not] at hvisible
        rw [hvisible]
        rfl
      rw [hflag]
      rfl
  · rw [← hranked _ .honored (by decide), initializeFaction]
    split_ifs <;> rfl
  · rw [← hranked _ .revered (by decide), initializeFaction]
    split_ifs <;> rfl
  · rw [← hranked _ .exalted (by decide), initializeFaction]
    split_ifs <;> rfl

theorem initializeList_counted (hrows : ∀ row ∈ rows, row ∈ store.listed)
    (hnodup : (rows.map (·.key)).Nodup) (hfree : ∀ row ∈ rows, m.factions row.key = none)
    (hm : m.Counted store) : (rows.foldl initializeFaction m).Counted store := by
  induction rows generalizing m with
  | nil => exact hm
  | cons row rows ih =>
    rw [List.map_cons, List.nodup_cons] at hnodup
    rw [List.foldl_cons]
    have hmoves := initializeFaction_moves (hfree row List.mem_cons_self)
    apply ih (fun other hother => hrows other (List.mem_cons_of_mem row hother)) hnodup.2
    · intro other hother
      have hne : other.key ≠ row.key := fun h => hnodup.1 (h ▸ List.mem_map_of_mem hother)
      rw [hmoves.others _ hne]
      exact hfree other (List.mem_cons_of_mem row hother)
    · exact hmoves.counted (hrows row List.mem_cons_self) hm

theorem initializeList_state (hnodup : (rows.map (·.key)).Nodup) (hrow : row ∈ rows) :
    (rows.foldl initializeFaction m).factions row.key = some ⟨m.getDefaultStateFlags row, 0, true, true⟩ := by
  have hother : ∀ (rows : List (FactionRow F)) (m : ReputationMgr), row.key ∉ rows.map (·.key) →
      (rows.foldl initializeFaction m).factions row.key = m.factions row.key := by
    intro rows
    induction rows with
    | nil => exact fun _ _ => rfl
    | cons other rows ih =>
      intro m hnot
      rw [List.map_cons, List.mem_cons, not_or] at hnot
      rw [List.foldl_cons, ih _ hnot.2, initializeFaction_factions, update_of_ne hnot.1]
  induction rows generalizing m with
  | nil => cases hrow
  | cons first rows ih =>
    rw [List.map_cons, List.nodup_cons] at hnodup
    rw [List.foldl_cons]
    rcases List.mem_cons.mp hrow with rfl | hrest
    · rw [hother rows _ hnodup.1, initializeFaction_factions, update_self]
    · have hflags : (m.initializeFaction first).getDefaultStateFlags row = m.getDefaultStateFlags row := by
        rw [initializeFaction, getDefaultStateFlags, getDefaultStateFlags]
        split_ifs <;> rfl
      rw [ih hnodup.2 hrest, hflags]

end SetUp

theorem fresh_counted (m : ReputationMgr) (hfactions : m.factions = fun _ => none)
    (hvisible : m.visibleFactionCount = 0) (hhonored : m.honoredFactionCount = 0)
    (hrevered : m.reveredFactionCount = 0) (hexalted : m.exaltedFactionCount = 0) : m.Counted store := by
  have hranked : ∀ rank : ReputationRank, ReputationRank.neutral.toNat < rank.toNat →
      m.rankedFactions store rank = 0 := by
    intro rank hrank
    rw [rankedFactions, List.countP_eq_zero]
    intro row _
    have hrow : m.getRank row.toFactionEntry = .neutral := getRank_of_none (congrFun hfactions _)
    rw [isRanked, hrow, decide_eq_true_eq]
    omega
  have hnone : m.visibleFactions store = 0 := by
    rw [visibleFactions, List.countP_eq_zero]
    intro row _
    rw [isVisible, hfactions]
    exact Bool.false_ne_true
  refine ⟨fun key faction hkey => ?_, ?_, ?_, ?_, ?_⟩
  · rw [hfactions] at hkey
    cases hkey
  · rw [hvisible, hnone]
    rfl
  · rw [hhonored, hranked .honored (by decide)]
    rfl
  · rw [hrevered, hranked .revered (by decide)]
    rfl
  · rw [hexalted, hranked .exalted (by decide)]
    rfl

theorem initializeFactions_counted (tables : FactionTables F) (m : ReputationMgr) :
    (m.initializeFactions tables).Counted tables.store := by
  apply initializeList_counted (fun _ h => h) tables.store.nodup_keys
  · exact fun _ _ => rfl
  · exact fresh_counted _ rfl rfl rfl rfl rfl

def SameView (faction faction' : FactionState) : Prop :=
  faction'.isVisible = faction.isVisible ∧ faction'.standing = faction.standing

theorem SameView.trans {a b c : FactionState} (h : SameView a b) (h' : SameView b c) : SameView a c :=
  ⟨h'.1.trans h.1, h'.2.trans h.2⟩

theorem SameView.setAtWar (faction : FactionState) (atWar : Bool) : SameView faction (faction.setAtWar atWar) :=
  ⟨faction.setAtWar_isVisible atWar, faction.setAtWar_standing atWar⟩

theorem SameView.setInactive (faction : FactionState) (inactive : Bool) :
    SameView faction (faction.setInactive inactive) :=
  ⟨faction.setInactive_isVisible inactive, faction.setInactive_standing inactive⟩

theorem SameView.ite {change other : FactionState → FactionState} (p : Prop) [Decidable p]
    (hchange : ∀ faction, SameView faction (change faction))
    (hother : ∀ faction, SameView faction (other faction)) (faction : FactionState) :
    SameView faction (if p then change faction else other faction) := by
  split_ifs
  · exact hchange faction
  · exact hother faction

theorem loadedState_spec (m : ReputationMgr) (forcedReactions : UInt32 → Option ReputationRank)
    (entry : FactionEntry) (dbFactionFlags : UInt32) (faction : FactionState) (count : UInt8) :
    (m.loadedState forcedReactions entry dbFactionFlags faction).1.standing = faction.standing ∧
      (count + if (m.loadedState forcedReactions entry dbFactionFlags faction).2 then 1 else 0) +
          indicator faction.isVisible =
        count + indicator (m.loadedState forcedReactions entry dbFactionFlags faction).1.isVisible := by
  let shown := if dbFactionFlags &&& factionFlagVisible ≠ 0 then faction.setVisible else (faction, false)
  have hshown : shown.1.standing = faction.standing ∧
      (count + if shown.2 then 1 else 0) + indicator faction.isVisible =
        count + indicator shown.1.isVisible := by
    by_cases hflag : dbFactionFlags &&& factionFlagVisible ≠ 0
    · have hset : shown = faction.setVisible := if_pos hflag
      rw [hset]
      exact ⟨faction.setVisible_standing, setVisible_moved count faction⟩
    · have hkept : shown = (faction, false) := if_neg hflag
      rw [hkept]
      exact ⟨rfl, congrArg (· + indicator faction.isVisible) (UInt8.add_zero count)⟩
  have hself : ∀ faction, SameView faction faction := fun _ => ⟨rfl, rfl⟩
  have hview : SameView shown.1 (m.loadedState forcedReactions entry dbFactionFlags faction).1 :=
    (SameView.ite _ (SameView.setInactive · true) hself shown.1).trans
      ((SameView.ite _ (SameView.setAtWar · true)
        (fun faction => SameView.ite _ (SameView.setAtWar · false) hself faction) _).trans
        ((SameView.ite _ (SameView.setAtWar · true) hself _).trans
          (@SameView.ite (fun faction => { faction with needSend := false, needSave := false }) id _ _
            (fun _ => ⟨rfl, rfl⟩) hself _)))
  have hsecond : (m.loadedState forcedReactions entry dbFactionFlags faction).2 = shown.2 := rfl
  rw [hsecond, hview.1, hview.2]
  exact hshown

theorem initializeFactions_state (tables : FactionTables F) (m : ReputationMgr)
    (hrow : row ∈ tables.store.listed) : (m.initializeFactions tables).factions row.key =
      some ⟨m.getDefaultStateFlags row, 0, true, true⟩ :=
  initializeList_state tables.store.nodup_keys hrow

def Unread (tables : FactionTables F) (m : ReputationMgr) (id : UInt32) : Prop :=
  ∀ row, tables.store.lookupEntry id = some row → 0 ≤ row.reputationListID →
    ∃ faction, m.factions row.key = some faction ∧ faction.standing = 0

theorem loadRow_moves {tables : FactionTables F} {faction : FactionState}
    (forcedReactions : UInt32 → Option ReputationRank) {dbRow : ReputationRow}
    (hlookup : tables.store.lookupEntry dbRow.faction = some row) (hlist : 0 ≤ row.reputationListID)
    (hfaction : m.factions row.key = some faction) (hstanding : faction.standing = 0) :
    Moves row.toFactionEntry m (m.loadRow tables forcedReactions dbRow) := by
  have hnot : ¬ row.reputationListID < 0 := Int32.not_lt.mpr hlist
  have hget : m.factions row.reputationListID.toUInt32 = some faction := hfaction
  have hspec := m.loadedState_spec forcedReactions row.toFactionEntry dbRow.flags
    { faction with standing := dbRow.standing } m.visibleFactionCount
  rw [loadRow, hlookup]
  dsimp only
  rw [if_neg hnot, hget, Option.getD_some]
  refine moves_of_ranks hfaction rfl rfl rfl hspec.2 rfl rfl rfl ?_ ?_
  · rw [hstanding, Int32.zero_add]
  · rw [hspec.1, Int32.add_comm]

theorem loadRow_others {tables : FactionTables F} (forcedReactions : UInt32 → Option ReputationRank)
    {dbRow : ReputationRow} {id : UInt32} (hne : id ≠ dbRow.faction) (h : Unread tables m id) :
    Unread tables (m.loadRow tables forcedReactions dbRow) id := by
  intro other hother hlist
  obtain ⟨faction, hfaction, hstanding⟩ := h other hother hlist
  refine ⟨faction, ?_, hstanding⟩
  rw [loadRow]
  cases hlookup : tables.store.lookupEntry dbRow.faction with
  | none => exact hfaction
  | some row =>
    have hkey : other.key ≠ row.key := by
      intro hkey
      exact hne (tables.store.listed_once hother hlookup hlist (FactionStore.key_inj hkey))
    by_cases hnot : row.reputationListID < 0
    · dsimp only
      rw [if_pos hnot]
      exact hfaction
    · dsimp only
      rw [if_neg hnot]
      exact (update_of_ne hkey _ _).trans hfaction

theorem loadRows_counted {tables : FactionTables F} (forcedReactions : UInt32 → Option ReputationRank)
    {rows : List ReputationRow} (hone : (rows.map (·.faction)).Nodup)
    (hunread : ∀ dbRow ∈ rows, Unread tables m dbRow.faction) (hm : m.Counted tables.store) :
    (rows.foldl (loadRow tables · forcedReactions) m).Counted tables.store := by
  induction rows generalizing m with
  | nil => exact hm
  | cons dbRow rows ih =>
    rw [List.map_cons, List.nodup_cons] at hone
    rw [List.foldl_cons]
    apply ih hone.2
    · intro other hother
      have hne : other.faction ≠ dbRow.faction := fun h => hone.1 (h ▸ List.mem_map_of_mem hother)
      exact loadRow_others forcedReactions hne (hunread other (List.mem_cons_of_mem dbRow hother))
    · have hthis := hunread dbRow List.mem_cons_self
      cases hlookup : tables.store.lookupEntry dbRow.faction with
      | none =>
        rw [loadRow, hlookup]
        exact hm
      | some row =>
        by_cases hlist : 0 ≤ row.reputationListID
        · obtain ⟨faction, hfaction, hstanding⟩ := hthis row hlookup hlist
          have hid := tables.store.lookupEntry_id hlookup
          have hrow : row ∈ tables.store.listed :=
            FactionStore.mem_listed.mpr ⟨by rw [hid, hlookup], hlist⟩
          exact (loadRow_moves forcedReactions hlookup hlist hfaction hstanding).counted hrow hm
        · rw [loadRow, hlookup]
          dsimp only
          rw [if_pos (Int32.not_le.mp hlist)]
          exact hm

theorem loadFromDB_counted (tables : FactionTables F) (m : ReputationMgr)
    (forcedReactions : UInt32 → Option ReputationRank) {rows : List ReputationRow}
    (hone : (rows.map (·.faction)).Nodup) : (m.loadFromDB tables forcedReactions rows).Counted tables.store := by
  apply loadRows_counted forcedReactions hone
  · intro dbRow _ row hlookup hlist
    have hid := tables.store.lookupEntry_id hlookup
    have hrow : row ∈ tables.store.listed :=
      FactionStore.mem_listed.mpr ⟨by rw [hid, hlookup], hlist⟩
    exact ⟨_, initializeFactions_state tables m hrow, rfl⟩
  · exact initializeFactions_counted tables m

theorem new_counted (store : FactionStore F) (raceMask classMask : UInt32) :
    (ReputationMgr.new raceMask classMask).Counted store :=
  fresh_counted _ rfl rfl rfl rfl rfl

theorem reputationStep_counted {tables : FactionTables F} (e : ReputationEvent) (hone : OneRow m e)
    (hm : m.Counted tables.store) : (reputationStep tables m e).Counted tables.store := by
  cases e with
  | initializeFactions => exact initializeFactions_counted tables m
  | loadFromDB forcedReactions rows => exact loadFromDB_counted tables m forcedReactions hone
  | setReputation cap inWorld id standing incremental =>
    rw [reputationStep]
    cases hlookup : tables.store.lookupEntry id with
    | none => exact hm
    | some row =>
      have hid := tables.store.lookupEntry_id hlookup
      rw [← hid] at hlookup
      exact setReputation_counted hm hlookup cap inWorld standing incremental
  | setVisible id =>
    rw [reputationStep]
    cases hlookup : tables.store.lookupEntry id with
    | none => exact hm
    | some row =>
      have hid := tables.store.lookupEntry_id hlookup
      rw [← hid] at hlookup
      exact setVisible_counted hm hlookup
  | setAtWar repListID atWar => exact setAtWar_counted hm repListID atWar
  | setInactive repListID inactive => exact setInactive_counted hm repListID inactive
  | guildWeek weekReputation => exact ⟨hm.owned, hm.visible, hm.honored, hm.revered, hm.exalted⟩

/-- A counter is the number of the factions that it counts, and exactly that as long as a byte holds it. -/
structure Exact (store : FactionStore F) (m : ReputationMgr) : Prop where
  visible : m.visibleFactionCount.toNat = m.visibleFactions store % 2 ^ 8
  honored : m.honoredFactionCount.toNat = m.rankedFactions store .honored % 2 ^ 8
  revered : m.reveredFactionCount.toNat = m.rankedFactions store .revered % 2 ^ 8
  exalted : m.exaltedFactionCount.toNat = m.rankedFactions store .exalted % 2 ^ 8

end ReputationMgr

/-- In every run the counters are the numbers of the visible factions and of those with a rank, up to
multiples of 256. -/
theorem reputationCounters_mod {F : Type} (tables : FactionTables F) (raceMask classMask : UInt32)
    {es : List ReputationEvent}
    (hone : Guarded (reputationStep tables) OneRow (ReputationMgr.new raceMask classMask) es) :
    (run (reputationStep tables) (ReputationMgr.new raceMask classMask) es).Exact tables.store := by
  have hcounted := run_invariant (fun _ e hone hm => ReputationMgr.reputationStep_counted e hone hm) hone
    (ReputationMgr.new_counted tables.store raceMask classMask)
  refine ⟨?_, ?_, ?_, ?_⟩
  · rw [hcounted.visible, UInt8.toNat_ofNat']
  · rw [hcounted.honored, UInt8.toNat_ofNat']
  · rw [hcounted.revered, UInt8.toNat_ofNat']
  · rw [hcounted.exalted, UInt8.toNat_ofNat']

private def knownFaction (id : UInt32) : FactionRow Unit where
  id := id
  reputationListID := id.toInt32
  baseRepRaceMask := fun _ => 0
  baseRepClassMask := fun _ => 0
  baseRepValue := fun _ => 0
  reputationFlags := fun _ => factionFlagVisible
  team := 0
  spilloverRateIn := ()
  spilloverRateOut := ()
  spilloverMaxRankIn := 0

private def knownFactions : FactionStore Unit where
  numRows := 257
  lookupEntry id := if 0 < id ∧ id < 257 then some (knownFaction id) else none
  lookupEntry_zero := rfl
  lookupEntry_lt := by
    intro id row h
    split_ifs at h with hid
    exact hid.2
  lookupEntry_id := by
    intro id row h
    split_ifs at h
    cases h
    rfl
  listed_once := by
    intro id id' row row' h h' _ hlist
    split_ifs at h
    split_ifs at h'
    cases h
    cases h'
    have hid := congrArg Int32.toUInt32 hlist
    exact hid

private def knownTables : FactionTables Unit where
  store := knownFactions
  floats := ⟨fun _ => (), fun _ _ => (), fun _ => 0, fun _ => false⟩
  spilloverTemplate := fun _ => none
  teamList := fun _ => none

private theorem visibleFactions_known (raceMask classMask : UInt32) :
    ((ReputationMgr.new raceMask classMask).initializeFactions knownTables).visibleFactions
      knownTables.store = 256 := by
  have hlength : knownTables.store.listed.length = 256 := by decide +kernel
  rw [← hlength, ReputationMgr.visibleFactions, List.countP_eq_length]
  intro row hrow
  have hflags : (ReputationMgr.new raceMask classMask).getDefaultStateFlags row = factionFlagVisible := by
    have hlookup := (FactionStore.mem_listed.mp hrow).1
    change (if 0 < row.id ∧ row.id < 257 then some (knownFaction row.id) else none) = some row at hlookup
    split_ifs at hlookup
    rw [← Option.some.inj hlookup]
    rfl
  rw [ReputationMgr.isVisible_of (ReputationMgr.initializeFactions_state knownTables _ hrow), hflags]
  rfl

/-- A player who is loaded with one standing that is their own. -/
private def oneStanding : List ReputationEvent := [.loadFromDB (fun _ => none) [⟨5, 9000, 1⟩]]

private theorem oneStanding_guarded : Guarded (reputationStep knownTables) OneRow (ReputationMgr.new 1 1) oneStanding :=
  ⟨List.nodup_singleton _, trivial⟩

theorem reputationCounters_mod_known :
    (run (reputationStep knownTables) (ReputationMgr.new 1 1) oneStanding).Exact knownTables.store :=
  reputationCounters_mod knownTables 1 1 oneStanding_guarded

private theorem run_known : run (reputationStep knownTables) (ReputationMgr.new 1 1)
    [.initializeFactions] = (ReputationMgr.new 1 1).initializeFactions knownTables := by
  rw [run, List.foldl_cons, List.foldl_nil, reputationStep]

/-- A byte does not count 256 factions. -/
theorem reputationCounters_overflow :
    ¬ ∀ (F : Type) (tables : FactionTables F) (raceMask classMask : UInt32) (es : List ReputationEvent),
      Guarded (reputationStep tables) OneRow (ReputationMgr.new raceMask classMask) es →
      (run (reputationStep tables) (ReputationMgr.new raceMask classMask) es).visibleFactionCount.toNat =
        (run (reputationStep tables) (ReputationMgr.new raceMask classMask) es).visibleFactions tables.store := by
  intro h
  have hcount := h Unit knownTables 1 1 [.initializeFactions] ⟨trivial, trivial⟩
  have hbyte := UInt8.toNat_lt (run (reputationStep knownTables) (ReputationMgr.new 1 1)
    [.initializeFactions]).visibleFactionCount
  rw [hcount, run_known, visibleFactions_known] at hbyte
  exact Nat.lt_irrefl _ hbyte

end Mangos
