import Mangos.Framework.Words
import Mangos.Reputation.ReputationMgr

/-!
# Changes of a reputation

A gain is not to lower the total with a faction and a loss is not to raise it.
-/

namespace Mangos

open Framework

def Fits (x : Int) : Prop := -2 ^ 31 ≤ x ∧ x < 2 ^ 31

instance (x : Int) : Decidable (Fits x) := inferInstanceAs (Decidable (_ ∧ _))

/-- The total goes from `old` to `new` in the direction of the change. -/
def MovesWith (change old new : Int32) : Prop := (change ≤ 0 → new ≤ old) ∧ (0 ≤ change → old ≤ new)

def StartsWithin (change old : Int32) : Prop :=
  (change ≤ 0 → reputationBottom ≤ old) ∧ (0 ≤ change → old ≤ reputationCap)

instance (change old : Int32) : Decidable (StartsWithin change old) :=
  inferInstanceAs (Decidable ((_ → _) ∧ (_ → _)))

theorem fits_toInt (a : Int32) : Fits a.toInt := ⟨a.le_toInt, a.toInt_lt⟩

theorem bounded_toInt (standing : Int32) :
    (ReputationMgr.bounded standing).toInt = max (-42000) (min standing.toInt 42999) := by
  have hcap : reputationCap.toInt = 42999 := rfl
  have hbottom : reputationBottom.toInt = -42000 := rfl
  rw [ReputationMgr.bounded]
  simp only [gt_iff_lt, Int32.lt_iff_toInt_lt, hcap, hbottom]
  split
  · omega
  · split <;> omega

theorem movesWith_iff (change old : Int32) : MovesWith change old (ReputationMgr.bounded (change + old)) ↔
      StartsWithin change old ∧ Fits (change.toInt + old.toInt) := by
  have hcap : reputationCap.toInt = 42999 := rfl
  have hbottom : reputationBottom.toInt = -42000 := rfl
  have hzero : (0 : Int32).toInt = 0 := rfl
  have hold := fits_toInt old
  have hchange := fits_toInt change
  have hsum := toInt_add_cases change old
  simp only [MovesWith, StartsWithin, Int32.le_iff_toInt_le, bounded_toInt, hcap, hbottom, hzero]
  simp only [Fits] at hold hchange ⊢
  omega

def roomOfWeek (cap week : UInt32) : Int32 := (cap - week).toInt32

def WeekAllows (cap week : UInt32) (change old : Int32) : Prop :=
  if change.toUInt32 + week ≤ cap then Fits (change.toInt + old.toInt)
  else if cap ≤ week then True
  else if change < 0 ∧ 0 ≤ roomOfWeek cap week then
    reputationCap ≤ old ∨ ¬ Fits ((roomOfWeek cap week).toInt + old.toInt)
  else Fits ((roomOfWeek cap week).toInt + old.toInt)

instance (cap week : UInt32) (change old : Int32) : Decidable (WeekAllows cap week change old) := by
  unfold WeekAllows
  infer_instance

theorem roomOfWeek_cases {cap week : UInt32} (h : week < cap) :
    (roomOfWeek cap week).toInt = cap.toNat - week.toNat ∧ (cap.toNat : Int) - week.toNat < 2 ^ 31 ∨
      (roomOfWeek cap week).toInt = cap.toNat - week.toNat - 2 ^ 32 ∧ 2 ^ 31 ≤ (cap.toNat : Int) - week.toNat := by
  have hlt := UInt32.lt_iff_toNat_lt.mp h
  have hroom := UInt32.toNat_sub_of_le _ _ (UInt32.le_of_lt h)
  have hcases := toInt_toInt32_cases (cap - week)
  rw [roomOfWeek]
  omega

theorem movesWith_none_iff (change old : Int32) :
    MovesWith change old (ReputationMgr.bounded (0 + old)) ↔ StartsWithin change old := by
  have hcap : reputationCap.toInt = 42999 := rfl
  have hbottom : reputationBottom.toInt = -42000 := rfl
  rw [Int32.zero_add]
  simp only [MovesWith, StartsWithin, Int32.le_iff_toInt_le, bounded_toInt, hcap, hbottom]
  omega

theorem movesWith_room_iff {cap week : UInt32} {change : Int32} (hover : cap < change.toUInt32 + week)
    (hroom : week < cap) (old : Int32) :
    MovesWith change old (ReputationMgr.bounded (roomOfWeek cap week + old)) ↔ StartsWithin change old ∧
        if change < 0 ∧ 0 ≤ roomOfWeek cap week then
          reputationCap ≤ old ∨ ¬ Fits ((roomOfWeek cap week).toInt + old.toInt)
        else Fits ((roomOfWeek cap week).toInt + old.toInt) := by
  have hcap : reputationCap.toInt = 42999 := rfl
  have hbottom : reputationBottom.toInt = -42000 := rfl
  have hzero : (0 : Int32).toInt = 0 := rfl
  have hcases := roomOfWeek_cases hroom
  have hchange := toInt_cases change
  have hsum := toInt_add_cases (roomOfWeek cap week) old
  have hold := fits_toInt old
  rw [UInt32.lt_iff_toNat_lt] at hroom
  rw [UInt32.lt_iff_toNat_lt, UInt32.toNat_add] at hover
  have hcap_lt := cap.toNat_lt
  have hchange_lt := change.toUInt32.toNat_lt
  simp only [MovesWith, StartsWithin, Int32.le_iff_toInt_le, Int32.lt_iff_toInt_lt, bounded_toInt, hcap, hbottom, hzero]
  simp only [Fits] at hold ⊢
  split
  · omega
  · omega

theorem movesWith_weeklyChange_iff (cap week : UInt32) (change old : Int32) :
    MovesWith change old (ReputationMgr.bounded (ReputationMgr.weeklyChange cap week change + old)) ↔
      StartsWithin change old ∧ WeekAllows cap week change old := by
  rw [ReputationMgr.weeklyChange, WeekAllows]
  by_cases hwhole : change.toUInt32 + week ≤ cap
  · rw [if_neg (UInt32.not_lt.mpr hwhole), if_pos hwhole]
    exact movesWith_iff change old
  rw [if_pos (UInt32.not_le.mp hwhole), if_neg hwhole]
  by_cases hreached : cap ≤ week
  · rw [if_neg (UInt32.not_lt.mpr hreached), if_pos hreached, and_true]
    exact movesWith_none_iff change old
  · rw [if_pos (UInt32.not_le.mp hreached), if_neg hreached]
    exact movesWith_room_iff (UInt32.not_le.mp hwhole) (UInt32.not_le.mp hreached) old

theorem week_le (cap week : UInt32) (change : Int32) :
    week + (ReputationMgr.weeklyChange cap week change).toUInt32 ≤ cap ∨
      week + (ReputationMgr.weeklyChange cap week change).toUInt32 ≤ week := by
  rw [ReputationMgr.weeklyChange]
  split
  case isFalse hwhole =>
    left
    rw [UInt32.add_comm]
    exact UInt32.not_lt.mp hwhole
  case isTrue =>
    split
    case isTrue hroom =>
      left
      rw [UInt32.toUInt32_toInt32, UInt32.add_comm, UInt32.sub_add_cancel]
      exact UInt32.le_refl cap
    case isFalse =>
      right
      change week + 0 ≤ week
      rw [UInt32.add_zero]
      exact UInt32.le_refl week

namespace ReputationMgr

variable (cap : UInt32) (entry : FactionEntry) (change : Int32) (m : ReputationMgr)

/-- A change moves the total its own way and within the bounds, and the week goes no further beyond the
cap than it was. -/
def ChangesWell : Prop :=
  ∀ old ∈ m.total entry, (∃ new ∈ (m.setOneFactionReputation cap entry change true).1.total entry,
      MovesWith change old new ∧ reputationBottom ≤ new ∧ new ≤ reputationCap) ∧ ∀ week ∈ m.weekReputation,
      ∃ week' ∈ (m.setOneFactionReputation cap entry change true).1.weekReputation,
        week'.toNat - cap.toNat ≤ week.toNat - cap.toNat

/-- The change starts within the bounds, and the word holds the sum; a member's loss of reputation with the
guild is not taken for a gain. -/
def Allows : Prop :=
  ∀ old ∈ m.total entry, StartsWithin change old ∧ if entry.id = guildRepFaction then
      m.weekReputation.elim (Fits (change.toInt + old.toInt)) (WeekAllows cap · change old)
    else Fits (change.toInt + old.toInt)

variable {m}

theorem movesWith_earn_iff (old : Int32) :
    MovesWith change old (bounded ((m.earn cap entry change).1 + old)) ↔ StartsWithin change old ∧
        if entry.id = guildRepFaction then
          m.weekReputation.elim (Fits (change.toInt + old.toInt)) (WeekAllows cap · change old)
        else Fits (change.toInt + old.toInt) := by
  rw [earn]
  by_cases hguild : entry.id = guildRepFaction
  · rw [if_pos hguild, if_pos hguild]
    cases hweek : m.weekReputation with
    | none => exact movesWith_iff change old
    | some week => exact movesWith_weeklyChange_iff cap week change old
  · rw [if_neg hguild, if_neg hguild]
    exact movesWith_iff change old

theorem earn_week {week : UInt32} (h : m.weekReputation = some week) :
    ∃ week', (m.earn cap entry change).2 = some week' ∧ (week' ≤ cap ∨ week' ≤ week) := by
  rw [earn]
  by_cases hguild : entry.id = guildRepFaction
  · rw [if_pos hguild, h]
    exact ⟨_, rfl, week_le cap week change⟩
  · rw [if_neg hguild, h]
    exact ⟨week, rfl, .inr (UInt32.le_refl week)⟩

theorem bounded_within (standing : Int32) : reputationBottom ≤ bounded standing ∧ bounded standing ≤ reputationCap := by
  have hcap : reputationCap.toInt = 42999 := rfl
  have hbottom : reputationBottom.toInt = -42000 := rfl
  rw [Int32.le_iff_toInt_le, Int32.le_iff_toInt_le, bounded_toInt, hcap, hbottom]
  omega

end ReputationMgr

theorem setOneFactionReputation_changesWell_iff (cap : UInt32) (entry : FactionEntry) (change : Int32)
    (m : ReputationMgr) : m.ChangesWell cap entry change ↔ m.Allows cap entry change := by
  apply forall_congr'
  intro old
  apply forall_congr'
  intro hold
  obtain ⟨htotal, hweek⟩ := ReputationMgr.setOneFactionReputation_spec hold cap change
  have hmoves := ReputationMgr.movesWith_earn_iff (m := m) cap entry change old
  rw [htotal, hweek]
  constructor
  · rintro ⟨⟨new, hnew, hway, -⟩, -⟩
    rw [← Option.some_inj.mp hnew] at hway
    exact hmoves.mp hway
  · intro hallows
    refine ⟨⟨_, rfl, hmoves.mpr hallows, ReputationMgr.bounded_within _⟩, fun week hold => ?_⟩
    obtain ⟨week', hnew, hle⟩ := ReputationMgr.earn_week cap entry change hold
    refine ⟨week', hnew, ?_⟩
    rw [UInt32.le_iff_toNat_le, UInt32.le_iff_toNat_le] at hle
    omega

/-- The faction of the guilds, and a member who has earned a point this week. -/
def guildFaction : FactionEntry := ⟨guildRepFaction, 103, fun _ => 0, fun _ => 0, fun _ => 0⟩

def newMember : ReputationMgr :=
  ⟨1, 1, 0, 0, 0, 0, fun _ => some ⟨0, 100, false, false⟩, some 1⟩

/-- A loss of two points is a gain of what is left of the cap. -/
theorem newMember_gains : ¬ newMember.ChangesWell 4375 guildFaction (-2) := by
  intro hwell
  obtain ⟨⟨new, hnew, hway, -⟩, -⟩ := hwell 100 (by decide +kernel)
  have htotal : (newMember.setOneFactionReputation 4375 guildFaction (-2) true).1.total guildFaction =
      some 4474 := by decide +kernel
  rw [htotal] at hnew
  have hraised := hway.1 (by decide)
  rw [← Option.some_inj.mp hnew] at hraised
  exact absurd hraised (by decide)

end Mangos
