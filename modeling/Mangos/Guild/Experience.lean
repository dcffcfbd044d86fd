import Mathlib.Algebra.Group.Nat.Defs
import Mathlib.Algebra.Group.Int.Defs
import Mangos.Framework.Run

/-!
# The experience of a guild

Experience is granted up to a cap for each day and carried over several levels.
-/

namespace Mangos

open Framework

/-- The configuration, and `GuildXPperLevel`. -/
structure GuildXpRules where
  levelingEnabled : Bool
  maxLevel : Nat
  uncappedLevel : Nat
  dailyXPCap : UInt32
  xpPerLevel : List Nat

structure GuildXp where
  level : Nat
  experience : Nat
  todayExperience : Nat
  deriving DecidableEq

namespace GuildXp

variable (rules : GuildXpRules)

/-- `GuildMgr::GetXPForGuildLevel` of a level in eight bits, a number of 32 bits. -/
def xpForGuildLevel (level : Nat) : Nat := (rules.xpPerLevel[level % 256]?).getD 0 % 2 ^ 32

/-- `DailyXPCap - uint32(m_TodayExperience)`. -/
def dailyRoom (s : GuildXp) : Nat := (2 ^ 32 + rules.dailyXPCap.toNat - s.todayExperience % 2 ^ 32) % 2 ^ 32

def grantedXP (s : GuildXp) (xp : Int) (source : Bool) : Int :=
  let xp := if rules.maxLevel ≤ s.level then 0 else xp
  if source ∧ s.level < rules.uncappedLevel then min xp (dailyRoom rules s) else xp

def levelUp : Nat → GuildXp → GuildXp
  | 0, s => s
  | n + 1, s =>
    if xpForGuildLevel rules s.level ≤ s.experience then
      levelUp n { s with level := s.level + 1, experience := s.experience - xpForGuildLevel rules s.level }
    else s

def giveXP (s : GuildXp) (xp : Int64) (source : Bool) : GuildXp :=
  if !rules.levelingEnabled || xp.toInt < 0 then s
  else
    let xp := (grantedXP rules s xp.toInt source).toNat
    let s := { s with experience := (s.experience + xp) % 2 ^ 64, todayExperience := (s.todayExperience + xp) % 2 ^ 64 }
    if xp = 0 then s else levelUp rules (rules.maxLevel - s.level) s

/-- The loop of `TakeXP`. -/
def levelDown : Nat → Int → Nat × Int
  | 0, xp => (0, xp)
  | level + 1, xp =>
    if 0 < xp - xpForGuildLevel rules level then levelDown level (xp - xpForGuildLevel rules level)
    else (level + 1, xp)

/-- `Guild::TakeXP`; the amount is converted to an unsigned one where it meets the experience. -/
def takeXP (s : GuildXp) (xp : Int64) : GuildXp :=
  if !rules.levelingEnabled || 0 ≤ xp.toInt then s
  else
    let left := levelDown rules s.level xp.toInt
    { s with
      level := left.1
      experience := if s.experience < left.2 % 2 ^ 64 then 0 else ((s.experience - left.2) % 2 ^ 64).toNat }

inductive Call
  | give (xp : Int64) (source : Bool)
  | take (xp : Int64)

def step (s : GuildXp) : Call → GuildXp
  | .give xp source => s.giveXP rules xp source
  | .take xp => s.takeXP rules xp

def passedXP : Nat → Nat
  | 0 => 0
  | 1 => 0
  | level + 2 => passedXP (level + 1) + xpForGuildLevel rules (level + 1)

def accumulatedXP (s : GuildXp) : Nat := passedXP rules s.level + s.experience

/-- A level within its bounds, and numbers of 64 bits. -/
structure Sound (s : GuildXp) : Prop where
  one_le : 1 ≤ s.level
  level_le : s.level ≤ rules.maxLevel
  experience_lt : s.experience < 2 ^ 64
  today_lt : s.todayExperience < 2 ^ 64

/-- A call keeps the level within its bounds and the daily cap, and accounts for its amount. -/
def Fair (s : GuildXp) (call : Call) : Prop :=
  (1 ≤ (s.step rules call).level ∧ (s.step rules call).level ≤ rules.maxLevel) ∧ match call with
  | .give xp source =>
    (source → s.level < rules.uncappedLevel →
      (s.step rules call).todayExperience ≤ max s.todayExperience rules.dailyXPCap.toNat) ∧
    ((s.step rules call).accumulatedXP rules : Int) = s.accumulatedXP rules +
      if rules.levelingEnabled ∧ 0 ≤ xp.toInt then grantedXP rules s xp.toInt source else 0
  | .take xp => rules.levelingEnabled → xp.toInt < 0 → (s.step rules call).accumulatedXP rules =
      s.accumulatedXP rules - min xp.toInt.natAbs (s.accumulatedXP rules)

/-- Today's experience is not above the cap already, or nothing is granted, and the sums have room in 64 bits;
an amount that is taken is all of the current experience, or there is no more than that and no level behind. -/
def Fits (s : GuildXp) : Call → Prop
  | .give xp source => rules.levelingEnabled → 0 ≤ xp.toInt →
    (source → s.level < rules.uncappedLevel → s.todayExperience ≤ rules.dailyXPCap.toNat ∨
      grantedXP rules s xp.toInt source = 0 ∨ 2 ^ 64 ≤ s.todayExperience + grantedXP rules s xp.toInt source) ∧
    s.experience + grantedXP rules s xp.toInt source < 2 ^ 64
  | .take xp => rules.levelingEnabled → xp.toInt < 0 →
    xp.toInt.natAbs = s.experience ∨ (s.experience < xp.toInt.natAbs ∧ passedXP rules s.level = 0) ∨
      (xp.toInt = -2 ^ 63 ∧ 2 ^ 63 ≤ s.experience)

variable {rules} {s : GuildXp}

theorem passedXP_succ {level : Nat} (h : 1 ≤ level) :
    passedXP rules (level + 1) = passedXP rules level + xpForGuildLevel rules level := by
  obtain ⟨level, rfl⟩ := Nat.exists_eq_add_of_le' h
  rw [passedXP]

theorem levelUp_spec (n : Nat) (h : 1 ≤ s.level) :
    s.level ≤ (levelUp rules n s).level ∧ (levelUp rules n s).level ≤ s.level + n ∧
      (levelUp rules n s).accumulatedXP rules = s.accumulatedXP rules ∧
      (levelUp rules n s).experience ≤ s.experience ∧ (levelUp rules n s).todayExperience = s.todayExperience := by
  induction n generalizing s with
  | zero => exact ⟨Nat.le_refl _, Nat.le_refl _, rfl, Nat.le_refl _, rfl⟩
  | succ n ih =>
    rw [levelUp]
    by_cases hlevel : xpForGuildLevel rules s.level ≤ s.experience
    · have hrest := @ih { s with level := s.level + 1, experience := s.experience - xpForGuildLevel rules s.level }
        (Nat.le_add_left 1 _)
      have hpassed := @passedXP_succ rules s.level h
      rw [if_pos hlevel]
      simp only [accumulatedXP] at hrest ⊢
      omega
    · rw [if_neg hlevel]
      exact ⟨Nat.le_refl _, Nat.le_add_right _ _, rfl, Nat.le_refl _, rfl⟩

theorem levelDown_of_neg {xp : Int} (level : Nat) (h : xp < 0) : levelDown rules level xp = (level, xp) := by
  cases level with
  | zero => rfl
  | succ level => rw [levelDown, if_neg (by omega)]

theorem grantedXP_nonneg {xp : Int} (h : 0 ≤ xp) (source : Bool) : 0 ≤ grantedXP rules s xp source := by
  rw [grantedXP]
  split <;> split <;> omega

theorem giveXP_eq {xp : Int64} {source : Bool} (henabled : rules.levelingEnabled) (hxp : 0 ≤ xp.toInt) :
    ∃ n, s.level + n ≤ max s.level rules.maxLevel ∧ s.giveXP rules xp source = levelUp rules n { s with
        experience := (s.experience + (grantedXP rules s xp.toInt source).toNat) % 2 ^ 64
        todayExperience := (s.todayExperience + (grantedXP rules s xp.toInt source).toNat) % 2 ^ 64 } := by
  have hcall : (!rules.levelingEnabled || decide (xp.toInt < 0)) = false := by
    simpa [henabled] using hxp
  rw [giveXP, hcall, if_neg Bool.false_ne_true]
  dsimp only
  split
  · exact ⟨0, by omega, rfl⟩
  · exact ⟨rules.maxLevel - s.level, by omega, rfl⟩

theorem takeXP_eq {xp : Int64} (henabled : rules.levelingEnabled) (hxp : xp.toInt < 0) : s.takeXP rules xp = { s with
      experience := if s.experience < xp.toInt % 2 ^ 64 then 0 else ((s.experience - xp.toInt) % 2 ^ 64).toNat } := by
  have hcall : (!rules.levelingEnabled || decide (0 ≤ xp.toInt)) = false := by
    simpa [henabled] using hxp
  rw [takeXP, hcall, if_neg Bool.false_ne_true, levelDown_of_neg _ hxp]

theorem giveXP_refused {xp : Int64} (source : Bool) (h : ¬ (rules.levelingEnabled ∧ 0 ≤ xp.toInt)) :
    s.giveXP rules xp source = s := by
  rw [giveXP, if_pos]
  cases henabled : rules.levelingEnabled with
  | false => rfl
  | true => simpa [henabled] using h

theorem takeXP_refused {xp : Int64} (h : ¬ (rules.levelingEnabled ∧ xp.toInt < 0)) : s.takeXP rules xp = s := by
  rw [takeXP, if_pos]
  cases henabled : rules.levelingEnabled with
  | false => rfl
  | true => simpa [henabled] using h

theorem Sound.step (h : Sound rules s) (call : Call) : Sound rules (s.step rules call) := by
  obtain ⟨hone, hmax, hexperience, htoday⟩ := h
  cases call with
  | give xp source =>
    by_cases hcall : rules.levelingEnabled ∧ 0 ≤ xp.toInt
    · obtain ⟨n, hn, hgive⟩ := @giveXP_eq rules s xp source hcall.1 hcall.2
      rw [GuildXp.step, hgive]
      have hup := @levelUp_spec rules { s with
        experience := (s.experience + (grantedXP rules s xp.toInt source).toNat) % 2 ^ 64
        todayExperience := (s.todayExperience + (grantedXP rules s xp.toInt source).toNat) % 2 ^ 64 } n hone
      dsimp only at hup
      exact ⟨by omega, by omega, by omega, by omega⟩
    · rw [GuildXp.step, giveXP_refused source hcall]
      exact ⟨hone, hmax, hexperience, htoday⟩
  | take xp =>
    by_cases hcall : rules.levelingEnabled ∧ xp.toInt < 0
    · rw [GuildXp.step, takeXP_eq hcall.1 hcall.2]
      refine ⟨hone, hmax, ?_, htoday⟩
      dsimp only
      split <;> omega
    · rw [GuildXp.step, takeXP_refused hcall]
      exact ⟨hone, hmax, hexperience, htoday⟩

theorem fair_give_iff (h : Sound rules s) (xp : Int64) (source : Bool) :
    Fair rules s (.give xp source) ↔ Fits rules s (.give xp source) := by
  have hbounds := h.step (.give xp source)
  rw [Fair, Fits, and_iff_right ⟨hbounds.one_le, hbounds.level_le⟩]
  by_cases hcall : rules.levelingEnabled ∧ 0 ≤ xp.toInt
  · have hgranted := @grantedXP_nonneg rules s xp.toInt hcall.2 source
    have hroom : source → s.level < rules.uncappedLevel → grantedXP rules s xp.toInt source ≤ dailyRoom rules s := by
      intro hsource hlevel
      rw [grantedXP, if_pos ⟨hsource, hlevel⟩]
      exact Int.min_le_right _ _
    obtain ⟨n, -, hgive⟩ := @giveXP_eq rules s xp source hcall.1 hcall.2
    have hup := @levelUp_spec rules { s with
      experience := (s.experience + (grantedXP rules s xp.toInt source).toNat) % 2 ^ 64
      todayExperience := (s.todayExperience + (grantedXP rules s xp.toInt source).toNat) % 2 ^ 64 } n h.one_le
    have hexperience := h.experience_lt
    have htoday := h.today_lt
    have hcap := rules.dailyXPCap.toNat_lt
    rw [GuildXp.step, hgive, hup.2.2.1, hup.2.2.2.2]
    rw [if_pos hcall]
    simp only [hcall, true_imp_iff, accumulatedXP]
    apply and_congr
    · apply forall_congr'
      intro hsource
      apply forall_congr'
      intro hlevel
      have hle := hroom hsource hlevel
      rw [dailyRoom] at hle
      omega
    · omega
  · rw [GuildXp.step, giveXP_refused source hcall, if_neg hcall, Int.add_zero]
    constructor
    · intro _ henabled hxp
      exact absurd ⟨henabled, hxp⟩ hcall
    · intro _
      exact ⟨fun _ _ => Nat.le_max_left _ _, rfl⟩

theorem fair_take_iff (h : Sound rules s) (xp : Int64) : Fair rules s (.take xp) ↔ Fits rules s (.take xp) := by
  have hbounds := h.step (.take xp)
  rw [Fair, Fits, and_iff_right ⟨hbounds.one_le, hbounds.level_le⟩]
  by_cases hcall : rules.levelingEnabled ∧ xp.toInt < 0
  · have hexperience := h.experience_lt
    have hleast := xp.le_toInt
    rw [GuildXp.step, takeXP_eq hcall.1 hcall.2]
    simp only [hcall, true_imp_iff, accumulatedXP]
    generalize xp.toInt = amount at *
    split <;> omega
  · exact ⟨fun _ henabled hxp => absurd ⟨henabled, hxp⟩ hcall, fun _ henabled hxp => absurd ⟨henabled, hxp⟩ hcall⟩

/-- Every call of a run is fair exactly when every call fits the state it meets. -/
theorem guildXp_fair_iff {rules : GuildXpRules} {s : GuildXp} (h : Sound rules s) (calls : List Call) :
    Guarded (step rules) (Fair rules) s calls ↔ Guarded (step rules) (Fits rules) s calls := by
  have hstep : ∀ s call, Sound rules s → Sound rules (step rules s call) := fun s call hs => hs.step call
  apply guarded_iff_of_invariant hstep _ calls h
  intro s call hs
  cases call with
  | give xp source => exact fair_give_iff hs xp source
  | take xp => exact fair_take_iff hs xp

/-- Three levels of a hundred each, capped at a thousand a day. -/
def smallGuildRules : GuildXpRules := ⟨true, 3, 3, 1000, [0, 100, 100]⟩

/-- A hundred and fifty is granted, and the fifty above the first level are taken. -/
theorem guildXp_fair_small :
    Guarded (step smallGuildRules) (Fair smallGuildRules) ⟨1, 0, 0⟩ [.give 150 true, .take (-50)] ↔
      Guarded (step smallGuildRules) (Fits smallGuildRules) ⟨1, 0, 0⟩ [.give 150 true, .take (-50)] :=
  guildXp_fair_iff ⟨by decide, by decide, by decide, by decide⟩ [.give 150 true, .take (-50)]

/-- One is taken of ten, and nothing is left. -/
theorem guildXp_takes_all : ¬ Guarded (step smallGuildRules) (Fair smallGuildRules) ⟨1, 10, 10⟩ [.take (-1)] := by
  intro h
  have htaken := h.1.2 rfl (by decide)
  exact absurd htaken (by decide)

end GuildXp

end Mangos
