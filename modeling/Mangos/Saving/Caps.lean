import Mangos.Framework.Run
import Mangos.Saving.Currencies

/-!
# The caps of a currency

A currency has a cap on the total and one on what is gained in a week, and both change while a character has
it.
-/

namespace Mangos

open Std Framework

def playerCurrencyMaskUsedByClient : Nat := 12

/-- The turn of `Player::_LoadCurrencies` for a row. -/
def PlayerCurrency.load (entry : CurrencyTypesEntry) (row : CurrencyRow) : PlayerCurrency where
  state := .unchanged
  totalCount :=
    if entry.totalCap ≠ 0 ∧ entry.totalCap < row.totalCount then entry.totalCap else row.totalCount
  weekCount := row.weekCount
  seasonCount := row.seasonCount
  flags := row.flags &&& playerCurrencyMaskUsedByClient
  currencyEntry := entry
  customWeekCap := row.customWeekCap

/-- What happens to the currencies of a character. The store of the types is another one when the server was
started anew. -/
inductive CurrencyOp
  | modifyCurrencyCount (rules : CurrencyRules) (id : Nat) (count : Int) (how : Currencies.Modification)
  | setCurrencyFlags (id flags : Nat)
  | resetCurrencyWeekCounts
  | setPersonalRating (rules : CurrencyRules) (value : Nat)
  | save
  | load (rules : CurrencyRules) (rating : Nat)

namespace Currencies

/-- `Player::_LoadCurrencies`; each row is of a currency that the character had. -/
def load (rules : CurrencyRules) (rating : Nat) (c : Currencies) : Currencies where
  currencies := c.currencies.filterMap fun id _ =>
    (c.rows id).bind fun row => (rules.lookupEntry id).map fun entry => PlayerCurrency.load entry row
  maxPersonalRatedRating := rating
  rows id := (rules.lookupEntry id).bind fun _ => c.rows id

def step (c : Currencies) : CurrencyOp → Currencies
  | .modifyCurrencyCount rules id count how => c.modifyCurrencyCount rules id count how
  | .setCurrencyFlags id flags => c.setCurrencyFlags id flags
  | .resetCurrencyWeekCounts => c.resetCurrencyWeekCounts
  | .setPersonalRating rules value => c.setPersonalRating rules value
  | .save => c.save
  | .load rules rating => c.load rules rating

def start : Currencies := ⟨∅, 0, fun _ => none⟩

/-- What a gain of `count` may add to what is there already; a cap of zero is none. -/
def room (cap present count : Nat) : Nat := if cap = 0 then count else min count (cap - present)

/-- What a call for `count` should do: a gain goes to the total as far as the caps allow, and to week and season if
they are asked for; what is spent is taken from the total alone. -/
def ModifiedExactly (weekCap : Nat) (how : Modification) (count : Int) (cur cur' : PlayerCurrency) : Prop :=
  if 0 < count then
    (cur.totalCount ≤ cur'.totalCount ∧ (cur'.totalCount : Int) ≤ cur.totalCount + count) ∧
    (cur'.totalCount = cur.totalCount ∨ cur.currencyEntry.totalCap = 0 ∨ cur'.totalCount ≤ cur.currencyEntry.totalCap) ∧
    cur'.weekCount = cur.weekCount + (if how.modifyWeek then cur'.totalCount - cur.totalCount else 0) ∧
    (cur'.weekCount = cur.weekCount ∨ weekCap = 0 ∨ cur'.weekCount ≤ weekCap) ∧
    cur'.seasonCount = cur.seasonCount + (if how.modifySeason then cur'.totalCount - cur.totalCount else 0)
  else
    cur'.totalCount = cur.totalCount - count.natAbs ∧ cur'.weekCount = cur.weekCount ∧
      cur'.seasonCount = cur.seasonCount

/-- The sums, and the caps that are looked at, are not beyond an `int32`. -/
structure CountsFit (weekCap : Nat) (how : Modification) (count : Int) (cur : PlayerCurrency) : Prop where
  least : -2 ^ 31 ≤ count
  total : cur.totalCount + count < 2 ^ 31
  week : how.modifyWeek = true → 0 < count → cur.weekCount + count < 2 ^ 31
  totalCap : 0 < count → cur.currencyEntry.totalCap < 2 ^ 31
  weekCap : how.modifyWeek = true → weekCap < 2 ^ 31

/-- The week is within its cap, if the call is about it, and the total is within its own, which it does not
reach before a gain is all added unless the week counts too or nothing is added. -/
structure WithinCaps (weekCap : Nat) (how : Modification) (count : Int) (cur : PlayerCurrency) : Prop where
  week : how.modifyWeek = true → weekCap = 0 ∨ cur.weekCount ≤ weekCap
  total : 0 < count → cur.currencyEntry.totalCap = 0 ∨
    cur.totalCount + count ≤ cur.currencyEntry.totalCap ∨ cur.totalCount = cur.currencyEntry.totalCap ∨
      (how.modifyWeek = true ∧ cur.totalCount ≤ cur.currencyEntry.totalCap)
  season : 0 < count → how.modifySeason = true → cur.seasonCount + room cur.currencyEntry.totalCap cur.totalCount
      (if how.modifyWeek then room weekCap cur.weekCount count.toNat else count.toNat) < 2 ^ 32

/-- What is known of a row that only such calls have changed. -/
structure RowFits (row : CurrencyRow) : Prop where
  total : row.totalCount < 2 ^ 31
  week : row.weekCount < 2 ^ 31
  season : row.seasonCount < 2 ^ 32

/-- The counts of `newCounts`, in integers without a bound. -/
def plainCounts (weekCap : Nat) (how : Modification) (count : Int) (cur : PlayerCurrency) : Int × Int :=
  let newTotalCount := max 0 (cur.totalCount + count)
  let newWeekCount : Int := cur.weekCount + if how.modifyWeek ∧ 0 < count then count else 0
  let totalCap : Int := cur.currencyEntry.totalCap
  let capped :=
    if totalCap ≠ 0 ∧ totalCap < newTotalCount ∧ 0 < count then
      (totalCap, newWeekCount - (newTotalCount - totalCap))
    else (newTotalCount, newWeekCount)
  if how.modifyWeek ∧ (weekCap : Int) ≠ 0 ∧ weekCap < capped.2 then
    (capped.1 - (capped.2 - weekCap), weekCap)
  else capped

theorem signed32_eq {x : Int} (hmin : -2 ^ 31 ≤ x) (hmax : x < 2 ^ 31) : signed32 x = x := by
  apply Int.bmod_eq_of_le_mul_two <;> omega

variable {rules : CurrencyRules} {c c' : Currencies} {cur cur' : PlayerCurrency} {how : Modification}
  {count : Int} {id : Nat}

theorem capped_eq {cap : Nat} {total week : Int} {gain : Prop} [Decidable gain] (hcap : gain → cap < 2 ^ 31)
    (htotal : total < 2 ^ 31) (hweek : 0 ≤ week) (hmax : week < 2 ^ 31) :
    (if signed32 cap ≠ 0 ∧ signed32 cap < total ∧ gain then
      (signed32 cap, signed32 (week - signed32 (total - signed32 cap))) else (total, week)) =
      if (cap : Int) ≠ 0 ∧ (cap : Int) < total ∧ gain then ((cap : Int), week - (total - cap))
      else (total, week) := by
  by_cases hgain : gain
  · have hfits := hcap hgain
    rw [signed32_eq (x := cap) (by omega) (by omega)]
    split
    next hover => rw [signed32_eq (x := total - cap) (by omega) (by omega), signed32_eq (by omega) (by omega)]
    next => rfl
  · simp only [hgain, and_false, if_false]

theorem weekCapped_eq {cap : Nat} {counts : Int × Int} {asked : Prop} [Decidable asked]
    (hcap : asked → cap < 2 ^ 31) (htotal : 0 ≤ counts.1) (hmax : counts.1 < 2 ^ 31)
    (hweek : counts.2 < 2 ^ 31) : (if asked ∧ signed32 cap ≠ 0 ∧ signed32 cap < counts.2 then
      (signed32 (counts.1 - signed32 (counts.2 - signed32 cap)), signed32 cap) else counts) =
      if asked ∧ (cap : Int) ≠ 0 ∧ (cap : Int) < counts.2 then (counts.1 - (counts.2 - cap), (cap : Int))
      else counts := by
  by_cases hasked : asked
  · have hfits := hcap hasked
    rw [signed32_eq (x := cap) (by omega) (by omega)]
    split
    next hover =>
      rw [signed32_eq (x := counts.2 - cap) (by omega) (by omega), signed32_eq (by omega) (by omega)]
    next => rfl
  · simp only [hasked, false_and, if_false]

theorem newCounts_eq (hrow : RowFits cur.toCurrencyRow) (h : CountsFit (c.getCurrencyWeekCap rules cur) how count cur) :
    c.newCounts rules cur count how = plainCounts (c.getCurrencyWeekCap rules cur) how count cur := by
  obtain ⟨htotal, hweek, -⟩ := hrow
  obtain ⟨hleast, hsum, hweekSum, htotalCap, hweekCap⟩ := h
  rw [newCounts, plainCounts]
  generalize c.getCurrencyWeekCap rules cur = weekCap at *
  have hpresent : signed32 cur.totalCount = cur.totalCount := signed32_eq (by omega) (by omega)
  have hpresentWeek : signed32 cur.weekCount = cur.weekCount := signed32_eq (by omega) (by omega)
  have hadded : signed32 (cur.totalCount + count) = cur.totalCount + count :=
    signed32_eq (by omega) (by omega)
  have hgain : 0 ≤ (cur.weekCount + if how.modifyWeek ∧ 0 < count then count else 0) ∧
      (cur.weekCount + if how.modifyWeek ∧ 0 < count then count else 0) < 2 ^ 31 := by
    split
    next hgain => exact ⟨by omega, hweekSum hgain.1 hgain.2⟩
    next => exact ⟨by omega, by omega⟩
  have haddedWeek := signed32_eq (by omega) hgain.2
  have hfloor : (if (cur.totalCount : Int) + count < 0 then 0 else (cur.totalCount : Int) + count) =
      max 0 (cur.totalCount + count) := by
    split <;> omega
  simp only [hpresent, hpresentWeek, hadded, haddedWeek, hfloor, if_neg (Int.not_lt.mpr hgain.1)]
  rw [capped_eq htotalCap (by omega) hgain.1 hgain.2]
  apply weekCapped_eq hweekCap
  · split <;> simp only <;> omega
  · split <;> simp only <;> omega
  · split <;> simp only <;> omega

def stored (how : Modification) (cur : PlayerCurrency) (counts : Int × Int) : PlayerCurrency :=
  if counts.1 = signed32 cur.totalCount then cur
  else
    { cur with
      state := cur.state.touch
      totalCount := unsigned32 counts.1
      weekCount := unsigned32 counts.2
      seasonCount :=
        if 0 < signed32 (counts.1 - signed32 cur.totalCount) ∧ how.modifySeason then
          unsigned32 (cur.seasonCount + signed32 (counts.1 - signed32 cur.totalCount))
        else cur.seasonCount }

theorem modifyOne_eq (hcount : count ≠ 0) (hfound : c.findOrNew rules id = some cur) :
    (c.modifyOne rules id count how).1 =
      c.setCurrency id (stored how cur (c.newCounts rules cur (how.gained id count) how)) := by
  rw [modifyOne, if_neg hcount, addCount, hfound, stored]
  dsimp only
  split <;> rfl

theorem unsigned32_eq {x : Int} (hmin : 0 ≤ x) (hmax : x < 2 ^ 32) : unsigned32 x = x.toNat := by
  rw [unsigned32, Int.emod_eq_of_lt hmin hmax]

theorem unsigned32_neg {x : Int} (hmin : -2 ^ 31 ≤ x) (hmax : x < 0) : 2 ^ 31 ≤ unsigned32 x := by
  rw [unsigned32]
  omega

theorem stored_cases (hrow : RowFits cur.toCurrencyRow) (total : Int) (hmin : -2 ^ 31 ≤ total)
    (hmax : total < 2 ^ 31) (how : Modification) (week : Int) :
    (total = cur.totalCount ∧ stored how cur (total, week) = cur) ∨
    (total ≠ cur.totalCount ∧ 0 ≤ total ∧ (stored how cur (total, week)).totalCount = total.toNat ∧
      (stored how cur (total, week)).weekCount = unsigned32 week ∧ (stored how cur (total, week)).seasonCount =
        if cur.totalCount < total ∧ how.modifySeason then unsigned32 (cur.seasonCount + (total - cur.totalCount))
        else cur.seasonCount) ∨ (total < 0 ∧ 2 ^ 31 ≤ (stored how cur (total, week)).totalCount) := by
  have htotal := hrow.total
  have hpresent : signed32 cur.totalCount = cur.totalCount := signed32_eq (by omega) (by omega)
  rw [stored, hpresent]
  by_cases heq : total = cur.totalCount
  · exact .inl ⟨heq, if_pos heq⟩
  · right
    rw [if_neg heq]
    by_cases hneg : total < 0
    · exact .inr ⟨hneg, unsigned32_neg hmin hneg⟩
    · have hdiff : signed32 (total - cur.totalCount) = total - cur.totalCount :=
        signed32_eq (by omega) (by omega)
      refine .inl ⟨heq, by omega, unsigned32_eq (by omega) (by omega), rfl, ?_⟩
      simp only [hdiff, Int.sub_pos]

theorem modifiedExactly_spent {weekCap : Nat} (hrow : RowFits cur.toCurrencyRow)
    (h : CountsFit weekCap how count cur) (hspent : ¬ 0 < count) :
    ModifiedExactly weekCap how count cur (stored how cur (plainCounts weekCap how count cur)) ↔
      WithinCaps weekCap how count cur := by
  have htotal := hrow.total
  have hweek := hrow.week
  have hsum := h.total
  have hweekCap := h.weekCap
  have hcounts : plainCounts weekCap how count cur =
      if how.modifyWeek ∧ (weekCap : Int) ≠ 0 ∧ (weekCap : Int) < cur.weekCount then
        (max 0 (cur.totalCount + count) - (cur.weekCount - weekCap), (weekCap : Int))
      else (max 0 (cur.totalCount + count), (cur.weekCount : Int)) := by
    simp [plainCounts, hspent]
  have hwithin : WithinCaps weekCap how count cur ↔
      (how.modifyWeek = true → weekCap = 0 ∨ cur.weekCount ≤ weekCap) :=
    ⟨WithinCaps.week, fun h => ⟨h, fun h => absurd h hspent, fun h => absurd h hspent⟩⟩
  rw [hcounts, ModifiedExactly, if_neg hspent, hwithin]
  split
  next hover =>
    -- the week is lowered to its cap, and the total with it
    apply iff_of_false
    · rintro ⟨htotal', hweek', -⟩
      rcases stored_cases hrow (max 0 ((cur.totalCount : Int) + count) - (cur.weekCount - weekCap))
        (by omega) (by omega) how weekCap with ⟨heq, -⟩ | ⟨-, -, -, hstored, -⟩ | ⟨-, hstored⟩
      · omega
      · rw [hstored, unsigned32_eq (by omega) (by omega)] at hweek'
        omega
      · omega
    · intro hright
      have hcap := hright hover.1
      omega
  next hunder =>
    apply iff_of_true
    · rcases stored_cases hrow (max 0 ((cur.totalCount : Int) + count)) (by omega) (by omega) how
        cur.weekCount with ⟨heq, hstored⟩ | ⟨hne, -, htotal', hweek', hseason'⟩ | ⟨hneg, -⟩
      · rw [hstored]
        exact ⟨by omega, rfl, rfl⟩
      · rw [htotal', hweek', hseason', unsigned32_eq (by omega) (by omega), if_neg (by omega)]
        exact ⟨by omega, by omega, rfl⟩
      · omega
    · intro hmodify
      by_contra hnot
      exact hunder ⟨hmodify, by omega, by omega⟩

theorem season_iff {season : Nat} {rise : Int} (hrise : 0 ≤ rise) (hmax : rise < 2 ^ 31) (modifySeason : Bool) :
    (if modifySeason then unsigned32 (season + rise) else season) =
        season + (if modifySeason then rise.toNat else 0) ↔
      (modifySeason = true → (season : Int) + rise < 2 ^ 32) := by
  cases modifySeason with
  | false => simp
  | true =>
    simp only [if_true, true_imp_iff, unsigned32]
    omega

theorem modifiedExactly_total {weekCap : Nat} (hrow : RowFits cur.toCurrencyRow)
    (h : CountsFit weekCap how count cur) (hgain : 0 < count) (hmodify : how.modifyWeek = false) :
    ModifiedExactly weekCap how count cur (stored how cur (plainCounts weekCap how count cur)) ↔
      WithinCaps weekCap how count cur := by
  have htotal := hrow.total
  have hweek := hrow.week
  have hseason := hrow.season
  have hsum := h.total
  have hfloor : max 0 ((cur.totalCount : Int) + count) = cur.totalCount + count := by omega
  have hcounts : plainCounts weekCap how count cur =
      if (cur.currencyEntry.totalCap : Int) ≠ 0 ∧ (cur.currencyEntry.totalCap : Int) < cur.totalCount + count then
        ((cur.currencyEntry.totalCap : Int),
          (cur.weekCount : Int) - (cur.totalCount + count - cur.currencyEntry.totalCap))
      else (cur.totalCount + count, (cur.weekCount : Int)) := by
    simp [plainCounts, hmodify, hgain, hfloor]
  rw [hcounts, ModifiedExactly, if_pos hgain]
  simp only [hmodify, Bool.false_eq_true, if_false]
  split
  next hcap =>
    have hfits := h.totalCap
    rcases stored_cases hrow cur.currencyEntry.totalCap (by omega) (by omega) how
      (cur.weekCount - (cur.totalCount + count - cur.currencyEntry.totalCap)) with
      ⟨heq, hstored⟩ | ⟨hne, -, -, hstored, -⟩ | ⟨hneg, -⟩
    · rw [hstored]
      apply iff_of_true
      · simp
        omega
      · refine ⟨by simp [hmodify], fun _ => .inr (.inr (.inl (by omega))), fun _ _ => ?_⟩
        rw [room, if_neg (by omega)]
        omega
    · apply iff_of_false
      · rintro ⟨-, -, hweek', -⟩
        rw [hstored, unsigned32] at hweek'
        omega
      · intro hwithin
        have hcap' := hwithin.total hgain
        simp only [hmodify, Bool.false_eq_true, false_and, or_false] at hcap'
        omega
    · omega
  next hfree =>
    rcases stored_cases hrow ((cur.totalCount : Int) + count) (by omega) (by omega) how cur.weekCount with
      ⟨heq, -⟩ | ⟨-, -, htotal', hweek', hseason'⟩ | ⟨hneg, -⟩
    · omega
    · have hrise : (cur.totalCount : Int) + count - cur.totalCount = count := by omega
      have hadded : ((cur.totalCount : Int) + count).toNat - cur.totalCount = count.toNat := by omega
      rw [htotal', hweek', unsigned32_eq (by omega) (by omega), hadded]
      rw [hrise] at hseason'
      have hseason : (stored how cur ((cur.totalCount : Int) + count, (cur.weekCount : Int))).seasonCount =
          cur.seasonCount + (if how.modifySeason then count.toNat else 0) ↔
          (how.modifySeason = true → (cur.seasonCount : Int) + count < 2 ^ 32) := by
        have hmore : (cur.totalCount : Int) < cur.totalCount + count := by omega
        simp only [hseason', ← season_iff (Int.le_of_lt hgain) (by omega : count < 2 ^ 31), hmore, true_and]
      rw [hseason]
      have hroom : room cur.currencyEntry.totalCap cur.totalCount count.toNat = count.toNat := by
        rw [room]
        split <;> omega
      constructor
      · rintro ⟨-, -, -, -, hseason'⟩
        refine ⟨by simp [hmodify], fun _ => by omega, fun _ hmodifySeason => ?_⟩
        have hless := hseason' hmodifySeason
        simp only [hmodify, Bool.false_eq_true, if_false, hroom]
        omega
      · intro hwithin
        refine ⟨⟨by omega, by omega⟩, by omega, by omega, .inl (by omega), fun hmodifySeason => ?_⟩
        have hless := hwithin.season hgain hmodifySeason
        simp only [hmodify, Bool.false_eq_true, if_false, hroom] at hless
        omega
    · omega

theorem plainCounts_gain (weekCap : Nat) (cur : PlayerCurrency) (hgain : 0 < count) (hmodify : how.modifyWeek = true) :
    ∃ rise : Int, plainCounts weekCap how count cur = (cur.totalCount + rise, cur.weekCount + rise) ∧
      rise ≤ count ∧ (cur.currencyEntry.totalCap = 0 ∨ cur.totalCount + rise ≤ cur.currencyEntry.totalCap) ∧
      (weekCap = 0 ∨ cur.weekCount + rise ≤ weekCap) ∧ (rise = count ∨
        (cur.currencyEntry.totalCap ≠ 0 ∧ rise = (cur.currencyEntry.totalCap : Int) - cur.totalCount) ∨
        (weekCap ≠ 0 ∧ rise = (weekCap : Int) - cur.weekCount)) := by
  have hfloor : max 0 ((cur.totalCount : Int) + count) = cur.totalCount + count := by omega
  rw [plainCounts]
  simp only [hmodify, hgain, hfloor, true_and, and_true, if_true]
  by_cases hcap : (cur.currencyEntry.totalCap : Int) ≠ 0 ∧ (cur.currencyEntry.totalCap : Int) < cur.totalCount + count
  · rw [if_pos hcap]
    by_cases hweekCap : (weekCap : Int) ≠ 0 ∧ (weekCap : Int) <
        cur.weekCount + count - (cur.totalCount + count - cur.currencyEntry.totalCap)
    · rw [if_pos hweekCap]
      refine ⟨weekCap - cur.weekCount, ?_, by omega, by omega, by omega, .inr (.inr ⟨by omega, rfl⟩)⟩
      simp only [Prod.mk.injEq]
      omega
    · rw [if_neg hweekCap]
      refine ⟨cur.currencyEntry.totalCap - cur.totalCount, ?_, by omega, by omega, by omega,
        .inr (.inl ⟨by omega, rfl⟩)⟩
      simp only [Prod.mk.injEq]
      omega
  · rw [if_neg hcap]
    by_cases hweekCap : (weekCap : Int) ≠ 0 ∧ (weekCap : Int) < cur.weekCount + count
    · rw [if_pos hweekCap]
      refine ⟨weekCap - cur.weekCount, ?_, by omega, by omega, by omega, .inr (.inr ⟨by omega, rfl⟩)⟩
      simp only [Prod.mk.injEq]
      omega
    · rw [if_neg hweekCap]
      exact ⟨count, rfl, by omega, by omega, by omega, .inl rfl⟩

theorem modifiedExactly_week {weekCap : Nat} (hrow : RowFits cur.toCurrencyRow)
    (h : CountsFit weekCap how count cur) (hgain : 0 < count) (hmodify : how.modifyWeek = true) :
    ModifiedExactly weekCap how count cur (stored how cur (plainCounts weekCap how count cur)) ↔
      WithinCaps weekCap how count cur := by
  have htotal := hrow.total
  have hweek := hrow.week
  have hseason := hrow.season
  have hsum := h.total
  have hweekSum := h.week hmodify hgain
  obtain ⟨rise, hcounts, hle, htotalCap, hweekCap, hrise⟩ := plainCounts_gain weekCap cur hgain hmodify
  have hleast : -2 ^ 31 < rise := by omega
  -- nothing is taken away exactly when both are within their caps
  have hwithin : WithinCaps weekCap how count cur ↔
      0 ≤ rise ∧ (how.modifySeason = true → (cur.seasonCount : Int) + rise < 2 ^ 32) := by
    have hroom : 0 ≤ rise → (room cur.currencyEntry.totalCap cur.totalCount
        (if how.modifyWeek then room weekCap cur.weekCount count.toNat else count.toNat) : Int) = rise := by
      intro hpos
      rw [if_pos hmodify, room, room]
      split <;> split <;> omega
    constructor
    · intro hin
      have hin₁ := hin.week hmodify
      have hin₂ := hin.total hgain
      have hpos : 0 ≤ rise := by omega
      refine ⟨hpos, fun hmodifySeason => ?_⟩
      have hless := hin.season hgain hmodifySeason
      have heq := hroom hpos
      omega
    · rintro ⟨hpos, hless⟩
      refine ⟨fun _ => by omega, fun _ => ?_, fun _ hmodifySeason => ?_⟩
      · by_cases hcap : cur.currencyEntry.totalCap = 0
        · exact .inl hcap
        · exact .inr (.inr (.inr ⟨hmodify, by omega⟩))
      · have heq := hroom hpos
        have hlast := hless hmodifySeason
        omega
  rw [hcounts, hwithin, ModifiedExactly, if_pos hgain]
  rcases stored_cases hrow ((cur.totalCount : Int) + rise) (by omega) (by omega) how
    (cur.weekCount + rise) with ⟨heq, hstored⟩ | ⟨hne, hnonneg, htotal', hweek', hseason'⟩ | ⟨hneg, hstored⟩
  · rw [hstored]
    apply iff_of_true
    · simp
      omega
    · exact ⟨by omega, fun _ => by omega⟩
  · by_cases hpos : 0 ≤ rise
    · have hmore : (cur.totalCount : Int) < cur.totalCount + rise := by omega
      have hadded : ((cur.totalCount : Int) + rise).toNat - cur.totalCount = rise.toNat := by omega
      have hdiff : (cur.totalCount : Int) + rise - cur.totalCount = rise := by omega
      simp only [hmore, hdiff, true_and] at hseason'
      rw [htotal', hweek', hseason', unsigned32_eq (by omega) (by omega), hadded, if_pos hmodify,
        season_iff hpos (by omega)]
      constructor
      · rintro ⟨-, -, -, -, hless⟩
        exact ⟨hpos, hless⟩
      · rintro ⟨-, hless⟩
        exact ⟨⟨by omega, by omega⟩, by omega, by omega, by omega, hless⟩
    · apply iff_of_false
      · rintro ⟨⟨hup, -⟩, -⟩
        omega
      · rintro ⟨hpos', -⟩
        exact hpos hpos'
  · apply iff_of_false
    · rintro ⟨⟨-, htotal'⟩, -⟩
      omega
    · rintro ⟨hpos, -⟩
      omega

theorem modifiedExactly_iff {weekCap : Nat} (hrow : RowFits cur.toCurrencyRow) (h : CountsFit weekCap how count cur) :
    ModifiedExactly weekCap how count cur (stored how cur (plainCounts weekCap how count cur)) ↔
      WithinCaps weekCap how count cur := by
  by_cases hgain : 0 < count
  · cases hmodify : how.modifyWeek with
    | false => exact modifiedExactly_total hrow h hgain hmodify
    | true => exact modifiedExactly_week hrow h hgain hmodify
  · exact modifiedExactly_spent hrow h hgain

theorem modifyOne_other {j : Nat} (hj : id ≠ j) :
    (c.modifyOne rules id count how).1.currencies[j]? = c.currencies[j]? := by
  by_cases hcount : count = 0
  · rw [modifyOne, if_pos hcount]
  · cases hfound : c.findOrNew rules id with
    | none => rw [modifyOne, if_neg hcount, addCount, hfound]
    | some cur => rw [modifyOne_eq hcount hfound, lookup_setCurrency, if_neg hj]

theorem lookup_modifyCurrencyCount (c : Currencies) (id : Nat) (count : Int) (how : Modification) :
    (c.modifyCurrencyCount rules id count how).currencies[id]? =
      (c.modifyOne rules id count how).1.currencies[id]? := by
  rw [modifyCurrencyCount]
  split
  next h =>
    apply modifyOne_other
    rcases h.2 with rfl | rfl <;> decide
  next => rfl

/-- A property of the entry that a call meets, with its week cap and the count that is added. -/
def OfEntry (P : Nat → Modification → Int → PlayerCurrency → Prop) (rules : CurrencyRules) (c : Currencies)
    (id : Nat) (count : Int) (how : Modification) : Prop :=
  count ≠ 0 → ∀ cur, c.findOrNew rules id = some cur → P (c.getCurrencyWeekCap rules cur) how (how.gained id count) cur

def CallExact (rules : CurrencyRules) (c : Currencies) (id : Nat) (count : Int) (how : Modification) : Prop :=
  count ≠ 0 → ∀ cur, c.findOrNew rules id = some cur →
    ∃ cur', (c.modifyCurrencyCount rules id count how).currencies[id]? = some cur' ∧
      ModifiedExactly (c.getCurrencyWeekCap rules cur) how (how.gained id count) cur cur'

/-- A property of a call, and of the one for conquest points that it may end in. -/
def EachCall (P : CurrencyRules → Currencies → Nat → Int → Modification → Prop) (c : Currencies) :
    CurrencyOp → Prop
  | .modifyCurrencyCount rules id count how =>
    let result := c.modifyOne rules id count how
    P rules c id count how ∧ (result.2 ≠ 0 ∧ (id = currencyConquestArenaMeta ∨ id = currencyConquestBgMeta) →
        P rules result.1 currencyConquestPoints result.2 how)
  | _ => True

/-- What is known of the rows and entries of a character. -/
structure Fits (c : Currencies) : Prop where
  entries : ∀ (id : Nat) (cur : PlayerCurrency), c.currencies[id]? = some cur → RowFits cur.toCurrencyRow
  rows : ∀ id row, c.rows id = some row → RowFits row

theorem Fits.findOrNew (h : c.Fits) (hfound : c.findOrNew rules id = some cur) : RowFits cur.toCurrencyRow := by
  rw [Currencies.findOrNew] at hfound
  split at hfound
  next cur₁ hcur =>
    obtain rfl := Option.some.inj hfound
    exact h.entries id cur₁ hcur
  next =>
    obtain ⟨entry, -, rfl⟩ := Option.map_eq_some_iff.mp hfound
    exact ⟨Nat.two_pow_pos 31, Nat.two_pow_pos 31, Nat.two_pow_pos 32⟩

theorem callExact_iff (h : c.Fits) (hfits : OfEntry CountsFit rules c id count how) :
    CallExact rules c id count how ↔ OfEntry WithinCaps rules c id count how := by
  rw [CallExact, OfEntry]
  apply imp_congr_right
  intro hcount
  apply forall_congr'
  intro cur
  apply imp_congr_right
  intro hfound
  have hrow := h.findOrNew hfound
  have hcur := hfits hcount cur hfound
  rw [← modifiedExactly_iff hrow hcur, lookup_modifyCurrencyCount, modifyOne_eq hcount hfound, lookup_setCurrency,
    if_pos rfl, newCounts_eq hrow hcur]
  simp

theorem Fits.setCurrency (h : c.Fits) (hcur : RowFits cur.toCurrencyRow) : (c.setCurrency id cur).Fits := by
  constructor
  · intro j cur' hcur'
    rw [lookup_setCurrency] at hcur'
    split at hcur'
    · obtain rfl := Option.some.inj hcur'
      exact hcur
    · exact h.entries j cur' hcur'
  · exact h.rows

theorem season_stored_lt (hrow : RowFits cur.toCurrencyRow) (how : Modification) (counts : Int × Int) :
    (stored how cur counts).seasonCount < 2 ^ 32 := by
  have hseason := hrow.season
  rw [stored]
  split
  · exact hseason
  · simp only [unsigned32]
    split <;> omega

theorem rowFits_of_modifiedExactly {weekCap : Nat} (hrow : RowFits cur.toCurrencyRow)
    (h : CountsFit weekCap how count cur) (hexact : ModifiedExactly weekCap how count cur cur')
    (hseason : cur'.seasonCount < 2 ^ 32) : RowFits cur'.toCurrencyRow := by
  have htotal := hrow.total
  have hweek := hrow.week
  have hsum := h.total
  rw [ModifiedExactly] at hexact
  split at hexact
  next hgain =>
    obtain ⟨⟨hup, hle⟩, -, hweek', -⟩ := hexact
    refine ⟨by omega, ?_, hseason⟩
    rw [hweek']
    split
    next hmodify =>
      have hweekSum := h.week hmodify hgain
      omega
    next => omega
  next =>
    obtain ⟨htotal', hweek', -⟩ := hexact
    exact ⟨by omega, by omega, hseason⟩

theorem Fits.modifyOne (h : c.Fits) (hfits : OfEntry CountsFit rules c id count how)
    (hwithin : OfEntry WithinCaps rules c id count how) : (c.modifyOne rules id count how).1.Fits := by
  by_cases hcount : count = 0
  · rw [Currencies.modifyOne, if_pos hcount]
    exact h
  · cases hfound : c.findOrNew rules id with
    | none =>
      rw [Currencies.modifyOne, if_neg hcount, addCount, hfound]
      exact h
    | some cur =>
      have hrow := h.findOrNew hfound
      have hcur := hfits hcount cur hfound
      have hexact := (modifiedExactly_iff hrow hcur).mpr (hwithin hcount cur hfound)
      rw [modifyOne_eq hcount hfound, newCounts_eq hrow hcur]
      exact h.setCurrency (rowFits_of_modifiedExactly hrow hcur hexact (season_stored_lt hrow how _))

theorem Fits.modifyCurrencyCount (h : c.Fits)
    (hcall : c.EachCall (OfEntry CountsFit) (.modifyCurrencyCount rules id count how))
    (hwithin : c.EachCall (OfEntry WithinCaps) (.modifyCurrencyCount rules id count how)) :
    (c.modifyCurrencyCount rules id count how).Fits := by
  have hfirst := h.modifyOne hcall.1 hwithin.1
  rw [Currencies.modifyCurrencyCount]
  split
  next hnested => exact hfirst.modifyOne (hcall.2 hnested) (hwithin.2 hnested)
  next => exact hfirst

theorem Fits.raiseWeekCap (h : c.Fits) (id : Nat) : (c.raiseWeekCap rules id).Fits := by
  rw [Currencies.raiseWeekCap]
  split
  next => exact h
  next cur hfound =>
    have hrow := h.findOrNew hfound
    dsimp only
    split
    · exact h.setCurrency hrow
    · exact h.setCurrency ⟨hrow.total, hrow.week, hrow.season⟩

theorem Fits.setPersonalRating (h : c.Fits) (value : Nat) : (c.setPersonalRating rules value).Fits := by
  rw [Currencies.setPersonalRating]
  split
  · exact h
  · have hrating : ({ c with maxPersonalRatedRating := value } : Currencies).Fits := ⟨h.entries, h.rows⟩
    exact ((hrating.raiseWeekCap _).raiseWeekCap _).raiseWeekCap _

theorem Fits.setCurrencyFlags (h : c.Fits) (id flags : Nat) : (c.setCurrencyFlags id flags).Fits := by
  rw [Currencies.setCurrencyFlags]
  split
  next => exact h
  next cur hcur =>
    have hrow := h.entries id cur hcur
    exact h.setCurrency ⟨hrow.total, hrow.week, hrow.season⟩

theorem Fits.resetCurrencyWeekCounts (h : c.Fits) : c.resetCurrencyWeekCounts.Fits := by
  refine ⟨fun id cur hcur => ?_, h.rows⟩
  rw [lookup_resetCurrencyWeekCounts] at hcur
  obtain ⟨old, hold, rfl⟩ := Option.map_eq_some_iff.mp hcur
  have hrow := h.entries id old hold
  exact ⟨hrow.total, Nat.two_pow_pos 31, hrow.season⟩

theorem saveStatement_cases {row : Option CurrencyRow} {out : CurrencyRow}
    (h : saveStatement (id, cur) row = some out) : out = cur.toCurrencyRow ∨ row = some out := by
  rw [saveStatement] at h
  split at h
  · obtain ⟨old, -, rfl⟩ := Option.map_eq_some_iff.mp h
    exact .inl rfl
  · cases row with
    | none => exact .inl (Option.some.inj h).symm
    | some old => exact .inr h
  · exact .inr h

theorem Fits.save (h : c.Fits) : c.save.Fits := by
  constructor
  · intro id cur hcur
    rw [lookup_save] at hcur
    obtain ⟨old, hold, hcur⟩ := Option.bind_eq_some_iff.mp hcur
    split at hcur
    · cases hcur
    · obtain rfl := Option.some.inj hcur
      exact h.entries id old hold
  · intro id row hrow
    rw [rows_save] at hrow
    split at hrow
    next => exact h.rows id row hrow
    next cur hcur =>
      rcases saveStatement_cases hrow with rfl | hold
      · exact h.entries id cur hcur
      · exact h.rows id row hold

theorem Fits.load (h : c.Fits) (rules : CurrencyRules) (rating : Nat) : (c.load rules rating).Fits := by
  constructor
  · intro id cur hcur
    have hloaded : c.currencies[id]?.bind (fun _ => (c.rows id).bind fun row =>
        (rules.lookupEntry id).map fun entry => PlayerCurrency.load entry row) = some cur :=
      ExtTreeMap.getElem?_filterMap'.symm.trans hcur
    obtain ⟨-, -, hloaded⟩ := Option.bind_eq_some_iff.mp hloaded
    obtain ⟨row, hrow, hloaded⟩ := Option.bind_eq_some_iff.mp hloaded
    obtain ⟨entry, -, rfl⟩ := Option.map_eq_some_iff.mp hloaded
    have hfits := h.rows id row hrow
    have htotal := hfits.total
    refine ⟨?_, hfits.week, hfits.season⟩
    change (if entry.totalCap ≠ 0 ∧ entry.totalCap < row.totalCount then entry.totalCap else row.totalCount) < _
    split <;> omega
  · intro id row hrow
    obtain ⟨entry, -, hrow⟩ := Option.bind_eq_some_iff.mp hrow
    exact h.rows id row hrow

theorem Fits.step (h : c.Fits) (op : CurrencyOp) (hcall : c.EachCall (OfEntry CountsFit) op)
    (hwithin : c.EachCall (OfEntry WithinCaps) op) : (c.step op).Fits := by
  cases op with
  | modifyCurrencyCount rules id count how => exact h.modifyCurrencyCount hcall hwithin
  | setCurrencyFlags id flags => exact h.setCurrencyFlags id flags
  | resetCurrencyWeekCounts => exact h.resetCurrencyWeekCounts
  | setPersonalRating rules value => exact h.setPersonalRating value
  | save => exact h.save
  | load rules rating => exact h.load rules rating

theorem fits_start : start.Fits := by
  constructor
  · intro id cur hcur
    simp [start] at hcur
  · intro id row hrow
    cases hrow

theorem eachCall_iff (h : c.Fits) (op : CurrencyOp) : c.EachCall (OfEntry CountsFit) op ∧ c.EachCall CallExact op ↔
      c.EachCall (OfEntry CountsFit) op ∧ c.EachCall (OfEntry WithinCaps) op := by
  apply and_congr_right
  intro hfits
  cases op with
  | modifyCurrencyCount rules id count how =>
    have hfirst := callExact_iff h hfits.1
    constructor
    · rintro ⟨hexact, hnested⟩
      have hwithin := hfirst.mp hexact
      exact ⟨hwithin, fun hn => (callExact_iff (h.modifyOne hfits.1 hwithin) (hfits.2 hn)).mp (hnested hn)⟩
    · rintro ⟨hwithin, hnested⟩
      exact ⟨hfirst.mpr hwithin, fun hn => (callExact_iff (h.modifyOne hfits.1 hwithin) (hfits.2 hn)).mpr (hnested hn)⟩
  | setCurrencyFlags id flags => rfl
  | resetCurrencyWeekCounts => rfl
  | setPersonalRating rules value => rfl
  | save => rfl
  | load rules rating => rfl

end Currencies

open Currencies

/-- Whatever happens to the currencies of a new character and to their caps, while sums and caps fit in an `int32` all
calls of `ModifyCurrencyCount` are exact exactly if each is within the caps. -/
theorem modifyCurrencyCount_exact_iff (ops : List CurrencyOp) :
    Guarded step (fun c op => c.EachCall (OfEntry CountsFit) op ∧ c.EachCall CallExact op) start ops ↔
      Guarded step (fun c op => c.EachCall (OfEntry CountsFit) op ∧ c.EachCall (OfEntry WithinCaps) op)
        start ops :=
  guarded_iff_of_kept (fun _ op hok h => h.step op hok.1 hok.2) (fun _ op h => eachCall_iff h op) ops fits_start

/-- A currency of which a character may have a hundred. -/
def cappedCurrency : CurrencyRules where
  lookupEntry id := if id = 395 then some { id := 395, totalCap := 100 } else none
  conquestRating _ := 0
  bgConquestRating _ := 0

/-- Of ninety points five were gained in this week. -/
def ninetyPoints : Currencies :=
  run step start [.modifyCurrencyCount cappedCurrency 395 5 {},
    .modifyCurrencyCount cappedCurrency 395 85 { modifyWeek := false }]

/-- Twenty more, which are not to count for the week: it loses ten, and wraps around. -/
theorem weekCount_wraps :
    (ninetyPoints.currencies[395]?.map fun cur => (cur.totalCount, cur.weekCount)) = some (90, 5) ∧
      ((ninetyPoints.modifyCurrencyCount cappedCurrency 395 20 { modifyWeek := false }).currencies[395]?.map
        fun cur => (cur.totalCount, cur.weekCount)) = some (100, 4294967291) ∧
      ¬ CallExact cappedCurrency ninetyPoints 395 20 { modifyWeek := false } := by
  have hbefore : (ninetyPoints.currencies[395]?.map fun cur => (cur.totalCount, cur.weekCount)) = some (90, 5) := by
    decide +kernel
  have hafter : ((ninetyPoints.modifyCurrencyCount cappedCurrency 395 20
      { modifyWeek := false }).currencies[395]?.map fun cur => (cur.totalCount, cur.weekCount)) =
      some (100, 4294967291) := by
    decide +kernel
  refine ⟨hbefore, hafter, fun h => ?_⟩
  obtain ⟨cur, hcur, hcounts⟩ := Option.map_eq_some_iff.mp hbefore
  have hfound : ninetyPoints.findOrNew cappedCurrency 395 = some cur := by
    rw [findOrNew, hcur]
  obtain ⟨cur', hcur', hexact⟩ := h (by decide) cur hfound
  rw [hcur', Option.map_some, Option.some.injEq, Prod.mk.injEq] at hafter
  rw [Prod.mk.injEq] at hcounts
  have hweek : cur'.weekCount = cur.weekCount + 0 := hexact.2.2.1
  omega

end Mangos
