import Mangos.Framework.OrdMap
import Mangos.Framework.WriteBack
import Mathlib.Algebra.Group.Int.Defs
import Mathlib.Algebra.Group.Nat.Defs

/-!
# The currencies of a player

What a player has of each currency, how it changes, and how it is saved.
-/

namespace Mangos

open Std Framework

def currencyCategoryMeta : Nat := 89
def currencyConquestPoints : Nat := 390
def currencyConquestArenaMeta : Nat := 483
def currencyConquestBgMeta : Nat := 484

structure CurrencyTypesEntry where
  id : Nat
  category : Nat := 0
  weekCap : Nat := 0
  totalCap : Nat := 0
  deriving DecidableEq

/-- The columns that a save writes. -/
structure CurrencyRow where
  totalCount : Nat := 0
  weekCount : Nat := 0
  seasonCount : Nat := 0
  customWeekCap : Nat := 0
  flags : Nat := 0
  deriving DecidableEq

structure PlayerCurrency extends CurrencyRow where
  state : UpdateState
  currencyEntry : CurrencyTypesEntry
  deriving DecidableEq

/-- The store of currencies, and the weekly limits of conquest points for a rating. -/
structure CurrencyRules where
  lookupEntry : Nat → Option CurrencyTypesEntry
  conquestRating : Nat → Nat
  bgConquestRating : Nat → Nat

/-- `m_currencies` with `m_maxPersonalRatedRating`, and the rows of the player in `character_currencies`. -/
structure Currencies where
  currencies : ExtTreeMap Nat PlayerCurrency
  maxPersonalRatedRating : Nat
  rows : Nat → Option CurrencyRow

def signed32 (x : Int) : Int := Int.bmod x (2 ^ 32)

def unsigned32 (x : Int) : Nat := (x % 2 ^ 32).toNat

namespace PlayerCurrency

/-- The entry that is put where a currency is missing. -/
def new (entry : CurrencyTypesEntry) : PlayerCurrency where
  state := .new
  currencyEntry := entry

/-- The turn of `ResetCurrencyWeekCounts` for an entry. -/
def resetWeekCount (id : Nat) (cur : PlayerCurrency) : PlayerCurrency :=
  { cur with
    state := .changed
    weekCount := 0
    customWeekCap :=
      if cur.currencyEntry.category = currencyCategoryMeta ∨ id = currencyConquestPoints then 0
      else cur.customWeekCap }

end PlayerCurrency

namespace Currencies

variable (rules : CurrencyRules) (c : Currencies)

/-- `GetCurrencyWeekCap` of a type. -/
def weekCapOf (entry : CurrencyTypesEntry) : Nat :=
  if entry.id = currencyConquestPoints ∨ entry.id = currencyConquestBgMeta then
    rules.bgConquestRating c.maxPersonalRatedRating
  else if entry.id = currencyConquestArenaMeta then rules.conquestRating c.maxPersonalRatedRating
  else entry.weekCap

/-- `GetCurrencyWeekCap` of what a player has. -/
def getCurrencyWeekCap (cur : PlayerCurrency) : Nat :=
  if cur.customWeekCap ≠ 0 then cur.customWeekCap else c.weekCapOf rules cur.currencyEntry

def findOrNew (id : Nat) : Option PlayerCurrency :=
  match c.currencies[id]? with
  | some cur => some cur
  | none => (rules.lookupEntry id).map PlayerCurrency.new

def setCurrency (id : Nat) (cur : PlayerCurrency) : Currencies :=
  { c with currencies := c.currencies.insert id cur }

/-- The flags of a call of `ModifyCurrencyCount`, with what the auras make of a gain. -/
structure Modification where
  modifyWeek : Bool := true
  modifySeason : Bool := true
  ignoreMultipliers : Bool := false
  gain : Nat → Int → Int := fun _ count => count

def Modification.gained (how : Modification) (id : Nat) (count : Int) : Int :=
  if !how.ignoreMultipliers ∧ 0 < count then signed32 (how.gain id count) else count

def newCounts (cur : PlayerCurrency) (count : Int) (how : Modification) : Int × Int :=
  let added := signed32 (signed32 cur.totalCount + count)
  let newTotalCount := if added < 0 then 0 else added
  let addedWeek := signed32 (signed32 cur.weekCount + if how.modifyWeek ∧ 0 < count then count else 0)
  let newWeekCount := if addedWeek < 0 then 0 else addedWeek
  let totalCap := signed32 cur.currencyEntry.totalCap
  let capped :=
    if totalCap ≠ 0 ∧ totalCap < newTotalCount ∧ 0 < count then
      (totalCap, signed32 (newWeekCount - signed32 (newTotalCount - totalCap)))
    else (newTotalCount, newWeekCount)
  let weekCap := signed32 (c.getCurrencyWeekCap rules cur)
  if how.modifyWeek ∧ weekCap ≠ 0 ∧ weekCap < capped.2 then
    (signed32 (capped.1 - signed32 (capped.2 - weekCap)), weekCap)
  else capped

/-- A count is added to a currency; returned is by how much the total has changed. A currency that does not
exist ends the server. -/
def addCount (id : Nat) (count : Int) (how : Modification) : Currencies × Int :=
  match c.findOrNew rules id with
  | none => (c, 0)
  | some cur =>
    let newCount := c.newCounts rules cur count how
    let diff := signed32 (newCount.1 - signed32 cur.totalCount)
    if newCount.1 = signed32 cur.totalCount then (c.setCurrency id cur, 0)
    else
      (c.setCurrency id
        { cur with
          state := cur.state.touch
          totalCount := unsigned32 newCount.1
          weekCount := unsigned32 newCount.2
          seasonCount :=
            if 0 < diff ∧ how.modifySeason then unsigned32 (cur.seasonCount + diff)
            else cur.seasonCount }, diff)

/-- `ModifyCurrencyCount` for the currency itself. -/
def modifyOne (id : Nat) (count : Int) (how : Modification) : Currencies × Int :=
  if count = 0 then (c, 0) else c.addCount rules id (how.gained id count) how

/-- `ModifyCurrencyCount`: what changes of the two conquest currencies changes the conquest points. -/
def modifyCurrencyCount (id : Nat) (count : Int) (how : Modification) : Currencies :=
  let result := c.modifyOne rules id count how
  if result.2 ≠ 0 ∧ (id = currencyConquestArenaMeta ∨ id = currencyConquestBgMeta) then
    (result.1.modifyOne rules currencyConquestPoints result.2 how).1
  else result.1

def setCurrencyFlags (id flags : Nat) : Currencies :=
  match c.currencies[id]? with
  | none => c
  | some cur => c.setCurrency id { cur with flags, state := .changed }

def resetCurrencyWeekCounts : Currencies :=
  { c with currencies := c.currencies.map PlayerCurrency.resetWeekCount }

/-- One turn of the loop in `SetArenaTeamInfoField`. -/
def raiseWeekCap (id : Nat) : Currencies :=
  match c.findOrNew rules id with
  | none => c
  | some cur =>
    let newCap := c.weekCapOf rules cur.currencyEntry
    if newCap ≤ cur.customWeekCap then c.setCurrency id cur
    else c.setCurrency id { cur with state := cur.state.touch, customWeekCap := newCap }

/-- `SetArenaTeamInfoField` for a personal rating. -/
def setPersonalRating (value : Nat) : Currencies :=
  if value ≤ c.maxPersonalRatedRating then c
  else
    [currencyConquestPoints, currencyConquestArenaMeta, currencyConquestBgMeta].foldl (raiseWeekCap rules)
      { c with maxPersonalRatedRating := value }

/-- The statement of `_SaveCurrencies` for an entry. There is none for one that is removed. -/
def saveStatement (entry : Nat × PlayerCurrency) (row : Option CurrencyRow) : Option CurrencyRow :=
  match entry.2.state with
  | .changed => updateRow (fun _ => true) entry.2.toCurrencyRow row
  | .new => insertRow entry.2.toCurrencyRow row
  | _ => row

/-- `Player::_SaveCurrencies`. -/
def save : Currencies :=
  { c with
    rows := saveRows Prod.fst saveStatement c.rows c.currencies.toList
    currencies := c.currencies.filterMap fun _ cur =>
      if cur.state = .deleted then none else some { cur with state := .unchanged } }

def EntryInStep : Option PlayerCurrency → Option CurrencyRow → Prop
  | none, row => row = none
  | some cur, row =>
    cur.state ≠ .deleted ∧ Framework.InStep (fun _ => true) cur.state cur.toCurrencyRow row

def InStep (c : Currencies) : Prop := ∀ id, EntryInStep c.currencies[id]? (c.rows id)

def Lost (c : Currencies) : Prop :=
  ∃ id cur, c.currencies[id]? = some cur ∧ cur.state ≠ .new ∧ cur.state ≠ .deleted ∧ c.rows id = none

def Synced (c : Currencies) : Prop :=
  ∀ id, c.rows id = c.currencies[id]?.map PlayerCurrency.toCurrencyRow

def Touched (c c' : Currencies) : Prop :=
  c'.rows = c.rows ∧ ∀ id : Nat, c'.currencies[id]? = c.currencies[id]? ∨ (c.currencies[id]? = none ∧
        ∃ cur' : PlayerCurrency, c'.currencies[id]? = some cur' ∧ cur'.state = .new) ∨
      ∃ cur cur' : PlayerCurrency, c.currencies[id]? = some cur ∧ c'.currencies[id]? = some cur' ∧
        cur'.state = cur.state.touch

variable {rules : CurrencyRules} {c c' c'' : Currencies}

theorem lookup_setCurrency (c : Currencies) (id j : Nat) (cur : PlayerCurrency) :
    (c.setCurrency id cur).currencies[j]? = if id = j then some cur else c.currencies[j]? :=
  lookup_insert

theorem Touched.refl (c : Currencies) : Touched c c := ⟨rfl, fun _ => .inl rfl⟩

theorem touch_touch (state : UpdateState) : state.touch.touch = state.touch := by
  cases state <;> rfl

theorem Touched.trans (h : Touched c c') (h' : Touched c' c'') : Touched c c'' := by
  refine ⟨h'.1.trans h.1, fun id => ?_⟩
  rcases h'.2 id with hsame | ⟨hnone, cur'', hcur'', hnew⟩ | ⟨cur', cur'', hcur', hcur'', htouch⟩
  · rw [hsame]
    exact h.2 id
  · rcases h.2 id with hsame | ⟨_, cur', hcur', _⟩ | ⟨_, cur', _, hcur', _⟩
    · exact .inr (.inl ⟨hsame.symm.trans hnone, cur'', hcur'', hnew⟩)
    · exact absurd (hnone.symm.trans hcur') (by simp)
    · exact absurd (hnone.symm.trans hcur') (by simp)
  · rcases h.2 id with hsame | ⟨hnone, cur₁, hcur₁, hnew⟩ | ⟨cur, cur₁, hcur, hcur₁, htouch₁⟩
    · exact .inr (.inr ⟨cur', cur'', hsame.symm.trans hcur', hcur'', htouch⟩)
    · rw [hcur₁, Option.some.injEq] at hcur'
      subst hcur'
      exact .inr (.inl ⟨hnone, cur'', hcur'', by rw [htouch, hnew]; rfl⟩)
    · rw [hcur₁, Option.some.injEq] at hcur'
      subst hcur'
      exact .inr (.inr ⟨cur, cur'', hcur, hcur'', by rw [htouch, htouch₁, touch_touch]⟩)

theorem Touched.inStep (h : Touched c c') (hstep : c.InStep) : c'.InStep := by
  intro id
  have hid := hstep id
  rw [h.1]
  rcases h.2 id with hsame | ⟨hnone, cur', hcur', hnew⟩ | ⟨cur, cur', hcur, hcur', htouch⟩
  · rw [hsame]
    exact hid
  · rw [hnone] at hid
    rw [hcur']
    refine ⟨by simp [hnew], ?_⟩
    rw [hnew]
    exact hid
  · rw [hcur] at hid
    rw [hcur']
    have hrow := hid.2.touch rfl cur'.toCurrencyRow
    rw [← htouch] at hrow
    refine ⟨?_, hrow⟩
    rw [htouch]
    cases cur.state <;> simp [UpdateState.touch]

theorem Touched.lost (h : Touched c c') (hlost : c.Lost) : c'.Lost := by
  obtain ⟨id, cur, hcur, hnew, hdeleted, hrow⟩ := hlost
  rw [← h.1] at hrow
  rcases h.2 id with hsame | ⟨hnone, _⟩ | ⟨cur₁, cur', hcur₁, hcur', htouch⟩
  · exact ⟨id, cur, hsame.trans hcur, hnew, hdeleted, hrow⟩
  · exact absurd (hnone.symm.trans hcur) (by simp)
  · rw [hcur, Option.some.injEq] at hcur₁
    subst hcur₁
    refine ⟨id, cur', hcur', ?_, ?_, hrow⟩
    · rw [htouch]
      revert hnew
      cases cur.state <;> simp [UpdateState.touch]
    · rw [htouch]
      cases cur.state <;> simp [UpdateState.touch]

theorem touched_store {id : Nat} {cur cur' : PlayerCurrency} (h : c.findOrNew rules id = some cur)
    (hstate : cur' = cur ∨ cur'.state = cur.state.touch) : Touched c (c.setCurrency id cur') := by
  refine ⟨rfl, fun j => ?_⟩
  rw [lookup_setCurrency]
  by_cases hj : id = j
  · subst hj
    rw [if_pos rfl]
    rw [findOrNew] at h
    cases hfound : c.currencies[id]? with
    | some found =>
      rw [hfound, Option.some.injEq] at h
      subst h
      rcases hstate with rfl | htouch
      · exact .inl rfl
      · exact .inr (.inr ⟨found, cur', rfl, rfl, htouch⟩)
    | none =>
      rw [hfound] at h
      obtain ⟨entry, _, rfl⟩ := Option.map_eq_some_iff.mp h
      rcases hstate with rfl | htouch
      · exact .inr (.inl ⟨rfl, _, rfl, rfl⟩)
      · exact .inr (.inl ⟨rfl, cur', rfl, htouch⟩)
  · exact .inl (if_neg hj)

theorem touched_modifyOne (c : Currencies) (id : Nat) (count : Int) (how : Modification) :
    Touched c (c.modifyOne rules id count how).1 := by
  rw [modifyOne]
  split
  · exact Touched.refl c
  · rw [addCount]
    split
    next => exact Touched.refl c
    next cur hcur =>
      dsimp only
      split
      · exact touched_store hcur (.inl rfl)
      · exact touched_store hcur (.inr rfl)

theorem touched_modifyCurrencyCount (c : Currencies) (id : Nat) (count : Int) (how : Modification) :
    Touched c (c.modifyCurrencyCount rules id count how) := by
  rw [modifyCurrencyCount]
  split
  · exact (touched_modifyOne c id count how).trans (touched_modifyOne _ _ _ how)
  · exact touched_modifyOne c id count how

theorem touched_raiseWeekCap (c : Currencies) (id : Nat) : Touched c (c.raiseWeekCap rules id) := by
  rw [raiseWeekCap]
  split
  next => exact Touched.refl c
  next cur hcur =>
    dsimp only
    split
    · exact touched_store hcur (.inl rfl)
    · exact touched_store hcur (.inr rfl)

theorem touched_setPersonalRating (c : Currencies) (value : Nat) : Touched c (c.setPersonalRating rules value) := by
  rw [setPersonalRating]
  split
  · exact Touched.refl c
  · have hrating : Touched c { c with maxPersonalRatedRating := value } := ⟨rfl, fun _ => .inl rfl⟩
    apply hrating.trans
    exact ((touched_raiseWeekCap _ _).trans (touched_raiseWeekCap _ _)).trans (touched_raiseWeekCap _ _)

theorem touch_of_ne_new {state : UpdateState} (h : state ≠ .new) : state.touch = .changed := by
  cases state with
  | new => exact absurd rfl h
  | unchanged => rfl
  | changed => rfl
  | deleted => rfl

theorem touched_setCurrencyFlags {id : Nat} (h : ∀ cur : PlayerCurrency, c.currencies[id]? = some cur → cur.state ≠ .new)
    (flags : Nat) : Touched c (c.setCurrencyFlags id flags) := by
  rw [setCurrencyFlags]
  split
  next => exact Touched.refl c
  next cur hcur =>
    apply @touched_store ⟨fun _ => none, fun _ => 0, fun _ => 0⟩ c id cur
    · rw [findOrNew, hcur]
    · exact .inr (touch_of_ne_new (h cur hcur)).symm

theorem lookup_resetCurrencyWeekCounts (c : Currencies) (id : Nat) :
    c.resetCurrencyWeekCounts.currencies[id]? = c.currencies[id]?.map (PlayerCurrency.resetWeekCount id) :=
  ExtTreeMap.getElem?_map

theorem touched_resetCurrencyWeekCounts
    (h : ∀ (id : Nat) (cur : PlayerCurrency), c.currencies[id]? = some cur → cur.state ≠ .new) :
    Touched c c.resetCurrencyWeekCounts := by
  refine ⟨rfl, fun id => ?_⟩
  rw [lookup_resetCurrencyWeekCounts]
  cases hcur : c.currencies[id]? with
  | none => exact .inl rfl
  | some cur => exact .inr (.inr ⟨cur, _, rfl, rfl, (touch_of_ne_new (h id cur hcur)).symm⟩)

theorem InStep.lost_setCurrencyFlags {id : Nat} {cur : PlayerCurrency} (h : c.InStep)
    (hcur : c.currencies[id]? = some cur) (hnew : cur.state = .new) (flags : Nat) :
    (c.setCurrencyFlags id flags).Lost := by
  have hid := h id
  rw [hcur] at hid
  have hrow : c.rows id = none := by
    have hstep := hid.2
    rwa [hnew] at hstep
  rw [setCurrencyFlags, hcur]
  refine ⟨id, { cur with flags, state := .changed }, ?_, by simp, by simp, hrow⟩
  rw [lookup_setCurrency, if_pos rfl]

theorem InStep.lost_resetCurrencyWeekCounts {id : Nat} {cur : PlayerCurrency} (h : c.InStep)
    (hcur : c.currencies[id]? = some cur) (hnew : cur.state = .new) : c.resetCurrencyWeekCounts.Lost := by
  have hid := h id
  rw [hcur] at hid
  have hrow : c.rows id = none := by
    have hstep := hid.2
    rwa [hnew] at hstep
  refine ⟨id, cur.resetWeekCount id, ?_, by simp [PlayerCurrency.resetWeekCount],
    by simp [PlayerCurrency.resetWeekCount], hrow⟩
  rw [lookup_resetCurrencyWeekCounts, hcur]
  rfl

theorem Lost.setCurrencyFlags (h : c.Lost) (id flags : Nat) : (c.setCurrencyFlags id flags).Lost := by
  obtain ⟨j, cur, hcur, hnew, hdeleted, hrow⟩ := h
  rw [Currencies.setCurrencyFlags]
  split
  next => exact ⟨j, cur, hcur, hnew, hdeleted, hrow⟩
  next other hother =>
    by_cases hj : id = j
    · refine ⟨j, { other with flags, state := .changed }, ?_, by simp, by simp, hrow⟩
      rw [lookup_setCurrency, if_pos hj]
    · refine ⟨j, cur, ?_, hnew, hdeleted, hrow⟩
      rw [lookup_setCurrency, if_neg hj, hcur]

theorem Lost.resetCurrencyWeekCounts (h : c.Lost) : c.resetCurrencyWeekCounts.Lost := by
  obtain ⟨j, cur, hcur, -, -, hrow⟩ := h
  refine ⟨j, cur.resetWeekCount j, ?_, by simp [PlayerCurrency.resetWeekCount],
    by simp [PlayerCurrency.resetWeekCount], hrow⟩
  rw [lookup_resetCurrencyWeekCounts, hcur]
  rfl

theorem nodup_keys_toList {β : Type} (m : ExtTreeMap Nat β) : (m.toList.map Prod.fst).Nodup := by
  rw [ExtTreeMap.map_fst_toList_eq_keys]
  exact ExtTreeMap.nodup_keys

theorem rows_save (c : Currencies) (id : Nat) : c.save.rows id =
    match c.currencies[id]? with
    | none => c.rows id
    | some cur => saveStatement (id, cur) (c.rows id) := by
  cases hcur : c.currencies[id]? with
  | none =>
    apply saveRows_of_not_mem
    rw [ExtTreeMap.map_fst_toList_eq_keys]
    simpa [← getElem?_eq_none_iff] using hcur
  | some cur =>
    have hmem : (id, cur) ∈ c.currencies.toList := ExtTreeMap.mem_toList_iff_getElem?_eq_some.mpr hcur
    exact saveRows_of_mem (nodup_keys_toList c.currencies) hmem c.rows

theorem lookup_save (c : Currencies) (id : Nat) : c.save.currencies[id]? = c.currencies[id]?.bind fun cur =>
      if cur.state = .deleted then none else some { cur with state := .unchanged } :=
  ExtTreeMap.getElem?_filterMap'

theorem InStep.synced_save (h : c.InStep) : c.save.Synced := by
  intro id
  rw [rows_save, lookup_save]
  have hid := h id
  cases hcur : c.currencies[id]? with
  | none =>
    rw [hcur] at hid
    exact hid
  | some cur =>
    rw [hcur] at hid
    obtain ⟨hdeleted, hstep⟩ := hid
    have hrow := saveRow_of_inStep hstep
    rw [if_neg hdeleted] at hrow
    rw [Option.bind_some, if_neg hdeleted, Option.map_some, ← hrow]
    cases hstate : cur.state with
    | unchanged => simp [saveStatement, saveRow, hstate]
    | changed => simp [saveStatement, saveRow, hstate]
    | new => simp [saveStatement, saveRow, hstate]
    | deleted => exact absurd hstate hdeleted

theorem InStep.save (h : c.InStep) : c.save.InStep := by
  intro id
  have hsynced := h.synced_save id
  rw [hsynced, lookup_save]
  cases hcur : c.currencies[id]? with
  | none => rfl
  | some cur =>
    have hid := h id
    rw [hcur] at hid
    rw [Option.bind_some, if_neg hid.1]
    exact ⟨by simp, rfl⟩

theorem Lost.save (h : c.Lost) : c.save.Lost := by
  obtain ⟨id, cur, hcur, hnew, hdeleted, hrow⟩ := h
  refine ⟨id, { cur with state := .unchanged }, ?_, by simp, by simp, ?_⟩
  · rw [lookup_save, hcur, Option.bind_some, if_neg hdeleted]
  · rw [rows_save, hcur]
    dsimp only
    rw [saveStatement, hrow]
    cases hstate : cur.state with
    | unchanged => rfl
    | changed => rfl
    | new => exact absurd hstate hnew
    | deleted => rfl

theorem Lost.not_synced (h : c.Lost) : ¬ c.Synced := by
  obtain ⟨id, cur, hcur, -, -, hrow⟩ := h
  intro hsynced
  have hid := hsynced id
  rw [hcur, hrow] at hid
  exact absurd hid (by simp)

end Currencies

end Mangos
