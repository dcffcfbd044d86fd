import Mangos.Threat.Order

/-!
# The search for a victim, turn by turn

A turn of the loop that meets a reference without a target goes on without advancing.
-/

namespace Mangos

open ThreatFloat

namespace ThreatManager

variable {T : Type*} [ThreatFloat T]

/-- Where the loop of `ThreatContainer::selectNextVictim` is: the references from `iter` on, and its
variables. -/
structure VictimSearch where
  rest : List Nat
  pCurrentVictim : Option Nat
  checkedCurrentVictim : Bool := false
  onlySecondChoiceTargetsFound : Bool := false

section

variable (m : ThreatManager T) (w : ThreatWorld T)

def targetOf (id : Nat) : UnitGuid := w.vehicleOrSelf (m.refs id).unitGuid

/-- `ThreatContainer::selectNextVictim` from a turn on. There is no result when an assertion fails or the
loop goes on for more than so many turns. -/
def searchVictim : Nat → VictimSearch → Option (Option Nat)
  | 0, _ => none
  | fuel + 1, s =>
    match s.rest with
    | [] => some none
    | id :: rest =>
      if !(m.refs id).valid then searchVictim fuel s
      else if !s.onlySecondChoiceTargetsFound &&
          w.isSecondChoiceTarget (m.targetOf w id) (s.pCurrentVictim = some id) then
        let passed := { s with
          pCurrentVictim := if s.pCurrentVictim = some id then none else s.pCurrentVictim }
        if rest = [] then
          searchVictim fuel { passed with rest := m.online, onlySecondChoiceTargetsFound := true }
        else searchVictim fuel { passed with rest := rest }
      else if w.isOutOfThreatArea (m.targetOf w id) then
        searchVictim fuel { s with rest := rest }
      else match s.pCurrentVictim with
        | none => some (some id)
        | some victim =>
          if victim = id then some (some id)
          else if !s.checkedCurrentVictim && !(m.refs victim).valid then none
          else if !s.checkedCurrentVictim &&
              w.isSecondChoiceTarget (m.refs victim).unitGuid true then some (some id)
          else if (m.refs id).threat ≤ c110 * (m.refs victim).threat then some (some victim)
          else if c130 * (m.refs victim).threat < (m.refs id).threat ||
              (c110 * (m.refs victim).threat < (m.refs id).threat &&
                w.canReachWithMeleeAttack (m.targetOf w id)) then some (some id)
          else searchVictim fuel { s with rest := rest, checkedCurrentVictim := true }

/-- The search ends with `found`, however many turns it is allowed above some bound. -/
def Finds (s : VictimSearch) (found : Option Nat) : Prop :=
  ∃ turns, ∀ fuel, turns < fuel → m.searchVictim w fuel s = some found

/-- The call of `selectNextVictim` with a victim. -/
def startSearch (pCurrentVictim : Option Nat) : VictimSearch := ⟨m.online, pCurrentVictim, false, false⟩

def InArea (id : Nat) : Prop := (m.refs id).valid = true ∧ w.isOutOfThreatArea (m.targetOf w id) = false

def Eligible (id : Nat) : Prop :=
  m.InArea w id ∧ w.isSecondChoiceTarget (m.targetOf w id) false = false

/-- The search ends. It finds a victim where there is an eligible one, and where there are only second
choices left if one of these is in the threat area. -/
def VictimFound (pCurrentVictim : Option Nat) : Prop :=
  ∃ found, m.Finds w (m.startSearch pCurrentVictim) found ∧ ((∃ id ∈ m.online, m.Eligible w id) → found ≠ none) ∧
    ((¬ ∃ id ∈ m.online, m.Eligible w id) → (∃ id ∈ m.online, m.InArea w id) → found ≠ none)

/-- What a turn does: it ends the search, it makes no headway at all, or it passes the reference by. -/
inductive Visit
  | stops | stuck | passes
  deriving DecidableEq

/-- A reference whose threat is too great for the victim to be kept and not great enough to replace it, or
that is compared with a victim without a target. -/
def compareVictim (victim id : Nat) : Visit :=
  if !(m.refs victim).valid then .stuck
  else if w.isSecondChoiceTarget (m.refs victim).unitGuid true then .stops
  else if (m.refs id).threat ≤ c110 * (m.refs victim).threat then .stops
  else if c130 * (m.refs victim).threat < (m.refs id).threat ||
      (c110 * (m.refs victim).threat < (m.refs id).threat &&
        w.canReachWithMeleeAttack (m.targetOf w id)) then .stops
  else .passes

def visit (onlySecondChoice : Bool) (victim : Option Nat) (id : Nat) : Visit :=
  if !(m.refs id).valid then .stuck
  else if !onlySecondChoice && w.isSecondChoiceTarget (m.targetOf w id) (victim = some id) then .passes
  else if w.isOutOfThreatArea (m.targetOf w id) then .passes
  else match victim with
    | none => .stops
    | some v => if v = id then .stops else m.compareVictim w v id

def victimBehind (victim : Option Nat) (before : List Nat) : Option Nat :=
  victim.filter fun v => !before.contains v

/-- The search stops, or gets stuck, at the reference behind those in `before`. -/
def VisitedAs (victim : Option Nat) (as : Visit) (before : List Nat) (id : Nat) : Prop :=
  (∃ behind, m.online = before ++ id :: behind) ∧ m.visit w false (victimBehind victim before) id = as

/-- A stop stands before every reference at which the search gets stuck. Without a stop, nobody is in the threat area,
or the last of the list is a second choice and the search for second choices has a stop. -/
def StopsInTime (victim : Option Nat) : Prop :=
  (∀ before id, m.VisitedAs w victim .stuck before id →
      ∃ first x, first.length < before.length ∧ m.VisitedAs w victim .stops first x) ∧
    ((¬ ∃ before id, m.VisitedAs w victim .stops before id) → (∀ id ∈ m.online, ¬ m.InArea w id) ∨
        ((∃ before id, m.online = before ++ [id] ∧ w.isSecondChoiceTarget (m.targetOf w id)
            (victimBehind victim before = some id) = true) ∧
          ∃ id ∈ m.online, m.visit w true (victimBehind victim m.online) id = .stops))

end

variable {m : ThreatManager T} {w : ThreatWorld T} {id : Nat} {rest : List Nat} {victim : Option Nat}
  {checked only : Bool}

def Checked (w : ThreatWorld T) (m : ThreatManager T) (victim : Option Nat) (checked : Bool) : Prop :=
  checked = true → ∀ v, victim = some v →
    (m.refs v).valid = true ∧ w.isSecondChoiceTarget (m.refs v).unitGuid true = false

def passedBy (m : ThreatManager T) (w : ThreatWorld T) (s : VictimSearch) (id : Nat) (rest : List Nat)
    (checked : Bool) : VictimSearch :=
  if !s.onlySecondChoiceTargetsFound &&
      w.isSecondChoiceTarget (m.targetOf w id) (s.pCurrentVictim = some id) then
    let victim := if s.pCurrentVictim = some id then none else s.pCurrentVictim
    if rest = [] then ⟨m.online, victim, checked, true⟩ else ⟨rest, victim, checked, false⟩
  else ⟨rest, s.pCurrentVictim, checked, s.onlySecondChoiceTargetsFound⟩

private theorem compare_turn {v : Nat} (hchecked : m.Checked w (some v) checked) :
    let turn : Nat → Option (Option Nat) := fun fuel =>
      if !checked && !(m.refs v).valid then none
      else if !checked && w.isSecondChoiceTarget (m.refs v).unitGuid true then some (some id)
      else if (m.refs id).threat ≤ c110 * (m.refs v).threat then some (some v)
      else if c130 * (m.refs v).threat < (m.refs id).threat ||
          (c110 * (m.refs v).threat < (m.refs id).threat &&
            w.canReachWithMeleeAttack (m.targetOf w id)) then some (some id)
      else m.searchVictim w fuel ⟨rest, some v, true, only⟩
    (m.compareVictim w v id = .stops ∧ ∃ r, ∀ fuel, turn fuel = some (some r)) ∨
      (m.compareVictim w v id = .stuck ∧ ∀ fuel, turn fuel = none) ∨
      (m.compareVictim w v id = .passes ∧ m.Checked w (some v) true ∧
        ∀ fuel, turn fuel = m.searchVictim w fuel ⟨rest, some v, true, only⟩) := by
  intro turn
  cases hvalid : (m.refs v).valid with
  | false =>
    cases checked with
    | true => exact absurd (hchecked rfl v rfl).1 (by simp [hvalid])
    | false => exact .inr (.inl ⟨by simp [compareVictim, hvalid], by simp [turn, hvalid]⟩)
  | true =>
    cases hsecond : w.isSecondChoiceTarget (m.refs v).unitGuid true with
    | true =>
      cases checked with
      | true => exact absurd (hchecked rfl v rfl).2 (by simp [hsecond])
      | false =>
        exact .inl ⟨by simp [compareVictim, hvalid, hsecond], id, by simp [turn, hvalid, hsecond]⟩
    | false =>
      have hok : m.Checked w (some v) true := by
        intro _ v' hv'
        rw [← Option.some.inj hv']
        exact ⟨hvalid, hsecond⟩
      simp only [turn, compareVictim, hvalid, hsecond, Bool.not_true, Bool.and_false, Bool.false_eq_true, if_false]
      split
      next => exact .inl ⟨rfl, v, fun _ => rfl⟩
      next =>
        split
        next => exact .inl ⟨rfl, id, fun _ => rfl⟩
        next => exact .inr (.inr ⟨rfl, hok, fun _ => rfl⟩)

theorem searchVictim_turn (hchecked : m.Checked w victim checked) : (m.visit w only victim id = .stops ∧
        ∃ r, ∀ fuel, m.searchVictim w (fuel + 1) ⟨id :: rest, victim, checked, only⟩ = some (some r)) ∨
      (m.visit w only victim id = .stuck ∧ ∀ fuel, m.searchVictim w fuel ⟨id :: rest, victim, checked, only⟩ = none) ∨
      (m.visit w only victim id = .passes ∧ ∃ checked', m.Checked w victim checked' ∧
        ∀ fuel, m.searchVictim w (fuel + 1) ⟨id :: rest, victim, checked, only⟩ = m.searchVictim w fuel
            (m.passedBy w ⟨id :: rest, victim, checked, only⟩ id rest checked')) := by
  cases hvalid : (m.refs id).valid with
  | false =>
    -- the loop turns on the spot
    refine .inr (.inl ⟨by simp [visit, hvalid], fun fuel => ?_⟩)
    induction fuel with
    | zero => rfl
    | succ fuel ih => simpa [searchVictim, hvalid] using ih
  | true =>
    cases hsecond : !only && w.isSecondChoiceTarget (m.targetOf w id) (victim = some id) with
    | true =>
      refine .inr (.inr ⟨by simp [visit, hvalid, hsecond], checked, hchecked, fun fuel => ?_⟩)
      have honly : only = false := by
        cases only with
        | false => rfl
        | true => cases hsecond
      subst honly
      rw [Bool.not_false, Bool.true_and] at hsecond
      by_cases hrest : rest = []
      all_goals simp [searchVictim, passedBy, hvalid, hsecond, hrest]
    | false =>
      have hpassed : ∀ checked', m.passedBy w ⟨id :: rest, victim, checked, only⟩ id rest checked' =
          ⟨rest, victim, checked', only⟩ := by
        intro checked'
        simp [passedBy, hsecond]
      cases hout : w.isOutOfThreatArea (m.targetOf w id) with
      | true =>
        refine .inr (.inr ⟨by simp [visit, hvalid, hsecond, hout], checked, hchecked, fun fuel => ?_⟩)
        rw [hpassed]
        simp [searchVictim, hvalid, hsecond, hout]
      | false =>
        -- nothing before the comparison ends the turn
        cases victim with
        | none =>
          refine .inl ⟨?_, id, fun fuel => ?_⟩
          · simp only [visit, hvalid, hsecond, hout, Bool.not_true, Bool.false_eq_true, if_false]
          · simp only [searchVictim, hvalid, hsecond, hout, Bool.not_true, Bool.false_eq_true, if_false]
        | some v =>
          have hvisit : m.visit w only (some v) id = if v = id then .stops else m.compareVictim w v id := by
            simp only [visit, hvalid, hsecond, hout, Bool.not_true, Bool.false_eq_true, if_false]
          have hstep : ∀ fuel, m.searchVictim w (fuel + 1) ⟨id :: rest, some v, checked, only⟩ =
              if v = id then some (some id)
              else if !checked && !(m.refs v).valid then none
              else if !checked && w.isSecondChoiceTarget (m.refs v).unitGuid true then
                some (some id)
              else if (m.refs id).threat ≤ c110 * (m.refs v).threat then some (some v)
              else if c130 * (m.refs v).threat < (m.refs id).threat ||
                  (c110 * (m.refs v).threat < (m.refs id).threat &&
                    w.canReachWithMeleeAttack (m.targetOf w id)) then some (some id)
              else m.searchVictim w fuel ⟨rest, some v, true, only⟩ := by
            intro fuel
            simp only [searchVictim, hvalid, hsecond, hout, Bool.not_true, Bool.false_eq_true, if_false]
          by_cases hv : v = id
          · rw [if_pos hv] at hvisit
            exact .inl ⟨hvisit, id, fun fuel => (hstep fuel).trans (if_pos hv)⟩
          · rw [if_neg hv] at hvisit
            simp only [if_neg hv] at hstep
            have hturn := @compare_turn _ _ m w id rest checked only v hchecked
            rw [hvisit]
            rcases hturn with ⟨hstops, r, hr⟩ | ⟨hstuck, hnone⟩ | ⟨hpasses, hok, hnext⟩
            · exact .inl ⟨hstops, r, fun fuel => (hstep fuel).trans (hr fuel)⟩
            · refine .inr (.inl ⟨hstuck, fun fuel => ?_⟩)
              cases fuel with
              | zero => rfl
              | succ fuel => exact (hstep fuel).trans (hnone fuel)
            · refine .inr (.inr ⟨hpasses, true, hok, fun fuel => ?_⟩)
              rw [hpassed]
              exact (hstep fuel).trans (hnext fuel)

section

variable {s t : VictimSearch} {found : Option Nat}

def Succeeds (m : ThreatManager T) (w : ThreatWorld T) (s : VictimSearch) : Prop :=
  ∃ found, m.Finds w s found ∧ ((∃ id ∈ m.online, m.InArea w id) → found ≠ none)

theorem finds_iff_of_end {r : Option Nat} (h : ∀ fuel, m.searchVictim w (fuel + 1) s = some r) :
    m.Finds w s found ↔ found = r := by
  constructor
  · rintro ⟨turns, hfound⟩
    exact Option.some.inj ((hfound (turns + 1) (Nat.lt_succ_self _)).symm.trans (h turns))
  · rintro rfl
    refine ⟨0, fun fuel hfuel => ?_⟩
    obtain ⟨fuel, rfl⟩ := Nat.exists_eq_succ_of_ne_zero hfuel.ne'
    exact h fuel

theorem finds_iff_of_step (h : ∀ fuel, m.searchVictim w (fuel + 1) s = m.searchVictim w fuel t) :
    m.Finds w s found ↔ m.Finds w t found := by
  constructor
  · rintro ⟨turns, hfound⟩
    refine ⟨turns, fun fuel hfuel => ?_⟩
    rw [← h]
    exact hfound (fuel + 1) (hfuel.trans (Nat.lt_succ_self _))
  · rintro ⟨turns, hfound⟩
    refine ⟨turns + 1, fun fuel hfuel => ?_⟩
    obtain ⟨fuel, rfl⟩ := Nat.exists_eq_succ_of_ne_zero (Nat.ne_zero_of_lt hfuel)
    rw [h]
    exact hfound fuel (Nat.lt_of_succ_lt_succ hfuel)

theorem Finds.unique {r r' : Option Nat} (h : m.Finds w s r) (h' : m.Finds w s r') : r = r' := by
  obtain ⟨n, hn⟩ := h
  obtain ⟨k, hk⟩ := h'
  exact Option.some.inj ((hn (n + k + 1) (by omega)).symm.trans (hk (n + k + 1) (by omega)))

theorem succeeds_nil : m.Succeeds w ⟨[], victim, checked, only⟩ ↔ ¬ ∃ id ∈ m.online, m.InArea w id := by
  have hend : ∀ fuel, m.searchVictim w (fuel + 1) ⟨[], victim, checked, only⟩ = some none :=
    fun _ => rfl
  simp only [Succeeds, finds_iff_of_end hend, exists_eq_left, ne_eq, not_true_eq_false, imp_false]

theorem succeeds_of_stops (hchecked : m.Checked w victim checked)
    (h : m.visit w only victim id = .stops) : m.Succeeds w ⟨id :: rest, victim, checked, only⟩ := by
  rcases @searchVictim_turn _ _ m w id rest victim checked only hchecked with
    ⟨-, r, hr⟩ | ⟨hstuck, -⟩ | ⟨hpasses, -⟩
  · exact ⟨some r, (finds_iff_of_end hr).mpr rfl, fun _ => Option.some_ne_none r⟩
  · rw [h] at hstuck
    cases hstuck
  · rw [h] at hpasses
    cases hpasses

theorem not_succeeds_of_stuck (hchecked : m.Checked w victim checked)
    (h : m.visit w only victim id = .stuck) : ¬ m.Succeeds w ⟨id :: rest, victim, checked, only⟩ := by
  rcases @searchVictim_turn _ _ m w id rest victim checked only hchecked with
    ⟨hstops, -⟩ | ⟨-, hnone⟩ | ⟨hpasses, -⟩
  · rw [h] at hstops
    cases hstops
  · rintro ⟨found, ⟨turns, hfound⟩, -⟩
    have hlast := hfound (turns + 1) (Nat.lt_succ_self _)
    rw [hnone] at hlast
    cases hlast
  · rw [h] at hpasses
    cases hpasses

theorem succeeds_iff_of_passes (hchecked : m.Checked w victim checked)
    (h : m.visit w only victim id = .passes) : ∃ checked', m.Checked w victim checked' ∧
      (m.Succeeds w ⟨id :: rest, victim, checked, only⟩ ↔
        m.Succeeds w (m.passedBy w ⟨id :: rest, victim, checked, only⟩ id rest checked')) := by
  rcases @searchVictim_turn _ _ m w id rest victim checked only hchecked with
    ⟨hstops, -⟩ | ⟨hstuck, -⟩ | ⟨-, checked', hchecked', hstep⟩
  · rw [h] at hstops
    cases hstops
  · rw [h] at hstuck
    cases hstuck
  · refine ⟨checked', hchecked', ?_⟩
    simp only [Succeeds, finds_iff_of_step hstep]

theorem valid_of_passes (h : m.visit w only victim id = .passes) : (m.refs id).valid = true := by
  by_contra hvalid
  rw [Bool.not_eq_true] at hvalid
  simp [visit, hvalid] at h

theorem stuck_cases (hvalid : (m.refs id).valid = true) (h : m.visit w only victim id = .stuck) :
    w.isOutOfThreatArea (m.targetOf w id) = false ∧ ∃ v, victim = some v ∧ (m.refs v).valid = false := by
  simp only [visit, hvalid, Bool.not_true, Bool.false_eq_true, if_false] at h
  split at h
  next => cases h
  next =>
    split at h
    next => cases h
    next hout =>
      refine ⟨Bool.not_eq_true _ ▸ hout, ?_⟩
      cases victim with
      | none => cases h
      | some v =>
        dsimp only at h
        split at h
        next => cases h
        next =>
          refine ⟨v, rfl, ?_⟩
          by_contra hv
          rw [Bool.not_eq_false] at hv
          simp only [compareVictim, hv, Bool.not_true, Bool.false_eq_true, if_false] at h
          split at h
          · cases h
          · split at h
            · cases h
            · split at h <;> cases h

theorem visit_ne_stops {v : Nat} (hv : (m.refs v).valid = false) (hid : (m.refs id).valid = true) :
    m.visit w true (some v) id ≠ .stops := by
  have hne : v ≠ id := by
    rintro rfl
    rw [hv] at hid
    cases hid
  simp only [visit, hid, hne, compareVictim, hv, Bool.not_true, Bool.false_and, Bool.false_eq_true,
    Bool.not_false, if_false, if_true]
  split <;> simp

theorem succeeds_second_iff (hchecked : m.Checked w victim checked)
    (hvalid : ∀ x ∈ rest, (m.refs x).valid = true) (hsub : rest ⊆ m.online) :
    m.Succeeds w ⟨rest, victim, checked, true⟩ ↔
      (¬ ∃ id ∈ m.online, m.InArea w id) ∨ ∃ id ∈ rest, m.visit w true victim id = .stops := by
  induction rest generalizing checked with
  | nil => simp [succeeds_nil]
  | cons id rest ih =>
    obtain ⟨hid, hrest⟩ := List.forall_mem_cons.mp hvalid
    obtain ⟨hmem, hsub'⟩ := List.cons_subset.mp hsub
    cases hvisit : m.visit w true victim id with
    | stops =>
      exact iff_of_true (succeeds_of_stops hchecked hvisit)
        (.inr ⟨id, List.mem_cons_self, hvisit⟩)
    | passes =>
      obtain ⟨checked', hchecked', hiff⟩ := @succeeds_iff_of_passes _ _ m w id rest victim
        checked true hchecked hvisit
      rw [hiff]
      have hnext : m.passedBy w ⟨id :: rest, victim, checked, true⟩ id rest checked' =
          ⟨rest, victim, checked', true⟩ := by simp [passedBy]
      rw [hnext, ih hchecked' hrest hsub']
      simp [hvisit]
    | stuck =>
      -- the victim has no target, so that nobody else is compared with it either
      obtain ⟨hout, v, rfl, hv⟩ := stuck_cases hid hvisit
      refine iff_of_false (not_succeeds_of_stuck hchecked hvisit) ?_
      rintro (hnone | ⟨x, hx, hstops⟩)
      · exact hnone ⟨id, hmem, hid, hout⟩
      · exact visit_ne_stops hv (hvalid x hx) hstops

omit [ThreatFloat T] in
theorem Checked.filter {p : Nat → Bool} (h : m.Checked w victim checked) : m.Checked w (victim.filter p) checked :=
  fun hc v hv => h hc v (Option.filter_eq_some_iff.mp hv).1

omit [ThreatFloat T] in
theorem victimBehind_nil (victim : Option Nat) : victimBehind victim [] = victim := by
  cases victim with
  | none => rfl
  | some v => rfl

theorem victimBehind_concat (victim : Option Nat) (before : List Nat) (id : Nat) :
    victimBehind victim (before ++ [id]) = (victimBehind victim before).filter (· ≠ id) := by
  rw [victimBehind, victimBehind, Option.filter_filter]
  congr 1
  funext v
  simp

private theorem forget_eq (victim : Option Nat) (id : Nat) :
    (if victim = some id then none else victim) = victim.filter (· ≠ id) := by
  cases victim with
  | none => rfl
  | some v =>
    by_cases hv : v = id
    all_goals simp [hv, Option.filter]

private theorem ne_victim_of_passes (h : m.visit w false victim id = .passes)
    (hsecond : w.isSecondChoiceTarget (m.targetOf w id) (victim = some id) = false) : victim ≠ some id := by
  intro hv
  have hvalid := valid_of_passes h
  rw [decide_eq_true hv] at hsecond
  have hout := (isSecondChoiceTarget_true.mp hsecond).2
  simp [visit, hvalid, hv, hsecond, hout] at h

theorem passedBy_eq (h : m.visit w false victim id = .passes) :
    m.passedBy w ⟨id :: rest, victim, checked, false⟩ id rest only =
      if rest = [] ∧ w.isSecondChoiceTarget (m.targetOf w id) (victim = some id) = true then
        ⟨m.online, victim.filter (· ≠ id), only, true⟩ else ⟨rest, victim.filter (· ≠ id), only, false⟩ := by
  simp only [passedBy, Bool.not_false, Bool.true_and, forget_eq]
  cases hsecond : w.isSecondChoiceTarget (m.targetOf w id) (victim = some id) with
  | true => simp only [if_true, and_true]
  | false =>
    have hother : victim.filter (· ≠ id) = victim := by
      rw [← forget_eq, if_neg (ne_victim_of_passes h hsecond)]
    simp only [hother, Bool.false_eq_true, if_false, and_false]

private theorem stopsInTime_iff_of_passes (hall : ∀ l x, (∃ l', m.online = l ++ x :: l') →
      m.visit w false (victimBehind victim l) x = .passes) :
    m.StopsInTime w victim ↔ (∀ id ∈ m.online, ¬ m.InArea w id) ∨
      ((∃ before id, m.online = before ++ [id] ∧ w.isSecondChoiceTarget (m.targetOf w id)
          (victimBehind victim before = some id) = true) ∧
        ∃ id ∈ m.online, m.visit w true (victimBehind victim m.online) id = .stops) := by
  have hnot : ∀ as before id, m.VisitedAs w victim as before id → as = .passes :=
    fun as before id h => h.2.symm.trans (hall before id h.1)
  constructor
  · refine fun h => h.2 ?_
    rintro ⟨before, id, hstops⟩
    cases hnot _ _ _ hstops
  · refine fun h => ⟨fun before id hstuck => ?_, fun _ => h⟩
    cases hnot _ _ _ hstuck

private theorem succeeds_first_iff (victim : Option Nat) {before : List Nat} (honline : m.online = before ++ rest)
    (hbefore : ∀ l x, l.length < before.length → (∃ l', m.online = l ++ x :: l') →
      m.visit w false (victimBehind victim l) x = .passes) (hend : rest = [] → ∀ l x, m.online = l ++ [x] →
      w.isSecondChoiceTarget (m.targetOf w x) (victimBehind victim l = some x) = false)
    (hchecked : m.Checked w (victimBehind victim before) checked) :
    m.Succeeds w ⟨rest, victimBehind victim before, checked, false⟩ ↔ m.StopsInTime w victim := by
  induction rest generalizing before checked with
  | nil =>
    rw [List.append_nil] at honline
    have hall : ∀ l x, (∃ l', m.online = l ++ x :: l') →
        m.visit w false (victimBehind victim l) x = .passes := by
      rintro l x ⟨l', hl⟩
      exact hbefore l x (by rw [← honline, hl]; simp) ⟨l', hl⟩
    rw [succeeds_nil, stopsInTime_iff_of_passes hall]
    constructor
    · exact fun hnone => .inl fun id hid harea => hnone ⟨id, hid, harea⟩
    · rintro (hnone | ⟨⟨l, x, hl, hsecond⟩, -⟩)
      · exact fun ⟨id, hid, harea⟩ => hnone id hid harea
      · rw [hend rfl l x hl] at hsecond
        cases hsecond
  | cons id rest ih =>
    -- a reference is before this one, is this one, or comes later
    have hplace : ∀ l x l', m.online = l ++ x :: l' → l.length < before.length ∨
        (l = before ∧ x = id ∧ l' = rest) ∨ before.length < l.length := by
      intro l x l' hl
      rcases lt_trichotomy l.length before.length with hlt | heq | hgt
      · exact .inl hlt
      · obtain ⟨h₁, h₂⟩ := List.append_inj (hl.symm.trans honline) heq
        obtain ⟨h₂, h₃⟩ := List.cons.inj h₂
        exact .inr (.inl ⟨h₁, h₂, h₃⟩)
      · exact .inr (.inr hgt)
    have hhere : ∃ behind, m.online = before ++ id :: behind := ⟨rest, honline⟩
    cases hvisit : m.visit w false (victimBehind victim before) id with
    | stops =>
      refine iff_of_true (succeeds_of_stops hchecked hvisit) ⟨?_, fun hnone => ?_⟩
      · rintro l x ⟨⟨l', hl⟩, hstuck⟩
        rcases hplace l x l' hl with hlt | ⟨rfl, rfl, rfl⟩ | hgt
        · rw [hbefore l x hlt ⟨l', hl⟩] at hstuck
          cases hstuck
        · rw [hvisit] at hstuck
          cases hstuck
        · exact ⟨before, id, hgt, hhere, hvisit⟩
      · exact absurd ⟨before, id, hhere, hvisit⟩ hnone
    | stuck =>
      refine iff_of_false (not_succeeds_of_stuck hchecked hvisit) fun hstops => ?_
      obtain ⟨l, x, hlt, hl, hvisit'⟩ := hstops.1 before id ⟨hhere, hvisit⟩
      rw [hbefore l x hlt hl] at hvisit'
      cases hvisit'
    | passes =>
      obtain ⟨checked', hchecked', hiff⟩ := @succeeds_iff_of_passes _ _ m w id rest _ checked false
        hchecked hvisit
      have hbehind : (victimBehind victim before).filter (· ≠ id) =
          victimBehind victim (before ++ [id]) := (victimBehind_concat victim before id).symm
      have honline' : m.online = before ++ [id] ++ rest := by simpa using honline
      have hbefore' : ∀ l x, l.length < (before ++ [id]).length → (∃ l', m.online = l ++ x :: l') →
          m.visit w false (victimBehind victim l) x = .passes := by
        rintro l x hlt ⟨l', hl⟩
        rw [List.length_append, List.length_singleton] at hlt
        rcases hplace l x l' hl with hlt' | ⟨rfl, rfl, rfl⟩ | hgt
        · exact hbefore l x hlt' ⟨l', hl⟩
        · exact hvisit
        · omega
      have hchecked'' : m.Checked w (victimBehind victim (before ++ [id])) checked' := by
        rw [← hbehind]
        exact hchecked'.filter
      rw [hiff, passedBy_eq hvisit, hbehind]
      split
      next hlast =>
        obtain ⟨rfl, hsecond⟩ := hlast
        rw [List.append_nil] at honline'
        have hall : ∀ l x, (∃ l', m.online = l ++ x :: l') →
            m.visit w false (victimBehind victim l) x = .passes := by
          rintro l x ⟨l', hl⟩
          exact hbefore' l x (by rw [← honline', hl]; simp) ⟨l', hl⟩
        have hvalid : ∀ x ∈ m.online, (m.refs x).valid = true := by
          intro x hx
          obtain ⟨l, l', hl⟩ := List.append_of_mem hx
          exact valid_of_passes (hall l x ⟨l', hl⟩)
        rw [stopsInTime_iff_of_passes hall, ← honline',
          succeeds_second_iff (honline' ▸ hchecked'') hvalid (List.Subset.refl _)]
        have hfirst : ∃ before id, m.online = before ++ [id] ∧
            w.isSecondChoiceTarget (m.targetOf w id) (victimBehind victim before = some id) = true :=
          ⟨before, id, honline', hsecond⟩
        simp only [hfirst, true_and, not_exists, not_and]
      next hnot =>
        refine ih honline' hbefore' (fun hrest l x hl => ?_) hchecked''
        subst hrest
        obtain ⟨rfl, hx⟩ := List.append_inj' (hl.symm.trans honline) rfl
        obtain rfl := (List.cons.inj hx).1
        simpa using hnot

private theorem finds_selectLoop {restart : Option Nat → Bool → Option Nat}
    (hrestart : only = false → ∀ victim checked, (∀ v, victim = some v → (m.refs v).valid = true) →
      m.Finds w ⟨m.online, victim, checked, true⟩ (restart victim checked))
    (l : List Nat) (hl : ∀ x ∈ l, (m.refs x).valid = true) (hvictim : ∀ v, victim = some v → (m.refs v).valid = true) :
    m.Finds w ⟨l, victim, checked, only⟩ (m.selectLoop w only restart l victim checked) := by
  induction l generalizing victim checked with
  | nil => exact (finds_iff_of_end fun _ => rfl).mpr rfl
  | cons id rest ih =>
    obtain ⟨hid, hrest⟩ := List.forall_mem_cons.mp hl
    have hforget : ∀ v, (if victim = some id then none else victim) = some v → (m.refs v).valid = true := by
      intro v hv
      rw [forget_eq] at hv
      exact hvictim v (Option.filter_eq_some_iff.mp hv).1
    simp only [selectLoop]
    by_cases hsecond : (!only && w.isSecondChoiceTarget (w.vehicleOrSelf (m.refs id).unitGuid)
        (victim = some id)) = true
    · rw [if_pos hsecond]
      have honly : only = false := by
        cases only with
        | false => rfl
        | true => cases hsecond
      by_cases hlast : rest = []
      · rw [if_pos hlast]
        refine (finds_iff_of_step fun fuel => ?_).mpr (hrestart honly _ checked hforget)
        simp only [searchVictim, targetOf, hid, hsecond, hlast, Bool.not_true, Bool.false_eq_true, if_false, if_true]
      · rw [if_neg hlast]
        refine (finds_iff_of_step fun fuel => ?_).mpr (ih hrest hforget)
        simp only [searchVictim, targetOf, hid, hsecond, hlast, Bool.not_true, Bool.false_eq_true, if_false, if_true]
    · rw [if_neg hsecond]
      by_cases hout : w.isOutOfThreatArea (w.vehicleOrSelf (m.refs id).unitGuid) = true
      · rw [if_pos hout]
        refine (finds_iff_of_step fun fuel => ?_).mpr (ih hrest hvictim)
        simp only [searchVictim, targetOf, hid, hsecond, hout, Bool.not_true, Bool.false_eq_true, if_false, if_true]
      · rw [if_neg hout]
        cases victim with
        | none =>
          refine (finds_iff_of_end fun fuel => ?_).mpr rfl
          simp only [searchVictim, targetOf, hid, hsecond, hout, Bool.not_true, Bool.false_eq_true, if_false]
        | some v =>
          have hv := hvictim v rfl
          have hstep : ∀ fuel, m.searchVictim w (fuel + 1) ⟨id :: rest, some v, checked, only⟩ =
              if v = id then some (some id)
              else if !checked && w.isSecondChoiceTarget (m.refs v).unitGuid true then
                some (some id)
              else if (m.refs id).threat ≤ c110 * (m.refs v).threat then some (some v)
              else if c130 * (m.refs v).threat < (m.refs id).threat ||
                  (c110 * (m.refs v).threat < (m.refs id).threat && w.canReachWithMeleeAttack
                    (w.vehicleOrSelf (m.refs id).unitGuid)) then some (some id)
              else m.searchVictim w fuel ⟨rest, some v, true, only⟩ := by
            intro fuel
            simp only [searchVictim, targetOf, hid, hv, hsecond, hout, Bool.not_true,
              Bool.and_false, Bool.false_eq_true, if_false]
            rfl
          dsimp only
          split
          next heq => exact (finds_iff_of_end fun fuel => (hstep fuel).trans (if_pos heq)).mpr rfl
          next hne =>
            simp only [if_neg hne] at hstep
            split
            next h => exact (finds_iff_of_end fun fuel => (hstep fuel).trans (if_pos h)).mpr rfl
            next h =>
              simp only [if_neg h] at hstep
              split
              next h => exact (finds_iff_of_end fun fuel => (hstep fuel).trans (if_pos h)).mpr rfl
              next h =>
                simp only [if_neg h] at hstep
                split
                next h => exact (finds_iff_of_end fun fuel => (hstep fuel).trans (if_pos h)).mpr rfl
                next h =>
                  simp only [if_neg h] at hstep
                  exact (finds_iff_of_step hstep).mpr (ih hrest hvictim)

theorem finds_selectNextVictim (hvalid : ∀ id ∈ m.online, (m.refs id).valid = true)
    (hvictim : ∀ v, victim = some v → (m.refs v).valid = true) :
    m.Finds w (m.startSearch victim) (m.selectNextVictim w victim) :=
  finds_selectLoop (fun _ _ _ h => finds_selectLoop (fun honly => by cases honly) _ hvalid h) _ hvalid
    hvictim


end

end ThreatManager

/-- The search for a victim ends, with one wherever there is one to be found, exactly when it stops in
time. -/
theorem victimFound_iff {T : Type*} [ThreatFloat T] (m : ThreatManager T) (w : ThreatWorld T)
    (pCurrentVictim : Option Nat) : m.VictimFound w pCurrentVictim ↔ m.StopsInTime w pCurrentVictim := by
  have hsucceeds : m.VictimFound w pCurrentVictim ↔ m.Succeeds w (m.startSearch pCurrentVictim) := by
    constructor
    · rintro ⟨found, hfinds, heligible, hsecond⟩
      refine ⟨found, hfinds, fun harea => ?_⟩
      by_cases h : ∃ id ∈ m.online, m.Eligible w id
      · exact heligible h
      · exact hsecond h harea
    · rintro ⟨found, hfinds, harea⟩
      exact ⟨found, hfinds, fun ⟨id, hid, h⟩ => harea ⟨id, hid, h.1⟩, fun _ h => harea h⟩
  rw [hsucceeds, ThreatManager.startSearch]
  have hstart := @ThreatManager.succeeds_first_iff _ _ m w m.online false pCurrentVictim [] rfl
    (fun l x hlt => absurd hlt (Nat.not_lt_zero _))
    (fun hnil l x hl => by simp [hnil] at hl) (fun h => by cases h)
  rwa [ThreatManager.victimBehind_nil] at hstart

/-- The first unit cannot be damaged and the second is out of the area. -/
private def shelteredField : ThreatWorld ℚ :=
  { openField with
    isImmunedToDamage := fun unit => unit.val == 2
    isOutOfThreatArea := fun unit => unit.val == 3 }

/-- Only a second choice is left in the threat area, but the last of the list is none, and nobody is
found. -/
theorem secondChoice_missed : ¬ ThreatManager.VictimFound (Framework.run ThreatManager.step
      (ThreatManager.init ⟨1, by decide⟩ : ThreatManager ℚ) [.addThreat openField ⟨2, by decide⟩ 100,
        .addThreat openField ⟨3, by decide⟩ 80]) shelteredField none := by
  rintro ⟨found, hfinds, -, hsecond⟩
  have hnone := hfinds.unique (ThreatManager.finds_selectNextVictim (by decide +kernel)
    (fun v hv => by cases hv))
  refine hsecond ?_ ⟨0, by decide +kernel, by decide +kernel, by decide +kernel⟩
    (hnone.trans (by decide +kernel))
  rintro ⟨id, hid, ⟨-, harea⟩, hchoice⟩
  have hlist : (Framework.run ThreatManager.step
    (ThreatManager.init ⟨1, by decide⟩ : ThreatManager ℚ) [.addThreat openField ⟨2, by decide⟩ 100,
      .addThreat openField ⟨3, by decide⟩ 80]).online = [0, 1] := by decide +kernel
  rw [hlist] at hid
  rcases List.mem_pair.mp hid with rfl | rfl
  · exact absurd hchoice (by decide +kernel)
  · exact absurd harea (by decide +kernel)

end Mangos
