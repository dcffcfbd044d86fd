import Mathlib.Algebra.Order.Field.Rat
import Mathlib.Tactic.Linarith
import Mangos.Threat.Order

/-!
# The threat of a taunt

A taunt adds what the taunter lacks, and the same is taken away when it fades out, whatever became of the
threat meanwhile.
-/

namespace Mangos

open ThreatFloat HostileReference

namespace ThreatManager

variable {m m' m'' : ThreatManager ℚ} {w : ThreatWorld ℚ} {id : Nat}

def Nonneg (m : ThreatManager ℚ) : Prop := ∀ id, 0 ≤ (m.refs id).threat

/-- The threats are the same, and new references have none. -/
structure Quiet (m m' : ThreatManager ℚ) : Prop where
  next : m.next ≤ m'.next
  threat : ∀ x, (m'.refs x).threat = (m.refs x).threat ∨ m.next ≤ x ∧ (m'.refs x).threat = 0

theorem Quiet.of_eq (hnext : m'.next = m.next) (hrefs : m'.refs = m.refs) : m.Quiet m' := by
  constructor
  · rw [hnext]
  · intro x
    rw [hrefs]
    exact .inl rfl

theorem Quiet.refl (m : ThreatManager ℚ) : m.Quiet m := .of_eq rfl rfl

theorem Quiet.trans (h : m.Quiet m') (h' : m'.Quiet m'') : m.Quiet m'' := by
  constructor
  · exact h.next.trans h'.next
  · intro x
    rcases h'.threat x with heq | ⟨hx, hzero⟩
    · rw [heq]
      exact h.threat x
    · exact .inr ⟨h.next.trans hx, hzero⟩

theorem Quiet.nonneg (h : m.Quiet m') (hm : m.Nonneg) : m'.Nonneg := by
  intro x
  rcases h.threat x with heq | ⟨-, hzero⟩
  · rw [heq]
    exact hm x
  · rw [hzero]

theorem Quiet.threat_eq (h : m.Quiet m') (hid : id < m.next) : (m'.refs id).threat = (m.refs id).threat := by
  rcases h.threat id with heq | ⟨hle, -⟩
  · exact heq
  · omega

theorem quiet_updateRef {f : HostileReference ℚ → HostileReference ℚ}
    (hf : ∀ r, (f r).threat = r.threat) (m : ThreatManager ℚ) (id : Nat) : m.Quiet (m.updateRef id f) := by
  constructor
  · exact le_refl m.next
  · intro x
    rw [refs_updateRef]
    split
    · exact .inl (hf _)
    · exact .inl rfl

theorem quiet_processThreatEvent (m : ThreatManager ℚ) (id : Nat) (event : ThreatRefEvent ℚ) :
    m.Quiet (m.processThreatEvent id event) := by
  cases event with
  | threatChange value =>
    obtain ⟨dirty, heq⟩ := processThreatEvent_threatChange (m := m) id value
    rw [heq]
    exact .of_eq rfl rfl
  | onlineStatus =>
    rw [processThreatEvent]
    split <;> exact .of_eq rfl rfl
  | removeFromList =>
    simp only [processThreatEvent]
    split <;> exact .of_eq rfl rfl
  | accessibleStatus => exact .refl m

theorem quiet_setAccessibleState (m : ThreatManager ℚ) (id : Nat) (isAccessible : Bool) :
    m.Quiet (m.setAccessibleState id isAccessible) := by
  rw [setAccessibleState_eq]
  apply quiet_updateRef
  intro r
  rfl

theorem quiet_setOnlineOfflineState (m : ThreatManager ℚ) (id : Nat) (isOnline : Bool) :
    m.Quiet (m.setOnlineOfflineState id isOnline) := by
  rw [setOnlineOfflineState]
  split
  · exact .refl m
  · have hflag := quiet_updateRef (f := fun r => { r with online := isOnline }) (fun _ => rfl) m id
    dsimp only
    split
    · exact hflag.trans (quiet_processThreatEvent _ id _)
    · have hplace := quiet_setAccessibleState (m.updateRef id fun r => { r with online := isOnline }) id false
      exact (hflag.trans hplace).trans (quiet_processThreatEvent _ id _)

theorem quiet_updateOnlineStatus (w : ThreatWorld ℚ) (m : ThreatManager ℚ) (id : Nat) :
    m.Quiet (m.updateOnlineStatus w id) := by
  have hlink := quiet_updateRef (f := fun r => { r with valid := r.valid || w.isFound r.unitGuid })
    (fun _ => rfl) m id
  exact (hlink.trans (quiet_setAccessibleState _ id _)).trans (quiet_setOnlineOfflineState _ id _)

theorem quiet_invalidate (m : ThreatManager ℚ) (id : Nat) : m.Quiet (m.invalidate id) := by
  refine (quiet_setOnlineOfflineState m id false).trans ?_
  apply quiet_updateRef
  intro r
  rfl

theorem quiet_removeReference (m : ThreatManager ℚ) (id : Nat) : m.Quiet (m.removeReference id) :=
  (quiet_invalidate m id).trans (quiet_processThreatEvent _ id _)

theorem quiet_newReference (m : ThreatManager ℚ) (victim : UnitGuid) : m.Quiet (m.newReference victim) := by
  constructor
  · exact Nat.le_succ m.next
  · intro x
    by_cases hx : x = m.next
    · subst hx
      simp [newReference]
    · simp [newReference, hx]

theorem quiet_getHostileTarget (w : ThreatWorld ℚ) (m : ThreatManager ℚ) : m.Quiet (m.getHostileTarget w) := by
  have hupdate : m.Quiet m.update := by
    rw [update]
    split
    · exact .of_eq rfl rfl
    · exact .refl m
  exact hupdate.trans (.of_eq rfl rfl)

theorem threat_raised (m : ThreatManager ℚ) (id x : Nat) (mod : ℚ) : ((m.updateRef id (raised mod)).refs x).threat =
      if x = id then (m.refs x).threat + mod else (m.refs x).threat := by
  rw [refs_updateRef]
  split <;> rfl

theorem quiet_raised_zero (m : ThreatManager ℚ) (id : Nat) : m.Quiet (m.updateRef id (raised 0)) :=
  quiet_updateRef (fun r => add_zero r.threat) m id

theorem nonneg_raised_iff (hm : m.Nonneg) (mod : ℚ) :
    (m.updateRef id (raised mod)).Nonneg ↔ 0 ≤ (m.refs id).threat + mod := by
  constructor
  · intro h
    have hid := h id
    rwa [threat_raised, if_pos rfl] at hid
  · intro hmod x
    rw [threat_raised]
    split
    next hx => rwa [hx]
    next => exact hm x

theorem quiet_changeThreat (w : ThreatWorld ℚ) (m : ThreatManager ℚ) (id : Nat) (mod : ℚ) :
    (m.updateRef id (raised mod)).Quiet (m.changeThreat w id mod) := by
  rw [changeThreat_eq]
  generalize hm₁ : (if (m.refs id).online then m.updateRef id (raised mod)
    else (m.updateRef id (raised mod)).updateOnlineStatus w id) = m₁
  have hfirst : (m.updateRef id (raised mod)).Quiet m₁ := by
    rw [← hm₁]
    split
    · exact .refl _
    · exact quiet_updateOnlineStatus w _ id
  dsimp only
  split
  · exact hfirst.trans (quiet_processThreatEvent m₁ id _)
  · exact hfirst

def QuietAssist (assist : ThreatManager ℚ → ThreatManager ℚ) : Prop :=
  ∀ m : ThreatManager ℚ, m.Quiet (assist m)

theorem quiet_refAddThreat {assist : ThreatManager ℚ → ThreatManager ℚ} (hassist : QuietAssist assist)
    (w : ThreatWorld ℚ) (m : ThreatManager ℚ) (id : Nat) (mod : ℚ) :
    (m.updateRef id (raised mod)).Quiet (m.refAddThreat w assist id mod) := by
  have hchange := quiet_changeThreat w m id mod
  rw [refAddThreat]
  split
  · exact hchange.trans (hassist _)
  · exact hchange

theorem nonneg_refAddThreat_iff {assist : ThreatManager ℚ → ThreatManager ℚ}
    (hassist : QuietAssist assist) (hm : m.Nonneg) (hid : id < m.next) (mod : ℚ) :
    (m.refAddThreat w assist id mod).Nonneg ↔ 0 ≤ (m.refs id).threat + mod := by
  have hquiet := quiet_refAddThreat hassist w m id mod
  constructor
  · intro h
    have heq := hquiet.threat_eq hid
    rw [threat_raised, if_pos rfl] at heq
    rw [← heq]
    exact h id
  · intro hmod
    exact hquiet.nonneg ((nonneg_raised_iff hm mod).mpr hmod)

theorem nonneg_refAddThreat {assist : ThreatManager ℚ → ThreatManager ℚ}
    (hassist : QuietAssist assist) (hm : m.Nonneg) {mod : ℚ} (hmod : 0 ≤ (m.refs id).threat + mod) :
    (m.refAddThreat w assist id mod).Nonneg :=
  (quiet_refAddThreat hassist w m id mod).nonneg ((nonneg_raised_iff hm mod).mpr hmod)

theorem addThreatDirectly_cases (assist : ThreatManager ℚ → ThreatManager ℚ) (victim : UnitGuid)
    (threat : ℚ) : m.addThreatDirectly w assist victim threat = m ∨ ∃ m₁ id, m.Quiet m₁ ∧
        (m₁.refAddThreat w assist id threat).Quiet (m.addThreatDirectly w assist victim threat) := by
  rw [addThreatDirectly]
  split
  · exact .inl rfl
  · right
    split
    next id _ => exact ⟨m, id, .refl m, .refl _⟩
    next =>
      split
      next id _ => exact ⟨m, id, .refl m, .refl _⟩
      next =>
        refine ⟨m.newReference victim, m.next, quiet_newReference m victim, ?_⟩
        dsimp only
        split
        · exact quiet_setOnlineOfflineState _ m.next false
        · exact .refl _

theorem quiet_addThreatDirectly {assist : ThreatManager ℚ → ThreatManager ℚ}
    (hassist : QuietAssist assist) (victim : UnitGuid) : m.Quiet (m.addThreatDirectly w assist victim 0) := by
  rcases addThreatDirectly_cases (m := m) (w := w) assist victim 0 with heq | ⟨m₁, id, hfirst, hlast⟩
  · rw [heq]
    exact .refl m
  · have hadd := (quiet_raised_zero m₁ id).trans (quiet_refAddThreat hassist w m₁ id 0)
    exact (hfirst.trans hadd).trans hlast

theorem nonneg_addThreatDirectly {assist : ThreatManager ℚ → ThreatManager ℚ}
    (hassist : QuietAssist assist) (hm : m.Nonneg) (victim : UnitGuid) {threat : ℚ} (hthreat : 0 ≤ threat) :
    (m.addThreatDirectly w assist victim threat).Nonneg := by
  rcases addThreatDirectly_cases (m := m) (w := w) assist victim threat with heq | ⟨m₁, id, hfirst, hlast⟩
  · rw [heq]
    exact hm
  · have hm₁ := hfirst.nonneg hm
    exact hlast.nonneg (nonneg_refAddThreat hassist hm₁ (add_nonneg (hm₁ id) hthreat))

theorem quiet_assistOwners (w : ThreatWorld ℚ) (owners : List UnitGuid) : QuietAssist (assistOwners w owners) := by
  induction owners with
  | nil => exact Quiet.refl
  | cons victimOwner owners ih =>
    intro m
    rw [assistOwners]
    split
    · exact quiet_addThreatDirectly ih victimOwner
    · exact .refl m

theorem quiet_assistOf (w : ThreatWorld ℚ) (m : ThreatManager ℚ) (id : Nat) : QuietAssist (m.assistOf w id) :=
  quiet_assistOwners w _

theorem Nonneg.hate (hm : m.Nonneg) (victim : UnitGuid) {threat : ℚ} (hthreat : 0 ≤ threat) :
    (m.hate w victim threat).Nonneg :=
  nonneg_addThreatDirectly (quiet_assistOwners w _) hm victim hthreat

theorem Nonneg.addThreatPercent (hm : m.Nonneg) (w : ThreatWorld ℚ) (id : Nat) {percent : Int}
    (hpercent : -100 ≤ percent) : (m.addThreatPercent w id percent).Nonneg := by
  have hid := hm id
  apply nonneg_refAddThreat (quiet_assistOf w m id) hm
  split
  · exact (add_neg_cancel (m.refs id).threat).ge
  · change 0 ≤ (m.refs id).threat + (m.refs id).threat * percent / 100
    have hcast : (-100 : ℚ) ≤ percent := by exact_mod_cast hpercent
    nlinarith

theorem Nonneg.modifyThreatPercent (hm : m.Nonneg) (w : ThreatWorld ℚ) (victim : UnitGuid) {percent : Int}
    (hpercent : -100 ≤ percent) : (m.modifyThreatPercent w victim percent).Nonneg := by
  rw [ThreatManager.modifyThreatPercent]
  split
  · exact hm
  · split
    · exact (quiet_removeReference m _).nonneg hm
    · exact hm.addThreatPercent w _ hpercent

theorem Nonneg.setTempThreat (hm : m.Nonneg) (w : ThreatWorld ℚ) (id : Nat) {threat : ℚ}
    (hthreat : 0 ≤ threat) : (m.setTempThreat w id threat).Nonneg := by
  have hmark := quiet_updateRef
    (f := fun r => { r with tempThreatModifyer := threat - (m.refs id).threat }) (fun _ => rfl) m id
  rw [ThreatManager.setTempThreat]
  split
  · apply nonneg_refAddThreat (quiet_assistOf w _ id) (hmark.nonneg hm)
    rw [refs_updateRef, if_pos rfl]
    exact (add_sub_cancel (m.refs id).threat threat).symm ▸ hthreat
  · exact hmark.nonneg hm

theorem Nonneg.tauntApply (hm : m.Nonneg) (w : ThreatWorld ℚ) (taunter : UnitGuid) :
    (m.tauntApply w taunter).Nonneg := by
  rw [ThreatManager.tauntApply]
  split
  next id victim _ _ =>
    split
    · apply hm.setTempThreat w id
      exact mul_nonneg (hm victim) (by norm_num [c140] : (0 : ℚ) ≤ 14 / 10)
    · exact hm
  next => exact hm

def Covered (m : ThreatManager ℚ) (id : Nat) : Prop :=
  nullF < fabs (m.refs id).tempThreatModifyer → (m.refs id).tempThreatModifyer ≤ (m.refs id).threat

theorem nonneg_resetTempThreat_iff (hm : m.Nonneg) (w : ThreatWorld ℚ) (hid : id < m.next) :
    (m.resetTempThreat w id).Nonneg ↔ m.Covered id := by
  rw [resetTempThreat, Covered]
  split
  next hworth =>
    generalize hm₁ : m.refAddThreat w (m.assistOf w id) id (-(m.refs id).tempThreatModifyer) = m₁
    have hclear := quiet_updateRef (f := fun r => { r with tempThreatModifyer := 0 }) (fun _ => rfl) m₁ id
    have hnonneg : (m₁.updateRef id fun r => { r with tempThreatModifyer := 0 }).Nonneg ↔ m₁.Nonneg := by
      constructor
      · intro h x
        have hx := h x
        rw [refs_updateRef] at hx
        split at hx <;> exact hx
      · exact hclear.nonneg
    rw [hnonneg, ← hm₁, nonneg_refAddThreat_iff (quiet_assistOf w m id) hm hid]
    simp only [hworth, true_imp_iff]
    rw [← sub_eq_add_neg, sub_nonneg]
  next hworth => simp [hworth, hm]

theorem nonneg_tauntFadeOut_iff (hm : m.Nonneg) (h : m.Partitioned) (w : ThreatWorld ℚ) (taunter : UnitGuid) :
    (m.tauntFadeOut w taunter).Nonneg ↔ ∀ id, m.getReferenceByTarget m.online taunter = some id → m.Covered id := by
  rw [ThreatManager.tauntFadeOut]
  split
  next hnone => simp [hnone, hm]
  next id hid =>
    have hold : id < m.next := h.fresh id (List.mem_append_left _ (mem_of_getReferenceByTarget hid).1)
    simp [hid, nonneg_resetTempThreat_iff hm w hold]

theorem redirection_of_redirected {victim : UnitGuid} {threat : ℚ} {r : ℚ × UnitGuid}
    (h : m.redirected w victim threat = some r) : w.redirection victim = some r := by
  rw [redirected] at h
  split at h
  · exact (Option.filter_eq_some_iff.mp h).1
  · cases h

theorem Nonneg.addThreat (hm : m.Nonneg) (w : ThreatWorld ℚ) (victim : UnitGuid) {threat : ℚ}
    (hall : 0 ≤ calcThreat w victim threat) (hparts : ∀ r, m.redirected w victim (calcThreat w victim threat) = some r →
      0 ≤ calcThreat w victim threat * r.1 ∧ 0 ≤ calcThreat w victim threat - calcThreat w victim threat * r.1) :
    (m.addThreat w victim threat).Nonneg := by
  rw [ThreatManager.addThreat]
  split
  · dsimp only
    split
    · exact hm.hate victim hall
    next mod target hredirected =>
      have hboth := hparts (mod, target) hredirected
      exact (hm.hate target hboth.1).hate victim hboth.2
  · exact hm

theorem Nonneg.onReference (hm : m.Nonneg) {f : ThreatManager ℚ → ThreatManager ℚ} (hf : (f m).Nonneg)
    (id : Nat) : (m.onReference id f).Nonneg := by
  rw [ThreatManager.onReference]
  split
  · exact hf
  · exact hm

end ThreatManager

/-- Additions that are not negative, also after the modifiers of the spells and for each of two units that
share them, and percentages of at least -100. -/
def ThreatCall.NeverNegative : ThreatCall ℚ → Prop
  | .addThreat w victim threat =>
    0 ≤ ThreatManager.calcThreat w victim threat ∧ ∀ r, w.redirection victim = some r → 0 ≤ r.1 ∧ r.1 ≤ 1
  | .addThreatDirectly _ _ threat => 0 ≤ threat
  | .modifyThreatPercent _ _ percent => -100 ≤ percent
  | .addThreatPercent _ _ percent => -100 ≤ percent
  | _ => True

namespace ThreatManager

/-- The threat that a taunt added, where it fades out, is still there. -/
def FadesOutCovered (m : ThreatManager ℚ) : ThreatCall ℚ → Prop
  | .tauntFadeOut _ taunter => ∀ id, m.getReferenceByTarget m.online taunter = some id → m.Covered id
  | _ => True

variable {m : ThreatManager ℚ}

theorem nonneg_step_iff (hm : m.Nonneg) (h : m.Partitioned) {call : ThreatCall ℚ}
    (hcall : call.NeverNegative) : (m.step call).Nonneg ↔ m.FadesOutCovered call := by
  have hiff : (m.step call).Nonneg → ((m.step call).Nonneg ↔ True) := iff_true_intro
  cases call with
  | addThreat w victim threat =>
    obtain ⟨hall, hparts⟩ := hcall
    apply hiff
    refine hm.addThreat w victim hall fun r hr => ?_
    have hr := hparts r (redirection_of_redirected hr)
    exact ⟨mul_nonneg hall hr.1, sub_nonneg.mpr (mul_le_of_le_one_right hall hr.2)⟩
  | addThreatDirectly w victim threat => exact hiff (hm.hate victim hcall)
  | modifyThreatPercent w victim percent => exact hiff (hm.modifyThreatPercent w victim hcall)
  | tauntApply w taunter => exact hiff (hm.tauntApply w taunter)
  | tauntFadeOut w taunter => exact nonneg_tauntFadeOut_iff hm h w taunter
  | getHostileTarget w => exact hiff ((quiet_getHostileTarget w m).nonneg hm)
  | clearReferences => exact hiff hm
  | addThreatPercent w id percent =>
    apply hiff
    exact Nonneg.onReference (f := (·.addThreatPercent w id percent)) hm (hm.addThreatPercent w id hcall) id
  | setOnlineOfflineState id isOnline =>
    apply hiff
    exact Nonneg.onReference (f := (·.setOnlineOfflineState id isOnline)) hm ((quiet_setOnlineOfflineState m id isOnline).nonneg hm) id
  | updateOnlineStatus w id =>
    apply hiff
    exact Nonneg.onReference (f := (·.updateOnlineStatus w id)) hm ((quiet_updateOnlineStatus w m id).nonneg hm) id
  | invalidate id =>
    apply hiff
    exact Nonneg.onReference (f := (·.invalidate id)) hm ((quiet_invalidate m id).nonneg hm) id
  | removeReference id =>
    apply hiff
    exact Nonneg.onReference (f := (·.removeReference id)) hm ((quiet_removeReference m id).nonneg hm) id

end ThreatManager

open ThreatManager

/-- If threats and additions are not negative and percentages at least -100, no threat falls below zero exactly if
each taunt fades out while its threat is still there. -/
theorem threat_nonneg_iff (m : ThreatManager ℚ) (hpart : m.Partitioned) (hstart : m.Nonneg)
    (calls : List (ThreatCall ℚ)) (hcalls : ∀ call ∈ calls, call.NeverNegative) :
    (∀ before, before <+: calls → (Framework.run step m before).Nonneg) ↔
      Framework.Guarded step FadesOutCovered m calls := by
  have hkept : ∀ m call, ThreatCall.NeverNegative call → FadesOutCovered m call →
      m.Nonneg ∧ m.Partitioned → (m.step call).Nonneg ∧ (m.step call).Partitioned := by
    intro m call hcall hok h
    exact ⟨(nonneg_step_iff h.1 h.2 hcall).mpr hok, h.2.step call⟩
  refine Framework.run_always_iff_of_mem (fun m h => h.1) hkept ?_ hcalls ⟨hstart, hpart⟩
  intro m call hcall hnot h
  exact fun hnonneg => hnot ((nonneg_step_iff h.1 h.2 hcall).mp hnonneg)

private theorem rival_ne : 2 ≠ 0 := by decide

def tauntFor (guid : UnitGuid) : List (ThreatCall ℚ) := [.addThreat openField ⟨2, rival_ne⟩ 100,
  .addThreat openField guid 10, .getHostileTarget openField, .tauntApply openField guid]

theorem neverNegative_tauntFor (guid : UnitGuid) : ∀ call ∈ tauntFor guid, call.NeverNegative := by
  have hadd : ∀ (victim : UnitGuid) (threat : ℚ), 0 ≤ threat →
      (ThreatCall.addThreat openField victim threat).NeverNegative := by
    intro victim threat h
    refine ⟨?_, fun r hr => (by cases hr)⟩
    rw [calcThreat]
    split
    · exact le_refl 0
    · exact h
  simp only [tauntFor, List.forall_mem_cons]
  exact ⟨hadd _ 100 (by decide +kernel), hadd guid 10 (by decide +kernel), trivial, trivial,
    fun call hcall => (by cases hcall)⟩

theorem threat_nonneg_taunt :
    let calls : List (ThreatCall ℚ) := tauntFor ⟨3, by decide⟩ ++ [.tauntFadeOut openField ⟨3, by decide⟩]
    ∀ before, before <+: calls → (Framework.run step (init ⟨1, by decide⟩) before).Nonneg := by
  intro calls
  have hcalls : ∀ call ∈ calls, ThreatCall.NeverNegative call := by
    intro call hcall
    rcases List.mem_append.mp hcall with hcall | hcall
    · exact neverNegative_tauntFor _ call hcall
    · rw [List.mem_singleton.mp hcall]
      trivial
  let taunted : ThreatManager ℚ := Framework.run step (init ⟨1, by decide⟩) (tauntFor ⟨3, by decide⟩)
  have hfound : taunted.getReferenceByTarget taunted.online ⟨3, by decide⟩ = some 1 := by decide +kernel
  have hguard : Framework.Guarded step FadesOutCovered (init ⟨1, by decide⟩) calls := by
    refine ⟨trivial, trivial, trivial, trivial, fun id hid _ => ?_, trivial⟩
    obtain rfl : 1 = id := Option.some.inj (hfound.symm.trans hid)
    decide +kernel
  exact (threat_nonneg_iff (init ⟨1, by decide⟩) (partitioned_init _) (fun _ => le_refl 0) calls hcalls).mpr
    hguard

/-- The taunter loses all its threat before its taunt fades out, and then 130 more. -/
theorem taunter_below_zero :
    let calls : List (ThreatCall ℚ) := tauntFor ⟨3, by decide⟩ ++
      [.modifyThreatPercent openField ⟨3, by decide⟩ (-100), .tauntFadeOut openField ⟨3, by decide⟩]
    let m := Framework.run step (init ⟨1, by decide⟩) calls
    (∀ call ∈ calls, ThreatCall.NeverNegative call) ∧ m.online = [0, 1] ∧ (m.refs 1).unitGuid = ⟨3, by decide⟩ ∧
      (m.refs 1).threat = -130 := by
  intro calls m
  refine ⟨fun call hcall => ?_, by decide +kernel, by decide +kernel, by decide +kernel⟩
  simp only [calls, List.mem_append, List.mem_cons, List.not_mem_nil, or_false] at hcall
  rcases hcall with hcall | rfl | rfl
  · exact neverNegative_tauntFor _ call hcall
  · exact le_refl (-100 : Int)
  · trivial

end Mangos
