import Mangos.Threat.Partition
import Mathlib.Algebra.Order.Ring.Unbundled.Rat
import Mathlib.Algebra.Ring.Rat
import Mathlib.Data.List.TakeWhile

/-!
# The order of the threats

The list of those online is sorted before a victim is chosen, if it was marked.
-/

namespace Mangos

open ThreatFloat HostileReference

namespace ThreatManager

variable {T : Type*} [ThreatFloat T] {m : ThreatManager T} {w : ThreatWorld T} {id v r : Nat}

def Descending (m : ThreatManager T) (list : List Nat) : Prop :=
  list.Pairwise fun a b => (m.refs b).threat ≤ (m.refs a).threat

def Attackable (w : ThreatWorld T) (m : ThreatManager T) (id : Nat) : Prop :=
  w.isSecondChoiceTarget (w.vehicleOrSelf (m.refs id).unitGuid) true = false

/-- A victim that is attackable, also without its vehicle. -/
structure ValidVictim (w : ThreatWorld T) (m : ThreatManager T) (v : Nat) : Prop where
  attackable : m.Attackable w v
  target : w.isSecondChoiceTarget (m.refs v).unitGuid true = false

def Exceeds (w : ThreatWorld T) (m : ThreatManager T) (v id : Nat) : Prop :=
  c110 * (m.refs v).threat < (m.refs id).threat ∧ (c130 * (m.refs v).threat < (m.refs id).threat ∨
      w.canReachWithMeleeAttack (w.vehicleOrSelf (m.refs id).unitGuid) = true)

/-- The greatest of those in the list that may replace the victim. -/
structure Replaces (w : ThreatWorld T) (m : ThreatManager T) (list : List Nat) (v r : Nat) : Prop where
  mem : r ∈ list
  attackable : m.Attackable w r
  exceeds : m.Exceeds w v r
  greatest : ∀ id ∈ list, m.Attackable w id → m.Exceeds w v id → (m.refs id).threat ≤ (m.refs r).threat

omit [ThreatFloat T] in
theorem isSecondChoiceTarget_true {target : UnitGuid} : w.isSecondChoiceTarget target true = false ↔
      w.isSecondChoiceTarget target false = false ∧ w.isOutOfThreatArea target = false := by
  simp [ThreatWorld.isSecondChoiceTarget]

theorem Replaces.cons {rest : List Nat} (h : m.Replaces w rest v r)
    (hid : ¬ (m.Attackable w id ∧ m.Exceeds w v id)) : m.Replaces w (id :: rest) v r := by
  refine ⟨List.mem_cons_of_mem id h.mem, h.attackable, h.exceeds, fun x hx hattack hexceeds => ?_⟩
  rcases List.mem_cons.mp hx with rfl | hx
  · exact absurd ⟨hattack, hexceeds⟩ hid
  · exact h.greatest x hx hattack hexceeds

theorem selectLoop_spec (hvalid : m.ValidVictim w v) (restart : Option Nat → Bool → Option Nat)
    (list : List Nat) (hsorted : m.Descending list) (hv : v ∈ list) (checked : Bool) :
    ∃ r, m.selectLoop w false restart list (some v) checked = some r ∧ (r = v ∨ m.Replaces w list v r) := by
  induction list generalizing checked with
  | nil => cases hv
  | cons id rest ih =>
    obtain ⟨hfirst, hrest⟩ := List.pairwise_cons.mp hsorted
    have hattack := isSecondChoiceTarget_true.mp hvalid.attackable
    -- one in front that is left out
    have hskip : ¬ (m.Attackable w id ∧ m.Exceeds w v id) → id ≠ v → ∀ checked,
        ∃ r, m.selectLoop w false restart rest (some v) checked = some r ∧ (r = v ∨ m.Replaces w (id :: rest) v r) := by
      intro hnot hne checked
      obtain ⟨r, hr, hcases⟩ := ih hrest ((List.mem_cons.mp hv).resolve_left (Ne.symm hne)) checked
      exact ⟨r, hr, hcases.imp_right fun h => h.cons hnot⟩
    simp only [selectLoop, Bool.not_false, Bool.true_and]
    by_cases hid : v = id
    · -- the victim itself is not passed by
      subst hid
      refine ⟨v, ?_, .inl rfl⟩
      have hsecond : w.isSecondChoiceTarget (w.vehicleOrSelf (m.refs v).unitGuid) true = false :=
        hvalid.attackable
      simp [hsecond, hattack.2]
    · have hdecide : decide (some v = some id) = false := by simpa using hid
      have hne : id ≠ v := Ne.symm hid
      rw [hdecide]
      by_cases hsecond : w.isSecondChoiceTarget (w.vehicleOrSelf (m.refs id).unitGuid) false = true
      · have hnot : ¬ (m.Attackable w id ∧ m.Exceeds w v id) := by
          rintro ⟨hattackable, -⟩
          rw [(isSecondChoiceTarget_true.mp hattackable).1] at hsecond
          cases hsecond
        have hrest : rest ≠ [] := by
          rintro rfl
          exact hid (List.mem_singleton.mp hv)
        rw [if_pos hsecond, if_neg hrest, if_neg (by simpa using hid)]
        exact hskip hnot hne checked
      · rw [if_neg hsecond]
        by_cases hout : w.isOutOfThreatArea (w.vehicleOrSelf (m.refs id).unitGuid) = true
        · have hnot : ¬ (m.Attackable w id ∧ m.Exceeds w v id) := by
            rintro ⟨hattackable, -⟩
            rw [(isSecondChoiceTarget_true.mp hattackable).2] at hout
            cases hout
          rw [if_pos hout]
          exact hskip hnot hne checked
        · have hattackable : m.Attackable w id := isSecondChoiceTarget_true.mpr
            ⟨Bool.not_eq_true _ ▸ hsecond, Bool.not_eq_true _ ▸ hout⟩
          rw [if_neg hout, if_neg hid, if_neg (by simp [hvalid.target])]
          by_cases hle : (m.refs id).threat ≤ c110 * (m.refs v).threat
          · rw [if_pos hle]
            exact ⟨v, rfl, .inl rfl⟩
          · rw [if_neg hle]
            split
            next hexceeds =>
              refine ⟨id, rfl, .inr ⟨List.mem_cons_self, hattackable, ⟨not_le.mp hle, ?_⟩, fun x hx _ _ => ?_⟩⟩
              · simpa [not_le.mp hle] using hexceeds
              · rcases List.mem_cons.mp hx with rfl | hx
                · exact le_refl _
                · exact hfirst x hx
            next hexceeds =>
              refine hskip ?_ hne true
              rintro ⟨-, hlt, hcase⟩
              exact hexceeds (by simpa [hlt] using hcase)

def marks (m : ThreatManager T) (id : Nat) (mod : T) : Bool :=
  nullF < fabs mod && ((m.currentVictim = some id && mod < 0) ||
    (m.currentVictim ≠ some id && 0 < mod))

def fits (m : ThreatManager T) (id : Nat) (threat : T) : Bool :=
  (m.online.takeWhile (· ≠ id)).all (fun x => threat ≤ (m.refs x).threat) &&
    (m.online.dropWhile (· ≠ id)).tail.all fun x => (m.refs x).threat ≤ threat

def fitsLast (m : ThreatManager T) (threat : T) : Bool :=
  m.dirty || m.currentVictim.any (fun victim => c110 * (m.refs victim).threat < threat) ||
    m.online.all fun x => threat ≤ (m.refs x).threat

def relinked (w : ThreatWorld T) (r : HostileReference T) : HostileReference T :=
  { r with valid := r.valid || w.isFound r.unitGuid }

def comesOnline (w : ThreatWorld T) (m : ThreatManager T) (id : Nat) : Bool :=
  (onlineStatus w (relinked w (m.refs id))).1

def changeInOrder (w : ThreatWorld T) (m : ThreatManager T) (id : Nat) (mod : T) : Bool :=
  m.marks id mod ||
    if (m.refs id).online then m.dirty || m.fits id ((m.refs id).threat + mod)
    else !m.comesOnline w id || m.fitsLast ((m.refs id).threat + mod)

def refAddInOrder (w : ThreatWorld T) (assistInOrder : ThreatManager T → Bool) (m : ThreatManager T)
    (id : Nat) (mod : T) : Bool :=
  m.changeInOrder w id mod &&
    (!((m.changeThreat w id mod).refs id).valid || !decide (0 ≤ mod) ||
      assistInOrder (m.changeThreat w id mod))

def directlyInOrder (w : ThreatWorld T) (assistInOrder : ThreatManager T → Bool)
    (m : ThreatManager T) (victim : UnitGuid) (threat : T) : Bool :=
  if victim = m.owner then true
  else match m.getReferenceByTarget m.online victim with
    | some id => m.refAddInOrder w assistInOrder id threat
    | none => match m.getReferenceByTarget m.offline victim with
      | some id => m.refAddInOrder w assistInOrder id threat
      | none => (m.newReference victim).refAddInOrder w assistInOrder m.next threat

def ownersInOrder (w : ThreatWorld T) : List UnitGuid → ThreatManager T → Bool
  | [], _ => true
  | victimOwner :: owners, m =>
    !m.mayHate w victimOwner || m.directlyInOrder w (ownersInOrder w owners) victimOwner 0

def hateInOrder (w : ThreatWorld T) (m : ThreatManager T) (victim : UnitGuid) (threat : T) : Bool :=
  m.directlyInOrder w (ownersInOrder w (w.owners victim)) victim threat

def refInOrder (w : ThreatWorld T) (m : ThreatManager T) (id : Nat) (mod : T) : Bool :=
  m.refAddInOrder w (ownersInOrder w (w.owners (m.refs id).unitGuid)) id mod

def percentInOrder (w : ThreatWorld T) (m : ThreatManager T) (id : Nat) (percent : Int) : Bool :=
  m.refInOrder w id
    (if percent = -100 then -(m.refs id).threat else percentOf (m.refs id).threat percent)

def tauntInOrder (w : ThreatWorld T) (m : ThreatManager T) (taunter : UnitGuid) : Bool :=
  match m.getReferenceByTarget m.online taunter, m.currentVictim with
  | some id, some victim =>
    let temp := (m.refs victim).threat * c140 - (m.refs id).threat
    !((m.refs id).threat < (m.refs victim).threat &&
        fabs (m.refs id).tempThreatModifyer < nullF) || !decide (nullF < fabs temp) ||
      (m.updateRef id fun r => { r with tempThreatModifyer := temp }).refInOrder w id temp
  | _, _ => true

/-- Each change of a threat, and each reference that comes online, in the state that it meets. -/
def InOrder (m : ThreatManager T) : ThreatCall T → Bool
  | .addThreat w victim threat =>
    !m.mayHate w victim ||
      (let threat := calcThreat w victim threat
      match m.redirected w victim threat with
      | none => m.hateInOrder w victim threat
      | some (redirectedMod, redirectedTarget) =>
        m.hateInOrder w redirectedTarget (threat * redirectedMod) &&
          (m.hate w redirectedTarget (threat * redirectedMod)).hateInOrder w victim
            (threat - threat * redirectedMod))
  | .addThreatDirectly w victim threat => m.hateInOrder w victim threat
  | .modifyThreatPercent w victim percent =>
    match m.getReferenceByTarget m.online victim with
    | none => true
    | some id => percent < -100 || m.percentInOrder w id percent
  | .tauntApply w taunter => m.tauntInOrder w taunter
  | .tauntFadeOut w taunter =>
    match m.getReferenceByTarget m.online taunter with
    | none => true
    | some id =>
      !decide (nullF < fabs (m.refs id).tempThreatModifyer) ||
        m.refInOrder w id (-(m.refs id).tempThreatModifyer)
  | .addThreatPercent w id percent => id ∉ m.listed || m.percentInOrder w id percent
  | .setOnlineOfflineState id isOnline =>
    id ∉ m.listed || !isOnline || (m.refs id).online || m.fitsLast (m.refs id).threat
  | .updateOnlineStatus w id =>
    id ∉ m.listed || !m.comesOnline w id || (m.refs id).online || m.fitsLast (m.refs id).threat
  | .getHostileTarget _ | .clearReferences | .invalidate _ | .removeReference _ => true

def Ordered (m : ThreatManager T) : Prop := m.dirty = false → m.Descending m.online

theorem Descending.congr {m' : ThreatManager T} {list : List Nat} (h : m.Descending list)
    (hsame : ∀ x ∈ list, (m'.refs x).threat = (m.refs x).threat) : m'.Descending list := by
  refine List.Pairwise.imp_of_mem (fun {a b} ha hb hab => ?_) h
  rw [hsame a ha, hsame b hb]
  exact hab

theorem Descending.snoc {list : List Nat} (h : m.Descending list)
    (hid : ∀ x ∈ list, (m.refs id).threat ≤ (m.refs x).threat) : m.Descending (list ++ [id]) := by
  refine List.pairwise_append.mpr ⟨h, List.pairwise_singleton .., fun x hx y hy => ?_⟩
  rw [List.mem_singleton.mp hy]
  exact hid x hx

theorem Ordered.congr {m' : ThreatManager T} (h : m.Ordered)
    (hthreat : ∀ x, (m'.refs x).threat = (m.refs x).threat) (honline : m'.online = m.online)
    (hdirty : m'.dirty = m.dirty) : m'.Ordered := by
  intro hclean
  rw [honline]
  exact (h (hdirty ▸ hclean)).congr fun x _ => hthreat x

omit [ThreatFloat T] in
theorem threat_updateRef {f : HostileReference T → HostileReference T} (hf : ∀ r, (f r).threat = r.threat) (x : Nat) :
    ((m.updateRef id f).refs x).threat = (m.refs x).threat := by
  rw [refs_updateRef]
  split
  · exact hf _
  · rfl

theorem Ordered.updateRef (h : m.Ordered) {f : HostileReference T → HostileReference T}
    (hf : ∀ r, (f r).threat = r.threat) : (m.updateRef id f).Ordered :=
  h.congr (threat_updateRef hf) rfl rfl

theorem Ordered.setOnlineOfflineState (h : m.Ordered) {isOnline : Bool}
    (hfits : isOnline = true → (m.refs id).online = false → m.fitsLast (m.refs id).threat = true) :
    (m.setOnlineOfflineState id isOnline).Ordered := by
  by_cases hsame : (m.refs id).online = isOnline
  · rw [ThreatManager.setOnlineOfflineState, if_pos hsame]
    exact h
  cases isOnline with
  | true =>
    have hfalse : (m.refs id).online = false := Bool.not_eq_true _ ▸ hsame
    have hlast := hfits rfl hfalse
    rw [setOnlineOfflineState_true hfalse]
    intro hclean
    obtain ⟨hdirty, hany⟩ := Bool.or_eq_false_iff.mp hclean
    simp only [fitsLast, hdirty, hany, Bool.false_or] at hlast
    have hlast' : ∀ x ∈ m.online, (m.refs id).threat ≤ (m.refs x).threat := by
      simpa using hlast
    exact ((h hdirty).snoc hlast').congr fun x _ => threat_updateRef (f := goOnline) (fun _ => rfl) x
  | false =>
    rw [setOnlineOfflineState_false (Bool.not_eq_false _ ▸ hsame)]
    intro hclean
    obtain ⟨hdirty, -⟩ := Bool.or_eq_false_iff.mp hclean
    have hfilter : m.Descending (m.online.filter (· ≠ id)) := (h hdirty).sublist List.filter_sublist
    exact hfilter.congr fun x _ => threat_updateRef (f := goOffline) (fun _ => rfl) x

theorem updateOnlineStatus_eq (w : ThreatWorld T) (m : ThreatManager T) (id : Nat) :
    ∃ m₁ : ThreatManager T, (∀ x, (m₁.refs x).threat = (m.refs x).threat) ∧
      (∀ x, (m₁.refs x).online = (m.refs x).online) ∧ m₁.online = m.online ∧
      m₁.dirty = m.dirty ∧ m₁.currentVictim = m.currentVictim ∧
      m.updateOnlineStatus w id = m₁.setOnlineOfflineState id (m.comesOnline w id) := by
  have hself : (m.updateRef id (relinked w)).refs id = relinked w (m.refs id) := by
    rw [refs_updateRef, if_pos rfl]
  refine ⟨(m.updateRef id (relinked w)).setAccessibleState id
    (onlineStatus w (relinked w (m.refs id))).2, ?_⟩
  have heq : m.updateOnlineStatus w id = ((m.updateRef id (relinked w)).setAccessibleState id
        (onlineStatus w (relinked w (m.refs id))).2).setOnlineOfflineState id
          (m.comesOnline w id) := by
    rw [← hself, comesOnline, ← hself]
    rfl
  rw [setAccessibleState_eq] at heq ⊢
  refine ⟨fun x => ?_, fun x => ?_, rfl, rfl, rfl, heq⟩
  · rw [refs_updateRef, refs_updateRef]
    by_cases hx : x = id <;> simp [hx, relinked]
  · rw [refs_updateRef, refs_updateRef]
    by_cases hx : x = id <;> simp [hx, relinked]

theorem Ordered.updateOnlineStatus (h : m.Ordered) (hfits : m.comesOnline w id = true → (m.refs id).online = false →
      m.fitsLast (m.refs id).threat = true) : (m.updateOnlineStatus w id).Ordered := by
  obtain ⟨m₁, hthreat, hflag, honline, hdirty, hvictim, heq⟩ := updateOnlineStatus_eq w m id
  rw [heq]
  refine (h.congr hthreat honline hdirty).setOnlineOfflineState fun hcomes hoffline => ?_
  rw [hflag] at hoffline
  simpa [fitsLast, hthreat, honline, hdirty, hvictim] using hfits hcomes hoffline

theorem currentVictim_updateOnlineStatus (h : (m.refs id).online = false) :
    (m.updateOnlineStatus w id).currentVictim = m.currentVictim := by
  obtain ⟨m₁, -, hflag, -, -, hvictim, heq⟩ := updateOnlineStatus_eq w m id
  have hoffline := (hflag id).trans h
  rw [heq, ← hvictim]
  cases m.comesOnline w id with
  | true => rw [setOnlineOfflineState_true hoffline]; rfl
  | false => rw [ThreatManager.setOnlineOfflineState, if_pos hoffline]

theorem ordered_threatChange (h : m.Ordered) (mod : T) : (m.processThreatEvent id (.threatChange mod)).Ordered := by
  rw [processThreatEvent]
  split
  · intro hclean
    cases hclean
  · exact h

theorem dirty_of_marks {mod : T} (h : m.marks id mod = true) :
    nullF < fabs mod ∧ (m.processThreatEvent id (.threatChange mod)).dirty = true := by
  simp only [marks, Bool.and_eq_true, Bool.or_eq_true, decide_eq_true_eq] at h
  refine ⟨h.1, ?_⟩
  rw [processThreatEvent, if_pos h.2]

omit [ThreatFloat T] in
theorem split_around {list : List Nat} (hid : id ∈ list) :
    list = list.takeWhile (· ≠ id) ++ id :: (list.dropWhile (· ≠ id)).tail := by
  have hne : list.dropWhile (· ≠ id) ≠ [] := by
    intro hnil
    have hall := List.dropWhile_eq_nil_iff.mp hnil id hid
    simp at hall
  have hhead : (list.dropWhile (· ≠ id)).head hne = id := by
    simpa using List.head_dropWhile_not (fun x => decide (x ≠ id)) hne
  conv_lhs => rw [← List.takeWhile_append_dropWhile (p := fun x => decide (x ≠ id)) (l := list)]
  rw [← List.cons_head_tail hne, hhead, List.tail_cons]

theorem descending_of_fits {threat : T} (hnodup : m.online.Nodup) (hid : id ∈ m.online)
    (hsorted : m.Descending (m.online.filter (· ≠ id))) (hfits : m.fits id threat = true) :
    (m.updateRef id fun r => { r with threat := threat }).Descending m.online := by
  simp only [fits, Bool.and_eq_true, List.all_eq_true, decide_eq_true_eq] at hfits
  obtain ⟨hbefore, hafter⟩ := hfits
  have hsplit := split_around hid
  generalize m.online.takeWhile (· ≠ id) = before at *
  generalize (m.online.dropWhile (· ≠ id)).tail = after at *
  rw [hsplit] at hnodup hsorted ⊢
  obtain ⟨hnodupBefore, hnodupAfter, hdisjoint⟩ := List.nodup_append.mp hnodup
  have hnotBefore : ∀ x ∈ before, x ≠ id := fun x hx => hdisjoint x hx id List.mem_cons_self
  have hnotAfter : ∀ x ∈ after, x ≠ id := by
    rintro x hx rfl
    exact (List.nodup_cons.mp hnodupAfter).1 hx
  have hfilter : (before ++ id :: after).filter (· ≠ id) = before ++ after := by
    rw [List.filter_append, List.filter_cons_of_neg (by simp),
      List.filter_eq_self.mpr fun x hx => by simpa using hnotBefore x hx,
      List.filter_eq_self.mpr fun x hx => by simpa using hnotAfter x hx]
  rw [hfilter] at hsorted
  have hsame : ∀ x, x ≠ id →
      ((m.updateRef id fun r => { r with threat := threat }).refs x).threat = (m.refs x).threat := by
    intro x hx
    rw [refs_updateRef, if_neg hx]
  have hnew : ((m.updateRef id fun r => { r with threat := threat }).refs id).threat = threat := by
    rw [refs_updateRef, if_pos rfl]
  obtain ⟨hleft, hright, hboth⟩ := List.pairwise_append.mp hsorted
  refine List.pairwise_append.mpr ⟨?_, List.pairwise_cons.mpr ⟨fun x hx => ?_, ?_⟩, fun x hx y hy => ?_⟩
  · exact Descending.congr hleft fun x hx => hsame x (hnotBefore x hx)
  · rw [hnew, hsame x (hnotAfter x hx)]
    exact hafter x hx
  · exact Descending.congr hright fun x hx => hsame x (hnotAfter x hx)
  · rw [hsame x (hnotBefore x hx)]
    rcases List.mem_cons.mp hy with rfl | hy
    · rw [hnew]
      exact hbefore x hx
    · rw [hsame y (hnotAfter y hy)]
      exact hboth x hx y hy

def raised (mod : T) (r : HostileReference T) : HostileReference T :=
  { r with threat := r.threat + mod }

theorem changeThreat_eq (w : ThreatWorld T) (m : ThreatManager T) (id : Nat) (mod : T) :
    m.changeThreat w id mod = (let m₁ := if (m.refs id).online then m.updateRef id (raised mod)
        else (m.updateRef id (raised mod)).updateOnlineStatus w id
      if nullF < fabs mod then m₁.processThreatEvent id (.threatChange mod) else m₁) := by
  have honline : ((m.updateRef id (raised mod)).refs id).online = (m.refs id).online := by
    rw [refs_updateRef, if_pos rfl]
    rfl
  rw [← honline]
  rfl

theorem fitsLast_raised (h : m.Partitioned) (hoffline : (m.refs id).online = false) (mod : T) :
    (m.updateRef id (raised mod)).fitsLast ((m.refs id).threat + mod) = m.fitsLast ((m.refs id).threat + mod) := by
  have hsame : ∀ x ∈ m.online, ((m.updateRef id (raised mod)).refs x).threat = (m.refs x).threat := by
    intro x hx
    rw [refs_updateRef, if_neg]
    rintro rfl
    rw [h.online x hx] at hoffline
    cases hoffline
  have hvictim : (m.currentVictim.any fun victim =>
      c110 * ((m.updateRef id (raised mod)).refs victim).threat < (m.refs id).threat + mod) =
        m.currentVictim.any fun victim =>
          c110 * (m.refs victim).threat < (m.refs id).threat + mod := by
    cases hcur : m.currentVictim with
    | none => rfl
    | some victim => simp only [Option.any_some, hsame victim (h.victim victim hcur)]
  have hall : (m.online.all fun x => (m.refs id).threat + mod ≤
      ((m.updateRef id (raised mod)).refs x).threat) =
        m.online.all fun x => (m.refs id).threat + mod ≤ (m.refs x).threat := by
    rw [Bool.eq_iff_iff, List.all_eq_true, List.all_eq_true]
    refine forall₂_congr fun x hx => ?_
    rw [hsame x hx]
  exact congrArg₂ or (congrArg (or m.dirty) hvictim) hall

theorem ordered_changeThreat (h : m.Partitioned) (hid : id ∈ m.listed) {mod : T}
    (hsorted : m.dirty = false → m.Descending (m.online.filter (· ≠ id)))
    (hok : m.changeInOrder w id mod = true) : (m.changeThreat w id mod).Ordered := by
  rw [changeThreat_eq]
  dsimp only
  by_cases hmarks : m.marks id mod = true
  · -- the event marks the list
    have hvictim : (if (m.refs id).online then m.updateRef id (raised mod)
        else (m.updateRef id (raised mod)).updateOnlineStatus w id).currentVictim = m.currentVictim := by
      split
      · rfl
      next honline =>
        refine currentVictim_updateOnlineStatus ?_
        rw [refs_updateRef, if_pos rfl]
        exact Bool.not_eq_true _ ▸ honline
    generalize (if (m.refs id).online then m.updateRef id (raised mod)
      else (m.updateRef id (raised mod)).updateOnlineStatus w id) = m₁ at hvictim ⊢
    have hmarks₁ : m₁.marks id mod = true := by
      rw [marks, hvictim]
      exact hmarks
    obtain ⟨hnull, hdirty⟩ := dirty_of_marks hmarks₁
    rw [if_pos hnull]
    intro hclean
    rw [hdirty] at hclean
    cases hclean
  · simp only [changeInOrder, Bool.eq_false_iff.mpr hmarks, Bool.false_or] at hok
    have hfirst : (if (m.refs id).online then m.updateRef id (raised mod)
        else (m.updateRef id (raised mod)).updateOnlineStatus w id).Ordered := by
      by_cases honline : (m.refs id).online = true
      · rw [if_pos honline] at hok ⊢
        intro hclean
        have hdirty : m.dirty = false := hclean
        rw [hdirty, Bool.false_or] at hok
        have hmem := h.mem_online hid honline
        have hdesc := descending_of_fits (List.nodup_append.mp h.nodup).1 hmem (hsorted hdirty) hok
        refine hdesc.congr fun x _ => ?_
        rw [refs_updateRef, refs_updateRef]
        split
        next hx =>
          subst hx
          rfl
        next => rfl
      · rw [if_neg honline] at hok ⊢
        have hfalse : (m.refs id).online = false := Bool.not_eq_true _ ▸ honline
        have hnot : ∀ x ∈ m.online, x ≠ id := by
          rintro x hx rfl
          exact honline (h.online x hx)
        have hsame : ∀ x ∈ m.online, ((m.updateRef id (raised mod)).refs x).threat = (m.refs x).threat := by
          intro x hx
          rw [refs_updateRef, if_neg (hnot x hx)]
        have hself : (m.updateRef id (raised mod)).refs id = raised mod (m.refs id) := by
          rw [refs_updateRef, if_pos rfl]
        have hraised : (m.updateRef id (raised mod)).Ordered := by
          intro hclean
          have hfilter : m.online.filter (· ≠ id) = m.online :=
            List.filter_eq_self.mpr fun x hx => by simpa using hnot x hx
          have hdesc := hsorted hclean
          rw [hfilter] at hdesc
          exact hdesc.congr hsame
        refine hraised.updateOnlineStatus fun hcomes _ => ?_
        have hcomes' : m.comesOnline w id = true := by
          rw [comesOnline, hself] at hcomes
          exact hcomes
        rw [hcomes', Bool.not_true, Bool.false_or] at hok
        rw [hself]
        exact (fitsLast_raised h hfalse mod).trans hok
    split
    · exact ordered_threatChange hfirst mod
    · exact hfirst

def AssistsInOrder (assist : ThreatManager T → ThreatManager T)
    (assistInOrder : ThreatManager T → Bool) : Prop :=
  ∀ m : ThreatManager T, m.Partitioned → m.Ordered → assistInOrder m = true → (assist m).Ordered

theorem ordered_refAddThreat (h : m.Partitioned) (hid : id ∈ m.listed)
    {assist : ThreatManager T → ThreatManager T} {assistInOrder : ThreatManager T → Bool}
    (hassist : AssistsInOrder assist assistInOrder) {mod : T}
    (hsorted : m.dirty = false → m.Descending (m.online.filter (· ≠ id)))
    (hok : m.refAddInOrder w assistInOrder id mod = true) : (m.refAddThreat w assist id mod).Ordered := by
  obtain ⟨hchange, hrest⟩ := Bool.and_eq_true_iff.mp hok
  have hordered := ordered_changeThreat h hid hsorted hchange
  obtain ⟨hpart, -⟩ := h.changeThreat w hid mod
  rw [refAddThreat]
  split
  next hvalid =>
    refine hassist _ hpart hordered ?_
    obtain ⟨hv, hmod⟩ := Bool.and_eq_true_iff.mp hvalid
    simpa [hv, hmod] using hrest
  next => exact hordered

theorem Ordered.without (h : m.Ordered) (hclean : m.dirty = false) :
    m.Descending (m.online.filter (· ≠ id)) := (h hclean).sublist List.filter_sublist

theorem ordered_addThreatDirectly (h : m.Partitioned) (hordered : m.Ordered)
    {assist : ThreatManager T → ThreatManager T} {assistInOrder : ThreatManager T → Bool}
    (hassist : AssistsInOrder assist assistInOrder) {victim : UnitGuid} {threat : T}
    (hok : m.directlyInOrder w assistInOrder victim threat = true) :
    (m.addThreatDirectly w assist victim threat).Ordered := by
  rw [addThreatDirectly]
  rw [directlyInOrder] at hok
  by_cases howner : victim = m.owner
  · rw [if_pos howner]
    exact hordered
  rw [if_neg howner] at hok ⊢
  cases honline : m.getReferenceByTarget m.online victim with
  | some id =>
    rw [honline] at hok
    exact ordered_refAddThreat h (List.mem_append_left _ (mem_of_getReferenceByTarget honline).1)
      hassist hordered.without hok
  | none =>
    cases hoffline : m.getReferenceByTarget m.offline victim with
    | some id =>
      rw [honline, hoffline] at hok
      exact ordered_refAddThreat h
        (List.mem_append_right _ (mem_of_getReferenceByTarget hoffline).1) hassist
        hordered.without hok
    | none =>
      rw [honline, hoffline] at hok
      obtain ⟨hnew, hid⟩ := grown_newReference h honline hoffline
      have hfresh : ∀ x ∈ m.online, x ≠ m.next := fun x hx =>
        Nat.ne_of_lt (h.fresh x (List.mem_append_left _ hx))
      have hsorted : (m.newReference victim).dirty = false → (m.newReference victim).Descending
            ((m.newReference victim).online.filter (· ≠ m.next)) := by
        intro hclean
        have hfilter : (m.newReference victim).online.filter (· ≠ m.next) = m.online := by
          change (m.online ++ [m.next]).filter (· ≠ m.next) = m.online
          rw [List.filter_append, List.filter_eq_self.mpr fun x hx => by simpa using hfresh x hx]
          simp
        rw [hfilter]
        refine (hordered hclean).congr fun x hx => ?_
        exact congrArg HostileReference.threat (Function.update_of_ne (hfresh x hx) ..)
      have hadded := ordered_refAddThreat hnew.partitioned hid hassist hsorted hok
      dsimp only
      split
      · exact hadded.setOnlineOfflineState fun htrue => by cases htrue
      · exact hadded

theorem assistsInOrder_owners (w : ThreatWorld T) (owners : List UnitGuid) :
    AssistsInOrder (assistOwners w owners) (ownersInOrder w owners) := by
  induction owners with
  | nil => exact fun m _ hordered _ => hordered
  | cons victimOwner owners ih =>
    intro m h hordered hok
    rw [assistOwners]
    split
    next hmay =>
      rw [ownersInOrder, hmay, Bool.not_true, Bool.false_or] at hok
      exact ordered_addThreatDirectly h hordered ih hok
    next => exact hordered

theorem ordered_hate (h : m.Partitioned) (hordered : m.Ordered) {victim : UnitGuid} {threat : T}
    (hok : m.hateInOrder w victim threat = true) : (m.hate w victim threat).Ordered :=
  ordered_addThreatDirectly h hordered (assistsInOrder_owners w _) hok

theorem ordered_refInOrder (h : m.Partitioned) (hordered : m.Ordered) (hid : id ∈ m.listed) {mod : T}
    (hok : m.refInOrder w id mod = true) : (m.refAddThreat w (m.assistOf w id) id mod).Ordered :=
  ordered_refAddThreat h hid (assistsInOrder_owners w _) hordered.without hok

theorem Ordered.removeReference (h : m.Ordered) : (m.removeReference id).Ordered := by
  have hoff : (m.invalidate id).Ordered := by
    have hset : (m.setOnlineOfflineState id false).Ordered :=
      h.setOnlineOfflineState fun htrue => by cases htrue
    exact hset.updateRef fun _ => rfl
  rw [ThreatManager.removeReference, processThreatEvent]
  dsimp only
  split
  · intro hclean
    exact hoff.without (Bool.or_eq_false_iff.mp hclean).1
  · intro hclean
    exact hoff (Bool.or_eq_false_iff.mp hclean).1

theorem Ordered.setTempThreat (hordered : m.Ordered) (h : m.Partitioned) (hid : id ∈ m.listed)
    {threat : T} (hok : nullF < fabs (threat - (m.refs id).threat) →
      (m.updateRef id fun r => { r with tempThreatModifyer := threat - (m.refs id).threat }).refInOrder
        w id (threat - (m.refs id).threat) = true) : (m.setTempThreat w id threat).Ordered := by
  have hfirst : (m.updateRef id fun r =>
      { r with tempThreatModifyer := threat - (m.refs id).threat }).Ordered :=
    hordered.updateRef fun _ => rfl
  rw [ThreatManager.setTempThreat]
  split
  next hnull =>
    have hpart : (m.updateRef id fun r =>
        { r with tempThreatModifyer := threat - (m.refs id).threat }).Partitioned :=
      h.updateRef ⟨fun _ => rfl, fun _ => rfl, fun _ h => h⟩
    exact ordered_refInOrder hpart hfirst hid (hok hnull)
  next => exact hfirst

theorem Ordered.tauntApply (hordered : m.Ordered) (h : m.Partitioned) {taunter : UnitGuid}
    (hok : m.tauntInOrder w taunter = true) : (m.tauntApply w taunter).Ordered := by
  rw [ThreatManager.tauntApply]
  rw [tauntInOrder] at hok
  split
  next id victim honline hvictim =>
    simp only [honline, hvictim] at hok
    have hid : id ∈ m.listed := List.mem_append_left _ (mem_of_getReferenceByTarget honline).1
    split
    next htaunt =>
      refine hordered.setTempThreat h hid fun hnull => ?_
      simpa [htaunt, hnull] using hok
    next => exact hordered
  next => exact hordered

theorem Ordered.tauntFadeOut (hordered : m.Ordered) (h : m.Partitioned) {taunter : UnitGuid}
    (hok : m.InOrder (.tauntFadeOut w taunter) = true) : (m.tauntFadeOut w taunter).Ordered := by
  rw [ThreatManager.tauntFadeOut]
  rw [InOrder] at hok
  split
  next => exact hordered
  next id honline =>
    rw [honline] at hok
    have hid : id ∈ m.listed := List.mem_append_left _ (mem_of_getReferenceByTarget honline).1
    rw [resetTempThreat]
    split
    next hnull =>
      simp only [hnull, decide_true, Bool.not_true, Bool.false_or] at hok
      exact (ordered_refInOrder h hordered hid hok).updateRef fun _ => rfl
    next => exact hordered

theorem Ordered.addThreatPercent (hordered : m.Ordered) (h : m.Partitioned) (hid : id ∈ m.listed)
    {percent : Int} (hok : m.percentInOrder w id percent = true) : (m.addThreatPercent w id percent).Ordered :=
  ordered_refInOrder h hordered hid hok

theorem Ordered.modifyThreatPercent (hordered : m.Ordered) (h : m.Partitioned) {victim : UnitGuid}
    {percent : Int} (hok : m.InOrder (.modifyThreatPercent w victim percent) = true) :
    (m.modifyThreatPercent w victim percent).Ordered := by
  rw [ThreatManager.modifyThreatPercent]
  rw [InOrder] at hok
  split
  next => exact hordered
  next id honline =>
    rw [honline] at hok
    have hid : id ∈ m.listed := List.mem_append_left _ (mem_of_getReferenceByTarget honline).1
    split
    next => exact hordered.removeReference
    next hpercent =>
      refine hordered.addThreatPercent h hid ?_
      simpa [hpercent] using hok

theorem Ordered.addThreat (hordered : m.Ordered) (h : m.Partitioned) {victim : UnitGuid} {threat : T}
    (hok : m.InOrder (.addThreat w victim threat) = true) : (m.addThreat w victim threat).Ordered := by
  rw [ThreatManager.addThreat]
  rw [InOrder] at hok
  split
  next hmay =>
    rw [hmay, Bool.not_true, Bool.false_or] at hok
    dsimp only at hok ⊢
    cases hredirected : m.redirected w victim (calcThreat w victim threat) with
    | none =>
      rw [hredirected] at hok
      exact ordered_hate h hordered hok
    | some part =>
      rw [hredirected] at hok
      obtain ⟨hfirst, hsecond⟩ := Bool.and_eq_true_iff.mp hok
      have hgrown := grown_hate h w part.2 (calcThreat w victim threat * part.1)
      exact ordered_hate hgrown.partitioned (ordered_hate h hordered hfirst) hsecond
  next => exact hordered

theorem descending_update (h : m.Ordered) : m.update.Descending m.update.online := by
  rw [ThreatManager.update]
  split
  next =>
    have htotal : Std.Total fun a b => (m.refs b).threat ≤ (m.refs a).threat :=
      ⟨fun a b => le_total _ _⟩
    have htrans : IsTrans Nat fun a b => (m.refs b).threat ≤ (m.refs a).threat :=
      ⟨fun a b c hab hbc => le_trans hbc hab⟩
    exact List.pairwise_insertionSort (fun a b => (m.refs b).threat ≤ (m.refs a).threat) m.online
  next hclean => exact h (Bool.not_eq_true _ ▸ hclean)

theorem Ordered.onReference (h : m.Ordered) {id : Nat} {f : ThreatManager T → ThreatManager T}
    (hf : id ∈ m.listed → (f m).Ordered) : (m.onReference id f).Ordered := by
  rw [ThreatManager.onReference]
  split
  next hid => exact hf hid.1
  next => exact h

theorem Ordered.step (hordered : m.Ordered) (h : m.Partitioned) {call : ThreatCall T}
    (hok : m.InOrder call = true) : (m.step call).Ordered := by
  cases call with
  | addThreat w victim threat => exact hordered.addThreat h hok
  | addThreatDirectly w victim threat => exact ordered_hate h hordered hok
  | modifyThreatPercent w victim percent => exact hordered.modifyThreatPercent h hok
  | tauntApply w taunter => exact hordered.tauntApply h hok
  | tauntFadeOut w taunter => exact hordered.tauntFadeOut h hok
  | getHostileTarget w => exact fun _ => descending_update hordered
  | clearReferences => exact fun _ => .nil
  | addThreatPercent w id percent =>
    apply Ordered.onReference (f := (·.addThreatPercent w id percent)) hordered
    intro hid
    refine hordered.addThreatPercent h hid ?_
    simpa [InOrder, hid] using hok
  | setOnlineOfflineState id isOnline =>
    apply Ordered.onReference (f := (·.setOnlineOfflineState id isOnline)) hordered
    intro hid
    refine hordered.setOnlineOfflineState fun honline hoffline => ?_
    simpa [InOrder, hid, honline, hoffline] using hok
  | updateOnlineStatus w id =>
    apply Ordered.onReference (f := (·.updateOnlineStatus w id)) hordered
    intro hid
    refine hordered.updateOnlineStatus fun honline hoffline => ?_
    simpa [InOrder, hid, honline, hoffline] using hok
  | invalidate id =>
    apply Ordered.onReference (f := (·.invalidate id)) hordered
    intro _
    have hset : (m.setOnlineOfflineState id false).Ordered :=
      hordered.setOnlineOfflineState fun htrue => by cases htrue
    exact hset.updateRef fun _ => rfl
  | removeReference id =>
    exact Ordered.onReference (f := (·.removeReference id)) hordered
      fun _ => hordered.removeReference

theorem getHostileTarget_spec (h : m.Partitioned) (hordered : m.Ordered)
    (hvictim : m.currentVictim = some v) (hvalid : m.ValidVictim w v) :
    ∃ r, (m.getHostileTarget w).currentVictim = some r ∧ (r = v ∨ m.Replaces w m.online v r) := by
  have hrefs : m.update.refs = m.refs := by
    rw [ThreatManager.update]
    split <;> rfl
  have hcurrent : m.update.currentVictim = some v := by
    rw [ThreatManager.update]
    split <;> exact hvictim
  have hperm : m.update.online.Perm m.online := by
    rw [ThreatManager.update]
    split
    · exact List.perm_insertionSort _ m.online
    · exact .refl _
  have hattack : ∀ id, m.update.Attackable w id ↔ m.Attackable w id := by
    intro id
    rw [Attackable, Attackable, hrefs]
  have hexceeds : ∀ id, m.update.Exceeds w v id ↔ m.Exceeds w v id := by
    intro id
    rw [Exceeds, Exceeds, hrefs]
  have hvalid' : m.update.ValidVictim w v :=
    ⟨(hattack v).mpr hvalid.attackable, by rw [hrefs]; exact hvalid.target⟩
  obtain ⟨r, hr, hcases⟩ := selectLoop_spec hvalid'
    (m.update.selectLoop w true (fun _ _ => none) m.update.online) m.update.online
    (descending_update hordered) (h.update.victim v hcurrent) false
  refine ⟨r, ?_, hcases.imp_right fun hreplaces => ?_⟩
  · change m.update.selectNextVictim w m.update.currentVictim = some r
    rw [hcurrent]
    exact hr
  · refine ⟨hperm.mem_iff.mp hreplaces.mem, (hattack r).mp hreplaces.attackable,
      (hexceeds r).mp hreplaces.exceeds, fun id hid hattackable hmore => ?_⟩
    have hle := hreplaces.greatest id (hperm.mem_iff.mpr hid) ((hattack id).mpr hattackable)
      ((hexceeds id).mpr hmore)
    rwa [hrefs] at hle

end ThreatManager

open ThreatManager

/-- In a run in which every change keeps the order, a list that is not marked is in order, and a valid
victim is replaced only by the greatest of those that exceed it. -/
theorem threatOrder_maintained {T : Type*} [ThreatFloat T] (owner : UnitGuid) (calls : List (ThreatCall T))
    (h : Framework.Guarded step (fun m call => m.InOrder call = true) (init owner) calls) :
    let m := Framework.run step (init owner) calls
    (m.dirty = false → m.Descending m.online) ∧ ∀ w v, m.currentVictim = some v → m.ValidVictim w v →
        ∃ r, (m.getHostileTarget w).currentVictim = some r ∧ (r = v ∨ m.Replaces w m.online v r) := by
  intro m
  have hinv : ∀ (m : ThreatManager T) (call : ThreatCall T), m.InOrder call = true →
      m.Partitioned ∧ m.Ordered → (m.step call).Partitioned ∧ (m.step call).Ordered :=
    fun m call hok h => ⟨h.1.step call, h.2.step h.1 hok⟩
  obtain ⟨hpart, hordered⟩ := Framework.run_invariant hinv h ⟨partitioned_init owner, fun _ => .nil⟩
  exact ⟨hordered, fun w v hvictim hvalid => getHostileTarget_spec hpart hordered hvictim hvalid⟩

/-- Threats that are fractions. -/
instance ratThreat : ThreatFloat ℚ where
  toLinearOrder := inferInstance
  toZero := inferInstance
  toAdd := inferInstance
  toSub := inferInstance
  toNeg := inferInstance
  toMul := inferInstance
  fabs x := if x < 0 then -x else x
  nullF := 9 / 1000
  c110 := 11 / 10
  c130 := 13 / 10
  c140 := 14 / 10
  percentOf x percent := x * percent / 100

/-- Units that are alive and hostile, and can be reached. -/
def openField : ThreatWorld ℚ where
  isGameMaster _ := false
  isAlive _ := true
  ownerAlive := true
  isHostile _ := true
  modifiedThreat _ threat := threat
  redirection _ := none
  owners _ := []
  isFound _ := true
  isFlyingGameMaster _ := false
  isInAccessablePlace _ := true
  canReachByRangeAttack _ := true
  vehicleOrSelf unit := unit
  isImmunedToDamage _ := false
  hasNegativeAuraWithInterruptFlag _ := false
  isOutOfThreatArea _ := false
  canReachWithMeleeAttack _ := true

/-- Three units are hated, and the first is the victim; then the third is hated more. -/
theorem threatOrder_maintained_third :
    let calls : List (ThreatCall ℚ) := [.addThreat openField ⟨2, by decide⟩ 100,
      .addThreat openField ⟨3, by decide⟩ 80, .addThreat openField ⟨4, by decide⟩ 70,
      .getHostileTarget openField, .addThreat openField ⟨4, by decide⟩ 50]
    let m := Framework.run step (init ⟨1, by decide⟩) calls
    m.ValidVictim openField 0 ∧ m.currentVictim = some 0 ∧
      ∃ r, (m.getHostileTarget openField).currentVictim = some r ∧ (r = 0 ∨ m.Replaces openField m.online 0 r) := by
  intro calls m
  have hvictim : m.currentVictim = some 0 := by decide +kernel
  have hvalid : m.ValidVictim openField 0 := ⟨rfl, rfl⟩
  exact ⟨hvalid, hvictim,
    (threatOrder_maintained ⟨1, by decide⟩ calls (by decide +kernel)).2 openField 0 hvictim hvalid⟩

/-- The threat of the second unit falls below that of the third, and the list is not marked. -/
theorem threatOrder_reduced :
    let m := Framework.run step (init ⟨1, by decide⟩ : ThreatManager ℚ)
      [.addThreat openField ⟨2, by decide⟩ 100, .addThreat openField ⟨3, by decide⟩ 80,
        .addThreat openField ⟨4, by decide⟩ 70, .getHostileTarget openField,
        .addThreat openField ⟨3, by decide⟩ (-50)]
    m.dirty = false ∧ m.online.map (fun id => (m.refs id).threat) = [100, 30, 70] ∧
      ¬ m.Descending m.online := by
  refine ⟨by decide +kernel, by decide +kernel, ?_⟩
  rw [Descending]
  decide +kernel

end Mangos
