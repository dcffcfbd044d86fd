import Mangos.Framework.Trace
import Mangos.Unit.StateMgr

/-!
# The lifecycle of actions

Every action object is initialized before anything else, finalized once, and destroyed only after that if it
was initialized.
-/

namespace Mangos

open Framework Std

def MayReceive (before : List (Nat × ActionCall)) (c : Nat × ActionCall) : Prop :=
  match c.2 with
  | .init => (c.1, .finalize) ∉ before ∧ (c.1, .destroy) ∉ before
  | .destroy => (c.1, .init) ∈ before → (c.1, .finalize) ∈ before
  | _ => (c.1, .init) ∈ before ∧ (c.1, .finalize) ∉ before ∧ (c.1, .destroy) ∉ before

def ActionInfo.started (info : ActionInfo) : Bool := info.initialized || info.interrupted

namespace UnitStateMgr

def isCurrent (m : UnitStateMgr) (info : ActionInfo) : Bool :=
  m.currentState.any fun state => info.action = state.action

def CleanDrop (m : UnitStateMgr) (priority : Int) : Prop :=
  unitActionPriorityIdle ≤ priority → ∀ info, m.actions[priority]? = some info → m.isCurrent info = info.started

def CleanDrops (m : UnitStateMgr) (priorities : List Int) : Prop :=
  Guarded dropAction CleanDrop m priorities

def CleanPush (m : UnitStateMgr) (actionId : UnitActionId) (priority : Int) : Prop :=
  unitActionPriorityIdle < m.oldPriority → (m.interruptFor actionId priority).CleanDrops
      ((m.interruptFor actionId priority).priorityToDrop actionId priority ++ [priority])

/-- The drops of `DropAllStates` are clean, those of the push of the idle action included. -/
def CleanDropAll (m : UnitStateMgr) : Prop :=
  (1 < m.actions.size → m.CleanDrops (higherThen unitActionPriorityIdle)) ∧
    (m.dropActive.actions.isEmpty ∨ m.dropActive.getCurrentState ≠ .idle →
      m.dropActive.CleanPush .idle (staticActionInfo .idle).1)

/-- Every drop of the operation is clean, and a tick finds an action. -/
def CleanStep (m : UnitStateMgr) : StateMgrOp → Prop
  | .push actionId priority _ => m.CleanPush actionId priority
  | .dropId actionId priority => m.CleanDrops (m.priorityToDrop actionId priority)
  | .drop priority => m.CleanDrop priority
  | .dropHigherThen priority => m.CleanDrops (higherThen priority)
  | .dropAll => m.CleanDropAll
  | .initDefaults immediate => immediate → { m with oldAction := none }.CleanDropAll
  | .update _ =>
    (m.needReinit → { m with needReinit := false, oldAction := none }.CleanDropAll) ∧
      m.reinit.currentState.isSome

/-- The calls follow the lifecycle, and no action was used where there is none. -/
structure Proper (m : UnitStateMgr) : Prop where
  obeys : Obeys MayReceive m.calls
  defined : m.undefined = false

/-- An entry whose object was neither finalized nor destroyed, with flags that tell whether it was
initialized. -/
structure Live (calls : List (Nat × ActionCall)) (info : ActionInfo) : Prop where
  unfinished : (info.action, .finalize) ∉ calls
  alive : (info.action, .destroy) ∉ calls
  started : (info.action, .init) ∈ calls ↔ info.started
  finalized : info.finalized = false
  active : info.initialized → info.interrupted = false → info.active

structure Inv (m : UnitStateMgr) : Prop extends m.Proper where
  key : ∀ (p : Int) (info : ActionInfo), m.actions[p]? = some info → info.priority = p
  distinct : ∀ (p q : Int) (i j : ActionInfo), m.actions[p]? = some i → m.actions[q]? = some j →
    i.action = j.action → p = q
  live : ∀ (p : Int) (info : ActionInfo), m.actions[p]? = some info → Live m.calls info
  fresh : ∀ (p : Int) (info : ActionInfo), m.actions[p]? = some info → info.action < m.nextAction
  freshCalls : ∀ c ∈ m.calls, c.1 < m.nextAction

/-- Calls that an object may receive, given whether it was initialized before, none of them final. -/
def Steady : Bool → List ActionCall → Prop
  | _, [] => True
  | started, c :: cs =>
    (c = .init ∨ started = true ∧ (c = .update ∨ c = .interrupt ∨ c = .reset)) ∧ Steady (started || c = .init) cs

theorem Steady.obeys {calls : List (Nat × ActionCall)} {o : Nat} {started : Bool}
    {cs : List ActionCall} (hsteady : Steady started cs) (hobeys : Obeys MayReceive calls)
    (hfin : (o, .finalize) ∉ calls) (hdes : (o, .destroy) ∉ calls)
    (hinit : (o, .init) ∈ calls ↔ started) : Obeys MayReceive (calls ++ cs.map fun call => (o, call)) ∧
      (o, .finalize) ∉ calls ++ cs.map (fun call => (o, call)) ∧
      (o, .destroy) ∉ calls ++ cs.map (fun call => (o, call)) ∧
      ((o, .init) ∈ calls ++ cs.map (fun call => (o, call)) ↔ (started || decide (.init ∈ cs)) = true) := by
  induction cs generalizing calls started with
  | nil => simpa using ⟨hobeys, hfin, hdes, hinit⟩
  | cons c cs ih =>
    obtain ⟨hc, hrest⟩ := hsteady
    have hne : c ≠ .finalize ∧ c ≠ .destroy := by
      rcases hc with rfl | ⟨-, rfl | rfl | rfl⟩ <;> simp
    have hallowed : MayReceive calls (o, c) := by
      rcases hc with rfl | ⟨hstarted, rfl | rfl | rfl⟩
      · exact ⟨hfin, hdes⟩
      · exact ⟨hinit.mpr hstarted, hfin, hdes⟩
      · exact ⟨hinit.mpr hstarted, hfin, hdes⟩
      · exact ⟨hinit.mpr hstarted, hfin, hdes⟩
    have hstart : (o, .init) ∈ calls ++ [(o, c)] ↔ (started || decide (c = .init)) = true := by
      simp only [List.mem_append, hinit, List.mem_singleton, Prod.mk.injEq, true_and,
        Bool.or_eq_true, decide_eq_true_eq]
      exact or_congr Iff.rfl eq_comm
    have hnext := ih hrest (obeys_concat.mpr ⟨hobeys, hallowed⟩)
      (by simp [hfin, hne.1.symm]) (by simp [hdes, hne.2.symm]) hstart
    have hlist : calls ++ (c :: cs).map (fun call => (o, call)) =
        calls ++ [(o, c)] ++ cs.map fun call => (o, call) := by simp
    rw [hlist]
    refine ⟨hnext.1, hnext.2.1, hnext.2.2.1, hnext.2.2.2.trans ?_⟩
    simp only [Bool.or_eq_true, decide_eq_true_eq, List.mem_cons, or_assoc]
    exact or_congr Iff.rfl (or_congr eq_comm Iff.rfl)

/-- What the functions of `ActionInfo` do to an entry that is not finalized. -/
structure StepsInfo (f : ActionInfo → ActionInfo × List ActionCall) : Prop where
  action : ∀ info, (f info).1.action = info.action
  priority : ∀ info, (f info).1.priority = info.priority
  finalized : ∀ info, info.finalized = false → (f info).1.finalized = false
  active : ∀ info, info.finalized = false → (info.initialized → info.interrupted = false → info.active) →
    (f info).1.initialized → (f info).1.interrupted = false → (f info).1.active
  steady : ∀ info, info.finalized = false → Steady info.started (f info).2
  started : ∀ info, info.finalized = false → (info.initialized → info.interrupted = false → info.active) →
    (f info).1.started = (info.started || decide (.init ∈ (f info).2))

theorem stepsInfo_interrupt : StepsInfo ActionInfo.interrupt := by
  constructor
  all_goals
    rintro ⟨id, action, priority, restoreable, active, initialized, interrupted, finalized⟩
    cases active <;> cases initialized <;> cases interrupted <;> cases finalized <;>
      simp [ActionInfo.interrupt, ActionInfo.started, Steady]

theorem stepsInfo_reset : StepsInfo ActionInfo.reset := by
  constructor
  all_goals
    rintro ⟨id, action, priority, restoreable, active, initialized, interrupted, finalized⟩
    cases active <;> cases initialized <;> cases interrupted <;> cases finalized <;>
      simp [ActionInfo.reset, ActionInfo.interrupt, ActionInfo.started, Steady]

theorem stepsInfo_update : StepsInfo ActionInfo.update := by
  constructor
  all_goals
    rintro ⟨id, action, priority, restoreable, active, initialized, interrupted, finalized⟩
    cases active <;> cases initialized <;> cases interrupted <;> cases finalized <;>
      simp [ActionInfo.update, ActionInfo.initializeAction, ActionInfo.started, Steady]

theorem update_started (info : ActionInfo) (h : info.finalized = false) : (info.update).1.started = true := by
  obtain ⟨id, action, priority, restoreable, active, initialized, interrupted, finalized⟩ := info
  cases initialized <;> cases interrupted <;> cases finalized <;>
    simp_all [ActionInfo.update, ActionInfo.initializeAction, ActionInfo.started]

variable {m : UnitStateMgr}

theorem lookup_of_currentState {info : ActionInfo} (h : m.currentState = some info) :
    ∃ p : Int, last? m.actions = some (p, info) ∧ m.actions[p]? = some info := by
  obtain ⟨p, hp, rfl⟩ := Option.map_eq_some_iff.mp h
  exact ⟨p.1, hp, lookup_of_last? hp⟩

theorem Live.other {calls : List (Nat × ActionCall)} {info : ActionInfo} {o : Nat}
    (h : Live calls info) (hne : info.action ≠ o) (cs : List ActionCall) :
    Live (calls ++ cs.map fun call => (o, call)) info := by
  have hmem : ∀ c, (info.action, c) ∈ calls ++ cs.map (fun call => (o, call)) ↔ (info.action, c) ∈ calls := by
    intro c
    simp [Ne.symm hne]
  refine ⟨?_, ?_, ?_, h.finalized, h.active⟩
  · rw [hmem]
    exact h.unfinished
  · rw [hmem]
    exact h.alive
  · rw [hmem]
    exact h.started

theorem Inv.apply (h : m.Inv) {f : ActionInfo → ActionInfo × List ActionCall} (hf : StepsInfo f)
    (priority : Int) : (m.apply priority f).Inv := by
  unfold UnitStateMgr.apply
  split
  next => exact h
  next info hinfo =>
    have hlive := h.live priority info hinfo
    have hcalls := (hf.steady info hlive.finalized).obeys h.obeys hlive.unfinished hlive.alive
      hlive.started
    have hnew : Live (m.calls ++ (f info).2.map fun call => (info.action, call)) (f info).1 := by
      refine ⟨?_, ?_, ?_, hf.finalized info hlive.finalized, hf.active info hlive.finalized hlive.active⟩
      · rw [hf.action]
        exact hcalls.2.1
      · rw [hf.action]
        exact hcalls.2.2.1
      · rw [hf.action, hf.started info hlive.finalized hlive.active]
        exact hcalls.2.2.2
    have hcase : ∀ (p : Int) (i : ActionInfo), (m.actions.insert priority (f info).1)[p]? = some i →
        (p = priority ∧ i = (f info).1) ∨ p ≠ priority ∧ m.actions[p]? = some i := by
      intro p i hi
      rw [lookup_insert] at hi
      split at hi
      next heq =>
        cases hi
        exact .inl ⟨heq.symm, rfl⟩
      next hne => exact .inr ⟨Ne.symm hne, hi⟩
    refine ⟨⟨hcalls.1, h.defined⟩, ?_, ?_, ?_, ?_, ?_⟩
    · intro p i hi
      rcases hcase p i hi with ⟨rfl, rfl⟩ | ⟨-, hold⟩
      · rw [hf.priority]
        exact h.key p info hinfo
      · exact h.key p i hold
    · intro p q i j hi hj heq
      rcases hcase p i hi with ⟨rfl, rfl⟩ | ⟨-, hi'⟩
      · rcases hcase q j hj with ⟨rfl, rfl⟩ | ⟨-, hj'⟩
        · rfl
        · rw [hf.action] at heq
          exact h.distinct p q info j hinfo hj' heq
      · rcases hcase q j hj with ⟨rfl, rfl⟩ | ⟨-, hj'⟩
        · rw [hf.action] at heq
          exact h.distinct p q i info hi' hinfo heq
        · exact h.distinct p q i j hi' hj' heq
    · intro p i hi
      rcases hcase p i hi with ⟨-, rfl⟩ | ⟨hne, hold⟩
      · exact hnew
      · apply (h.live p i hold).other
        exact fun heq => hne (h.distinct p priority i info hold hinfo heq)
    · intro p i hi
      rcases hcase p i hi with ⟨-, rfl⟩ | ⟨-, hold⟩
      · rw [hf.action]
        exact h.fresh priority info hinfo
      · exact h.fresh p i hold
    · intro c hc
      rcases List.mem_append.mp hc with hold | hnew
      · exact h.freshCalls c hold
      · obtain ⟨call, -, rfl⟩ := List.mem_map.mp hnew
        exact h.fresh priority info hinfo

theorem dropAction_of_lookup {priority : Int} {info : ActionInfo} (h : m.Inv)
    (hidle : unitActionPriorityIdle ≤ priority) (hinfo : m.actions[priority]? = some info) :
    m.dropAction priority = { m with
      oldAction := if m.oldAction = some info.action then none else m.oldAction
      actions := m.actions.erase priority
      calls := m.calls ++ (if m.isCurrent info then [(info.action, .finalize)] else []) ++
        [(info.action, .destroy)] } := by
  have hcurrent : (m.currentState.any fun oldInfo =>
      info.action = oldInfo.action && !oldInfo.finalized) = m.isCurrent info := by
    unfold isCurrent
    cases hstate : m.currentState with
    | none => rfl
    | some state =>
      obtain ⟨p, -, hp⟩ := lookup_of_currentState hstate
      simp [(h.live p state hp).finalized]
  unfold UnitStateMgr.dropAction
  rw [if_neg (by omega), hinfo]
  dsimp only
  rw [hcurrent]

theorem Inv.dropAction (h : m.Inv) {priority : Int} (hclean : m.CleanDrop priority) : (m.dropAction priority).Inv := by
  by_cases hidle : unitActionPriorityIdle ≤ priority
  · cases hinfo : m.actions[priority]? with
    | none =>
      have hsame : m.dropAction priority = m := by
        simp [UnitStateMgr.dropAction, hinfo]
      rw [hsame]
      exact h
    | some info =>
      rw [dropAction_of_lookup h hidle hinfo]
      have hlive := h.live priority info hinfo
      have hclean' := hclean hidle info hinfo
      have hold : ∀ (p : Int) (i : ActionInfo), (m.actions.erase priority)[p]? = some i →
          p ≠ priority ∧ m.actions[p]? = some i := by
        intro p i hi
        rw [lookup_erase] at hi
        split at hi
        next => cases hi
        next hne => exact ⟨Ne.symm hne, hi⟩
      have hfinal : (m.calls ++ (if m.isCurrent info then [(info.action, .finalize)] else []) ++
          [(info.action, .destroy)]) = m.calls ++
            ((if m.isCurrent info then [ActionCall.finalize] else []) ++ [ActionCall.destroy]).map
              fun call => (info.action, call) := by
        cases m.isCurrent info <;> simp
      have hobeys : Obeys MayReceive (m.calls ++
          (if m.isCurrent info then [(info.action, .finalize)] else []) ++ [(info.action, .destroy)]) := by
        cases hcur : m.isCurrent info with
        | true =>
          have hstarted : (info.action, .init) ∈ m.calls :=
            hlive.started.mpr (hclean' ▸ hcur)
          have hfin : Obeys MayReceive (m.calls ++ [(info.action, .finalize)]) :=
            obeys_concat.mpr ⟨h.obeys, hstarted, hlive.unfinished, hlive.alive⟩
          simp only [if_true]
          exact obeys_concat.mpr ⟨hfin, fun _ => by simp⟩
        | false =>
          have hnot : (info.action, .init) ∉ m.calls := by
            intro hmem
            have := hlive.started.mp hmem
            rw [← hclean', hcur] at this
            cases this
          simp only [Bool.false_eq_true, if_false, List.append_nil]
          exact obeys_concat.mpr ⟨h.obeys, fun hmem => absurd hmem hnot⟩
      refine ⟨⟨hobeys, h.defined⟩, ?_, ?_, ?_, ?_, ?_⟩
      · exact fun p i hi => h.key p i (hold p i hi).2
      · exact fun p q i j hi hj => h.distinct p q i j (hold p i hi).2 (hold q j hj).2
      · intro p i hi
        obtain ⟨hne, hi'⟩ := hold p i hi
        dsimp only
        rw [hfinal]
        apply (h.live p i hi').other
        exact fun heq => hne (h.distinct p priority i info hi' hinfo heq)
      · exact fun p i hi => h.fresh p i (hold p i hi).2
      · intro c hc
        dsimp only at hc
        rw [hfinal] at hc
        rcases List.mem_append.mp hc with hbefore | hnew
        · exact h.freshCalls c hbefore
        · obtain ⟨call, -, rfl⟩ := List.mem_map.mp hnew
          exact h.fresh priority info hinfo
  · have hsame : m.dropAction priority = m := by
      simp [UnitStateMgr.dropAction, Int.not_le.mp hidle]
    rw [hsame]
    exact h

theorem Inv.not_obeys_dropAction (h : m.Inv) {priority : Int} (hbad : ¬ m.CleanDrop priority) :
    ¬ Obeys MayReceive (m.dropAction priority).calls := by
  unfold CleanDrop at hbad
  push Not at hbad
  obtain ⟨hidle, info, hinfo, hne⟩ := hbad
  rw [dropAction_of_lookup h hidle hinfo]
  have hlive := h.live priority info hinfo
  intro hobeys
  cases hcur : m.isCurrent info with
  | true =>
    simp only [hcur, if_true] at hobeys
    obtain ⟨hinit, -⟩ := hobeys.of_append.last
    exact hne (hcur.trans (hlive.started.mp hinit).symm)
  | false =>
    simp only [hcur, Bool.false_eq_true, if_false, List.append_nil] at hobeys
    have hstarted : info.started = true := by
      rw [hcur] at hne
      simpa using Ne.symm hne
    exact hlive.unfinished (hobeys.last (hlive.started.mpr hstarted))

theorem calls_dropAction (m : UnitStateMgr) (priority : Int) : m.calls <+: (m.dropAction priority).calls := by
  unfold UnitStateMgr.dropAction
  split
  next => exact List.prefix_refl _
  next =>
    split
    next => exact List.prefix_refl _
    next => exact (List.prefix_append _ _).trans (List.prefix_append _ _)

theorem calls_dropActions (m : UnitStateMgr) (ps : List Int) : m.calls <+: (m.dropActions ps).calls := by
  induction ps generalizing m with
  | nil => exact List.prefix_refl _
  | cons p ps ih => exact (calls_dropAction m p).trans (ih (m.dropAction p))

theorem Inv.dropActions (h : m.Inv) {ps : List Int} (hclean : m.CleanDrops ps) : (m.dropActions ps).Inv :=
  run_invariant (fun _ _ hok hinv => hinv.dropAction hok) hclean h

theorem Inv.not_obeys_dropActions (h : m.Inv) {ps : List Int} (hbad : ¬ m.CleanDrops ps) :
    ¬ Obeys MayReceive (m.dropActions ps).calls := by
  induction ps generalizing m with
  | nil => exact absurd trivial hbad
  | cons p ps ih =>
    by_cases hclean : m.CleanDrop p
    · exact ih (h.dropAction hclean) fun hrest => hbad ⟨hclean, hrest⟩
    · exact not_obeys_of_prefix (calls_dropActions (m.dropAction p) ps)
        (h.not_obeys_dropAction hclean)

theorem calls_apply (m : UnitStateMgr) (priority : Int)
    (f : ActionInfo → ActionInfo × List ActionCall) : m.calls <+: (m.apply priority f).calls := by
  unfold UnitStateMgr.apply
  split
  · exact List.prefix_refl _
  · exact List.prefix_append _ _

theorem Inv.interruptFor (h : m.Inv) (actionId : UnitActionId) (priority : Int) :
    (m.interruptFor actionId priority).Inv := by
  unfold UnitStateMgr.interruptFor
  split
  next =>
    split
    next => exact h.apply stepsInfo_interrupt _
    next => exact h
  next => exact h

theorem Inv.insertAction (h : m.Inv) (actionId : UnitActionId) (priority : Int)
    (restoreable : Bool) : (m.insertAction actionId priority restoreable).Inv := by
  have hnext : { m with nextAction := m.nextAction + 1 }.Inv :=
    ⟨⟨h.obeys, h.defined⟩, h.key, h.distinct, h.live, fun p i hi => Nat.lt_succ_of_lt (h.fresh p i hi),
      fun c hc => Nat.lt_succ_of_lt (h.freshCalls c hc)⟩
  unfold UnitStateMgr.insertAction
  dsimp only
  split
  next hnone =>
    have hnew : ∀ call, (m.nextAction, call) ∉ m.calls :=
      fun call hmem => Nat.lt_irrefl _ (h.freshCalls _ hmem)
    have hcase : ∀ (p : Int) (i : ActionInfo),
        (m.actions.insert priority ⟨actionId, m.nextAction, priority, restoreable, false, false,
          false, false⟩)[p]? = some i →
        (p = priority ∧ i = ⟨actionId, m.nextAction, priority, restoreable, false, false, false,
          false⟩) ∨ m.actions[p]? = some i := by
      intro p i hi
      rw [lookup_insert] at hi
      split at hi
      next heq =>
        cases hi
        exact .inl ⟨heq.symm, rfl⟩
      next => exact .inr hi
    refine ⟨⟨h.obeys, h.defined⟩, ?_, ?_, ?_, ?_, hnext.freshCalls⟩
    · intro p i hi
      rcases hcase p i hi with ⟨rfl, rfl⟩ | hold
      · rfl
      · exact h.key p i hold
    · intro p q i j hi hj heq
      rcases hcase p i hi with ⟨rfl, rfl⟩ | hi'
      · rcases hcase q j hj with ⟨rfl, rfl⟩ | hj'
        · rfl
        · exact absurd heq (Nat.ne_of_gt (h.fresh q j hj'))
      · rcases hcase q j hj with ⟨rfl, rfl⟩ | hj'
        · exact absurd heq (Nat.ne_of_lt (h.fresh p i hi'))
        · exact h.distinct p q i j hi' hj' heq
    · intro p i hi
      rcases hcase p i hi with ⟨rfl, rfl⟩ | hold
      · exact ⟨hnew _, hnew _, by simp [hnew, ActionInfo.started], rfl, by simp⟩
      · exact h.live p i hold
    · intro p i hi
      rcases hcase p i hi with ⟨rfl, rfl⟩ | hold
      · exact Nat.lt_succ_self _
      · exact Nat.lt_succ_of_lt (h.fresh p i hold)
  next =>
    split
    next => exact hnext.apply stepsInfo_reset priority
    next => exact hnext

theorem calls_insertAction (m : UnitStateMgr) (actionId : UnitActionId) (priority : Int)
    (restoreable : Bool) : m.calls <+: (m.insertAction actionId priority restoreable).calls := by
  unfold UnitStateMgr.insertAction
  dsimp only
  split
  next => exact List.prefix_refl _
  next =>
    split
    next => exact calls_apply { m with nextAction := m.nextAction + 1 } _ _
    next => exact List.prefix_refl _

theorem Inv.pushAction (h : m.Inv) {actionId : UnitActionId} {priority : Int}
    (restoreable : Bool) (hclean : m.CleanPush actionId priority) :
    (m.pushAction actionId priority restoreable).Inv := by
  unfold UnitStateMgr.pushAction
  dsimp only
  split
  next hidle => exact ((h.interruptFor actionId priority).dropActions (hclean hidle)).insertAction ..
  next => exact (h.interruptFor actionId priority).insertAction ..

theorem Inv.not_obeys_pushAction (h : m.Inv) {actionId : UnitActionId} {priority : Int}
    (restoreable : Bool) (hbad : ¬ m.CleanPush actionId priority) :
    ¬ Obeys MayReceive (m.pushAction actionId priority restoreable).calls := by
  unfold CleanPush at hbad
  push Not at hbad
  obtain ⟨hidle, hdrops⟩ := hbad
  unfold UnitStateMgr.pushAction
  dsimp only
  rw [if_pos hidle]
  exact not_obeys_of_prefix (calls_insertAction _ _ _ _)
    ((h.interruptFor actionId priority).not_obeys_dropActions hdrops)

theorem Inv.dropActive (h : m.Inv) (hclean : 1 < m.actions.size → m.CleanDrops (higherThen unitActionPriorityIdle)) :
    m.dropActive.Inv := by
  unfold UnitStateMgr.dropActive
  split
  next hsize => exact h.dropActions (hclean hsize)
  next => exact h

theorem Inv.dropAllStates (h : m.Inv) (hclean : m.CleanDropAll) : m.dropAllStates.Inv := by
  have hdrop := h.dropActive hclean.1
  unfold UnitStateMgr.dropAllStates UnitStateMgr.pushIdle
  split
  next hpush => exact hdrop.pushAction _ (hclean.2 hpush)
  next => exact hdrop

theorem calls_interruptFor (m : UnitStateMgr) (actionId : UnitActionId) (priority : Int) :
    m.calls <+: (m.interruptFor actionId priority).calls := by
  unfold UnitStateMgr.interruptFor
  split
  next =>
    split
    next => exact calls_apply m _ _
    next => exact List.prefix_refl _
  next => exact List.prefix_refl _

theorem calls_pushAction (m : UnitStateMgr) (actionId : UnitActionId) (priority : Int)
    (restoreable : Bool) : m.calls <+: (m.pushAction actionId priority restoreable).calls := by
  have hfirst := calls_interruptFor m actionId priority
  unfold UnitStateMgr.pushAction
  dsimp only
  split
  next =>
    exact (hfirst.trans (calls_dropActions _ _)).trans (calls_insertAction _ _ _ _)
  next => exact hfirst.trans (calls_insertAction _ _ _ _)

theorem calls_pushIdle (m : UnitStateMgr) : m.calls <+: m.pushIdle.calls := by
  unfold UnitStateMgr.pushIdle
  split
  · exact calls_pushAction m _ _ _
  · exact List.prefix_refl _

theorem Inv.not_obeys_dropAllStates (h : m.Inv) (hbad : ¬ m.CleanDropAll) :
    ¬ Obeys MayReceive m.dropAllStates.calls := by
  unfold UnitStateMgr.dropAllStates
  by_cases hfirst : 1 < m.actions.size → m.CleanDrops (higherThen unitActionPriorityIdle)
  · have hdrop := h.dropActive hfirst
    have hsecond : ¬ (m.dropActive.actions.isEmpty ∨ m.dropActive.getCurrentState ≠ .idle →
        m.dropActive.CleanPush .idle (staticActionInfo .idle).1) :=
      fun hpush => hbad ⟨hfirst, hpush⟩
    push Not at hsecond
    obtain ⟨hpush, hdirty⟩ := hsecond
    unfold UnitStateMgr.pushIdle
    rw [if_pos hpush]
    exact hdrop.not_obeys_pushAction _ hdirty
  · push Not at hfirst
    obtain ⟨hsize, hdirty⟩ := hfirst
    apply not_obeys_of_prefix (calls_pushIdle m.dropActive)
    unfold UnitStateMgr.dropActive
    rw [if_pos hsize]
    exact h.not_obeys_dropActions hdirty

theorem Inv.withoutOld (h : m.Inv) (needReinit : Bool) : { m with needReinit, oldAction := none }.Inv :=
  ⟨⟨h.obeys, h.defined⟩, h.key, h.distinct, h.live, h.fresh, h.freshCalls⟩

theorem reinit_eq (h : m.needReinit = true) :
    m.reinit = { m with needReinit := false, oldAction := none }.dropAllStates := by
  simp [reinit, h, initDefaults]

theorem Inv.reinit (h : m.Inv)
    (hclean : m.needReinit → { m with needReinit := false, oldAction := none }.CleanDropAll) :
    m.reinit.Inv := by
  cases hneed : m.needReinit with
  | true =>
    rw [reinit_eq hneed]
    exact (h.withoutOld false).dropAllStates (hclean hneed)
  | false =>
    have hsame : m.reinit = m := by simp [UnitStateMgr.reinit, hneed]
    rw [hsame]
    exact h

theorem Inv.congrOld (h : m.Inv) (oldAction : Option Nat) : { m with oldAction }.Inv :=
  ⟨⟨h.obeys, h.defined⟩, h.key, h.distinct, h.live, h.fresh, h.freshCalls⟩

theorem Inv.switchTo (h : m.Inv) (state : ActionInfo) : (m.switchTo state).Inv := by
  unfold UnitStateMgr.switchTo
  split
  next => exact h.congrOld _
  next =>
    split
    next => exact h
    next =>
      dsimp only
      split
      next =>
        split
        next => exact (h.apply stepsInfo_interrupt _).congrOld _
        next => exact h.congrOld _
      next => exact h.congrOld _

theorem lookup_of_getAction {action : Nat} {info : ActionInfo} (h : m.getAction action = some info) :
    ∃ p : Int, m.actions[p]? = some info ∧ info.action = action := by
  obtain ⟨p, hp, rfl⟩ := Option.map_eq_some_iff.mp h
  refine ⟨p.1, ExtTreeMap.mem_toList_iff_getElem?_eq_some.mp (List.mem_of_find?_eq_some hp), ?_⟩
  simpa using List.find?_some hp

theorem Inv.last_switchTo (h : m.Inv) {p : Int} {state : ActionInfo}
    (hstate : last? m.actions = some (p, state)) : last? (m.switchTo state).actions = some (p, state) := by
  unfold UnitStateMgr.switchTo
  split
  next => exact hstate
  next old _ =>
    split
    next => exact hstate
    next hne =>
      dsimp only
      split
      next oldAction hold =>
        split
        next =>
          obtain ⟨q, hq, haction⟩ := lookup_of_getAction hold
          have hkey := h.key q oldAction hq
          unfold UnitStateMgr.apply
          rw [hkey, hq]
          apply last?_insert_of_ne hstate hq
          rintro rfl
          rw [lookup_of_last? hstate] at hq
          cases hq
          exact hne haction.symm
        next => exact hstate
      next => exact hstate

theorem Inv.cleanDrop_updated (h : m.Inv) {p : Int} {state : ActionInfo}
    (hstate : last? m.actions = some (p, state)) : (m.apply p ActionInfo.update).CleanDrop p := by
  intro _ info hinfo
  have hlookup := lookup_of_last? hstate
  have hactions : (m.apply p ActionInfo.update).actions = m.actions.insert p (state.update).1 := by
    simp [UnitStateMgr.apply, hlookup]
  rw [hactions, lookup_insert, if_pos rfl] at hinfo
  cases hinfo
  have hlast : (m.apply p ActionInfo.update).currentState = some (state.update).1 := by
    rw [currentState, hactions, last?_insert_self hstate]
    rfl
  rw [update_started state (h.live p state hlookup).finalized]
  simp [isCurrent, hlast]

theorem calls_switchTo (m : UnitStateMgr) (state : ActionInfo) : m.calls <+: (m.switchTo state).calls := by
  unfold UnitStateMgr.switchTo
  split
  next => exact List.prefix_refl _
  next =>
    split
    next => exact List.prefix_refl _
    next =>
      dsimp only
      split
      next =>
        split
        next => exact calls_apply m _ _
        next => exact List.prefix_refl _
      next => exact List.prefix_refl _

theorem calls_update (m : UnitStateMgr) (goesOn : Bool) : m.reinit.calls <+: (m.update goesOn).calls := by
  unfold UnitStateMgr.update
  dsimp only
  split
  next => exact List.prefix_refl _
  next state _ =>
    have hfirst := (calls_switchTo m.reinit state).trans
      (calls_apply (m.reinit.switchTo state) state.priority ActionInfo.update)
    split
    next => exact hfirst
    next => exact hfirst.trans (calls_dropAction _ _)

theorem Inv.update (h : m.Inv) {goesOn : Bool} (hclean : m.CleanStep (.update goesOn)) : (m.update goesOn).Inv := by
  have hreinit := h.reinit hclean.1
  obtain ⟨state, hstate⟩ := Option.isSome_iff_exists.mp hclean.2
  obtain ⟨p, hlast, hp⟩ := lookup_of_currentState hstate
  have hswitched := hreinit.switchTo state
  have hkey := hreinit.key p state hp
  unfold UnitStateMgr.update
  dsimp only
  rw [hstate]
  dsimp only
  rw [hkey]
  have hupdated := hswitched.apply stepsInfo_update p
  split
  next => exact hupdated
  next => exact hupdated.dropAction (hswitched.cleanDrop_updated (hreinit.last_switchTo hlast))

theorem Inv.step (h : m.Inv) (op : StateMgrOp) (hclean : m.CleanStep op) : (m.step op).Inv := by
  cases op with
  | push actionId priority restoreable => exact h.pushAction restoreable hclean
  | dropId actionId priority => exact h.dropActions hclean
  | drop priority => exact h.dropAction hclean
  | dropHigherThen priority => exact h.dropActions hclean
  | dropAll => exact h.dropAllStates hclean
  | initDefaults immediate =>
    cases immediate with
    | true => exact (h.congrOld none).dropAllStates (hclean rfl)
    | false =>
      exact ⟨⟨h.obeys, h.defined⟩, h.key, h.distinct, h.live, h.fresh, h.freshCalls⟩
  | update goesOn => exact h.update hclean

theorem Inv.not_proper_step (h : m.Inv) (op : StateMgrOp) (hbad : ¬ m.CleanStep op) : ¬ (m.step op).Proper := by
  intro hproper
  cases op with
  | push actionId priority restoreable =>
    exact h.not_obeys_pushAction restoreable hbad hproper.obeys
  | dropId actionId priority => exact h.not_obeys_dropActions hbad hproper.obeys
  | drop priority => exact h.not_obeys_dropAction hbad hproper.obeys
  | dropHigherThen priority => exact h.not_obeys_dropActions hbad hproper.obeys
  | dropAll => exact h.not_obeys_dropAllStates hbad hproper.obeys
  | initDefaults immediate =>
    cases immediate with
    | true =>
      have hdirty : ¬ { m with oldAction := none }.CleanDropAll := fun hclean =>
        hbad fun _ => hclean
      exact (h.congrOld none).not_obeys_dropAllStates hdirty hproper.obeys
    | false => exact hbad nofun
  | update goesOn =>
    by_cases hclean : m.needReinit → { m with needReinit := false, oldAction := none }.CleanDropAll
    · have hnone : m.reinit.currentState = none := by
        by_contra hsome
        exact hbad ⟨hclean, Option.isSome_iff_ne_none.mpr hsome⟩
      have hundefined : (m.step (.update goesOn)).undefined = true := by
        simp [UnitStateMgr.step, UnitStateMgr.update, hnone]
      rw [hproper.defined] at hundefined
      cases hundefined
    · push Not at hclean
      obtain ⟨hneed, hdirty⟩ := hclean
      apply not_obeys_of_prefix (calls_update m goesOn) _ hproper.obeys
      rw [reinit_eq hneed]
      exact (h.withoutOld false).not_obeys_dropAllStates hdirty

theorem inv_new : new.Inv := by
  have hempty : ({} : UnitStateMgr).Inv := by
    refine ⟨⟨obeys_nil, rfl⟩, ?_, ?_, ?_, ?_, ?_⟩
    · intro p info hinfo
      simp at hinfo
    · intro p q i j hi
      simp at hi
    · intro p info hinfo
      simp at hinfo
    · intro p info hinfo
      simp at hinfo
    · intro c hc
      cases hc
  have hclean : ({} : UnitStateMgr).CleanDropAll := by
    refine ⟨fun hsize => absurd hsize (by decide), fun _ hpriority => ?_⟩
    exact absurd hpriority (by decide)
  exact hempty.dropAllStates hclean

/-- The calls to the actions follow the lifecycle in every state that is reached exactly when every drop
is clean. -/
theorem lifecycle_iff (ops : List StateMgrOp) :
    (∀ fs, fs <+: ops → (run step new fs).Proper) ↔ Guarded step CleanStep new ops :=
  run_always_iff (fun _ h => h.toProper) (fun _ op hclean h => h.step op hclean)
    (fun _ op hbad h => h.not_proper_step op hbad) inv_new

theorem finalize_without_init : (run step new [.update true, .push .chase 3 false, .drop 3]).calls =
      [(0, .init), (0, .update), (0, .interrupt), (1, .finalize), (1, .destroy)] := by
  decide +kernel

theorem destroy_without_finalize :
    (run step new [.update true, .push .chase 3 false, .update true, .push .stun 9 true, .drop 3]).calls =
      [(0, .init), (0, .update), (0, .interrupt), (1, .init), (1, .update), (1, .interrupt), (1, .destroy)] := by
  decide +kernel

theorem not_always_proper : (¬ (run step new [.update true, .push .chase 3 false, .drop 3]).Proper) ∧ ¬ (run step new
        [.update true, .push .chase 3 false, .update true, .push .stun 9 true, .drop 3]).Proper := by
  constructor
  · intro h
    have hcalls := h.obeys
    rw [finalize_without_init] at hcalls
    have hfinal := hcalls [(0, .init), (0, .update), (0, .interrupt)] (1, .finalize)
      [(1, .destroy)] rfl
    exact absurd hfinal.1 (by decide)
  · intro h
    have hcalls := h.obeys
    rw [destroy_without_finalize] at hcalls
    have hfinal := hcalls [(0, .init), (0, .update), (0, .interrupt), (1, .init), (1, .update),
      (1, .interrupt)] (1, .destroy) [] rfl
    exact absurd (hfinal (by decide)) (by decide)

end UnitStateMgr

end Mangos
