import Mangos.Framework.OrdMap
import Mathlib.Data.Int.Order.Basic

/-!
# Actions of a unit

`UnitStateMgr` keeps the actions of a unit under their priorities; the one with the highest priority is the
current one.
-/

namespace Mangos

open Framework Std

inductive UnitActionId
  | idle | doWaypoints | home | chase | assistance | controlled | confused | feared | root | stun
  | feignDeath | onVehicle | taxi | effect
  deriving DecidableEq, Repr

def unitActionPriorityIdle : Int := 0
def unitActionPriorityEnd : Int := 15

/-- The entries of `staticActionInfo`: the priority of an action and whether it is restoreable. -/
def staticActionInfo : UnitActionId → Int × Bool
  | .idle => (0, true)
  | .doWaypoints => (1, false)
  | .home => (2, false)
  | .chase => (3, false)
  | .assistance => (4, false)
  | .controlled => (5, false)
  | .confused => (6, false)
  | .feared => (7, false)
  | .root => (8, true)
  | .stun => (9, true)
  | .feignDeath => (10, false)
  | .onVehicle => (11, false)
  | .taxi => (12, false)
  | .effect => (13, false)

/-- What an action object receives. `destroy` is the end of the last pointer to it. -/
inductive ActionCall
  | init | update | interrupt | reset | finalize | destroy
  deriving DecidableEq, Repr

/-- `ActionInfo`; action objects are known by numbers, and the flags are those of `ActionUpdateState`
that are used. -/
structure ActionInfo where
  id : UnitActionId
  action : Nat
  priority : Int
  restoreable : Bool
  active : Bool := false
  initialized : Bool := false
  interrupted : Bool := false
  finalized : Bool := false
  deriving DecidableEq, Repr

namespace ActionInfo

variable (info : ActionInfo)

/-- `ActionInfo::Initialize`, with the calls to the action. -/
def initializeAction : ActionInfo × List ActionCall :=
  if info.finalized then (info, [])
  else if !info.initialized then
    ({ info with initialized := true, interrupted := false }, [.init])
  else ({ info with interrupted := false }, [.reset])

def interrupt : ActionInfo × List ActionCall :=
  if !info.initialized || info.finalized || info.interrupted then (info, [])
  else ({ info with interrupted := true, active := false }, [.interrupt])

def reset : ActionInfo × List ActionCall :=
  if !info.initialized then (info, [])
  else
    let (info, calls) := if !info.interrupted && info.active then info.interrupt else (info, [])
    ({ info with initialized := false }, calls)

def update : ActionInfo × List ActionCall :=
  let (info, calls) :=
    if !info.initialized || info.interrupted then info.initializeAction else (info, [])
  ({ info with active := true }, calls ++ [.update])

end ActionInfo

/-- `UnitStateMgr`. `nextAction` numbers the action objects, `calls` has the calls that were made, and
`undefined` says that the current action was used when there is none. -/
structure UnitStateMgr where
  actions : ExtTreeMap Int ActionInfo := ∅
  oldAction : Option Nat := none
  needReinit : Bool := false
  nextAction : Nat := 0
  calls : List (Nat × ActionCall) := []
  undefined : Bool := false

namespace UnitStateMgr

variable (m : UnitStateMgr)

/-- `UnitStateMgr::CurrentState`: the entry at `m_actions.rbegin()`. -/
def currentState : Option ActionInfo := (last? m.actions).map (·.2)

def getCurrentState : UnitActionId :=
  match m.currentState with
  | some info => info.id
  | none => .idle

/-- A function of `ActionInfo` is called for the entry at a priority. -/
def apply (priority : Int) (f : ActionInfo → ActionInfo × List ActionCall) : UnitStateMgr :=
  match m.actions[priority]? with
  | none => m
  | some info =>
    { m with
      actions := m.actions.insert priority (f info).1
      calls := m.calls ++ (f info).2.map fun call => (info.action, call) }

/-- `UnitStateMgr::DropAction(UnitActionPriority)`. -/
def dropAction (priority : Int) : UnitStateMgr :=
  if priority < unitActionPriorityIdle then m
  else
    match m.actions[priority]? with
    | none => m
    | some info =>
      let bActiveActionChanged := m.currentState.any fun oldInfo =>
        info.action = oldInfo.action && !oldInfo.finalized
      { m with
        oldAction := if m.oldAction = some info.action then none else m.oldAction
        actions := m.actions.erase priority
        calls := m.calls ++ (if bActiveActionChanged then [(info.action, .finalize)] else [])
          ++ [(info.action, .destroy)] }

def dropActions (priorities : List Int) : UnitStateMgr := priorities.foldl dropAction m

/-- `priorityToDrop` of `UnitStateMgr::DropAction(UnitActionId, UnitActionPriority)`, from its back. -/
def priorityToDrop (actionId : UnitActionId) (priority : Int) : List Int :=
  ((m.actions.toList.filter fun p => p.1 ≤ priority && p.2.id = actionId).map (·.1)).reverse

/-- `UnitStateMgr::DropAction(UnitActionId, UnitActionPriority)`. -/
def dropActionId (actionId : UnitActionId) (priority : Int) : UnitStateMgr :=
  m.dropActions (m.priorityToDrop actionId priority)

/-- The priorities above `priority`. -/
def higherThen (priority : Int) : List Int :=
  (List.range (unitActionPriorityEnd - (priority + 1)).toNat).map fun i => priority + 1 + (i : Int)

def dropActionHigherThen (priority : Int) : UnitStateMgr := m.dropActions (higherThen priority)

def oldPriority : Int :=
  match m.currentState with
  | some info => info.priority
  | none => unitActionPriorityIdle

/-- The start of `PushAction`: the current action is interrupted by another of a higher priority. -/
def interruptFor (actionId : UnitActionId) (priority : Int) : UnitStateMgr :=
  match m.currentState with
  | some oldInfo =>
    if oldInfo.active ∧ oldInfo.id ≠ actionId ∧ oldInfo.priority < priority then
      m.apply oldInfo.priority ActionInfo.interrupt
    else m
  | none => m

/-- The end of `PushAction`. A new object is inserted where no entry is; otherwise nothing points to it. -/
def insertAction (actionId : UnitActionId) (priority : Int) (restoreable : Bool) : UnitStateMgr :=
  let action := m.nextAction
  let m := { m with nextAction := m.nextAction + 1 }
  match m.actions[priority]? with
  | none => { m with actions := m.actions.insert priority ⟨actionId, action, priority, restoreable,
      false, false, false, false⟩ }
  | some info =>
    if restoreable ∧ info.id = actionId then m.apply priority ActionInfo.reset else m

/-- `UnitStateMgr::PushAction` of a new action object. -/
def pushAction (actionId : UnitActionId) (priority : Int) (restoreable : Bool) : UnitStateMgr :=
  let m' := m.interruptFor actionId priority
  let m' :=
    if unitActionPriorityIdle < m.oldPriority then
      m'.dropActions (m'.priorityToDrop actionId priority ++ [priority])
    else m'
  m'.insertAction actionId priority restoreable

/-- The end of `DropAllStates`. -/
def pushIdle : UnitStateMgr :=
  if m.actions.isEmpty ∨ m.getCurrentState ≠ .idle then
    m.pushAction .idle (staticActionInfo .idle).1 (staticActionInfo .idle).2
  else m

/-- The start of `DropAllStates`: a single action is taken for the idle one. -/
def dropActive : UnitStateMgr :=
  if 1 < m.actions.size then m.dropActionHigherThen unitActionPriorityIdle else m

def dropAllStates : UnitStateMgr := m.dropActive.pushIdle

def initDefaults (immediate : Bool) : UnitStateMgr :=
  if immediate then { m with oldAction := none }.dropAllStates
  else { m with needReinit := true }

/-- The start of `Update`. -/
def reinit : UnitStateMgr :=
  if m.needReinit then { m with needReinit := false }.initDefaults true else m

/-- The entry that `GetAction(UnitActionPtr)` finds. -/
def getAction (action : Nat) : Option ActionInfo :=
  (m.actions.toList.find? fun p => p.2.action = action).map (·.2)

/-- The middle of `Update`: an action that was current at the last tick is interrupted. -/
def switchTo (state : ActionInfo) : UnitStateMgr :=
  match m.oldAction with
  | none => { m with oldAction := some state.action }
  | some old =>
    if old = state.action then m
    else
      let m' :=
        match m.getAction old with
        | some oldAction =>
          if oldAction.active && !oldAction.finalized && !oldAction.interrupted then
            m.apply oldAction.priority ActionInfo.interrupt
          else m
        | none => m
      { m' with oldAction := some state.action }

/-- `UnitStateMgr::Update`; `goesOn` is what the `Update` of the action returns. -/
def update (goesOn : Bool) : UnitStateMgr :=
  let m := m.reinit
  match m.currentState with
  | none => { m with undefined := true }
  | some state =>
    let m := (m.switchTo state).apply state.priority ActionInfo.update
    if goesOn then m else m.dropAction state.priority

def new : UnitStateMgr := ({} : UnitStateMgr).initDefaults true

end UnitStateMgr

/-- The operations of a manager. -/
inductive StateMgrOp
  | push (actionId : UnitActionId) (priority : Int) (restoreable : Bool)
  | dropId (actionId : UnitActionId) (priority : Int)
  | drop (priority : Int)
  | dropHigherThen (priority : Int)
  | dropAll
  | initDefaults (immediate : Bool)
  | update (goesOn : Bool)

namespace UnitStateMgr

def step (m : UnitStateMgr) : StateMgrOp → UnitStateMgr
  | .push actionId priority restoreable => m.pushAction actionId priority restoreable
  | .dropId actionId priority => m.dropActionId actionId priority
  | .drop priority => m.dropAction priority
  | .dropHigherThen priority => m.dropActionHigherThen priority
  | .dropAll => m.dropAllStates
  | .initDefaults immediate => m.initDefaults immediate
  | .update goesOn => m.update goesOn

end UnitStateMgr

end Mangos
