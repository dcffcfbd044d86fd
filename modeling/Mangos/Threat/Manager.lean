import Mathlib.Data.List.Sort
import Mathlib.Logic.Function.Basic
import Mathlib.Order.Basic

/-!
# The threat of a creature

A creature holds a hostile reference for each unit that it hates, in the list of those that are online or in
the list of the others.
-/

namespace Mangos

/-- Threats are floats. Of their arithmetic nothing is assumed but the order. -/
class ThreatFloat (T : Type*) extends LinearOrder T, Zero T, Add T, Sub T, Neg T, Mul T where
  fabs : T → T
  nullF : T
  c110 : T
  c130 : T
  c140 : T
  percentOf : T → Int → T

open ThreatFloat

abbrev UnitGuid := { guid : Nat // guid ≠ 0 }

/-- A hostile reference. It is valid when it has a target. -/
structure HostileReference (T : Type*) where
  unitGuid : UnitGuid
  threat : T
  tempThreatModifyer : T
  online : Bool := true
  accessible : Bool := true
  valid : Bool := true

/-- What the world around the manager says of the units, during a call. -/
structure ThreatWorld (T : Type*) where
  isGameMaster : UnitGuid → Bool
  isAlive : UnitGuid → Bool
  ownerAlive : Bool
  isHostile : UnitGuid → Bool
  modifiedThreat : UnitGuid → T → T
  redirection : UnitGuid → Option (T × UnitGuid)
  /-- The owner of a unit, the owner of that one, and so on, as long as they are alive. -/
  owners : UnitGuid → List UnitGuid
  isFound : UnitGuid → Bool
  isFlyingGameMaster : UnitGuid → Bool
  isInAccessablePlace : UnitGuid → Bool
  canReachByRangeAttack : UnitGuid → Bool
  /-- The unit, or the hostile vehicle that it is in. -/
  vehicleOrSelf : UnitGuid → UnitGuid
  isImmunedToDamage : UnitGuid → Bool
  hasNegativeAuraWithInterruptFlag : UnitGuid → Bool
  isOutOfThreatArea : UnitGuid → Bool
  canReachWithMeleeAttack : UnitGuid → Bool

def ThreatWorld.isSecondChoiceTarget {T : Type*} (w : ThreatWorld T) (target : UnitGuid)
    (checkThreatArea : Bool) : Bool :=
  w.isImmunedToDamage target || w.hasNegativeAuraWithInterruptFlag target ||
    (checkThreatArea && w.isOutOfThreatArea target)

/-- The threat manager of the unit `owner`, with the two containers and the references, of which those from
`next` on are not yet made. -/
structure ThreatManager (T : Type*) where
  owner : UnitGuid
  refs : Nat → HostileReference T
  next : Nat
  online : List Nat := []
  offline : List Nat := []
  dirty : Bool := false
  currentVictim : Option Nat := none

/-- The events that a reference fires. -/
inductive ThreatRefEvent (T : Type*)
  | threatChange (value : T)
  | onlineStatus
  | removeFromList
  | accessibleStatus

variable {T : Type*} [ThreatFloat T]

namespace ThreatManager

variable (m : ThreatManager T) (w : ThreatWorld T)

def listed : List Nat := m.online ++ m.offline

def updateRef (id : Nat) (f : HostileReference T → HostileReference T) : ThreatManager T :=
  { m with refs := Function.update m.refs id (f (m.refs id)) }

def getReferenceByTarget (list : List Nat) (victim : UnitGuid) : Option Nat :=
  list.find? fun id => (m.refs id).unitGuid = victim

def processThreatEvent (id : Nat) : ThreatRefEvent T → ThreatManager T
  | .threatChange value =>
    if (m.currentVictim = some id ∧ value < 0) ∨ (m.currentVictim ≠ some id ∧ 0 < value) then
      { m with dirty := true }
    else m
  | .onlineStatus =>
    if (m.refs id).online then
      { m with
        dirty := m.dirty || m.currentVictim.any fun victim =>
          c110 * (m.refs victim).threat < (m.refs id).threat
        online := m.online ++ [id]
        offline := m.offline.filter (· ≠ id) }
    else
      { m with
        dirty := m.dirty || m.currentVictim = some id
        currentVictim := if m.currentVictim = some id then none else m.currentVictim
        online := m.online.filter (· ≠ id)
        offline := m.offline ++ [id] }
  | .removeFromList =>
    let m := { m with
      dirty := m.dirty || m.currentVictim = some id
      currentVictim := if m.currentVictim = some id then none else m.currentVictim }
    if (m.refs id).online then { m with online := m.online.filter (· ≠ id) }
    else { m with offline := m.offline.filter (· ≠ id) }
  | .accessibleStatus => m

def setAccessibleState (id : Nat) (isAccessible : Bool) : ThreatManager T :=
  if (m.refs id).accessible = isAccessible then m
  else (m.updateRef id fun r => { r with accessible := isAccessible }).processThreatEvent id
    .accessibleStatus

def setOnlineOfflineState (id : Nat) (isOnline : Bool) : ThreatManager T :=
  if (m.refs id).online = isOnline then m
  else
    let m := m.updateRef id fun r => { r with online := isOnline }
    let m := if isOnline then m else m.setAccessibleState id false
    m.processThreatEvent id .onlineStatus

def onlineStatus (r : HostileReference T) : Bool × Bool :=
  if r.valid && !w.isFlyingGameMaster r.unitGuid then
    if w.isInAccessablePlace r.unitGuid then (true, true)
    else (w.canReachByRangeAttack r.unitGuid, false)
  else (false, false)

def updateOnlineStatus (id : Nat) : ThreatManager T :=
  let m := m.updateRef id fun r => { r with valid := r.valid || w.isFound r.unitGuid }
  let status := onlineStatus w (m.refs id)
  (m.setAccessibleState id status.2).setOnlineOfflineState id status.1

/-- `Reference::invalidate`: the target is gone. -/
def invalidate (id : Nat) : ThreatManager T :=
  (m.setOnlineOfflineState id false).updateRef id fun r => { r with valid := false }

/-- `HostileReference::removeReference`, and the reference is deleted. -/
def removeReference (id : Nat) : ThreatManager T :=
  (m.invalidate id).processThreatEvent id .removeFromList

/-- `HostileReference::addThreat` up to the threat of the owner. -/
def changeThreat (id : Nat) (mod : T) : ThreatManager T :=
  let m := m.updateRef id fun r => { r with threat := r.threat + mod }
  let m := if (m.refs id).online then m else m.updateOnlineStatus w id
  if nullF < fabs mod then m.processThreatEvent id (.threatChange mod) else m

/-- `HostileReference::addThreat`. The owner of a pet is hated too. -/
def refAddThreat (assist : ThreatManager T → ThreatManager T) (id : Nat) (mod : T) :
    ThreatManager T :=
  let m := m.changeThreat w id mod
  if (m.refs id).valid && 0 ≤ mod then assist m else m

def newReference (victim : UnitGuid) : ThreatManager T :=
  { m with
    refs := Function.update m.refs m.next { unitGuid := victim, threat := 0, tempThreatModifyer := 0 }
    next := m.next + 1
    online := m.online ++ [m.next] }

def addThreatDirectly (assist : ThreatManager T → ThreatManager T) (victim : UnitGuid) (threat : T) :
    ThreatManager T :=
  if victim = m.owner then m
  else match m.getReferenceByTarget m.online victim with
    | some id => m.refAddThreat w assist id threat
    | none => match m.getReferenceByTarget m.offline victim with
      | some id => m.refAddThreat w assist id threat
      | none =>
        let id := m.next
        let m := (m.newReference victim).refAddThreat w assist id threat
        if w.isGameMaster victim then m.setOnlineOfflineState id false else m

/-- The checks in `ThreatManager::addThreat`. -/
def mayHate (victim : UnitGuid) : Bool :=
  victim ≠ m.owner && !w.isGameMaster victim && w.isAlive victim && w.ownerAlive &&
    w.isHostile victim

def assistOwners : List UnitGuid → ThreatManager T → ThreatManager T
  | [], m => m
  | victimOwner :: owners, m =>
    if m.mayHate w victimOwner then
      m.addThreatDirectly w (assistOwners owners) victimOwner 0
    else m

/-- `ThreatManager::addThreatDirectly`, with the owners of the victim. -/
def hate (victim : UnitGuid) (threat : T) : ThreatManager T :=
  m.addThreatDirectly w (assistOwners w (w.owners victim)) victim threat

def calcThreat (victim : UnitGuid) (threat : T) : T :=
  if fabs threat < nullF then 0 else w.modifiedThreat victim threat

def redirected (victim : UnitGuid) (threat : T) : Option (T × UnitGuid) :=
  if nullF < threat then
    (w.redirection victim).filter fun r => r.2 ≠ m.owner && w.isAlive r.2
  else none

def addThreat (victim : UnitGuid) (threat : T) : ThreatManager T :=
  if m.mayHate w victim then
    let threat := calcThreat w victim threat
    match m.redirected w victim threat with
    | none => m.hate w victim threat
    | some (redirectedMod, redirectedTarget) =>
      (m.hate w redirectedTarget (threat * redirectedMod)).hate w victim
        (threat - threat * redirectedMod)
  else m

def assistOf (id : Nat) : ThreatManager T → ThreatManager T :=
  assistOwners w (w.owners (m.refs id).unitGuid)

def addThreatPercent (id : Nat) (percent : Int) : ThreatManager T :=
  let threat := (m.refs id).threat
  m.refAddThreat w (m.assistOf w id) id
    (if percent = -100 then -threat else percentOf threat percent)

def modifyThreatPercent (victim : UnitGuid) (percent : Int) : ThreatManager T :=
  match m.getReferenceByTarget m.online victim with
  | none => m
  | some id => if percent < -100 then m.removeReference id else m.addThreatPercent w id percent

def setTempThreat (id : Nat) (threat : T) : ThreatManager T :=
  let temp := threat - (m.refs id).threat
  let m := m.updateRef id fun r => { r with tempThreatModifyer := temp }
  if nullF < fabs temp then m.refAddThreat w (m.assistOf w id) id temp else m

def tauntApply (taunter : UnitGuid) : ThreatManager T :=
  match m.getReferenceByTarget m.online taunter, m.currentVictim with
  | some id, some victim =>
    if (m.refs id).threat < (m.refs victim).threat &&
        fabs (m.refs id).tempThreatModifyer < nullF then
      m.setTempThreat w id ((m.refs victim).threat * c140)
    else m
  | _, _ => m

def resetTempThreat (id : Nat) : ThreatManager T :=
  let temp := (m.refs id).tempThreatModifyer
  if nullF < fabs temp then
    (m.refAddThreat w (m.assistOf w id) id (-temp)).updateRef id
      fun r => { r with tempThreatModifyer := 0 }
  else m

def tauntFadeOut (taunter : UnitGuid) : ThreatManager T :=
  match m.getReferenceByTarget m.online taunter with
  | none => m
  | some id => m.resetTempThreat w id

/-- `ThreatContainer::update`; the sort is stable. -/
def update : ThreatManager T :=
  if m.dirty then
    { m with
      online := m.online.insertionSort fun a b => (m.refs b).threat ≤ (m.refs a).threat
      dirty := false }
  else m

/-- The loop of `ThreatContainer::selectNextVictim` over the rest of the list. When the last is a second choice,
`restart` begins again; then second choices are not left out. -/
def selectLoop (onlySecondChoice : Bool) (restart : Option Nat → Bool → Option Nat) :
    List Nat → (currentVictim : Option Nat) → (checkedCurrentVictim : Bool) → Option Nat
  | [], _, _ => none
  | id :: rest, currentVictim, checked =>
    let target := w.vehicleOrSelf (m.refs id).unitGuid
    if !onlySecondChoice && w.isSecondChoiceTarget target (currentVictim = some id) then
      let currentVictim := if currentVictim = some id then none else currentVictim
      if rest = [] then restart currentVictim checked
      else selectLoop onlySecondChoice restart rest currentVictim checked
    else if w.isOutOfThreatArea target then
      selectLoop onlySecondChoice restart rest currentVictim checked
    else match currentVictim with
      | none => some id
      | some victim =>
        if victim = id then some id
        else if !checked && w.isSecondChoiceTarget (m.refs victim).unitGuid true then some id
        else if (m.refs id).threat ≤ c110 * (m.refs victim).threat then some victim
        else if c130 * (m.refs victim).threat < (m.refs id).threat ||
            (c110 * (m.refs victim).threat < (m.refs id).threat &&
              w.canReachWithMeleeAttack target) then some id
        else selectLoop onlySecondChoice restart rest (some victim) true

def selectNextVictim (currentVictim : Option Nat) : Option Nat :=
  m.selectLoop w false (m.selectLoop w true (fun _ _ => none) m.online) m.online currentVictim false

def getHostileTarget : ThreatManager T :=
  let m := m.update
  { m with currentVictim := m.selectNextVictim w m.currentVictim }

def clearReferences : ThreatManager T :=
  { m with online := [], offline := [], currentVictim := none }

end ThreatManager

/-- The calls of a threat manager, and those of one of its references by the unit that is hated. -/
inductive ThreatCall (T : Type*)
  | addThreat (w : ThreatWorld T) (victim : UnitGuid) (threat : T)
  | addThreatDirectly (w : ThreatWorld T) (victim : UnitGuid) (threat : T)
  | modifyThreatPercent (w : ThreatWorld T) (victim : UnitGuid) (percent : Int)
  | tauntApply (w : ThreatWorld T) (taunter : UnitGuid)
  | tauntFadeOut (w : ThreatWorld T) (taunter : UnitGuid)
  | getHostileTarget (w : ThreatWorld T)
  | clearReferences
  | addThreatPercent (w : ThreatWorld T) (id : Nat) (percent : Int)
  | setOnlineOfflineState (id : Nat) (isOnline : Bool)
  | updateOnlineStatus (w : ThreatWorld T) (id : Nat)
  | invalidate (id : Nat)
  | removeReference (id : Nat)

namespace ThreatManager

def onReference (m : ThreatManager T) (id : Nat) (f : ThreatManager T → ThreatManager T) :
    ThreatManager T :=
  if id ∈ m.listed ∧ (m.refs id).valid then f m else m

def step (m : ThreatManager T) : ThreatCall T → ThreatManager T
  | .addThreat w victim threat => m.addThreat w victim threat
  | .addThreatDirectly w victim threat => m.hate w victim threat
  | .modifyThreatPercent w victim percent => m.modifyThreatPercent w victim percent
  | .tauntApply w taunter => m.tauntApply w taunter
  | .tauntFadeOut w taunter => m.tauntFadeOut w taunter
  | .getHostileTarget w => m.getHostileTarget w
  | .clearReferences => m.clearReferences
  | .addThreatPercent w id percent => m.onReference id (·.addThreatPercent w id percent)
  | .setOnlineOfflineState id isOnline => m.onReference id (·.setOnlineOfflineState id isOnline)
  | .updateOnlineStatus w id => m.onReference id (·.updateOnlineStatus w id)
  | .invalidate id => m.onReference id (·.invalidate id)
  | .removeReference id => m.onReference id (·.removeReference id)

def init (owner : UnitGuid) : ThreatManager T where
  owner := owner
  refs _ := { unitGuid := owner, threat := 0, tempThreatModifyer := 0 }
  next := 0

end ThreatManager

end Mangos
