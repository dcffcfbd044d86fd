import Mangos.Pool.Steps

/-!
# Pools and the map

Members that are creatures or game objects are put on the map when they are spawned and taken off when they
are despawned.
-/

namespace Mangos

/-- Where a creature or a game object is; `dead` is in the world, waiting for its respawn time. -/
inductive Presence
  | placed
  | dead
  | gone
  deriving DecidableEq, Repr

/-- What is spawned of the pools, and where the creatures and game objects are. -/
structure PoolMap where
  state : PoolState
  presence : PoolKind → Nat → Presence

namespace PoolMap

variable (m : PoolMap)

def isSpawned (kind : PoolKind) (id : Nat) : Bool := m.state.spawns.isSpawnedObject kind id

def setPresence (kind : PoolKind) (id : Nat) (place : Presence) : PoolMap :=
  { m with presence := Function.update m.presence kind (Function.update (m.presence kind) id place) }

def changeSpawns (f : SpawnedPoolData → SpawnedPoolData) : PoolMap :=
  { m with state := { m.state with spawns := f m.state.spawns } }

def draw : PoolMap := { m with state := { m.state with drawn := m.state.drawn + 1 } }

end PoolMap

namespace PoolManager

variable (mgr : PoolManager) (rolls : Nat → PoolRoll)

/-- `PoolGroup::DespawnObject`. -/
def despawnObjectOnMap (despawn1 : PoolMap → Nat → PoolMap) (kind : PoolKind) (p guid : Nat)
    (m : PoolMap) : PoolMap :=
  (mgr.groups kind p).objects.foldl (fun m obj =>
    if m.isSpawned kind obj.guid && (guid = 0 || obj.guid = guid) then
      (despawn1 m obj.guid).changeSpawns (·.removeSpawn kind obj.guid p)
    else m) m

/-- `Despawn1Object` of a kind. -/
def despawn1OnMap (despawnPool : PoolMap → Nat → PoolMap) : PoolKind → PoolMap → Nat → PoolMap
  | .creature, m, id => m.setPresence .creature id .gone
  | .gameobject, m, id => m.setPresence .gameobject id .gone
  | .pool, m, id => despawnPool m id

/-- `PoolManager::DespawnPool`, to the depth `fuel`. -/
def despawnPoolOnMap : (fuel : Nat) → PoolMap → (p : Nat) → PoolMap
  | 0, m, _ => m
  | fuel + 1, m, p =>
    [PoolKind.creature, .gameobject, .pool].foldl (fun m kind =>
      mgr.despawnObjectOnMap (despawn1OnMap (despawnPoolOnMap fuel) kind) kind p 0 m) m

/-- `ReSpawn1Object` of a kind: what is still in the world is added to the map again. There is nothing to do
for a child pool. -/
def respawn1OnMap : PoolKind → PoolMap → Nat → PoolMap
  | .creature, m, id => if m.presence .creature id = .gone then m else m.setPresence .creature id .placed
  | .gameobject, m, id =>
    if m.presence .gameobject id = .gone then m else m.setPresence .gameobject id .placed
  | .pool, m, _ => m

/-- The loop of `PoolGroup::SpawnObject`, with `count` turns to go. -/
def spawnLoopOnMap (spawn1 despawn1 : PoolMap → Nat → PoolMap) (kind : PoolKind) (p : Nat) :
    (count triggerFrom lastDespawned : Nat) → PoolMap → PoolMap
  | 0, _, _, m => m
  | count + 1, triggerFrom, lastDespawned, m =>
    match (mgr.groups kind p).rollOne (m.isSpawned kind) triggerFrom (rolls m.state.drawn) with
    | none => spawnLoopOnMap spawn1 despawn1 kind p count triggerFrom lastDespawned m.draw
    | some obj =>
      if obj.guid = lastDespawned then
        spawnLoopOnMap spawn1 despawn1 kind p count triggerFrom lastDespawned m.draw
      else if obj.guid = triggerFrom then
        spawnLoopOnMap spawn1 despawn1 kind p count 0 lastDespawned (respawn1OnMap kind m.draw obj.guid)
      else
        let m := spawn1 (m.draw.changeSpawns (·.addSpawn kind obj.guid p)) obj.guid
        if triggerFrom ≠ 0 then
          spawnLoopOnMap spawn1 despawn1 kind p count 0 triggerFrom
            (mgr.despawnObjectOnMap despawn1 kind p triggerFrom m)
        else spawnLoopOnMap spawn1 despawn1 kind p count 0 lastDespawned m

/-- `PoolGroup::SpawnObject` and the check of `SpawnPoolGroup` for an empty group. -/
def spawnObjectOnMap (spawn1 despawn1 : PoolMap → Nat → PoolMap) (kind : PoolKind)
    (p triggerFrom : Nat) (m : PoolMap) : PoolMap :=
  if (mgr.groups kind p).isEmpty then m
  else
    let count := spawnCount (mgr.poolTemplate p).maxLimit (m.state.spawns.getSpawnedObjects p)
    if triggerFrom ≠ 0 && m.isSpawned kind triggerFrom then
      mgr.spawnLoopOnMap rolls spawn1 despawn1 kind p (count 1) triggerFrom 0 m
    else mgr.spawnLoopOnMap rolls spawn1 despawn1 kind p (count 0) 0 0 m

/-- `Spawn1Object` of a kind; a creature whose cell is not loaded is put on the map with the cell. -/
def spawn1OnMap (spawnPool : PoolMap → Nat → PoolMap) : PoolKind → PoolMap → Nat → PoolMap
  | .creature, m, id => m.setPresence .creature id .placed
  | .gameobject, m, id => m.setPresence .gameobject id .placed
  | .pool, m, id => spawnPool m id

/-- `SpawnPoolGroup`, where the members of the pool are spawned to the depth `fuel`. -/
def spawnGroupOnMap (spawnPool despawnPool : PoolMap → Nat → PoolMap) (kind : PoolKind)
    (p triggerFrom : Nat) (m : PoolMap) : PoolMap :=
  mgr.spawnObjectOnMap rolls (spawn1OnMap spawnPool kind) (despawn1OnMap despawnPool kind) kind p
    triggerFrom m

/-- `PoolManager::SpawnPool`, to the depth `fuel`. -/
def spawnPoolOnMap : (fuel : Nat) → PoolMap → (p : Nat) → PoolMap
  | 0, m, _ => m
  | fuel + 1, m, p =>
    [PoolKind.pool, .gameobject, .creature].foldl (fun m kind =>
      mgr.spawnGroupOnMap rolls (spawnPoolOnMap fuel) (mgr.despawnPoolOnMap fuel) kind p 0 m) m

/-- `PoolManager::UpdatePool`. -/
def updatePoolOnMap (kind : PoolKind) (p guid : Nat) (m : PoolMap) : PoolMap :=
  let spawn := mgr.spawnGroupOnMap rolls (mgr.spawnPoolOnMap rolls mgr.depth)
    (mgr.despawnPoolOnMap mgr.depth)
  if mgr.isPartOfAPool .pool p ≠ 0 then spawn .pool (mgr.isPartOfAPool .pool p) p m
  else spawn kind p guid m

variable {mgr} {rolls}

@[simp] theorem state_setPresence (m : PoolMap) (kind : PoolKind) (id : Nat) (place : Presence) :
    (m.setPresence kind id place).state = m.state := rfl

@[simp] theorem state_changeSpawns (m : PoolMap) (f : SpawnedPoolData → SpawnedPoolData) :
    (m.changeSpawns f).state = { m.state with spawns := f m.state.spawns } := rfl

@[simp] theorem state_draw (m : PoolMap) : m.draw.state = { m.state with drawn := m.state.drawn + 1 } := rfl

section State

variable {kind : PoolKind} {p : Nat} {spawn1M despawn1M : PoolMap → Nat → PoolMap}
  {spawn1S despawn1S : PoolState → Nat → PoolState}

theorem state_despawnObjectOnMap (hdespawn : ∀ m id, (despawn1M m id).state = despawn1S m.state id)
    (guid : Nat) (m : PoolMap) : (mgr.despawnObjectOnMap despawn1M kind p guid m).state =
      mgr.despawnObject despawn1S kind p guid m.state := by
  unfold despawnObjectOnMap despawnObject
  induction (mgr.groups kind p).objects generalizing m with
  | nil => rfl
  | cons obj objs ih =>
    rw [List.foldl_cons, List.foldl_cons, ih]
    congr 1
    by_cases hmeant : (m.isSpawned kind obj.guid && (guid = 0 || obj.guid = guid)) = true
    · have hmeant' : (m.state.spawns.isSpawnedObject kind obj.guid && (guid = 0 || obj.guid = guid)) =
          true := hmeant
      rw [if_pos hmeant, if_pos hmeant', state_changeSpawns, hdespawn]
    · have hmeant' : ¬ (m.state.spawns.isSpawnedObject kind obj.guid &&
          (guid = 0 || obj.guid = guid)) = true := hmeant
      rw [if_neg hmeant, if_neg hmeant']

theorem state_despawn1OnMap {despawnPoolM : PoolMap → Nat → PoolMap} {despawnPoolS : PoolState → Nat → PoolState}
    (hdespawn : ∀ m id, (despawnPoolM m id).state = despawnPoolS m.state id) (kind : PoolKind)
    (m : PoolMap) (id : Nat) :
    (despawn1OnMap despawnPoolM kind m id).state = despawn1 despawnPoolS kind m.state id := by
  cases kind with
  | creature => rfl
  | gameobject => rfl
  | pool => exact hdespawn m id

theorem state_despawnPoolOnMap (fuel : Nat) (m : PoolMap) (p : Nat) :
    (mgr.despawnPoolOnMap fuel m p).state = mgr.despawnPool fuel m.state p := by
  induction fuel generalizing m p with
  | zero => rfl
  | succ fuel ih =>
    simp only [despawnPoolOnMap, despawnPool, List.foldl_cons, List.foldl_nil]
    rw [state_despawnObjectOnMap (state_despawn1OnMap ih .pool),
      state_despawnObjectOnMap (state_despawn1OnMap ih .gameobject),
      state_despawnObjectOnMap (state_despawn1OnMap ih .creature)]

theorem state_respawn1OnMap (kind : PoolKind) (m : PoolMap) (id : Nat) : (respawn1OnMap kind m id).state = m.state := by
  cases kind with
  | creature =>
    simp only [respawn1OnMap]
    split_ifs <;> rfl
  | gameobject =>
    simp only [respawn1OnMap]
    split_ifs <;> rfl
  | pool => rfl

theorem state_spawnLoopOnMap (hspawn : ∀ m id, (spawn1M m id).state = spawn1S m.state id)
    (hdespawn : ∀ m id, (despawn1M m id).state = despawn1S m.state id) (count trigger last : Nat)
    (m : PoolMap) : (mgr.spawnLoopOnMap rolls spawn1M despawn1M kind p count trigger last m).state =
      mgr.spawnLoop rolls spawn1S despawn1S kind p count trigger last m.state := by
  induction count generalizing trigger last m with
  | zero => rfl
  | succ count ih =>
    rw [spawnLoopOnMap, spawnLoop]
    cases hroll : (mgr.groups kind p).rollOne (m.state.spawns.isSpawnedObject kind) trigger
        (rolls m.state.drawn) with
    | none =>
      have hroll' : (mgr.groups kind p).rollOne (m.isSpawned kind) trigger
        (rolls m.state.drawn) = none := hroll
      simp only [hroll']
      rw [ih, state_draw]
    | some obj =>
      have hroll' : (mgr.groups kind p).rollOne (m.isSpawned kind) trigger
        (rolls m.state.drawn) = some obj := hroll
      simp only [hroll']
      split_ifs
      · rw [ih, state_draw]
      · rw [ih, state_respawn1OnMap, state_draw]
      · rw [ih, state_despawnObjectOnMap hdespawn, hspawn, state_changeSpawns, state_draw]
      · rw [ih, hspawn, state_changeSpawns, state_draw]

theorem state_spawnObjectOnMap (hspawn : ∀ m id, (spawn1M m id).state = spawn1S m.state id)
    (hdespawn : ∀ m id, (despawn1M m id).state = despawn1S m.state id) (trigger : Nat) (m : PoolMap) :
    (mgr.spawnObjectOnMap rolls spawn1M despawn1M kind p trigger m).state =
      mgr.spawnObject rolls spawn1S despawn1S kind p trigger m.state := by
  unfold spawnObjectOnMap spawnObject
  by_cases hempty : (mgr.groups kind p).isEmpty = true
  · rw [if_pos hempty, if_pos hempty]
  · rw [if_neg hempty, if_neg hempty]
    dsimp only
    by_cases hasks : (trigger ≠ 0 && m.isSpawned kind trigger) = true
    · have hasks' : (trigger ≠ 0 && m.state.spawns.isSpawnedObject kind trigger) = true := hasks
      rw [if_pos hasks, if_pos hasks']
      exact state_spawnLoopOnMap hspawn hdespawn _ _ _ m
    · have hasks' : ¬ (trigger ≠ 0 && m.state.spawns.isSpawnedObject kind trigger) = true := hasks
      rw [if_neg hasks, if_neg hasks']
      exact state_spawnLoopOnMap hspawn hdespawn _ _ _ m

end State

theorem state_spawn1OnMap {spawnPoolM : PoolMap → Nat → PoolMap} {spawnPoolS : PoolState → Nat → PoolState}
    (hspawn : ∀ m id, (spawnPoolM m id).state = spawnPoolS m.state id) (kind : PoolKind) (m : PoolMap)
    (id : Nat) : (spawn1OnMap spawnPoolM kind m id).state = spawn1 spawnPoolS kind m.state id := by
  cases kind with
  | creature => rfl
  | gameobject => rfl
  | pool => exact hspawn m id

theorem state_spawnPoolOnMap (fuel : Nat) (m : PoolMap) (p : Nat) :
    (mgr.spawnPoolOnMap rolls fuel m p).state = mgr.spawnPool rolls fuel m.state p := by
  induction fuel generalizing m p with
  | zero => rfl
  | succ fuel ih =>
    have hgroup : ∀ kind m, (mgr.spawnGroupOnMap rolls (mgr.spawnPoolOnMap rolls fuel)
        (mgr.despawnPoolOnMap fuel) kind p 0 m).state =
        mgr.spawnGroup rolls (mgr.spawnPool rolls fuel) (mgr.despawnPool fuel) kind p 0 m.state :=
      fun kind m => state_spawnObjectOnMap (state_spawn1OnMap ih kind)
        (state_despawn1OnMap (state_despawnPoolOnMap fuel) kind) 0 m
    simp only [spawnPoolOnMap, spawnPool, List.foldl_cons, List.foldl_nil, hgroup]

theorem state_updatePoolOnMap (mgr : PoolManager) (rolls : Nat → PoolRoll) (kind : PoolKind) (p guid : Nat)
    (m : PoolMap) : (mgr.updatePoolOnMap rolls kind p guid m).state = mgr.updatePool rolls kind p guid m.state := by
  unfold updatePoolOnMap updatePool
  dsimp only
  split_ifs
  · exact state_spawnObjectOnMap (state_spawn1OnMap (state_spawnPoolOnMap mgr.depth) .pool)
      (state_despawn1OnMap (state_despawnPoolOnMap mgr.depth) .pool) p m
  · exact state_spawnObjectOnMap (state_spawn1OnMap (state_spawnPoolOnMap mgr.depth) kind)
      (state_despawn1OnMap (state_despawnPoolOnMap mgr.depth) kind) guid m

end PoolManager

end Mangos
