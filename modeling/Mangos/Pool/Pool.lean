import Mathlib.Algebra.Group.Nat.Defs
import Mathlib.Algebra.Ring.Rat
import Mathlib.Data.Int.Init
import Mathlib.Logic.Function.Basic

/-!
# Pools of spawns

A pool has creatures, game objects and other pools as members, of which so many are spawned at a time as its
limit says.
-/

namespace Mangos

/-- What a `PoolGroup` is a group of. -/
inductive PoolKind
  | creature | gameobject | pool
  deriving DecidableEq, Repr

structure PoolObject where
  guid : Nat
  chance : Rat
  exclude : Bool := false
  deriving DecidableEq, Repr

structure PoolGroup where
  explicitlyChanced : List PoolObject := []
  equalChanced : List PoolObject := []
  deriving DecidableEq, Repr

/-- A `MapEntry`. -/
structure MapEntry where
  mapID : Nat
  instanceable : Bool
  deriving DecidableEq, Repr

structure PoolTemplateData where
  mapEntry : Option MapEntry := none
  maxLimit : Nat := 0
  autoSpawn : Bool := false
  deriving DecidableEq, Repr

/-- `PoolManager`; `searchMap` of a kind tells the pool that an object is part of. -/
structure PoolManager where
  maxPoolId : Nat
  poolTemplate : Nat → PoolTemplateData
  groups : PoolKind → Nat → PoolGroup
  searchMap : PoolKind → Nat → Option Nat

/-- `SpawnedPoolData`, where `pools` is `mSpawnedPools`. -/
structure SpawnedPoolData where
  creatures : Nat → Bool := fun _ => false
  gameobjects : Nat → Bool := fun _ => false
  pools : Nat → Option Nat := fun _ => none

namespace SpawnedPoolData

variable (spawns : SpawnedPoolData)

def getSpawnedObjects (p : Nat) : Nat := (spawns.pools p).getD 0

def isSpawnedObject : PoolKind → Nat → Bool
  | .creature, id => spawns.creatures id
  | .gameobject, id => spawns.gameobjects id
  | .pool, id => (spawns.pools id).isSome

/-- `mSpawnedPools[p]` after a change, where a missing value counts as 0. -/
def changeCount (p : Nat) (f : Nat → Nat) : SpawnedPoolData :=
  { spawns with pools := Function.update spawns.pools p (some (f (spawns.getSpawnedObjects p))) }

def insert : PoolKind → Nat → SpawnedPoolData
  | .creature, id => { spawns with creatures := Function.update spawns.creatures id true }
  | .gameobject, id => { spawns with gameobjects := Function.update spawns.gameobjects id true }
  | .pool, id => { spawns with pools := Function.update spawns.pools id (some 0) }

def erase : PoolKind → Nat → SpawnedPoolData
  | .creature, id => { spawns with creatures := Function.update spawns.creatures id false }
  | .gameobject, id => { spawns with gameobjects := Function.update spawns.gameobjects id false }
  | .pool, id => { spawns with pools := Function.update spawns.pools id none }

def addSpawn (kind : PoolKind) (id p : Nat) : SpawnedPoolData :=
  (spawns.insert kind id).changeCount p (· + 1)

def removeSpawn (kind : PoolKind) (id p : Nat) : SpawnedPoolData :=
  (spawns.erase kind id).changeCount p (· - 1)

end SpawnedPoolData

/-- What the random generator gives for a roll: a chance and an index. -/
structure PoolRoll where
  chance : Rat
  index : Nat
  deriving DecidableEq, Repr

namespace PoolGroup

variable (group : PoolGroup)

def isEmpty : Bool := group.explicitlyChanced.isEmpty && group.equalChanced.isEmpty

def rollExplicit (free : PoolObject → Bool) : Rat → List PoolObject → Option PoolObject
  | _, [] => none
  | roll, obj :: objs =>
    if roll - obj.chance < 0 && free obj then some obj
    else rollExplicit free (roll - obj.chance) objs

def rollOne (isSpawned : Nat → Bool) (triggerFrom : Nat) (roll : PoolRoll) : Option PoolObject :=
  let free (obj : PoolObject) : Bool :=
    !obj.exclude && (obj.guid = triggerFrom || !isSpawned obj.guid)
  (rollExplicit free roll.chance group.explicitlyChanced).or
    ((group.equalChanced[roll.index % group.equalChanced.length]?).filter free)

/-- The objects in the order in which `DespawnObject` looks at them. -/
def objects : List PoolObject := group.equalChanced ++ group.explicitlyChanced

def guids : List Nat := group.objects.map (·.guid)

def excludeFirst (guid : Nat) (state : Bool) : List PoolObject → List PoolObject
  | [] => []
  | obj :: objs =>
    if obj.guid = guid then { obj with exclude := state } :: objs
    else obj :: excludeFirst guid state objs

def setExcludeObject (guid : Nat) (state : Bool) : PoolGroup :=
  if group.equalChanced.any (·.guid = guid) then
    { group with equalChanced := excludeFirst guid state group.equalChanced }
  else { group with explicitlyChanced := excludeFirst guid state group.explicitlyChanced }

end PoolGroup

/-- The spawned objects of a map, and how many rolls were made. -/
structure PoolState where
  spawns : SpawnedPoolData := {}
  drawn : Nat := 0

/-- How often `SpawnObject` tries: a difference of words read as a signed number, and once more (`asks` is 1
then) for an object that asks. -/
def spawnCount (limit spawned asks : Nat) : Nat :=
  (Int.bmod ((limit : Int) - spawned) (2 ^ 32) + asks).toNat

namespace PoolManager

variable (mgr : PoolManager) (rolls : Nat → PoolRoll)

/-- `PoolGroup::DespawnObject`; all objects are meant by the guid 0. `despawn1` is `Despawn1Object`. -/
def despawnObject (despawn1 : PoolState → Nat → PoolState) (kind : PoolKind) (p guid : Nat)
    (s : PoolState) : PoolState :=
  (mgr.groups kind p).objects.foldl (fun s obj =>
    if s.spawns.isSpawnedObject kind obj.guid && (guid = 0 || obj.guid = guid) then
      let s := despawn1 s obj.guid
      { s with spawns := s.spawns.removeSpawn kind obj.guid p }
    else s) s

/-- `Despawn1Object` of a kind, by what it does to a pool. -/
def despawn1 (despawnPool : PoolState → Nat → PoolState) : PoolKind → PoolState → Nat → PoolState
  | .creature, s, _ | .gameobject, s, _ => s
  | .pool, s, id => despawnPool s id

/-- `PoolManager::DespawnPool`, to the depth `fuel`. -/
def despawnPool : (fuel : Nat) → PoolState → (p : Nat) → PoolState
  | 0, s, _ => s
  | fuel + 1, s, p =>
    [PoolKind.creature, .gameobject, .pool].foldl (fun s kind =>
      mgr.despawnObject (despawn1 (despawnPool fuel) kind) kind p 0 s) s

/-- The loop of `PoolGroup::SpawnObject`, with `count` turns to go. -/
def spawnLoop (spawn1 despawn1 : PoolState → Nat → PoolState) (kind : PoolKind) (p : Nat) :
    (count triggerFrom lastDespawned : Nat) → PoolState → PoolState
  | 0, _, _, s => s
  | count + 1, triggerFrom, lastDespawned, s =>
    let rolled := (mgr.groups kind p).rollOne (s.spawns.isSpawnedObject kind) triggerFrom
      (rolls s.drawn)
    let s := { s with drawn := s.drawn + 1 }
    match rolled with
    | none => spawnLoop spawn1 despawn1 kind p count triggerFrom lastDespawned s
    | some obj =>
      if obj.guid = lastDespawned then
        spawnLoop spawn1 despawn1 kind p count triggerFrom lastDespawned s
      -- the object that asks is spawned again where it is
      else if obj.guid = triggerFrom then
        spawnLoop spawn1 despawn1 kind p count 0 lastDespawned s
      else
        let s := spawn1 { s with spawns := s.spawns.addSpawn kind obj.guid p } obj.guid
        if triggerFrom ≠ 0 then
          spawnLoop spawn1 despawn1 kind p count 0 triggerFrom
            (mgr.despawnObject despawn1 kind p triggerFrom s)
        else spawnLoop spawn1 despawn1 kind p count 0 lastDespawned s

/-- `PoolGroup::SpawnObject` and the check of `SpawnPoolGroup` for an empty group. -/
def spawnObject (spawn1 despawn1 : PoolState → Nat → PoolState) (kind : PoolKind)
    (p triggerFrom : Nat) (s : PoolState) : PoolState :=
  if (mgr.groups kind p).isEmpty then s
  else
    let count := spawnCount (mgr.poolTemplate p).maxLimit (s.spawns.getSpawnedObjects p)
    if triggerFrom ≠ 0 && s.spawns.isSpawnedObject kind triggerFrom then
      mgr.spawnLoop rolls spawn1 despawn1 kind p (count 1) triggerFrom 0 s
    else mgr.spawnLoop rolls spawn1 despawn1 kind p (count 0) 0 0 s

/-- `Spawn1Object` of a kind, by what it does to a pool. -/
def spawn1 (spawnPool : PoolState → Nat → PoolState) : PoolKind → PoolState → Nat → PoolState
  | .creature, s, _ | .gameobject, s, _ => s
  | .pool, s, id => spawnPool s id

/-- `SpawnPoolGroup`, where the members of the pool are spawned to the depth `fuel`. -/
def spawnGroup (spawnPool despawnPool : PoolState → Nat → PoolState) (kind : PoolKind)
    (p triggerFrom : Nat) (s : PoolState) : PoolState :=
  mgr.spawnObject rolls (spawn1 spawnPool kind) (despawn1 despawnPool kind) kind p triggerFrom s

/-- `PoolManager::SpawnPool`, to the depth `fuel`. -/
def spawnPool : (fuel : Nat) → PoolState → (p : Nat) → PoolState
  | 0, s, _ => s
  | fuel + 1, s, p =>
    [PoolKind.pool, .gameobject, .creature].foldl (fun s kind =>
      mgr.spawnGroup rolls (spawnPool fuel) (mgr.despawnPool fuel) kind p 0 s) s

def depth : Nat := mgr.maxPoolId + 1

def isPartOfAPool (kind : PoolKind) (id : Nat) : Nat := (mgr.searchMap kind id).getD 0

def updatePool (kind : PoolKind) (p guid : Nat) (s : PoolState) : PoolState :=
  let spawn := mgr.spawnGroup rolls (mgr.spawnPool rolls mgr.depth) (mgr.despawnPool mgr.depth)
  if mgr.isPartOfAPool .pool p ≠ 0 then spawn .pool (mgr.isPartOfAPool .pool p) p s
  else spawn kind p guid s

def setExcludeObject (kind : PoolKind) (p guid : Nat) (state : Bool) : PoolManager :=
  { mgr with
    groups := Function.update mgr.groups kind
      (Function.update (mgr.groups kind) p ((mgr.groups kind p).setExcludeObject guid state)) }

end PoolManager

/-- The pool system with the pools that are spawned on a map. -/
structure PoolWorld where
  mgr : PoolManager
  state : PoolState

/-- What is done with pools. An object asks for an update of its pool, or a game event does without
one. -/
inductive PoolEvent
  | spawnPool (p : Nat)
  | despawnPool (p : Nat)
  | updatePool (kind : PoolKind) (p guid : Nat)
  | setExcludeObject (kind : PoolKind) (p guid : Nat) (state : Bool)
  deriving DecidableEq, Repr

def poolStep (rolls : Nat → PoolRoll) (w : PoolWorld) : PoolEvent → PoolWorld
  | .spawnPool p => { w with state := w.mgr.spawnPool rolls w.mgr.depth w.state p }
  | .despawnPool p => { w with state := w.mgr.despawnPool w.mgr.depth w.state p }
  | .updatePool kind p guid => { w with state := w.mgr.updatePool rolls kind p guid w.state }
  | .setExcludeObject kind p guid state =>
    { w with mgr := w.mgr.setExcludeObject kind p guid state }

/-!
## Loading the pools

The pool tables are read, then the nesting of pools is followed upwards from every pool, to hand on the maps
and to cut links that close a circle.
-/

/-- A row of a table of pool members: `guid` or `pool_id`, the pool, and the chance. -/
structure PoolRow where
  id : Nat
  pool : Nat
  chance : Rat
  deriving DecidableEq, Repr

/-- The rows that the queries give. Those of the two template tables are joined with the spawns. -/
structure PoolTables where
  template : List (Nat × Nat)
  creature : List PoolRow := []
  creatureTemplate : List PoolRow := []
  gameobject : List PoolRow := []
  gameobjectTemplate : List PoolRow := []
  pool : List PoolRow := []

/-- The stores that loading looks into: for each map whether it is instanceable, the map of each creature
spawn, and the map of each game object spawn with whether its type may be in a pool. -/
structure PoolStores where
  maps : Nat → Option Bool
  creatureMap : Nat → Option Nat
  gameobjectMap : Nat → Option (Nat × Bool)

namespace PoolStores

variable (stores : PoolStores)

/-- `sMapStore.LookupEntry`. -/
def mapEntry (mapid : Nat) : Option MapEntry := (stores.maps mapid).map (MapEntry.mk mapid)

def spawnMap : PoolKind → Nat → Option Nat
  | .creature, guid => stores.creatureMap guid
  | .gameobject, guid =>
    (stores.gameobjectMap guid).bind fun p => if p.2 then some p.1 else none
  | .pool, _ => none

end PoolStores

def PoolGroup.addEntry (group : PoolGroup) (obj : PoolObject) (maxentries : Nat) : PoolGroup :=
  if obj.chance ≠ 0 && maxentries = 1 then
    { group with explicitlyChanced := group.explicitlyChanced ++ [obj] }
  else { group with equalChanced := group.equalChanced ++ [obj] }

def PoolGroup.checkPool (group : PoolGroup) : Bool :=
  !group.equalChanced.isEmpty ||
    (let chance := (group.explicitlyChanced.map (·.chance)).sum
    chance = 100 || chance = 0)

def PoolGroup.removeOneRelation (group : PoolGroup) (child : Nat) : PoolGroup where
  explicitlyChanced := group.explicitlyChanced.eraseP (·.guid = child)
  equalChanced := group.equalChanced.eraseP (·.guid = child)

namespace PoolManager

variable (stores : PoolStores) (mgr : PoolManager)

def updateTemplate (p : Nat) (f : PoolTemplateData → PoolTemplateData) : PoolManager :=
  { mgr with poolTemplate := Function.update mgr.poolTemplate p (f (mgr.poolTemplate p)) }

/-- `PoolMapChecker::CheckAndRemember`; nothing is returned for false. -/
def checkAndRemember (mapid p : Nat) : Option PoolManager :=
  (stores.mapEntry mapid).bind fun mapEntry =>
    match (mgr.poolTemplate p).mapEntry with
    | none => some (mgr.updateTemplate p fun t => { t with mapEntry := some mapEntry })
    | some poolMapEntry =>
      if poolMapEntry = mapEntry then some mgr
      else if mapEntry.instanceable || poolMapEntry.instanceable then none
      else some mgr

def addObject (kind : PoolKind) (row : PoolRow) : PoolManager :=
  let group := (mgr.groups kind row.pool).addEntry
    { guid := row.id, chance := if row.chance < 0 then -row.chance else row.chance }
    (mgr.poolTemplate row.pool).maxLimit
  { mgr with
    groups := Function.update mgr.groups kind (Function.update (mgr.groups kind) row.pool group)
    searchMap := Function.update mgr.searchMap kind
      (Function.update (mgr.searchMap kind) row.id
        ((mgr.searchMap kind row.id).or (some row.pool))) }

/-- A row of `pool_creature` or `pool_gameobject`. -/
def loadSpawn (kind : PoolKind) (mgr : PoolManager) (row : PoolRow) : PoolManager :=
  match stores.spawnMap kind row.id with
  | none => mgr
  | some mapid =>
    if mgr.maxPoolId < row.pool || row.chance < 0 || 100 < row.chance then mgr
    else match mgr.checkAndRemember stores mapid row.pool with
      | none => mgr
      | some mgr => mgr.addObject kind row

/-- A row of `pool_creature_template` or `pool_gameobject_template`. -/
def loadTemplateSpawn (kind : PoolKind) (mgr : PoolManager) (row : PoolRow) : PoolManager :=
  if mgr.isPartOfAPool kind row.id ≠ 0 then mgr else mgr.loadSpawn stores kind row

/-- A row of `pool_pool`. -/
def loadPool (mgr : PoolManager) (row : PoolRow) : PoolManager :=
  if mgr.maxPoolId < row.pool || mgr.maxPoolId < row.id || row.pool = row.id || row.chance < 0 ||
      100 < row.chance then mgr
  else (mgr.addObject .pool row).updateTemplate row.id fun t => { t with autoSpawn := false }

def removeLink (child mother : Nat) : PoolManager :=
  { mgr with
    groups := Function.update mgr.groups .pool (Function.update (mgr.groups .pool) mother
      ((mgr.groups .pool mother).removeOneRelation child))
    searchMap := Function.update mgr.searchMap .pool
      (Function.update (mgr.searchMap .pool) child none) }

def checkChain : (fuel : Nat) → (checkedPools : List Nat) → (child : Nat) → PoolManager → PoolManager
  | 0, _, _, mgr => mgr
  | fuel + 1, checkedPools, child, mgr =>
    match mgr.searchMap .pool child with
    | none => mgr
    | some mother =>
      let remembered := match (mgr.poolTemplate child).mapEntry with
        | none => some mgr
        | some childMapEntry => mgr.checkAndRemember stores childMapEntry.mapID mother
      match remembered with
      | none => mgr.removeLink child mother
      | some mgr =>
        if mother ∈ child :: checkedPools then mgr.removeLink child mother
        else checkChain fuel (child :: checkedPools) mother mgr

def checkPool (p : Nat) : Bool :=
  p ≤ mgr.maxPoolId && (mgr.groups .gameobject p).checkPool && (mgr.groups .creature p).checkPool &&
    (mgr.groups .pool p).checkPool

/-- The manager with the rows of `pool_template`. -/
def loadTemplates (template : List (Nat × Nat)) : PoolManager where
  maxPoolId := (template.map (·.1)).foldl max 0
  poolTemplate p := match template.reverse.find? (·.1 = p) with
    | none => {}
    | some row => { maxLimit := row.2, autoSpawn := true }
  groups _ _ := {}
  searchMap _ _ := none

def loadRows (tables : PoolTables) : PoolManager :=
  let mgr := tables.creature.foldl (loadSpawn stores .creature) (loadTemplates tables.template)
  let mgr := tables.creatureTemplate.foldl (loadTemplateSpawn stores .creature) mgr
  let mgr := tables.gameobject.foldl (loadSpawn stores .gameobject) mgr
  let mgr := tables.gameobjectTemplate.foldl (loadTemplateSpawn stores .gameobject) mgr
  tables.pool.foldl loadPool mgr

def checkLinks : PoolManager :=
  (List.range mgr.maxPoolId).foldl
    (fun mgr i => mgr.checkChain stores (mgr.maxPoolId + 1) [] i) mgr

def checkChances : PoolManager :=
  { mgr with
    poolTemplate := fun p =>
      let t := mgr.poolTemplate p
      { t with autoSpawn := t.autoSpawn && mgr.checkPool p } }

def loadFromDB (tables : PoolTables) : PoolManager :=
  if tables.template = [] then loadTemplates []
  else ((loadRows stores tables).checkLinks stores).checkChances

end PoolManager

end Mangos
