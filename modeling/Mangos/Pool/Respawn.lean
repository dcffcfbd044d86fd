import Mangos.Pool.OnMap

/-!
# Members that respawn

A member that has died asks its pool for an update.
-/

namespace Mangos

namespace PoolMap

def Back (kind : PoolKind) (g : Nat) (m : PoolMap) : Prop :=
  m.isSpawned kind g = true ∧ m.presence kind g = .placed

def Vanished (kind : PoolKind) (g : Nat) (m : PoolMap) : Prop :=
  m.isSpawned kind g = false ∧ m.presence kind g = .gone

def Tracked (kind : PoolKind) (g : Nat) (m : PoolMap) : Prop :=
  m.isSpawned kind g = true ∨ m.Vanished kind g

def Left (kind : PoolKind) (g : Nat) (m m' : PoolMap) : Prop :=
  m'.isSpawned kind g = m.isSpawned kind g ∧ m'.presence kind g = m.presence kind g

def Alike (m m' : PoolMap) : Prop :=
  m'.state.spawns = m.state.spawns ∧ m'.presence = m.presence

/-- A member has vanished, and another one that was not spawned is. -/
structure Replaced (kind : PoolKind) (g : Nat) (kind' : PoolKind) (other : Nat) (m m' : PoolMap) :
    Prop where
  vanished : m'.Vanished kind g
  free : m.isSpawned kind' other = false
  spawned : m'.isSpawned kind' other = true
  placed : kind' ≠ .pool → m'.presence kind' other = .placed

variable {kind kind' : PoolKind} {g id p q : Nat} {m m' : PoolMap} {place : Presence}

theorem Left.refl : Left kind g m m := ⟨rfl, rfl⟩

theorem Left.trans {m'' : PoolMap} (h : Left kind g m m') (h' : Left kind g m' m'') : Left kind g m m'' :=
  ⟨h'.1.trans h.1, h'.2.trans h.2⟩

theorem Left.vanished (h : Left kind g m m') (hm : m.Vanished kind g) : m'.Vanished kind g :=
  ⟨h.1.trans hm.1, h.2.trans hm.2⟩

theorem Alike.refl : Alike m m := ⟨rfl, rfl⟩

theorem Alike.trans {m'' : PoolMap} (h : Alike m m') (h' : Alike m' m'') : Alike m m'' :=
  ⟨h'.1.trans h.1, h'.2.trans h.2⟩

theorem Alike.isSpawned (h : Alike m m') : m'.isSpawned kind g = m.isSpawned kind g := by
  rw [PoolMap.isSpawned, h.1, PoolMap.isSpawned]

theorem Alike.left (h : Alike m m') : Left kind g m m' :=
  ⟨h.isSpawned, congrFun (congrFun h.2 kind) g⟩

@[simp] theorem presence_changeSpawns (f : SpawnedPoolData → SpawnedPoolData) :
    (m.changeSpawns f).presence = m.presence := rfl

@[simp] theorem isSpawned_setPresence : (m.setPresence kind' id place).isSpawned kind g = m.isSpawned kind g := rfl

@[simp] theorem presence_setPresence : (m.setPresence kind' id place).presence kind g =
    if kind = kind' ∧ g = id then place else m.presence kind g := by
  by_cases hkind : kind = kind'
  · subst hkind
    by_cases hid : g = id
    · simp [setPresence, hid]
    · simp [setPresence, hid]
  · simp [setPresence, hkind]

@[simp] theorem isSpawned_addSpawn : (m.changeSpawns (·.addSpawn kind' id p)).isSpawned kind g =
    if kind = .pool ∧ g = p then true else if kind = kind' ∧ g = id then true else m.isSpawned kind g := by
  simp [isSpawned, changeSpawns, SpawnedPoolData.addSpawn]

@[simp] theorem isSpawned_removeSpawn : (m.changeSpawns (·.removeSpawn kind' id p)).isSpawned kind g =
    if kind = .pool ∧ g = p then true else if kind = kind' ∧ g = id then false else m.isSpawned kind g := by
  simp [isSpawned, changeSpawns, SpawnedPoolData.removeSpawn]

theorem isSpawned_addSpawn_of (h : m.isSpawned kind g = true) :
    (m.changeSpawns (·.addSpawn kind' id p)).isSpawned kind g = true := by
  simp [h]

end PoolMap

namespace PoolManager

open PoolMap

def firstRolled (mgr : PoolManager) (rolls : Nat → PoolRoll) (kind : PoolKind) (p trigger : Nat) :
    (count : Nat) → PoolMap → Option PoolObject
  | 0, _ => none
  | count + 1, m =>
    (((mgr.groups kind p).rollOne (m.isSpawned kind) trigger (rolls m.state.drawn)).filter
      (·.guid ≠ 0)).or (firstRolled mgr rolls kind p trigger count m.draw)

/-- What the rolls find that `SpawnObject` makes for a spawned object that asks. -/
def rolledFor (mgr : PoolManager) (rolls : Nat → PoolRoll) (kind : PoolKind) (p trigger : Nat)
    (m : PoolMap) : Option PoolObject :=
  mgr.firstRolled rolls kind p trigger
    (spawnCount (mgr.poolTemplate p).maxLimit (m.state.spawns.getSpawnedObjects p) 1) m

variable {mgr : PoolManager} {rolls : Nat → PoolRoll} {kind kind' : PoolKind} {g id p q : Nat}
  {m m' : PoolMap}

section Despawn

variable {despawn1 : PoolMap → Nat → PoolMap} {Inv : PoolMap → Prop} {guid : Nat}

theorem despawnObjectOnMap_keeps (hstep : ∀ m, ∀ id ∈ mgr.members kind p, guid = 0 ∨ id = guid → Inv m →
    Inv ((despawn1 m id).changeSpawns (·.removeSpawn kind id p))) (hm : Inv m) :
    Inv (mgr.despawnObjectOnMap despawn1 kind p guid m) := by
  have hmember : ∀ obj ∈ (mgr.groups kind p).objects, obj.guid ∈ mgr.members kind p := fun obj hobj =>
    List.mem_map_of_mem hobj
  rw [despawnObjectOnMap]
  generalize (mgr.groups kind p).objects = objs at hmember ⊢
  induction objs generalizing m with
  | nil => exact hm
  | cons obj objs ih =>
    have hrest := fun o ho => hmember o (List.mem_cons_of_mem obj ho)
    rw [List.foldl_cons]
    split_ifs with hmeant
    · simp only [Bool.and_eq_true, Bool.or_eq_true, decide_eq_true_eq] at hmeant
      have hguid := hmember obj List.mem_cons_self
      exact ih (hstep m obj.guid hguid hmeant.2 hm) hrest
    · exact ih hm hrest

theorem despawnObjectOnMap_reaches {Before After : PoolMap → Prop} (hguid : guid = 0 ∨ g = guid)
    (hg : g ∈ mgr.members kind p) (hmark : ∀ m, Before m → m.isSpawned kind g = true)
    (hkeeps : ∀ m id, After m → After ((despawn1 m id).changeSpawns (·.removeSpawn kind id p)))
    (hother : ∀ m id, id ≠ g → guid = 0 ∨ id = guid → Before m →
      Before ((despawn1 m id).changeSpawns (·.removeSpawn kind id p)) ∨
        After ((despawn1 m id).changeSpawns (·.removeSpawn kind id p)))
    (hself : ∀ m, Before m → After ((despawn1 m g).changeSpawns (·.removeSpawn kind g p)))
    (hm : Before m ∨ After m) : After (mgr.despawnObjectOnMap despawn1 kind p guid m) := by
  rw [members, PoolGroup.guids] at hg
  rw [despawnObjectOnMap]
  generalize (mgr.groups kind p).objects = objs at hg ⊢
  induction objs generalizing m with
  | nil => exact absurd hg List.not_mem_nil
  | cons obj objs ih =>
    have hafter : ∀ (objs : List PoolObject) m, After m → After (objs.foldl (fun m obj =>
        if m.isSpawned kind obj.guid && (guid = 0 || obj.guid = guid) then
          (despawn1 m obj.guid).changeSpawns (·.removeSpawn kind obj.guid p)
        else m) m) := by
      intro objs m hm
      induction objs generalizing m with
      | nil => exact hm
      | cons obj objs ih =>
        rw [List.foldl_cons]
        split_ifs
        · exact ih _ (hkeeps m _ hm)
        · exact ih m hm
    rcases hm with hbefore | hdone
    · rw [List.foldl_cons]
      by_cases hobj : obj.guid = g
      · have hmeant : (m.isSpawned kind obj.guid && (guid = 0 || obj.guid = guid)) = true := by
          simp [hobj, hmark m hbefore, hguid]
        rw [if_pos hmeant, hobj]
        exact hafter objs _ (hself m hbefore)
      · have htail : g ∈ objs.map (·.guid) := by
          rw [List.map_cons, List.mem_cons] at hg
          exact hg.resolve_left (Ne.symm hobj)
        split_ifs with hmeant
        · simp only [Bool.and_eq_true, Bool.or_eq_true, decide_eq_true_eq] at hmeant
          exact ih (hother m _ hobj hmeant.2 hbefore) htail
        · exact ih (.inl hbefore) htail
    · exact hafter (obj :: objs) m hdone

end Despawn

theorem despawn1OnMap_leaf {despawnPool : PoolMap → Nat → PoolMap} (hkind : kind ≠ .pool) (m : PoolMap)
    (id : Nat) : despawn1OnMap despawnPool kind m id = m.setPresence kind id .gone := by
  cases kind with
  | creature => rfl
  | gameobject => rfl
  | pool => exact absurd rfl hkind

theorem despawnPoolOnMap_keeps {Inv : PoolMap → Prop} {below : Nat → Prop}
    (hleaf : ∀ m kind x, ∀ id ∈ mgr.members kind x, below x → kind ≠ .pool → Inv m →
      Inv ((m.setPresence kind id .gone).changeSpawns (·.removeSpawn kind id x)))
    (hpool : ∀ m x, ∀ id ∈ mgr.members .pool x, below x → Inv m → Inv (m.changeSpawns (·.removeSpawn .pool id x)))
    (hchild : ∀ x, ∀ id ∈ mgr.members .pool x, below x → below id) (fuel : Nat) {x : Nat}
    (hx : below x) (hm : Inv m) : Inv (mgr.despawnPoolOnMap fuel m x) := by
  induction fuel generalizing m x with
  | zero => exact hm
  | succ fuel ih =>
    simp only [despawnPoolOnMap, List.foldl_cons, List.foldl_nil]
    apply despawnObjectOnMap_keeps
    · exact fun m id hid _ hm => hpool _ x id hid hx (ih (hchild x id hid hx) hm)
    apply despawnObjectOnMap_keeps
    · exact fun m id hid _ hm => hleaf m .gameobject x id hid hx (by decide) hm
    apply despawnObjectOnMap_keeps
    · exact fun m id hid _ hm => hleaf m .creature x id hid hx (by decide) hm
    exact hm

section Vanishing

variable (hkind : kind ≠ .pool)
include hkind

theorem vanished_leaf (hm : m.Vanished kind g) :
    ((m.setPresence kind' id .gone).changeSpawns (·.removeSpawn kind' id p)).Vanished kind g := by
  simp [Vanished, hkind, hm.1, hm.2]

theorem vanished_self : ((m.setPresence kind g .gone).changeSpawns (·.removeSpawn kind g p)).Vanished kind g := by
  simp [Vanished, hkind]

theorem tracked_leaf (hm : m.Tracked kind g) :
    ((m.setPresence kind' id .gone).changeSpawns (·.removeSpawn kind' id p)).Tracked kind g := by
  by_cases hself : kind = kind' ∧ g = id
  · right
    rw [← hself.1, ← hself.2]
    exact vanished_self hkind
  · rcases hm with hmark | hvanished
    · left
      simp [hkind, hself, hmark]
    · right
      exact vanished_leaf hkind hvanished

theorem vanished_removePool (hm : m.Vanished kind g) : (m.changeSpawns (·.removeSpawn .pool id p)).Vanished kind g := by
  simp [Vanished, hkind, hm.1, hm.2]

theorem vanished_despawnPool (fuel x : Nat) (hm : m.Vanished kind g) :
    (mgr.despawnPoolOnMap fuel m x).Vanished kind g :=
  @despawnPoolOnMap_keeps mgr m (Vanished kind g) (fun _ => True)
    (fun _ _ _ _ _ _ _ hm => vanished_leaf hkind hm) (fun _ _ _ _ _ hm => vanished_removePool hkind hm)
    (fun _ _ _ _ => trivial) fuel x trivial hm

theorem despawnObjectOnMap_vanishes (hg : g ∈ mgr.members kind p) {guid : Nat}
    (hguid : guid = 0 ∨ g = guid) {despawnPool : PoolMap → Nat → PoolMap} (hm : m.Tracked kind g) :
    (mgr.despawnObjectOnMap (despawn1OnMap despawnPool kind) kind p guid m).Vanished kind g := by
  apply despawnObjectOnMap_reaches hguid hg (fun _ h => h) _ _ _ hm
  · intro m id hm
    rw [despawn1OnMap_leaf hkind]
    exact vanished_leaf hkind hm
  · intro m id _ _ hm
    rw [despawn1OnMap_leaf hkind]
    exact tracked_leaf hkind (.inl hm)
  · intro m _
    rw [despawn1OnMap_leaf hkind]
    exact vanished_self hkind

theorem despawnPoolOnMap_vanishes (hg : g ∈ mgr.members kind p) (fuel : Nat)
    (hm : m.isSpawned kind g = true) : (mgr.despawnPoolOnMap (fuel + 1) m p).Vanished kind g := by
  have hown : ∀ m, m.Tracked kind g →
      (mgr.despawnObjectOnMap (despawn1OnMap (mgr.despawnPoolOnMap fuel) kind) kind p 0 m).Vanished
        kind g := by
    exact fun m hm => despawnObjectOnMap_vanishes hkind hg (.inl rfl) hm
  have hpools : ∀ m, m.Vanished kind g → (mgr.despawnObjectOnMap
      (despawn1OnMap (mgr.despawnPoolOnMap fuel) .pool) .pool p 0 m).Vanished kind g := by
    intro m hm
    apply despawnObjectOnMap_keeps _ hm
    exact fun m id _ _ hm => vanished_removePool hkind (vanished_despawnPool hkind fuel id hm)
  simp only [despawnPoolOnMap, List.foldl_cons, List.foldl_nil]
  apply hpools
  cases kind with
  | creature =>
    apply despawnObjectOnMap_keeps _ (hown m (.inl hm))
    exact fun m id _ _ hm => vanished_leaf hkind hm
  | gameobject =>
    apply hown
    apply despawnObjectOnMap_keeps _ (.inl hm)
    exact fun m id _ _ hm => tracked_leaf hkind hm
  | pool => exact absurd rfl hkind

end Vanishing

theorem spawnLoopOnMap_keeps {Inv : PoolMap → Prop} {spawn1 despawn1 : PoolMap → Nat → PoolMap} {last : Nat}
    (hdraw : ∀ m, Inv m → Inv m.draw) (hrespawn : ∀ m, Inv m → Inv (respawn1OnMap kind m 0))
    (hspawn : ∀ m, ∀ id ∈ mgr.members kind p, id ≠ last → m.isSpawned kind id = false → Inv m →
      Inv (spawn1 (m.changeSpawns (·.addSpawn kind id p)) id)) (count : Nat) (hm : Inv m) :
    Inv (mgr.spawnLoopOnMap rolls spawn1 despawn1 kind p count 0 last m) := by
  induction count generalizing m with
  | zero => exact hm
  | succ count ih =>
    rw [spawnLoopOnMap]
    cases hroll : (mgr.groups kind p).rollOne (m.isSpawned kind) 0 (rolls m.state.drawn) with
    | none => exact ih (hdraw m hm)
    | some obj =>
      obtain ⟨hobj, hfree⟩ := rollOne_eq_some hroll
      have hguid : obj.guid ∈ mgr.members kind p := List.mem_map_of_mem hobj
      dsimp only
      split_ifs with hlast hzero hasks
      · exact ih (hdraw m hm)
      · rw [hzero]
        exact ih (hrespawn _ (hdraw m hm))
      · exact absurd rfl hasks
      · exact ih (hspawn m.draw obj.guid hguid hlast (hfree.resolve_left hzero) (hdraw m hm))

theorem spawnPoolOnMap_keeps {Inv : PoolMap → Prop} {below : Nat → Prop}
    (hdraw : ∀ m, Inv m → Inv m.draw) (hrespawn : ∀ m kind, Inv m → Inv (respawn1OnMap kind m 0))
    (hadd : ∀ m kind x, ∀ id ∈ mgr.members kind x, below x → Inv m → Inv (m.changeSpawns (·.addSpawn kind id x)))
    (hleaf : ∀ m kind x, ∀ id ∈ mgr.members kind x, below x → kind ≠ .pool → Inv m →
      Inv (m.setPresence kind id .placed))
    (hchild : ∀ x, ∀ id ∈ mgr.members .pool x, below x → below id) (fuel : Nat) {x : Nat}
    (hx : below x) (hm : Inv m) : Inv (mgr.spawnPoolOnMap rolls fuel m x) := by
  induction fuel generalizing m x with
  | zero => exact hm
  | succ fuel ih =>
    have hgroup : ∀ kind m, Inv m → Inv (mgr.spawnGroupOnMap rolls (mgr.spawnPoolOnMap rolls fuel)
        (mgr.despawnPoolOnMap fuel) kind x 0 m) := by
      intro kind m hm
      rw [spawnGroupOnMap, spawnObjectOnMap]
      split_ifs with hempty hasks
      · exact hm
      · simp at hasks
      · apply spawnLoopOnMap_keeps hdraw (fun m => hrespawn m kind) _ _ hm
        intro m id hid _ _ hm
        have hadded := hadd m kind x id hid hx hm
        cases kind with
        | creature => exact hleaf _ .creature x id hid hx (by decide) hadded
        | gameobject => exact hleaf _ .gameobject x id hid hx (by decide) hadded
        | pool => exact ih (hchild x id hid hx) hadded
    simp only [spawnPoolOnMap, List.foldl_cons, List.foldl_nil]
    exact hgroup _ _ (hgroup _ _ (hgroup _ _ hm))

@[simp] theorem isSpawned_respawn1OnMap (m : PoolMap) (id : Nat) :
    (respawn1OnMap kind' m id).isSpawned kind g = m.isSpawned kind g := by
  rw [isSpawned, state_respawn1OnMap, isSpawned]

theorem presence_respawn1OnMap (m : PoolMap) (hne : ¬ (kind = kind' ∧ g = id)) :
    (respawn1OnMap kind' m id).presence kind g = m.presence kind g := by
  cases kind' with
  | creature =>
    rw [respawn1OnMap]
    split_ifs
    · rfl
    · rw [presence_setPresence, if_neg hne]
  | gameobject =>
    rw [respawn1OnMap]
    split_ifs
    · rfl
    · rw [presence_setPresence, if_neg hne]
  | pool => rfl

theorem respawn1OnMap_back (hkind : kind ≠ .pool) (hmark : m.isSpawned kind g = true)
    (hplace : m.presence kind g ≠ .gone) : (respawn1OnMap kind m g).Back kind g := by
  cases kind with
  | creature =>
    rw [respawn1OnMap, if_neg hplace]
    exact ⟨hmark, by simp⟩
  | gameobject =>
    rw [respawn1OnMap, if_neg hplace]
    exact ⟨hmark, by simp⟩
  | pool => exact absurd rfl hkind

theorem spawnPoolOnMap_marked (fuel x : Nat) (hm : m.isSpawned kind g = true) :
    (mgr.spawnPoolOnMap rolls fuel m x).isSpawned kind g = true := by
  apply @spawnPoolOnMap_keeps mgr rolls m (fun m => m.isSpawned kind g = true) (fun _ => True)
  · exact fun _ hm => hm
  · intro m kind' hm
    rw [isSpawned_respawn1OnMap]
    exact hm
  · exact fun _ _ _ _ _ _ hm => isSpawned_addSpawn_of hm
  · exact fun _ _ _ _ _ _ _ hm => hm
  · exact fun _ _ _ _ => trivial
  · trivial
  · exact hm

theorem spawnLoopOnMap_marked {despawn1 : PoolMap → Nat → PoolMap} {last : Nat} (fuel count : Nat)
    (hm : m.isSpawned kind g = true) :
    (mgr.spawnLoopOnMap rolls (spawn1OnMap (mgr.spawnPoolOnMap rolls fuel) .pool) despawn1 .pool p
      count 0 last m).isSpawned kind g = true := by
  apply @spawnLoopOnMap_keeps mgr rolls .pool p m (fun m => m.isSpawned kind g = true)
  · exact fun _ hm => hm
  · exact fun _ hm => hm
  · exact fun m id _ _ _ hm => spawnPoolOnMap_marked fuel id (isSpawned_addSpawn_of hm)
  · exact hm

theorem spawnPoolOnMap_left {rank : Nat → Nat} (hf : mgr.Ranked rank) (hkind : kind ≠ .pool)
    (hzero : g ≠ 0) (hg : g ∈ mgr.members kind p) {mother x : Nat} (hp : p ∈ mgr.members .pool mother)
    (hx : x ≠ p) (hrank : rank x < rank mother) (fuel : Nat) : Left kind g m (mgr.spawnPoolOnMap rolls fuel m x) := by
  have hother : ∀ kind' y, ∀ id ∈ mgr.members kind' y, y ≠ p → ¬ (kind = kind' ∧ g = id) := by
    rintro kind' y id hid hy ⟨rfl, rfl⟩
    exact hy (hf.single kind y p g hid hg)
  apply @spawnPoolOnMap_keeps mgr rolls m (Left kind g m) (fun y => y ≠ p ∧ rank y < rank mother)
  · exact fun _ hm => hm
  · intro m' kind' hm
    refine ⟨?_, ?_⟩
    · rw [isSpawned_respawn1OnMap]
      exact hm.1
    · rw [presence_respawn1OnMap m' fun h => hzero h.2]
      exact hm.2
  · intro m' kind' y id hid hy hm
    refine ⟨?_, hm.2⟩
    rw [isSpawned_addSpawn, if_neg fun h => hkind h.1, if_neg (hother kind' y id hid hy.1)]
    exact hm.1
  · intro m' kind' y id hid hy _ hm
    refine ⟨hm.1, ?_⟩
    rw [presence_setPresence, if_neg (hother kind' y id hid hy.1)]
    exact hm.2
  · intro y id hid hy
    refine ⟨?_, (hf.lt hid).trans hy.2⟩
    rintro rfl
    rw [hf.single .pool y mother id hid hp] at hy
    exact Nat.lt_irrefl _ hy.2
  · exact ⟨hx, hrank⟩
  · exact .refl

theorem despawnPoolOnMap_marked {rank : Nat → Nat} (hf : mgr.Ranked rank) {mother x : Nat}
    (hq : q ∈ mgr.members .pool mother) (hrank : rank x < rank mother) (fuel : Nat)
    (hm : m.isSpawned .pool q = true) : (mgr.despawnPoolOnMap fuel m x).isSpawned .pool q = true := by
  apply @despawnPoolOnMap_keeps mgr m (fun m => m.isSpawned .pool q = true)
    (fun y => rank y < rank mother)
  · intro m' kind' y id _ _ hkind' hm
    rw [isSpawned_removeSpawn]
    simp [Ne.symm hkind', hm]
  · intro m' y id hid hy hm
    have hne : q ≠ id := by
      rintro rfl
      rw [hf.single .pool y mother q hid hq] at hy
      exact Nat.lt_irrefl _ hy
    rw [isSpawned_removeSpawn]
    simp [hne, hm]
  · exact fun y id hid hy => (hf.lt hid).trans hy
  · exact hrank
  · exact hm

theorem firstRolled_ne_zero {trigger count : Nat} {obj : PoolObject}
    (h : mgr.firstRolled rolls kind p trigger count m = some obj) : obj.guid ≠ 0 := by
  induction count generalizing m with
  | zero => cases h
  | succ count ih =>
    rw [firstRolled, Option.or_eq_some_iff] at h
    rcases h with hroll | ⟨-, hnext⟩
    · simpa using (Option.filter_eq_some_iff.mp hroll).2
    · exact ih hnext

theorem rolledFor_ne_zero {trigger : Nat} {obj : PoolObject}
    (h : mgr.rolledFor rolls kind p trigger m = some obj) : obj.guid ≠ 0 :=
  firstRolled_ne_zero h

section Asked

variable {spawn1 despawn1 : PoolMap → Nat → PoolMap} {trigger : Nat}

def Decided (mgr : PoolManager) (rolls : Nat → PoolRoll) (spawn1 despawn1 : PoolMap → Nat → PoolMap)
    (kind : PoolKind) (p trigger : Nat) (first : Option PoolObject) (m m' : PoolMap) : Prop :=
  (first = none ∧ Alike m m') ∨ (∃ obj n m₁, first = some obj ∧ obj.guid = trigger ∧ Alike m m₁ ∧
    m' = mgr.spawnLoopOnMap rolls spawn1 despawn1 kind p n 0 0 (respawn1OnMap kind m₁ trigger)) ∨
  (∃ obj n m₁, first = some obj ∧ obj.guid ≠ trigger ∧ obj.guid ∈ mgr.members kind p ∧
    m.isSpawned kind obj.guid = false ∧ Alike m m₁ ∧ m' = mgr.spawnLoopOnMap rolls spawn1 despawn1 kind p n 0 trigger
      (mgr.despawnObjectOnMap despawn1 kind p trigger
        (spawn1 (m₁.changeSpawns (·.addSpawn kind obj.guid p)) obj.guid)))

theorem Decided.draw {first : Option PoolObject}
    (h : mgr.Decided rolls spawn1 despawn1 kind p trigger first m.draw m') :
    mgr.Decided rolls spawn1 despawn1 kind p trigger first m m' := by
  have hdraw : Alike m m.draw := ⟨rfl, rfl⟩
  rcases h with ⟨hnone, halike⟩ | ⟨obj, n, m₁, hfirst, hself, halike, hloop⟩ |
    ⟨obj, n, m₁, hfirst, hne, hmember, hfree, halike, hloop⟩
  · exact .inl ⟨hnone, hdraw.trans halike⟩
  · exact .inr (.inl ⟨obj, n, m₁, hfirst, hself, hdraw.trans halike, hloop⟩)
  · exact .inr (.inr ⟨obj, n, m₁, hfirst, hne, hmember, hfree, hdraw.trans halike, hloop⟩)

theorem spawnLoopOnMap_decided (htrigger : trigger ≠ 0) (count : Nat) (m : PoolMap) :
    mgr.Decided rolls spawn1 despawn1 kind p trigger (mgr.firstRolled rolls kind p trigger count m) m
      (mgr.spawnLoopOnMap rolls spawn1 despawn1 kind p count trigger 0 m) := by
  induction count generalizing m with
  | zero => exact .inl ⟨rfl, .refl⟩
  | succ count ih =>
    rw [spawnLoopOnMap, firstRolled]
    cases hroll : (mgr.groups kind p).rollOne (m.isSpawned kind) trigger (rolls m.state.drawn) with
    | none => exact (ih m.draw).draw
    | some obj =>
      obtain ⟨hobj, hfree⟩ := rollOne_eq_some hroll
      have hguid : obj.guid ∈ mgr.members kind p := List.mem_map_of_mem hobj
      dsimp only
      by_cases hzero : obj.guid = 0
      · rw [if_pos hzero, Option.filter_some, if_neg (by simp [hzero]), Option.none_or]
        exact (ih m.draw).draw
      · rw [if_neg hzero, Option.filter_some, if_pos (by simp [hzero]), Option.some_or]
        apply Decided.draw
        by_cases hself : obj.guid = trigger
        · rw [if_pos hself, hself]
          exact .inr (.inl ⟨obj, count, m.draw, rfl, hself, .refl, rfl⟩)
        · rw [if_neg hself, if_pos htrigger]
          exact .inr (.inr ⟨obj, count, m.draw, rfl, hself, hguid, hfree.resolve_left hself, .refl, rfl⟩)

theorem spawnObjectOnMap_decided (htrigger : trigger ≠ 0) (hmember : trigger ∈ mgr.members kind p)
    (hmark : m.isSpawned kind trigger = true) :
    mgr.Decided rolls spawn1 despawn1 kind p trigger (mgr.rolledFor rolls kind p trigger m) m
      (mgr.spawnObjectOnMap rolls spawn1 despawn1 kind p trigger m) := by
  have hsome : ¬ (mgr.groups kind p).isEmpty = true := by
    intro hempty
    simp only [PoolGroup.isEmpty, Bool.and_eq_true, List.isEmpty_iff] at hempty
    simp [members, PoolGroup.guids, PoolGroup.objects, hempty.1, hempty.2] at hmember
  have hasks : (trigger ≠ 0 && m.isSpawned kind trigger) = true := by simp [htrigger, hmark]
  rw [spawnObjectOnMap, if_neg hsome, if_pos hasks]
  exact spawnLoopOnMap_decided htrigger _ m

end Asked

/-- What becomes of a member that has died when its pool is updated. -/
structure Respawned (mgr : PoolManager) (rolls : Nat → PoolRoll) (kind : PoolKind) (p g : Nat)
    (m m' : PoolMap) : Prop where
  back : ∀ obj, mgr.rolledFor rolls kind p g m = some obj → obj.guid = g → m'.Back kind g
  replaced : ∀ obj, mgr.rolledFor rolls kind p g m = some obj → obj.guid ≠ g → Replaced kind g kind obj.guid m m'
  left : mgr.rolledFor rolls kind p g m = none → Left kind g m m'

/-- What becomes of a member of a pool that is a member of `mother`. -/
structure RespawnedNested (mgr : PoolManager) (rolls : Nat → PoolRoll) (kind : PoolKind)
    (mother p g : Nat) (m m' : PoolMap) : Prop where
  replaced : ∀ obj, mgr.rolledFor rolls .pool mother p m = some obj → obj.guid ≠ p → Replaced kind g .pool obj.guid m m'
  left : (∀ obj, mgr.rolledFor rolls .pool mother p m = some obj → obj.guid = p) → Left kind g m m'

theorem spawn1OnMap_leaf {spawnPool : PoolMap → Nat → PoolMap} (hkind : kind ≠ .pool) (m : PoolMap)
    (id : Nat) : spawn1OnMap spawnPool kind m id = m.setPresence kind id .placed := by
  cases kind with
  | creature => rfl
  | gameobject => rfl
  | pool => exact absurd rfl hkind

section Leaf

variable {spawnPool despawnPool : PoolMap → Nat → PoolMap} {last : Nat} (hkind : kind ≠ .pool)
  (hzero : g ≠ 0)
include hkind hzero

theorem spawnLoopOnMap_back (count : Nat) (hm : m.Back kind g) :
    (mgr.spawnLoopOnMap rolls (spawn1OnMap spawnPool kind) (despawn1OnMap despawnPool kind) kind p
      count 0 last m).Back kind g := by
  apply spawnLoopOnMap_keeps _ _ _ count hm
  · exact fun _ hm => hm
  · intro m hm
    refine ⟨?_, ?_⟩
    · rw [isSpawned_respawn1OnMap]
      exact hm.1
    · rw [presence_respawn1OnMap m fun h => hzero h.2]
      exact hm.2
  · intro m id _ _ hid hm
    have hne : ¬ g = id := by
      rintro rfl
      rw [hm.1] at hid
      cases hid
    rw [spawn1OnMap_leaf hkind]
    refine ⟨isSpawned_addSpawn_of hm.1, ?_⟩
    rw [presence_setPresence, if_neg fun h => hne h.2]
    exact hm.2

theorem spawnLoopOnMap_vanished (count : Nat) (hm : m.Vanished kind g) :
    (mgr.spawnLoopOnMap rolls (spawn1OnMap spawnPool kind) (despawn1OnMap despawnPool kind) kind p
      count 0 g m).Vanished kind g := by
  apply spawnLoopOnMap_keeps _ _ _ count hm
  · exact fun _ hm => hm
  · intro m hm
    refine ⟨?_, ?_⟩
    · rw [isSpawned_respawn1OnMap]
      exact hm.1
    · rw [presence_respawn1OnMap m fun h => hzero h.2]
      exact hm.2
  · intro m id _ hid _ hm
    rw [spawn1OnMap_leaf hkind]
    simp [Vanished, hkind, Ne.symm hid, hm.1, hm.2]

end Leaf

theorem spawnGroupOnMap_respawned (hkind : kind ≠ .pool) (hzero : g ≠ 0) (hg : g ∈ mgr.members kind p)
    (spawnPool despawnPool : PoolMap → Nat → PoolMap) (hmark : m.isSpawned kind g = true)
    (hplace : m.presence kind g ≠ .gone) :
    mgr.Respawned rolls kind p g m (mgr.spawnGroupOnMap rolls spawnPool despawnPool kind p g m) := by
  have hdecided : mgr.Decided rolls (spawn1OnMap spawnPool kind) (despawn1OnMap despawnPool kind) kind p g
      (mgr.rolledFor rolls kind p g m) m (mgr.spawnGroupOnMap rolls spawnPool despawnPool kind p g m) :=
    spawnObjectOnMap_decided hzero hg hmark
  rcases hdecided with ⟨hfirst, halike⟩ | ⟨obj, n, m₁, hfirst, hself, halike, hloop⟩ |
    ⟨obj, n, m₁, hfirst, hne, hmember, hfree, halike, hloop⟩
  · refine ⟨fun o ho => ?_, fun o ho => ?_, fun _ => halike.left⟩
    · simp [hfirst] at ho
    · simp [hfirst] at ho
  · refine ⟨fun _ _ _ => ?_, fun o ho hne => ?_, fun h => ?_⟩
    · rw [hloop]
      apply spawnLoopOnMap_back hkind hzero
      apply respawn1OnMap_back hkind
      · rw [halike.isSpawned, hmark]
      · rw [halike.left.2]
        exact hplace
    · rw [hfirst, Option.some_inj] at ho
      exact absurd (ho ▸ hself) hne
    · rw [hfirst] at h
      cases h
  · refine ⟨fun o ho hself => ?_, fun o ho _ => ?_, fun h => ?_⟩
    · rw [hfirst, Option.some_inj] at ho
      exact absurd (ho ▸ hself) hne
    · rw [hfirst, Option.some_inj] at ho
      subst ho
      have hspawned : ((m₁.changeSpawns (·.addSpawn kind obj.guid p)).setPresence kind obj.guid
          .placed).Back kind obj.guid := by
        simp [Back]
      have hmarked : ((m₁.changeSpawns (·.addSpawn kind obj.guid p)).setPresence kind obj.guid
          .placed).isSpawned kind g = true := by
        rw [isSpawned_setPresence]
        apply isSpawned_addSpawn_of
        rw [halike.isSpawned, hmark]
      have hend : (mgr.spawnGroupOnMap rolls spawnPool despawnPool kind p g m).Vanished kind g := by
        rw [hloop, spawn1OnMap_leaf hkind]
        apply spawnLoopOnMap_vanished hkind hzero
        exact despawnObjectOnMap_vanishes hkind hg (.inr rfl) (.inl hmarked)
      have hback : (mgr.spawnGroupOnMap rolls spawnPool despawnPool kind p g m).Back kind
          obj.guid := by
        rw [hloop, spawn1OnMap_leaf hkind]
        apply spawnLoopOnMap_back hkind (rolledFor_ne_zero hfirst)
        apply despawnObjectOnMap_keeps _ hspawned
        rintro m _ _ (rfl | rfl) hm
        · exact absurd rfl hzero
        · rw [despawn1OnMap_leaf hkind]
          refine ⟨?_, ?_⟩
          · rw [isSpawned_removeSpawn, if_neg fun h => hkind h.1, if_neg fun h => hne h.2]
            exact hm.1
          · rw [presence_changeSpawns, presence_setPresence, if_neg fun h => hne h.2]
            exact hm.2
      exact ⟨hend, hfree, hback.1, fun _ => hback.2⟩
    · rw [hfirst] at h
      cases h

section Nested

variable {rank : Nat → Nat} (hf : mgr.Ranked rank) (hkind : kind ≠ .pool) (hzero : g ≠ 0)
  (hg : g ∈ mgr.members kind p) {mother : Nat} (hp : p ∈ mgr.members .pool mother)
include hf hkind hzero hg hp

theorem left_spawnPool (fuel : Nat) {q : Nat} (hq : q ∈ mgr.members .pool mother) (hne : q ≠ p) :
    Left kind g m (mgr.spawnPoolOnMap rolls fuel (m.changeSpawns (·.addSpawn .pool q mother)) q) := by
  have hadd : Left kind g m (m.changeSpawns (·.addSpawn .pool q mother)) := by
    refine ⟨?_, rfl⟩
    simp [hkind]
  exact hadd.trans (spawnPoolOnMap_left hf hkind hzero hg hp hne (hf.lt hq) fuel)

theorem spawnLoopOnMap_left {last : Nat} (fuel count : Nat) (hpool : m.isSpawned .pool p = true) :
    Left kind g m (mgr.spawnLoopOnMap rolls (spawn1OnMap (mgr.spawnPoolOnMap rolls fuel) .pool)
      (despawn1OnMap (mgr.despawnPoolOnMap fuel) .pool) .pool mother count 0 last m) := by
  have hall := @spawnLoopOnMap_keeps mgr rolls .pool mother m
    (fun m' => m'.isSpawned .pool p = true ∧ Left kind g m m')
    (spawn1OnMap (mgr.spawnPoolOnMap rolls fuel) .pool)
    (despawn1OnMap (mgr.despawnPoolOnMap fuel) .pool) last (fun _ hm => hm) (fun _ hm => hm)
    (fun m' q hq _ hfree hm => by
      have hne : q ≠ p := by
        rintro rfl
        rw [hm.1] at hfree
        cases hfree
      exact ⟨spawnPoolOnMap_marked fuel q (isSpawned_addSpawn_of hm.1),
        hm.2.trans (left_spawnPool hf hkind hzero hg hp fuel hq hne)⟩)
  exact (hall count ⟨hpool, .refl⟩).2

theorem spawnLoopOnMap_vanishedNested (fuel count : Nat) (hm : m.Vanished kind g) :
    (mgr.spawnLoopOnMap rolls (spawn1OnMap (mgr.spawnPoolOnMap rolls fuel) .pool)
      (despawn1OnMap (mgr.despawnPoolOnMap fuel) .pool) .pool mother count 0 p m).Vanished kind g := by
  apply spawnLoopOnMap_keeps _ _ _ count hm
  · exact fun _ hm => hm
  · exact fun _ hm => hm
  · intro m q hq hne _ hm
    exact (left_spawnPool hf hkind hzero hg hp fuel hq hne).vanished hm

theorem spawnGroupOnMap_respawnedNested (hasks : p ≠ 0) (hpool : m.isSpawned .pool p = true)
    (hmark : m.isSpawned kind g = true) (fuel : Nat) :
    mgr.RespawnedNested rolls kind mother p g m (mgr.spawnGroupOnMap rolls
      (mgr.spawnPoolOnMap rolls (fuel + 1)) (mgr.despawnPoolOnMap (fuel + 1)) .pool mother p m) := by
  have hdecided : mgr.Decided rolls (spawn1OnMap (mgr.spawnPoolOnMap rolls (fuel + 1)) .pool)
      (despawn1OnMap (mgr.despawnPoolOnMap (fuel + 1)) .pool) .pool mother p
      (mgr.rolledFor rolls .pool mother p m) m (mgr.spawnGroupOnMap rolls
        (mgr.spawnPoolOnMap rolls (fuel + 1)) (mgr.despawnPoolOnMap (fuel + 1)) .pool mother p m) :=
    spawnObjectOnMap_decided hasks hp hpool
  rcases hdecided with ⟨hfirst, halike⟩ | ⟨obj, n, m₁, hfirst, hself, halike, hloop⟩ |
    ⟨obj, n, m₁, hfirst, hne, hmember, hfree, halike, hloop⟩
  · refine ⟨fun o ho => ?_, fun _ => halike.left⟩
    simp [hfirst] at ho
  · refine ⟨fun o ho hne => ?_, fun _ => ?_⟩
    · rw [hfirst, Option.some_inj] at ho
      exact absurd (ho ▸ hself) hne
    · rw [hloop]
      apply halike.left.trans
      apply spawnLoopOnMap_left hf hkind hzero hg hp
      rw [halike.isSpawned, hpool]
  · refine ⟨fun o ho _ => ?_, fun h => absurd (h obj hfirst) hne⟩
    rw [hfirst, Option.some_inj] at ho
    subst ho
    let m₂ := mgr.spawnPoolOnMap rolls (fuel + 1) (m₁.changeSpawns (·.addSpawn .pool obj.guid mother))
      obj.guid
    have hmark₂ : m₂.isSpawned kind g = true := by
      rw [(left_spawnPool hf hkind hzero hg hp (fuel + 1) hmember hne).1, halike.isSpawned, hmark]
    have hpool₂ : m₂.isSpawned .pool p = true := by
      apply spawnPoolOnMap_marked
      apply isSpawned_addSpawn_of
      rw [halike.isSpawned, hpool]
    have hother₂ : m₂.isSpawned .pool obj.guid = true := by
      apply spawnPoolOnMap_marked
      simp
    have hvanished : (mgr.spawnGroupOnMap rolls (mgr.spawnPoolOnMap rolls (fuel + 1))
        (mgr.despawnPoolOnMap (fuel + 1)) .pool mother p m).Vanished kind g := by
      rw [hloop]
      apply spawnLoopOnMap_vanishedNested hf hkind hzero hg hp
      apply @despawnObjectOnMap_reaches mgr .pool p mother m₂ _ p
        (fun m => m.isSpawned .pool p = true ∧ m.isSpawned kind g = true) (Vanished kind g)
        (.inr rfl) hp (fun _ h => h.1)
      · exact fun m id hm => vanished_removePool hkind (vanished_despawnPool hkind _ id hm)
      · rintro m id hid (hnone | hself) _
        · exact absurd hnone hasks
        · exact absurd hself hid
      · exact fun m hm => vanished_removePool hkind (despawnPoolOnMap_vanishes hkind hg fuel hm.2)
      · exact .inl ⟨hpool₂, hmark₂⟩
    have hspawned : (mgr.spawnGroupOnMap rolls (mgr.spawnPoolOnMap rolls (fuel + 1))
        (mgr.despawnPoolOnMap (fuel + 1)) .pool mother p m).isSpawned .pool obj.guid = true := by
      rw [hloop]
      apply spawnLoopOnMap_marked
      apply @despawnObjectOnMap_keeps mgr .pool mother m₂ _ (fun m => m.isSpawned .pool obj.guid = true)
      · rintro m id hid (hnone | hself) hm
        · exact absurd hnone hasks
        · subst hself
          have hkept := despawnPoolOnMap_marked hf hmember (hf.lt hid) (fuel + 1) hm
          rw [isSpawned_removeSpawn]
          simp only [despawn1OnMap]
          simp [hne, hkept]
      · exact hother₂
    exact ⟨hvanished, hfree, hspawned, fun h => absurd rfl h⟩

end Nested

theorem Respawned.not_lost (h : mgr.Respawned rolls kind p g m m') (hplace : m.presence kind g ≠ .gone) :
    ¬ (m'.isSpawned kind g = true ∧ m'.presence kind g = .gone) := by
  rintro ⟨hmark, hgone⟩
  cases hrolled : mgr.rolledFor rolls kind p g m with
  | none => exact hplace ((h.left hrolled).2 ▸ hgone)
  | some obj =>
    by_cases hself : obj.guid = g
    · have hback := (h.back obj hrolled hself).2
      rw [hgone] at hback
      cases hback
    · have hvanished := (h.replaced obj hrolled hself).vanished.1
      rw [hmark] at hvanished
      cases hvanished

theorem RespawnedNested.not_lost {mother : Nat} (h : mgr.RespawnedNested rolls kind mother p g m m')
    (hplace : m.presence kind g ≠ .gone) : ¬ (m'.isSpawned kind g = true ∧ m'.presence kind g = .gone) := by
  rintro ⟨hmark, hgone⟩
  by_cases hself : ∀ obj, mgr.rolledFor rolls .pool mother p m = some obj → obj.guid = p
  · exact hplace ((h.left hself).2 ▸ hgone)
  · push Not at hself
    obtain ⟨obj, hrolled, hne⟩ := hself
    have hvanished := (h.replaced obj hrolled hne).vanished.1
    rw [hmark] at hvanished
    cases hvanished

end PoolManager

open PoolManager

/-- Pool 1 has the creatures 10, 11 and 12, two of which are spawned at a time. -/
private def campPools : PoolManager where
  maxPoolId := 1
  poolTemplate p := { maxLimit := if p = 1 then 2 else 0 }
  groups
    | .creature, 1 => { equalChanced := [⟨10, 0, false⟩, ⟨11, 0, false⟩, ⟨12, 0, false⟩] }
    | _, _ => {}
  searchMap
    | .creature, 10 | .creature, 11 | .creature, 12 => some 1
    | _, _ => none

/-- Creature 10 has died and creature 11 is alive. -/
private def camp : PoolMap where
  state := { spawns := { creatures := fun id => id = 10 || id = 11
                         pools := fun p => if p = 1 then some 2 else none } }
  presence kind id := if kind = .creature ∧ id = 10 then .dead else .placed

private theorem members_campPools (kind : PoolKind) (p : Nat) :
    campPools.members kind p = if kind = .creature ∧ p = 1 then [10, 11, 12] else [] := by
  unfold members campPools
  dsimp only
  split
  · rfl
  next h =>
    rw [if_neg fun hcamp => h hcamp.1 hcamp.2]
    rfl

private theorem campPools_forest : campPools.Forest := by
  refine ⟨fun kind p => ?_, fun kind p p' id h h' => ?_, fun c mother => ?_, ?_⟩
  · rw [members_campPools]
    split_ifs <;> decide
  · rw [members_campPools] at h h'
    split_ifs at h with hp
    · split_ifs at h' with hp'
      · rw [hp.2, hp'.2]
      · cases h'
    · cases h
  · rw [members_campPools]
    simp [campPools]
  · refine ⟨fun _ => 0, fun c mother h => ?_, fun _ => Nat.zero_le _⟩
    rw [members_campPools] at h
    simp at h

private theorem camp_countsExact : campPools.CountsExact camp.state.spawns := by
  intro p
  by_cases hp : p = 1
  · subst hp
    decide
  · have hnone : campPools.spawnedMembers camp.state.spawns p = 0 := by
      simp [spawnedMembers, spawnedOf, members_campPools, hp]
    rw [hnone]
    simp [camp, SpawnedPoolData.getSpawnedObjects, hp]

open Framework

variable {mgr : PoolManager} {rolls : Nat → PoolRoll} {kind : PoolKind} {p : Nat} {m : PoolMap}

namespace PoolMap

/-- Creatures and game objects are in the world as long as they are marked. -/
def Agrees (m : PoolMap) : Prop :=
  ∀ kind g, kind ≠ .pool → (m.isSpawned kind g = true ↔ m.presence kind g ≠ .gone)

theorem Agrees.respawn1 (h : m.Agrees) (kind : PoolKind) (id : Nat) : (PoolManager.respawn1OnMap kind m id).Agrees := by
  intro kind' g hkind'
  by_cases hself : kind' = kind ∧ g = id
  · obtain ⟨rfl, rfl⟩ := hself
    by_cases hgone : m.presence kind' g = .gone
    · have hstays : PoolManager.respawn1OnMap kind' m g = m := by
        cases kind' <;> simp [PoolManager.respawn1OnMap, hgone]
      rw [hstays]
      exact h kind' g hkind'
    · have hback := PoolManager.respawn1OnMap_back hkind' ((h kind' g hkind').mpr hgone) hgone
      simp [hback.1, hback.2]
  · rw [PoolManager.isSpawned_respawn1OnMap, PoolManager.presence_respawn1OnMap m hself]
    exact h kind' g hkind'

theorem Agrees.leaf (h : m.Agrees) (hkind : kind ≠ .pool) (id p : Nat) :
    ((m.changeSpawns (·.addSpawn kind id p)).setPresence kind id .placed).Agrees ∧
      ((m.setPresence kind id .gone).changeSpawns (·.removeSpawn kind id p)).Agrees := by
  constructor
  · intro kind' g hkind'
    by_cases hself : kind' = kind ∧ g = id
    · simp [hself]
    · simp [hself, hkind', h kind' g hkind']
  · intro kind' g hkind'
    by_cases hself : kind' = kind ∧ g = id
    · simp [hself, hkind]
    · simp [hself, hkind', h kind' g hkind']

theorem Agrees.pool (h : m.Agrees) (id p : Nat) : (m.changeSpawns (·.addSpawn .pool id p)).Agrees ∧
    (m.changeSpawns (·.removeSpawn .pool id p)).Agrees := by
  constructor
  · intro kind g hkind
    simp [hkind, h kind g hkind]
  · intro kind g hkind
    simp [hkind, h kind g hkind]

end PoolMap

namespace PoolManager

open PoolMap

theorem agrees_despawnPool (fuel x : Nat) (h : m.Agrees) : (mgr.despawnPoolOnMap fuel m x).Agrees :=
  @despawnPoolOnMap_keeps mgr m Agrees (fun _ => True)
    (fun _ _ x id _ _ hkind h => (h.leaf hkind id x).2) (fun _ x id _ _ h => (h.pool id x).2)
    (fun _ _ _ _ => trivial) fuel x trivial h

theorem agrees_spawnLoop {spawn1 despawn1 : PoolMap → Nat → PoolMap}
    (hspawn : ∀ (m : PoolMap) id, m.Agrees → (spawn1 (m.changeSpawns (·.addSpawn kind id p)) id).Agrees)
    (hdespawn : ∀ (m : PoolMap) id, m.Agrees → ((despawn1 m id).changeSpawns (·.removeSpawn kind id p)).Agrees)
    (count trigger last : Nat) (h : m.Agrees) :
    (mgr.spawnLoopOnMap rolls spawn1 despawn1 kind p count trigger last m).Agrees := by
  induction count generalizing trigger last m with
  | zero => exact h
  | succ count ih =>
    have hdraw : m.draw.Agrees := h
    rw [spawnLoopOnMap]
    cases (mgr.groups kind p).rollOne (m.isSpawned kind) trigger (rolls m.state.drawn) with
    | none => exact ih _ _ hdraw
    | some obj =>
      dsimp only
      split_ifs
      · exact ih _ _ hdraw
      · exact ih _ _ (hdraw.respawn1 kind obj.guid)
      · apply ih
        exact despawnObjectOnMap_keeps (fun m id _ _ h => hdespawn m id h) (hspawn _ _ hdraw)
      · exact ih _ _ (hspawn _ _ hdraw)

theorem agrees_spawnGroup {spawnPool : PoolMap → Nat → PoolMap}
    (hpool : ∀ (m : PoolMap) id, m.Agrees → (spawnPool m id).Agrees) (fuel : Nat) (kind : PoolKind)
    (p trigger : Nat) (h : m.Agrees) :
    (mgr.spawnGroupOnMap rolls spawnPool (mgr.despawnPoolOnMap fuel) kind p trigger m).Agrees := by
  have hspawn : ∀ (m : PoolMap) id, m.Agrees →
      (spawn1OnMap spawnPool kind (m.changeSpawns (·.addSpawn kind id p)) id).Agrees := by
    intro m id h
    cases kind with
    | creature => exact (h.leaf (by decide) id p).1
    | gameobject => exact (h.leaf (by decide) id p).1
    | pool => exact hpool _ id (h.pool id p).1
  have hdespawn : ∀ (m : PoolMap) id, m.Agrees →
      ((despawn1OnMap (mgr.despawnPoolOnMap fuel) kind m id).changeSpawns (·.removeSpawn kind id p)).Agrees := by
    intro m id h
    cases kind with
    | creature => exact (h.leaf (by decide) id p).2
    | gameobject => exact (h.leaf (by decide) id p).2
    | pool => exact ((agrees_despawnPool fuel id h).pool id p).2
  rw [spawnGroupOnMap, spawnObjectOnMap]
  split_ifs
  · exact h
  · exact agrees_spawnLoop hspawn hdespawn _ _ _ h
  · exact agrees_spawnLoop hspawn hdespawn _ _ _ h

theorem agrees_spawnPool (fuel x : Nat) (h : m.Agrees) : (mgr.spawnPoolOnMap rolls fuel m x).Agrees := by
  induction fuel generalizing m x with
  | zero => exact h
  | succ fuel ih =>
    simp only [spawnPoolOnMap, List.foldl_cons, List.foldl_nil]
    exact agrees_spawnGroup (fun _ _ => ih _) _ _ _ _ (agrees_spawnGroup (fun _ _ => ih _) _ _ _ _
      (agrees_spawnGroup (fun _ _ => ih _) _ _ _ _ h))

end PoolManager

/-- A request to the pools, or the death of a creature or game object. -/
inductive PoolMapEvent
  | request (e : PoolEvent)
  | died (kind : PoolKind) (guid : Nat)

def PoolMapEvent.request? : PoolMapEvent → Option PoolEvent
  | .request e => some e
  | .died .. => none

def poolMapStep (rolls : Nat → PoolRoll) (w : PoolManager × PoolMap) : PoolMapEvent → PoolManager × PoolMap
  | .request (.spawnPool p) => (w.1, w.1.spawnPoolOnMap rolls w.1.depth w.2 p)
  | .request (.despawnPool p) => (w.1, w.1.despawnPoolOnMap w.1.depth w.2 p)
  | .request (.updatePool kind p guid) => (w.1, w.1.updatePoolOnMap rolls kind p guid w.2)
  | .request (.setExcludeObject kind p guid state) => (w.1.setExcludeObject kind p guid state, w.2)
  | .died kind guid => (w.1, if w.2.presence kind guid = .gone then w.2 else w.2.setPresence kind guid .dead)

theorem poolMapStep_agrees {w : PoolManager × PoolMap} (e : PoolMapEvent) (h : w.2.Agrees) :
    (poolMapStep rolls w e).2.Agrees := by
  cases e with
  | request e =>
    cases e with
    | spawnPool p => exact PoolManager.agrees_spawnPool _ p h
    | despawnPool p => exact PoolManager.agrees_despawnPool _ p h
    | updatePool kind p guid =>
      simp only [poolMapStep, PoolManager.updatePoolOnMap]
      split_ifs
      · exact PoolManager.agrees_spawnGroup (fun _ _ => PoolManager.agrees_spawnPool _ _) _ _ _ _ h
      · exact PoolManager.agrees_spawnGroup (fun _ _ => PoolManager.agrees_spawnPool _ _) _ _ _ _ h
    | setExcludeObject kind p guid state => exact h
  | died kind guid =>
    intro kind' g hkind
    simp only [poolMapStep]
    split_ifs with hgone
    · exact h kind' g hkind
    · by_cases hself : kind' = kind ∧ g = guid
      · rw [PoolMap.isSpawned_setPresence, h kind' g hkind, hself.1, hself.2]
        simp [hgone]
      · simp [hself, h kind' g hkind]

theorem poolMapStep_state (w : PoolManager × PoolMap) (es : List PoolMapEvent) :
    PoolWorld.mk (run (poolMapStep rolls) w es).1 (run (poolMapStep rolls) w es).2.state =
      run (poolStep rolls) ⟨w.1, w.2.state⟩ (es.filterMap (·.request?)) := by
  induction es generalizing w with
  | nil => rfl
  | cons e es ih =>
    rw [run_cons, ih]
    cases e with
    | request e =>
      cases e <;> simp [poolMapStep, PoolMapEvent.request?, poolStep, PoolManager.state_spawnPoolOnMap,
        PoolManager.state_despawnPoolOnMap, PoolManager.state_updatePoolOnMap]
    | died kind guid =>
      simp only [poolMapStep]
      split_ifs <;> rfl

def PoolManager.membersInWorld (mgr : PoolManager) (m : PoolMap) (kind : PoolKind) (p : Nat) : Nat :=
  (mgr.members kind p).countP fun g => m.presence kind g ≠ .gone

theorem PoolManager.membersInWorld_eq {m : PoolMap} (h : m.Agrees) (hkind : kind ≠ .pool) :
    mgr.membersInWorld m kind p = mgr.spawnedOf m.state.spawns kind p := by
  apply List.countP_congr
  intro g _
  rw [decide_eq_true_eq]
  exact (h kind g hkind).symm

end Mangos
