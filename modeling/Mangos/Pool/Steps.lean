import Mangos.Pool.Counts

/-!
# What happens to pools keeps the counts exact

An update of a nested pool spawns into its mother pool, which may itself be nested and not spawned.
-/

namespace Mangos

open Framework

namespace PoolManager

variable {mgr : PoolManager} {rank : Nat → Nat} {kind : PoolKind} {p : Nat}

theorem despawns_leaf (despawnPool : PoolState → Nat → PoolState) (hkind : kind ≠ .pool) :
    mgr.Despawns rank kind p (despawn1 despawnPool kind) := by
  intro s id _ h
  cases kind with
  | creature => exact ⟨.refl h _, fun hpool => (by cases hpool)⟩
  | gameobject => exact ⟨.refl h _, fun hpool => (by cases hpool)⟩
  | pool => exact absurd rfl hkind

/-- A pool is despawned with all that is below it. -/
structure PoolDespawned (mgr : PoolManager) (rank : Nat → Nat) (p : Nat) (s s' : PoolState) : Prop where
  shrunk : mgr.Shrunk rank (rank p + 1) s.spawns s'.spawns
  empty : ∀ kind, ∀ id ∈ mgr.members kind p, s'.spawns.isSpawnedObject kind id = false

theorem PoolDespawned.count {s s' : PoolState} (h : mgr.PoolDespawned rank p s s') :
    s'.spawns.getSpawnedObjects p = 0 := by
  have hzero : ∀ kind, mgr.spawnedOf s'.spawns kind p = 0 := fun kind =>
    List.countP_eq_zero.mpr fun id hid => by rw [h.empty kind id hid]; exact Bool.false_ne_true
  rw [h.shrunk.exact p, spawnedMembers, hzero, hzero, hzero]

theorem despawnPool_spec (hf : mgr.Ranked rank) (fuel : Nat) {s : PoolState} {p : Nat}
    (hfuel : rank p < fuel) (h : mgr.Exact s.spawns) : mgr.PoolDespawned rank p s (mgr.despawnPool fuel s p) := by
  induction fuel generalizing s p with
  | zero => exact absurd hfuel (Nat.not_lt_zero _)
  | succ fuel ih =>
    have hchildren : mgr.Despawns rank .pool p (despawn1 (mgr.despawnPool fuel) .pool) := by
      intro s id hid h
      have hlt := hf.lt hid
      have hchild := @ih s id (by omega) h
      exact ⟨hchild.shrunk.mono hlt, fun _ => hchild.count⟩
    have hleaf := fun kind (hkind : kind ≠ .pool) =>
      @despawns_leaf mgr rank kind p (mgr.despawnPool fuel) hkind
    obtain ⟨hc, hcgone, -⟩ := despawnObject_spec hf (hleaf .creature (by decide)) 0 h
    obtain ⟨hg, hggone, -⟩ := despawnObject_spec hf (hleaf .gameobject (by decide)) 0 hc.exact
    obtain ⟨hp, hpgone, -⟩ := despawnObject_spec hf hchildren 0 hg.exact
    refine ⟨(hc.trans hg).trans hp, fun kind id hid => ?_⟩
    cases kind with
    | creature => exact (hg.trans hp).not_spawned (hcgone id hid (.inl rfl))
    | gameobject => exact hp.not_spawned (hggone id hid (.inl rfl))
    | pool => exact hpgone id hid (.inl rfl)

theorem despawns_despawn1 (hf : mgr.Ranked rank) {fuel : Nat} (hfuel : rank p ≤ fuel)
    (kind : PoolKind) : mgr.Despawns rank kind p (despawn1 (mgr.despawnPool fuel) kind) := by
  by_cases hkind : kind = .pool
  · subst hkind
    intro s id hid h
    have hlt := hf.lt hid
    have hchild := despawnPool_spec hf fuel (hlt.trans_le hfuel) h
    exact ⟨hchild.shrunk.mono hlt, fun _ => hchild.count⟩
  · exact despawns_leaf _ hkind

def Within (mgr : PoolManager) (rank : Nat → Nat) (r : Nat) (spawns : SpawnedPoolData) : Prop :=
  ∀ q, rank q < r → mgr.spawnedMembers spawns q ≤ (mgr.poolTemplate q).maxLimit

/-- Objects below a height are spawned and despawned. -/
structure Changed (mgr : PoolManager) (rank : Nat → Nat) (r : Nat) (spawns spawns' : SpawnedPoolData) :
    Prop where
  exact : mgr.Exact spawns'
  kept : mgr.Kept rank r spawns spawns'
  within : mgr.Within rank r spawns'

theorem Changed.trans {r : Nat} {a b c : SpawnedPoolData} (h : mgr.Changed rank r a b)
    (h' : mgr.Changed rank r b c) : mgr.Changed rank r a c :=
  ⟨h'.exact, h.kept.trans h'.kept, h'.within⟩

/-- What `Spawn1Object` does: below pool `p` objects are spawned and despawned. -/
def Spawns (mgr : PoolManager) (rank : Nat → Nat) (kind : PoolKind) (p : Nat)
    (spawn1 : PoolState → Nat → PoolState) : Prop :=
  ∀ s id, id ∈ mgr.members kind p → mgr.Exact s.spawns → mgr.Within rank (rank p) s.spawns →
    (kind = .pool → s.spawns.isSpawnedObject .pool id = true) → mgr.Changed rank (rank p) s.spawns (spawn1 s id).spawns

theorem rollExplicit_eq_some {free : PoolObject → Bool} {roll : Rat} {objs : List PoolObject}
    {obj : PoolObject} (h : PoolGroup.rollExplicit free roll objs = some obj) : obj ∈ objs ∧ free obj = true := by
  induction objs generalizing roll with
  | nil => cases h
  | cons o objs ih =>
    rw [PoolGroup.rollExplicit] at h
    split at h
    next hfree =>
      cases h
      simp only [Bool.and_eq_true] at hfree
      exact ⟨List.mem_cons_self, hfree.2⟩
    next =>
      obtain ⟨hmem, hfree⟩ := ih h
      exact ⟨List.mem_cons_of_mem _ hmem, hfree⟩

theorem rollOne_eq_some {group : PoolGroup} {isSpawned : Nat → Bool} {trigger : Nat} {roll : PoolRoll}
    {obj : PoolObject} (h : group.rollOne isSpawned trigger roll = some obj) :
    obj ∈ group.objects ∧ (obj.guid = trigger ∨ isSpawned obj.guid = false) := by
  have hfree : ∀ obj : PoolObject, (!obj.exclude &&
      (decide (obj.guid = trigger) || !isSpawned obj.guid)) = true →
      obj.guid = trigger ∨ isSpawned obj.guid = false := by
    intro obj ho
    simp only [Bool.and_eq_true, Bool.or_eq_true, decide_eq_true_eq, Bool.not_eq_true'] at ho
    exact ho.2
  rw [PoolGroup.rollOne, Option.or_eq_some_iff] at h
  rcases h with hexplicit | ⟨-, hequal⟩
  · obtain ⟨hmem, ho⟩ := rollExplicit_eq_some hexplicit
    exact ⟨List.mem_append_right _ hmem, hfree obj ho⟩
  · obtain ⟨hget, ho⟩ := Option.filter_eq_some_iff.mp hequal
    exact ⟨List.mem_append_left _ (List.mem_of_getElem? hget), hfree obj ho⟩

theorem spawnCount_le {limit spawned : Nat} (h : spawned ≤ limit) (asks : Nat) :
    spawnCount limit spawned asks ≤ limit - spawned + asks := by
  have hcast : (limit : Int) - spawned = ((limit - spawned : Nat) : Int) := by omega
  rw [spawnCount, hcast]
  have hle : Int.bmod ((limit - spawned : Nat) : Int) (2 ^ 32) ≤ ((limit - spawned : Nat) : Int) := by
    rw [Int.bmod_def]
    split <;> omega
  omega

section Loop

variable {spawn1 despawn1 : PoolState → Nat → PoolState} (hf : mgr.Ranked rank)
  (hspawn : mgr.Spawns rank kind p spawn1) (hdespawn : mgr.Despawns rank kind p despawn1)
include hf hspawn

theorem spawn_one {s : PoolState} {id : Nat} (hid : id ∈ mgr.members kind p) (h : mgr.Exact s.spawns)
    (hwithin : mgr.Within rank (rank p) s.spawns) (ho : mgr.Open s.spawns p)
    (hnot : s.spawns.isSpawnedObject kind id = false) :
    let s' := spawn1 { s with spawns := s.spawns.addSpawn kind id p } id
    mgr.Exact s'.spawns ∧ mgr.Within rank (rank p) s'.spawns ∧
      mgr.spawnedMembers s'.spawns p = mgr.spawnedMembers s.spawns p + 1 ∧
      ∀ kind' id' p', id' ∈ mgr.members kind' p' → rank p ≤ rank p' → ¬ (kind' = kind ∧ id' = id) →
        s'.spawns.isSpawnedObject kind' id' = s.spawns.isSpawnedObject kind' id' := by
  have hadded : mgr.Exact (s.spawns.addSpawn kind id p) := h.addSpawn hf.toForest hid ho hnot
  have hmembers := spawnedMembers_addSpawn hf.toForest hid ho hnot
  have hbelow : mgr.Within rank (rank p) (s.spawns.addSpawn kind id p) := by
    intro q hq
    rw [hmembers, if_neg fun heq => Nat.lt_irrefl _ (heq ▸ hq), Nat.add_zero]
    exact hwithin q hq
  have hself : kind = .pool → (s.spawns.addSpawn kind id p).isSpawnedObject .pool id = true := by
    rintro rfl
    rw [isSpawnedObject_addSpawn hf.toForest ho hid, if_pos ⟨rfl, rfl⟩]
  have hchanged := hspawn { s with spawns := s.spawns.addSpawn kind id p } id hid hadded hbelow hself
  refine ⟨hchanged.exact, hchanged.within, ?_, fun kind' id' p' hid' hp' hne => ?_⟩
  · rw [hchanged.kept.spawnedMembers (Nat.le_refl _), hmembers, if_pos rfl]
  · rw [hchanged.kept kind' id' p' hid' hp', isSpawnedObject_addSpawn hf.toForest ho hid', if_neg hne]

include hdespawn

theorem spawnLoop_spec (rolls : Nat → PoolRoll) (count trigger last : Nat) {s : PoolState}
    (h : mgr.Exact s.spawns) (hwithin : mgr.Within rank (rank p + 1) s.spawns) (ho : mgr.Open s.spawns p)
    (htrigger : trigger ≠ 0 → trigger ∈ mgr.members kind p ∧ s.spawns.isSpawnedObject kind trigger = true)
    (hcount : mgr.spawnedMembers s.spawns p + count ≤
      (mgr.poolTemplate p).maxLimit + if trigger = 0 then 0 else 1) : mgr.Changed rank (rank p + 1) s.spawns
      (mgr.spawnLoop rolls spawn1 despawn1 kind p count trigger last s).spawns := by
  induction count generalizing trigger last s with
  | zero => exact ⟨h, .refl _, hwithin⟩
  | succ count ih =>
    have hskip : mgr.Changed rank (rank p + 1) s.spawns
        (mgr.spawnLoop rolls spawn1 despawn1 kind p count trigger last
          { s with drawn := s.drawn + 1 }).spawns := by
      refine @ih trigger last { s with drawn := s.drawn + 1 } h hwithin ho htrigger ?_
      exact Nat.le_of_succ_le hcount
    rw [spawnLoop]
    dsimp only
    cases hroll : (mgr.groups kind p).rollOne (s.spawns.isSpawnedObject kind) trigger
        (rolls s.drawn) with
    | none => exact hskip
    | some obj =>
      obtain ⟨hobj, hfree⟩ := rollOne_eq_some hroll
      have hid : obj.guid ∈ mgr.members kind p := List.mem_map_of_mem hobj
      dsimp only
      split
      · exact hskip
      split
      next hsame =>
        refine @ih 0 last { s with drawn := s.drawn + 1 } h hwithin ho
          (fun hne => absurd rfl hne) ?_
        dsimp only
        split at hcount
        · rw [if_pos rfl]
          omega
        · rw [if_pos rfl]
          omega
      next hother =>
        have hnot := hfree.resolve_left hother
        have hbelow : mgr.Within rank (rank p) s.spawns :=
          fun q hq => hwithin q (Nat.lt_succ_of_lt hq)
        obtain ⟨hexact, hwithin', hmembers, hsame⟩ := @spawn_one mgr rank kind p spawn1 hf hspawn
          { s with drawn := s.drawn + 1 } obj.guid hid h hbelow ho hnot
        generalize hs' : spawn1 ⟨s.spawns.addSpawn kind obj.guid p, s.drawn + 1⟩ obj.guid = s'
        rw [hs'] at hexact hwithin' hmembers hsame
        change _ = mgr.spawnedMembers s.spawns p + 1 at hmembers
        have hkept : mgr.Kept rank (rank p + 1) s.spawns s'.spawns := by
          intro kind' id' p' hid' hp'
          refine hsame kind' id' p' hid' (Nat.le_of_succ_le hp') ?_
          rintro ⟨rfl, rfl⟩
          rw [hf.single _ _ _ _ hid' hid] at hp'
          exact Nat.lt_irrefl _ hp'
        have hlimit : ∀ spawns, mgr.Within rank (rank p) spawns →
            mgr.spawnedMembers spawns p ≤ (mgr.poolTemplate p).maxLimit → (∀ q, rank q = rank p → q ≠ p →
              mgr.spawnedMembers spawns q = mgr.spawnedMembers s.spawns q) → mgr.Within rank (rank p + 1) spawns := by
          intro spawns hb hp hq q hlt
          rcases Nat.lt_succ_iff_lt_or_eq.mp hlt with hlt | heq
          · exact hb q hlt
          · by_cases hqp : q = p
            · rw [hqp]
              exact hp
            · rw [hq q heq hqp]
              exact hwithin q (by omega)
        have hpeers : ∀ q, rank q = rank p → q ≠ p →
            mgr.spawnedMembers s'.spawns q = mgr.spawnedMembers s.spawns q := by
          intro q hq hne
          refine spawnedMembers_congr fun kind' id' hid' => ?_
          refine hsame kind' id' q hid' (Nat.le_of_eq hq.symm) ?_
          rintro ⟨rfl, rfl⟩
          exact hne (hf.single _ _ _ _ hid' hid)
        by_cases hzero : trigger = 0
        · subst hzero
          rw [if_neg (by simp)]
          rw [if_pos rfl] at hcount
          have hp : mgr.spawnedMembers s'.spawns p ≤ (mgr.poolTemplate p).maxLimit := by
            rw [hmembers]
            omega
          have hnext := @ih 0 last s' hexact (hlimit _ hwithin' hp hpeers)
            (hkept.open hf (Nat.le_refl _) ho) (fun hne => absurd rfl hne) (by
              rw [hmembers, if_pos rfl]
              omega)
          exact ⟨hnext.exact, hkept.trans hnext.kept, hnext.within⟩
        · rw [if_pos (by simpa using hzero)]
          rw [if_neg hzero] at hcount
          obtain ⟨hmember, hspawned⟩ := htrigger hzero
          have hstays : s'.spawns.isSpawnedObject kind trigger = true := by
            rw [hsame kind trigger p hmember (Nat.le_refl _) fun heq => hother heq.2.symm]
            exact hspawned
          obtain ⟨hshrunk, hgone, hothers⟩ := despawnObject_spec hf hdespawn trigger hexact
          have hfewer : ∀ q, rank p ≤ rank q → mgr.spawnedMembers s'.spawns q =
              mgr.spawnedMembers (mgr.despawnObject despawn1 kind p trigger s').spawns q +
                if q = p then 1 else 0 := by
            intro q hq
            refine spawnedMembers_of_changed hf.toForest hmember
              (hgone trigger hmember (.inr rfl)) hstays fun kind' id' hid' hne => ?_
            exact (hothers kind' id' q hid' hq fun h => hne ⟨h.1, h.2.resolve_left hzero⟩).symm
          have hp := hfewer p (Nat.le_refl _)
          rw [if_pos rfl, hmembers] at hp
          have hlimit' := hwithin p (Nat.lt_succ_self _)
          have hnext := @ih 0 trigger _ hshrunk.exact
            (hlimit _ (fun q hq => (hshrunk.spawnedMembers_le q).trans (hwithin' q hq))
              (by omega) fun q hq hne => by
                have hpeer := hfewer q (Nat.le_of_eq hq.symm)
                rw [if_neg hne, Nat.add_zero] at hpeer
                rw [← hpeer, hpeers q hq hne])
            ((hkept.trans hshrunk.kept).open hf (Nat.le_refl _) ho) (fun hne => absurd rfl hne) (by
              rw [if_pos rfl]
              omega)
          exact ⟨hnext.exact, (hkept.trans hshrunk.kept).trans hnext.kept, hnext.within⟩

theorem spawnObject_spec (rolls : Nat → PoolRoll) (trigger : Nat) {s : PoolState}
    (h : mgr.Exact s.spawns) (hwithin : mgr.Within rank (rank p + 1) s.spawns)
    (ho : mgr.Open s.spawns p) (htrigger : trigger ≠ 0 → trigger ∈ mgr.members kind p) :
    mgr.Changed rank (rank p + 1) s.spawns (mgr.spawnObject rolls spawn1 despawn1 kind p trigger s).spawns := by
  have hlimit := hwithin p (Nat.lt_succ_self _)
  have hcount : ∀ asks, spawnCount (mgr.poolTemplate p).maxLimit (mgr.spawnedMembers s.spawns p) asks ≤
      (mgr.poolTemplate p).maxLimit - mgr.spawnedMembers s.spawns p + asks := spawnCount_le hlimit
  rw [spawnObject]
  split
  · exact ⟨h, .refl _, hwithin⟩
  dsimp only
  rw [h p]
  split
  next hasks =>
    simp only [ne_eq, Bool.and_eq_true, decide_eq_true_eq] at hasks
    refine spawnLoop_spec hf hspawn hdespawn rolls _ trigger 0 h hwithin ho
      (fun hne => ⟨htrigger hne, hasks.2⟩) ?_
    have hone := hcount 1
    rw [if_neg hasks.1]
    omega
  · refine spawnLoop_spec hf hspawn hdespawn rolls _ 0 0 h hwithin ho (fun hne => absurd rfl hne) ?_
    have hzero := hcount 0
    rw [if_pos rfl]
    omega

end Loop

theorem Changed.mono {r r' : Nat} {spawns spawns' : SpawnedPoolData} (hr : r ≤ r')
    (h : mgr.Changed rank r spawns spawns') (hwithin : mgr.Within rank r' spawns) :
    mgr.Changed rank r' spawns spawns' := by
  refine ⟨h.exact, h.kept.mono hr, fun q hq => ?_⟩
  by_cases hlow : rank q < r
  · exact h.within q hlow
  · rw [h.kept.spawnedMembers (Nat.le_of_not_lt hlow)]
    exact hwithin q hq

theorem spawns_spawn1 (hf : mgr.Ranked rank) {spawnPool : PoolState → Nat → PoolState}
    (hspawn : ∀ {s : PoolState} {id : Nat}, rank id < rank p → mgr.Exact s.spawns →
      mgr.Within rank (rank id + 1) s.spawns → mgr.Open s.spawns id →
      mgr.Changed rank (rank id + 1) s.spawns (spawnPool s id).spawns)
    (kind : PoolKind) : mgr.Spawns rank kind p (spawn1 spawnPool kind) := by
  intro s id hid h hwithin hspawned
  cases kind with
  | creature => exact ⟨h, .refl _, hwithin⟩
  | gameobject => exact ⟨h, .refl _, hwithin⟩
  | pool =>
    have hlt := hf.lt hid
    have hbelow : mgr.Within rank (rank id + 1) s.spawns := fun q hq => hwithin q (hq.trans_le hlt)
    exact (hspawn hlt h hbelow (.inr (hspawned rfl))).mono hlt hwithin

section Pool

variable (hf : mgr.Ranked rank) (rolls : Nat → PoolRoll)
include hf

theorem spawnGroup_spec {spawnPool : PoolState → Nat → PoolState} {fuel : Nat} (hfuel : rank p ≤ fuel)
    (hspawn : ∀ {s : PoolState} {id : Nat}, rank id < rank p → mgr.Exact s.spawns →
      mgr.Within rank (rank id + 1) s.spawns → mgr.Open s.spawns id →
      mgr.Changed rank (rank id + 1) s.spawns (spawnPool s id).spawns)
    (kind : PoolKind) (trigger : Nat) {s : PoolState} (h : mgr.Exact s.spawns)
    (hwithin : mgr.Within rank (rank p + 1) s.spawns) (ho : mgr.Open s.spawns p)
    (htrigger : trigger ≠ 0 → trigger ∈ mgr.members kind p) : mgr.Changed rank (rank p + 1) s.spawns
      (mgr.spawnGroup rolls spawnPool (mgr.despawnPool fuel) kind p trigger s).spawns :=
  spawnObject_spec hf (spawns_spawn1 hf hspawn kind) (despawns_despawn1 hf hfuel kind) rolls trigger h
    hwithin ho htrigger

theorem spawnPool_spec (fuel : Nat) {s : PoolState} {p : Nat} (hfuel : rank p < fuel)
    (h : mgr.Exact s.spawns) (hwithin : mgr.Within rank (rank p + 1) s.spawns) (ho : mgr.Open s.spawns p) :
    mgr.Changed rank (rank p + 1) s.spawns (mgr.spawnPool rolls fuel s p).spawns := by
  induction fuel generalizing s p with
  | zero => exact absurd hfuel (Nat.not_lt_zero _)
  | succ fuel ih =>
    have hle := Nat.le_of_lt_succ hfuel
    have hgroup : ∀ kind {s : PoolState}, mgr.Exact s.spawns → mgr.Within rank (rank p + 1) s.spawns →
        mgr.Open s.spawns p → mgr.Changed rank (rank p + 1) s.spawns
          (mgr.spawnGroup rolls (mgr.spawnPool rolls fuel) (mgr.despawnPool fuel) kind p 0 s).spawns :=
      fun kind _ h hwithin ho => spawnGroup_spec hf rolls hle
        (fun hlt h hwithin ho => ih (hlt.trans_le hle) h hwithin ho) kind 0 h hwithin ho
        (fun hne => absurd rfl hne)
    have hpool := hgroup .pool h hwithin ho
    have hgo := hgroup .gameobject hpool.exact hpool.within (hpool.kept.open hf (Nat.le_refl _) ho)
    have hboth := hpool.trans hgo
    exact hboth.trans
      (hgroup .creature hboth.exact hboth.within (hboth.kept.open hf (Nat.le_refl _) ho))

end Pool

theorem Forest.exists_ranked (hf : mgr.Forest) : ∃ rank, mgr.Ranked rank ∧ ∀ p, rank p < mgr.depth := by
  obtain ⟨rank, hlt, hle⟩ := hf.ranked
  exact ⟨rank, ⟨hf, fun hc => hlt _ _ hc⟩, fun p => Nat.lt_succ_of_le (hle p)⟩

theorem CountsExact.exact {spawns : SpawnedPoolData} (h : mgr.CountsExact spawns) : mgr.Exact spawns := fun p => (h p).1

theorem CountsExact.within {spawns : SpawnedPoolData} (h : mgr.CountsExact spawns) (r : Nat) :
    mgr.Within rank r spawns := by
  intro q _
  rw [← (h q).1]
  exact (h q).2

theorem Changed.countsExact {r : Nat} {spawns spawns' : SpawnedPoolData}
    (h : mgr.Changed rank r spawns spawns') (hold : mgr.CountsExact spawns) : mgr.CountsExact spawns' := by
  intro q
  refine ⟨h.exact q, ?_⟩
  rw [h.exact q]
  by_cases hlow : rank q < r
  · exact h.within q hlow
  · rw [h.kept.spawnedMembers (Nat.le_of_not_lt hlow), ← (hold q).1]
    exact (hold q).2

theorem Shrunk.countsExact {r : Nat} {spawns spawns' : SpawnedPoolData}
    (h : mgr.Shrunk rank r spawns spawns') (hold : mgr.CountsExact spawns) : mgr.CountsExact spawns' := by
  intro q
  refine ⟨h.exact q, ?_⟩
  rw [h.exact q]
  exact (h.spawnedMembers_le q).trans ((hold q).1 ▸ (hold q).2)

theorem guids_setExcludeObject (group : PoolGroup) (guid : Nat) (state : Bool) :
    (group.setExcludeObject guid state).guids = group.guids := by
  have hfirst : ∀ objs, (PoolGroup.excludeFirst guid state objs).map (·.guid) = objs.map (·.guid) := by
    intro objs
    induction objs with
    | nil => rfl
    | cons obj objs ih =>
      rw [PoolGroup.excludeFirst]
      split
      · rfl
      · rw [List.map_cons, List.map_cons, ih]
  rw [PoolGroup.setExcludeObject]
  split <;> simp [PoolGroup.guids, PoolGroup.objects, hfirst]

@[simp] theorem members_setExcludeObject (kind' : PoolKind) (p' guid : Nat) (state : Bool) :
    (mgr.setExcludeObject kind' p' guid state).members kind p = mgr.members kind p := by
  rw [members, members, setExcludeObject]
  dsimp only
  by_cases hkind : kind = kind'
  · subst hkind
    rw [Function.update_self]
    by_cases hp : p = p'
    · subst hp
      rw [Function.update_self, guids_setExcludeObject]
    · rw [Function.update_of_ne hp]
  · rw [Function.update_of_ne hkind]

theorem Forest.setExcludeObject (hf : mgr.Forest) (kind : PoolKind) (p guid : Nat) (state : Bool) :
    (mgr.setExcludeObject kind p guid state).Forest := by
  refine ⟨fun kind' p' => ?_, fun kind' p' p'' id => ?_, fun c m => ?_, ?_⟩
  · rw [members_setExcludeObject]
    exact hf.nodup kind' p'
  · rw [members_setExcludeObject, members_setExcludeObject]
    exact hf.single kind' p' p'' id
  · rw [members_setExcludeObject]
    exact hf.mother c m
  · obtain ⟨rank, hlt, hle⟩ := hf.ranked
    refine ⟨rank, fun c m hc => hlt c m ?_, hle⟩
    rwa [members_setExcludeObject] at hc

end PoolManager

/-- When an event keeps the counts right: what it spawns into is no member of another pool or is spawned,
and an object that asks is a member of its pool. -/
def PoolOk (w : PoolWorld) : PoolEvent → Prop
  | .spawnPool p => w.mgr.Open w.state.spawns p
  | .updatePool kind p guid =>
    if w.mgr.isPartOfAPool .pool p ≠ 0 then
      w.mgr.Open w.state.spawns (w.mgr.isPartOfAPool .pool p)
    else w.mgr.Open w.state.spawns p ∧ (guid ≠ 0 → guid ∈ w.mgr.members kind p)
  | .despawnPool _ | .setExcludeObject .. => True

instance (w : PoolWorld) : ∀ e, Decidable (PoolOk w e)
  | .spawnPool _ => inferInstanceAs (Decidable (PoolManager.Open ..))
  | .updatePool kind p guid =>
    inferInstanceAs (Decidable (if w.mgr.isPartOfAPool .pool p ≠ 0 then
      w.mgr.Open w.state.spawns (w.mgr.isPartOfAPool .pool p)
    else w.mgr.Open w.state.spawns p ∧ (guid ≠ 0 → guid ∈ w.mgr.members kind p)))
  | .despawnPool _ | .setExcludeObject .. => .isTrue trivial

namespace PoolWorld

/-- A forest of pools with the right counts. -/
structure Counted (w : PoolWorld) : Prop where
  forest : w.mgr.Forest
  counts : w.mgr.CountsExact w.state.spawns

theorem poolStep_counted {rolls : Nat → PoolRoll} {w : PoolWorld} (e : PoolEvent) (hok : PoolOk w e)
    (h : w.Counted) : (poolStep rolls w e).Counted := by
  obtain ⟨rank, hf, hdepth⟩ := h.forest.exists_ranked
  have hexact := h.counts.exact
  have hspawn : ∀ {s : PoolState} {p : Nat}, w.mgr.Exact s.spawns →
      w.mgr.Within rank (rank p + 1) s.spawns → w.mgr.Open s.spawns p →
      w.mgr.Changed rank (rank p + 1) s.spawns (w.mgr.spawnPool rolls w.mgr.depth s p).spawns :=
    fun h hwithin ho => PoolManager.spawnPool_spec hf rolls _ (hdepth _) h hwithin ho
  have hgroup : ∀ kind p trigger, w.mgr.Open w.state.spawns p →
      (trigger ≠ 0 → trigger ∈ w.mgr.members kind p) →
      w.mgr.CountsExact (w.mgr.spawnGroup rolls (w.mgr.spawnPool rolls w.mgr.depth)
        (w.mgr.despawnPool w.mgr.depth) kind p trigger w.state).spawns :=
    fun kind p trigger ho htrigger => PoolManager.Changed.countsExact
      (PoolManager.spawnGroup_spec hf rolls (Nat.le_of_lt (hdepth p))
        (fun _ h hwithin ho => hspawn h hwithin ho) kind trigger hexact (h.counts.within _) ho
        htrigger) h.counts
  cases e with
  | spawnPool p =>
    exact ⟨h.forest, PoolManager.Changed.countsExact
      (hspawn hexact (h.counts.within _) hok) h.counts⟩
  | despawnPool p =>
    have hdespawned := PoolManager.despawnPool_spec hf _ (hdepth p) hexact
    exact ⟨h.forest, hdespawned.shrunk.countsExact h.counts⟩
  | updatePool kind p guid =>
    refine ⟨h.forest, ?_⟩
    dsimp only [poolStep, PoolManager.updatePool]
    rw [PoolOk] at hok
    split
    next hm =>
      rw [if_pos hm] at hok
      refine hgroup .pool _ p hok fun _ => ?_
      rw [← h.forest.mother]
      cases hmother : w.mgr.searchMap .pool p with
      | none => exact absurd (by rw [PoolManager.isPartOfAPool, hmother]; rfl) hm
      | some m => rw [PoolManager.isPartOfAPool, hmother, Option.getD_some]
    next hm =>
      rw [if_neg hm] at hok
      exact hgroup kind p guid hok.1 hok.2
  | setExcludeObject kind p guid state =>
    refine ⟨h.forest.setExcludeObject kind p guid state, fun q => ?_⟩
    have hcounts := h.counts q
    simp only [PoolManager.spawnedMembers, PoolManager.spawnedOf] at hcounts
    simp only [poolStep, PoolManager.spawnedMembers, PoolManager.spawnedOf, PoolManager.members_setExcludeObject]
    exact hcounts

end PoolWorld

theorem PoolManager.countsExact_empty (mgr : PoolManager) : mgr.CountsExact {} := by
  have hnone : ∀ kind p, mgr.spawnedOf {} kind p = 0 := fun kind p =>
    List.countP_eq_zero.mpr fun id _ => by cases kind <;> exact Bool.false_ne_true
  intro p
  rw [PoolManager.spawnedMembers, hnone, hnone, hnone]
  exact ⟨rfl, Nat.zero_le _⟩

/-- If nothing is spawned into a pool that is nested and not spawned itself, the count of each pool is that of its
spawned members and within the limit, whatever is rolled. -/
theorem poolCounts_exact (mgr : PoolManager) (hf : mgr.Forest) (rolls : Nat → PoolRoll)
    (es : List PoolEvent) (hok : Guarded (poolStep rolls) PoolOk ⟨mgr, {}⟩ es) :
    (run (poolStep rolls) ⟨mgr, {}⟩ es).mgr.CountsExact (run (poolStep rolls) ⟨mgr, {}⟩ es).state.spawns :=
  (run_invariant (fun _ e hok h => PoolWorld.poolStep_counted e hok h) hok
    (PoolWorld.Counted.mk hf mgr.countsExact_empty)).counts

/-- Pool 1 has the pools 2 and 3, and pool 2 has pool 4; creature 10 is in pool 4 and creature 11 in
pool 3. One member of each is spawned at a time. -/
private def nestedPools : PoolManager where
  maxPoolId := 4
  poolTemplate p := { maxLimit := if p = 0 then 0 else 1 }
  groups
    | .pool, 1 => { equalChanced := [⟨2, 0, false⟩, ⟨3, 0, false⟩] }
    | .pool, 2 => { equalChanced := [⟨4, 0, false⟩] }
    | .creature, 3 => { equalChanced := [⟨11, 0, false⟩] }
    | .creature, 4 => { equalChanced := [⟨10, 0, false⟩] }
    | _, _ => {}
  searchMap
    | .pool, 2 | .pool, 3 => some 1
    | .pool, 4 => some 2
    | .creature, 11 => some 3
    | .creature, 10 => some 4
    | _, _ => none

private theorem mem_nestedPools {kind : PoolKind} {p id : Nat} (h : id ∈ nestedPools.members kind p) :
    (kind, p, id) ∈ [(PoolKind.pool, 1, 2), (.pool, 1, 3), (.pool, 2, 4), (.creature, 3, 11), (.creature, 4, 10)] := by
  unfold PoolManager.members nestedPools at h
  dsimp only at h
  split at h <;> simp_all [PoolGroup.guids, PoolGroup.objects]

private theorem nestedPools_forest : nestedPools.Forest := by
  refine ⟨fun kind p => ?_, fun kind p p' id h h' => ?_, fun c m => ?_, ?_⟩
  · unfold PoolManager.members nestedPools
    dsimp only
    split <;> decide
  · have hp := mem_nestedPools h
    have hp' := mem_nestedPools h'
    simp only [List.mem_cons, Prod.mk.injEq, List.not_mem_nil, or_false] at hp hp'
    omega
  · constructor
    · intro h
      unfold nestedPools at h
      dsimp only at h
      split at h
      · cases h
        decide
      · cases h
        decide
      · cases h
        decide
      all_goals simp_all
    · intro h
      have hmem := mem_nestedPools h
      simp only [List.mem_cons, Prod.mk.injEq, List.not_mem_nil, or_false] at hmem
      rcases hmem with ⟨-, rfl, rfl⟩ | ⟨-, rfl, rfl⟩ | ⟨-, rfl, rfl⟩ | ⟨hkind, -⟩ | ⟨hkind, -⟩
      · rfl
      · rfl
      · rfl
      · cases hkind
      · cases hkind
  · refine ⟨fun p => if p = 1 then 2 else if p = 2 then 1 else 0, fun c m h => ?_, fun p => ?_⟩
    · have hmem := mem_nestedPools h
      simp only [List.mem_cons, Prod.mk.injEq, List.not_mem_nil, or_false] at hmem
      rcases hmem with ⟨-, rfl, rfl⟩ | ⟨-, rfl, rfl⟩ | ⟨-, rfl, rfl⟩ | ⟨hkind, -⟩ | ⟨hkind, -⟩
      · decide
      · decide
      · decide
      · cases hkind
      · cases hkind
    · dsimp only
      split
      · decide
      split <;> exact Nat.le_of_lt (by decide)

/-- Pool 3 is rolled for pool 1, and then pool 2 in its place when creature 11 asks. -/
theorem poolCounts_exact_replaced :
    let rolls : Nat → PoolRoll := fun n => ⟨0, if n = 0 then 1 else 0⟩
    let w := run (poolStep rolls) ⟨nestedPools, {}⟩ [.spawnPool 1, .updatePool .creature 3 11]
    w.mgr.CountsExact w.state.spawns :=
  poolCounts_exact nestedPools nestedPools_forest _ _ (by decide +kernel)

/-- Pool 3 is rolled for pool 1. A creature of pool 4 may then be spawned again, and the update of its
pool spawns it into pool 2, which pool 1 has not spawned. -/
theorem poolCounts_nested : ¬ ∀ (mgr : PoolManager), mgr.Forest → ∀ (rolls : Nat → PoolRoll) (es : List PoolEvent),
      (run (poolStep rolls) ⟨mgr, {}⟩ es).mgr.CountsExact (run (poolStep rolls) ⟨mgr, {}⟩ es).state.spawns := by
  intro h
  have hone := (h nestedPools nestedPools_forest (fun n => ⟨0, if n = 0 then 1 else 0⟩)
    [.spawnPool 1, .setExcludeObject .creature 4 10 false, .updatePool .creature 4 0] 1).1
  revert hone
  decide +kernel

end Mangos
