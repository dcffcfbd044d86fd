import Mangos.Framework.Counters
import Mangos.Framework.Run
import Mangos.Pool.Pool

/-!
# The counts of spawned members

As long as nothing is spawned into a pool that is nested and not spawned itself, the count of each pool
is the number of its members that are spawned, and it is within the limit.
-/

namespace Mangos

open Framework

namespace PoolManager

variable (mgr : PoolManager)

def members (kind : PoolKind) (p : Nat) : List Nat := (mgr.groups kind p).guids

def spawnedOf (spawns : SpawnedPoolData) (kind : PoolKind) (p : Nat) : Nat :=
  (mgr.members kind p).countP (spawns.isSpawnedObject kind)

def spawnedMembers (spawns : SpawnedPoolData) (p : Nat) : Nat :=
  mgr.spawnedOf spawns .creature p + mgr.spawnedOf spawns .gameobject p + mgr.spawnedOf spawns .pool p

/-- Objects are members once, of one pool, and pools are nested without cycles. -/
structure Forest (mgr : PoolManager) : Prop where
  nodup : ∀ kind p, (mgr.members kind p).Nodup
  single : ∀ kind p p' id, id ∈ mgr.members kind p → id ∈ mgr.members kind p' → p = p'
  mother : ∀ c m, mgr.searchMap .pool c = some m ↔ c ∈ mgr.members .pool m
  ranked : ∃ rank : Nat → Nat, (∀ c m, c ∈ mgr.members .pool m → rank c < rank m) ∧ ∀ p, rank p ≤ mgr.maxPoolId

/-- A forest with the heights of its pools. -/
structure Ranked (mgr : PoolManager) (rank : Nat → Nat) : Prop extends mgr.Forest where
  lt : ∀ {c m}, c ∈ mgr.members .pool m → rank c < rank m

def Exact (spawns : SpawnedPoolData) : Prop :=
  ∀ p, spawns.getSpawnedObjects p = mgr.spawnedMembers spawns p

/-- The claim on the counts: they are exact and within the limits. -/
def CountsExact (spawns : SpawnedPoolData) : Prop :=
  ∀ p, spawns.getSpawnedObjects p = mgr.spawnedMembers spawns p ∧
    spawns.getSpawnedObjects p ≤ (mgr.poolTemplate p).maxLimit

/-- A pool that may be spawned into: it is no member of another one, or it is spawned. -/
def Open (spawns : SpawnedPoolData) (p : Nat) : Prop :=
  mgr.searchMap .pool p = none ∨ spawns.isSpawnedObject .pool p = true

instance (spawns : SpawnedPoolData) (p : Nat) : Decidable (mgr.Open spawns p) :=
  inferInstanceAs (Decidable (_ ∨ _))

end PoolManager

namespace SpawnedPoolData

variable {spawns : SpawnedPoolData} {kind kind' : PoolKind} {id id' p p' : Nat}

@[simp] theorem isSpawnedObject_insert : (spawns.insert kind id).isSpawnedObject kind' id' =
    if kind' = kind ∧ id' = id then true else spawns.isSpawnedObject kind' id' := by
  cases kind <;> cases kind' <;> simp only [insert, isSpawnedObject, Function.update_apply] <;>
    by_cases h : id' = id <;> simp [h]

@[simp] theorem isSpawnedObject_erase : (spawns.erase kind id).isSpawnedObject kind' id' =
    if kind' = kind ∧ id' = id then false else spawns.isSpawnedObject kind' id' := by
  cases kind <;> cases kind' <;> simp only [erase, isSpawnedObject, Function.update_apply] <;>
    by_cases h : id' = id <;> simp [h]

@[simp] theorem isSpawnedObject_changeCount {f : Nat → Nat} : (spawns.changeCount p f).isSpawnedObject kind' id' =
      if kind' = .pool ∧ id' = p then true else spawns.isSpawnedObject kind' id' := by
  cases kind' <;> simp only [changeCount, isSpawnedObject, Function.update_apply] <;>
    by_cases h : id' = p <;> simp [h]

@[simp] theorem getSpawnedObjects_changeCount {f : Nat → Nat} : (spawns.changeCount p f).getSpawnedObjects p' =
      if p' = p then f (spawns.getSpawnedObjects p) else spawns.getSpawnedObjects p' := by
  simp only [changeCount, getSpawnedObjects, Function.update_apply]
  by_cases h : p' = p <;> simp [h]

theorem getSpawnedObjects_insert : (spawns.insert kind id).getSpawnedObjects p' =
    if kind = .pool ∧ p' = id then 0 else spawns.getSpawnedObjects p' := by
  cases kind <;> simp only [insert, getSpawnedObjects, Function.update_apply] <;>
    by_cases h : p' = id <;> simp [h]

theorem getSpawnedObjects_erase : (spawns.erase kind id).getSpawnedObjects p' =
    if kind = .pool ∧ p' = id then 0 else spawns.getSpawnedObjects p' := by
  cases kind <;> simp only [erase, getSpawnedObjects, Function.update_apply] <;>
    by_cases h : p' = id <;> simp [h]

theorem getSpawnedObjects_of_not (h : spawns.isSpawnedObject .pool p = false) : spawns.getSpawnedObjects p = 0 := by
  simp only [isSpawnedObject, Option.isSome_eq_false_iff, Option.isNone_iff_eq_none] at h
  rw [getSpawnedObjects, h, Option.getD_none]

theorem isSpawnedObject_of_pos (h : 0 < spawns.getSpawnedObjects p) : spawns.isSpawnedObject .pool p = true := by
  by_contra hnot
  rw [getSpawnedObjects_of_not (Bool.eq_false_iff.mpr hnot)] at h
  exact Nat.lt_irrefl _ h

end SpawnedPoolData

namespace PoolManager

variable {mgr : PoolManager} {rank : Nat → Nat} {spawns spawns' : SpawnedPoolData}
  {kind : PoolKind} {id p : Nat}

def Kept (mgr : PoolManager) (rank : Nat → Nat) (r : Nat) (spawns spawns' : SpawnedPoolData) : Prop :=
  ∀ kind id p, id ∈ mgr.members kind p → r ≤ rank p → spawns'.isSpawnedObject kind id = spawns.isSpawnedObject kind id

theorem Kept.refl (r : Nat) : mgr.Kept rank r spawns spawns := fun _ _ _ _ _ => rfl

theorem Kept.trans {r : Nat} {spawns'' : SpawnedPoolData} (h : mgr.Kept rank r spawns spawns')
    (h' : mgr.Kept rank r spawns' spawns'') : mgr.Kept rank r spawns spawns'' :=
  fun kind id p hid hp => (h' kind id p hid hp).trans (h kind id p hid hp)

theorem Kept.mono {r r' : Nat} (hr : r ≤ r') (h : mgr.Kept rank r spawns spawns') : mgr.Kept rank r' spawns spawns' :=
  fun kind id p hid hp => h kind id p hid (hr.trans hp)

theorem spawnedOf_congr (h : ∀ id ∈ mgr.members kind p,
    spawns'.isSpawnedObject kind id = spawns.isSpawnedObject kind id) :
    mgr.spawnedOf spawns' kind p = mgr.spawnedOf spawns kind p :=
  List.countP_congr fun id hid => by rw [h id hid]

theorem spawnedMembers_congr (h : ∀ kind, ∀ id ∈ mgr.members kind p,
    spawns'.isSpawnedObject kind id = spawns.isSpawnedObject kind id) :
    mgr.spawnedMembers spawns' p = mgr.spawnedMembers spawns p := by
  rw [spawnedMembers, spawnedMembers, spawnedOf_congr (h .creature), spawnedOf_congr (h .gameobject),
    spawnedOf_congr (h .pool)]

theorem Kept.spawnedMembers {r : Nat} (h : mgr.Kept rank r spawns spawns') (hp : r ≤ rank p) :
    mgr.spawnedMembers spawns' p = mgr.spawnedMembers spawns p :=
  spawnedMembers_congr fun kind id hid => h kind id p hid hp

theorem Kept.open {r : Nat} (hf : mgr.Ranked rank) (h : mgr.Kept rank r spawns spawns')
    (hr : r ≤ rank p + 1) (ho : mgr.Open spawns p) : mgr.Open spawns' p := by
  cases hm : mgr.searchMap .pool p with
  | none => exact .inl hm
  | some m =>
    have hmember := (hf.mother p m).mp hm
    rw [Open, hm] at ho
    refine .inr ?_
    rw [h .pool p m hmember (hr.trans (hf.lt hmember))]
    exact ho.resolve_left (by simp)

theorem spawnedMembers_of_changed (hf : mgr.Forest) (hid : id ∈ mgr.members kind p)
    (hfrom : spawns.isSpawnedObject kind id = false) (hto : spawns'.isSpawnedObject kind id = true)
    {p' : Nat} (hsame : ∀ kind', ∀ id' ∈ mgr.members kind' p', ¬ (kind' = kind ∧ id' = id) →
      spawns'.isSpawnedObject kind' id' = spawns.isSpawnedObject kind' id') :
    mgr.spawnedMembers spawns' p' = mgr.spawnedMembers spawns p' + if p' = p then 1 else 0 := by
  by_cases hp : p' = p
  · subst hp
    have hone : mgr.spawnedOf spawns' kind p' = mgr.spawnedOf spawns kind p' + 1 :=
      countP_eq_add_one (hf.nodup kind p') hid hfrom hto fun id' hid' hne =>
        hsame kind id' hid' fun h => hne h.2
    have hother : ∀ kind', kind' ≠ kind →
        mgr.spawnedOf spawns' kind' p' = mgr.spawnedOf spawns kind' p' := fun kind' hne =>
      spawnedOf_congr fun id' hid' => hsame kind' id' hid' fun h => hne h.1
    rw [spawnedMembers, spawnedMembers, if_pos rfl]
    cases kind with
    | creature => rw [hone, hother .gameobject (by decide), hother .pool (by decide)]; omega
    | gameobject => rw [hone, hother .creature (by decide), hother .pool (by decide)]; omega
    | pool => rw [hone, hother .creature (by decide), hother .gameobject (by decide)]; omega
  · rw [if_neg hp, Nat.add_zero]
    refine spawnedMembers_congr fun kind' id' hid' => hsame kind' id' hid' ?_
    rintro ⟨rfl, rfl⟩
    exact hp (hf.single _ _ _ _ hid' hid)

theorem Open.isSpawnedObject (hf : mgr.Forest) (ho : mgr.Open spawns p) {kind' : PoolKind}
    {id' p' : Nat} (hid' : id' ∈ mgr.members kind' p') (h : kind' = .pool ∧ id' = p) :
    spawns.isSpawnedObject kind' id' = true := by
  obtain ⟨rfl, rfl⟩ := h
  rw [Open, (hf.mother id' p').mpr hid'] at ho
  exact ho.resolve_left (by simp)

theorem isSpawnedObject_addSpawn (hf : mgr.Forest) (ho : mgr.Open spawns p) {kind' : PoolKind}
    {id' p' : Nat} (hid' : id' ∈ mgr.members kind' p') : (spawns.addSpawn kind id p).isSpawnedObject kind' id' =
      if kind' = kind ∧ id' = id then true else spawns.isSpawnedObject kind' id' := by
  simp only [SpawnedPoolData.addSpawn, SpawnedPoolData.isSpawnedObject_changeCount,
    SpawnedPoolData.isSpawnedObject_insert]
  by_cases hp : kind' = .pool ∧ id' = p
  · rw [if_pos hp, ho.isSpawnedObject hf hid' hp, ite_self]
  · rw [if_neg hp]

theorem getSpawnedObjects_addSpawn (hnot : spawns.isSpawnedObject kind id = false) (p' : Nat) :
    (spawns.addSpawn kind id p).getSpawnedObjects p' = spawns.getSpawnedObjects p' + if p' = p then 1 else 0 := by
  have hinsert : ∀ q, (spawns.insert kind id).getSpawnedObjects q = spawns.getSpawnedObjects q := by
    intro q
    rw [SpawnedPoolData.getSpawnedObjects_insert]
    by_cases h : kind = .pool ∧ q = id
    · rw [if_pos h, h.2]
      exact (SpawnedPoolData.getSpawnedObjects_of_not (h.1 ▸ hnot)).symm
    · rw [if_neg h]
  rw [SpawnedPoolData.addSpawn, SpawnedPoolData.getSpawnedObjects_changeCount, hinsert, hinsert]
  by_cases h : p' = p <;> simp [h]

theorem spawnedMembers_addSpawn (hf : mgr.Forest) (hid : id ∈ mgr.members kind p)
    (ho : mgr.Open spawns p) (hnot : spawns.isSpawnedObject kind id = false) (p' : Nat) :
    mgr.spawnedMembers (spawns.addSpawn kind id p) p' = mgr.spawnedMembers spawns p' + if p' = p then 1 else 0 := by
  refine spawnedMembers_of_changed hf hid hnot ?_ fun kind' id' hid' hne => ?_
  · rw [isSpawnedObject_addSpawn hf ho hid, if_pos ⟨rfl, rfl⟩]
  · rw [isSpawnedObject_addSpawn hf ho hid', if_neg hne]

theorem Exact.addSpawn (hf : mgr.Forest) (h : mgr.Exact spawns) (hid : id ∈ mgr.members kind p)
    (ho : mgr.Open spawns p) (hnot : spawns.isSpawnedObject kind id = false) :
    mgr.Exact (spawns.addSpawn kind id p) := by
  intro p'
  rw [getSpawnedObjects_addSpawn hnot, spawnedMembers_addSpawn hf hid ho hnot, h p']

theorem spawnedMembers_pos (hid : id ∈ mgr.members kind p)
    (hspawned : spawns.isSpawnedObject kind id = true) : 0 < mgr.spawnedMembers spawns p := by
  have hpos : 0 < mgr.spawnedOf spawns kind p := List.countP_pos_iff.mpr ⟨id, hid, hspawned⟩
  rw [spawnedMembers]
  cases kind <;> omega

theorem isSpawnedObject_removeSpawn (h : mgr.Exact spawns) (hid : id ∈ mgr.members kind p)
    (hne : kind = .pool → p ≠ id) (hspawned : spawns.isSpawnedObject kind id = true)
    (kind' : PoolKind) (id' : Nat) : (spawns.removeSpawn kind id p).isSpawnedObject kind' id' =
      if kind' = kind ∧ id' = id then false else spawns.isSpawnedObject kind' id' := by
  have hp : spawns.isSpawnedObject .pool p = true := by
    refine SpawnedPoolData.isSpawnedObject_of_pos ?_
    rw [h p]
    exact spawnedMembers_pos hid hspawned
  simp only [SpawnedPoolData.removeSpawn, SpawnedPoolData.isSpawnedObject_changeCount,
    SpawnedPoolData.isSpawnedObject_erase]
  by_cases hcount : kind' = .pool ∧ id' = p
  · obtain ⟨rfl, rfl⟩ := hcount
    rw [if_pos ⟨rfl, rfl⟩, hp, if_neg]
    rintro ⟨rfl, rfl⟩
    exact hne rfl rfl
  · rw [if_neg hcount]

theorem spawnedMembers_removeSpawn (hf : mgr.Forest) (h : mgr.Exact spawns)
    (hid : id ∈ mgr.members kind p) (hne : kind = .pool → p ≠ id)
    (hspawned : spawns.isSpawnedObject kind id = true) (p' : Nat) : mgr.spawnedMembers spawns p' =
      mgr.spawnedMembers (spawns.removeSpawn kind id p) p' + if p' = p then 1 else 0 := by
  refine spawnedMembers_of_changed hf hid ?_ hspawned fun kind' id' _ hne' => ?_
  · rw [isSpawnedObject_removeSpawn h hid hne hspawned, if_pos ⟨rfl, rfl⟩]
  · rw [isSpawnedObject_removeSpawn h hid hne hspawned, if_neg hne']

theorem Exact.removeSpawn (hf : mgr.Forest) (h : mgr.Exact spawns) (hid : id ∈ mgr.members kind p)
    (hne : kind = .pool → p ≠ id) (hspawned : spawns.isSpawnedObject kind id = true)
    (hempty : kind = .pool → spawns.getSpawnedObjects id = 0) : mgr.Exact (spawns.removeSpawn kind id p) := by
  intro p'
  have herase : ∀ q, (spawns.erase kind id).getSpawnedObjects q = spawns.getSpawnedObjects q := by
    intro q
    rw [SpawnedPoolData.getSpawnedObjects_erase]
    by_cases hq : kind = .pool ∧ q = id
    · rw [if_pos hq, hq.2, hempty hq.1]
    · rw [if_neg hq]
  have hcount := spawnedMembers_removeSpawn hf h hid hne hspawned p'
  rw [← h p'] at hcount
  rw [SpawnedPoolData.removeSpawn, SpawnedPoolData.getSpawnedObjects_changeCount, herase, herase,
    ← SpawnedPoolData.removeSpawn]
  by_cases hp : p' = p
  · subst hp
    rw [if_pos rfl] at hcount ⊢
    omega
  · rw [if_neg hp] at hcount ⊢
    exact hcount

/-- Some objects, none of them a member of a pool from a height on, are despawned. -/
structure Shrunk (mgr : PoolManager) (rank : Nat → Nat) (r : Nat) (spawns spawns' : SpawnedPoolData) :
    Prop where
  exact : mgr.Exact spawns'
  kept : mgr.Kept rank r spawns spawns'
  sub : ∀ kind id, spawns'.isSpawnedObject kind id = true → spawns.isSpawnedObject kind id = true

theorem Shrunk.refl (h : mgr.Exact spawns) (r : Nat) : mgr.Shrunk rank r spawns spawns :=
  ⟨h, .refl r, fun _ _ h => h⟩

theorem Shrunk.trans {r : Nat} {spawns'' : SpawnedPoolData} (h : mgr.Shrunk rank r spawns spawns')
    (h' : mgr.Shrunk rank r spawns' spawns'') : mgr.Shrunk rank r spawns spawns'' :=
  ⟨h'.exact, h.kept.trans h'.kept, fun kind id hs => h.sub kind id (h'.sub kind id hs)⟩

theorem Shrunk.mono {r r' : Nat} (hr : r ≤ r') (h : mgr.Shrunk rank r spawns spawns') :
    mgr.Shrunk rank r' spawns spawns' := ⟨h.exact, h.kept.mono hr, h.sub⟩

theorem Shrunk.not_spawned {r : Nat} (h : mgr.Shrunk rank r spawns spawns')
    (hnot : spawns.isSpawnedObject kind id = false) : spawns'.isSpawnedObject kind id = false := by
  rw [Bool.eq_false_iff] at hnot ⊢
  exact fun hs => hnot (h.sub kind id hs)

theorem Shrunk.spawnedMembers_le {r : Nat} (h : mgr.Shrunk rank r spawns spawns') (q : Nat) :
    mgr.spawnedMembers spawns' q ≤ mgr.spawnedMembers spawns q := by
  have hle : ∀ kind, mgr.spawnedOf spawns' kind q ≤ mgr.spawnedOf spawns kind q := fun kind =>
    List.countP_mono_left fun id _ hs => h.sub kind id hs
  exact Nat.add_le_add (Nat.add_le_add (hle _) (hle _)) (hle _)

/-- What `Despawn1Object` does: below pool `p` objects are despawned, and a pool is emptied. -/
def Despawns (mgr : PoolManager) (rank : Nat → Nat) (kind : PoolKind) (p : Nat)
    (despawn1 : PoolState → Nat → PoolState) : Prop :=
  ∀ s id, id ∈ mgr.members kind p → mgr.Exact s.spawns → mgr.Shrunk rank (rank p) s.spawns (despawn1 s id).spawns ∧
      (kind = .pool → (despawn1 s id).spawns.getSpawnedObjects id = 0)

theorem member_ne (hf : mgr.Ranked rank) (hid : id ∈ mgr.members kind p) (hkind : kind = .pool) : p ≠ id := by
  subst hkind
  intro h
  subst h
  exact Nat.lt_irrefl _ (hf.lt hid)

section Despawn

variable {despawn1 : PoolState → Nat → PoolState} (hf : mgr.Ranked rank)
  (hdespawn : mgr.Despawns rank kind p despawn1)
include hf hdespawn

theorem despawn_one {s : PoolState} (hid : id ∈ mgr.members kind p) (h : mgr.Exact s.spawns)
    (hspawned : s.spawns.isSpawnedObject kind id = true) :
    let spawns' := (despawn1 s id).spawns.removeSpawn kind id p
    mgr.Shrunk rank (rank p + 1) s.spawns spawns' ∧ spawns'.isSpawnedObject kind id = false ∧
      ∀ kind' id' p', id' ∈ mgr.members kind' p' → rank p ≤ rank p' → ¬ (kind' = kind ∧ id' = id) →
          spawns'.isSpawnedObject kind' id' = s.spawns.isSpawnedObject kind' id' := by
  obtain ⟨hshrunk, hempty⟩ := hdespawn s id hid h
  have hstays : (despawn1 s id).spawns.isSpawnedObject kind id = true := by
    rw [hshrunk.kept kind id p hid (Nat.le_refl _)]
    exact hspawned
  have hremoved := isSpawnedObject_removeSpawn hshrunk.exact hid (member_ne hf hid) hstays
  refine ⟨⟨hshrunk.exact.removeSpawn hf.toForest hid (member_ne hf hid) hstays hempty, ?_, ?_⟩, ?_, ?_⟩
  · intro kind' id' p' hid' hp'
    rw [hremoved, if_neg]
    · exact hshrunk.kept kind' id' p' hid' (Nat.le_of_succ_le hp')
    · rintro ⟨rfl, rfl⟩
      rw [hf.single _ _ _ _ hid' hid] at hp'
      exact Nat.lt_irrefl _ hp'
  · intro kind' id' hs
    rw [hremoved] at hs
    split at hs
    · cases hs
    · exact hshrunk.sub kind' id' hs
  · rw [hremoved, if_pos ⟨rfl, rfl⟩]
  · intro kind' id' p' hid' hp' hne
    rw [hremoved, if_neg hne]
    exact hshrunk.kept kind' id' p' hid' hp'

theorem despawn_fold (guid : Nat) (objs : List PoolObject)
    (hobjs : ∀ obj ∈ objs, obj.guid ∈ mgr.members kind p) {s : PoolState} (h : mgr.Exact s.spawns) :
    let s' := objs.foldl (fun s obj =>
      if s.spawns.isSpawnedObject kind obj.guid && (guid = 0 || obj.guid = guid) then
        { despawn1 s obj.guid with
          spawns := (despawn1 s obj.guid).spawns.removeSpawn kind obj.guid p }
      else s) s
    mgr.Shrunk rank (rank p + 1) s.spawns s'.spawns ∧ (∀ obj ∈ objs, guid = 0 ∨ obj.guid = guid →
        s'.spawns.isSpawnedObject kind obj.guid = false) ∧
      ∀ kind' id' p', id' ∈ mgr.members kind' p' → rank p ≤ rank p' → ¬ (kind' = kind ∧ (guid = 0 ∨ id' = guid)) →
          s'.spawns.isSpawnedObject kind' id' = s.spawns.isSpawnedObject kind' id' := by
  induction objs generalizing s with
  | nil => exact ⟨.refl h _, fun obj hobj => (by cases hobj), fun _ _ _ _ _ _ => rfl⟩
  | cons obj objs ih =>
    have hrest := fun o ho => hobjs o (List.mem_cons_of_mem _ ho)
    dsimp only
    rw [List.foldl_cons]
    by_cases hdo : (s.spawns.isSpawnedObject kind obj.guid && (guid = 0 || obj.guid = guid)) = true
    · simp only [Bool.and_eq_true, Bool.or_eq_true, decide_eq_true_eq] at hdo
      obtain ⟨hspawned, hguid⟩ := hdo
      rw [if_pos (by simp [hspawned, hguid])]
      obtain ⟨hone, hgone, hsame⟩ := despawn_one hf hdespawn (hobjs obj List.mem_cons_self) h hspawned
      obtain ⟨hall, hallgone, hallsame⟩ := @ih hrest
        { despawn1 s obj.guid with
          spawns := (despawn1 s obj.guid).spawns.removeSpawn kind obj.guid p } hone.exact
      refine ⟨hone.trans hall, fun o ho hoguid => ?_, fun kind' id' p' hid' hp' hne => ?_⟩
      · rcases List.mem_cons.mp ho with rfl | ho
        · exact hall.not_spawned hgone
        · exact hallgone o ho hoguid
      · rw [hallsame kind' id' p' hid' hp' hne]
        refine hsame kind' id' p' hid' hp' ?_
        rintro ⟨rfl, rfl⟩
        exact hne ⟨rfl, hguid⟩
    · rw [if_neg hdo]
      obtain ⟨hall, hallgone, hallsame⟩ := @ih hrest s h
      refine ⟨hall, fun o ho hoguid => ?_, hallsame⟩
      rcases List.mem_cons.mp ho with rfl | ho
      · refine hall.not_spawned ?_
        rw [Bool.eq_false_iff]
        intro hspawned
        exact hdo (by simp [hspawned, hoguid])
      · exact hallgone o ho hoguid

theorem despawnObject_spec (guid : Nat) {s : PoolState} (h : mgr.Exact s.spawns) :
    mgr.Shrunk rank (rank p + 1) s.spawns (mgr.despawnObject despawn1 kind p guid s).spawns ∧
      (∀ id ∈ mgr.members kind p, guid = 0 ∨ id = guid →
        (mgr.despawnObject despawn1 kind p guid s).spawns.isSpawnedObject kind id = false) ∧
      ∀ kind' id' p', id' ∈ mgr.members kind' p' → rank p ≤ rank p' → ¬ (kind' = kind ∧ (guid = 0 ∨ id' = guid)) →
          (mgr.despawnObject despawn1 kind p guid s).spawns.isSpawnedObject kind' id' =
            s.spawns.isSpawnedObject kind' id' := by
  have hobjs : ∀ obj ∈ (mgr.groups kind p).objects, obj.guid ∈ mgr.members kind p :=
    fun obj hobj => List.mem_map_of_mem hobj
  obtain ⟨hall, hgone, hsame⟩ := despawn_fold hf hdespawn guid _ hobjs h
  refine ⟨hall, fun id hid hguid => ?_, hsame⟩
  obtain ⟨obj, hobj, rfl⟩ := List.mem_map.mp hid
  exact hgone obj hobj hguid

end Despawn

end PoolManager

end Mangos
