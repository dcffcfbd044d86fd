import Mathlib.Data.Fintype.Card
import Mathlib.Data.List.Nodup
import Mathlib.Logic.Relation
import Mangos.Pool.Pool

/-!
# What loading the pools leaves

The mother pools form no circle.
-/

namespace Mangos

/-- The same map, or two maps that are not instanced. -/
def SameMaps (e e' : MapEntry) : Prop := e = e' ∨ e.instanceable = false ∧ e'.instanceable = false

theorem SameMaps.refl (e : MapEntry) : SameMaps e e := .inl rfl

theorem SameMaps.trans {e e' e'' : MapEntry} (h : SameMaps e e') (h' : SameMaps e' e'') : SameMaps e e'' := by
  rcases h with rfl | h
  · exact h'
  · rcases h' with rfl | h'
    · exact .inr h
    · exact .inr ⟨h.1, h'.2⟩

namespace PoolManager

variable {stores : PoolStores} {mgr mgr' mgr'' : PoolManager}

def IsMother (mgr : PoolManager) (c m : Nat) : Prop := mgr.searchMap .pool c = some m

def Up (mgr : PoolManager) : Nat → Nat → Prop := Relation.ReflTransGen mgr.IsMother

/-- The way up from a pool comes to an end. -/
inductive Ends (mgr : PoolManager) : Nat → Prop
  | top {c : Nat} (h : mgr.searchMap .pool c = none) : Ends mgr c
  | step {c m : Nat} (h : mgr.IsMother c m) (hm : Ends mgr m) : Ends mgr c

theorem Ends.not_circle {p : Nat} (h : mgr.Ends p) : ¬ Relation.TransGen mgr.IsMother p p := by
  induction h with
  | top hnone =>
    intro hcircle
    obtain ⟨m, hm, -⟩ := Relation.TransGen.head'_iff.mp hcircle
    rw [IsMother, hnone] at hm
    cases hm
  | step hm _ ih =>
    intro hcircle
    obtain ⟨m', hm', hup⟩ := Relation.TransGen.head'_iff.mp hcircle
    rw [IsMother] at hm hm'
    rw [hm] at hm'
    cases hm'
    exact ih (Relation.TransGen.tail' hup hm)

theorem up_cases {c d : Nat} (h : mgr.Up c d) : d = c ∨ ∃ m, mgr.IsMother c m ∧ mgr.Up m d := by
  rcases Relation.ReflTransGen.cases_head h with rfl | ⟨m, hm, hup⟩
  · exact .inl rfl
  · exact .inr ⟨m, hm, hup⟩

/-- Some links are gone, and some pools have got a map. -/
structure Later (mgr mgr' : PoolManager) : Prop where
  links : ∀ c m, mgr'.IsMother c m → mgr.IsMother c m
  entries : ∀ p e, (mgr.poolTemplate p).mapEntry = some e → (mgr'.poolTemplate p).mapEntry = some e
  maxPoolId : mgr'.maxPoolId = mgr.maxPoolId
  spawns : ∀ kind, kind ≠ .pool → mgr'.groups kind = mgr.groups kind
  autoSpawn : ∀ p, (mgr'.poolTemplate p).autoSpawn = (mgr.poolTemplate p).autoSpawn

theorem Later.refl (mgr : PoolManager) : mgr.Later mgr :=
  ⟨fun _ _ h => h, fun _ _ h => h, rfl, fun _ _ => rfl, fun _ => rfl⟩

theorem Later.trans (h : mgr.Later mgr') (h' : mgr'.Later mgr'') : mgr.Later mgr'' :=
  ⟨fun c m hm => h.links c m (h'.links c m hm), fun p e he => h'.entries p e (h.entries p e he),
    h'.maxPoolId.trans h.maxPoolId, fun kind hk => (h'.spawns kind hk).trans (h.spawns kind hk),
    fun p => (h'.autoSpawn p).trans (h.autoSpawn p)⟩

theorem Later.up {c d : Nat} (h : mgr.Later mgr') (hup : mgr'.Up c d) : mgr.Up c d :=
  Relation.ReflTransGen.mono h.links _ _ hup

theorem Later.ends {c : Nat} (h : mgr.Later mgr') (hc : mgr.Ends c) : mgr'.Ends c := by
  induction hc with
  | @top c hnone =>
    refine .top ?_
    by_contra hsome
    obtain ⟨m, hm⟩ := Option.ne_none_iff_exists'.mp hsome
    have hold := h.links c m hm
    rw [IsMother, hnone] at hold
    cases hold
  | @step c m hm _ ih =>
    cases hnow : mgr'.searchMap .pool c with
    | none => exact .top hnow
    | some m' =>
      have hold := h.links c m' hnow
      rw [IsMother] at hm hold
      rw [hm] at hold
      cases hold
      exact .step hnow ih

/-- The maps of the pools are in the store, and links are between different pools in range. -/
structure Sensible (stores : PoolStores) (mgr : PoolManager) : Prop where
  known : ∀ p e, (mgr.poolTemplate p).mapEntry = some e → stores.mapEntry e.mapID = some e
  range : ∀ c m, mgr.IsMother c m → c ≤ mgr.maxPoolId ∧ m ≤ mgr.maxPoolId ∧ c ≠ m

theorem Sensible.later (h : mgr.Sensible stores) (hlater : mgr.Later mgr')
    (hknown : ∀ p e, (mgr'.poolTemplate p).mapEntry = some e → stores.mapEntry e.mapID = some e) :
    mgr'.Sensible stores := by
  refine ⟨hknown, fun c m hm => ?_⟩
  rw [hlater.maxPoolId]
  exact h.range c m (hlater.links c m hm)

theorem checkAndRemember_eq_some {mapid p : Nat} {e : MapEntry} (he : stores.mapEntry mapid = some e)
    (h : mgr.checkAndRemember stores mapid p = some mgr') : (mgr' = mgr ∨ (mgr.poolTemplate p).mapEntry = none ∧
        mgr' = mgr.updateTemplate p fun t => { t with mapEntry := some e }) ∧
      ∃ e', (mgr'.poolTemplate p).mapEntry = some e' ∧ SameMaps e e' := by
  rw [checkAndRemember, he, Option.bind_some] at h
  split at h
  next hnone =>
    cases h
    exact ⟨.inr ⟨hnone, rfl⟩, e, by simp [updateTemplate], .refl e⟩
  next e' hsome =>
    split at h
    next heq =>
      cases h
      exact ⟨.inl rfl, e', hsome, .inl heq.symm⟩
    next =>
      split at h
      · cases h
      next hboth =>
        cases h
        simp only [Bool.or_eq_true, not_or, Bool.not_eq_true] at hboth
        exact ⟨.inl rfl, e', hsome, .inr ⟨hboth.1, hboth.2⟩⟩

theorem later_updateTemplate {p : Nat} {e : MapEntry} (h : (mgr.poolTemplate p).mapEntry = none) :
    mgr.Later (mgr.updateTemplate p fun t => { t with mapEntry := some e }) := by
  refine ⟨fun _ _ h => h, fun q e' hq => ?_, rfl, fun _ _ => rfl, fun q => ?_⟩
  · have hne : q ≠ p := by
      rintro rfl
      rw [h] at hq
      cases hq
    simpa [updateTemplate, Function.update_of_ne hne] using hq
  · by_cases hq : q = p
    · subst hq
      simp [updateTemplate]
    · simp [updateTemplate, Function.update_of_ne hq]

theorem later_removeLink (c m : Nat) : mgr.Later (mgr.removeLink c m) := by
  refine ⟨fun d n hn => ?_, fun _ _ h => h, rfl, fun kind hkind => ?_, fun _ => rfl⟩
  · simp only [IsMother, removeLink, Function.update_self] at hn
    by_cases hd : d = c
    · subst hd
      rw [Function.update_self] at hn
      cases hn
    · rwa [Function.update_of_ne hd] at hn
  · exact Function.update_of_ne hkind ..

theorem searchMap_removeLink (c m : Nat) : (mgr.removeLink c m).searchMap .pool c = none := by
  simp [removeLink]

/-- Everything on the way up from a pool that had a map goes with what is above it. -/
def Settled (mgr mgr' : PoolManager) (c : Nat) : Prop :=
  ∀ d, mgr'.Up c d → ∀ e, (mgr.poolTemplate d).mapEntry = some e →
    ∀ x, mgr'.Up d x → ∃ e', (mgr'.poolTemplate x).mapEntry = some e' ∧ SameMaps e e'

theorem Settled.later {c : Nat} (h : Settled mgr mgr' c) (hlater : mgr'.Later mgr'') : Settled mgr mgr'' c := by
  intro d hd e he x hx
  obtain ⟨e', he', hsame⟩ := h d (hlater.up hd) e he x (hlater.up hx)
  exact ⟨e', hlater.entries x e' he', hsame⟩

theorem Settled.earlier {c : Nat} (h : Settled mgr' mgr'' c) (hlater : mgr.Later mgr') : Settled mgr mgr'' c :=
  fun d hd e he x hx => h d hd e (hlater.entries d e he) x hx

theorem settled_top {c : Nat} (hlater : mgr.Later mgr') (h : mgr'.searchMap .pool c = none) : Settled mgr mgr' c := by
  have honly : ∀ d, mgr'.Up c d → d = c := by
    intro d hd
    rcases up_cases hd with rfl | ⟨m, hm, -⟩
    · rfl
    · rw [IsMother, h] at hm
      cases hm
  intro d hd e he x hx
  obtain rfl := honly d hd
  obtain rfl := honly x hx
  exact ⟨e, hlater.entries x e he, .refl e⟩

/-- What the way up from a pool does. -/
structure Checked (stores : PoolStores) (mgr mgr' : PoolManager) (c : Nat) : Prop where
  later : mgr.Later mgr'
  sensible : mgr'.Sensible stores
  ends : mgr'.Ends c
  settled : Settled mgr mgr' c

theorem checked_removeLink {c m : Nat} (hlater : mgr.Later mgr') (h : mgr'.Sensible stores) :
    Checked stores mgr (mgr'.removeLink c m) c := by
  have hremoved := hlater.trans (later_removeLink c m)
  exact ⟨hremoved, h.later (later_removeLink c m) h.known, .top (searchMap_removeLink c m),
    settled_top hremoved (searchMap_removeLink c m)⟩

theorem checkChain_checked (fuel : Nat) (checkedPools : List Nat) (c : Nat) (h : mgr.Sensible stores)
    (hfuel : checkedPools.length + fuel = mgr.maxPoolId + 1) (hnodup : (c :: checkedPools).Nodup)
    (hle : ∀ x ∈ c :: checkedPools, x ≤ mgr.maxPoolId) :
    Checked stores mgr (mgr.checkChain stores fuel checkedPools c) c := by
  induction fuel generalizing mgr checkedPools c with
  | zero =>
    have hsub : c :: checkedPools ⊆ List.range (mgr.maxPoolId + 1) := fun x hx =>
      List.mem_range.mpr (Nat.lt_succ_of_le (hle x hx))
    have hlength := (List.subperm_of_subset hnodup hsub).length_le
    rw [List.length_cons, List.length_range] at hlength
    omega
  | succ fuel ih =>
    rw [checkChain]
    cases hmother : mgr.searchMap .pool c with
    | none => exact ⟨.refl mgr, h, .top hmother, settled_top (.refl mgr) hmother⟩
    | some m =>
      obtain ⟨-, hm, hne⟩ := h.range c m hmother
      -- after the map of the child is checked in its mother pool
      have hgo : ∀ mgr₁ : PoolManager, mgr.Later mgr₁ → mgr₁.Sensible stores →
          (∀ e, (mgr.poolTemplate c).mapEntry = some e →
            ∃ e', (mgr₁.poolTemplate m).mapEntry = some e' ∧ SameMaps e e') →
          Checked stores mgr (if m ∈ c :: checkedPools then mgr₁.removeLink c m
            else mgr₁.checkChain stores fuel (c :: checkedPools) m) c := by
        intro mgr₁ hlater hsensible hmap
        split
        · exact checked_removeLink hlater hsensible
        next hnew =>
          have hrest := @ih mgr₁ (c :: checkedPools) m hsensible
            (by rw [hlater.maxPoolId, List.length_cons]; omega)
            (List.nodup_cons.mpr ⟨hnew, hnodup⟩) (by
              intro x hx
              rw [hlater.maxPoolId]
              rcases List.mem_cons.mp hx with rfl | hx
              · exact hm
              · exact hle x hx)
          have hall := hlater.trans hrest.later
          have honly : ∀ m', (mgr₁.checkChain stores fuel (c :: checkedPools) m).IsMother c m' → m' = m := by
            intro m' hm'
            have hold := hall.links c m' hm'
            rw [IsMother, hmother] at hold
            exact (Option.some.inj hold).symm
          refine ⟨hall, hrest.sensible, ?_, fun d hd e he x hx => ?_⟩
          · cases hnow : (mgr₁.checkChain stores fuel (c :: checkedPools) m).searchMap .pool c with
            | none => exact .top hnow
            | some m' =>
              obtain rfl := honly m' hnow
              exact .step hnow hrest.ends
          · rcases up_cases hd with rfl | ⟨m', hm', hup⟩
            · rcases up_cases hx with rfl | ⟨m', hm', hup⟩
              · exact ⟨e, hall.entries _ e he, .refl e⟩
              · obtain rfl := honly m' hm'
                obtain ⟨e₁, he₁, hsame⟩ := hmap e he
                obtain ⟨e', he', hsame'⟩ := hrest.settled m' .refl e₁ he₁ x hup
                exact ⟨e', he', hsame.trans hsame'⟩
            · obtain rfl := honly m' hm'
              exact hrest.settled d hup e (hlater.entries d e he) x hx
      dsimp only
      cases hentry : (mgr.poolTemplate c).mapEntry with
      | none =>
        refine hgo mgr (.refl mgr) h fun e he => ?_
        rw [hentry] at he
        cases he
      | some e =>
        have hknown := h.known c e hentry
        dsimp only
        cases hremember : mgr.checkAndRemember stores e.mapID m with
        | none => exact checked_removeLink (.refl mgr) h
        | some mgr₁ =>
          obtain ⟨hcases, e', he', hsame⟩ := checkAndRemember_eq_some hknown hremember
          have hlater : mgr.Later mgr₁ := by
            rcases hcases with rfl | ⟨hnone, rfl⟩
            · exact .refl _
            · exact later_updateTemplate hnone
          refine hgo mgr₁ hlater (h.later hlater fun p e₁ he₁ => ?_) fun e₁ he₁ => ?_
          · rcases hcases with rfl | ⟨hnone, rfl⟩
            · exact h.known p e₁ he₁
            · by_cases hp : p = m
              · subst hp
                simp only [updateTemplate, Function.update_self] at he₁
                cases he₁
                exact hknown
              · simp only [updateTemplate, Function.update_of_ne hp] at he₁
                exact h.known p e₁ he₁
          · rw [hentry] at he₁
            cases he₁
            exact ⟨e', he', hsame⟩

def checkUp (stores : PoolStores) (mgr : PoolManager) (i : Nat) : PoolManager :=
  mgr.checkChain stores (mgr.maxPoolId + 1) [] i

theorem checkUp_checked {i : Nat} (h : mgr.Sensible stores) (hle : i ≤ mgr.maxPoolId) :
    Checked stores mgr (checkUp stores mgr i) i := by
  apply checkChain_checked (mgr.maxPoolId + 1) [] i h
  · simp
  · exact List.nodup_singleton i
  · simpa using hle

theorem checkLinks_eq (mgr : PoolManager) :
    mgr.checkLinks stores = (List.range mgr.maxPoolId).foldl (checkUp stores) mgr := rfl

theorem checkUps_checked (starts : List Nat) (h : mgr.Sensible stores)
    (hle : ∀ i ∈ starts, i ≤ mgr.maxPoolId) : mgr.Later (starts.foldl (checkUp stores) mgr) ∧
      (starts.foldl (checkUp stores) mgr).Sensible stores ∧ ∀ i ∈ starts, (starts.foldl (checkUp stores) mgr).Ends i ∧
        Settled mgr (starts.foldl (checkUp stores) mgr) i := by
  induction starts generalizing mgr with
  | nil => exact ⟨.refl mgr, h, fun i hi => by cases hi⟩
  | cons i starts ih =>
    have hfirst := checkUp_checked h (hle i List.mem_cons_self)
    have hmax := hfirst.later.maxPoolId
    obtain ⟨hlater, hsensible, hrest⟩ := ih hfirst.sensible
      fun j hj => (by rw [hmax]; exact hle j (List.mem_cons_of_mem _ hj))
    rw [List.foldl_cons]
    refine ⟨hfirst.later.trans hlater, hsensible, fun j hj => ?_⟩
    rcases List.mem_cons.mp hj with rfl | hj
    · exact ⟨hlater.ends hfirst.ends, hfirst.settled.later hlater⟩
    · exact ⟨(hrest j hj).1, (hrest j hj).2.earlier hfirst.later⟩

theorem checkLinks_checked (h : mgr.Sensible stores) :
    mgr.Later (mgr.checkLinks stores) ∧ (mgr.checkLinks stores).Sensible stores ∧
      ∀ i < mgr.maxPoolId, (mgr.checkLinks stores).Ends i ∧ Settled mgr (mgr.checkLinks stores) i := by
  rw [checkLinks_eq]
  obtain ⟨hlater, hsensible, hall⟩ := checkUps_checked (List.range mgr.maxPoolId) h
    fun i hi => Nat.le_of_lt (List.mem_range.mp hi)
  exact ⟨hlater, hsensible, fun i hi => hall i (List.mem_range.mpr hi)⟩

theorem ends_checkLinks (h : mgr.Sensible stores) (c : Nat) : (mgr.checkLinks stores).Ends c := by
  obtain ⟨hlater, hsensible, hall⟩ := checkLinks_checked h
  cases hm : (mgr.checkLinks stores).searchMap .pool c with
  | none => exact .top hm
  | some m =>
    obtain ⟨hc, hmle, hne⟩ := hsensible.range c m hm
    rw [hlater.maxPoolId] at hc hmle
    rcases Nat.lt_or_ge c mgr.maxPoolId with hlt | hge
    · exact (hall c hlt).1
    · -- the last pool is below another one
      have hlt : m < mgr.maxPoolId := by omega
      exact .step hm (hall m hlt).1

theorem settled_checkLinks (h : mgr.Sensible stores) {q : Nat}
    (hq : q = mgr.maxPoolId → ∃ d, (mgr.checkLinks stores).IsMother d q) {e : MapEntry}
    (he : (mgr.poolTemplate q).mapEntry = some e) {p : Nat} (hup : (mgr.checkLinks stores).Up q p) :
    ∃ e', ((mgr.checkLinks stores).poolTemplate p).mapEntry = some e' ∧ SameMaps e e' := by
  obtain ⟨hlater, hsensible, hall⟩ := checkLinks_checked h
  by_cases hlast : q = mgr.maxPoolId
  · obtain ⟨d, hd⟩ := hq hlast
    obtain ⟨hdle, -, hne⟩ := hsensible.range d q hd
    rw [hlater.maxPoolId] at hdle
    have hlt : d < mgr.maxPoolId := by omega
    exact (hall d hlt).2 q (.single hd) e he p hup
  · rcases up_cases hup with rfl | ⟨m, hm, -⟩
    · exact ⟨e, hlater.entries _ e he, .refl e⟩
    · obtain ⟨hqle, -, -⟩ := hsensible.range q m hm
      rw [hlater.maxPoolId] at hqle
      have hlt : q < mgr.maxPoolId := by omega
      exact (hall q hlt).2 q .refl e he p hup

/-- A creature or a game object on a map is in the pool. -/
def HasObject (stores : PoolStores) (mgr : PoolManager) (p : Nat) (e : MapEntry) : Prop :=
  ∃ kind, kind ≠ .pool ∧ ∃ obj ∈ (mgr.groups kind p).objects,
    ∃ mapid, stores.spawnMap kind obj.guid = some mapid ∧ stores.mapEntry mapid = some e

/-- What the rows leave: sensible maps and links, maps that go with the objects, and top pools that are
spawned automatically. -/
structure RowsRead (stores : PoolStores) (template : List (Nat × Nat)) (mgr : PoolManager) : Prop where
  sensible : mgr.Sensible stores
  objects : ∀ p e, mgr.HasObject stores p e → ∃ e', (mgr.poolTemplate p).mapEntry = some e' ∧ SameMaps e e'
  autoSpawn : ∀ p, (mgr.poolTemplate p).autoSpawn = true ↔ p ∈ template.map (·.1) ∧ mgr.searchMap .pool p = none

theorem mem_objects_addEntry {group : PoolGroup} {obj o : PoolObject} {maxentries : Nat}
    (h : o ∈ (group.addEntry obj maxentries).objects) : o ∈ group.objects ∨ o = obj := by
  rw [PoolGroup.addEntry] at h
  split at h
  · simp only [PoolGroup.objects, List.mem_append, List.mem_singleton] at h ⊢
    rcases h with h | h | h
    · exact .inl (.inl h)
    · exact .inl (.inr h)
    · exact .inr h
  · simp only [PoolGroup.objects, List.mem_append, List.mem_singleton] at h ⊢
    rcases h with (h | h) | h
    · exact .inl (.inl h)
    · exact .inr h
    · exact .inl (.inr h)

theorem groups_addObject {kind kind' : PoolKind} {row : PoolRow} {p : Nat} {o : PoolObject}
    (h : o ∈ ((mgr.addObject kind row).groups kind' p).objects) :
    o ∈ (mgr.groups kind' p).objects ∨ kind' = kind ∧ p = row.pool ∧ o.guid = row.id := by
  simp only [addObject] at h
  by_cases hkind : kind' = kind
  · subst hkind
    rw [Function.update_self] at h
    by_cases hp : p = row.pool
    · subst hp
      rw [Function.update_self] at h
      rcases mem_objects_addEntry h with h | rfl
      · exact .inl h
      · exact .inr ⟨rfl, rfl, rfl⟩
    · rw [Function.update_of_ne hp] at h
      exact .inl h
  · rw [Function.update_of_ne hkind] at h
    exact .inl h

variable {template : List (Nat × Nat)}

theorem rowsRead_loadTemplates (stores : PoolStores) (template : List (Nat × Nat)) :
    RowsRead stores template (loadTemplates template) := by
  have hnone : ∀ p, ((loadTemplates template).poolTemplate p).mapEntry = none := by
    intro p
    simp only [loadTemplates]
    split <;> rfl
  refine ⟨⟨fun p e he => ?_, fun c m hm => by cases hm⟩, fun p e he => ?_, fun p => ?_⟩
  · rw [hnone] at he
    cases he
  · obtain ⟨kind, -, obj, hobj, -⟩ := he
    cases hobj
  · have hfind : (template.reverse.find? (·.1 = p)).isSome = true ↔ p ∈ template.map (·.1) := by
      simp [List.find?_isSome]
    simp only [loadTemplates, and_true]
    rw [← hfind]
    split
    next hrow => simp [hrow]
    next row hrow => simp [hrow]

theorem RowsRead.loadSpawn (h : RowsRead stores template mgr) {kind : PoolKind} (hkind : kind ≠ .pool)
    (row : PoolRow) : RowsRead stores template (mgr.loadSpawn stores kind row) := by
  rw [PoolManager.loadSpawn]
  split
  · exact h
  next mapid hmap =>
    split
    · exact h
    next hrow =>
      split
      · exact h
      next mgr₁ hremember =>
        obtain ⟨e, he⟩ : ∃ e, stores.mapEntry mapid = some e := by
          rw [checkAndRemember] at hremember
          obtain ⟨e, he, -⟩ := Option.bind_eq_some_iff.mp hremember
          exact ⟨e, he⟩
        have hmapID : e.mapID = mapid := by
          obtain ⟨i, -, rfl⟩ := Option.map_eq_some_iff.mp he
          rfl
        obtain ⟨hcases, e', he', hsame⟩ := checkAndRemember_eq_some he hremember
        have hlater : mgr.Later mgr₁ := by
          rcases hcases with rfl | ⟨hnone, rfl⟩
          · exact .refl _
          · exact later_updateTemplate hnone
        have hsearch : mgr₁.searchMap = mgr.searchMap := by
          rcases hcases with rfl | ⟨-, rfl⟩ <;> rfl
        have hgroups : mgr₁.groups = mgr.groups := by
          rcases hcases with rfl | ⟨-, rfl⟩ <;> rfl
        have hpool : (mgr₁.addObject kind row).searchMap .pool = mgr.searchMap .pool := by
          rw [← hsearch]
          exact Function.update_of_ne (Ne.symm hkind) ..
        refine ⟨⟨fun p e₁ he₁ => ?_, fun c m hm => ?_⟩, fun p e₁ hobject => ?_, fun p => ?_⟩
        · rcases hcases with rfl | ⟨hnone, rfl⟩
          · exact h.sensible.known p e₁ he₁
          · by_cases hp : p = row.pool
            · subst hp
              simp only [addObject, updateTemplate, Function.update_self] at he₁
              cases he₁
              rw [hmapID]
              exact he
            · simp only [addObject, updateTemplate, Function.update_of_ne hp] at he₁
              exact h.sensible.known p e₁ he₁
        · rw [IsMother, hpool] at hm
          have hrange := h.sensible.range c m hm
          rwa [← hlater.maxPoolId] at hrange
        · obtain ⟨kind', hk', obj, hobj, mapid', hmap', he₁⟩ := hobject
          rcases groups_addObject hobj with hold | ⟨rfl, rfl, hguid⟩
          · rw [hgroups] at hold
            obtain ⟨e₂, he₂, hsame₂⟩ := h.objects p e₁ ⟨kind', hk', obj, hold, mapid', hmap', he₁⟩
            exact ⟨e₂, hlater.entries p e₂ he₂, hsame₂⟩
          · rw [hguid, hmap] at hmap'
            cases hmap'
            rw [he] at he₁
            cases he₁
            exact ⟨e', he', hsame⟩
        · rw [hpool, ← h.autoSpawn p]
          exact Bool.eq_iff_iff.mp (hlater.autoSpawn p)

theorem RowsRead.loadTemplateSpawn (h : RowsRead stores template mgr) {kind : PoolKind}
    (hkind : kind ≠ .pool) (row : PoolRow) : RowsRead stores template (mgr.loadTemplateSpawn stores kind row) := by
  rw [PoolManager.loadTemplateSpawn]
  split
  · exact h
  · exact h.loadSpawn hkind row

theorem RowsRead.loadPool (h : RowsRead stores template mgr) (row : PoolRow) :
    RowsRead stores template (mgr.loadPool row) := by
  rw [PoolManager.loadPool]
  split
  · exact h
  next hrow =>
    simp only [Bool.or_eq_true, decide_eq_true_eq, not_or, Nat.not_lt] at hrow
    obtain ⟨⟨⟨⟨hpool, hid⟩, hne⟩, -⟩, -⟩ := hrow
    have hentry : ∀ p, (((mgr.addObject .pool row).updateTemplate row.id
        fun t => { t with autoSpawn := false }).poolTemplate p).mapEntry = (mgr.poolTemplate p).mapEntry := by
      intro p
      by_cases hp : p = row.id
      · subst hp
        simp [updateTemplate, addObject]
      · simp [updateTemplate, addObject, Function.update_of_ne hp]
    have hsearch : ∀ c, ((mgr.addObject .pool row).updateTemplate row.id
        fun t => { t with autoSpawn := false }).searchMap .pool c =
          if c = row.id then (mgr.searchMap .pool c).or (some row.pool)
          else mgr.searchMap .pool c := by
      intro c
      simp only [updateTemplate, addObject, Function.update_self]
      by_cases hc : c = row.id
      · subst hc
        simp
      · simp [hc]
    refine ⟨⟨fun p e he => ?_, fun c m hm => ?_⟩, fun p e hobject => ?_, fun p => ?_⟩
    · rw [hentry] at he
      exact h.sensible.known p e he
    · rw [IsMother, hsearch] at hm
      split at hm
      next hc =>
        rcases Option.or_eq_some_iff.mp hm with hold | ⟨-, hnew⟩
        · exact h.sensible.range c m hold
        · cases hnew
          subst hc
          exact ⟨hid, hpool, Ne.symm hne⟩
      next => exact h.sensible.range c m hm
    · obtain ⟨kind, hk, obj, hobj, hmap⟩ := hobject
      rcases groups_addObject hobj with hold | ⟨hkind, -⟩
      · rw [hentry]
        exact h.objects p e ⟨kind, hk, obj, hold, hmap⟩
      · exact absurd hkind hk
    · rw [hsearch]
      by_cases hp : p = row.id
      · subst hp
        cases hm : mgr.searchMap .pool row.id <;> simp [updateTemplate]
      · rw [if_neg hp, ← h.autoSpawn p]
        simp [updateTemplate, addObject, Function.update_of_ne hp]

theorem RowsRead.foldl {f : PoolManager → PoolRow → PoolManager}
    (hf : ∀ {mgr}, RowsRead stores template mgr → ∀ row, RowsRead stores template (f mgr row))
    (h : RowsRead stores template mgr) (rows : List PoolRow) : RowsRead stores template (rows.foldl f mgr) := by
  induction rows generalizing mgr with
  | nil => exact h
  | cons row rows ih => exact ih (hf h row)

theorem rowsRead_loadRows (stores : PoolStores) (tables : PoolTables) :
    RowsRead stores tables.template (loadRows stores tables) := by
  rw [loadRows]
  refine RowsRead.foldl (fun h row => h.loadPool row) ?_ _
  refine RowsRead.foldl (fun h row => h.loadTemplateSpawn (by decide) row) ?_ _
  refine RowsRead.foldl (fun h row => h.loadSpawn (by decide) row) ?_ _
  refine RowsRead.foldl (fun h row => h.loadTemplateSpawn (by decide) row) ?_ _
  refine RowsRead.foldl (fun h row => h.loadSpawn (by decide) row) ?_ _
  exact rowsRead_loadTemplates stores tables.template

theorem autoSpawn_checkChances (mgr : PoolManager) (p : Nat) : (mgr.checkChances.poolTemplate p).autoSpawn = true ↔
      (mgr.poolTemplate p).autoSpawn = true ∧ mgr.checkPool p = true := by
  simp [checkChances]

theorem checkPool_checkChances (mgr : PoolManager) (p : Nat) : mgr.checkChances.checkPool p = mgr.checkPool p := rfl

theorem loadFromDB_eq (stores : PoolStores) {tables : PoolTables} (h : tables.template ≠ []) :
    loadFromDB stores tables = ((loadRows stores tables).checkLinks stores).checkChances :=
  if_neg h

theorem HasObject.of_later {p : Nat} {e : MapEntry} (h : mgr.Later mgr')
    (hobject : mgr'.HasObject stores p e) : mgr.HasObject stores p e := by
  obtain ⟨kind, hkind, obj, hobj, hmap⟩ := hobject
  rw [h.spawns kind hkind] at hobj
  exact ⟨kind, hkind, obj, hobj, hmap⟩

theorem not_hasObject_loadTemplates (p : Nat) (e : MapEntry) : ¬ (loadTemplates template).HasObject stores p e := by
  intro ⟨kind, _, obj, hobj, _⟩
  cases hobj

end PoolManager

open PoolManager

/-- No circle of mother pools is loaded; a pool has a map that goes with every object in it or in a pool below it,
except that the contents of the last pool are not handed up when no pool is in it; a pool with a mother pool is not
spawned automatically, and one without is if its chances are fine. -/
theorem loadFromDB_pools (stores : PoolStores) (tables : PoolTables) :
    (∀ p, ¬ Relation.TransGen (loadFromDB stores tables).IsMother p p) ∧
      (∀ q p e, (loadFromDB stores tables).HasObject stores q e → (loadFromDB stores tables).Up q p →
        (q = (loadFromDB stores tables).maxPoolId → q ≠ p → ∃ d, (loadFromDB stores tables).IsMother d q) →
        ∃ e', ((loadFromDB stores tables).poolTemplate p).mapEntry = some e' ∧ SameMaps e e') ∧
      (∀ p m, (loadFromDB stores tables).IsMother p m → ((loadFromDB stores tables).poolTemplate p).autoSpawn = false) ∧
      ∀ p ∈ tables.template.map (·.1), (loadRows stores tables).searchMap .pool p = none →
        (((loadFromDB stores tables).poolTemplate p).autoSpawn = true ↔
          (loadFromDB stores tables).checkPool p = true) := by
  by_cases htemplate : tables.template = []
  · have hempty : loadFromDB stores tables = loadTemplates [] := if_pos htemplate
    rw [hempty, htemplate]
    refine ⟨fun p => Ends.not_circle (.top rfl), fun q p e hobject => ?_, fun p m hm => ?_, fun p hp => ?_⟩
    · exact absurd hobject (not_hasObject_loadTemplates q e)
    · cases hm
    · cases hp
  · rw [loadFromDB_eq stores htemplate]
    have hrows := rowsRead_loadRows stores tables
    obtain ⟨hlater, -, -⟩ := checkLinks_checked hrows.sensible
    refine ⟨fun p => (ends_checkLinks hrows.sensible p).not_circle, fun q p e hobject hup hlast => ?_,
      fun p m hm => ?_, fun p hp htop => ?_⟩
    · obtain ⟨e₁, he₁, hsame⟩ := hrows.objects q e (HasObject.of_later hlater hobject)
      by_cases hqp : q = p
      · subst hqp
        exact ⟨e₁, hlater.entries q e₁ he₁, hsame⟩
      · obtain ⟨e', he', hsame'⟩ := settled_checkLinks hrows.sensible
          (fun hq => hlast (hq.trans hlater.maxPoolId.symm) hqp) he₁ hup
        exact ⟨e', he', hsame.trans hsame'⟩
    · have hold := hlater.links p m hm
      have hnot : ((loadRows stores tables).poolTemplate p).autoSpawn ≠ true := by
        rw [Ne, hrows.autoSpawn p]
        rintro ⟨-, hnone⟩
        rw [IsMother, hnone] at hold
        cases hold
      simp [checkChances, hlater.autoSpawn p, Bool.eq_false_iff.mpr hnot]
    · have hauto := (hrows.autoSpawn p).mpr ⟨hp, htop⟩
      rw [autoSpawn_checkChances, hlater.autoSpawn p, checkPool_checkChances]
      exact and_iff_right hauto

def twoContinents : PoolStores where
  maps mapid := if mapid < 2 then some false else none
  creatureMap guid := some (guid % 2)
  gameobjectMap _ := none

/-- A pool with a creature on each continent: its map is the map of the first only. -/
theorem loadFromDB_pools_twoContinents :
    let tables : PoolTables :=
      { template := [(1, 1)], creature := [⟨10, 1, 0⟩, ⟨11, 1, 0⟩] }
    (loadFromDB twoContinents tables).HasObject twoContinents 1 ⟨1, false⟩ ∧
      ((loadFromDB twoContinents tables).poolTemplate 1).mapEntry = some ⟨0, false⟩ := by
  refine ⟨⟨.creature, by decide, { guid := 11, chance := 0 }, by decide +kernel, 1, by decide, by decide⟩,
    by decide +kernel⟩

end Mangos
