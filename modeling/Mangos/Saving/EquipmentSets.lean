import Mangos.Framework.OrdMap
import Mangos.Framework.WriteBack

/-!
# The equipment sets of a player

Sets of equipment by their place in the player's list, and how they are saved.
-/

namespace Mangos

open Std Framework

structure EquipmentSet where
  guid : Nat
  name : String
  iconName : String
  ignoreMask : Nat
  items : List Nat
  state : UpdateState := .new
  deriving DecidableEq

/-- A row of `character_equipmentsets` without the player and its guid. -/
structure EquipmentSetRow where
  setindex : Nat
  name : String
  iconName : String
  ignoreMask : Nat
  items : List Nat
  deriving DecidableEq

def EquipmentSet.row (eqset : EquipmentSet) (index : Nat) : EquipmentSetRow where
  setindex := index
  name := eqset.name
  iconName := eqset.iconName
  ignoreMask := eqset.ignoreMask
  items := eqset.items

/-- `m_EquipmentSets` with the generator of the sets' guids, and the rows of the player by their guids. -/
structure EquipmentSets where
  sets : ExtTreeMap Nat EquipmentSet
  nextSetGuid : Nat
  rows : Nat → Option EquipmentSetRow

namespace EquipmentSets

variable (s : EquipmentSets)

def slotState (index : Nat) : UpdateState :=
  match s.sets[index]? with
  | none => .new
  | some eqslot => eqslot.state

def storeSet (index : Nat) (eqset : EquipmentSet) : EquipmentSets :=
  { s with
    sets := s.sets.insert index
      { eqset with
        guid := if eqset.guid = 0 then s.nextSetGuid else eqset.guid
        state := (s.slotState index).touch }
    nextSetGuid := if eqset.guid = 0 then s.nextSetGuid + 1 else s.nextSetGuid }

def setEquipmentSet (index : Nat) (eqset : EquipmentSet) : EquipmentSets :=
  if eqset.guid ≠ 0 ∧ ¬ s.sets.toList.any fun p => p.2.guid = eqset.guid && p.1 = index then s
  else s.storeSet index eqset

def deleteEquipmentSet (setGuid : Nat) : EquipmentSets :=
  match s.sets.toList.find? fun p => p.2.guid = setGuid with
  | none => s
  | some p =>
    if p.2.state = .new then { s with sets := s.sets.erase p.1 }
    else { s with sets := s.sets.insert p.1 { p.2 with state := .deleted } }

/-- The statement of `_SaveEquipmentSets` for an entry. -/
def saveStatement (entry : Nat × EquipmentSet) (row : Option EquipmentSetRow) :
    Option EquipmentSetRow :=
  saveRow (fun old => old.setindex = entry.1) entry.2.state (entry.2.row entry.1) row

/-- `Player::_SaveEquipmentSets`. -/
def save : EquipmentSets :=
  { s with
    rows := saveRows (fun entry => entry.2.guid) saveStatement s.rows s.sets.toList
    sets := s.sets.filterMap fun _ eqset =>
      if eqset.state = .deleted then none else some { eqset with state := .unchanged } }

def skipGuids (count : Nat) : EquipmentSets := { s with nextSetGuid := s.nextSetGuid + count }

/-- Every set knows what its row is, and there are no other rows. -/
structure InStep (s : EquipmentSets) : Prop where
  next_pos : 0 < s.nextSetGuid
  guid_bounds : ∀ (i : Nat) (e : EquipmentSet), s.sets[i]? = some e → 0 < e.guid ∧ e.guid < s.nextSetGuid
  guid_inj : ∀ (i j : Nat) (e e' : EquipmentSet), s.sets[i]? = some e → s.sets[j]? = some e' → e.guid = e'.guid → i = j
  inStep : ∀ (i : Nat) (e : EquipmentSet), s.sets[i]? = some e →
    Framework.InStep (fun old => old.setindex = i) e.state (e.row i) (s.rows e.guid)
  listed : ∀ g row, s.rows g = some row → ∃ (i : Nat) (e : EquipmentSet), s.sets[i]? = some e ∧ e.guid = g

def Lost (s : EquipmentSets) : Prop :=
  ∃ g row, s.rows g = some row ∧ g < s.nextSetGuid ∧ ∀ (i : Nat) (e : EquipmentSet), s.sets[i]? = some e → e.guid ≠ g

def Synced (s : EquipmentSets) : Prop :=
  ∀ g row, s.rows g = some row ↔
    ∃ (i : Nat) (e : EquipmentSet), s.sets[i]? = some e ∧ e.state ≠ .deleted ∧ e.guid = g ∧ e.row i = row

variable {s : EquipmentSets}

theorem InStep.store (h : s.InStep) {index next : Nat} {e : EquipmentSet} (hnext : s.nextSetGuid ≤ next)
    (hpos : 0 < e.guid) (hlt : e.guid < next)
    (hother : ∀ (i : Nat) (e' : EquipmentSet), i ≠ index → s.sets[i]? = some e' → e'.guid ≠ e.guid)
    (hrow : Framework.InStep (fun old => old.setindex = index) e.state (e.row index) (s.rows e.guid))
    (hold : ∀ e', s.sets[index]? = some e' → e'.guid = e.guid ∨ s.rows e'.guid = none) :
    InStep { s with sets := s.sets.insert index e, nextSetGuid := next } := by
  refine ⟨by dsimp only; omega, ?_, ?_, ?_, ?_⟩
  · intro i e' he'
    rw [lookup_insert] at he'
    split at he'
    · rw [← Option.some.inj he']
      exact ⟨hpos, hlt⟩
    · have hbounds := h.guid_bounds i e' he'
      dsimp only
      omega
  · intro i j e₁ e₂ h₁ h₂ hguid
    rw [lookup_insert] at h₁ h₂
    split at h₁
    next hi =>
      split at h₂
      next hj => exact hi.symm.trans hj
      next hj =>
        rw [← Option.some.inj h₁] at hguid
        exact absurd hguid.symm (hother j e₂ (Ne.symm hj) h₂)
    next hi =>
      split at h₂
      next hj =>
        rw [← Option.some.inj h₂] at hguid
        exact absurd hguid (hother i e₁ (Ne.symm hi) h₁)
      next hj => exact h.guid_inj i j e₁ e₂ h₁ h₂ hguid
  · intro i e' he'
    rw [lookup_insert] at he'
    split at he'
    next hi =>
      subst hi
      rw [← Option.some.inj he']
      exact hrow
    next => exact h.inStep i e' he'
  · intro g row hg
    obtain ⟨i, e', he', hguid⟩ := h.listed g row hg
    by_cases hi : index = i
    · subst hi
      rcases hold e' he' with heq | hnone
      · exact ⟨index, e, by rw [lookup_insert, if_pos rfl], heq.symm.trans hguid⟩
      · rw [hguid] at hnone
        exact absurd (hnone.symm.trans hg) (by simp)
    · exact ⟨i, e', by rw [lookup_insert, if_neg hi, he'], hguid⟩

theorem InStep.fresh (h : s.InStep) : s.rows s.nextSetGuid = none := by
  cases hrow : s.rows s.nextSetGuid with
  | none => rfl
  | some row =>
    obtain ⟨i, e, he, hguid⟩ := h.listed _ row hrow
    have hlt := (h.guid_bounds i e he).2
    omega

theorem InStep.storeNew (h : s.InStep) {index : Nat} {eqset : EquipmentSet} (hzero : eqset.guid = 0)
    (hnew : ∀ e : EquipmentSet, s.sets[index]? = some e → e.state = .new) : (s.storeSet index eqset).InStep := by
  have hslot : s.slotState index = .new := by
    rw [slotState]
    split
    next => rfl
    next e he => exact hnew e he
  rw [storeSet, if_pos hzero, if_pos hzero, hslot]
  apply h.store (Nat.le_succ _) h.next_pos (Nat.lt_succ_self _)
  · intro i e' _ he'
    exact Nat.ne_of_lt (h.guid_bounds i e' he').2
  · exact h.fresh
  · intro e' he'
    have hrow := h.inStep index e' he'
    rw [hnew e' he'] at hrow
    exact .inr hrow

theorem InStep.storeFound (h : s.InStep) {index : Nat} {eqset e : EquipmentSet} (hne : eqset.guid ≠ 0)
    (he : s.sets[index]? = some e) (hguid : e.guid = eqset.guid) : (s.storeSet index eqset).InStep := by
  have hbounds := h.guid_bounds index e he
  have hslot : s.slotState index = e.state := by rw [slotState, he]
  rw [storeSet, if_neg hne, if_neg hne, hslot]
  rw [hguid] at hbounds
  refine h.store (e := { eqset with state := e.state.touch }) (Nat.le_refl _) hbounds.1 hbounds.2 ?_ ?_ ?_
  · intro i e' hi he' heq
    exact hi (h.guid_inj i index e' e he' he (heq.trans hguid.symm))
  · have hrow := (h.inStep index e he).touch (by simp [EquipmentSet.row]) (eqset.row index)
    rw [hguid] at hrow
    exact hrow
  · intro e' he'
    rw [he, Option.some.injEq] at he'
    exact .inl (he' ▸ hguid)

theorem any_found_iff (s : EquipmentSets) (index guid : Nat) :
    (s.sets.toList.any fun p => p.2.guid = guid && p.1 = index) = true ↔
      ∃ e : EquipmentSet, s.sets[index]? = some e ∧ e.guid = guid := by
  rw [List.any_eq_true]
  constructor
  · rintro ⟨p, hp, hfound⟩
    rw [Bool.and_eq_true, decide_eq_true_iff, decide_eq_true_iff] at hfound
    refine ⟨p.2, ?_, hfound.1⟩
    rw [← hfound.2]
    exact ExtTreeMap.mem_toList_iff_getElem?_eq_some.mp hp
  · rintro ⟨e, he, hguid⟩
    refine ⟨(index, e), ExtTreeMap.mem_toList_iff_getElem?_eq_some.mpr he, ?_⟩
    simp [hguid]

def MayStore (s : EquipmentSets) (index : Nat) (eqset : EquipmentSet) : Prop :=
  eqset.guid = 0 → s.slotState index = .new

instance (s : EquipmentSets) (index : Nat) (eqset : EquipmentSet) : Decidable (s.MayStore index eqset) :=
  inferInstanceAs (Decidable (_ → _))

theorem InStep.setEquipmentSet (h : s.InStep) {index : Nat} {eqset : EquipmentSet}
    (hmay : s.MayStore index eqset) : (s.setEquipmentSet index eqset).InStep := by
  rw [EquipmentSets.setEquipmentSet]
  split
  · exact h
  next hfound =>
    by_cases hzero : eqset.guid = 0
    · apply h.storeNew hzero
      intro e he
      have hslot := hmay hzero
      rwa [slotState, he] at hslot
    · have hany : ∃ e : EquipmentSet, s.sets[index]? = some e ∧ e.guid = eqset.guid := by
        rw [← any_found_iff]
        by_contra hnone
        exact hfound ⟨hzero, hnone⟩
      obtain ⟨e, he, hguid⟩ := hany
      exact h.storeFound hzero he hguid

theorem InStep.lost_setEquipmentSet (h : s.InStep) {index : Nat} {eqset : EquipmentSet}
    (hmay : ¬ s.MayStore index eqset) : (s.setEquipmentSet index eqset).Lost := by
  rw [MayStore, Classical.not_imp] at hmay
  obtain ⟨hzero, hslot⟩ := hmay
  rw [EquipmentSets.setEquipmentSet, if_neg (fun hne => hne.1 hzero), storeSet, if_pos hzero, if_pos hzero]
  cases he : s.sets[index]? with
  | none => exact absurd (by rw [slotState, he]) hslot
  | some e =>
    have hstate : e.state ≠ .new := by rwa [slotState, he] at hslot
    have hrow : ∃ row, s.rows e.guid = some row := by
      have hstep := h.inStep index e he
      cases hs : e.state with
      | unchanged =>
        rw [hs] at hstep
        exact ⟨_, hstep⟩
      | changed =>
        rw [hs] at hstep
        exact ⟨_, hstep.choose_spec.1⟩
      | new => exact absurd hs hstate
      | deleted =>
        rw [hs] at hstep
        exact ⟨_, hstep.choose_spec.1⟩
    obtain ⟨row, hrow⟩ := hrow
    have hlt := (h.guid_bounds index e he).2
    refine ⟨e.guid, row, hrow, by dsimp only; omega, ?_⟩
    intro i e' he'
    rw [lookup_insert] at he'
    split at he'
    next =>
      rw [← Option.some.inj he']
      exact (Nat.ne_of_lt hlt).symm
    next hi =>
      intro heq
      exact hi (h.guid_inj i index e' e he' he heq).symm

theorem Lost.setEquipmentSet (h : s.Lost) (index : Nat) (eqset : EquipmentSet) :
    (s.setEquipmentSet index eqset).Lost := by
  obtain ⟨g, row, hrow, hlt, hother⟩ := h
  rw [EquipmentSets.setEquipmentSet]
  split
  · exact ⟨g, row, hrow, hlt, hother⟩
  next hfound =>
    rw [storeSet]
    refine ⟨g, row, hrow, by dsimp only; split <;> omega, ?_⟩
    intro i e' he'
    rw [lookup_insert] at he'
    split at he'
    next =>
      rw [← Option.some.inj he']
      dsimp only
      by_cases hzero : eqset.guid = 0
      · rw [if_pos hzero]
        exact (Nat.ne_of_lt hlt).symm
      · have hany : ∃ e : EquipmentSet, s.sets[index]? = some e ∧ e.guid = eqset.guid := by
          rw [← any_found_iff]
          by_contra hnone
          exact hfound ⟨hzero, hnone⟩
        obtain ⟨e, he, hguid⟩ := hany
        rw [if_neg hzero, ← hguid]
        exact hother index e he
    next => exact hother i e' he'

theorem find_guid_eq_some {setGuid : Nat} {p : Nat × EquipmentSet}
    (h : (s.sets.toList.find? fun p => p.2.guid = setGuid) = some p) :
    s.sets[p.1]? = some p.2 ∧ p.2.guid = setGuid :=
  ⟨ExtTreeMap.mem_toList_iff_getElem?_eq_some.mp (List.mem_of_find?_eq_some h),
    by simpa using List.find?_some h⟩

theorem InStep.deleteEquipmentSet (h : s.InStep) (setGuid : Nat) : (s.deleteEquipmentSet setGuid).InStep := by
  rw [EquipmentSets.deleteEquipmentSet]
  split
  next => exact h
  next p hp =>
    obtain ⟨he, -⟩ := find_guid_eq_some hp
    have hrow := h.inStep p.1 p.2 he
    have hbounds := h.guid_bounds p.1 p.2 he
    split
    next hnew =>
      rw [hnew] at hrow
      have hnone : s.rows p.2.guid = none := hrow
      refine ⟨h.next_pos, ?_, ?_, ?_, ?_⟩
      · intro i e hi
        rw [lookup_erase] at hi
        split at hi
        · exact absurd hi (by simp)
        · exact h.guid_bounds i e hi
      · intro i j e e' hi hj
        rw [lookup_erase] at hi hj
        split at hi
        · exact absurd hi (by simp)
        · split at hj
          · exact absurd hj (by simp)
          · exact h.guid_inj i j e e' hi hj
      · intro i e hi
        rw [lookup_erase] at hi
        split at hi
        · exact absurd hi (by simp)
        · exact h.inStep i e hi
      · intro g row hg
        obtain ⟨i, e, hi, hguid⟩ := h.listed g row hg
        refine ⟨i, e, ?_, hguid⟩
        rw [lookup_erase, if_neg _, hi]
        intro heq
        rw [← heq, he, Option.some.injEq] at hi
        rw [← hguid, ← hi, hnone] at hg
        exact absurd hg (by simp)
    next hnew =>
      refine h.store (e := { p.2 with state := .deleted }) (Nat.le_refl _) hbounds.1 hbounds.2 ?_ ?_ ?_
      · intro i e' hi he' heq
        exact hi (h.guid_inj i p.1 e' p.2 he' he heq)
      · exact hrow.delete (by simp [EquipmentSet.row]) hnew
      · intro e' he'
        rw [he, Option.some.injEq] at he'
        exact .inl (by rw [he'])

theorem Lost.deleteEquipmentSet (h : s.Lost) (setGuid : Nat) : (s.deleteEquipmentSet setGuid).Lost := by
  obtain ⟨g, row, hrow, hlt, hother⟩ := h
  rw [EquipmentSets.deleteEquipmentSet]
  split
  next => exact ⟨g, row, hrow, hlt, hother⟩
  next p hp =>
    obtain ⟨he, -⟩ := find_guid_eq_some hp
    split
    · refine ⟨g, row, hrow, hlt, fun i e hi => ?_⟩
      rw [lookup_erase] at hi
      split at hi
      · exact absurd hi (by simp)
      · exact hother i e hi
    · refine ⟨g, row, hrow, hlt, fun i e hi => ?_⟩
      rw [lookup_insert] at hi
      split at hi
      · rw [← Option.some.inj hi]
        exact hother p.1 p.2 he
      · exact hother i e hi

theorem InStep.nodup_guids (h : s.InStep) : (s.sets.toList.map fun entry => entry.2.guid).Nodup := by
  rw [List.Nodup, List.pairwise_map]
  apply List.Pairwise.imp_of_mem _ (@ExtTreeMap.distinct_keys_toList _ _ _ s.sets _)
  intro p q hp hq hne heq
  rw [ExtTreeMap.mem_toList_iff_getElem?_eq_some] at hp hq
  apply hne
  rw [h.guid_inj p.1 q.1 p.2 q.2 hp hq heq]
  exact Std.ReflCmp.compare_self

theorem InStep.rows_save (h : s.InStep) {i : Nat} {e : EquipmentSet} (he : s.sets[i]? = some e) :
    s.save.rows e.guid = if e.state = .deleted then none else some (e.row i) := by
  have hmem : (i, e) ∈ s.sets.toList := ExtTreeMap.mem_toList_iff_getElem?_eq_some.mpr he
  exact (saveRows_of_mem h.nodup_guids hmem s.rows).trans (saveRow_of_inStep (h.inStep i e he))

theorem rows_save_of_none {g : Nat}
    (h : ∀ (i : Nat) (e : EquipmentSet), s.sets[i]? = some e → e.guid ≠ g) : s.save.rows g = s.rows g := by
  apply saveRows_of_not_mem
  intro hmem
  obtain ⟨p, hp, hguid⟩ := List.mem_map.mp hmem
  exact h p.1 p.2 (ExtTreeMap.mem_toList_iff_getElem?_eq_some.mp hp) hguid

theorem lookup_save (s : EquipmentSets) (i : Nat) : s.save.sets[i]? = s.sets[i]?.bind fun eqset =>
      if eqset.state = .deleted then none else some { eqset with state := .unchanged } :=
  ExtTreeMap.getElem?_filterMap'

theorem lookup_save_eq_some {i : Nat} {e : EquipmentSet} : s.save.sets[i]? = some e ↔
    ∃ e', s.sets[i]? = some e' ∧ e'.state ≠ .deleted ∧ e = { e' with state := .unchanged } := by
  rw [lookup_save]
  constructor
  · intro h
    obtain ⟨e', he', hrest⟩ := Option.bind_eq_some_iff.mp h
    split at hrest
    · exact absurd hrest (by simp)
    next hdeleted => exact ⟨e', he', hdeleted, (Option.some.inj hrest).symm⟩
  · rintro ⟨e', he', hdeleted, rfl⟩
    rw [he', Option.bind_some, if_neg hdeleted]

theorem InStep.save (h : s.InStep) : s.save.InStep := by
  refine ⟨h.next_pos, ?_, ?_, ?_, ?_⟩
  · intro i e he
    obtain ⟨e', he', -, rfl⟩ := lookup_save_eq_some.mp he
    exact h.guid_bounds i e' he'
  · intro i j e₁ e₂ h₁ h₂ hguid
    obtain ⟨e₁', he₁, -, rfl⟩ := lookup_save_eq_some.mp h₁
    obtain ⟨e₂', he₂, -, rfl⟩ := lookup_save_eq_some.mp h₂
    exact h.guid_inj i j e₁' e₂' he₁ he₂ hguid
  · intro i e he
    obtain ⟨e', he', hdeleted, rfl⟩ := lookup_save_eq_some.mp he
    have hrow := h.rows_save he'
    rw [if_neg hdeleted] at hrow
    exact hrow
  · intro g row hg
    by_cases hnone : ∀ (i : Nat) (e : EquipmentSet), s.sets[i]? = some e → e.guid ≠ g
    · rw [rows_save_of_none hnone] at hg
      obtain ⟨i, e, he, hguid⟩ := h.listed g row hg
      exact absurd hguid (hnone i e he)
    · push Not at hnone
      obtain ⟨i, e, he, rfl⟩ := hnone
      rw [h.rows_save he] at hg
      split at hg
      · exact absurd hg (by simp)
      next hdeleted => exact ⟨i, _, lookup_save_eq_some.mpr ⟨e, he, hdeleted, rfl⟩, rfl⟩

theorem InStep.synced_save (h : s.InStep) : s.save.Synced := by
  intro g row
  constructor
  · intro hg
    obtain ⟨i, e, he, rfl⟩ := h.save.listed g row hg
    obtain ⟨e', he', hdeleted, rfl⟩ := lookup_save_eq_some.mp he
    refine ⟨i, _, he, by simp, rfl, ?_⟩
    have hrow := h.rows_save he'
    rw [if_neg hdeleted] at hrow
    exact Option.some.inj (hrow.symm.trans hg)
  · rintro ⟨i, e, he, -, rfl, rfl⟩
    obtain ⟨e', he', hdeleted, rfl⟩ := lookup_save_eq_some.mp he
    have hrow := h.rows_save he'
    rw [if_neg hdeleted] at hrow
    exact hrow

theorem Lost.save (h : s.Lost) : s.save.Lost := by
  obtain ⟨g, row, hrow, hlt, hother⟩ := h
  refine ⟨g, row, (rows_save_of_none hother).trans hrow, hlt, ?_⟩
  intro i e he
  obtain ⟨e', he', -, rfl⟩ := lookup_save_eq_some.mp he
  exact hother i e' he'

theorem Lost.not_synced (h : s.Lost) : ¬ s.Synced := by
  obtain ⟨g, row, hrow, -, hother⟩ := h
  intro hsynced
  obtain ⟨i, e, he, -, hguid, -⟩ := (hsynced g row).mp hrow
  exact hother i e he hguid

theorem InStep.skipGuids (h : s.InStep) (count : Nat) : (s.skipGuids count).InStep := by
  refine ⟨Nat.add_pos_left h.next_pos count, fun i e he => ?_, h.guid_inj, h.inStep, h.listed⟩
  have hbounds := h.guid_bounds i e he
  exact ⟨hbounds.1, Nat.lt_add_right count hbounds.2⟩

theorem Lost.skipGuids (h : s.Lost) (count : Nat) : (s.skipGuids count).Lost := by
  obtain ⟨g, row, hrow, hlt, hother⟩ := h
  exact ⟨g, row, hrow, Nat.lt_add_right count hlt, hother⟩

end EquipmentSets

end Mangos
