import Mangos.Framework.Run
import Mangos.Saving.Currencies
import Mangos.Saving.EquipmentSets

/-!
# What a save keeps

Currencies and equipment sets change in memory and are saved together.
-/

namespace Mangos

open Framework

structure SavedPlayer where
  currencies : Currencies
  sets : EquipmentSets

/-- What is asked for between two saves; other players get guids for their sets meanwhile. -/
inductive SavedPlayerOp
  | modifyCurrencyCount (id : Nat) (count : Int) (how : Currencies.Modification)
  | setCurrencyFlags (id flags : Nat)
  | resetCurrencyWeekCounts
  | setPersonalRating (value : Nat)
  | setEquipmentSet (index : Nat) (eqset : EquipmentSet)
  | deleteEquipmentSet (setGuid : Nat)
  | skipGuids (count : Nat)
  | save

namespace SavedPlayer

def start : SavedPlayer where
  currencies := ⟨∅, 0, fun _ => none⟩
  sets := ⟨∅, 1, fun _ => none⟩

variable (rules : CurrencyRules)

/-- The two saves of `Player::SaveToDB`. -/
def save (p : SavedPlayer) : SavedPlayer := ⟨p.currencies.save, p.sets.save⟩

def step (p : SavedPlayer) : SavedPlayerOp → SavedPlayer
  | .modifyCurrencyCount id count how =>
    { p with currencies := p.currencies.modifyCurrencyCount rules id count how }
  | .setCurrencyFlags id flags => { p with currencies := p.currencies.setCurrencyFlags id flags }
  | .resetCurrencyWeekCounts => { p with currencies := p.currencies.resetCurrencyWeekCounts }
  | .setPersonalRating value => { p with currencies := p.currencies.setPersonalRating rules value }
  | .setEquipmentSet index eqset => { p with sets := p.sets.setEquipmentSet index eqset }
  | .deleteEquipmentSet setGuid => { p with sets := p.sets.deleteEquipmentSet setGuid }
  | .skipGuids count => { p with sets := p.sets.skipGuids count }
  | .save => p.save

/-- What is marked as changed has been saved before. -/
def MayMark (p : SavedPlayer) : SavedPlayerOp → Prop
  | .setCurrencyFlags id _ => ∀ entry ∈ p.currencies.currencies.toList, entry.1 = id → entry.2.state ≠ .new
  | .resetCurrencyWeekCounts => ∀ entry ∈ p.currencies.currencies.toList, entry.2.state ≠ .new
  | .setEquipmentSet index eqset => p.sets.MayStore index eqset
  | _ => True

instance (p : SavedPlayer) (op : SavedPlayerOp) : Decidable (p.MayMark op) :=
  match op with
  | .modifyCurrencyCount _ _ _ => inferInstanceAs (Decidable True)
  | .setCurrencyFlags _ _ => inferInstanceAs (Decidable (∀ _ ∈ _, _ → _))
  | .resetCurrencyWeekCounts => inferInstanceAs (Decidable (∀ _ ∈ _, _))
  | .setPersonalRating _ => inferInstanceAs (Decidable True)
  | .setEquipmentSet index eqset => inferInstanceAs (Decidable (p.sets.MayStore index eqset))
  | .deleteEquipmentSet _ => inferInstanceAs (Decidable True)
  | .skipGuids _ => inferInstanceAs (Decidable True)
  | .save => inferInstanceAs (Decidable True)

/-- The tables hold what the character has, with each set that is not deleted. -/
def Synced (p : SavedPlayer) : Prop := p.currencies.Synced ∧ p.sets.Synced

/-- A character as it is loaded: nothing has changed, and no set has another's guid or one that is still to
be handed out. -/
structure Loaded (p : SavedPlayer) : Prop where
  synced : p.Synced
  currencies : ∀ (id : Nat) (cur : PlayerCurrency), p.currencies.currencies[id]? = some cur → cur.state = .unchanged
  sets : ∀ (i : Nat) (e : EquipmentSet), p.sets.sets[i]? = some e →
    e.state = .unchanged ∧ 0 < e.guid ∧ e.guid < p.sets.nextSetGuid
  guid_inj : ∀ (i j : Nat) (e e' : EquipmentSet), p.sets.sets[i]? = some e → p.sets.sets[j]? = some e' →
    e.guid = e'.guid → i = j
  next_pos : 0 < p.sets.nextSetGuid

theorem loaded_start : start.Loaded := by
  refine ⟨⟨fun id => by simp [start], fun g row => by simp [start]⟩, ?_, ?_, ?_, by decide⟩
  · intro id cur h
    simp [start] at h
  · intro i e h
    simp [start] at h
  · intro i j e e' h
    simp [start] at h

def InStep (p : SavedPlayer) : Prop := p.currencies.InStep ∧ p.sets.InStep

def Lost (p : SavedPlayer) : Prop := p.currencies.Lost ∨ p.sets.Lost

variable {p : SavedPlayer}

theorem Loaded.inStep (h : p.Loaded) : p.InStep := by
  refine ⟨fun id => ?_, h.next_pos, fun i e he => (h.sets i e he).2, h.guid_inj, fun i e he => ?_, ?_⟩
  · have hrow := h.synced.1 id
    cases hcur : p.currencies.currencies[id]? with
    | none =>
      rw [hcur] at hrow
      exact hrow
    | some cur =>
      have hstate := h.currencies id cur hcur
      rw [hcur] at hrow
      refine ⟨by simp [hstate], ?_⟩
      rw [hstate]
      exact hrow
  · obtain ⟨hstate, -⟩ := h.sets i e he
    rw [hstate]
    exact (h.synced.2 e.guid (e.row i)).mpr ⟨i, e, he, by simp [hstate], rfl, rfl⟩
  · intro g row hg
    obtain ⟨i, e, he, -, hguid, -⟩ := (h.synced.2 g row).mp hg
    exact ⟨i, e, he, hguid⟩

theorem InStep.step (h : p.InStep) {op : SavedPlayerOp} (hmay : p.MayMark op) : (p.step rules op).InStep := by
  cases op with
  | modifyCurrencyCount id count how =>
    exact ⟨(Currencies.touched_modifyCurrencyCount _ id count how).inStep h.1, h.2⟩
  | setCurrencyFlags id flags =>
    refine ⟨(Currencies.touched_setCurrencyFlags ?_ flags).inStep h.1, h.2⟩
    intro cur hcur
    exact hmay (id, cur) (Std.ExtTreeMap.mem_toList_iff_getElem?_eq_some.mpr hcur) rfl
  | resetCurrencyWeekCounts =>
    refine ⟨(Currencies.touched_resetCurrencyWeekCounts ?_).inStep h.1, h.2⟩
    intro id cur hcur
    exact hmay (id, cur) (Std.ExtTreeMap.mem_toList_iff_getElem?_eq_some.mpr hcur)
  | setPersonalRating value =>
    exact ⟨(Currencies.touched_setPersonalRating _ value).inStep h.1, h.2⟩
  | setEquipmentSet index eqset => exact ⟨h.1, h.2.setEquipmentSet hmay⟩
  | deleteEquipmentSet setGuid => exact ⟨h.1, h.2.deleteEquipmentSet setGuid⟩
  | skipGuids count => exact ⟨h.1, h.2.skipGuids count⟩
  | save => exact ⟨h.1.save, h.2.save⟩

theorem InStep.lost_step (h : p.InStep) {op : SavedPlayerOp} (hmay : ¬ p.MayMark op) : (p.step rules op).Lost := by
  cases op with
  | modifyCurrencyCount id count how => exact absurd trivial hmay
  | setCurrencyFlags id flags =>
    rw [MayMark] at hmay
    push Not at hmay
    obtain ⟨⟨_, cur⟩, hmem, rfl, hnew⟩ := hmay
    exact .inl (h.1.lost_setCurrencyFlags (Std.ExtTreeMap.mem_toList_iff_getElem?_eq_some.mp hmem) hnew flags)
  | resetCurrencyWeekCounts =>
    rw [MayMark] at hmay
    push Not at hmay
    obtain ⟨⟨id, cur⟩, hmem, hnew⟩ := hmay
    exact .inl (h.1.lost_resetCurrencyWeekCounts (Std.ExtTreeMap.mem_toList_iff_getElem?_eq_some.mp hmem) hnew)
  | setPersonalRating value => exact absurd trivial hmay
  | setEquipmentSet index eqset => exact .inr (h.2.lost_setEquipmentSet hmay)
  | deleteEquipmentSet setGuid => exact absurd trivial hmay
  | skipGuids count => exact absurd trivial hmay
  | save => exact absurd trivial hmay

theorem Lost.step (h : p.Lost) (op : SavedPlayerOp) : (p.step rules op).Lost := by
  rcases h with hcur | hset
  · left
    cases op with
    | modifyCurrencyCount id count how =>
      exact (Currencies.touched_modifyCurrencyCount _ id count how).lost hcur
    | setCurrencyFlags id flags => exact hcur.setCurrencyFlags id flags
    | resetCurrencyWeekCounts => exact hcur.resetCurrencyWeekCounts
    | setPersonalRating value => exact (Currencies.touched_setPersonalRating _ value).lost hcur
    | setEquipmentSet index eqset => exact hcur
    | deleteEquipmentSet setGuid => exact hcur
    | skipGuids count => exact hcur
    | save => exact hcur.save
  · right
    cases op with
    | modifyCurrencyCount id count how => exact hset
    | setCurrencyFlags id flags => exact hset
    | resetCurrencyWeekCounts => exact hset
    | setPersonalRating value => exact hset
    | setEquipmentSet index eqset => exact hset.setEquipmentSet index eqset
    | deleteEquipmentSet setGuid => exact hset.deleteEquipmentSet setGuid
    | skipGuids count => exact hset.skipGuids count
    | save => exact hset.save

theorem Lost.not_synced_save (h : p.Lost) : ¬ p.save.Synced := by
  rintro ⟨hcurrencies, hsets⟩
  rcases h with hcur | hset
  · exact hcur.save.not_synced hcurrencies
  · exact hset.save.not_synced hsets

/-- After any requests a save leaves in the tables what the character has, exactly if none of the requests
marked as changed what had not been saved. -/
theorem save_keeps_iff (p : SavedPlayer) (h : p.Loaded) (ops : List SavedPlayerOp) :
    (run (step rules) p ops).save.Synced ↔ Guarded (step rules) MayMark p ops := by
  refine @run_end_iff _ _ (step rules) MayMark InStep Lost (fun p => p.save.Synced)
    (fun p h => ⟨h.1.synced_save, h.2.synced_save⟩) (fun p h => h.not_synced_save) ?_ ?_ ?_ p ops h.inStep
  · exact fun p op hmay h => h.step rules hmay
  · exact fun p op hmay h => h.lost_step rules hmay
  · exact fun p op h => h.step rules op

def oneCurrency : CurrencyRules where
  lookupEntry id := if id = 395 then some { id := 395 } else none
  conquestRating _ := 0
  bgConquestRating _ := 0

def someSet : EquipmentSet := ⟨0, "tank", "shield", 0, [17], .new⟩

theorem save_keeps_savedFirst : (run (step oneCurrency) start
      [.modifyCurrencyCount 395 40 {}, .save, .setCurrencyFlags 395 4, .setEquipmentSet 2 someSet]).save.Synced :=
  (save_keeps_iff oneCurrency start loaded_start _).mpr (by decide +kernel)

/-- Points that are earned and shown in the backpack before the next save. -/
def flagged : SavedPlayer :=
  run (step oneCurrency) start [.modifyCurrencyCount 395 40 {}, .setCurrencyFlags 395 4, .save]

/-- A set that is replaced by a new one after it was saved. -/
def replaced : SavedPlayer :=
  run (step oneCurrency) start
    [.setEquipmentSet 2 someSet, .save, .setEquipmentSet 2 { someSet with name := "heal" }, .save]

/-- The points have no row, and the table keeps the old set instead of the new one. -/
theorem not_saved : ¬ flagged.Synced ∧ ¬ replaced.Synced := by
  constructor
  · intro h
    have hrow : flagged.currencies.rows 395 = none := by decide +kernel
    have hcur : flagged.currencies.currencies[395]? ≠ none := by decide +kernel
    have hsynced := h.1 395
    rw [hrow] at hsynced
    exact hcur (Option.map_eq_none_iff.mp hsynced.symm)
  · intro h
    have hrow : replaced.sets.rows 1 = some (someSet.row 2) := by decide +kernel
    have hsets : ∀ entry ∈ replaced.sets.sets.toList, entry.2.guid ≠ 1 := by decide +kernel
    obtain ⟨i, e, he, -, hguid, -⟩ := (h.2 1 (someSet.row 2)).mp hrow
    exact hsets (i, e) (Std.ExtTreeMap.mem_toList_iff_getElem?_eq_some.mpr he) hguid

end SavedPlayer

end Mangos
