import Mathlib.Data.List.Nodup
import Mathlib.Logic.Function.Basic

/-!
# Writing back

Entries are kept in memory and written to the rows of a table when they are saved.
-/

namespace Framework

inductive UpdateState
  | unchanged
  | changed
  | new
  | deleted
  deriving DecidableEq, Repr

def UpdateState.touch : UpdateState → UpdateState
  | .new => .new
  | _ => .changed

variable {α β κ : Type*}

/-- `UPDATE` of a row that meets the condition. -/
def updateRow (hits : β → Bool) (value : β) (row : Option β) : Option β :=
  row.map fun old => if hits old then value else old

/-- `INSERT`, which fails where there is a row. -/
def insertRow (value : β) (row : Option β) : Option β := some (row.getD value)

def InStep (hits : β → Bool) (state : UpdateState) (value : β) (row : Option β) : Prop :=
  match state with
  | .unchanged => row = some value
  | .changed => ∃ old, row = some old ∧ hits old = true
  | .new => row = none
  | .deleted => ∃ old, row = some old ∧ hits old = true

def saveRow (hits : β → Bool) (state : UpdateState) (value : β) (row : Option β) : Option β :=
  match state with
  | .unchanged => row
  | .changed => updateRow hits value row
  | .new => insertRow value row
  | .deleted => none

variable {hits : β → Bool} {state : UpdateState} {value value' : β} {row : Option β}

theorem saveRow_of_inStep (h : InStep hits state value row) :
    saveRow hits state value row = if state = .deleted then none else some value := by
  cases state with
  | unchanged => exact h
  | changed =>
    obtain ⟨old, hrow, hhit⟩ := h
    simp [saveRow, updateRow, hrow, hhit]
  | new =>
    have hnone : row = none := h
    simp [saveRow, insertRow, hnone]
  | deleted => rfl

theorem InStep.changed (h : InStep hits state value row) (hhit : hits value = true)
    (hnew : state ≠ .new) (value' : β) : InStep hits .changed value' row := by
  cases state with
  | unchanged => exact ⟨value, h, hhit⟩
  | changed => exact h
  | new => exact absurd rfl hnew
  | deleted => exact h

theorem InStep.touch (h : InStep hits state value row) (hhit : hits value = true) (value' : β) :
    InStep hits state.touch value' row := by
  by_cases hnew : state = .new
  · subst hnew
    exact h
  · have htouch : state.touch = .changed := by
      cases state with
      | unchanged => rfl
      | changed => rfl
      | new => exact absurd rfl hnew
      | deleted => rfl
    rw [htouch]
    exact h.changed hhit hnew value'

theorem InStep.delete (h : InStep hits state value row) (hhit : hits value = true)
    (hnew : state ≠ .new) : InStep hits .deleted value row :=
  h.changed hhit hnew value

variable [DecidableEq κ]

def saveRows (key : α → κ) (write : α → Option β → Option β) (rows : κ → Option β)
    (entries : List α) : κ → Option β :=
  entries.foldl (fun rows e => Function.update rows (key e) (write e (rows (key e)))) rows

variable {key : α → κ} {write : α → Option β → Option β}

theorem saveRows_of_not_mem {k : κ} {entries : List α} (h : k ∉ entries.map key)
    (rows : κ → Option β) : saveRows key write rows entries k = rows k := by
  induction entries generalizing rows with
  | nil => rfl
  | cons e entries ih =>
    rw [List.map_cons, List.mem_cons, not_or] at h
    exact (ih h.2 _).trans (Function.update_of_ne h.1 _ _)

theorem saveRows_of_mem {e : α} {entries : List α} (hnodup : (entries.map key).Nodup)
    (he : e ∈ entries) (rows : κ → Option β) : saveRows key write rows entries (key e) = write e (rows (key e)) := by
  induction entries generalizing rows with
  | nil => cases he
  | cons first entries ih =>
    rw [List.map_cons, List.nodup_cons] at hnodup
    have hcons (rows : κ → Option β) : saveRows key write rows (first :: entries) =
      saveRows key write (Function.update rows (key first) (write first (rows (key first)))) entries := rfl
    rw [hcons]
    cases he with
    | head => rw [saveRows_of_not_mem hnodup.1, Function.update_self]
    | tail _ hmem =>
      have hne : key e ≠ key first := fun heq => hnodup.1 (heq ▸ List.mem_map_of_mem hmem)
      rw [ih hnodup.2 hmem, Function.update_of_ne hne]

end Framework
