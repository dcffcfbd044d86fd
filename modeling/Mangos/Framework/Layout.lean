import Mathlib.Algebra.Order.Group.Nat
import Mathlib.Data.List.Range
import Mathlib.Logic.Function.Basic

/-!
# Cells at addresses

Cells of several sizes are written one behind the other.
-/

namespace Framework

open Function

variable {Cell : Type*} {size : Cell → Nat}

def extent (size : Cell → Nat) : List Cell → Nat
  | [] => 0
  | cell :: cells => size cell + extent size cells

def putCells (size : Cell → Nat) : List Cell → Nat → (Nat → Option Cell) → Nat → Option Cell
  | [], _, memory => memory
  | cell :: cells, address, memory => putCells size cells (address + size cell) (update memory address (some cell))

@[simp] theorem extent_append (cells cells' : List Cell) :
    extent size (cells ++ cells') = extent size cells + extent size cells' := by
  induction cells with
  | nil => simp [extent]
  | cons cell cells ih => simp [extent, ih, Nat.add_assoc]

theorem putCells_append (cells cells' : List Cell) (address : Nat) (memory : Nat → Option Cell) :
    putCells size (cells ++ cells') address memory =
      putCells size cells' (address + extent size cells) (putCells size cells address memory) := by
  induction cells generalizing address memory with
  | nil => rfl
  | cons cell cells ih => rw [List.cons_append, putCells, ih, putCells, extent, Nat.add_assoc]

variable (hpos : ∀ cell, 0 < size cell)
include hpos

/-- What is written below comes before or after. -/
theorem putCells_update {address start : Nat} (h : address < start) (cells : List Cell)
    (memory : Nat → Option Cell) (value : Option Cell) :
    putCells size cells start (update memory address value) = update (putCells size cells start memory) address value := by
  induction cells generalizing start memory with
  | nil => rfl
  | cons cell cells ih =>
    have hcell := hpos cell
    rw [putCells, putCells, update_comm h.ne, ih (by omega)]

theorem putCells_at (done : List Cell) (cell : Cell) (rest : List Cell) (address : Nat) (memory : Nat → Option Cell) :
    putCells size (done ++ cell :: rest) address memory (address + extent size done) = some cell := by
  have hcell := hpos cell
  rw [putCells_append, putCells, putCells_update hpos (by omega), update_self]

theorem update_putCells (done : List Cell) {cell new : Cell} (hsize : size new = size cell) (rest : List Cell)
    (address : Nat) (memory : Nat → Option Cell) :
    update (putCells size (done ++ cell :: rest) address memory) (address + extent size done) (some new) =
      putCells size (done ++ new :: rest) address memory := by
  have hcell := hpos cell
  rw [putCells_append, putCells_append, putCells, putCells, hsize, putCells_update hpos (by omega),
    putCells_update hpos (by omega), update_idem]

omit hpos

section Grid

variable {α : Type*} (f : Nat → Nat → List α) (count width : Nat)

def row (y : Nat) : List α := (List.range width).flatMap (f y)

def rowsFrom (y : Nat) : List α := (List.range' y (count - y)).flatMap (row f width)

def gridBefore (y x : Nat) : List α := (List.range y).flatMap (row f width) ++ (List.range x).flatMap (f y)

def gridFrom (y x : Nat) : List α := (List.range' x (width - x)).flatMap (f y) ++ rowsFrom f count width (y + 1)

variable {f count width}

theorem gridBefore_succ (y x : Nat) : gridBefore f width y (x + 1) = gridBefore f width y x ++ f y x := by
  simp [gridBefore, List.range_succ]

theorem gridBefore_width (y : Nat) : gridBefore f width y width = gridBefore f width (y + 1) 0 := by
  simp [gridBefore, List.range_succ, row]

theorem gridFrom_succ {x : Nat} (hx : x < width) (y : Nat) :
    gridFrom f count width y x = f y x ++ gridFrom f count width y (x + 1) := by
  have hrest : width - x = width - (x + 1) + 1 := by omega
  rw [gridFrom, hrest, List.range'_succ, List.flatMap_cons, List.append_assoc]
  rfl

theorem gridFrom_width (y : Nat) : gridFrom f count width y width = rowsFrom f count width (y + 1) := by
  simp [gridFrom]

theorem gridFrom_zero {y : Nat} (hy : y < count) : gridFrom f count width y 0 = rowsFrom f count width y := by
  have hrest : count - y = count - (y + 1) + 1 := by omega
  rw [rowsFrom, hrest, List.range'_succ, List.flatMap_cons, gridFrom, row, List.range_eq_range', Nat.sub_zero]
  rfl

theorem gridBefore_append_gridFrom {y : Nat} (hy : y < count) {x : Nat} (hx : x ≤ width) :
    gridBefore f width y x ++ gridFrom f count width y x = gridBefore f width count 0 := by
  induction x with
  | zero =>
    have hrange : List.range count = List.range y ++ List.range' y (count - y) := by
      have hsplit := @List.range'_append_1 0 y (count - y)
      rw [Nat.zero_add, Nat.add_sub_cancel' hy.le] at hsplit
      rw [List.range_eq_range', List.range_eq_range', hsplit]
    rw [gridFrom_zero hy, gridBefore, gridBefore, List.range_zero, List.flatMap_nil, List.append_nil,
      List.flatMap_nil, List.append_nil, hrange, List.flatMap_append]
    rfl
  | succ x ih => rw [← ih (by omega), gridFrom_succ hx, gridBefore_succ, List.append_assoc]

end Grid

/-- A loop that goes well when each turn does, with the state before each turn. -/
theorem foldlM_range_iff {State : Type*} {turn : State → Nat → Option State} {good : Nat → Prop}
    {before : Nat → State} {n : Nat}
    (hturn : ∀ k < n, ∀ s, turn (before k) k = some s ↔ good k ∧ s = before (k + 1)) (s : State) :
    (List.range n).foldlM turn (before 0) = some s ↔ (∀ k < n, good k) ∧ s = before n := by
  induction n generalizing s with
  | zero => simp [eq_comm]
  | succ n ih =>
    have hprev := ih fun k hk => hturn k (by omega)
    rw [List.range_succ, List.foldlM_append, Option.bind_eq_bind, Option.bind_eq_some_iff, Nat.forall_lt_succ_right]
    simp only [hprev, List.foldlM_cons, List.foldlM_nil, Option.bind_eq_bind, Option.pure_def, Option.bind_fun_some]
    constructor
    · rintro ⟨_, ⟨hgood, rfl⟩, hturned⟩
      obtain ⟨hlast, rfl⟩ := (hturn n (by omega) s).mp hturned
      exact ⟨⟨hgood, hlast⟩, rfl⟩
    · rintro ⟨⟨hgood, hlast⟩, rfl⟩
      exact ⟨before n, ⟨hgood, rfl⟩, (hturn n (by omega) _).mpr ⟨hlast, rfl⟩⟩

end Framework
