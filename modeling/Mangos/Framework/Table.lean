import Mathlib.Data.List.Nodup
import Mathlib.Data.List.Sort
import Mathlib.Order.Basic

/-!
# Tables with a key

A table holds one row at most for each key. A row that is written takes the place of the row of its key.
-/

namespace Framework

/-- The rows of a table, in some order. -/
structure Table {α κ : Type*} (key : α → κ) where
  rows : List α
  nodup : (rows.map key).Nodup

namespace Table

variable {α κ : Type*} [DecidableEq κ] {key : α → κ} (t : Table key)

def empty (key : α → κ) : Table key := ⟨[], List.nodup_nil⟩

private theorem nodup_filter (p : α → Bool) : ((t.rows.filter p).map key).Nodup :=
  t.nodup.sublist (List.filter_sublist.map key)

/-- `DELETE` of the row of a key. -/
def delete (k : κ) : Table key := ⟨t.rows.filter (key · ≠ k), t.nodup_filter _⟩

/-- `REPLACE INTO`. -/
def replace (row : α) : Table key where
  rows := t.rows.filter (key · ≠ key row) ++ [row]
  nodup := by
    rw [List.map_append, List.map_singleton, ← List.concat_eq_append, List.nodup_concat]
    refine ⟨?_, t.nodup_filter _⟩
    intro hmem
    obtain ⟨other, hother, heq⟩ := List.mem_map.mp hmem
    simp [heq] at hother

def lookup (k : κ) : Option α := t.rows.find? (key · = k)

variable {t} {k k' : κ} {row : α}

theorem lookup_eq_some : t.lookup k = some row ↔ row ∈ t.rows ∧ key row = k := by
  constructor
  · intro h
    exact ⟨List.mem_of_find?_eq_some h, by simpa using List.find?_some h⟩
  · rintro ⟨hmem, rfl⟩
    cases hfound : t.lookup (key row) with
    | none =>
      have hnone := List.find?_eq_none.mp hfound row hmem
      simp at hnone
    | some other =>
      have hother : key other = key row := by simpa using List.find?_some hfound
      have hin : other ∈ t.rows := List.mem_of_find?_eq_some hfound
      rw [List.inj_on_of_nodup_map t.nodup hin hmem hother]

@[simp] theorem lookup_empty : (empty key).lookup k = none := rfl

theorem lookup_delete : (t.delete k').lookup k = if k = k' then none else t.lookup k := by
  apply Option.ext
  intro other
  by_cases hk : k = k'
  · simp only [lookup_eq_some, delete, List.mem_filter, hk, if_true]
    simp
  · rw [if_neg hk]
    simp only [lookup_eq_some, delete, List.mem_filter, decide_eq_true_eq]
    constructor
    · exact fun h => ⟨h.1.1, h.2⟩
    · exact fun h => ⟨⟨h.1, h.2 ▸ hk⟩, h.2⟩

theorem lookup_replace : (t.replace row).lookup k = if k = key row then some row else t.lookup k := by
  apply Option.ext
  intro other
  by_cases hk : k = key row
  · simp only [lookup_eq_some, replace, List.mem_append, List.mem_filter, List.mem_singleton, hk,
      if_true, Option.some.injEq, decide_eq_true_eq]
    constructor
    · rintro ⟨⟨-, hne⟩ | rfl, heq⟩
      · exact absurd heq hne
      · rfl
    · rintro rfl
      exact ⟨.inr rfl, rfl⟩
  · rw [if_neg hk]
    simp only [lookup_eq_some, replace, List.mem_append, List.mem_filter, List.mem_singleton, decide_eq_true_eq]
    constructor
    · rintro ⟨⟨hmem, -⟩ | rfl, heq⟩
      · exact ⟨hmem, heq⟩
      · exact absurd heq.symm hk
    · rintro ⟨hmem, rfl⟩
      exact ⟨.inl ⟨hmem, hk⟩, rfl⟩

end Table

/-!
## Multimaps

The entries of a multimap lie in the order of their keys; a new entry comes after those with its key.
-/

/-- Entries in the order of their keys. -/
structure Multimap (κ α : Type*) [LinearOrder κ] where
  toList : List (κ × α)
  sorted : toList.Pairwise fun x y => x.1 ≤ y.1

namespace Multimap

variable {κ α : Type*} [LinearOrder κ]

theorem sorted_orderedInsert (x : κ × α) {l : List (κ × α)} (h : l.Pairwise fun x y => x.1 ≤ y.1) :
    (l.orderedInsert (fun x y => x.1 < y.1) x).Pairwise fun x y => x.1 ≤ y.1 := by
  induction l with
  | nil => exact List.pairwise_singleton ..
  | cons y l ih =>
    obtain ⟨hy, hl⟩ := List.pairwise_cons.mp h
    rw [List.orderedInsert_cons]
    split
    next hlt =>
      refine List.pairwise_cons.mpr ⟨fun z hz => ?_, h⟩
      rcases List.mem_cons.mp hz with rfl | hz
      · exact hlt.le
      · exact hlt.le.trans (hy z hz)
    next hge =>
      refine List.pairwise_cons.mpr ⟨fun z hz => ?_, ih hl⟩
      rcases (List.mem_orderedInsert _).mp hz with rfl | hz
      · exact not_lt.mp hge
      · exact hy z hz

def empty : Multimap κ α := ⟨[], .nil⟩

def insert (m : Multimap κ α) (x : κ × α) : Multimap κ α :=
  ⟨m.toList.orderedInsert (fun x y => x.1 < y.1) x, sorted_orderedInsert x m.sorted⟩

def tail (m : Multimap κ α) : Multimap κ α := ⟨m.toList.tail, m.sorted.tail⟩

def modifyHead (m : Multimap κ α) (f : α → α) : Multimap κ α where
  toList := m.toList.modifyHead fun x => (x.1, f x.2)
  sorted := by
    have h := m.sorted
    cases hl : m.toList with
    | nil => exact .nil
    | cons x l => exact List.pairwise_cons.mpr (List.pairwise_cons.mp (hl ▸ h))

def filter (m : Multimap κ α) (p : κ × α → Bool) : Multimap κ α :=
  ⟨m.toList.filter p, m.sorted.filter p⟩

variable (m : Multimap κ α)

@[simp] theorem toList_empty : (empty : Multimap κ α).toList = [] := rfl

@[simp] theorem toList_tail : m.tail.toList = m.toList.tail := rfl

@[simp] theorem toList_modifyHead (f : α → α) :
    (m.modifyHead f).toList = m.toList.modifyHead fun x => (x.1, f x.2) := rfl

@[simp] theorem toList_filter (p : κ × α → Bool) : (m.filter p).toList = m.toList.filter p := rfl

theorem perm_insert (x : κ × α) : (m.insert x).toList.Perm (x :: m.toList) :=
  List.perm_orderedInsert _ x m.toList

@[simp] theorem mem_insert {x y : κ × α} : y ∈ (m.insert x).toList ↔ y = x ∨ y ∈ m.toList := by
  rw [(m.perm_insert x).mem_iff, List.mem_cons]

variable {m}

theorem key_le_of_head? {x y : κ × α} (h : m.toList.head? = some x) (hy : y ∈ m.toList) : x.1 ≤ y.1 := by
  obtain ⟨l, hl⟩ := List.head?_eq_some_iff.mp h
  have hsorted := m.sorted
  rw [hl] at hsorted hy
  rcases List.mem_cons.mp hy with rfl | hy
  · exact le_refl _
  · exact (List.pairwise_cons.mp hsorted).1 y hy

theorem toList_tail_insert_modifyHead {x : κ × α} {l : List (κ × α)} (h : m.toList = x :: l) (k : κ)
    (a : α) : (((m.modifyHead fun _ => a).insert (k, a)).tail).toList =
      if k < x.1 then (x.1, a) :: l else l.orderedInsert (fun x y => x.1 < y.1) (k, a) := by
  change (List.orderedInsert _ (k, a) (m.toList.modifyHead fun x => (x.1, a))).tail = _
  rw [h, List.modifyHead_cons, List.orderedInsert_cons]
  split <;> rfl

end Multimap

end Framework
