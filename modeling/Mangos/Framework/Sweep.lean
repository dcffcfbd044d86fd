import Mangos.Framework.OrdMap
import Mangos.Framework.Run
import Mathlib.Data.List.Nodup

/-!
# Sweeps

A store is swept key by key, each visit reading and writing only what belongs to its key.
-/

namespace Framework

variable {State κ V : Type*}

section Keyed

variable {α : Type*} {key : α → κ} {visit : State → α → State} {view : State → κ → V}

theorem view_run_items_of_not_mem (hother : ∀ s a j, j ≠ key a → view (visit s a) j = view s j) {items : List α} {j : κ}
    (hj : j ∉ items.map key) (s : State) : view (run visit s items) j = view s j := by
  induction items generalizing s with
  | nil => rfl
  | cons a items ih =>
    rw [List.map_cons, List.mem_cons, not_or] at hj
    rw [run_cons, ih hj.2, hother s a j hj.1]

theorem view_run_items_of_mem {turn : α → V → V} (hself : ∀ s a, view (visit s a) (key a) = turn a (view s (key a)))
    (hother : ∀ s a j, j ≠ key a → view (visit s a) j = view s j) {items : List α}
    (hnodup : (items.map key).Nodup) {a : α} (ha : a ∈ items) (s : State) :
    view (run visit s items) (key a) = turn a (view s (key a)) := by
  induction items generalizing s with
  | nil => cases ha
  | cons b items ih =>
    obtain ⟨hb, hrest⟩ := List.nodup_cons.mp hnodup
    rw [run_cons]
    cases ha with
    | head => rw [view_run_items_of_not_mem hother hb, hself]
    | tail _ hmem =>
      have hne : key a ≠ key b := fun h => hb (h ▸ List.mem_map_of_mem hmem)
      rw [ih hrest hmem, hother s b _ hne]

end Keyed

theorem view_run_of_not_mem {visit : State → κ → State} {view : State → κ → V}
    (hother : ∀ s k j, j ≠ k → view (visit s k) j = view s j) {keys : List κ} {j : κ}
    (hj : j ∉ keys) (s : State) : view (run visit s keys) j = view s j :=
  @view_run_items_of_not_mem _ _ _ _ id _ _ hother _ j (by rwa [List.map_id]) s

theorem view_run_of_mem {visit : State → κ → State} {view : State → κ → V} {turn : κ → V → V}
    (hself : ∀ s k, view (visit s k) k = turn k (view s k))
    (hother : ∀ s k j, j ≠ k → view (visit s k) j = view s j) {keys : List κ}
    (hnodup : keys.Nodup) {j : κ} (hj : j ∈ keys) (s : State) : view (run visit s keys) j = turn j (view s j) :=
  @view_run_items_of_mem _ _ _ _ id _ _ _ hself hother keys (by rwa [List.map_id]) j hj s

theorem run_unchanged {W : Type*} {visit : State → κ → State} {view : State → W}
    (h : ∀ s k, view (visit s k) = view s) (s : State) (keys : List κ) : view (run visit s keys) = view s := by
  induction keys generalizing s with
  | nil => rfl
  | cons k keys ih => rw [run_cons, ih, h]

theorem lookup_run_keys [Ord κ] [Std.TransOrd κ] [Std.LawfulEqOrd κ] [DecidableEq κ]
    {visit : State → κ → State} {store : State → Std.ExtTreeMap κ V} {turn : V → Option V}
    (hself : ∀ s k, (store (visit s k))[k]? = (store s)[k]?.bind turn)
    (hother : ∀ s k j, j ≠ k → (store (visit s k))[j]? = (store s)[j]?) (s : State) (j : κ) :
    (store (run visit s (store s).keys))[j]? = (store s)[j]?.bind turn := by
  by_cases hj : j ∈ (store s).keys
  · exact @view_run_of_mem _ _ _ visit (fun s k => (store s)[k]?) (fun _ v => v.bind turn) hself
      hother _ Std.ExtTreeMap.nodup_keys j hj s
  · have hkept := @view_run_of_not_mem _ _ _ visit (fun s k => (store s)[k]?) hother _ j hj s
    have hnone : (store s)[j]? = none := by
      rw [getElem?_eq_none_iff]
      simpa using hj
    exact hkept.trans (by simp [hnone])

end Framework
