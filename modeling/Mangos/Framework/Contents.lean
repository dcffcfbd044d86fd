import Mathlib.Algebra.BigOperators.Group.Multiset.Basic
import Mathlib.Data.Multiset.Filter
import Mathlib.Tactic.Abel

/-!
# What a keyed store holds

A store is a partial map looked at through a fixed list of keys.
-/

namespace Framework

variable {κ α β : Type*} [DecidableEq κ]

def contents (keys : List κ) (m : κ → Option α) : Multiset α := ↑(keys.filterMap m)

def held (v : Option α) : Multiset α := ↑v.toList

def tally (w : α → Nat) (keys : List κ) (m : κ → Option α) : Nat :=
  ((contents keys m).map w).sum

omit [DecidableEq κ] in
@[simp] theorem held_none : held (none : Option α) = 0 := rfl

omit [DecidableEq κ] in
@[simp] theorem held_some (a : α) : held (some a) = {a} := rfl

omit [DecidableEq κ] in
@[simp] theorem contents_nil (m : κ → Option α) : contents [] m = 0 := rfl

omit [DecidableEq κ] in
theorem contents_cons (k : κ) (keys : List κ) (m : κ → Option α) :
    contents (k :: keys) m = held (m k) + contents keys m := by
  cases h : m k <;> simp [contents, h, Multiset.cons_coe]

omit [DecidableEq κ] in
theorem mem_contents {keys : List κ} {m : κ → Option α} {a : α} : a ∈ contents keys m ↔ ∃ k ∈ keys, m k = some a := by
  simp [contents]

omit [DecidableEq κ] in
theorem contents_congr {keys : List κ} {m m' : κ → Option α} (h : ∀ k ∈ keys, m k = m' k) :
    contents keys m = contents keys m' := by
  simp only [contents, List.filterMap_congr h]

omit [DecidableEq κ] in
theorem contents_filter_add (p : κ → Bool) (keys : List κ) (m : κ → Option α) :
    contents (keys.filter p) m + contents (keys.filter fun k => !p k) m = contents keys m := by
  induction keys with
  | nil => rfl
  | cons k keys ih =>
    rw [contents_cons, ← ih]
    cases hk : p k with
    | true =>
      rw [List.filter_cons_of_pos hk, List.filter_cons_of_neg (by simp [hk]), contents_cons, add_assoc]
    | false =>
      rw [List.filter_cons_of_neg (by simp [hk]), List.filter_cons_of_pos (by simp [hk]),
        contents_cons, add_left_comm]

omit [DecidableEq κ] in
theorem length_free_add_card (keys : List κ) (m : κ → Option α) :
    (keys.filter fun k => (m k).isNone).length + (contents keys m).card = keys.length := by
  induction keys with
  | nil => rfl
  | cons k keys ih =>
    rw [contents_cons, Multiset.card_add, List.length_cons]
    cases hk : m k with
    | none =>
      simp only [List.filter_cons, hk, Option.isNone_none, if_true, List.length_cons, held_none, Multiset.card_zero]
      omega
    | some a =>
      simp only [List.filter_cons, hk, Option.isNone_some, Bool.false_eq_true, if_false,
        held_some, Multiset.card_singleton]
      omega

omit [DecidableEq κ] in
theorem contents_bind {ι : Type*} (g : ι → Option κ) (names : List ι) (m : κ → Option α) :
    contents names (fun i => (g i).bind m) = contents (names.filterMap g) m := by
  simp [contents, List.filterMap_filterMap]

omit [DecidableEq κ] in
theorem contents_map (f : α → β) (keys : List κ) (m : κ → Option α) :
    contents keys (fun k => (m k).map f) = (contents keys m).map f := by
  simp [contents, List.map_filterMap]

omit [DecidableEq κ] in
theorem contents_eq_of_same {keys keys' : List κ} {m : κ → Option α} (h : keys.Nodup)
    (h' : keys'.Nodup) (hsame : ∀ k a, m k = some a → (k ∈ keys ↔ k ∈ keys')) : contents keys m = contents keys' m := by
  have hrestrict : ∀ l : List κ, contents l m = contents (l.filter fun k => (m k).isSome) m := by
    intro l
    have hnone : contents (l.filter fun k => !(m k).isSome) m = 0 := by
      rw [Multiset.eq_zero_iff_forall_notMem]
      intro a ha
      obtain ⟨k, hk, hka⟩ := mem_contents.mp ha
      simp [hka] at hk
    rw [← contents_filter_add (fun k => (m k).isSome) l m, hnone, add_zero]
  have hperm : (keys.filter fun k => (m k).isSome).Perm (keys'.filter fun k => (m k).isSome) := by
    rw [List.perm_ext_iff_of_nodup (h.filter _) (h'.filter _)]
    intro k
    cases hk : m k with
    | none => simp [hk]
    | some a => simp [hk, hsame k a hk]
  rw [hrestrict keys, hrestrict keys']
  exact Multiset.coe_eq_coe.mpr (hperm.filterMap m)

theorem contents_update_of_notMem {keys : List κ} {k : κ} (hk : k ∉ keys) (m : κ → Option α)
    (v : Option α) : contents keys (Function.update m k v) = contents keys m := by
  refine contents_congr fun l hl => ?_
  have hne : l ≠ k := by rintro rfl; exact hk hl
  exact Function.update_of_ne hne v m

theorem contents_update {keys : List κ} (hnd : keys.Nodup) {k : κ} (hk : k ∈ keys) (m : κ → Option α) (v : Option α) :
    contents keys (Function.update m k v) + held (m k) = contents keys m + held v := by
  induction keys with
  | nil => simp at hk
  | cons l keys ih =>
    have hl := List.nodup_cons.mp hnd
    rw [contents_cons, contents_cons]
    by_cases hkl : k = l
    · subst hkl
      rw [contents_update_of_notMem hl.1, Function.update_self]
      abel
    · have hk' : k ∈ keys := by simpa [hkl] using hk
      rw [Function.update_of_ne (Ne.symm hkl), add_assoc, ih hl.2 hk', add_assoc]

theorem tally_update {keys : List κ} (hnd : keys.Nodup) {k : κ} (hk : k ∈ keys) (w : α → Nat)
    (m : κ → Option α) (v : Option α) :
    tally w keys (Function.update m k v) + (m k).elim 0 w = tally w keys m + v.elim 0 w := by
  have h := congrArg (fun c => (c.map w).sum) (contents_update hnd hk m v)
  simp only [Multiset.map_add, Multiset.sum_add] at h
  have helim : ∀ o : Option α, ((held o).map w).sum = o.elim 0 w := by
    intro o
    cases o <;> simp
  simpa only [tally, helim] using h

omit [DecidableEq κ] in
theorem contents_key_unique {keys : List κ} {m : κ → Option α} {f : α → β}
    (hf : ((contents keys m).map f).Nodup) {k l : κ} {a b : α} (hk : k ∈ keys) (hl : l ∈ keys)
    (ha : m k = some a) (hb : m l = some b) (hab : f a = f b) : k = l := by
  induction keys with
  | nil => simp at hk
  | cons j keys ih =>
    rw [contents_cons, Multiset.map_add, Multiset.nodup_add] at hf
    obtain ⟨-, htail, hdisj⟩ := hf
    have hclash : ∀ {i i' : κ} {c d : α}, i = j → i' ∈ keys → m i = some c → m i' = some d → f c ≠ f d := by
      rintro i i' c d rfl hi' hc hd hcd
      have hleft : f c ∈ (held (m i)).map f := by simp [hc]
      have hright : f d ∈ (contents keys m).map f :=
        Multiset.mem_map_of_mem f (mem_contents.mpr ⟨i', hi', hd⟩)
      exact Multiset.disjoint_left.mp hdisj hleft (hcd ▸ hright)
    rcases List.mem_cons.mp hk with hkj | hk' <;> rcases List.mem_cons.mp hl with hlj | hl'
    · exact hkj.trans hlj.symm
    · exact absurd hab (hclash hkj hl' ha hb)
    · exact absurd hab.symm (hclash hlj hk' hb ha)
    · exact ih htail hk' hl'

/-- Different labels, all of them below the next one to be handed out. -/
structure Fresh (next : Nat) (labels : Multiset Nat) : Prop where
  nodup : labels.Nodup
  lt : ∀ l ∈ labels, l < next

namespace Fresh

variable {next l : Nat} {labels labels' : Multiset Nat}

theorem drop (h : Fresh next (l ::ₘ labels)) : Fresh next labels :=
  ⟨(Multiset.nodup_cons.mp h.nodup).2, fun l' hl' => h.lt l' (Multiset.mem_cons_of_mem hl')⟩

theorem draw (h : Fresh next labels) : Fresh (next + 1) (next ::ₘ labels) := by
  constructor
  · rw [Multiset.nodup_cons]
    exact ⟨fun hmem => Nat.lt_irrefl next (h.lt next hmem), h.nodup⟩
  · intro l hl
    rcases Multiset.mem_cons.mp hl with rfl | hl
    · exact Nat.lt_succ_self l
    · exact Nat.lt_succ_of_lt (h.lt l hl)

theorem mono {next' : Nat} (h : Fresh next labels) (hle : next ≤ next') : Fresh next' labels :=
  ⟨h.nodup, fun l hl => Nat.lt_of_lt_of_le (h.lt l hl) hle⟩

theorem congr (h : Fresh next labels) (heq : labels' = labels) : Fresh next labels' := heq ▸ h

end Fresh

end Framework
