import Mathlib.Data.List.Basic

/-!
# Counters of the classes of a list

A list is divided into classes by a key, and an array has a counter for each class below a bound.
-/

namespace Framework

variable {α : Type*} {key : α → Nat} {n k : Nat} {l : List α} {a b : α}

def countsOf (key : α → Nat) (n : Nat) (l : List α) : List Nat :=
  (List.range n).map fun k => l.countP fun a => key a = k

@[simp] theorem length_countsOf : (countsOf key n l).length = n := by simp [countsOf]

theorem getElem?_countsOf (hk : k < n) : (countsOf key n l)[k]? = some (l.countP fun a => key a = k) := by
  simp [countsOf, hk]

theorem modify_map_range (c : Nat → Nat) (n k : Nat) (f : Nat → Nat) :
    ((List.range n).map c).modify k f = (List.range n).map fun j => if j = k then f (c j) else c j := by
  apply List.ext_getElem
  · simp
  · intro j hj hj'
    simp only [List.getElem_modify, List.getElem_map, List.getElem_range]
    by_cases h : j = k
    · simp [h]
    · simp [h, Ne.symm h]

theorem countsOf_append (f : Nat → Nat) (hf : f (l.countP fun b => key b = key a) =
    (l.countP fun b => key b = key a) + 1) :
    countsOf key n (l ++ [a]) = (countsOf key n l).modify (key a) f := by
  rw [countsOf, countsOf, modify_map_range]
  refine List.map_congr_left fun j _ => ?_
  rw [List.countP_append]
  by_cases h : j = key a
  · rw [if_pos h, h, hf]
    simp
  · rw [if_neg h]
    simp [Ne.symm h]

theorem countP_eraseP {p q : α → Bool} (hfind : l.find? p = some a) :
    (l.eraseP p).countP q + (if q a then 1 else 0) = l.countP q := by
  induction l with
  | nil => cases hfind
  | cons b l ih =>
    by_cases hp : p b
    · rw [List.find?_cons_of_pos hp] at hfind
      obtain rfl := Option.some.inj hfind
      rw [List.eraseP_cons_of_pos hp, List.countP_cons]
    · rw [List.find?_cons_of_neg hp] at hfind
      rw [List.eraseP_cons_of_neg hp, List.countP_cons, List.countP_cons, ← ih hfind]
      omega

theorem countsOf_eraseP {p : α → Bool} (hfind : l.find? p = some a) (f : Nat → Nat)
    (hf : ∀ c, 0 < c → c ≤ (l.countP fun b => key b = key a) → f c = c - 1) :
    countsOf key n (l.eraseP p) = (countsOf key n l).modify (key a) f := by
  rw [countsOf, countsOf, modify_map_range]
  refine List.map_congr_left fun j _ => ?_
  have hcount := countP_eraseP (q := fun b => key b = j) hfind
  by_cases h : j = key a
  · subst h
    simp only [decide_true, if_true] at hcount
    rw [if_pos rfl, hf _ (by omega) (Nat.le_refl _)]
    omega
  · have hne : ¬ key a = j := Ne.symm h
    simp only [hne, decide_false, Bool.false_eq_true, if_false, Nat.add_zero] at hcount
    rw [if_neg h, hcount]

theorem countP_eq_add_one {p q : α → Bool} (hl : l.Nodup) (ha : a ∈ l) (hp : p a = false)
    (hq : q a = true) (hsame : ∀ b ∈ l, b ≠ a → q b = p b) : l.countP q = l.countP p + 1 := by
  induction l with
  | nil => cases ha
  | cons b l ih =>
    obtain ⟨hb, hl⟩ := List.nodup_cons.mp hl
    rw [List.countP_cons, List.countP_cons]
    rcases List.mem_cons.mp ha with rfl | ha
    · have hrest : l.countP q = l.countP p := by
        refine List.countP_congr fun c hc => ?_
        rw [hsame c (List.mem_cons_of_mem _ hc) fun h => hb (h ▸ hc)]
      simp [hp, hq, hrest]
    · have hne : b ≠ a := fun h => hb (h ▸ ha)
      rw [ih hl ha fun c hc => hsame c (List.mem_cons_of_mem _ hc), hsame b List.mem_cons_self hne]
      omega

theorem countP_changeAt {β : Type*} {key : α → β} {p q : α → Bool} (hl : (l.map key).Nodup) (ha : a ∈ l)
    (hsame : ∀ b ∈ l, key b ≠ key a → q b = p b) :
    l.countP q + (if p a then 1 else 0) = l.countP p + if q a then 1 else 0 := by
  induction l with
  | nil => cases ha
  | cons b l ih =>
    rw [List.map_cons, List.nodup_cons] at hl
    rw [List.countP_cons, List.countP_cons]
    rcases List.mem_cons.mp ha with rfl | ha
    · have hrest : l.countP q = l.countP p := by
        apply List.countP_congr
        intro c hc
        have hne : key c ≠ key a := fun h => hl.1 (h ▸ List.mem_map_of_mem hc)
        rw [hsame c (List.mem_cons_of_mem _ hc) hne]
      omega
    · have hne : key b ≠ key a := fun h => hl.1 (h ▸ List.mem_map_of_mem ha)
      have hrest := ih hl.2 ha fun c hc => hsame c (List.mem_cons_of_mem _ hc)
      rw [hsame b List.mem_cons_self hne]
      omega

/-- The first element that `p` finds is changed. -/
def changeFirst (p : α → Bool) (f : α → α) (l : List α) : List α :=
  l.replaceF fun a => if p a then some (f a) else none

theorem changeFirst_cons_of_pos {p : α → Bool} {f : α → α} (h : p a) : changeFirst p f (a :: l) = f a :: l := by
  simp [changeFirst, List.replaceF, h]

theorem changeFirst_cons_of_neg {p : α → Bool} {f : α → α} (h : ¬ p a) :
    changeFirst p f (a :: l) = a :: changeFirst p f l := by
  simp [changeFirst, List.replaceF, h]

theorem mem_changeFirst {p : α → Bool} {f : α → α} (h : b ∈ changeFirst p f l) : b ∈ l ∨ ∃ a ∈ l, b = f a := by
  induction l with
  | nil => cases h
  | cons a l ih =>
    by_cases hp : p a
    · rw [changeFirst_cons_of_pos hp, List.mem_cons] at h
      rcases h with rfl | h
      · exact .inr ⟨a, List.mem_cons_self, rfl⟩
      · exact .inl (List.mem_cons_of_mem _ h)
    · rw [changeFirst_cons_of_neg hp, List.mem_cons] at h
      rcases h with rfl | h
      · exact .inl List.mem_cons_self
      · rcases ih h with h | ⟨c, hc, rfl⟩
        · exact .inl (List.mem_cons_of_mem _ h)
        · exact .inr ⟨c, List.mem_cons_of_mem _ hc, rfl⟩

theorem map_changeFirst {β : Type*} {p : α → Bool} {f : α → α} (g : α → β) (h : ∀ a, g (f a) = g a) :
    (changeFirst p f l).map g = l.map g := by
  induction l with
  | nil => rfl
  | cons a l ih =>
    by_cases hp : p a
    · rw [changeFirst_cons_of_pos hp, List.map_cons, List.map_cons, h]
    · rw [changeFirst_cons_of_neg hp, List.map_cons, List.map_cons, ih]

theorem find?_changeFirst {p : α → Bool} {f : α → α} (hfind : l.find? p = some a) (hf : p (f a)) :
    (changeFirst p f l).find? p = some (f a) := by
  induction l with
  | nil => cases hfind
  | cons b l ih =>
    by_cases hp : p b
    · rw [List.find?_cons_of_pos hp] at hfind
      obtain rfl := Option.some.inj hfind
      rw [changeFirst_cons_of_pos hp, List.find?_cons_of_pos hf]
    · rw [List.find?_cons_of_neg hp] at hfind
      rw [changeFirst_cons_of_neg hp, List.find?_cons_of_neg hp]
      exact ih hfind

theorem changeFirst_eq_self {p : α → Bool} {f : α → α} (hfind : l.find? p = some a) (hf : f a = a) :
    changeFirst p f l = l := by
  induction l with
  | nil => rfl
  | cons b l ih =>
    by_cases hp : p b
    · rw [List.find?_cons_of_pos hp] at hfind
      obtain rfl := Option.some.inj hfind
      rw [changeFirst_cons_of_pos hp, hf]
    · rw [List.find?_cons_of_neg hp] at hfind
      rw [changeFirst_cons_of_neg hp, ih hfind]

theorem countP_changeFirst {p q : α → Bool} {f : α → α} (hfind : l.find? p = some a) :
    (changeFirst p f l).countP q + (if q a then 1 else 0) = l.countP q + if q (f a) then 1 else 0 := by
  induction l with
  | nil => cases hfind
  | cons b l ih =>
    by_cases hp : p b
    · rw [List.find?_cons_of_pos hp] at hfind
      obtain rfl := Option.some.inj hfind
      rw [changeFirst_cons_of_pos hp, List.countP_cons, List.countP_cons]
      omega
    · rw [List.find?_cons_of_neg hp] at hfind
      have hrest := ih hfind
      rw [changeFirst_cons_of_neg hp, List.countP_cons, List.countP_cons]
      omega

theorem countsOf_changeFirst {p : α → Bool} {f : α → α} {m : Nat} (hfind : l.find? p = some a)
    (hm : ∀ k, (l.countP fun b => key b = k) ≤ m) {raise lower : Nat → Nat}
    (hraise : ∀ c, c ≤ m → raise c = c + 1) (hlower : ∀ c, c ≤ m → lower (c + 1) = c) :
    countsOf key n (changeFirst p f l) = ((countsOf key n l).modify (key (f a)) raise).modify (key a) lower := by
  rw [countsOf, countsOf, modify_map_range, modify_map_range]
  refine List.map_congr_left fun j _ => ?_
  have hcount := countP_changeFirst (q := fun b => key b = j) (f := f) hfind
  have hj := hm j
  simp only [decide_eq_true_eq] at hcount
  by_cases hold : j = key a
  · subst hold
    by_cases hnew : key a = key (f a)
    · simp only [← hnew, if_true] at hcount ⊢
      rw [hraise _ hj, hlower _ hj]
      omega
    · simp only [hnew, Ne.symm hnew, if_true, if_false] at hcount ⊢
      have hone : (l.countP fun b => key b = key a) =
          ((changeFirst p f l).countP fun b => key b = key a) + 1 := by omega
      rw [hone]
      exact (hlower _ (by omega)).symm
  · by_cases hnew : j = key (f a)
    · subst hnew
      simp only [hold, Ne.symm hold, if_true, if_false] at hcount ⊢
      rw [hraise _ hj]
      omega
    · simp only [hold, hnew, Ne.symm hold, Ne.symm hnew, if_false] at hcount ⊢
      omega

end Framework
