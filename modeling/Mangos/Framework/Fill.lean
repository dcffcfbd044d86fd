import Mathlib.Data.List.Nodup
import Mathlib.Algebra.BigOperators.Group.List.Basic
import Mathlib.Algebra.GroupWithZero.Nat

/-!
# Filling places with an amount

An amount is spread over places, each of which takes up to its room.
-/

namespace Framework

variable {κ : Type*} [DecidableEq κ]

/-- What is put at one place. -/
structure Piece (κ : Type*) where
  pos : κ
  count : Nat
  deriving DecidableEq, Repr

/-- The pieces placed so far and the amount still to be placed. -/
structure Filling (κ : Type*) where
  dest : List (Piece κ)
  left : Nat

def placed (dest : List (Piece κ)) : Nat := (dest.map (·.count)).sum

omit [DecidableEq κ] in
@[simp] theorem placed_nil : placed ([] : List (Piece κ)) = 0 := rfl

omit [DecidableEq κ] in
@[simp] theorem placed_cons (p : Piece κ) (dest : List (Piece κ)) : placed (p :: dest) = p.count + placed dest := rfl

omit [DecidableEq κ] in
@[simp] theorem placed_append (dest dest' : List (Piece κ)) : placed (dest ++ dest') = placed dest + placed dest' := by
  simp [placed]

/-- As much as fits goes to `k`. -/
def Filling.push (f : Filling κ) (k : κ) (space : Nat) : Filling κ :=
  ⟨f.dest ++ [⟨k, min space f.left⟩], f.left - min space f.left⟩

def fill (room : κ → Option Nat) : List κ → Filling κ → Filling κ
  | [], f => f
  | k :: ks, f =>
    match room k with
    | none => fill room ks f
    | some space =>
      if f.dest.any (·.pos = k) then fill room ks f
      else
        let f' := f.push k space
        if f'.left = 0 then f' else fill room ks f'

/-- The pieces of `dest` that were added to those of `start`. -/
def addedTo (start dest : List (Piece κ)) : List (Piece κ) := dest.drop start.length

omit [DecidableEq κ] in
@[simp] theorem addedTo_nil (dest : List (Piece κ)) : addedTo [] dest = dest := rfl

omit [DecidableEq κ] in
@[simp] theorem addedTo_self (start : List (Piece κ)) : addedTo start start = [] :=
  List.drop_length

omit [DecidableEq κ] in
theorem append_addedTo {start dest : List (Piece κ)} (h : start <+: dest) : start ++ addedTo start dest = dest := by
  obtain ⟨added, rfl⟩ := h
  rw [addedTo, List.drop_left]

omit [DecidableEq κ] in
theorem addedTo_append {start dest : List (Piece κ)} (h : start <+: dest)
    (more : List (Piece κ)) : addedTo start (dest ++ more) = addedTo start dest ++ more :=
  List.drop_append_of_le_length h.length_le

/-- A filling of `total` that started with the pieces `start` and added admitted ones. -/
structure Filling.Sound (Admits : κ → Nat → Prop) (start : List (Piece κ)) (total : Nat)
    (f : Filling κ) : Prop where
  kept : start <+: f.dest
  distinct : (f.dest.map (·.pos)).Nodup
  admitted : ∀ p ∈ addedTo start f.dest, 0 < p.count ∧ Admits p.pos p.count
  total : placed (addedTo start f.dest) + f.left = total

variable {Admits : κ → Nat → Prop} {start : List (Piece κ)} {total : Nat} {f : Filling κ}

omit [DecidableEq κ] in
theorem Filling.Sound.refl (Admits : κ → Nat → Prop) (hstart : (start.map (·.pos)).Nodup)
    (total : Nat) : Filling.Sound Admits start total ⟨start, total⟩ :=
  ⟨List.prefix_rfl, hstart, by simp, by simp⟩

omit [DecidableEq κ] in
theorem Filling.Sound.trans {f' : Filling κ} (h : f.Sound Admits start total)
    (h' : f'.Sound Admits f.dest f.left) : f'.Sound Admits start total := by
  have hadded : addedTo start f'.dest = addedTo start f.dest ++ addedTo f.dest f'.dest := by
    rw [← addedTo_append h.kept, append_addedTo h'.kept]
  refine ⟨h.kept.trans h'.kept, h'.distinct, fun p hp => ?_, ?_⟩
  · rw [hadded] at hp
    rcases List.mem_append.mp hp with hold | hnew
    · exact h.admitted p hold
    · exact h'.admitted p hnew
  · have htotal := h.total
    have htotal' := h'.total
    rw [hadded, placed_append]
    omega

omit [DecidableEq κ] in
theorem Filling.Sound.imp {Admits' : κ → Nat → Prop} (h : f.Sound Admits start total)
    (himp : ∀ p ∈ addedTo start f.dest, Admits p.pos p.count → Admits' p.pos p.count) : f.Sound Admits' start total :=
  ⟨h.kept, h.distinct, fun p hp => ⟨(h.admitted p hp).1, himp p hp (h.admitted p hp).2⟩, h.total⟩

omit [DecidableEq κ] in
theorem Filling.Sound.notMem_start (h : f.Sound Admits start total) {p : Piece κ}
    (hp : p ∈ addedTo start f.dest) : p.pos ∉ start.map (·.pos) := by
  have hdistinct := h.distinct
  rw [← append_addedTo h.kept, List.map_append, List.nodup_append] at hdistinct
  intro hmem
  exact hdistinct.2.2 _ hmem _ (List.mem_map.mpr ⟨p, hp, rfl⟩) rfl

theorem Filling.Sound.push (h : f.Sound Admits start total) (hleft : 0 < f.left) {k : κ}
    {space : Nat} (hnew : f.dest.any (·.pos = k) = false) (hspace : 0 < space)
    (hadmits : ∀ n, 0 < n → n ≤ space → Admits k n) : (f.push k space).Sound Admits start total := by
  have hpos : 0 < min space f.left := by omega
  have hadded := addedTo_append h.kept [⟨k, min space f.left⟩]
  constructor
  · exact h.kept.trans (List.prefix_append _ _)
  · have hnotMem : k ∉ f.dest.map (·.pos) := by
      intro hmem
      obtain ⟨p, hp, rfl⟩ := List.mem_map.mp hmem
      rw [List.any_eq_false] at hnew
      exact hnew p hp (by simp)
    simp only [Filling.push, List.map_append, List.map_cons, List.map_nil]
    rw [List.nodup_append]
    refine ⟨h.distinct, List.nodup_singleton k, ?_⟩
    intro a ha b hb heq
    rw [List.mem_singleton.mp hb] at heq
    exact hnotMem (heq ▸ ha)
  · intro p hp
    rw [Filling.push, hadded] at hp
    rcases List.mem_append.mp hp with hold | hlast
    · exact h.admitted p hold
    · rw [List.mem_singleton.mp hlast]
      exact ⟨hpos, hadmits _ hpos (Nat.min_le_left _ _)⟩
  · have htotal := h.total
    simp only [Filling.push, hadded, placed_append, placed_cons, placed_nil]
    omega

theorem Filling.Sound.fill {room : κ → Option Nat} {ks : List κ}
    (h : f.Sound Admits start total) (hleft : 0 < f.left) (hroom : ∀ k ∈ ks, ∀ space, room k = some space →
      0 < space ∧ ∀ n, 0 < n → n ≤ space → Admits k n) : (fill room ks f).Sound Admits start total := by
  induction ks generalizing f with
  | nil => exact h
  | cons k ks ih =>
    have hrest := fun k' hk' => hroom k' (List.mem_cons_of_mem k hk')
    rw [Framework.fill]
    cases hk : room k with
    | none => exact ih h hleft hrest
    | some space =>
      obtain ⟨hspace, hadmits⟩ := hroom k List.mem_cons_self space hk
      by_cases htaken : f.dest.any (·.pos = k)
      · simp only [htaken, if_true]
        exact ih h hleft hrest
      · have hnew : f.dest.any (·.pos = k) = false := by simpa using htaken
        have hpush := h.push hleft hnew hspace hadmits
        simp only [hnew, Bool.false_eq_true, if_false]
        by_cases hdone : (f.push k space).left = 0
        · simp only [hdone, if_true]
          exact hpush
        · simp only [hdone, if_false]
          exact ih hpush (Nat.pos_of_ne_zero hdone) hrest

end Framework
