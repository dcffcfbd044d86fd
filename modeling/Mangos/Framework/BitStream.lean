import Mathlib.Data.List.Basic
import Mathlib.Data.Nat.Bitwise

/-!
# Streams of bits and bytes

Bits are packed into bytes with the highest bit first, and a byte of its own starts behind the bits that are
pending.
-/

namespace Framework

inductive StreamItem
  | bit (b : Bool)
  | byte (b : UInt8)
  deriving DecidableEq

def packBits : List Bool → Nat
  | [] => 0
  | b :: bits => b.toNat <<< 7 ||| packBits bits >>> 1

theorem packBits_lt (bits : List Bool) : packBits bits < 2 ^ 8 := by
  induction bits with
  | nil => decide
  | cons b bits ih =>
    rw [packBits]
    apply Nat.or_lt_two_pow
    · cases b with
      | false => decide
      | true => decide
    · exact (Nat.shiftRight_le _ 1).trans_lt ih

theorem testBit_packBits (bits : List Bool) {i : Nat} (hi : i < 8) :
    (packBits bits).testBit (7 - i) = bits.getD i false := by
  induction bits generalizing i with
  | nil => simp [packBits]
  | cons b bits ih =>
    rw [packBits, Nat.testBit_or, Nat.testBit_shiftLeft, Nat.testBit_shiftRight]
    cases i with
    | zero =>
      have htop : (packBits bits).testBit 8 = false :=
        Nat.testBit_lt_two_pow (packBits_lt bits)
      cases b with
      | false => simp [htop]
      | true => simp
    | succ i =>
      have hlow : ¬ 7 ≤ 7 - (i + 1) := by omega
      have hprev : 1 + (7 - (i + 1)) = 7 - i := by omega
      rw [hprev, ih (by omega : i < 8)]
      simp only [ge_iff_le, hlow, decide_false, Bool.false_and, Bool.false_or, List.getD_cons_succ]

theorem packBits_concat {bits : List Bool} (hlength : bits.length < 8) (b : Bool) :
    packBits (bits ++ [b]) = packBits bits ||| b.toNat <<< (7 - bits.length) := by
  induction bits with
  | nil => simp [packBits]
  | cons c bits ih =>
    rw [List.length_cons] at hlength
    have hshift : b.toNat <<< (7 - bits.length) >>> 1 = b.toNat <<< (7 - (bits.length + 1)) := by
      have hsub : 7 - bits.length = 7 - (bits.length + 1) + 1 := by omega
      rw [hsub, Nat.shiftLeft_succ, Nat.shiftRight_succ, Nat.shiftRight_zero]
      omega
    rw [List.cons_append, packBits, packBits, ih (by omega), Nat.shiftRight_or_distrib, hshift,
      List.length_cons, Nat.or_assoc]

def flushBits (pending : List Bool) : List UInt8 :=
  if pending = [] then [] else [UInt8.ofNat (packBits pending)]

def layOut (pending : List Bool) : List StreamItem → List UInt8
  | [] => flushBits pending
  | .bit b :: items =>
    if pending.length = 7 then UInt8.ofNat (packBits (pending ++ [b])) :: layOut [] items
    else layOut (pending ++ [b]) items
  | .byte b :: items => flushBits pending ++ b :: layOut [] items

theorem layOut_eq_cons {pending : List Bool} (hne : pending ≠ []) (hlength : pending.length < 8)
    (items : List StreamItem) : ∃ byte rest, layOut pending items = byte :: rest ∧
      ∀ i < pending.length, byte.toNat.testBit (7 - i) = pending.getD i false := by
  have hpacked : ∀ bits : List Bool, bits.length ≤ 8 → ∀ i < bits.length,
      (UInt8.ofNat (packBits bits)).toNat.testBit (7 - i) = bits.getD i false := by
    intro bits hbits i hi
    rw [UInt8.toNat_ofNat', Nat.mod_eq_of_lt (packBits_lt bits)]
    exact testBit_packBits bits (by omega)
  induction items generalizing pending with
  | nil =>
    refine ⟨UInt8.ofNat (packBits pending), [], ?_, hpacked pending (by omega)⟩
    rw [layOut, flushBits, if_neg hne]
  | cons item items ih =>
    cases item with
    | bit b =>
      have hsame : ∀ i < pending.length, (pending ++ [b]).getD i false = pending.getD i false := by
        intro i hi
        rw [List.getD_append _ _ _ _ hi]
      have hmore : (pending ++ [b]).length = pending.length + 1 := by simp
      rw [layOut]
      split
      next hfull =>
        refine ⟨_, _, rfl, fun i hi => ?_⟩
        rw [hpacked _ (by omega) i (by omega), hsame i hi]
      next hnot =>
        obtain ⟨byte, rest, heq, hbits⟩ := ih (by simp) (by omega : (pending ++ [b]).length < 8)
        exact ⟨byte, rest, heq, fun i hi => (hbits i (by omega)).trans (hsame i hi)⟩
    | byte b =>
      refine ⟨UInt8.ofNat (packBits pending), b :: layOut [] items, ?_, hpacked pending (by omega)⟩
      rw [layOut, flushBits, if_neg hne]
      rfl

def layOutLength : Nat → List StreamItem → Nat
  | n, [] => if n = 0 then 0 else 1
  | n, .bit _ :: items => if n = 7 then layOutLength 0 items + 1 else layOutLength (n + 1) items
  | n, .byte _ :: items => (if n = 0 then 1 else 2) + layOutLength 0 items

theorem length_layOut (pending : List Bool) (items : List StreamItem) :
    (layOut pending items).length = layOutLength pending.length items := by
  induction items generalizing pending with
  | nil =>
    rw [layOut, layOutLength, flushBits]
    by_cases h : pending = []
    · simp [h]
    · simp [h]
  | cons item items ih =>
    cases item with
    | bit b =>
      rw [layOut, layOutLength]
      split
      · rw [List.length_cons, ih, List.length_nil]
      · rw [ih, List.length_append, List.length_singleton]
    | byte b =>
      rw [layOut, layOutLength, List.length_append, List.length_cons, ih, List.length_nil, flushBits]
      by_cases h : pending = []
      · simp [h]
        omega
      · simp [h]
        omega

def StreamItem.isByte : StreamItem → Bool
  | .bit _ => false
  | .byte _ => true

theorem layOutLength_congr {items items' : List StreamItem}
    (h : items.map StreamItem.isByte = items'.map StreamItem.isByte) (n : Nat) :
    layOutLength n items = layOutLength n items' := by
  induction items generalizing n items' with
  | nil =>
    cases items' with
    | nil => rfl
    | cons item' items' => simp at h
  | cons item items ih =>
    cases items' with
    | nil => simp at h
    | cons item' items' =>
      rw [List.map_cons, List.map_cons, List.cons.injEq] at h
      have hrest := ih h.2
      cases item with
      | bit b =>
        cases item' with
        | bit b' => rw [layOutLength, layOutLength, hrest, hrest]
        | byte b' => simp [StreamItem.isByte] at h
      | byte b =>
        cases item' with
        | bit b' => simp [StreamItem.isByte] at h
        | byte b' => rw [layOutLength, layOutLength, hrest]

theorem layOutLength_mono {n m : Nat} (hnm : n ≤ m) (hm : m < 8) (items : List StreamItem) :
    layOutLength n items ≤ layOutLength m items ∧ layOutLength m items ≤ layOutLength n items + 1 := by
  induction items generalizing n m with
  | nil =>
    rw [layOutLength, layOutLength]
    split <;> split <;> omega
  | cons item items ih =>
    cases item with
    | bit b =>
      rw [layOutLength, layOutLength]
      by_cases hn : n = 7
      · have hm7 : m = 7 := by omega
        rw [if_pos hn, if_pos hm7]
        omega
      · rw [if_neg hn]
        by_cases hm7 : m = 7
        · rw [if_pos hm7]
          have hless := ih (Nat.zero_le (n + 1)) (by omega)
          omega
        · rw [if_neg hm7]
          exact ih (by omega) (by omega)
    | byte b =>
      rw [layOutLength, layOutLength]
      split <;> split <;> omega

theorem layOutLength_bits_append {n : Nat} (hn : n < 8) (bits : List Bool) (items : List StreamItem) :
    layOutLength n (bits.map .bit ++ items) ≤ layOutLength 0 items + (bits.length + n) / 8 + 1 := by
  induction bits generalizing n with
  | nil =>
    have hmore := (layOutLength_mono (Nat.zero_le n) hn items).2
    rw [List.map_nil, List.nil_append]
    omega
  | cons b bits ih =>
    rw [List.map_cons, List.cons_append, layOutLength, List.length_cons]
    split
    next h7 =>
      have hrest := ih (by omega : 0 < 8)
      omega
    next h7 =>
      have hrest := ih (by omega : n + 1 < 8)
      omega

theorem layOutLength_insert_bits {n : Nat} (hn : n < 8) (first : List StreamItem) (bits : List Bool)
    (items : List StreamItem) : layOutLength n (first ++ (bits.map .bit ++ items)) ≤
      layOutLength n (first ++ items) + bits.length / 8 + 2 := by
  induction first generalizing n with
  | nil =>
    have hput := layOutLength_bits_append hn bits items
    have hless := (layOutLength_mono (Nat.zero_le n) hn items).1
    rw [List.nil_append, List.nil_append]
    omega
  | cons item first ih =>
    cases item with
    | bit b =>
      rw [List.cons_append, List.cons_append, layOutLength, layOutLength]
      split
      · have hrest := ih (by omega : 0 < 8)
        omega
      · exact ih (by omega)
    | byte b =>
      have hrest := ih (by omega : 0 < 8)
      rw [List.cons_append, List.cons_append, layOutLength, layOutLength]
      omega

theorem countP_isByte_le (n : Nat) (items : List StreamItem) :
    layOutLength n [] + items.countP StreamItem.isByte ≤ layOutLength n items := by
  induction items generalizing n with
  | nil => simp
  | cons item items ih =>
    have hrest := ih 0
    have hmore := ih (n + 1)
    simp only [layOutLength, Nat.add_eq_zero_iff, Nat.one_ne_zero, and_false, if_true, if_false]
      at hrest hmore ⊢
    cases item with
    | bit b =>
      rw [List.countP_cons_of_neg (by simp [StreamItem.isByte]), layOutLength]
      split <;> split <;> omega
    | byte b =>
      rw [List.countP_cons_of_pos (by simp [StreamItem.isByte]), layOutLength]
      split <;> omega

theorem layOutLength_append_ge (n : Nat) (first items : List StreamItem) :
    layOutLength n first + items.countP StreamItem.isByte ≤ layOutLength n (first ++ items) := by
  induction first generalizing n with
  | nil => exact countP_isByte_le n items
  | cons item first ih =>
    cases item with
    | bit b =>
      have hrest := ih 0
      have hmore := ih (n + 1)
      rw [List.cons_append, layOutLength, layOutLength]
      split
      · omega
      · exact hmore
    | byte b =>
      have hrest := ih 0
      rw [List.cons_append, layOutLength, layOutLength]
      omega

end Framework
