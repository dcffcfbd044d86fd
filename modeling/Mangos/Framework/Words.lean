import Mathlib.Algebra.Group.Int.Defs
import Mathlib.Algebra.Group.Nat.Defs
import Mathlib.Data.BitVec
import Mathlib.Order.Nat

/-!
# Signed readings of unsigned words


-/

namespace Framework

theorem toInt_toInt32 (a : UInt32) : a.toInt32.toInt = (a.toNat : Int).bmod (2 ^ 32) :=
  BitVec.toInt_eq_toNat_bmod a.toBitVec

theorem toNat_eq_of_toInt32 {a : UInt32} (h : 0 ≤ a.toInt32.toInt) : (a.toNat : Int) = a.toInt32.toInt := by
  have hlt := a.toNat_lt
  rw [toInt_toInt32, Int.bmod_def] at h ⊢
  omega

theorem toInt_toInt32_cases (a : UInt32) : a.toInt32.toInt = a.toNat ∧ a.toNat < 2 ^ 31 ∨
      a.toInt32.toInt = a.toNat - 2 ^ 32 ∧ 2 ^ 31 ≤ a.toNat := by
  have hlt := a.toNat_lt
  rw [toInt_toInt32, Int.bmod_def]
  omega

theorem toInt_cases (a : Int32) : a.toInt = a.toUInt32.toNat ∧ a.toUInt32.toNat < 2 ^ 31 ∨
      a.toInt = a.toUInt32.toNat - 2 ^ 32 ∧ 2 ^ 31 ≤ a.toUInt32.toNat := by
  have hcases := toInt_toInt32_cases a.toUInt32
  rw [Int32.toInt32_toUInt32] at hcases
  exact hcases

theorem toInt_add_cases (a b : Int32) :
    (a + b).toInt = a.toInt + b.toInt ∧ -2 ^ 31 ≤ a.toInt + b.toInt ∧ a.toInt + b.toInt < 2 ^ 31 ∨
      (a + b).toInt = a.toInt + b.toInt - 2 ^ 32 ∧ 2 ^ 31 ≤ a.toInt + b.toInt ∨
      (a + b).toInt = a.toInt + b.toInt + 2 ^ 32 ∧ a.toInt + b.toInt < -2 ^ 31 := by
  have ha := a.le_toInt
  have ha' := a.toInt_lt
  have hb := b.le_toInt
  have hb' := b.toInt_lt
  rw [Int32.toInt_add, Int.bmod_def]
  omega

theorem toNat_ofInt (x : Int) : (UInt32.ofInt x).toNat = (x % 2 ^ 32).toNat := by
  rw [UInt32.ofInt, UInt32.toNat_ofNat']
  omega

theorem toNat_ofInt_of_lt {x : Int} (h : 0 ≤ x) (h' : x < 2 ^ 32) : ((UInt32.ofInt x).toNat : Int) = x := by
  rw [toNat_ofInt]
  omega

/-!
## Masks

Sets of bits of a machine word, and what a comparison of a masked word with a constant says.
-/

variable {n : Nat}

def HasBits (word mask : BitVec n) : Prop := word &&& mask = mask

instance (word mask : BitVec n) : Decidable (HasBits word mask) :=
  inferInstanceAs (Decidable (_ = _))

@[simp] theorem hasBits_zero (word : BitVec n) : HasBits word 0 := BitVec.and_zero

theorem not_hasBits_of_and_eq_zero {word mask : BitVec n} (h : word &&& mask = 0)
    (hmask : mask ≠ 0) : ¬ HasBits word mask :=
  fun hbits => hmask (hbits.symm.trans h)

theorem or_and_of_disjoint {word flag mask : BitVec n} (h : flag &&& mask = 0) :
    (word ||| flag) &&& mask = word &&& mask := by
  rw [BitVec.and_or_distrib_right, h]
  exact BitVec.or_zero

theorem and_not_and_of_disjoint {word flag mask : BitVec n} (h : flag &&& mask = 0) :
    (word &&& ~~~flag) &&& mask = word &&& mask := by
  apply BitVec.eq_of_getLsbD_eq
  intro i hi
  have hbit := congrArg (BitVec.getLsbD · i) h
  simp only [BitVec.getLsbD_and] at hbit
  simp only [BitVec.getLsbD_and, BitVec.getLsbD_not, hi]
  cases hf : flag.getLsbD i <;> simp [hf] at hbit ⊢
  simp [hbit]

/-- The bits of a mask apart from those of `base`. -/
def ownBits (base mask : BitVec n) : BitVec n := mask &&& ~~~base

theorem and_eq_base_iff {base mask word : BitVec n} : word &&& mask = base ↔
      HasBits mask base ∧ HasBits word base ∧ word &&& ownBits base mask = 0 := by
  constructor
  · intro h
    refine ⟨?_, ?_, ?_⟩
    · show mask &&& base = base
      rw [← h, BitVec.and_comm word, ← BitVec.and_assoc, BitVec.and_self]
    · show word &&& base = base
      rw [← h, ← BitVec.and_assoc, BitVec.and_self]
    · rw [ownBits, ← BitVec.and_assoc, h, BitVec.and_not_self]
  · rintro ⟨hmask, hword, hown⟩
    have hsplit : mask = ownBits base mask ||| base := by
      apply BitVec.eq_of_getLsbD_eq
      intro i hi
      have hbit := congrArg (BitVec.getLsbD · i) hmask
      simp only [BitVec.getLsbD_and] at hbit
      simp only [ownBits, BitVec.getLsbD_or, BitVec.getLsbD_and, BitVec.getLsbD_not, hi]
      cases hm : mask.getLsbD i <;> cases hb : base.getLsbD i <;> simp [hm, hb] at hbit ⊢
    rw [hsplit, BitVec.and_or_distrib_left, hown, show word &&& base = base from hword]
    exact BitVec.zero_or

end Framework
