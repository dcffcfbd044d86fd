import Mangos.Framework.Digits

/-!
# Numbers with cached byte arrays

A number keeps every byte array that was ever asked of it, under the length of the array.
-/

namespace Mangos

open Framework

structure BigNumber where
  bn : Nat
  arraysMap : Nat → Option (List UInt8)
  length_eq : ∀ length array, arraysMap length = some array → array.length = length

namespace BigNumber

variable (z : BigNumber)

def ofNat (n : Nat) : BigNumber := ⟨n, fun _ => none, by simp⟩

/-- What `SetBinary`, `SetHexStr`, `SetRand` and `operator=` have in common. -/
def assign (n : Nat) : BigNumber := { z with bn := n }

@[simp] theorem assign_bn (n : Nat) : (z.assign n).bn = n := rfl

def getNumBytes : Nat := numBytes z.bn

/-- The length of the array that `AsByteArray` returns. -/
def arrayLength (minSize : Nat) : Nat := max minSize z.getNumBytes

/-- The array that `AsByteArray` makes: the number is written to its front, highest byte first, before
the array is reversed. -/
def newArray (minSize : Nat) : List UInt8 :=
  ((toBytes z.bn).reverse ++ List.replicate (z.arrayLength minSize - z.getNumBytes) 0).reverse

theorem length_newArray (minSize : Nat) : (z.newArray minSize).length = z.arrayLength minSize := by
  have hlength : (toBytes z.bn).length = z.getNumBytes := rfl
  have hle : z.getNumBytes ≤ z.arrayLength minSize := le_max_right minSize _
  simp only [newArray, List.length_reverse, List.length_append, List.length_replicate, hlength]
  omega

/-- What `AsByteArray` returns. -/
def byteArray (minSize : Nat) : List UInt8 :=
  (z.arraysMap (z.arrayLength minSize)).getD (z.newArray minSize)

/-- What `AsByteArray` leaves behind. -/
def cached (minSize : Nat) : BigNumber where
  bn := z.bn
  arraysMap := Function.update z.arraysMap (z.arrayLength minSize) (some (z.byteArray minSize))
  length_eq length array h := by
    by_cases hlength : length = z.arrayLength minSize
    · rw [hlength, Function.update_self, Option.some.injEq] at h
      rw [← h, hlength, byteArray]
      cases hfound : z.arraysMap (z.arrayLength minSize) with
      | none => exact z.length_newArray minSize
      | some found => exact z.length_eq _ found hfound
    · rw [Function.update_of_ne hlength] at h
      exact z.length_eq length array h

theorem newArray_full {minSize : Nat} (hfull : minSize ≤ z.getNumBytes) : z.newArray minSize = toBytes z.bn := by
  have hlength : z.arrayLength minSize = z.getNumBytes := max_eq_right hfull
  simp [newArray, hlength]

theorem byteArray_cached {minSize minSize' : Nat} (h : z.arrayLength minSize' = z.arrayLength minSize) :
    (z.cached minSize).byteArray minSize' = z.byteArray minSize := by
  have hlength : (z.cached minSize).arrayLength minSize' = z.arrayLength minSize := h
  rw [byteArray, hlength]
  simp [cached]

/-- The arrays that were returned for that length are those of the number. -/
def Fresh (length : Nat) : Prop := ∀ array ∈ z.arraysMap length, array = toBytes z.bn

variable {z} in
theorem Fresh.byteArray_eq {minSize : Nat} (hfresh : z.Fresh z.getNumBytes)
    (hfull : minSize ≤ z.getNumBytes) : z.byteArray minSize = toBytes z.bn := by
  have hlength : z.arrayLength minSize = z.getNumBytes := max_eq_right hfull
  rw [byteArray, hlength]
  cases hfound : z.arraysMap z.getNumBytes with
  | none => exact z.newArray_full hfull
  | some found => exact hfresh found hfound

theorem fresh_ofNat (n length : Nat) : (ofNat n).Fresh length := fun _ h => nomatch h

end BigNumber

/-- The numbers that `BN_rand` draws: odd, and with the highest bit set. -/
structure Rand (bits : Nat) where
  val : Nat
  ge : 2 ^ (bits - 1) ≤ val
  lt : val < 2 ^ bits
  odd : val % 2 = 1

def Rand.least (bits : Nat) : Rand (bits + 2) where
  val := 2 ^ (bits + 1) + 1
  ge := Nat.le_succ _
  lt := by
    have hone : 1 < 2 ^ (bits + 1) := Nat.one_lt_two_pow (by omega)
    have hdouble : 2 ^ (bits + 2) = 2 * 2 ^ (bits + 1) := Nat.pow_succ'
    omega
  odd := by
    have hdouble : 2 ^ (bits + 1) = 2 * 2 ^ bits := Nat.pow_succ'
    omega

end Mangos
