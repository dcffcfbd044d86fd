import Mathlib.Data.Nat.Digits.Lemmas

/-!
# Numbers as bytes

Numbers are read from bytes and written as bytes with the lowest byte first.
-/

namespace Framework

def ofBytes (bytes : List UInt8) : Nat := Nat.ofDigits 256 (bytes.map UInt8.toNat)

def toBytes (n : Nat) : List UInt8 := (Nat.digits 256 n).map UInt8.ofNat

def numBytes (n : Nat) : Nat := (toBytes n).length

theorem map_toNat_toBytes (n : Nat) : (toBytes n).map UInt8.toNat = Nat.digits 256 n := by
  rw [toBytes, List.map_map]
  conv_rhs => rw [← List.map_id (Nat.digits 256 n)]
  apply List.map_congr_left
  intro d hd
  have hlt := Nat.digits_lt_base (by decide) hd
  simp [Nat.mod_eq_of_lt hlt]

@[simp] theorem ofBytes_toBytes (n : Nat) : ofBytes (toBytes n) = n := by
  rw [ofBytes, map_toNat_toBytes, Nat.ofDigits_digits]

private theorem toNat_mem_lt (bytes : List UInt8) : ∀ d ∈ bytes.map UInt8.toNat, d < 256 := by
  intro d hd
  obtain ⟨byte, -, rfl⟩ := List.mem_map.mp hd
  exact byte.toNat_lt

theorem ofBytes_lt (bytes : List UInt8) : ofBytes bytes < 256 ^ bytes.length := by
  have hlt := @Nat.ofDigits_lt_base_pow_length 256 (bytes.map UInt8.toNat) (by decide)
    (toNat_mem_lt bytes)
  simpa [ofBytes] using hlt

theorem ofBytes_inj {as bs : List UInt8} (hlength : as.length = bs.length) (h : ofBytes as = ofBytes bs) : as = bs := by
  have hdigits := @Nat.ofDigits_inj_of_len_eq 256 (by decide) (as.map UInt8.toNat)
    (bs.map UInt8.toNat) (by simpa using hlength) (toNat_mem_lt as) (toNat_mem_lt bs) h
  exact List.map_injective_iff.mpr (fun _ _ => UInt8.toNat_inj.mp) hdigits

theorem numBytes_le_iff {n k : Nat} : numBytes n ≤ k ↔ n < 256 ^ k := by
  rw [numBytes, toBytes, List.length_map, Nat.digits_length_le_iff (by decide)]

theorem toBytes_ofBytes {bytes : List UInt8} (hfull : numBytes (ofBytes bytes) = bytes.length) :
    toBytes (ofBytes bytes) = bytes :=
  ofBytes_inj hfull (ofBytes_toBytes _)

/-- The bytes of a number in an array of that width. -/
def toBytesWide (width n : Nat) : List UInt8 :=
  (List.range width).map fun i => UInt8.ofNat (n / 256 ^ i)

@[simp] theorem length_toBytesWide (width n : Nat) : (toBytesWide width n).length = width := by
  simp [toBytesWide]

theorem ofBytes_cons (byte : UInt8) (bytes : List UInt8) :
    ofBytes (byte :: bytes) = byte.toNat + 256 * ofBytes bytes := by
  simp [ofBytes, Nat.ofDigits_cons]

theorem ofBytes_toBytesWide (width n : Nat) : ofBytes (toBytesWide width n) = n % 256 ^ width := by
  induction width generalizing n with
  | zero => simp [toBytesWide, ofBytes, Nat.mod_one]
  | succ width ih =>
    have htail : toBytesWide (width + 1) n = UInt8.ofNat n :: toBytesWide width (n / 256) := by
      simp [toBytesWide, List.range_succ_eq_map, Function.comp_def, pow_succ', Nat.div_div_eq_div_mul]
    rw [htail, ofBytes_cons, ih, pow_succ', Nat.mod_mul]
    simp

theorem toBytesWide_full {width n : Nat} (hfull : numBytes n = width) : toBytesWide width n = toBytes n := by
  apply ofBytes_inj
  · rw [length_toBytesWide, ← hfull, numBytes]
  · rw [ofBytes_toBytesWide, ofBytes_toBytes]
    exact Nat.mod_eq_of_lt (numBytes_le_iff.mp hfull.le)

/-- `g` to the power of `x` modulo `m`, by the binary digits of `x` from the highest on. -/
def modExp (g x m : Nat) : Nat :=
  (Nat.digits 2 x).foldr (fun d acc => g ^ d * acc ^ 2 % m) (1 % m)

theorem modExp_eq (g x m : Nat) : modExp g x m = g ^ x % m := by
  have hfold : ∀ ds : List Nat, ds.foldr (fun d acc => g ^ d * acc ^ 2 % m) (1 % m) =
      g ^ Nat.ofDigits 2 ds % m := by
    intro ds
    induction ds with
    | nil => simp
    | cons d ds ih =>
      have hsquare : (g ^ Nat.ofDigits 2 ds % m) ^ 2 ≡ (g ^ Nat.ofDigits 2 ds) ^ 2 [MOD m] :=
        (Nat.mod_modEq _ m).pow 2
      rw [List.foldr_cons, ih, Nat.ofDigits_cons, pow_add, mul_comm 2, pow_mul]
      exact hsquare.mul_left (g ^ d)
  rw [modExp, hfold, Nat.ofDigits_digits]

theorem modExp_lt (g x : Nat) {m : Nat} (hm : 0 < m) : modExp g x m < m := by
  rw [modExp_eq]
  exact Nat.mod_lt _ hm

end Framework
