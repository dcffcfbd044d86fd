import Mangos.Bytes.Fields

/-!
# Texts, raw bytes and packed guids in a packet

How texts, bytes of any kind, other buffers and packed guids are written, and how each is read.
-/

namespace Mangos

open Framework

/-- The loop of `appendPackGUID`: which bytes of a guid are not zero, and these bytes. -/
def packLoop : (fuel i guid : Nat) → Nat × List UInt8
  | 0, _, _ => (0, [])
  | fuel + 1, i, guid =>
    if guid = 0 then (0, [])
    else
      let rest := packLoop fuel (i + 1) (guid >>> 8)
      if guid &&& 0xFF ≠ 0 then (1 <<< i ||| rest.1, UInt8.ofNat (guid &&& 0xFF) :: rest.2)
      else rest

def packGUID (guid : UInt64) : List UInt8 :=
  UInt8.ofNat (packLoop 8 0 guid.toNat).1 :: (packLoop 8 0 guid.toNat).2

theorem packLoop_zero (fuel i : Nat) : packLoop fuel i 0 = (0, []) := by
  cases fuel <;> simp [packLoop]

theorem packLoop_succ (fuel i guid : Nat) : packLoop (fuel + 1) i guid = if guid % 256 ≠ 0 then
      (1 <<< i ||| (packLoop fuel (i + 1) (guid / 256)).1,
        UInt8.ofNat (guid % 256) :: (packLoop fuel (i + 1) (guid / 256)).2)
    else packLoop fuel (i + 1) (guid / 256) := by
  have hlow : guid &&& 0xFF = guid % 256 := Nat.and_two_pow_sub_one_eq_mod guid 8
  have hhigh : guid >>> 8 = guid / 256 := Nat.shiftRight_eq_div_pow guid 8
  rw [packLoop, hlow, hhigh]
  by_cases h : guid = 0
  · simp [h, packLoop_zero]
  · rw [if_neg h]

theorem testBit_packLoop {fuel i guid j : Nat} (h : (packLoop fuel i guid).1.testBit j = true) :
    i ≤ j ∧ j < i + fuel := by
  induction fuel generalizing i guid with
  | zero => simp [packLoop] at h
  | succ fuel ih =>
    rw [packLoop_succ] at h
    split at h
    · rw [Nat.testBit_or, Nat.shiftLeft_eq, one_mul, Nat.testBit_two_pow, Bool.or_eq_true, decide_eq_true_iff] at h
      rcases h with rfl | hrest
      · omega
      · have hin := ih hrest
        omega
    · have hin := ih h
      omega

theorem packLoop_lt (guid : Nat) : (packLoop 8 0 guid).1 < 2 ^ 8 := by
  apply Nat.lt_pow_two_of_testBit
  intro j hj
  by_contra hset
  have hin := testBit_packLoop (Bool.eq_true_of_not_eq_false hset)
  omega

namespace ByteBuffer

def writeString (b : ByteBuffer) (text : List UInt8) : ByteBuffer := b.appendBytes text

/-- `operator<<` of a text, which ends with a zero. -/
def appendString (b : ByteBuffer) (text : List UInt8) : ByteBuffer :=
  (b.appendBytes text).appendNumber .w8 0

/-- `append` of the contents of another buffer. -/
def appendBuffer (b buffer : ByteBuffer) : ByteBuffer := b.appendBytes buffer.storage

def appendPackGUID (b : ByteBuffer) (guid : UInt64) : ByteBuffer := b.appendBytes (packGUID guid)

/-- `operator>>` of a text: up to a zero or the end. -/
def readStringLoop : Nat → ByteBuffer → Option (List UInt8 × ByteBuffer)
  | 0, b => some ([], b)
  | fuel + 1, b =>
    if b.rpos < b.storage.length then
      b.readUInt8.bind fun p =>
        if p.1 = 0 then some ([], p.2)
        else (readStringLoop fuel p.2).map fun q => (p.1 :: q.1, q.2)
    else some ([], b)

def readString (b : ByteBuffer) : Option (List UInt8 × ByteBuffer) :=
  readStringLoop (b.storage.length - b.rpos) b

/-- `ReadString` of so many bytes, or up to the end. -/
def readStringOf : Nat → ByteBuffer → Option (List UInt8 × ByteBuffer)
  | 0, b => some ([], b)
  | count + 1, b =>
    if b.rpos < b.storage.length then
      b.readUInt8.bind fun p => (readStringOf count p.2).map fun q => (p.1 :: q.1, q.2)
    else some ([], b)

def unpackLoop (guidmark : UInt8) : (fuel i : Nat) → ByteBuffer → Option (Nat × ByteBuffer)
  | 0, _, b => some (0, b)
  | fuel + 1, i, b =>
    if guidmark.toNat.testBit i then
      b.readUInt8.bind fun p =>
        (unpackLoop guidmark fuel (i + 1) p.2).map fun q => (p.1.toNat <<< (8 * i) ||| q.1, q.2)
    else unpackLoop guidmark fuel (i + 1) b

def readPackGUID (b : ByteBuffer) : Option (Nat × ByteBuffer) :=
  b.readUInt8.bind fun p => unpackLoop p.1 8 0 p.2

variable {b : ByteBuffer} {whole : List UInt8} {items : List StreamItem}

theorem Reads.length_le {bytes : List UInt8} (h : b.Reads whole (byteItems bytes ++ items)) :
    b.rpos + bytes.length ≤ b.storage.length := by
  obtain ⟨pending, h⟩ := h
  have hbound := h.bound
  by_cases hnil : bytes = []
  · simpa [hnil] using hbound
  · have hdrop := congrArg List.length (h.drop_eq (layOut_byteItems hnil items))
    rw [List.length_drop, List.length_append] at hdrop
    omega

theorem Reads.readStringOf {text : List UInt8} (h : b.Reads whole (byteItems text ++ items)) :
    ∃ b', readStringOf text.length b = some (text, b') ∧ b'.Reads whole items := by
  induction text generalizing b with
  | nil => exact ⟨b, rfl, h⟩
  | cons c text ih =>
    have hlength := h.length_le
    rw [List.length_cons] at hlength
    obtain ⟨b₁, hread, h₁⟩ := Reads.readUInt8 h
    obtain ⟨b₂, hrest, h₂⟩ := ih h₁
    refine ⟨b₂, ?_, h₂⟩
    rw [List.length_cons, ByteBuffer.readStringOf, if_pos (by omega), hread, Option.bind_some, hrest,
      Option.map_some]

theorem Reads.readStringLoop {text : List UInt8} (hzero : 0 ∉ text) {fuel : Nat}
    (hfuel : text.length < fuel) (h : b.Reads whole (byteItems (text ++ [0]) ++ items)) :
    ∃ b', readStringLoop fuel b = some (text, b') ∧ b'.Reads whole items := by
  induction text generalizing b fuel with
  | nil =>
    have hlength := h.length_le
    rw [List.length_append, List.length_singleton] at hlength
    obtain ⟨b₁, hread, h₁⟩ := Reads.readUInt8 h
    obtain ⟨fuel, rfl⟩ := Nat.exists_eq_add_one_of_ne_zero (by omega : fuel ≠ 0)
    refine ⟨b₁, ?_, h₁⟩
    rw [ByteBuffer.readStringLoop, if_pos (by omega), hread, Option.bind_some, if_pos rfl]
  | cons c text ih =>
    have hlength := h.length_le
    rw [List.length_append, List.length_singleton] at hlength
    rw [List.mem_cons, not_or] at hzero
    obtain ⟨b₁, hread, h₁⟩ := Reads.readUInt8 h
    obtain ⟨fuel, rfl⟩ := Nat.exists_eq_add_one_of_ne_zero (by omega : fuel ≠ 0)
    obtain ⟨b₂, hrest, h₂⟩ := ih hzero.2 (by simpa using hfuel) h₁
    refine ⟨b₂, ?_, h₂⟩
    rw [ByteBuffer.readStringLoop, if_pos (by omega), hread, Option.bind_some,
      if_neg (Ne.symm hzero.1), hrest, Option.map_some]

theorem Reads.readString {text : List UInt8} (hzero : 0 ∉ text) (h : b.Reads whole (byteItems (text ++ [0]) ++ items)) :
    ∃ b', b.readString = some (text, b') ∧ b'.Reads whole items := by
  have hlength := h.length_le
  rw [List.length_append, List.length_singleton] at hlength
  exact h.readStringLoop hzero (by omega)

theorem Reads.unpackLoop {guidmark : UInt8} {fuel i guid : Nat} (hguid : guid < 256 ^ fuel)
    (hmark : ∀ j, i ≤ j → guidmark.toNat.testBit j = (packLoop fuel i guid).1.testBit j)
    (h : b.Reads whole (byteItems (packLoop fuel i guid).2 ++ items)) :
    ∃ b', unpackLoop guidmark fuel i b = some (guid <<< (8 * i), b') ∧ b'.Reads whole items := by
  induction fuel generalizing i guid b with
  | zero =>
    have hzero : guid = 0 := by omega
    exact ⟨b, by rw [ByteBuffer.unpackLoop, hzero, Nat.zero_shiftLeft], h⟩
  | succ fuel ih =>
    have hdiv : guid / 256 < 256 ^ fuel := by
      rw [Nat.div_lt_iff_lt_mul (by decide), ← pow_succ]
      exact hguid
    have hlow : (packLoop fuel (i + 1) (guid / 256)).1.testBit i = false := by
      by_contra hset
      have hin := testBit_packLoop (Bool.eq_true_of_not_eq_false hset)
      omega
    rw [packLoop_succ] at h hmark
    rw [ByteBuffer.unpackLoop]
    by_cases hbyte : guid % 256 ≠ 0
    · rw [if_pos hbyte] at h
      simp only [if_pos hbyte] at hmark
      have hself : guidmark.toNat.testBit i = true := by
        rw [hmark i le_rfl]
        simp
      have hmark' (j : Nat) (hj : i + 1 ≤ j) :
          guidmark.toNat.testBit j = (packLoop fuel (i + 1) (guid / 256)).1.testBit j := by
        have hne : ¬ i = j := by omega
        rw [hmark j (by omega), Nat.testBit_or, Nat.shiftLeft_eq, one_mul, Nat.testBit_two_pow]
        simp [hne]
      obtain ⟨b₁, hread, h₁⟩ := Reads.readUInt8 h
      obtain ⟨b₂, hrest, h₂⟩ := ih hdiv hmark' h₁
      refine ⟨b₂, ?_, h₂⟩
      have hparts : (guid % 256) <<< (8 * i) ||| (guid / 256) <<< (8 * (i + 1)) = guid <<< (8 * i) := by
        have hwhole : (guid / 256) <<< 8 ||| guid % 256 = guid := by
          rw [← Nat.shiftLeft_add_eq_or_of_lt (Nat.mod_lt guid (by decide)), Nat.shiftLeft_eq]
          omega
        rw [Nat.mul_succ, Nat.add_comm, Nat.shiftLeft_add, Nat.or_comm, ← Nat.shiftLeft_or_distrib, hwhole]
      have hvalue : (UInt8.ofNat (guid % 256)).toNat = guid % 256 := by
        rw [UInt8.toNat_ofNat']
        omega
      rw [if_pos hself, hread, Option.bind_some, hrest, Option.map_some, hvalue, hparts]
    · rw [if_neg hbyte] at h
      simp only [if_neg hbyte] at hmark
      have hself : guidmark.toNat.testBit i = false := by rw [hmark i le_rfl, hlow]
      obtain ⟨b₁, hrest, h₁⟩ := ih hdiv (fun j hj => hmark j (by omega)) h
      refine ⟨b₁, ?_, h₁⟩
      have hshift : (guid / 256) <<< (8 * (i + 1)) = guid <<< (8 * i) := by
        rw [Nat.mul_succ, Nat.add_comm, Nat.shiftLeft_add, Nat.shiftLeft_eq (guid / 256)]
        congr 1
        omega
      rw [hself, if_neg (by decide), hrest, hshift]

theorem Reads.readPackGUID {guid : UInt64} (h : b.Reads whole (byteItems (packGUID guid) ++ items)) :
    ∃ b', b.readPackGUID = some (guid.toNat, b') ∧ b'.Reads whole items := by
  obtain ⟨b₁, hread, h₁⟩ := Reads.readUInt8 h
  have hmark (j : Nat) (_ : 0 ≤ j) : (UInt8.ofNat (packLoop 8 0 guid.toNat).1).toNat.testBit j =
      (packLoop 8 0 guid.toNat).1.testBit j := by
    rw [UInt8.toNat_ofNat', Nat.mod_eq_of_lt (packLoop_lt guid.toNat)]
  obtain ⟨b₂, hrest, h₂⟩ := h₁.unpackLoop guid.toNat_lt hmark
  refine ⟨b₂, ?_, h₂⟩
  rw [ByteBuffer.readPackGUID, hread, Option.bind_some, hrest]
  rfl

end ByteBuffer

end Mangos
