import Mangos.Framework.BitStream
import Mangos.Framework.Digits

/-!
# Buffers of bits and bytes

A buffer writes bits into a byte that is pending and writes bytes of their own.
-/

namespace Mangos

open Framework

/-- `ByteBuffer`, whose write position is always at the end. -/
structure ByteBuffer where
  storage : List UInt8
  rpos : Nat
  bitpos : Nat
  curbitval : UInt8

namespace ByteBuffer

/-- A buffer with the bytes of a packet that is to be read. -/
def ofStorage (bytes : List UInt8) : ByteBuffer := ⟨bytes, 0, 8, 0⟩

def empty : ByteBuffer := ofStorage []

variable (b : ByteBuffer)

def flushBits : ByteBuffer :=
  if b.bitpos = 8 then b
  else { b with storage := b.storage ++ [b.curbitval], curbitval := 0, bitpos := 8 }

/-- `append`, byte by byte. -/
def append (value : UInt8) : ByteBuffer :=
  { b.flushBits with storage := b.flushBits.storage ++ [value] }

/-- The byte is stored when its last bit is written. -/
def writeBit (bit : Bool) : ByteBuffer :=
  let curbitval := b.curbitval ||| UInt8.ofNat (bit.toNat <<< (b.bitpos - 1))
  if b.bitpos = 1 then { b with storage := b.storage ++ [curbitval], curbitval := 0, bitpos := 8 }
  else { b with curbitval, bitpos := b.bitpos - 1 }

def writeItem : StreamItem → ByteBuffer
  | .bit bit => b.writeBit bit
  | .byte value => b.append value

/-- A packet's bits and bytes one after the other. -/
def write (items : List StreamItem) : ByteBuffer := items.foldl writeItem b

/-- `read`, which throws behind the end. -/
def read (count : Nat) : Option (List UInt8 × ByteBuffer) :=
  if b.rpos + count ≤ b.storage.length then
    some ((b.storage.drop b.rpos).take count, { b with rpos := b.rpos + count, bitpos := 8 })
  else none

def readUInt8 : Option (UInt8 × ByteBuffer) := (b.read 1).map fun p => (p.1.headD 0, p.2)

def readUInt32 : Option (UInt32 × ByteBuffer) := (b.read 4).map fun p => (.ofNat (ofBytes p.1), p.2)

def readBit : Option (Bool × ByteBuffer) :=
  if 7 < b.bitpos + 1 then
    b.readUInt8.map fun p => (p.1.toNat.testBit 7, { p.2 with curbitval := p.1, bitpos := 0 })
  else some (b.curbitval.toNat.testBit (7 - (b.bitpos + 1)), { b with bitpos := b.bitpos + 1 })

/-- `ReadBits`, from the highest bit on. -/
def readBits : Nat → ByteBuffer → Option (Nat × ByteBuffer)
  | 0, b => some (0, b)
  | bits + 1, b => b.readBit.bind fun p =>
    (readBits bits p.2).map fun q => (p.1.toNat <<< bits ||| q.1, q.2)

end ByteBuffer

/-- What `WriteBits` writes. -/
def bitItems (value : Nat) : Nat → List StreamItem
  | 0 => []
  | bits + 1 => .bit (value.testBit bits) :: bitItems value bits

def byteItems (bytes : List UInt8) : List StreamItem := bytes.map .byte

def uint32Items (value : UInt32) : List StreamItem := byteItems (toBytesWide 4 value.toNat)

namespace ByteBuffer

/-- What is stored, and the bits that are pending. -/
structure Holds (b : ByteBuffer) (bytes : List UInt8) (pending : List Bool) : Prop where
  storage : b.storage = bytes
  short : pending.length < 8
  bitpos : b.bitpos = 8 - pending.length
  curbitval : b.curbitval.toNat = packBits pending

variable {b : ByteBuffer} {bytes : List UInt8} {pending : List Bool}

theorem holds_ofStorage (bytes : List UInt8) : (ofStorage bytes).Holds bytes [] :=
  ⟨rfl, by simp, rfl, rfl⟩

theorem Holds.flushBits (h : b.Holds bytes pending) : b.flushBits.Holds (bytes ++ Framework.flushBits pending) [] := by
  have hshort := h.short
  rw [ByteBuffer.flushBits, Framework.flushBits]
  by_cases hnil : pending = []
  · subst hnil
    have hflushed : b.bitpos = 8 := h.bitpos
    rw [if_pos hflushed, if_pos rfl, List.append_nil]
    exact h
  · have hpos : 0 < pending.length := List.length_pos_iff.mpr hnil
    have hpending : ¬ b.bitpos = 8 := by
      rw [h.bitpos]
      omega
    rw [if_neg hpending, if_neg hnil, ← h.curbitval, UInt8.ofNat_toNat, h.storage]
    exact ⟨rfl, by simp, rfl, rfl⟩

theorem Holds.append (h : b.Holds bytes pending) (value : UInt8) :
    (b.append value).Holds (bytes ++ Framework.flushBits pending ++ [value]) [] := by
  have hflushed := h.flushBits
  exact ⟨by rw [ByteBuffer.append, hflushed.storage], hflushed.short, hflushed.bitpos, hflushed.curbitval⟩

theorem Holds.writeBit (h : b.Holds bytes pending) (bit : Bool) : if pending.length = 7 then
      (b.writeBit bit).Holds (bytes ++ [UInt8.ofNat (packBits (pending ++ [bit]))]) []
    else (b.writeBit bit).Holds bytes (pending ++ [bit]) := by
  have hshort := h.short
  have hpacked : (b.curbitval ||| UInt8.ofNat (bit.toNat <<< (b.bitpos - 1))).toNat =
      packBits (pending ++ [bit]) := by
    have hpos : b.bitpos - 1 = 7 - pending.length := by
      rw [h.bitpos]
      omega
    have hbit : bit.toNat <<< (7 - pending.length) < 2 ^ 8 := by
      have hlt := packBits_lt (pending ++ [bit])
      rw [packBits_concat hshort] at hlt
      exact Nat.right_le_or.trans_lt hlt
    rw [UInt8.toNat_or, hpos, UInt8.toNat_ofNat', Nat.mod_eq_of_lt hbit, h.curbitval, packBits_concat hshort]
  simp only [ByteBuffer.writeBit]
  split
  next hfull =>
    have hlast : b.bitpos = 1 := by
      rw [h.bitpos]
      omega
    rw [if_pos hlast, ← hpacked, UInt8.ofNat_toNat]
    exact ⟨by rw [h.storage], by simp, rfl, rfl⟩
  next hnot =>
    have hlast : ¬ b.bitpos = 1 := by
      rw [h.bitpos]
      omega
    rw [if_neg hlast]
    refine ⟨h.storage, ?_, ?_, hpacked⟩
    · rw [List.length_append, List.length_singleton]
      omega
    · rw [List.length_append, List.length_singleton]
      dsimp only
      rw [h.bitpos]
      omega

theorem Holds.write (h : b.Holds bytes pending) (items : List StreamItem) :
    (b.write items).flushBits.storage = bytes ++ layOut pending items := by
  induction items generalizing b bytes pending with
  | nil => exact h.flushBits.storage
  | cons item items ih =>
    cases item with
    | bit bit =>
      have hbit := h.writeBit bit
      rw [layOut]
      split at hbit
      next hfull =>
        rw [if_pos hfull]
        exact (ih hbit).trans (by simp)
      next hnot =>
        rw [if_neg hnot]
        exact ih hbit
    | byte value => exact (ih (h.append value)).trans (by simp [layOut])

theorem write_append (items items' : List StreamItem) :
    b.write (items ++ items') = (b.write items).write items' := List.foldl_append

theorem storage_write (items : List StreamItem) : (empty.write items).flushBits.storage = layOut [] items :=
  ((holds_ofStorage []).write items).trans (List.nil_append _)

/-- The items that are still to be read of the bytes in `whole`; the byte that is being read has the bits
that are pending. -/
structure ReadsFrom (b : ByteBuffer) (whole : List UInt8) (pending : List Bool)
    (items : List StreamItem) : Prop where
  storage : b.storage = whole
  bound : b.rpos ≤ b.storage.length
  short : pending.length < 8
  fresh : pending = [] → 7 ≤ b.bitpos ∧ b.storage.drop b.rpos = layOut [] items
  within : pending ≠ [] → b.bitpos + 1 = pending.length ∧ b.curbitval :: b.storage.drop b.rpos = layOut pending items

def Reads (b : ByteBuffer) (whole : List UInt8) (items : List StreamItem) : Prop :=
  ∃ pending, b.ReadsFrom whole pending items

variable {whole : List UInt8} {items : List StreamItem}

theorem reads_ofStorage (items : List StreamItem) : (ofStorage (layOut [] items)).Reads (layOut [] items) items :=
  ⟨[], rfl, Nat.zero_le _, by simp, fun _ => ⟨by simp [ofStorage], rfl⟩, fun h => absurd rfl h⟩

theorem Reads.rpos_eq (h : b.Reads whole []) : b.rpos = whole.length := by
  obtain ⟨pending, h⟩ := h
  have hrest : b.storage.drop b.rpos = [] := by
    by_cases hnil : pending = []
    · exact (h.fresh hnil).2
    · have hlast := (h.within hnil).2
      rw [layOut, Framework.flushBits, if_neg hnil, List.cons.injEq] at hlast
      exact hlast.2
  have hend := List.drop_eq_nil_iff.mp hrest
  have hbound := h.bound
  rw [← h.storage]
  omega

theorem ReadsFrom.drop_eq {pending : List Bool} (h : b.ReadsFrom whole pending items) {bytes rest : List UInt8}
    (hlay : layOut pending items = Framework.flushBits pending ++ (bytes ++ rest)) :
    b.storage.drop b.rpos = bytes ++ rest := by
  by_cases hnil : pending = []
  · subst hnil
    exact (h.fresh rfl).2.trans hlay
  · have hnext := (h.within hnil).2
    rw [hlay, Framework.flushBits, if_neg hnil, List.cons_append, List.cons.injEq] at hnext
    exact hnext.2

theorem read_eq {count : Nat} {bytes rest : List UInt8} (hbound : b.rpos ≤ b.storage.length)
    (hdrop : b.storage.drop b.rpos = bytes ++ rest) (hcount : bytes.length = count) :
    b.read count = some (bytes, { b with rpos := b.rpos + count, bitpos := 8 }) ∧
      b.rpos + count ≤ b.storage.length ∧ b.storage.drop (b.rpos + count) = rest := by
  have hlength := congrArg List.length hdrop
  rw [List.length_drop, List.length_append] at hlength
  have hfits : b.rpos + count ≤ b.storage.length := by omega
  refine ⟨?_, hfits, ?_⟩
  · rw [read, if_pos hfits, hdrop, ← hcount, List.take_left]
  · rw [← List.drop_drop, hdrop, ← hcount, List.drop_left]

theorem layOut_byteItems {pending : List Bool} {bytes : List UInt8} (hne : bytes ≠ [])
    (items : List StreamItem) : layOut pending (byteItems bytes ++ items) =
      Framework.flushBits pending ++ (bytes ++ layOut [] items) := by
  induction bytes generalizing pending with
  | nil => exact absurd rfl hne
  | cons byte bytes ih =>
    rw [byteItems, List.map_cons, List.cons_append, layOut]
    cases bytes with
    | nil => simp
    | cons byte' bytes =>
      have hrest := @ih [] (by simp)
      rw [byteItems] at hrest
      rw [hrest]
      simp [Framework.flushBits]

theorem Reads.read {bytes : List UInt8} (hne : bytes ≠ []) {count : Nat}
    (hcount : bytes.length = count) (h : b.Reads whole (byteItems bytes ++ items)) :
    ∃ b', b.read count = some (bytes, b') ∧ b'.Reads whole items := by
  obtain ⟨pending, h⟩ := h
  have hdrop := h.drop_eq (layOut_byteItems hne items)
  obtain ⟨hread, hbound, hrest⟩ := read_eq h.bound hdrop hcount
  refine ⟨_, hread, [], h.storage, hbound, by simp, fun _ => ⟨by simp, hrest⟩, fun hn => absurd rfl hn⟩

theorem Reads.readUInt8 {value : UInt8} (h : b.Reads whole (.byte value :: items)) :
    ∃ b', b.readUInt8 = some (value, b') ∧ b'.Reads whole items := by
  obtain ⟨b', hread, hrest⟩ := @Reads.read b whole items [value] (by simp) 1 rfl h
  exact ⟨b', by rw [ByteBuffer.readUInt8, hread]; rfl, hrest⟩

theorem Reads.readUInt32 {value : UInt32} (h : b.Reads whole (uint32Items value ++ items)) :
    ∃ b', b.readUInt32 = some (value, b') ∧ b'.Reads whole items := by
  have hne : toBytesWide 4 value.toNat ≠ [] := List.ne_nil_of_length_pos (by simp)
  obtain ⟨b', hread, hrest⟩ := h.read hne (length_toBytesWide 4 value.toNat)
  refine ⟨b', ?_, hrest⟩
  have hvalue : ofBytes (toBytesWide 4 value.toNat) = value.toNat := by
    rw [ofBytes_toBytesWide]
    exact Nat.mod_eq_of_lt value.toNat_lt
  rw [ByteBuffer.readUInt32, hread, Option.map_some, hvalue, UInt32.ofNat_toNat]

theorem Reads.readBit {value : Bool} (h : b.Reads whole (.bit value :: items)) :
    ∃ b', b.readBit = some (value, b') ∧ b'.Reads whole items := by
  obtain ⟨pending, h⟩ := h
  have hshort := h.short
  have hmore : (pending ++ [value]).length = pending.length + 1 := by simp
  have hlast : (pending ++ [value]).getD pending.length false = value := by simp
  by_cases hnil : pending = []
  · subst hnil
    obtain ⟨hbitpos, hdrop⟩ := h.fresh rfl
    obtain ⟨byte, rest, hlay, hbits⟩ := layOut_eq_cons (List.cons_ne_nil value []) (by simp) items
    have hfirst : byte.toNat.testBit 7 = value := hbits 0 (by simp)
    have hdrop' : b.storage.drop b.rpos = [byte] ++ rest := by
      rw [hdrop, layOut, if_neg (by simp)]
      exact hlay
    obtain ⟨hread, hbound, hrest⟩ := read_eq h.bound hdrop' rfl
    refine ⟨{ b with rpos := b.rpos + 1, bitpos := 0, curbitval := byte }, ?_, [value], h.storage,
      hbound, ?_, ?_, ?_⟩
    · rw [ByteBuffer.readBit, if_pos (by omega), ByteBuffer.readUInt8]
      simp only [List.length_singleton] at hread
      rw [hread]
      simp [hfirst]
    · simp
    · simp
    · intro _
      exact ⟨rfl, (congrArg (byte :: ·) hrest).trans hlay.symm⟩
  · obtain ⟨hbitpos, hcons⟩ := h.within hnil
    have hread : b.readBit = some (b.curbitval.toNat.testBit (7 - pending.length),
        { b with bitpos := b.bitpos + 1 }) := by
      rw [ByteBuffer.readBit, if_neg (by omega), hbitpos]
    rw [layOut] at hcons
    split at hcons
    next hfull =>
      rw [List.cons.injEq] at hcons
      have hvalue : b.curbitval.toNat.testBit (7 - pending.length) = value := by
        rw [hcons.1, UInt8.toNat_ofNat', Nat.mod_eq_of_lt (packBits_lt _), testBit_packBits _ hshort, hlast]
      refine ⟨{ b with bitpos := b.bitpos + 1 }, by rw [hread, hvalue], [], h.storage, h.bound,
        by simp, ?_, fun hn => absurd rfl hn⟩
      intro _
      refine ⟨?_, hcons.2⟩
      dsimp only
      omega
    next hnot =>
      obtain ⟨byte, rest, hlay, hbits⟩ :=
        layOut_eq_cons (List.concat_ne_nil _ _) (by omega : (pending ++ [value]).length < 8) items
      have hbyte : b.curbitval = byte := by
        rw [hlay, List.cons.injEq] at hcons
        exact hcons.1
      have hvalue : b.curbitval.toNat.testBit (7 - pending.length) = value := by
        rw [hbyte, hbits _ (by omega), hlast]
      refine ⟨{ b with bitpos := b.bitpos + 1 }, by rw [hread, hvalue], pending ++ [value],
        h.storage, h.bound, by omega, ?_, ?_⟩
      · intro hn
        simp at hn
      · intro _
        exact ⟨by dsimp only; omega, hcons⟩

theorem Reads.readBits {value bits : Nat} (h : b.Reads whole (bitItems value bits ++ items)) :
    ∃ b', readBits bits b = some (value % 2 ^ bits, b') ∧ b'.Reads whole items := by
  induction bits generalizing b with
  | zero => exact ⟨b, by simp [ByteBuffer.readBits, Nat.mod_one], h⟩
  | succ bits ih =>
    rw [bitItems, List.cons_append] at h
    obtain ⟨b₁, hbit, h₁⟩ := h.readBit
    obtain ⟨b₂, hrest, h₂⟩ := ih h₁
    refine ⟨b₂, ?_, h₂⟩
    have hvalue : (value.testBit bits).toNat <<< bits ||| value % 2 ^ bits = value % 2 ^ (bits + 1) := by
      apply Nat.eq_of_testBit_eq
      intro i
      rw [Nat.testBit_or, Nat.testBit_shiftLeft, Nat.testBit_mod_two_pow, Nat.testBit_mod_two_pow]
      rcases Nat.lt_trichotomy i bits with hlt | rfl | hgt
      · have hno : ¬ bits ≤ i := by omega
        have hyes : i < bits + 1 := by omega
        simp [hno, hlt, hyes]
      · cases htop : value.testBit i with
        | false => simp
        | true => simp
      · have hno : ¬ i < bits := by omega
        have hno' : ¬ i < bits + 1 := by omega
        have hhigh : (value.testBit bits).toNat.testBit (i - bits) = false := by
          apply Nat.testBit_lt_two_pow
          have hone : 2 ^ 1 ≤ 2 ^ (i - bits) := Nat.pow_le_pow_right (by decide) (by omega)
          have hle := Bool.toNat_le (value.testBit bits)
          omega
        simp [hno, hno', hhigh]
    rw [ByteBuffer.readBits, hbit, Option.bind_some, hrest, Option.map_some, hvalue]

end ByteBuffer

end Mangos
