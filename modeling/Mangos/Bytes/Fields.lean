import Mangos.Movement.ByteBuffer

/-!
# Fields of a packet

A packet is a sequence of bits, of short numbers in so many bits and of numbers in whole bytes.
-/

namespace Mangos

open Framework

/-- The sizes of the numbers that `operator<<` writes; a signed one is the word of its bits. -/
inductive IntWidth
  | w8
  | w16
  | w32
  | w64
  deriving DecidableEq, Repr

def IntWidth.bytes : IntWidth → Nat
  | .w8 => 1
  | .w16 => 2
  | .w32 => 4
  | .w64 => 8

inductive Field
  | bit (value : Bool)
  | bits (value count : Nat)
  | number (width : IntWidth) (value : Nat)
  deriving DecidableEq, Repr

/-- What a reader gets. -/
inductive FieldValue
  | bit (value : Bool)
  | number (value : Nat)
  | text (bytes : List UInt8)
  deriving DecidableEq, Repr

/-- What a reader asks for. -/
inductive FieldKind
  | bit
  | bits (count : Nat)
  | number (width : IntWidth)
  deriving DecidableEq, Repr

namespace Field

def kind : Field → FieldKind
  | .bit _ => .bit
  | .bits _ count => .bits count
  | .number width _ => .number width

def value : Field → FieldValue
  | .bit value => .bit value
  | .bits value _ => .number value
  | .number _ value => .number value

def Fits : Field → Prop
  | .bit _ => True
  | .bits value count => count ≤ 32 ∧ value < 2 ^ count
  | .number width value => value < 256 ^ width.bytes

instance (f : Field) : Decidable f.Fits :=
  match f with
  | .bit _ => inferInstanceAs (Decidable True)
  | .bits _ _ => inferInstanceAs (Decidable (_ ∧ _))
  | .number _ _ => inferInstanceAs (Decidable (_ < _))

def items : Field → List StreamItem
  | .bit value => [.bit value]
  | .bits value count => bitItems value count
  | .number width value => byteItems (toBytesWide width.bytes value)

end Field

namespace ByteBuffer

/-- `append(const uint8*, size_t)`: bits that are pending stay so. -/
def appendBytes (b : ByteBuffer) (src : List UInt8) : ByteBuffer :=
  { b with storage := b.storage ++ src }

/-- `append` of a number. -/
def appendNumber (b : ByteBuffer) (width : IntWidth) (value : Nat) : ByteBuffer :=
  b.flushBits.appendBytes (toBytesWide width.bytes value)

/-- `WriteBits`, from the highest bit on. -/
def writeBits (value : Nat) : Nat → ByteBuffer → ByteBuffer
  | 0, b => b
  | bits + 1, b => writeBits value bits (b.writeBit (value.testBit bits))

def writeField (b : ByteBuffer) : Field → ByteBuffer
  | .bit value => b.writeBit value
  | .bits value count => b.writeBits value count
  | .number width value => b.appendNumber width value

def writeFields (b : ByteBuffer) (fields : List Field) : ByteBuffer := fields.foldl writeField b

def readNumber (b : ByteBuffer) (width : IntWidth) : Option (Nat × ByteBuffer) :=
  (b.read width.bytes).map fun p => (ofBytes p.1, p.2)

def readField (b : ByteBuffer) : FieldKind → Option (FieldValue × ByteBuffer)
  | .bit => b.readBit.map fun p => (.bit p.1, p.2)
  | .bits count => (readBits count b).map fun p => (.number p.1, p.2)
  | .number width => (b.readNumber width).map fun p => (.number p.1, p.2)

def readFields : List FieldKind → ByteBuffer → Option (List FieldValue × ByteBuffer)
  | [], b => some ([], b)
  | kind :: kinds, b =>
    (b.readField kind).bind fun p => (readFields kinds p.2).map fun q => (p.1 :: q.1, q.2)

variable {b : ByteBuffer}

@[simp] theorem bitpos_flushBits (b : ByteBuffer) : b.flushBits.bitpos = 8 := by
  rw [flushBits]
  split
  next h => exact h
  next => rfl

@[simp] theorem rpos_flushBits (b : ByteBuffer) : b.flushBits.rpos = b.rpos := by
  rw [flushBits]
  split <;> rfl

theorem flushBits_of_bitpos (h : b.bitpos = 8) : b.flushBits = b := if_pos h

theorem write_byteItems (b : ByteBuffer) {bytes : List UInt8} (hne : bytes ≠ []) :
    b.write (byteItems bytes) = b.flushBits.appendBytes bytes := by
  induction bytes generalizing b with
  | nil => exact absurd rfl hne
  | cons byte bytes ih =>
    have hfirst : b.write (byteItems (byte :: bytes)) = (b.append byte).write (byteItems bytes) := rfl
    have happend : b.append byte = b.flushBits.appendBytes [byte] := rfl
    rw [hfirst, happend]
    by_cases hnil : bytes = []
    · subst hnil
      rfl
    · have hflushed : (b.flushBits.appendBytes [byte]).flushBits = b.flushBits.appendBytes [byte] :=
        flushBits_of_bitpos b.bitpos_flushBits
      rw [ih _ hnil, hflushed]
      simp [appendBytes]

theorem write_bitItems (value count : Nat) (b : ByteBuffer) :
    b.write (bitItems value count) = b.writeBits value count := by
  induction count generalizing b with
  | zero => rfl
  | succ count ih => exact ih (b.writeBit (value.testBit count))

theorem toBytesWide_ne_nil (width : IntWidth) (value : Nat) : toBytesWide width.bytes value ≠ [] := by
  apply List.ne_nil_of_length_pos
  rw [length_toBytesWide]
  cases width <;> decide

theorem write_items (b : ByteBuffer) (f : Field) : b.write f.items = b.writeField f := by
  cases f with
  | bit value => rfl
  | bits value count => exact write_bitItems value count b
  | number width value => exact write_byteItems b (toBytesWide_ne_nil width value)

theorem write_flatMap_items (fields : List Field) (b : ByteBuffer) :
    b.write (fields.flatMap Field.items) = b.writeFields fields := by
  induction fields generalizing b with
  | nil => rfl
  | cons f fields ih =>
    rw [List.flatMap_cons, write_append, write_items]
    exact ih (b.writeField f)

@[simp] theorem rpos_writeItem (b : ByteBuffer) (item : StreamItem) : (b.writeItem item).rpos = b.rpos := by
  cases item with
  | bit bit =>
    rw [writeItem, writeBit]
    split <;> rfl
  | byte value => exact b.rpos_flushBits

@[simp] theorem rpos_write (items : List StreamItem) (b : ByteBuffer) : (b.write items).rpos = b.rpos := by
  induction items generalizing b with
  | nil => rfl
  | cons item items ih => exact (ih (b.writeItem item)).trans (b.rpos_writeItem item)

theorem rpos_writeField (b : ByteBuffer) (f : Field) : (b.writeField f).rpos = b.rpos := by
  rw [← write_items, rpos_write]

theorem rpos_writeFields (fields : List Field) (b : ByteBuffer) : (b.writeFields fields).rpos = b.rpos := by
  rw [← write_flatMap_items, rpos_write]

theorem reads_flushBits {items : List StreamItem} (hstart : b.rpos = 0)
    (hlay : b.flushBits.storage = layOut [] items) : b.flushBits.Reads (layOut [] items) items := by
  refine ⟨[], hlay, ?_, by simp, ?_, fun hnil => absurd rfl hnil⟩
  · rw [rpos_flushBits, hstart]
    exact Nat.zero_le _
  · intro _
    rw [rpos_flushBits, hstart, hlay, bitpos_flushBits]
    exact ⟨by decide, rfl⟩

variable {whole : List UInt8} {items : List StreamItem}

theorem Reads.readNumber {width : IntWidth} {value : Nat} (hvalue : value < 256 ^ width.bytes)
    (h : b.Reads whole (byteItems (toBytesWide width.bytes value) ++ items)) :
    ∃ b', b.readNumber width = some (value, b') ∧ b'.Reads whole items := by
  obtain ⟨b', hread, hrest⟩ := h.read (toBytesWide_ne_nil width value) (length_toBytesWide _ value)
  refine ⟨b', ?_, hrest⟩
  rw [ByteBuffer.readNumber, hread, Option.map_some, ofBytes_toBytesWide, Nat.mod_eq_of_lt hvalue]

theorem Reads.readField {f : Field} (hfits : f.Fits) (h : b.Reads whole (f.items ++ items)) :
    ∃ b', b.readField f.kind = some (f.value, b') ∧ b'.Reads whole items := by
  cases f with
  | bit value =>
    obtain ⟨b', hread, hrest⟩ := Reads.readBit h
    exact ⟨b', by rw [Field.kind, ByteBuffer.readField, hread]; rfl, hrest⟩
  | bits value count =>
    obtain ⟨b', hread, hrest⟩ := Reads.readBits h
    rw [Nat.mod_eq_of_lt hfits.2] at hread
    exact ⟨b', by rw [Field.kind, ByteBuffer.readField, hread]; rfl, hrest⟩
  | number width value =>
    obtain ⟨b', hread, hrest⟩ := Reads.readNumber hfits h
    exact ⟨b', by rw [Field.kind, ByteBuffer.readField, hread]; rfl, hrest⟩

theorem Reads.readFields {fields : List Field} (hfits : ∀ f ∈ fields, f.Fits)
    (h : b.Reads whole (fields.flatMap Field.items ++ items)) :
    ∃ b', readFields (fields.map Field.kind) b = some (fields.map Field.value, b') ∧ b'.Reads whole items := by
  induction fields generalizing b with
  | nil => exact ⟨b, rfl, h⟩
  | cons f fields ih =>
    rw [List.flatMap_cons, List.append_assoc] at h
    obtain ⟨b₁, hfirst, h₁⟩ := h.readField (hfits f List.mem_cons_self)
    obtain ⟨b₂, hrest, h₂⟩ := ih (fun f hf => hfits f (List.mem_cons_of_mem _ hf)) h₁
    refine ⟨b₂, ?_, h₂⟩
    rw [List.map_cons, List.map_cons, ByteBuffer.readFields, hfirst, Option.bind_some, hrest, Option.map_some]

/-- A packet's fields are read back, and nothing is left. -/
theorem fields_roundTrip (fields : List Field) (hfits : ∀ f ∈ fields, f.Fits) :
    ∃ b', readFields (fields.map Field.kind) (empty.writeFields fields).flushBits =
      some (fields.map Field.value, b') ∧ b'.rpos = (empty.writeFields fields).flushBits.storage.length := by
  have hstorage : (empty.writeFields fields).flushBits.storage = layOut [] (fields.flatMap Field.items) := by
    rw [← write_flatMap_items, storage_write]
  have hreads := reads_flushBits (rpos_writeFields fields empty) hstorage
  obtain ⟨b', hread, hrest⟩ := Reads.readFields hfits (by rwa [List.append_nil])
  exact ⟨b', hread, hrest.rpos_eq.trans (congrArg List.length hstorage).symm⟩

theorem fields_roundTrip_mixed : ∃ b', readFields [.bits 3, .number .w16, .bit, .bits 32]
        (empty.writeFields [.bits 5 3, .number .w16 4660, .bit true, .bits 4294967295 32]).flushBits =
      some ([.number 5, .number 4660, .bit true, .number 4294967295], b') ∧ b'.rpos = (empty.writeFields
          [.bits 5 3, .number .w16 4660, .bit true, .bits 4294967295 32]).flushBits.storage.length :=
  fields_roundTrip [.bits 5 3, .number .w16 4660, .bit true, .bits 4294967295 32] (by decide)

end ByteBuffer

end Mangos
