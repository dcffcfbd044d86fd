import Mangos.Bytes.Appending
import Mangos.Framework.Run

/-!
# Bytes that overtake bits

Numbers are written behind the byte of the bits that are pending.
-/

namespace Mangos

open Framework

inductive Write
  | field (f : Field)
  | string (text : List UInt8)
  | writeString (text : List UInt8)
  | append (src : List UInt8)
  | appendBuffer (buffer : ByteBuffer)
  | appendPackGUID (guid : UInt64)

/-- What a reader asks for in the place of a write. -/
inductive Request
  | field (kind : FieldKind)
  | string
  | readString (count : Nat)
  | read (count : Nat)
  | readPackGUID

namespace Write

/-- The bytes of an operation; bits are not bytes yet. -/
def bytes : Write → List UInt8
  | .field (.bit _) => []
  | .field (.bits _ _) => []
  | .field (.number width value) => toBytesWide width.bytes value
  | .string text => text ++ [0]
  | .writeString text => text
  | .append src => src
  | .appendBuffer buffer => buffer.storage
  | .appendPackGUID guid => packGUID guid

def raw : Write → List UInt8
  | .field _ => []
  | .string text => text
  | .writeString text => text
  | .append src => src
  | .appendBuffer buffer => buffer.storage
  | .appendPackGUID guid => packGUID guid

def endsFlushed : Write → Bool
  | .string _ => true
  | _ => false

def items : Write → List StreamItem
  | .field f => f.items
  | w => byteItems w.bytes

def request : Write → Request
  | .field f => .field f.kind
  | .string _ => .string
  | .writeString text => .readString text.length
  | .append src => .read src.length
  | .appendBuffer buffer => .read buffer.storage.length
  | .appendPackGUID _ => .readPackGUID

def value : Write → FieldValue
  | .field f => f.value
  | .string text => .text text
  | .writeString text => .text text
  | .append src => .text src
  | .appendBuffer buffer => .text buffer.storage
  | .appendPackGUID guid => .number guid.toNat

/-- A reader can tell the value: it has room, a text ends at its first zero, and there are raw bytes to read. -/
def Readable : Write → Prop
  | .field f => f.Fits
  | .string text => 0 ∉ text
  | .append src => src ≠ []
  | .appendBuffer buffer => buffer.storage ≠ []
  | _ => True

instance (w : Write) : Decidable w.Readable :=
  match w with
  | .field f => inferInstanceAs (Decidable f.Fits)
  | .string text => inferInstanceAs (Decidable (0 ∉ text))
  | .writeString _ => inferInstanceAs (Decidable True)
  | .append src => inferInstanceAs (Decidable (src ≠ []))
  | .appendBuffer buffer => inferInstanceAs (Decidable (buffer.storage ≠ []))
  | .appendPackGUID _ => inferInstanceAs (Decidable True)

end Write

namespace ByteBuffer

def writeOp (b : ByteBuffer) : Write → ByteBuffer
  | .field f => b.writeField f
  | .string text => b.appendString text
  | .writeString text => b.writeString text
  | .append src => b.appendBytes src
  | .appendBuffer buffer => b.appendBuffer buffer
  | .appendPackGUID guid => b.appendPackGUID guid

def readOp (b : ByteBuffer) : Request → Option (FieldValue × ByteBuffer)
  | .field kind => b.readField kind
  | .string => b.readString.map fun p => (.text p.1, p.2)
  | .readString count => (readStringOf count b).map fun p => (.text p.1, p.2)
  | .read count => (b.read count).map fun p => (.text p.1, p.2)
  | .readPackGUID => b.readPackGUID.map fun p => (.number p.1, p.2)

def readOps : List Request → ByteBuffer → Option (List FieldValue × ByteBuffer)
  | [], b => some ([], b)
  | request :: requests, b =>
    (b.readOp request).bind fun p => (readOps requests p.2).map fun q => (p.1 :: q.1, q.2)

/-- The bytes of an operation stand behind the byte of the bits that are pending. -/
def Placed (b : ByteBuffer) (w : Write) : Prop :=
  w.bytes ≠ [] → (b.writeOp w).storage = b.flushBits.storage ++ w.bytes

instance (b : ByteBuffer) (w : Write) : Decidable (b.Placed w) := inferInstanceAs (Decidable (_ → _))

/-- No bits are pending, nothing is written before they are flushed, or a text cannot be told from their
byte. -/
def StaysBehind (b : ByteBuffer) (w : Write) : Prop :=
  b.bitpos = 8 ∨ w.raw = [] ∨ (w.endsFlushed = true ∧ ∀ c ∈ w.raw, c = b.curbitval)

instance (b : ByteBuffer) (w : Write) : Decidable (b.StaysBehind w) :=
  inferInstanceAs (Decidable (_ ∨ _ ∨ _))

variable {b : ByteBuffer} {w : Write}

theorem concat_eq_cons_iff (text : List UInt8) (c : UInt8) : text ++ [c] = c :: text ↔ ∀ d ∈ text, d = c := by
  induction text with
  | nil => simp
  | cons d text ih =>
    rw [List.cons_append, List.cons.injEq, List.forall_mem_cons, ← ih]
    apply and_congr_right
    intro hd
    rw [hd]

theorem storage_flushBits_of_ne (h : b.bitpos ≠ 8) : b.flushBits.storage = b.storage ++ [b.curbitval] := by
  rw [flushBits, if_neg h]

theorem storage_eq_flushBits_iff : b.storage = b.flushBits.storage ↔ b.bitpos = 8 := by
  constructor
  · intro h
    by_contra hpending
    rw [storage_flushBits_of_ne hpending] at h
    have hlength := congrArg List.length h
    rw [List.length_append, List.length_singleton] at hlength
    omega
  · intro h
    rw [flushBits_of_bitpos h]

theorem storage_appendString_eq_iff (b : ByteBuffer) (text : List UInt8) :
    (b.appendString text).storage = b.flushBits.storage ++ (text ++ [0]) ↔
      b.bitpos = 8 ∨ text = [] ∨ ∀ c ∈ text, c = b.curbitval := by
  have hzero : toBytesWide IntWidth.w8.bytes 0 = [0] := rfl
  rw [appendString, appendNumber, hzero]
  by_cases h : b.bitpos = 8
  · have hflushed : (b.appendBytes text).flushBits = b.appendBytes text := flushBits_of_bitpos h
    rw [hflushed, flushBits_of_bitpos h]
    simp [appendBytes, h]
  · have hflushed : (b.appendBytes text).flushBits.storage = b.storage ++ text ++ [b.curbitval] :=
      storage_flushBits_of_ne h
    rw [storage_flushBits_of_ne h, appendBytes, hflushed]
    simp only [List.append_assoc, List.append_cancel_left_eq, List.singleton_append, h, false_or]
    rw [← List.cons_append, ← List.singleton_append, ← List.append_assoc, List.append_cancel_right_eq,
      concat_eq_cons_iff]
    constructor
    · exact Or.inr
    · rintro (rfl | hall)
      · simp
      · exact hall

theorem placed_iff (b : ByteBuffer) (w : Write) : b.Placed w ↔ b.StaysBehind w := by
  have hraw (bytes : List UInt8) :
      (bytes ≠ [] → b.storage ++ bytes = b.flushBits.storage ++ bytes) ↔
        b.bitpos = 8 ∨ bytes = [] ∨ (false = true ∧ ∀ c ∈ bytes, c = b.curbitval) := by
    by_cases hnil : bytes = []
    · simp [hnil]
    · simp [storage_eq_flushBits_iff, hnil]
  cases w with
  | field f =>
    have hbehind : b.StaysBehind (.field f) := .inr (.inl rfl)
    apply iff_of_true _ hbehind
    intro hne
    cases f with
    | bit value => exact absurd rfl hne
    | bits value count => exact absurd rfl hne
    | number width value => rfl
  | string text =>
    have hne : text ++ [0] ≠ [] := by simp
    rw [Placed, StaysBehind, Write.bytes, Write.raw, Write.endsFlushed, writeOp, storage_appendString_eq_iff]
    simp [hne]
  | writeString text => exact hraw text
  | append src => exact hraw src
  | appendBuffer buffer => exact hraw buffer.storage
  | appendPackGUID guid => exact hraw (packGUID guid)

theorem write_byteItems_of_raw (bytes : List UInt8) (h : b.bitpos = 8 ∨ bytes = []) :
    b.appendBytes bytes = b.write (byteItems bytes) := by
  by_cases hnil : bytes = []
  · subst hnil
    simp [appendBytes, byteItems, write]
  · rw [write_byteItems b hnil, flushBits_of_bitpos (h.resolve_right hnil)]

theorem appendString_eq (b : ByteBuffer) (text : List UInt8) :
    b.appendString text = { b.flushBits with storage := (b.appendString text).storage } := by
  rw [appendString, appendNumber]
  by_cases h : b.bitpos = 8
  · have hflushed : (b.appendBytes text).flushBits = b.appendBytes text := flushBits_of_bitpos h
    rw [hflushed, flushBits_of_bitpos h]
    rfl
  · have hflushed : (b.appendBytes text).flushBits =
        { b with storage := b.storage ++ text ++ [b.curbitval], curbitval := 0, bitpos := 8 } := if_neg h
    rw [hflushed, flushBits, if_neg h]
    rfl

theorem writeOp_eq (h : b.StaysBehind w) : b.writeOp w = b.write w.items := by
  have hraw (bytes : List UInt8)
      (hbehind : b.bitpos = 8 ∨ bytes = [] ∨ (false = true ∧ ∀ c ∈ bytes, c = b.curbitval)) :
      b.appendBytes bytes = b.write (byteItems bytes) := by
    apply write_byteItems_of_raw
    simpa using hbehind
  cases w with
  | field f => exact (write_items b f).symm
  | string text =>
    have hne : text ++ [0] ≠ [] := by simp
    have hstorage : (b.appendString text).storage = b.flushBits.storage ++ (text ++ [0]) :=
      (placed_iff b (.string text)).mpr h hne
    have hwrite : b.write (byteItems (text ++ [0])) = b.flushBits.appendBytes (text ++ [0]) :=
      write_byteItems b hne
    rw [writeOp, appendString_eq, hstorage]
    exact hwrite.symm
  | writeString text => exact hraw text h
  | append src => exact hraw src h
  | appendBuffer buffer => exact hraw buffer.storage h
  | appendPackGUID guid => exact hraw (packGUID guid) h

theorem run_writeOp_eq {ops : List Write} (h : Guarded writeOp StaysBehind b ops) :
    run writeOp b ops = b.write (ops.flatMap Write.items) := by
  induction ops generalizing b with
  | nil => rfl
  | cons w ops ih =>
    rw [run_cons, ih h.2, writeOp_eq h.1, List.flatMap_cons, write_append]

variable {whole : List UInt8} {items : List StreamItem}

theorem Reads.readOp (hreadable : w.Readable) (h : b.Reads whole (w.items ++ items)) :
    ∃ b', b.readOp w.request = some (w.value, b') ∧ b'.Reads whole items := by
  cases w with
  | field f => exact Reads.readField hreadable h
  | string text =>
    obtain ⟨b', hread, hrest⟩ := Reads.readString hreadable h
    exact ⟨b', by rw [Write.request, ByteBuffer.readOp, hread]; rfl, hrest⟩
  | writeString text =>
    obtain ⟨b', hread, hrest⟩ := @Reads.readStringOf b whole items text h
    exact ⟨b', by rw [Write.request, ByteBuffer.readOp, hread]; rfl, hrest⟩
  | append src =>
    obtain ⟨b', hread, hrest⟩ := Reads.read hreadable rfl h
    exact ⟨b', by rw [Write.request, ByteBuffer.readOp, hread]; rfl, hrest⟩
  | appendBuffer buffer =>
    obtain ⟨b', hread, hrest⟩ := Reads.read hreadable rfl h
    exact ⟨b', by rw [Write.request, ByteBuffer.readOp, hread]; rfl, hrest⟩
  | appendPackGUID guid =>
    obtain ⟨b', hread, hrest⟩ := Reads.readPackGUID h
    exact ⟨b', by rw [Write.request, ByteBuffer.readOp, hread]; rfl, hrest⟩

theorem Reads.readOps {ops : List Write} (hreadable : ∀ w ∈ ops, w.Readable)
    (h : b.Reads whole (ops.flatMap Write.items ++ items)) :
    ∃ b', readOps (ops.map Write.request) b = some (ops.map Write.value, b') ∧ b'.Reads whole items := by
  induction ops generalizing b with
  | nil => exact ⟨b, rfl, h⟩
  | cons w ops ih =>
    rw [List.flatMap_cons, List.append_assoc] at h
    obtain ⟨b₁, hfirst, h₁⟩ := h.readOp (hreadable w List.mem_cons_self)
    obtain ⟨b₂, hrest, h₂⟩ := ih (fun w hw => hreadable w (List.mem_cons_of_mem _ hw)) h₁
    refine ⟨b₂, ?_, h₂⟩
    rw [List.map_cons, List.map_cons, ByteBuffer.readOps, hfirst, Option.bind_some, hrest, Option.map_some]

@[simp] theorem rpos_writeOp (b : ByteBuffer) (w : Write) : (b.writeOp w).rpos = b.rpos := by
  cases w with
  | field f => exact rpos_writeField b f
  | string text => exact rpos_flushBits (b.appendBytes text)
  | writeString text => rfl
  | append src => rfl
  | appendBuffer buffer => rfl
  | appendPackGUID guid => rfl

theorem rpos_run_writeOp (ops : List Write) (b : ByteBuffer) : (run writeOp b ops).rpos = b.rpos := by
  induction ops generalizing b with
  | nil => rfl
  | cons w ops ih => rw [run_cons, ih, rpos_writeOp]

/-- What was written is read by the same operations, to the end of the packet. -/
def Decodes (ops : List Write) : Prop :=
  ∃ b', readOps (ops.map Write.request) (run writeOp empty ops).flushBits =
    some (ops.map Write.value, b') ∧ b'.rpos = (run writeOp empty ops).flushBits.storage.length

theorem decodes_of_guarded {ops : List Write} (hreadable : ∀ w ∈ ops, w.Readable)
    (h : Guarded writeOp StaysBehind empty ops) : Decodes ops := by
  have hstorage : (run writeOp empty ops).flushBits.storage = layOut [] (ops.flatMap Write.items) := by
    rw [run_writeOp_eq h, storage_write]
  have hreads := reads_flushBits (rpos_run_writeOp ops empty) hstorage
  obtain ⟨b', hread, hrest⟩ := Reads.readOps hreadable (by rwa [List.append_nil])
  exact ⟨b', hread, hrest.rpos_eq.trans (congrArg List.length hstorage).symm⟩

/-- Bytes stand behind the bits before them if and only if no raw bytes meet pending bits, and a packet in
which they never do is decoded. -/
theorem placed_behindBits_iff (b : ByteBuffer) (w : Write) (ops : List Write) (hreadable : ∀ w ∈ ops, w.Readable) :
    (b.Placed w ↔ b.StaysBehind w) ∧ (Guarded writeOp StaysBehind empty ops → Decodes ops) :=
  ⟨placed_iff b w, decodes_of_guarded hreadable⟩

theorem placed_behindBits_flushed : ((empty.writeBit true).writeField (.number .w8 7)).StaysBehind (.writeString [65]) ∧
      ((empty.writeBit true).writeField (.number .w8 7)).Placed (.writeString [65]) ∧
      Decodes [.field (.bit true), .field (.number .w8 7), .string [65, 66], .appendPackGUID 513] :=
  have hsplit := placed_behindBits_iff ((empty.writeBit true).writeField (.number .w8 7)) (.writeString [65])
    [.field (.bit true), .field (.number .w8 7), .string [65, 66], .appendPackGUID 513] (by decide)
  ⟨by decide, hsplit.1.mpr (by decide), hsplit.2 (by decide)⟩

/-- One bit is pending: each of the raw writes puts its bytes in front of it, and a reader takes the first of
them for the bit. -/
theorem not_placed_afterBit : ¬ (empty.writeBit true).Placed (.string [65]) ∧
      ¬ (empty.writeBit true).Placed (.writeString [65]) ∧ ¬ (empty.writeBit true).Placed (.append [65]) ∧
      ¬ (empty.writeBit true).Placed (.appendBuffer (ofStorage [65])) ∧
      ¬ (empty.writeBit true).Placed (.appendPackGUID 1) ∧ (readOps [.field .bit, .readString 1] (run writeOp empty
        [.field (.bit true), .writeString [65]]).flushBits).map Prod.fst = some [.bit false, .text [128]] := by
  decide

end ByteBuffer

end Mangos
