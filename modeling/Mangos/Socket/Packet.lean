import Mathlib.Data.List.Basic
import Mathlib.Algebra.GroupWithZero.Nat

/-!
# Packets and their headers

The header of a packet from a client tells the size and the opcode, and so does that of a packet to a
client.
-/

namespace Mangos

/-- The part of `WorldPacket` that goes over the wire. -/
structure WorldPacket where
  opcode : Nat
  contents : List UInt8
  deriving DecidableEq, Repr

/-- One direction of `AuthCrypt`: bytes are replaced in place, and the state moves on. -/
structure HeaderCipher (Crypt : Type*) where
  update : Crypt → List UInt8 → List UInt8 × Crypt
  length_update : ∀ crypt bytes, (update crypt bytes).1.length = bytes.length

/-- The cipher before `AuthCrypt::Init`. -/
def HeaderCipher.plain (Crypt : Type*) : HeaderCipher Crypt where
  update crypt bytes := (bytes, crypt)
  length_update _ _ := rfl

/-- `ClientPktHeader`, with the size in network order. -/
structure ClientPktHeader where
  size : Nat
  cmd : Nat

/-- `sizeof(ClientPktHeader)`. -/
def clientHeaderSize : Nat := 6

def ClientPktHeader.read (bytes : List UInt8) : ClientPktHeader where
  size := (bytes.getD 0 0).toNat * 256 + (bytes.getD 1 0).toNat
  cmd := (bytes.getD 2 0).toNat + (bytes.getD 3 0).toNat * 2 ^ 8 + (bytes.getD 4 0).toNat * 2 ^ 16 +
    (bytes.getD 5 0).toNat * 2 ^ 24

/-- The sizes that `handle_input_header` lets through. -/
def ClientPktHeader.Valid (header : ClientPktHeader) : Prop :=
  4 ≤ header.size ∧ header.size ≤ 10240

instance (header : ClientPktHeader) : Decidable header.Valid :=
  inferInstanceAs (Decidable (_ ∧ _))

def ClientPktHeader.payloadSize (header : ClientPktHeader) : Nat := header.size - 4

def ClientPktHeader.opcodeValue (header : ClientPktHeader) : Nat := header.cmd % 2 ^ 16

/-- `ServerPktHeader`, where a large packet has a size of three bytes. -/
def serverPktHeader (size cmd : Nat) : List UInt8 :=
  (if 0x7FFF < size then [UInt8.ofNat (0x80 ||| (0xFF &&& (size >>> 16)))] else []) ++
    [UInt8.ofNat (0xFF &&& (size >>> 8)), UInt8.ofNat (0xFF &&& size), UInt8.ofNat (0xFF &&& cmd),
      UInt8.ofNat (0xFF &&& (cmd >>> 8))]

end Mangos
