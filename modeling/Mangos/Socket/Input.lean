import Mangos.Framework.Records
import Mangos.Socket.Packet

/-!
# The input of a socket

The bytes of a packet are gathered in a buffer for the header and a buffer for the payload, which outlive
the calls.
-/

namespace Mangos

open Framework

/-- What lies behind a socket: the decryption of headers, the table of opcodes, and the handling of a packet, which
may be refused and may change the connection. -/
structure InputSettings (Conn : Type*) where
  decryptRecv : HeaderCipher Conn
  getOpcode : Nat → Nat
  processIncoming : Conn → WorldPacket → Bool × Conn

/-- The input fields of `WorldSocket`. A buffer is what has been written to it. -/
structure InputState (Conn : Type*) where
  conn : Conn
  header : List UInt8
  /-- The opcode of `m_RecvWPct`. -/
  recvWPct : Option Nat
  recvPct : List UInt8
  recvPctSize : Nat
  /-- The packets that have been handed to `ProcessIncoming`. -/
  incoming : List WorldPacket
  closing : Bool
  deriving DecidableEq

inductive InputErrno
  | invalid | wouldBlock
  deriving DecidableEq, Repr

/-- What `handle_input_missing_data` returns. -/
inductive InputResult
  | failed (errno : InputErrno) | bufferFull | bufferLeft
  deriving DecidableEq, Repr

namespace InputState

variable {Conn : Type*} (settings : InputSettings Conn) (s : InputState Conn)

def new (conn : Conn) : InputState Conn where
  conn := conn
  header := []
  recvWPct := none
  recvPct := []
  recvPctSize := 0
  incoming := []
  closing := false

def headerSpace : Nat := clientHeaderSize - s.header.length

def recvPctSpace : Nat := s.recvPctSize - s.recvPct.length

/-- `handle_input_header`, with whether it succeeds. The header is decrypted in place. -/
def handleInputHeader : InputState Conn × Bool :=
  let (bytes, conn) := settings.decryptRecv.update s.conn s.header
  let header := ClientPktHeader.read bytes
  let s := { s with conn, header := bytes }
  if ¬ header.Valid then (s, false)
  else
    let s := { s with recvWPct := some (settings.getOpcode header.opcodeValue) }
    if 0 < header.payloadSize then
      ({ s with recvPct := [], recvPctSize := header.payloadSize }, true)
    else (s, true)

/-- `handle_input_payload`, with whether the packet is accepted. -/
def handleInputPayload : InputState Conn × Bool :=
  match s.recvWPct with
  | none => (s, false)
  | some opcode =>
    let packet : WorldPacket := { opcode, contents := s.recvPct }
    let (accepted, conn) := settings.processIncoming s.conn packet
    ({ s with
      conn
      header := []
      recvWPct := none
      recvPct := []
      recvPctSize := 0
      incoming := s.incoming ++ [packet] }, accepted)

/-- The second part of a turn: bytes go to the payload, and a complete packet is handed on. What is left
of the bytes comes with the error if there is one. -/
def receivePayload (bytes : List UInt8) : InputState Conn × List UInt8 × Option InputErrno :=
  if s.recvWPct.isNone then (s, bytes, some .invalid)
  else
    let s' := { s with recvPct := s.recvPct ++ bytes.take s.recvPctSpace }
    let bytes := bytes.drop s.recvPctSpace
    if 0 < s'.recvPctSpace then (s', bytes, some .wouldBlock)
    else
      match s'.handleInputPayload settings with
      | (s, true) => (s, bytes, none)
      | (s, false) => (s, bytes, some .invalid)

/-- One turn of the loop of `handle_input_missing_data`. -/
def receiveTurn (bytes : List UInt8) : InputState Conn × List UInt8 × Option InputErrno :=
  if 0 < s.headerSpace then
    let s' := { s with header := s.header ++ bytes.take s.headerSpace }
    let bytes := bytes.drop s.headerSpace
    if 0 < s'.headerSpace then (s', bytes, some .wouldBlock)
    else
      match s'.handleInputHeader settings with
      | (s, true) => s.receivePayload settings bytes
      | (s, false) => (s, bytes, some .invalid)
  else s.receivePayload settings bytes

/-- Nothing of a packet has come yet. -/
structure Idle (s : InputState Conn) : Prop where
  header : s.header = []
  recvWPct : s.recvWPct = none
  recvPct : s.recvPct = []
  recvPctSize : s.recvPctSize = 0

variable {settings s}

theorem handleInputPayload_idle (h : (s.handleInputPayload settings).2 = true) :
    (s.handleInputPayload settings).1.Idle := by
  rw [handleInputPayload] at h ⊢
  split
  next hnone =>
    rw [hnone] at h
    cases h
  next => exact ⟨rfl, rfl, rfl, rfl⟩

@[simp] theorem handleInputPayload_closing : (s.handleInputPayload settings).1.closing = s.closing := by
  rw [handleInputPayload]
  split <;> rfl

@[simp] theorem handleInputHeader_closing : (s.handleInputHeader settings).1.closing = s.closing := by
  rw [handleInputHeader]
  dsimp only
  split
  · rfl
  · split <;> rfl

theorem receivePayload_next {bytes rest : List UInt8} {s' : InputState Conn}
    (h : s.receivePayload settings bytes = (s', rest, none)) :
    s'.Idle ∧ s'.closing = s.closing ∧ rest = bytes.drop s.recvPctSpace := by
  rw [receivePayload] at h
  split at h
  · cases h
  · dsimp only at h
    split at h
    · cases h
    · split at h
      next hpayload =>
        cases h
        have hidle := handleInputPayload_idle (congrArg Prod.snd hpayload)
        have hclosing := congrArg (fun p => p.1.closing) hpayload
        rw [hpayload] at hidle
        rw [handleInputPayload_closing] at hclosing
        exact ⟨hidle, hclosing.symm, rfl⟩
      · cases h

theorem receiveTurn_next {bytes rest : List UInt8} {s' : InputState Conn}
    (h : s.receiveTurn settings bytes = (s', rest, none)) :
    s'.Idle ∧ s'.closing = s.closing ∧ rest.length ≤ bytes.length ∧
      (0 < s.headerSpace → bytes ≠ [] → rest.length < bytes.length) := by
  rw [receiveTurn] at h
  split at h
  next hspace =>
    dsimp only at h
    split at h
    · cases h
    · split at h
      next hheader =>
        obtain ⟨hidle, hclosing, hrest⟩ := receivePayload_next h
        have hkept := congrArg (fun p => p.1.closing) hheader
        rw [handleInputHeader_closing] at hkept
        refine ⟨hidle, hclosing.trans hkept.symm, ?_, fun _ hne => ?_⟩
        · rw [hrest, List.length_drop, List.length_drop]
          omega
        · have hpos := List.length_pos_iff.mpr hne
          rw [hrest, List.length_drop, List.length_drop]
          omega
      · cases h
  next hspace =>
    obtain ⟨hidle, hclosing, hrest⟩ := receivePayload_next h
    refine ⟨hidle, hclosing, ?_, fun hpos => absurd hpos hspace⟩
    rw [hrest, List.length_drop]
    exact Nat.sub_le _ _

variable (settings s)

/-- The loop of `handle_input_missing_data`. -/
def receiveLoop (s : InputState Conn) (bytes : List UInt8) : InputState Conn × Option InputErrno :=
  if hbytes : bytes = [] then (s, none)
  else
    match h : s.receiveTurn settings bytes with
    | (s, _, some errno) => (s, some errno)
    | (s, bytes, none) => receiveLoop s bytes
termination_by 2 * bytes.length + if 0 < s.headerSpace then 0 else 1
decreasing_by
  obtain ⟨hidle, -, hle, hlt⟩ := receiveTurn_next h
  have hempty : 0 < s.headerSpace := by
    rw [headerSpace, hidle.header]
    exact Nat.succ_pos 5
  rw [if_pos hempty]
  split
  next hspace =>
    have := hlt hspace hbytes
    omega
  next => omega

def recvSize : Nat := 4096

/-- `handle_input_missing_data`, when `recv` has given it some bytes. -/
def handleInputMissingData (chunk : List UInt8) : InputState Conn × InputResult :=
  match s.receiveLoop settings chunk with
  | (s, some errno) => (s, .failed errno)
  | (s, none) => (s, if chunk.length = recvSize then .bufferFull else .bufferLeft)

/-- `handle_input` as far as the input is concerned: after an error the socket is closed, but not if
there are just not enough bytes. -/
def handleInput (chunk : List UInt8) : InputState Conn :=
  if s.closing then s
  else
    match s.handleInputMissingData settings chunk with
    | (s, .failed .invalid) => { s with closing := true }
    | (s, _) => s

end InputState

end Mangos
