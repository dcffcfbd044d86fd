import Mangos.Framework.Run
import Mangos.Socket.Packet

/-!
# The output of a socket

Packets are written to a buffer, or to a queue if the buffer has no room or the queue is in use.
-/

namespace Mangos

open Framework

/-- The part of `ACE_Message_Block` that is used: the size of the memory, and what has not been read. -/
structure MessageBlock where
  size : Nat
  data : List UInt8
  deriving DecidableEq

namespace MessageQueue

/-- The water mark that `WorldSocket` sets. -/
def highWaterMark : Nat := 8 * 1024 * 1024

/-- `is_full_i`. -/
def isFull (queue : List MessageBlock) : Bool := highWaterMark ≤ (queue.map (·.size)).sum

def enqueueTail (queue : List MessageBlock) (mb : MessageBlock) : Option (List MessageBlock) :=
  if isFull queue then none else some (queue ++ [mb])

def enqueueHead (queue : List MessageBlock) (mb : MessageBlock) : Option (List MessageBlock) :=
  if isFull queue then none else some (mb :: queue)

end MessageQueue

/-- What lies behind the output of a socket; an opcode without a value has the value 0. -/
structure OutputSettings (Crypt : Type*) where
  encryptSend : HeaderCipher Crypt
  getOpcodeValue : Nat → Nat
  outBufferSize : Nat

/-- A packet of which `SendPacket` has said that it went well, as header and payload. -/
structure SentPacket where
  hasOpcodeValue : Bool
  bytes : List UInt8

/-- The output fields of `WorldSocket`. The data of the buffer are always moved to its base. -/
structure OutputState (Crypt : Type*) where
  crypt : Crypt
  outBuffer : List UInt8
  queue : List MessageBlock
  outActive : Bool
  closing : Bool
  /-- What the network has taken. -/
  wire : List UInt8
  sent : List SentPacket

/-- What `send` returns. -/
inductive SendResult
  | bytes (n : Nat) | wouldBlock | failed
  deriving DecidableEq, Repr

/-- What `handle_output` returns: an error, that there is nothing more to do now, or that there is. -/
inductive OutputResult
  | failed | done | more
  deriving DecidableEq, Repr

namespace OutputState

variable {Crypt : Type*} (settings : OutputSettings Crypt) (s : OutputState Crypt)

def new (crypt : Crypt) : OutputState Crypt where
  crypt := crypt
  outBuffer := []
  queue := []
  outActive := false
  closing := false
  wire := []
  sent := []

def outBufferSpace : Nat := settings.outBufferSize - s.outBuffer.length

def encode (pct : WorldPacket) : List UInt8 × Crypt :=
  let header := serverPktHeader (pct.contents.length + 2) (settings.getOpcodeValue pct.opcode)
  let (header, crypt) := settings.encryptSend.update s.crypt header
  (header ++ pct.contents, crypt)

/-- `SendPacket`, with whether it returns 0. -/
def sendPacket (pct : WorldPacket) : OutputState Crypt × Bool :=
  if s.closing then (s, false)
  else if settings.getOpcodeValue pct.opcode = 0 then (s, true)
  else
    let (bytes, crypt) := s.encode settings pct
    let s := { s with crypt }
    if bytes.length ≤ s.outBufferSpace settings && s.queue.isEmpty then
      ({ s with outBuffer := s.outBuffer ++ bytes }, true)
    else
      match MessageQueue.enqueueTail s.queue { size := bytes.length, data := bytes } with
      | none => (s, false)
      | some queue => ({ s with queue }, true)

def scheduleWakeup : OutputState Crypt × OutputResult := ({ s with outActive := true }, .done)

def cancelWakeup : OutputState Crypt × OutputResult := ({ s with outActive := false }, .done)

/-- `handle_output_queue`. A block of which something is left goes back to the head of the queue; if that
fails after an attempt that would have blocked, nobody looks at it. -/
def handleOutputQueue (result : SendResult) : OutputState Crypt × OutputResult :=
  match s.queue with
  | [] => s.cancelWakeup
  | mblk :: queue =>
    match result with
    | .failed => ({ s with queue }, .failed)
    | .wouldBlock =>
      ({ s with queue := (MessageQueue.enqueueHead queue mblk).getD queue }).scheduleWakeup
    | .bytes n =>
      let s := { s with queue, wire := s.wire ++ mblk.data.take n }
      if n = 0 then (s, .failed)
      else if n < mblk.data.length then
        match MessageQueue.enqueueHead queue { mblk with data := mblk.data.drop n } with
        | none => (s, .failed)
        | some queue => ({ s with queue }).scheduleWakeup
      else if queue.isEmpty then s.cancelWakeup
      else (s, .more)

/-- `handle_output`, with what `send` says of the buffer and of the first block of the queue if they
are sent. -/
def handleOutput (buffer queue : SendResult) : OutputState Crypt × OutputResult :=
  if s.closing then (s, .failed)
  else if s.outBuffer.isEmpty then s.handleOutputQueue queue
  else
    match buffer with
    | .failed => (s, .failed)
    | .wouldBlock => s.scheduleWakeup
    | .bytes n =>
      let wire := s.wire ++ s.outBuffer.take n
      if n = 0 then (s, .failed)
      else if n < s.outBuffer.length then
        ({ s with wire, outBuffer := s.outBuffer.drop n }).scheduleWakeup
      else ({ s with wire, outBuffer := [] }).handleOutputQueue queue

end OutputState

/-- What happens under the lock of the output. `Update` is one `handle_output` after the other. -/
inductive OutputEvent
  | sendPacket (pct : WorldPacket)
  | handleOutput (buffer queue : SendResult)
  | closeSocket

/-- One step of the output; after an error the caller closes the socket. -/
def outputStep {Crypt : Type*} (settings : OutputSettings Crypt) (s : OutputState Crypt) :
    OutputEvent → OutputState Crypt
  | .sendPacket pct =>
    match s.sendPacket settings pct with
    | (s', false) => s'
    | (s', true) =>
      { s' with
        sent := s'.sent ++ [{
          hasOpcodeValue := settings.getOpcodeValue pct.opcode ≠ 0
          bytes := (s.encode settings pct).1 }] }
  | .handleOutput buffer queue =>
    match s.handleOutput buffer queue with
    | (s, .failed) => { s with closing := true }
    | (s, _) => s
  | .closeSocket => { s with closing := true }

end Mangos
