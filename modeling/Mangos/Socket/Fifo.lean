import Mangos.Socket.Output

/-!
# The output is a FIFO

The buffer and the queue together hold what has been sent and is not yet on the wire, in order.
-/

namespace Mangos

open Framework

namespace OutputState

variable {Crypt : Type*} (s : OutputState Crypt)

def held : List UInt8 := s.outBuffer ++ s.queue.flatMap (·.data)

/-- The wire carries the first bytes of `stream`, and the rest of them are held. -/
structure Fifo (stream : List UInt8) : Prop where
  wire : s.wire <+: stream
  held : s.wire ++ s.held = stream

/-- The packets of which `SendPacket` has said that it went well. -/
def successful : List UInt8 := s.sent.flatMap (·.bytes)

def successfulWithValue : List UInt8 := (s.sent.filter (·.hasOpcodeValue)).flatMap (·.bytes)

/-- Whether `handle_output` comes to the queue. -/
def reachesQueue : SendResult → Bool
  | .bytes n => s.outBuffer.length ≤ n
  | .wouldBlock | .failed => s.outBuffer.isEmpty

def leavesSome (mblk : MessageBlock) : SendResult → Bool
  | .bytes n => n < mblk.data.length
  | .wouldBlock | .failed => true

def putsBack (buffer queue : SendResult) : Bool :=
  match s.queue with
  | [] => true
  | mblk :: rest =>
    !(s.reachesQueue buffer && leavesSome mblk queue) || !MessageQueue.isFull rest

end OutputState

def SendResult.Succeeds (result : SendResult) : Prop := result ≠ .failed ∧ result ≠ .bytes 0

instance (result : SendResult) : Decidable result.Succeeds := inferInstanceAs (Decidable (_ ∧ _))

/-- Sends are partial or would block, and blocks can be put back. -/
def KeepsBlocks {Crypt : Type*} (s : OutputState Crypt) : OutputEvent → Prop
  | .handleOutput buffer queue => buffer.Succeeds ∧ queue.Succeeds ∧ s.putsBack buffer queue = true
  | .sendPacket _ | .closeSocket => True

instance {Crypt : Type*} (s : OutputState Crypt) : ∀ e, Decidable (KeepsBlocks s e)
  | .handleOutput .. => inferInstanceAs (Decidable (_ ∧ _ ∧ _))
  | .sendPacket _ | .closeSocket => .isTrue trivial

namespace OutputState

variable {Crypt : Type*} {settings : OutputSettings Crypt} {s : OutputState Crypt}

def stream (s : OutputState Crypt) : List UInt8 := s.wire ++ s.held

theorem stream_eq (s : OutputState Crypt) : s.stream = s.wire ++ s.outBuffer ++ s.queue.flatMap (·.data) := by
  rw [stream, held, List.append_assoc]

theorem sendPacket_stream (pct : WorldPacket) : (s.sendPacket settings pct).1.sent = s.sent ∧
      (s.sendPacket settings pct).1.stream = s.stream ++
        if (s.sendPacket settings pct).2 = true ∧ settings.getOpcodeValue pct.opcode ≠ 0 then
          (s.encode settings pct).1 else [] := by
  rw [sendPacket]
  split
  next => exact ⟨rfl, (List.append_nil _).symm⟩
  split
  next hvalue =>
    refine ⟨rfl, ?_⟩
    rw [if_neg (fun h => h.2 hvalue), List.append_nil]
  next hvalue =>
    dsimp only
    split
    next hroom =>
      have hempty : s.queue = [] := by
        rw [Bool.and_eq_true, List.isEmpty_iff] at hroom
        exact hroom.2
      refine ⟨rfl, ?_⟩
      rw [if_pos ⟨rfl, hvalue⟩, stream_eq, stream_eq, hempty, List.flatMap_nil, List.append_nil,
        List.append_nil, List.append_assoc]
    next =>
      cases hqueue : MessageQueue.enqueueTail s.queue
        { size := (s.encode settings pct).1.length, data := (s.encode settings pct).1 } with
      | none =>
        refine ⟨rfl, ?_⟩
        rw [if_neg (fun h => nomatch h.1), List.append_nil]
        rfl
      | some queue =>
        rw [MessageQueue.enqueueTail] at hqueue
        split at hqueue
        · cases hqueue
        · cases hqueue
          refine ⟨rfl, ?_⟩
          rw [if_pos ⟨rfl, hvalue⟩, stream_eq, stream_eq]
          dsimp only
          rw [List.flatMap_append, List.flatMap_cons, List.flatMap_nil, List.append_nil,
            List.append_assoc, List.append_assoc, List.append_assoc]

theorem enqueueHead_of_not_isFull {queue : List MessageBlock} (mblk : MessageBlock)
    (h : MessageQueue.isFull queue = false) : MessageQueue.enqueueHead queue mblk = some (mblk :: queue) := by
  rw [MessageQueue.enqueueHead, h]
  rfl

theorem handleOutputQueue_stream (hempty : s.outBuffer = []) {result : SendResult} (hsucceeds : result.Succeeds)
    (hput : ∀ mblk rest, s.queue = mblk :: rest → leavesSome mblk result = true →
      MessageQueue.isFull rest = false) : (s.handleOutputQueue result).1.stream = s.stream := by
  rw [handleOutputQueue]
  split
  next => rfl
  next mblk queue hqueue =>
    have hstream : s.stream = s.wire ++ (mblk.data ++ queue.flatMap (·.data)) := by
      rw [stream_eq, hempty, hqueue, List.append_nil, List.flatMap_cons]
    cases result with
    | failed => exact absurd rfl hsucceeds.1
    | wouldBlock =>
      rw [enqueueHead_of_not_isFull mblk (hput mblk queue hqueue rfl), hstream]
      show s.wire ++ (s.outBuffer ++ (mblk :: queue).flatMap (·.data)) = _
      rw [hempty]
      rfl
    | bytes n =>
      have hpos : n ≠ 0 := fun hzero => hsucceeds.2 (congrArg SendResult.bytes hzero)
      dsimp only
      rw [if_neg hpos]
      by_cases hpart : n < mblk.data.length
      · have hspace := hput mblk queue hqueue (decide_eq_true hpart)
        rw [if_pos hpart, enqueueHead_of_not_isFull _ hspace, hstream]
        show s.wire ++ mblk.data.take n ++ (s.outBuffer ++ (mblk.data.drop n ++ queue.flatMap (·.data))) = _
        rw [hempty, List.nil_append, List.append_assoc, ← List.append_assoc (mblk.data.take n), List.take_append_drop]
      · have hrest : s.wire ++ mblk.data.take n ++ (s.outBuffer ++ queue.flatMap (·.data)) = s.stream := by
          rw [List.take_of_length_le (not_lt.mp hpart), hstream, hempty, List.nil_append, List.append_assoc]
        rw [if_neg hpart]
        split
        · exact hrest
        · exact hrest

theorem handleOutput_stream {buffer queue : SendResult} (hbuffer : buffer.Succeeds)
    (hqueue : queue.Succeeds) (hput : s.putsBack buffer queue = true) :
    (s.handleOutput buffer queue).1.stream = s.stream := by
  have hqueueStream : ∀ s' : OutputState Crypt, s'.queue = s.queue → s'.outBuffer = [] →
      s.reachesQueue buffer = true → (s'.handleOutputQueue queue).1.stream = s'.stream := by
    intro s' hsame hempty hreaches
    apply handleOutputQueue_stream hempty hqueue
    intro mblk rest hmblk hleaves
    rw [putsBack, ← hsame, hmblk] at hput
    dsimp only at hput
    rw [hreaches, hleaves] at hput
    simpa using hput
  rw [handleOutput.eq_def]
  split
  next => rfl
  split
  next hnil =>
    have hempty : s.outBuffer = [] := List.isEmpty_iff.mp hnil
    apply hqueueStream s rfl hempty
    cases buffer with
    | bytes n =>
      rw [reachesQueue, hempty]
      rfl
    | wouldBlock => exact hnil
    | failed => exact hnil
  next =>
    cases buffer with
    | failed => exact absurd rfl hbuffer.1
    | wouldBlock => rfl
    | bytes n =>
      have hpos : n ≠ 0 := fun hzero => hbuffer.2 (congrArg SendResult.bytes hzero)
      dsimp only
      rw [if_neg hpos]
      split
      next hpart =>
        show s.wire ++ s.outBuffer.take n ++ (s.outBuffer.drop n ++ s.queue.flatMap (·.data)) = _
        rw [stream_eq, List.append_assoc, ← List.append_assoc (s.outBuffer.take n),
          List.take_append_drop, List.append_assoc]
      next hwhole =>
        apply (hqueueStream { s with wire := s.wire ++ s.outBuffer.take n, outBuffer := [] } rfl rfl
          (decide_eq_true (not_lt.mp hwhole))).trans
        rw [stream_eq, stream_eq, List.append_nil, List.take_of_length_le (not_lt.mp hwhole)]

theorem handleOutput_sent (buffer queue : SendResult) : (s.handleOutput buffer queue).1.sent = s.sent := by
  have hqueue : ∀ s : OutputState Crypt, (s.handleOutputQueue queue).1.sent = s.sent := by
    intro s
    rw [handleOutputQueue]
    split
    · rfl
    · split
      · rfl
      · rfl
      · dsimp only
        split
        · rfl
        split
        · split <;> rfl
        · split <;> rfl
  rw [handleOutput.eq_def]
  split
  · rfl
  split
  · exact hqueue s
  · split
    · rfl
    · rfl
    · dsimp only
      split
      · rfl
      split
      · rfl
      · exact hqueue _

theorem stream_outputStep {e : OutputEvent} (hok : KeepsBlocks s e) (h : s.stream = s.successfulWithValue) :
    (outputStep settings s e).stream = (outputStep settings s e).successfulWithValue := by
  cases e with
  | sendPacket pct =>
    obtain ⟨hsent, hstream⟩ := @sendPacket_stream _ settings s pct
    rw [outputStep]
    rcases hsend : s.sendPacket settings pct with ⟨s', _ | _⟩
    · rw [hsend] at hsent hstream
      dsimp only at hsent hstream ⊢
      rw [hstream, if_neg (fun hf => nomatch hf.1), List.append_nil, h, successfulWithValue,
        successfulWithValue, hsent]
    · rw [hsend] at hsent hstream
      dsimp only at hsent hstream ⊢
      show s'.stream = ((s'.sent ++ [_]).filter _).flatMap _
      rw [hstream, h, successfulWithValue, hsent, List.filter_append, List.flatMap_append]
      by_cases hvalue : settings.getOpcodeValue pct.opcode = 0
      · simp [hvalue]
      · simp [hvalue]
  | handleOutput buffer queue =>
    obtain ⟨hbuffer, hqueue, hput⟩ := hok
    have hstream := handleOutput_stream hbuffer hqueue hput
    have hsent := handleOutput_sent (s := s) buffer queue
    have hkept : (s.handleOutput buffer queue).1.stream =
        (s.handleOutput buffer queue).1.successfulWithValue := by
      rw [hstream, h, successfulWithValue, successfulWithValue, hsent]
    rw [outputStep]
    rcases hout : s.handleOutput buffer queue with ⟨s', _ | _ | _⟩
    all_goals
      rw [hout] at hkept
      exact hkept
  | closeSocket => exact h

end OutputState

/-- If every block that is put back finds the queue below its water mark, the wire carries a prefix of all packets
with an opcode value of which `SendPacket` has said that they went well, and the rest is held. -/
theorem output_fifo {Crypt : Type*} (settings : OutputSettings Crypt) (crypt : Crypt)
    (es : List OutputEvent) (hok : Guarded (outputStep settings) KeepsBlocks (.new crypt) es) :
    (run (outputStep settings) (.new crypt) es).Fifo
      (run (outputStep settings) (.new crypt) es).successfulWithValue := by
  have hstep : ∀ (s : OutputState Crypt) (e : OutputEvent), KeepsBlocks s e →
      s.stream = s.successfulWithValue →
      (outputStep settings s e).stream = (outputStep settings s e).successfulWithValue :=
    fun _ _ hkeeps h => OutputState.stream_outputStep hkeeps h
  have hstream : (run (outputStep settings) (.new crypt) es).stream =
      (run (outputStep settings) (.new crypt) es).successfulWithValue :=
    run_invariant hstep hok rfl
  exact ⟨⟨_, hstream⟩, hstream⟩

/-- A buffer of eight bytes, and one opcode that has no value. -/
private def smallOutput : OutputSettings Unit where
  encryptSend := .plain Unit
  getOpcodeValue opcode := opcode
  outBufferSize := 8

theorem output_fifo_partial : (run (outputStep smallOutput) (.new ()) [.sendPacket ⟨1, [5, 6]⟩, .sendPacket ⟨2, [7]⟩,
      .handleOutput (.bytes 4) .wouldBlock, .handleOutput (.bytes 2) (.bytes 3), .sendPacket ⟨3, []⟩]).Fifo
    (run (outputStep smallOutput) (.new ()) [.sendPacket ⟨1, [5, 6]⟩, .sendPacket ⟨2, [7]⟩,
      .handleOutput (.bytes 4) .wouldBlock, .handleOutput (.bytes 2) (.bytes 3),
      .sendPacket ⟨3, []⟩]).successfulWithValue :=
  output_fifo smallOutput () _ (by decide +kernel)

/-- A packet whose opcode has no value is not sent, although `SendPacket` says that it went well. -/
theorem output_withoutOpcodeValue : ¬ ∀ (settings : OutputSettings Unit) (crypt : Unit) (es : List OutputEvent),
      Guarded (outputStep settings) KeepsBlocks (.new crypt) es → (run (outputStep settings) (.new crypt) es).Fifo
        (run (outputStep settings) (.new crypt) es).successful := by
  intro h
  have hheld := (h smallOutput () [.sendPacket ⟨0, [5]⟩] (by decide)).held
  exact absurd hheld (by decide)

end Mangos
