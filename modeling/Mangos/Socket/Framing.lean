import Mangos.Socket.Input
import Mathlib.Data.List.Induction
import Mathlib.Order.Nat

/-!
# Framing does not depend on chunks

What a chunk does is what its bytes do one after the other.
-/

namespace Mangos

open Framework

namespace InputState

variable {Conn : Type*} (settings : InputSettings Conn) (s : InputState Conn)

def completePayload : InputState Conn :=
  match s.handleInputPayload settings with
  | (s, true) => s
  | (s, false) => { s with closing := true }

def completeHeader : InputState Conn :=
  match s.handleInputHeader settings with
  | (s, true) => if 0 < s.recvPctSpace then s else s.completePayload settings
  | (s, false) => { s with closing := true }

def feed (byte : UInt8) : InputState Conn :=
  if s.closing then s
  else if 0 < s.headerSpace then
    let s := { s with header := s.header ++ [byte] }
    if 0 < s.headerSpace then s else s.completeHeader settings
  else
    let s := { s with recvPct := s.recvPct ++ [byte] }
    if 0 < s.recvPctSpace then s else s.completePayload settings

/-- Between two bytes an open socket waits for the rest of a header, with no packet at hand, or for the rest of a
payload, as the handlers assert. -/
def Framed (s : InputState Conn) : Prop :=
  s.closing = false → (0 < s.headerSpace ∧ s.recvWPct = none ∧ s.recvPct = [] ∧ s.recvPctSize = 0) ∨
    (s.header.length = clientHeaderSize ∧ s.recvWPct.isSome ∧ 0 < s.recvPctSpace)

variable {settings s}

theorem Idle.framed (h : s.Idle) : s.Framed := by
  intro _
  refine .inl ⟨?_, h.recvWPct, h.recvPct, h.recvPctSize⟩
  rw [headerSpace, h.header]
  exact Nat.succ_pos 5

theorem framed_completePayload : (s.completePayload settings).Framed := by
  rw [completePayload]
  split
  next hpayload =>
    have hidle := handleInputPayload_idle (congrArg Prod.snd hpayload)
    rw [hpayload] at hidle
    exact hidle.framed
  next => exact fun hopen => nomatch hopen

theorem handleInputHeader_opens (hempty : s.recvPct = []) (h : (s.handleInputHeader settings).2 = true) :
    (s.handleInputHeader settings).1.header.length = s.header.length ∧
      (s.handleInputHeader settings).1.recvWPct.isSome ∧ (s.handleInputHeader settings).1.recvPct = [] := by
  rw [handleInputHeader] at h ⊢
  dsimp only at h ⊢
  have hlength := settings.decryptRecv.length_update s.conn s.header
  split at h
  · cases h
  next hvalid =>
    rw [if_neg hvalid]
    split
    · exact ⟨hlength, rfl, rfl⟩
    · exact ⟨hlength, rfl, hempty⟩

theorem framed_completeHeader (hlength : s.header.length = clientHeaderSize)
    (hempty : s.recvPct = []) : (s.completeHeader settings).Framed := by
  rw [InputState.completeHeader]
  split
  next s' hheader =>
    have hopens := handleInputHeader_opens hempty (congrArg Prod.snd hheader)
    rw [hheader] at hopens
    split
    next hspace => exact fun _ => .inr ⟨hopens.1.trans hlength, hopens.2.1, hspace⟩
    next => exact framed_completePayload
  next => exact fun hopen => nomatch hopen

theorem Framed.feed (h : s.Framed) (byte : UInt8) : (s.feed settings byte).Framed := by
  rw [InputState.feed]
  split
  · exact h
  next hopen =>
    rw [Bool.not_eq_true] at hopen
    rcases h hopen with ⟨hspace, hnone, hempty, hsize⟩ | ⟨hlength, hsome, hspace⟩
    · rw [if_pos hspace]
      dsimp only
      split
      next hspace' => exact fun _ => .inl ⟨hspace', hnone, hempty, hsize⟩
      next hfull =>
        have hlength : (s.header ++ [byte]).length = clientHeaderSize := by
          rw [headerSpace, clientHeaderSize] at hspace hfull
          dsimp only at hfull
          rw [List.length_append, List.length_singleton] at hfull ⊢
          rw [clientHeaderSize]
          omega
        exact framed_completeHeader (s := { s with header := s.header ++ [byte] }) hlength hempty
    · have hfull : ¬ 0 < s.headerSpace := by
        rw [headerSpace, hlength, Nat.sub_self]
        exact lt_irrefl 0
      rw [if_neg hfull]
      dsimp only
      split
      next hspace' => exact fun _ => .inr ⟨hlength, hsome, hspace'⟩
      next => exact framed_completePayload

theorem foldl_feed_closing (h : s.closing = true) (bytes : List UInt8) : bytes.foldl (feed settings) s = s := by
  induction bytes with
  | nil => rfl
  | cons byte bytes ih => rw [List.foldl_cons, feed, if_pos h, ih]

theorem foldl_feed_header (hopen : s.closing = false) {bytes : List UInt8} (h : bytes.length < s.headerSpace) :
    bytes.foldl (feed settings) s = { s with header := s.header ++ bytes } := by
  induction bytes using List.reverseRecOn with
  | nil => rw [List.foldl_nil, List.append_nil]
  | append_singleton bytes byte ih =>
    rw [List.length_append, List.length_singleton] at h
    rw [List.foldl_append, ih (Nat.lt_of_succ_lt h), List.foldl_cons, List.foldl_nil, feed,
      if_neg (by rw [hopen]; exact Bool.false_ne_true)]
    rw [headerSpace] at h
    have hspace : 0 < headerSpace { s with header := s.header ++ bytes } := by
      rw [headerSpace, List.length_append]
      omega
    have hspace' : 0 < headerSpace { s with header := s.header ++ bytes ++ [byte] } := by
      rw [headerSpace, List.length_append, List.length_append, List.length_singleton]
      omega
    rw [if_pos hspace]
    dsimp only
    rw [if_pos hspace', List.append_assoc]

theorem foldl_feed_headerFull (hopen : s.closing = false) {bytes : List UInt8}
    (hpos : 0 < s.headerSpace) (h : bytes.length = s.headerSpace) : bytes.foldl (feed settings) s =
      completeHeader settings { s with header := s.header ++ bytes } := by
  have hne : bytes ≠ [] := by
    rw [← List.length_pos_iff, h]
    exact hpos
  obtain ⟨first, last, hsplit⟩ : ∃ first last, bytes = first ++ [last] :=
    ⟨_, _, (List.dropLast_append_getLast hne).symm⟩
  rw [hsplit, List.length_append, List.length_singleton] at h
  rw [hsplit, List.foldl_append, foldl_feed_header hopen (Nat.lt_of_succ_le h.le), List.foldl_cons,
    List.foldl_nil, feed, if_neg (by rw [hopen]; exact Bool.false_ne_true)]
  rw [headerSpace] at h
  have hspace : 0 < headerSpace { s with header := s.header ++ first } := by
    rw [headerSpace, List.length_append]
    omega
  have hfull : ¬ 0 < headerSpace { s with header := s.header ++ first ++ [last] } := by
    rw [headerSpace, List.length_append, List.length_append, List.length_singleton]
    omega
  rw [if_pos hspace]
  dsimp only
  rw [if_neg hfull, List.append_assoc]

theorem foldl_feed_payload (hopen : s.closing = false) (hheader : s.headerSpace = 0)
    {bytes : List UInt8} (h : bytes.length < s.recvPctSpace) :
    bytes.foldl (feed settings) s = { s with recvPct := s.recvPct ++ bytes } := by
  induction bytes using List.reverseRecOn with
  | nil => rw [List.foldl_nil, List.append_nil]
  | append_singleton bytes byte ih =>
    rw [List.length_append, List.length_singleton] at h
    rw [List.foldl_append, ih (Nat.lt_of_succ_lt h), List.foldl_cons, List.foldl_nil, feed,
      if_neg (by rw [hopen]; exact Bool.false_ne_true)]
    rw [recvPctSpace] at h
    have hfull : ¬ 0 < headerSpace { s with recvPct := s.recvPct ++ bytes } := by
      show ¬ 0 < s.headerSpace
      rw [hheader]
      exact lt_irrefl 0
    have hspace : 0 < recvPctSpace { s with recvPct := s.recvPct ++ bytes ++ [byte] } := by
      rw [recvPctSpace, List.length_append, List.length_append, List.length_singleton]
      dsimp only
      omega
    rw [if_neg hfull]
    dsimp only
    rw [if_pos hspace, List.append_assoc]

theorem foldl_feed_payloadFull (hopen : s.closing = false) (hheader : s.headerSpace = 0)
    {bytes : List UInt8} (hpos : 0 < s.recvPctSpace) (h : bytes.length = s.recvPctSpace) :
    bytes.foldl (feed settings) s = completePayload settings { s with recvPct := s.recvPct ++ bytes } := by
  have hne : bytes ≠ [] := by
    rw [← List.length_pos_iff, h]
    exact hpos
  obtain ⟨first, last, hsplit⟩ : ∃ first last, bytes = first ++ [last] :=
    ⟨_, _, (List.dropLast_append_getLast hne).symm⟩
  rw [hsplit, List.length_append, List.length_singleton] at h
  rw [hsplit, List.foldl_append, foldl_feed_payload hopen hheader (Nat.lt_of_succ_le h.le),
    List.foldl_cons, List.foldl_nil, feed, if_neg (by rw [hopen]; exact Bool.false_ne_true)]
  rw [recvPctSpace] at h
  have hfull : ¬ 0 < headerSpace { s with recvPct := s.recvPct ++ first } := by
    show ¬ 0 < s.headerSpace
    rw [hheader]
    exact lt_irrefl 0
  have hcomplete : ¬ 0 < recvPctSpace { s with recvPct := s.recvPct ++ first ++ [last] } := by
    rw [recvPctSpace, List.length_append, List.length_append, List.length_singleton]
    dsimp only
    omega
  rw [if_neg hfull]
  dsimp only
  rw [if_neg hcomplete, List.append_assoc]

/-- What `handle_input` makes of an error. -/
def settle (s : InputState Conn) : Option InputErrno → InputState Conn
  | some .invalid => { s with closing := true }
  | some .wouldBlock | none => s

theorem handleInput_eq (hopen : s.closing = false) (chunk : List UInt8) : s.handleInput settings chunk =
      settle (s.receiveLoop settings chunk).1 (s.receiveLoop settings chunk).2 := by
  rw [handleInput, if_neg (by rw [hopen]; exact Bool.false_ne_true), handleInputMissingData]
  rcases s.receiveLoop settings chunk with ⟨s', _ | errno⟩
  · by_cases hfull : chunk.length = recvSize
    · rw [if_pos hfull]
      rfl
    · rw [if_neg hfull]
      rfl
  · cases errno <;> rfl

def resume (settings : InputSettings Conn) :
    InputState Conn × List UInt8 × Option InputErrno → InputState Conn
  | (s, _, some errno) => settle s (some errno)
  | (s, bytes, none) => bytes.foldl (feed settings) s

theorem resume_receivePayload (hopen : s.closing = false) (hheader : s.headerSpace = 0)
    (hsome : s.recvWPct.isSome) (bytes : List UInt8) : resume settings (s.receivePayload settings bytes) =
      if 0 < s.recvPctSpace then bytes.foldl (feed settings) s
      else bytes.foldl (feed settings) (s.completePayload settings) := by
  have hcomplete : ∀ (s : InputState Conn) (bytes : List UInt8), resume settings
      (match s.handleInputPayload settings with
        | (s, true) => (s, bytes, none)
        | (s, false) => (s, bytes, some .invalid)) = bytes.foldl (feed settings) (s.completePayload settings) := by
    intro s bytes
    rw [completePayload]
    rcases s.handleInputPayload settings with ⟨s', _ | _⟩
    · exact (foldl_feed_closing rfl bytes).symm
    · rfl
  have hthere : ¬ s.recvWPct.isNone = true := by
    rw [Option.isNone_iff_eq_none, ← Option.not_isSome_iff_eq_none, not_not]
    exact hsome
  rw [receivePayload, if_neg hthere]
  dsimp only
  have hleft : recvPctSpace { s with recvPct := s.recvPct ++ bytes.take s.recvPctSpace } =
      s.recvPctSpace - bytes.length := by
    rw [recvPctSpace, recvPctSpace, List.length_append, List.length_take]
    dsimp only
    omega
  rw [hleft]
  by_cases hshort : bytes.length < s.recvPctSpace
  · have hspace : 0 < s.recvPctSpace - bytes.length := Nat.sub_pos_of_lt hshort
    rw [if_pos hspace, if_pos (Nat.zero_lt_of_lt hshort), List.take_of_length_le hshort.le,
      foldl_feed_payload hopen hheader hshort]
    rfl
  · have hspace : ¬ 0 < s.recvPctSpace - bytes.length := by omega
    rw [if_neg hspace]
    apply (hcomplete _ _).trans
    split
    next hpos =>
      have hlength : (bytes.take s.recvPctSpace).length = s.recvPctSpace := by
        rw [List.length_take]
        omega
      rw [← foldl_feed_payloadFull hopen hheader hpos hlength, ← List.foldl_append, List.take_append_drop]
    next hzero =>
      have hnone : s.recvPctSpace = 0 := Nat.eq_zero_of_not_pos hzero
      rw [hnone, List.take_zero, List.append_nil, List.drop_zero]

theorem resume_receiveTurn (h : s.Framed) (hopen : s.closing = false) (bytes : List UInt8) :
    resume settings (s.receiveTurn settings bytes) = bytes.foldl (feed settings) s := by
  rw [receiveTurn]
  rcases h hopen with ⟨hspace, hnone, hempty, hsize⟩ | ⟨hlength, hsome, hpos⟩
  · rw [if_pos hspace]
    dsimp only
    have hleft : headerSpace { s with header := s.header ++ bytes.take s.headerSpace } =
        s.headerSpace - bytes.length := by
      rw [headerSpace, headerSpace, List.length_append, List.length_take]
      omega
    rw [hleft]
    by_cases hshort : bytes.length < s.headerSpace
    · rw [if_pos (Nat.sub_pos_of_lt hshort), List.take_of_length_le hshort.le, foldl_feed_header hopen hshort]
      rfl
    · have htake : (bytes.take s.headerSpace).length = s.headerSpace := by
        rw [List.length_take]
        omega
      have hfeed : bytes.foldl (feed settings) s = (bytes.drop s.headerSpace).foldl (feed settings)
          (completeHeader settings { s with header := s.header ++ bytes.take s.headerSpace }) := by
        rw [← foldl_feed_headerFull hopen hspace htake, ← List.foldl_append, List.take_append_drop]
      have hheader : (s.header ++ bytes.take s.headerSpace).length = clientHeaderSize := by
        rw [List.length_append, htake, headerSpace]
        rw [headerSpace] at hspace
        omega
      rw [if_neg (by omega), hfeed, completeHeader]
      rcases hvalid : handleInputHeader settings { s with header := s.header ++ bytes.take s.headerSpace }
        with ⟨s', _ | _⟩
      · exact (foldl_feed_closing rfl _).symm
      · have hopens := handleInputHeader_opens
          (s := { s with header := s.header ++ bytes.take s.headerSpace }) hempty
          (congrArg Prod.snd hvalid)
        have hclosing := congrArg (fun p => p.1.closing) hvalid
        rw [handleInputHeader_closing] at hclosing
        rw [hvalid] at hopens
        have hfull : s'.headerSpace = 0 := by
          rw [headerSpace, hopens.1]
          dsimp only
          rw [hheader, Nat.sub_self]
        rw [resume_receivePayload (hclosing.symm.trans hopen) hfull hopens.2.1]
        dsimp only
        split <;> rfl
  · have hfull : s.headerSpace = 0 := by rw [headerSpace, hlength, Nat.sub_self]
    rw [if_neg (by omega), resume_receivePayload hopen hfull hsome, if_pos hpos]

theorem settle_receiveLoop (h : s.Framed) (hopen : s.closing = false) (bytes : List UInt8) :
    settle (s.receiveLoop settings bytes).1 (s.receiveLoop settings bytes).2 = bytes.foldl (feed settings) s := by
  induction s, bytes using receiveLoop.induct settings with
  | case1 s =>
    rw [receiveLoop, dif_pos rfl]
    rfl
  | case2 s bytes hne s' rest errno hturn =>
    have hresume := @resume_receiveTurn _ settings _ h hopen bytes
    rw [hturn] at hresume
    rw [receiveLoop, dif_neg hne]
    split
    next hturn' =>
      cases hturn.symm.trans hturn'
      exact hresume
    next hturn' => cases hturn.symm.trans hturn'
  | case3 s bytes hne s' rest hturn ih =>
    have hresume := @resume_receiveTurn _ settings _ h hopen bytes
    obtain ⟨hidle, hclosing, -⟩ := receiveTurn_next hturn
    rw [hturn] at hresume
    rw [receiveLoop, dif_neg hne]
    split
    next hturn' => cases hturn.symm.trans hturn'
    next hturn' =>
      cases hturn.symm.trans hturn'
      rw [ih hidle.framed (hclosing.trans hopen)]
      exact hresume

theorem handleInput_eq_foldl (h : s.Framed) (chunk : List UInt8) :
    s.handleInput settings chunk = chunk.foldl (feed settings) s := by
  cases hopen : s.closing with
  | false => rw [handleInput_eq hopen, settle_receiveLoop h hopen]
  | true => rw [handleInput, if_pos hopen, foldl_feed_closing hopen]

theorem foldl_handleInput (h : s.Framed) (chunks : List (List UInt8)) :
    chunks.foldl (handleInput settings) s = s.handleInput settings chunks.flatten :=
  foldl_receive_eq (fun _ byte hframed => hframed.feed byte)
    (fun _ chunk hframed => handleInput_eq_foldl hframed chunk) h chunks

end InputState

/-- A packet as the client sends it, with the encrypted header. -/
structure ClientPacket where
  header : List UInt8
  payload : List UInt8
  header_length : header.length = clientHeaderSize

namespace ClientPacket

variable {Conn : Type*} (settings : InputSettings Conn) (conn : Conn) (p : ClientPacket)

def bytes : List UInt8 := p.header ++ p.payload

def read : ClientPktHeader := .read (settings.decryptRecv.update conn p.header).1

def WellFormed : Prop :=
  (p.read settings conn).Valid ∧ (p.read settings conn).payloadSize = p.payload.length

instance : Decidable (p.WellFormed settings conn) := inferInstanceAs (Decidable (_ ∧ _))

def packet : WorldPacket where
  opcode := settings.getOpcode (p.read settings conn).opcodeValue
  contents := p.payload

/-- Whether `ProcessIncoming` accepts the packet, and the connection after it. -/
def outcome : Bool × Conn :=
  settings.processIncoming (settings.decryptRecv.update conn p.header).2 (p.packet settings conn)

end ClientPacket

section Streams

variable {Conn : Type*} (settings : InputSettings Conn)

/-- Each packet is well-formed for the connection as the packets before it leave it. -/
def WellFormedStream : Conn → List ClientPacket → Prop
  | _, [] => True
  | conn, p :: ps => p.WellFormed settings conn ∧ WellFormedStream (p.outcome settings conn).2 ps

def WellFormedStream.decidable : ∀ conn ps, Decidable (WellFormedStream settings conn ps)
  | _, [] => .isTrue trivial
  | conn, p :: ps =>
    @instDecidableAnd _ _ (inferInstance : Decidable (p.WellFormed settings conn))
      (WellFormedStream.decidable (p.outcome settings conn).2 ps)

instance (conn : Conn) (ps : List ClientPacket) : Decidable (WellFormedStream settings conn ps) :=
  WellFormedStream.decidable settings conn ps

def deliveries : Conn → List ClientPacket → List WorldPacket
  | _, [] => []
  | conn, p :: ps =>
    p.packet settings conn ::
      if (p.outcome settings conn).1 then deliveries (p.outcome settings conn).2 ps else []

def allAccepted : Conn → List ClientPacket → Bool
  | _, [] => true
  | conn, p :: ps => (p.outcome settings conn).1 && allAccepted (p.outcome settings conn).2 ps

def connAfter : Conn → List ClientPacket → Conn
  | conn, [] => conn
  | conn, p :: ps => connAfter (p.outcome settings conn).2 ps

def frontHeader (conn : Conn) (tail : List UInt8) : ClientPktHeader :=
  .read (settings.decryptRecv.update conn (tail.take clientHeaderSize)).1

/-- A part of a packet: not all of the header, or a valid header but not all of the payload. -/
def IncompletePacket (conn : Conn) (tail : List UInt8) : Prop :=
  tail.length < clientHeaderSize ∨ ((frontHeader settings conn tail).Valid ∧
      tail.length - clientHeaderSize < (frontHeader settings conn tail).payloadSize)

instance (conn : Conn) (tail : List UInt8) : Decidable (IncompletePacket settings conn tail) :=
  inferInstanceAs (Decidable (_ ∨ _))

end Streams

namespace InputState

variable {Conn : Type*} {settings : InputSettings Conn} {s : InputState Conn} {conn : Conn}

/-- These bytes, and no others, are kept: in the buffer for the header, or behind a decrypted header in
the buffer for the payload of the packet that it has opened. -/
def Holds (settings : InputSettings Conn) (conn : Conn) (tail : List UInt8) (s : InputState Conn) :
    Prop :=
  if tail.length < clientHeaderSize then
    s.header = tail ∧ s.recvWPct = none ∧ s.recvPct = []
  else
    s.header = (settings.decryptRecv.update conn (tail.take clientHeaderSize)).1 ∧
      s.recvWPct = some (settings.getOpcode (frontHeader settings conn tail).opcodeValue) ∧
      s.recvPctSize = (frontHeader settings conn tail).payloadSize ∧ s.recvPct = tail.drop clientHeaderSize

private def between (conn : Conn) (incoming : List WorldPacket) : InputState Conn :=
  { new conn with incoming }

private def opened (settings : InputSettings Conn) (conn : Conn) (incoming : List WorldPacket)
    (header payload : List UInt8) : InputState Conn where
  conn := (settings.decryptRecv.update conn header).2
  header := (settings.decryptRecv.update conn header).1
  recvWPct := some (settings.getOpcode
    (ClientPktHeader.read (settings.decryptRecv.update conn header).1).opcodeValue)
  recvPct := payload
  recvPctSize := (ClientPktHeader.read (settings.decryptRecv.update conn header).1).payloadSize
  incoming := incoming
  closing := false

private theorem headerSpace_opened {incoming : List WorldPacket} {header payload : List UInt8}
    (h : header.length = clientHeaderSize) : (opened settings conn incoming header payload).headerSpace = 0 := by
  have hlength : (opened settings conn incoming header payload).header.length = clientHeaderSize :=
    (settings.decryptRecv.length_update conn header).trans h
  rw [headerSpace, hlength, Nat.sub_self]

private theorem recvPctSpace_opened {incoming : List WorldPacket} {header : List UInt8} :
    (opened settings conn incoming header []).recvPctSpace =
      (ClientPktHeader.read (settings.decryptRecv.update conn header).1).payloadSize := Nat.sub_zero _

private theorem foldl_feed_between {incoming : List WorldPacket} {header : List UInt8}
    (h : header.length = clientHeaderSize)
    (hvalid : (ClientPktHeader.read (settings.decryptRecv.update conn header).1).Valid) :
    header.foldl (feed settings) (between conn incoming) =
      if 0 < (ClientPktHeader.read (settings.decryptRecv.update conn header).1).payloadSize then
        opened settings conn incoming header []
      else (opened settings conn incoming header []).completePayload settings := by
  have hheader : handleInputHeader settings { between conn incoming with header } =
      (opened settings conn incoming header [], true) := by
    rw [handleInputHeader]
    dsimp only [between, new]
    rw [if_neg (not_not.mpr hvalid)]
    split
    · rfl
    next hnone =>
      rw [opened, Nat.eq_zero_of_not_pos hnone]
  rw [foldl_feed_headerFull (s := between conn incoming) rfl (Nat.succ_pos 5) h, completeHeader]
  show (match handleInputHeader settings { between conn incoming with header } with
    | (s, true) => if 0 < s.recvPctSpace then s else s.completePayload settings
    | (s, false) => { s with closing := true }) = _
  rw [hheader]
  dsimp only
  rw [recvPctSpace_opened]

private theorem completePayload_opened {incoming : List WorldPacket} {p : ClientPacket} :
    (opened settings conn incoming p.header p.payload).completePayload settings =
      { between (p.outcome settings conn).2 (incoming ++ [p.packet settings conn]) with
        closing := !(p.outcome settings conn).1 } := by
  have hpayload : (opened settings conn incoming p.header p.payload).handleInputPayload settings =
      (between (p.outcome settings conn).2 (incoming ++ [p.packet settings conn]), (p.outcome settings conn).1) := rfl
  rw [completePayload, hpayload]
  cases (p.outcome settings conn).1 <;> rfl

theorem foldl_feed_packet {incoming : List WorldPacket} {p : ClientPacket} (h : p.WellFormed settings conn) :
    p.bytes.foldl (feed settings) (between conn incoming) =
      { between (p.outcome settings conn).2 (incoming ++ [p.packet settings conn]) with
        closing := !(p.outcome settings conn).1 } := by
  obtain ⟨hvalid, hsize⟩ := h
  rw [ClientPacket.read] at hvalid hsize
  rw [ClientPacket.bytes, List.foldl_append, foldl_feed_between p.header_length hvalid, ← completePayload_opened, hsize]
  split
  next hpos =>
    rw [foldl_feed_payloadFull rfl (headerSpace_opened p.header_length)]
    · rfl
    · rw [recvPctSpace_opened, hsize]
      exact hpos
    · rw [recvPctSpace_opened, hsize]
  next hzero =>
    have hnil : p.payload = [] := List.length_eq_zero_iff.mp (Nat.eq_zero_of_not_pos hzero)
    rw [hnil]
    rfl

theorem foldl_feed_incomplete {incoming : List WorldPacket} {tail : List UInt8}
    (h : IncompletePacket settings conn tail) : (tail.foldl (feed settings) (between conn incoming)).closing = false ∧
      (tail.foldl (feed settings) (between conn incoming)).incoming = incoming ∧
      (tail.foldl (feed settings) (between conn incoming)).Holds settings conn tail := by
  rw [Holds]
  by_cases hshort : tail.length < clientHeaderSize
  · rw [if_pos hshort, foldl_feed_header rfl hshort]
    exact ⟨rfl, rfl, rfl, rfl, rfl⟩
  · obtain ⟨hvalid, hrest⟩ := h.resolve_left hshort
    have hlength : (tail.take clientHeaderSize).length = clientHeaderSize := by
      rw [List.length_take]
      omega
    have hpos : 0 < (frontHeader settings conn tail).payloadSize := Nat.zero_lt_of_lt hrest
    have hfold : tail.foldl (feed settings) (between conn incoming) =
        opened settings conn incoming (tail.take clientHeaderSize) (tail.drop clientHeaderSize) := by
      conv_lhs => rw [← List.take_append_drop clientHeaderSize tail]
      rw [List.foldl_append, foldl_feed_between hlength hvalid]
      rw [frontHeader] at hpos hrest
      rw [if_pos hpos, foldl_feed_payload rfl (headerSpace_opened hlength)]
      · rfl
      · rw [recvPctSpace_opened, List.length_drop]
        exact hrest
    rw [if_neg hshort, hfold]
    exact ⟨rfl, rfl, rfl, rfl, rfl, rfl⟩

theorem foldl_feed_stream {ps : List ClientPacket} :
    ∀ {conn : Conn} {incoming : List WorldPacket}, WellFormedStream settings conn ps →
      ∀ {tail : List UInt8}, IncompletePacket settings (connAfter settings conn ps) tail →
        let s := (ps.flatMap ClientPacket.bytes ++ tail).foldl (feed settings)
          (between conn incoming)
        s.incoming = incoming ++ deliveries settings conn ps ∧ s.closing = !allAccepted settings conn ps ∧
          (s.closing = false → s.Holds settings (connAfter settings conn ps) tail) := by
  induction ps with
  | nil =>
    intro conn incoming _ tail htail
    obtain ⟨hopen, hincoming, hholds⟩ := @foldl_feed_incomplete _ settings conn incoming tail htail
    exact ⟨hincoming.trans (List.append_nil _).symm, hopen, fun _ => hholds⟩
  | cons p ps ih =>
    intro conn incoming h tail htail
    dsimp only
    rw [List.flatMap_cons, List.append_assoc, List.foldl_append, foldl_feed_packet h.1, deliveries, allAccepted]
    cases haccepted : (p.outcome settings conn).1 with
    | false =>
      rw [foldl_feed_closing rfl]
      exact ⟨rfl, rfl, fun hopen => nomatch hopen⟩
    | true =>
      have hrest := @ih _ (incoming ++ [p.packet settings conn]) h.2 _ htail
      rw [List.append_assoc] at hrest
      exact hrest

end InputState

/-- However a stream of well-formed packets is cut into chunks, the packets delivered and what is left pending are
those of the stream in one chunk: the packets and the bytes behind them. -/
theorem input_chunking {Conn : Type*} (settings : InputSettings Conn) (conn : Conn)
    (ps : List ClientPacket) (tail : List UInt8) (chunks : List (List UInt8))
    (hps : WellFormedStream settings conn ps) (htail : IncompletePacket settings (connAfter settings conn ps) tail)
    (hchunks : chunks.flatten = ps.flatMap ClientPacket.bytes ++ tail) :
    let s := chunks.foldl (InputState.handleInput settings) (.new conn)
    s = (InputState.new conn).handleInput settings chunks.flatten ∧
      s.incoming = deliveries settings conn ps ∧ s.closing = !allAccepted settings conn ps ∧
      (s.closing = false → s.Holds settings (connAfter settings conn ps) tail) := by
  have hnew : (InputState.new conn).Framed := InputState.Idle.framed ⟨rfl, rfl, rfl, rfl⟩
  have hwhole := @InputState.foldl_handleInput _ settings _ hnew chunks
  have hbytes := @InputState.handleInput_eq_foldl _ settings _ hnew chunks.flatten
  have hstream := @InputState.foldl_feed_stream _ settings ps conn [] hps tail htail
  rw [← hchunks] at hstream
  dsimp only
  rw [hwhole]
  refine ⟨rfl, ?_⟩
  rw [hbytes]
  exact hstream

private def plainInput : InputSettings Unit where
  decryptRecv := .plain Unit
  getOpcode cmd := cmd
  processIncoming _ _ := (true, ())

/-- A packet without payload, one with two bytes, and the first bytes of a third header. -/
theorem input_chunking_splitHeader :
    let s := [[0, 4, 1], [0, 0, 0, 0], [6, 2, 0, 0, 0, 7], [8, 0, 5]].foldl
      (InputState.handleInput plainInput) (.new ())
    s = (InputState.new ()).handleInput plainInput [0, 4, 1, 0, 0, 0, 0, 6, 2, 0, 0, 0, 7, 8, 0, 5] ∧
      s.incoming = [⟨1, []⟩, ⟨2, [7, 8]⟩] ∧ s.closing = false ∧ (s.closing = false → s.Holds plainInput () [0, 5]) :=
  input_chunking plainInput () [⟨[0, 4, 1, 0, 0, 0], [], rfl⟩, ⟨[0, 6, 2, 0, 0, 0], [7, 8], rfl⟩] [0, 5]
    [[0, 4, 1], [0, 0, 0, 0], [6, 2, 0, 0, 0, 7], [8, 0, 5]] (by decide) (by decide) (by decide)

end Mangos
