import Mangos.Framework.Records
import Mangos.Framework.Run
import Mangos.Realmd.AuthSocket

/-!
# The input of a connection to the logon server

What has arrived is looked at from its front: the first byte tells the handler, which takes the message out
of the buffer, if it is all there.
-/

namespace Mangos

open Framework

/-- The commands of `table`. -/
inductive AuthCommand
  | logonChallenge | logonProof | reconnectChallenge | reconnectProof | realmList
  | xferAccept | xferResume | xferCancel
  deriving DecidableEq, Repr

namespace AuthCommand

def ofByte (cmd : UInt8) : Option AuthCommand :=
  if cmd = 0x00 then some logonChallenge
  else if cmd = 0x01 then some logonProof
  else if cmd = 0x02 then some reconnectChallenge
  else if cmd = 0x03 then some reconnectProof
  else if cmd = 0x10 then some realmList
  else if cmd = 0x32 then some xferAccept
  else if cmd = 0x33 then some xferResume
  else if cmd = 0x34 then some xferCancel
  else none

def isChallenge (command : AuthCommand) : Bool :=
  command = logonChallenge || command = reconnectChallenge

def size : AuthCommand → Nat
  | logonProof => 75
  | reconnectProof => 58
  | realmList => 5
  | xferResume => 9
  | _ => 1

end AuthCommand

/-- What a handler does to the buffer: it waits for more, it takes the header and fails, or it takes a
message of that many bytes. -/
inductive Received
  | wait | headerOnly | message (length : Nat)
  deriving DecidableEq, Repr

/-- `sizeof(sAuthLogonChallenge_C)`. -/
def challengeSize : Nat := 35

def remainingSize (buffer : List UInt8) : Nat := ofBytes ((buffer.drop 2).take 2)

def AuthCommand.receive (command : AuthCommand) (buffer : List UInt8) : Received :=
  if command.isChallenge then
    if buffer.length < challengeSize then .wait
    else if remainingSize buffer < challengeSize - 4 ∨ buffer.length - 4 < remainingSize buffer then
      .headerOnly
    else .message (4 + remainingSize buffer)
  else if buffer.length < command.size then .wait
  else .message command.size

/-- What the handlers do with a message, and whether they go on to the next one. -/
structure AuthHandlers (Conn : Type*) where
  authed : Conn → Bool
  closed : Conn → Bool
  handle : Conn → AuthCommand → List UInt8 → Conn × Bool
  closeConnection : Conn → Conn

/-- A connection with its input. -/
structure ReadState (Conn : Type*) where
  conn : Conn
  buffer : List UInt8
  /-- The messages that were handled. -/
  processed : List (List UInt8)

namespace ReadState

variable {Conn : Type*} (handlers : AuthHandlers Conn) (s : ReadState Conn)

def new (conn : Conn) : ReadState Conn := ⟨conn, [], []⟩

/-- The handler that `table` has for a byte, if the connection may use it. -/
def findHandler (conn : Conn) (cmd : UInt8) : Option AuthCommand :=
  (AuthCommand.ofByte cmd).filter fun command => command ≠ .realmList || handlers.authed conn

/-- `MAX_AUTH_LOGON_CHALLENGES_IN_A_ROW`. -/
def maxChallenges : Nat := 3

def handleMessage (command : AuthCommand) (length : Nat) : ReadState Conn × Bool :=
  let answer := handlers.handle s.conn command (s.buffer.take length)
  ({ conn := answer.1
     buffer := s.buffer.drop length
     processed := s.processed ++ [s.buffer.take length] }, answer.2)

/-- The loop of `OnRead`, which ends at the latest when the buffer is empty. -/
def onReadLoop : Nat → ReadState Conn → Nat → ReadState Conn
  | 0, s, _ => s
  | fuel + 1, s, challengesInARow =>
    match s.buffer with
    | [] => s
    | cmd :: _ =>
      let challengesInARow := if cmd = 0x00 then challengesInARow + 1 else challengesInARow
      if cmd = 0x00 ∧ challengesInARow = maxChallenges then
        { s with conn := handlers.closeConnection s.conn }
      else match findHandler handlers s.conn cmd with
        | none => s
        | some command =>
          match command.receive s.buffer with
          | .wait => s
          | .headerOnly => { s with buffer := s.buffer.drop 4 }
          | .message length =>
            match s.handleMessage handlers command length with
            | (s, true) => onReadLoop fuel s challengesInARow
            | (s, false) => s

def onRead : ReadState Conn := onReadLoop handlers s.buffer.length s 0

/-- `BufferedSocket::handle_input` with what the network has. Nothing arrives after the connection is
closed. -/
def handleInput (chunk : List UInt8) : ReadState Conn :=
  if handlers.closed s.conn then s
  else onRead handlers { s with buffer := s.buffer ++ chunk }

end ReadState

def commandOf (message : List UInt8) : Option AuthCommand :=
  message.head?.bind AuthCommand.ofByte

/-- A message has a known command and the size that belongs to it. -/
def WellFormedMessage (message : List UInt8) : Prop :=
  ∃ command ∈ commandOf message, command.receive message = .message message.length

def IsChallenge (message : List UInt8) : Prop := ∃ command ∈ commandOf message, command.isChallenge

section Streams

variable {Conn : Type*} (handlers : AuthHandlers Conn)

/-- Every message but the last is for a handler that the connection may use, is accepted, and leaves the
connection open; so is the last for such a handler. -/
def Smooth : Conn → List (List UInt8) → Prop
  | _, [] => True
  | conn, message :: messages =>
    ∃ command ∈ commandOf message, (command = .realmList → handlers.authed conn = true) ∧
      (messages ≠ [] → (handlers.handle conn command message).2 = true ∧
        handlers.closed (handlers.handle conn command message).1 = false) ∧
      Smooth (handlers.handle conn command message).1 messages

/-- The stream asks for at most two logon challenges. -/
def FewChallenges (messages : List (List UInt8)) : Prop :=
  messages.countP (fun message => message.head? = some 0x00) < ReadState.maxChallenges

instance (messages : List (List UInt8)) : Decidable (FewChallenges messages) :=
  inferInstanceAs (Decidable (_ < _))

/-- No chunk ends in a challenge, after the size of the shortest one. -/
def ChallengesWhole (messages chunks : List (List UInt8)) : Prop :=
  ∀ before, before <+: chunks → ∀ done message rest, messages = done ++ message :: rest →
    IsChallenge message → ¬ (done.flatten.length + challengeSize ≤ before.flatten.length ∧
      before.flatten.length < done.flatten.length + message.length)

/-- The same messages are handled as when the stream arrives at once, and after each chunk the input
starts at the border of two messages. -/
structure Segmented (conn : Conn) (messages chunks : List (List UInt8)) : Prop where
  processed : (chunks.foldl (ReadState.handleInput handlers) (.new conn)).processed =
    ((ReadState.new conn).handleInput handlers messages.flatten).processed
  borders : ∀ before, before <+: chunks → AtBorder messages before.flatten
      (before.foldl (ReadState.handleInput handlers) (.new conn)).buffer

end Streams

theorem remainingSize_append {buffer : List UInt8} (h : 4 ≤ buffer.length) (more : List UInt8) :
    remainingSize (buffer ++ more) = remainingSize buffer := by
  have hdrop : 2 ≤ (buffer.drop 2).length := by
    rw [List.length_drop]
    omega
  rw [remainingSize, remainingSize, List.drop_append_of_le_length (by omega),
    List.take_append_of_le_length hdrop]

namespace AuthCommand

variable {command : AuthCommand} {message : List UInt8}

theorem receive_challenge_iff (hchallenge : command.isChallenge = true) :
    command.receive message = .message message.length ↔
      challengeSize ≤ message.length ∧ 4 + remainingSize message = message.length := by
  rw [receive, if_pos hchallenge, challengeSize]
  split
  next hshort => exact iff_of_false (fun h => nomatch h) fun h => by omega
  next hlong =>
    split
    next hbad => exact iff_of_false (fun h => nomatch h) fun h => by omega
    next => rw [Received.message.injEq]; omega

theorem receive_fixed_iff (hfixed : ¬ command.isChallenge = true) :
    command.receive message = .message message.length ↔ command.size = message.length := by
  rw [receive, if_neg hfixed]
  split
  next hshort => exact iff_of_false (fun h => nomatch h) fun h => by omega
  next => rw [Received.message.injEq]

theorem receive_append (h : command.receive message = .message message.length)
    (more : List UInt8) : command.receive (message ++ more) = .message message.length := by
  by_cases hchallenge : command.isChallenge = true
  · obtain ⟨hlong, hsize⟩ := (receive_challenge_iff hchallenge).mp h
    rw [challengeSize] at hlong
    have hremaining := remainingSize_append (show 4 ≤ message.length by omega) more
    rw [receive, if_pos hchallenge, hremaining, challengeSize, List.length_append,
      if_neg (by omega), if_neg (by omega), hsize]
  · have hsize := (receive_fixed_iff hchallenge).mp h
    rw [receive, if_neg hchallenge, List.length_append, hsize, if_neg (by omega)]

theorem receive_part (h : command.receive message = .message message.length) {tail : List UInt8}
    (hpart : tail <+: message) (hlength : tail.length < message.length) : command.receive tail =
      if command.isChallenge = true ∧ challengeSize ≤ tail.length then .headerOnly else .wait := by
  by_cases hchallenge : command.isChallenge = true
  · obtain ⟨hlong, hsize⟩ := (receive_challenge_iff hchallenge).mp h
    rw [receive, if_pos hchallenge]
    by_cases hshort : tail.length < challengeSize
    · rw [if_pos hshort, if_neg fun hboth => absurd hboth.2 (Nat.not_le.mpr hshort)]
    · obtain ⟨more, rfl⟩ := hpart
      rw [challengeSize] at hshort
      have hremaining := remainingSize_append (show 4 ≤ tail.length by omega) more
      rw [hremaining] at hsize
      have hbad : remainingSize tail < 35 - 4 ∨ tail.length - 4 < remainingSize tail :=
        .inr (by omega)
      rw [challengeSize, if_neg hshort, if_pos hbad, if_pos ⟨hchallenge, Nat.not_lt.mp hshort⟩]
  · have hsize := (receive_fixed_iff hchallenge).mp h
    rw [receive, if_neg hchallenge, hsize, if_pos hlength, if_neg fun hboth => hchallenge hboth.1]

end AuthCommand

section Streams

variable {Conn : Type*} {handlers : AuthHandlers Conn} {conn : Conn} {message tail : List UInt8}
  {messages rest : List (List UInt8)}

def afterMessages (handlers : AuthHandlers Conn) (conn : Conn) (messages : List (List UInt8)) : Conn :=
  messages.foldl (fun conn message =>
    (commandOf message).elim conn fun command => (handlers.handle conn command message).1) conn

def leftover : List (List UInt8) → List UInt8 → List UInt8
  | [], tail => tail
  | message :: _, tail =>
    if (commandOf message).any AuthCommand.isChallenge = true ∧ challengeSize ≤ tail.length then
      tail.drop 4
    else tail

theorem head?_of_commandOf {command : AuthCommand} (h : commandOf message = some command) :
    ∃ cmd more, message = cmd :: more ∧ AuthCommand.ofByte cmd = some command := by
  cases message with
  | nil => cases h
  | cons cmd more => exact ⟨cmd, more, rfl, h⟩

theorem findHandler_eq {cmd : UInt8} {command : AuthCommand} (hcmd : AuthCommand.ofByte cmd = some command)
    (hadmits : command = .realmList → handlers.authed conn = true) :
    ReadState.findHandler handlers conn cmd = some command := by
  rw [ReadState.findHandler, hcmd, Option.filter_some]
  by_cases hlist : command = .realmList
  · simp [hlist, hadmits hlist]
  · simp [hlist]

end Streams

namespace ReadState

variable {Conn : Type*} {handlers : AuthHandlers Conn} {s : ReadState Conn}
  {messages rest : List (List UInt8)} {tail : List UInt8}

theorem onReadLoop_nil {fuel n : Nat} (h : s.buffer = []) : onReadLoop handlers fuel s n = s := by
  cases fuel with
  | zero => rfl
  | succ fuel => rw [onReadLoop, h]

theorem onReadLoop_succ {fuel n : Nat} {cmd : UInt8} {more : List UInt8} {command : AuthCommand}
    (hbuffer : s.buffer = cmd :: more) (hcmd : AuthCommand.ofByte cmd = some command)
    (hadmits : command = .realmList → handlers.authed s.conn = true) (hfew : cmd = 0x00 → n + 1 < maxChallenges) :
    onReadLoop handlers (fuel + 1) s n =
      match command.receive s.buffer with
      | .wait => s
      | .headerOnly => { s with buffer := s.buffer.drop 4 }
      | .message length =>
        match s.handleMessage handlers command length with
        | (s, true) => onReadLoop handlers fuel s (if cmd = 0x00 then n + 1 else n)
        | (s, false) => s := by
  have hopen : ¬ (cmd = 0x00 ∧ (if cmd = 0x00 then n + 1 else n) = maxChallenges) := by
    rintro ⟨hzero, hmax⟩
    rw [if_pos hzero] at hmax
    exact absurd hmax (hfew hzero).ne
  conv_lhs => rw [onReadLoop.eq_def]
  dsimp only
  split
  next hnil => cases hbuffer.symm.trans hnil
  next cmd' more' hcons =>
    cases hbuffer.symm.trans hcons
    rw [if_neg hopen, findHandler_eq hcmd hadmits]

theorem onReadLoop_messages {fuel n : Nat} (hwell : ∀ message ∈ messages ++ rest, WellFormedMessage message)
    (hsmooth : Smooth handlers s.conn (messages ++ rest))
    (hfew : n + (messages ++ rest).countP (fun message => message.head? = some 0x00) < maxChallenges)
    (hpart : PartOfFirst rest tail) (hbuffer : s.buffer = messages.flatten ++ tail)
    (hfuel : s.buffer.length ≤ fuel) : onReadLoop handlers fuel s n =
      ⟨afterMessages handlers s.conn messages, leftover rest tail, s.processed ++ messages⟩ := by
  induction messages generalizing fuel n s with
  | nil =>
    rw [List.flatten_nil, List.nil_append] at hbuffer
    rw [List.append_nil]
    cases tail with
    | nil =>
      have hnone : leftover rest [] = [] := by cases rest <;> simp [leftover, challengeSize]
      rw [onReadLoop_nil hbuffer, hnone, ← hbuffer]
      rfl
    | cons byte bytes =>
      cases rest with
      | nil => cases hpart
      | cons message rest =>
        obtain ⟨hstart, hlength⟩ := hpart
        obtain ⟨command, hcommand, hreceive⟩ := hwell message List.mem_cons_self
        obtain ⟨command', hcommand', hadmits, -⟩ := hsmooth
        cases Option.mem_unique hcommand hcommand'
        obtain ⟨cmd, more, rfl, hcmd⟩ := head?_of_commandOf hcommand
        obtain ⟨rfl, -⟩ := List.cons_prefix_cons.mp hstart
        have hzero : byte = 0x00 → n + 1 < maxChallenges := by
          rintro rfl
          rw [List.nil_append, List.countP_cons_of_pos (by simp)] at hfew
          omega
        obtain ⟨fuel, rfl⟩ : ∃ k, fuel = k + 1 := by
          cases fuel with
          | zero => simp [hbuffer] at hfuel
          | succ fuel => exact ⟨fuel, rfl⟩
        rw [onReadLoop_succ hbuffer hcmd hadmits hzero, hbuffer, AuthCommand.receive_part hreceive hstart hlength]
        rw [leftover, Option.mem_def.mp hcommand, Option.any_some]
        by_cases hlost : command.isChallenge = true ∧ challengeSize ≤ (byte :: bytes).length
        · rw [if_pos hlost, if_pos hlost]
          rfl
        · rw [if_neg hlost, if_neg hlost, ← hbuffer]
          rfl
  | cons message messages ih =>
    obtain ⟨command, hcommand, hreceive⟩ := hwell message List.mem_cons_self
    obtain ⟨command', hcommand', hadmits, hgoes, hsmooth⟩ := hsmooth
    cases Option.mem_unique hcommand hcommand'
    rw [List.flatten_cons, List.append_assoc] at hbuffer
    have hreceived : command.receive s.buffer = .message message.length := by
      rw [hbuffer]
      exact AuthCommand.receive_append hreceive _
    have hhandled : s.handleMessage handlers command message.length =
        (⟨(handlers.handle s.conn command message).1, messages.flatten ++ tail,
          s.processed ++ [message]⟩, (handlers.handle s.conn command message).2) := by
      rw [handleMessage, hbuffer, List.take_left, List.drop_left]
    have hafter : afterMessages handlers s.conn (message :: messages) =
        afterMessages handlers (handlers.handle s.conn command message).1 messages := by
      rw [afterMessages, List.foldl_cons, Option.mem_def.mp hcommand]
      rfl
    obtain ⟨cmd, more, hmessage, hcmd⟩ := head?_of_commandOf hcommand
    have hhead : message.head? = some cmd := by rw [hmessage, List.head?_cons]
    rw [List.cons_append, List.countP_cons, hhead] at hfew
    have hzero : cmd = 0x00 → n + 1 < maxChallenges := by
      rintro rfl
      simp only [decide_true, if_true] at hfew
      omega
    have hfront : s.buffer = cmd :: (more ++ (messages.flatten ++ tail)) := by
      rw [hbuffer, hmessage, List.cons_append]
    obtain ⟨fuel, rfl⟩ : ∃ k, fuel = k + 1 := by
      cases fuel with
      | zero => simp [hfront] at hfuel
      | succ fuel => exact ⟨fuel, rfl⟩
    rw [onReadLoop_succ hfront hcmd hadmits hzero, hreceived]
    dsimp only
    rw [hhandled]
    have hwell' : ∀ message ∈ messages ++ rest, WellFormedMessage message :=
      fun message hmem => hwell message (List.mem_cons_of_mem _ hmem)
    have hshorter : (messages.flatten ++ tail).length ≤ fuel := by
      rw [hfront, List.length_cons, List.length_append] at hfuel
      omega
    rw [hafter, show s.processed ++ message :: messages = (s.processed ++ [message]) ++ messages by simp]
    cases hanswer : (handlers.handle s.conn command message).2 with
    | true =>
      refine ih hwell' hsmooth ?_ rfl hshorter
      by_cases hcount : cmd = 0x00
      · simp only [hcount, decide_true, if_true] at hfew ⊢
        omega
      · simp only [hcount, if_false, Option.some.injEq, decide_false] at hfew ⊢
        simpa using hfew
    | false =>
      have hlast : messages ++ rest = [] := by
        by_contra hmore
        rw [(hgoes hmore).1] at hanswer
        cases hanswer
      obtain ⟨rfl, rfl⟩ := List.append_eq_nil_iff.mp hlast
      simp only [PartOfFirst] at hpart
      subst hpart
      simp [afterMessages, leftover]

end ReadState

section Segments

variable {Conn : Type*} {handlers : AuthHandlers Conn} {conn : Conn}
  {messages done rest chunks : List (List UInt8)} {tail chunk : List UInt8}

theorem Smooth.append (h : Smooth handlers conn (done ++ rest)) :
    Smooth handlers (afterMessages handlers conn done) rest := by
  induction done generalizing conn with
  | nil => exact h
  | cons message done ih =>
    obtain ⟨command, hcommand, -, -, hnext⟩ := h
    rw [afterMessages, List.foldl_cons, Option.mem_def.mp hcommand]
    exact ih hnext

theorem Smooth.open (h : Smooth handlers conn (done ++ rest)) (hopen : handlers.closed conn = false)
    (hrest : rest ≠ []) : handlers.closed (afterMessages handlers conn done) = false := by
  induction done generalizing conn with
  | nil => exact hopen
  | cons message done ih =>
    obtain ⟨command, hcommand, -, hgoes, hnext⟩ := h
    have hmore : done ++ rest ≠ [] := fun hnil => hrest (List.append_eq_nil_iff.mp hnil).2
    rw [afterMessages, List.foldl_cons, Option.mem_def.mp hcommand]
    exact ih hnext (hgoes hmore).2

theorem afterMessages_append (done' : List (List UInt8)) : afterMessages handlers conn (done ++ done') =
      afterMessages handlers (afterMessages handlers conn done) done' :=
  List.foldl_append

/-- What has arrived is in order: some messages were handled, and a part of the next one waits. -/
def InOrder (handlers : AuthHandlers Conn) (conn : Conn) (messages : List (List UInt8))
    (received : List UInt8) (s : ReadState Conn) : Prop :=
  ∃ done rest tail, messages = done ++ rest ∧ received = done.flatten ++ tail ∧
    PartOfFirst rest tail ∧ s = ⟨afterMessages handlers conn done, tail, done⟩

theorem handleInput_inOrder {received : List UInt8} {s : ReadState Conn}
    (hopen : handlers.closed conn = false) (hwell : ∀ message ∈ messages, WellFormedMessage message)
    (hsmooth : Smooth handlers conn messages) (hfew : FewChallenges messages)
    (hs : InOrder handlers conn messages received s) (hreceived : received ++ chunk <+: messages.flatten) :
    ∃ done rest tail, messages = done ++ rest ∧ received ++ chunk = done.flatten ++ tail ∧ PartOfFirst rest tail ∧
      s.handleInput handlers chunk = ⟨afterMessages handlers conn done, leftover rest tail, done⟩ := by
  obtain ⟨done, rest, tail, rfl, rfl, hpart, rfl⟩ := hs
  rw [List.append_assoc, List.flatten_append, List.prefix_append_right_inj] at hreceived
  by_cases hrest : rest = []
  · subst hrest
    have htail : tail = [] := hpart
    obtain ⟨-, rfl⟩ := List.append_eq_nil_iff.mp (List.prefix_nil.mp hreceived)
    subst htail
    refine ⟨done, [], [], rfl, by simp, rfl, ?_⟩
    rw [ReadState.handleInput]
    split
    · rfl
    · exact ReadState.onReadLoop_nil rfl
  · have hstill := hsmooth.open hopen hrest
    obtain ⟨done', rest', tail', hsplit, hbytes, hpart'⟩ := exists_cut hreceived
    refine ⟨done ++ done', rest', tail', by rw [hsplit, List.append_assoc], ?_, hpart', ?_⟩
    · rw [List.append_assoc, hbytes, List.flatten_append, List.append_assoc]
    · rw [ReadState.handleInput, if_neg (by simp [hstill]), ReadState.onRead]
      have hlater := hsmooth.append
      rw [hsplit] at hlater
      rw [FewChallenges, hsplit, List.countP_append] at hfew
      rw [@ReadState.onReadLoop_messages _ handlers _ done' rest' tail' _ 0
        (fun message hmem => hwell message (by
          rw [hsplit]
          exact List.mem_append_right _ hmem))
        hlater (by omega) hpart' hbytes le_rfl, afterMessages_append]

theorem partOfFirst_nil (hwell : ∀ message ∈ messages, WellFormedMessage message) : PartOfFirst messages [] := by
  cases messages with
  | nil => rfl
  | cons message messages =>
    obtain ⟨command, hcommand, -⟩ := hwell message List.mem_cons_self
    obtain ⟨cmd, more, rfl, -⟩ := head?_of_commandOf hcommand
    exact ⟨List.nil_prefix, Nat.succ_pos _⟩

theorem flatten_prefix_concat (chunk : List UInt8) : chunks.flatten <+: (chunks ++ [chunk]).flatten := by
  rw [List.flatten_append]
  exact List.prefix_append _ _

theorem any_isChallenge_iff {message : List UInt8} :
    (commandOf message).any AuthCommand.isChallenge = true ↔ IsChallenge message := by
  cases hcommand : commandOf message <;> simp [IsChallenge, hcommand]

theorem leftover_cases (rest : List (List UInt8)) (tail : List UInt8) :
    (∃ message rest', rest = message :: rest' ∧ IsChallenge message ∧ challengeSize ≤ tail.length ∧
      leftover rest tail = tail.drop 4) ∨
    ((∀ message rest', rest = message :: rest' → IsChallenge message → tail.length < challengeSize) ∧
      leftover rest tail = tail) := by
  cases rest with
  | nil => exact .inr ⟨fun _ _ h => (by cases h), rfl⟩
  | cons message rest =>
    rw [leftover]
    by_cases hlost : (commandOf message).any AuthCommand.isChallenge = true ∧ challengeSize ≤ tail.length
    · rw [if_pos hlost]
      exact .inl ⟨message, rest, rfl, any_isChallenge_iff.mp hlost.1, hlost.2, rfl⟩
    · refine .inr ⟨?_, if_neg hlost⟩
      rintro _ _ ⟨rfl, rfl⟩ hchallenge
      by_contra hlong
      exact hlost ⟨any_isChallenge_iff.mpr hchallenge, Nat.not_lt.mp hlong⟩

theorem inOrder_of_whole (hopen : handlers.closed conn = false)
    (hwell : ∀ message ∈ messages, WellFormedMessage message)
    (hsmooth : Smooth handlers conn messages) (hfew : FewChallenges messages)
    (hstream : chunks.flatten <+: messages.flatten) (hwhole : ChallengesWhole messages chunks) :
    InOrder handlers conn messages chunks.flatten (chunks.foldl (ReadState.handleInput handlers) (.new conn)) := by
  induction chunks using List.reverseRecOn with
  | nil => exact ⟨[], messages, [], rfl, rfl, partOfFirst_nil hwell, rfl⟩
  | append_singleton chunks chunk ih =>
    have hbefore := ih ((flatten_prefix_concat chunk).trans hstream) fun before hstart =>
      hwhole before (hstart.trans (List.prefix_append chunks [chunk]))
    rw [List.flatten_append, List.flatten_singleton] at hstream ⊢
    rw [List.foldl_append, List.foldl_cons, List.foldl_nil]
    obtain ⟨done, rest, tail, hsplit, hbytes, hpart, hresult⟩ :=
      handleInput_inOrder hopen hwell hsmooth hfew hbefore hstream
    refine ⟨done, rest, tail, hsplit, hbytes, hpart, ?_⟩
    rcases leftover_cases rest tail with ⟨message, rest', hrest, hchallenge, hlong, -⟩ | ⟨-, hkept⟩
    · subst hrest
      have hend := hwhole _ (List.prefix_refl _) done message rest' hsplit hchallenge
      rw [List.flatten_append, List.flatten_singleton, hbytes, List.length_append] at hend
      have hshort : tail.length < message.length := hpart.2
      omega
    · rw [hresult, hkept]

theorem inOrder_of_borders (hopen : handlers.closed conn = false)
    (hwell : ∀ message ∈ messages, WellFormedMessage message)
    (hsmooth : Smooth handlers conn messages) (hfew : FewChallenges messages)
    (hstream : chunks.flatten <+: messages.flatten)
    (hborders : ∀ before, before <+: chunks → AtBorder messages before.flatten
      (before.foldl (ReadState.handleInput handlers) (.new conn)).buffer) :
    InOrder handlers conn messages chunks.flatten
      (chunks.foldl (ReadState.handleInput handlers) (.new conn)) ∧ ChallengesWhole messages chunks := by
  induction chunks using List.reverseRecOn with
  | nil =>
    refine ⟨⟨[], messages, [], rfl, rfl, partOfFirst_nil hwell, rfl⟩, ?_⟩
    rintro before hstart done message rest - -
    rw [List.prefix_nil.mp hstart, List.flatten_nil, List.length_nil, challengeSize]
    omega
  | append_singleton chunks chunk ih =>
    obtain ⟨hbefore, hwhole⟩ := ih ((flatten_prefix_concat chunk).trans hstream) fun before hstart =>
      hborders before (hstart.trans (List.prefix_append chunks [chunk]))
    have hborder := hborders _ (List.prefix_refl _)
    have hall : (chunks ++ [chunk]).flatten = chunks.flatten ++ chunk := by
      rw [List.flatten_append, List.flatten_singleton]
    rw [hall] at hstream
    rw [List.foldl_append, List.foldl_cons, List.foldl_nil] at hborder ⊢
    obtain ⟨done, rest, tail, hsplit, hbytes, hpart, hresult⟩ :=
      handleInput_inOrder hopen hwell hsmooth hfew hbefore hstream
    rw [hresult, hall] at hborder
    rcases leftover_cases rest tail with ⟨message, rest', rfl, hchallenge, hlong, hlost⟩ | ⟨hshort, hkept⟩
    · rw [hlost] at hborder
      rw [challengeSize] at hlong
      exact absurd hborder (not_atBorder_drop hsplit hbytes hpart.2 (by decide) (by omega))
    · refine ⟨⟨done, rest, tail, hsplit, hall.trans hbytes, hpart, by rw [hresult, hkept]⟩, ?_⟩
      rintro before hstart done' message rest' hsplit' hchallenge ⟨hlong, hend⟩
      rcases List.prefix_concat_iff.mp hstart with rfl | hearlier
      · rw [hall, hbytes, List.length_append] at hlong hend
        obtain ⟨rfl, rfl⟩ := cut_unique hsplit hpart hsplit' (by omega) hend
        have hwaits := hshort message rest' rfl hchallenge
        omega
      · exact hwhole before hearlier done' message rest' hsplit' hchallenge ⟨hlong, hend⟩

theorem challengesWhole_once (messages : List (List UInt8)) : ChallengesWhole messages [messages.flatten] := by
  rintro before hstart done message rest hsplit - ⟨hlong, hend⟩
  rw [challengeSize] at hlong
  rcases List.prefix_concat_iff.mp (show before <+: [] ++ [messages.flatten] from hstart) with rfl | hnil
  · rw [List.nil_append, List.flatten_singleton, hsplit, List.flatten_append, List.flatten_cons,
      List.length_append, List.length_append] at hend
    omega
  · rw [List.prefix_nil.mp hnil, List.flatten_nil, List.length_nil] at hlong
    omega

theorem segmented_iff (hopen : handlers.closed conn = false) (hwell : ∀ message ∈ messages, WellFormedMessage message)
    (hsmooth : Smooth handlers conn messages) (hfew : FewChallenges messages)
    (hstream : chunks.flatten = messages.flatten) :
    Segmented handlers conn messages chunks ↔ ChallengesWhole messages chunks := by
  have hstart : chunks.flatten <+: messages.flatten := hstream ▸ List.prefix_refl _
  have hall : ∀ chunks : List (List UInt8), chunks.flatten = messages.flatten →
      ChallengesWhole messages chunks →
      (chunks.foldl (ReadState.handleInput handlers) (.new conn)).processed = messages := by
    intro chunks hstream hwhole
    obtain ⟨done, rest, tail, hsplit, hbytes, hpart, hresult⟩ :=
      inOrder_of_whole hopen hwell hsmooth hfew (hstream ▸ List.prefix_refl _) hwhole
    obtain ⟨rfl, rfl⟩ := cut_all hsplit (hstream.symm.trans hbytes) hpart
    rw [hresult, hsplit, List.append_nil]
  constructor
  · intro h
    exact (inOrder_of_borders hopen hwell hsmooth hfew hstart h.borders).2
  · intro hwhole
    refine ⟨?_, fun before hbefore => ?_⟩
    · have honce := hall [messages.flatten] List.flatten_singleton (challengesWhole_once messages)
      exact (hall chunks hstream hwhole).trans honce.symm
    · have hpart : before.flatten <+: messages.flatten := by
        obtain ⟨more, rfl⟩ := hbefore
        rw [← hstream, List.flatten_append]
        exact List.prefix_append _ _
      obtain ⟨done, rest, tail, hsplit, hbytes, -, hresult⟩ :=
        inOrder_of_whole hopen hwell hsmooth hfew hpart fun first hfirst =>
          hwhole first (hfirst.trans hbefore)
      exact ⟨done, ⟨rest, hsplit.symm⟩, by rw [hresult, hbytes]⟩

end Segments

/-- What the tables answer when a message is handled, and what is drawn and opened then. -/
structure AuthAnswers where
  logon : LogonQueries
  proof : ProofQueries
  sessionkey : Option HexString
  rand : Rand 128
  accounts : List UInt8 → Option Nat
  seeks : Bool
  opens : Bool

def field (message : List UInt8) (offset width : Nat) : List UInt8 :=
  (List.range width).map fun i => message.getD (offset + i) 0

theorem length_field (message : List UInt8) (offset width : Nat) : (field message offset width).length = width := by
  rw [field, List.length_map, List.length_range]

def AuthAnswers.request (answers : AuthAnswers) (message : List UInt8) : AuthCommand → AuthRequest
  | .logonChallenge => .logonChallenge message answers.logon
  | .logonProof =>
    .logonProof ⟨field message 1 32, field message 33 20, length_field _ _ _, length_field _ _ _⟩
      answers.proof
  | .reconnectChallenge => .reconnectChallenge message answers.sessionkey answers.rand
  | .reconnectProof =>
    .reconnectProof ⟨field message 1 16, field message 17 20, length_field _ _ _, length_field _ _ _⟩
  | .realmList => .realmList answers.accounts
  | .xferAccept => .xferAccept answers.opens
  | .xferResume => .xferResume answers.seeks answers.opens
  | .xferCancel => .xferCancel

/-- The handlers of `AuthSocket`, where the answers differ from message to message. -/
def AuthSocket.handlers (settings : RealmdSettings) (answers : Nat → AuthAnswers) :
    AuthHandlers (AuthSocket × Nat) where
  authed c := c.1.authed
  closed c := c.1.closed
  handle c command message :=
    let handled := c.1.handle settings ((answers c.2).request message command)
    ((handled.1, c.2 + 1), handled.2)
  closeConnection c := (c.1.closeConnection, c.2)

/-- A new connection handles a stream that it could handle at once the same in chunks, exactly when no
chunk ends in a challenge after the size of the shortest one. -/
theorem authSocket_segmented_iff (settings : RealmdSettings) (answers : Nat → AuthAnswers)
    (messages chunks : List (List UInt8)) (hwell : ∀ message ∈ messages, WellFormedMessage message)
    (hsmooth : Smooth (AuthSocket.handlers settings answers) (AuthSocket.new, 0) messages)
    (hfew : FewChallenges messages) (hstream : chunks.flatten = messages.flatten) :
    Segmented (AuthSocket.handlers settings answers) (AuthSocket.new, 0) messages chunks ↔
      ChallengesWhole messages chunks :=
  segmented_iff rfl hwell hsmooth hfew hstream

theorem challengesWhole_iff {messages chunks : List (List UInt8)} : ChallengesWhole messages chunks ↔
    ∀ before ∈ chunks.inits, ∀ i : Fin messages.length, (commandOf messages[i]).any AuthCommand.isChallenge = true →
      ¬ ((messages.take i).flatten.length + challengeSize ≤ before.flatten.length ∧
        before.flatten.length < (messages.take i).flatten.length + messages[i].length) := by
  constructor
  · intro h before hbefore i hchallenge
    have hsplit : messages = messages.take i ++ messages[i] :: messages.drop (i + 1) := by
      rw [Fin.getElem_fin, List.cons_getElem_drop_succ, List.take_append_drop]
    exact h before ((List.mem_inits _ _).mp hbefore) _ _ _ hsplit (any_isChallenge_iff.mp hchallenge)
  · rintro h before hstart done message rest rfl hchallenge
    have hend := h before ((List.mem_inits _ _).mpr hstart) ⟨done.length, by simp⟩
    simp only [Fin.getElem_fin, List.getElem_append_right (le_refl done.length), Nat.sub_self,
      List.getElem_cons_zero, List.take_left] at hend
    exact hend (any_isChallenge_iff.mpr hchallenge)

instance (messages chunks : List (List UInt8)) : Decidable (ChallengesWhole messages chunks) :=
  decidable_of_iff _ challengesWhole_iff.symm

/-! A client sends a challenge and a proof. -/

private def noHash : RealmdSettings where
  sha1 _ := .ofByte 1
  escapeString := id
  autoRegistration := false
  autoRegistrationAmount := 1
  loadRealmlist _ _ := []

private def noAnswers : AuthAnswers where
  logon :=
    { ipBanned := true
      account := none
      multiIPExceeded := false
      banned := none
      registered := 0
      randS := .least 254
      randB := .least 150
      unk3 := .least 126 }
  proof := ⟨none, fun _ => 0⟩
  sessionkey := none
  rand := .least 126
  accounts _ := none
  seeks := false
  opens := false

private def challengeMessage : List UInt8 :=
  [0x00, 8, 32, 0, 87, 111, 87, 0, 4, 3, 4, 0xEB, 0x3C, 54, 56, 120, 0, 110, 105, 87, 0, 83, 85, 110,
    101, 0, 0, 0, 0, 127, 0, 0, 1, 2, 65, 66]

private def proofMessage : List UInt8 := 0x01 :: List.replicate 74 1

/-- The challenge arrives in two parts, the second one together with the proof. -/
theorem authSocket_segmented_early : Segmented (AuthSocket.handlers noHash fun _ => noAnswers) (AuthSocket.new, 0)
      [challengeMessage, proofMessage] [challengeMessage.take 20, challengeMessage.drop 20 ++ proofMessage] :=
  (authSocket_segmented_iff noHash (fun _ => noAnswers) [challengeMessage, proofMessage]
    [challengeMessage.take 20, challengeMessage.drop 20 ++ proofMessage]
    (by
      simp only [List.forall_mem_cons, List.not_mem_nil, false_imp_iff, implies_true, and_true]
      exact ⟨⟨.logonChallenge, rfl, by decide⟩, .logonProof, rfl, by decide⟩)
    ⟨.logonChallenge, rfl, by decide, fun _ => ⟨by decide +kernel, by decide +kernel⟩,
      .logonProof, rfl, by decide, fun h => absurd rfl h, trivial⟩
    (by decide) (by decide)).mpr (by decide +kernel)

/-- The challenge arrives without its last byte. -/
theorem authSocket_segmented_late :
    ¬ ∀ (settings : RealmdSettings) (answers : Nat → AuthAnswers) (messages chunks : List (List UInt8)),
      (∀ message ∈ messages, WellFormedMessage message) → chunks.flatten = messages.flatten →
      Segmented (AuthSocket.handlers settings answers) (AuthSocket.new, 0) messages chunks := by
  intro h
  have hsegmented := h noHash (fun _ => noAnswers) [challengeMessage]
    [challengeMessage.take 35, challengeMessage.drop 35]
    (by
      simp only [List.forall_mem_cons, List.not_mem_nil, false_imp_iff, implies_true, and_true]
      exact ⟨.logonChallenge, rfl, by decide⟩)
    (by decide)
  exact absurd hsegmented.processed (by decide +kernel)

end Mangos
