import Mangos.Movement.Recovers

/-!
# Movement is relayed to other players

A session reads the movement of its mover, verifies it and broadcasts it. A knock back is broadcast as one
record.
-/

namespace Mangos

open Framework

def moveFlagWalkMode : UInt32 := 0x100

/-- `appendPackGUID`: a mask, and the bytes that are not zero. -/
def packGuid (guid : ObjectGuid) : List UInt8 :=
  (List.finRange 8).foldl (fun mask i => if guid i ≠ 0 then mask ||| UInt8.ofNat (1 <<< i.val) else mask)
    0 :: ((List.finRange 8).map guid).filter (· ≠ 0)

/-- The opcodes that are handled by `HandleMovementOpcodes`. -/
def movementOpcodes : List Opcode :=
  [.cmsgMoveStartForward, .cmsgMoveStartBackward, .cmsgMoveStop, .cmsgMoveStartStrafeLeft,
    .cmsgMoveStartStrafeRight, .cmsgMoveStopStrafe, .cmsgMoveJump, .cmsgMoveStartTurnLeft,
    .cmsgMoveStartTurnRight, .cmsgMoveStopTurn, .cmsgMoveStartPitchUp, .cmsgMoveStartPitchDown,
    .cmsgMoveStopPitch, .cmsgMoveSetRunMode, .cmsgMoveSetWalkMode, .cmsgMoveFallLand,
    .cmsgMoveStartSwim, .cmsgMoveStopSwim, .cmsgMoveSetFacing, .cmsgMoveSetPitch, .msgMoveHeartbeat,
    .cmsgMoveFallReset, .cmsgMoveStartAscend, .cmsgMoveStopAscend, .cmsgMoveChngTransport, .cmsgMoveStartDescend]

/-- What the handlers see of mover and world: the mover's guid, whether he is the player, the checks on coordinates,
and the time a movement is sent on with. -/
structure MoverSession where
  moverGuid : ObjectGuid
  isPlayer : Bool
  isBeingTeleported : Bool
  isValidMapCoord : Position → Bool
  isValidOnTransport : Position → Position → Bool
  newTime : UInt32

namespace MoverSession

variable (session : MoverSession) (normalize : Normalization)

def verifyMovementInfo (mi : MovementInfo) : Bool :=
  mi.guid = session.moverGuid && session.isValidMapCoord mi.pos &&
    (!mi.hasTransportData || session.isValidOnTransport mi.pos mi.t_pos)

/-- The movement of a request that is not ignored. -/
def accept (opcode : Opcode) (recv : List UInt8) : Option MovementInfo :=
  if session.isBeingTeleported then none
  else
    match MovementInfo.read (.ofStorage recv) opcode with
    | none => none
    | some (mi, _) => if session.verifyMovementInfo mi then some mi else none

/-- The movement that `HandleMovementOpcodes` sends on, where only a player himself walks. -/
def update (opcode : Opcode) (mi : MovementInfo) : MovementInfo :=
  let moveFlags := if !session.isPlayer && opcode = .cmsgMoveSetWalkMode then
    mi.moveFlags &&& ~~~moveFlagWalkMode else mi.moveFlags
  { mi with moveFlags, time := session.newTime }

/-- The packet that `HandleMovementOpcodes` broadcasts. -/
def handleMovementOpcodes (opcode : Opcode) (mi : MovementInfo) : ByteBuffer :=
  let movementInfo := session.update opcode mi
  let data := ByteBuffer.empty.write (byteItems (packGuid session.moverGuid))
  let data := movementInfo.write normalize data opcode
  movementInfo.write normalize data opcode

/-- The packet that `HandleMoveKnockBackAck` broadcasts. -/
def handleMoveKnockBackAck (mi : MovementInfo) : ByteBuffer :=
  mi.write normalize .empty .smsgMoveUpdateKnockBack

/-- The packet that is broadcast for a request that is accepted, with its opcode. -/
def relay (opcode : Opcode) (recv : List UInt8) : Option (Opcode × ByteBuffer) :=
  if opcode = .cmsgMoveKnockBackAck then
    (session.accept opcode recv).map fun mi =>
      (.smsgMoveUpdateKnockBack, handleMoveKnockBackAck normalize mi)
  else if opcode ∈ movementOpcodes then
    (session.accept opcode recv).map fun mi =>
      (opcode, session.handleMovementOpcodes normalize opcode mi)
  else none

end MoverSession

namespace MovementInfo

/-- A packet is the record of a movement, of which the time alone is another, and is read as that. -/
def Relays (normalize : Normalization) (mi : MovementInfo) (opcode : Opcode) (data : List UInt8) :
    Prop :=
  ∃ time, data = ({ mi with time } : MovementInfo).record normalize opcode ∧
    ∃ mi' rest, read (.ofStorage data) opcode = some (mi', rest) ∧ rest.rpos = data.length ∧
      Recovers (({ mi with time } : MovementInfo).normalized normalize) mi'

end MovementInfo

namespace ByteBuffer

theorem readBits_lt {bits value : Nat} {b b' : ByteBuffer} (h : readBits bits b = some (value, b')) :
    value < 2 ^ bits := by
  induction bits generalizing b b' value with
  | zero =>
    rw [readBits, Option.some.injEq, Prod.mk.injEq] at h
    rw [← h.1]
    decide
  | succ bits ih =>
    rw [readBits, Option.bind_eq_some_iff] at h
    obtain ⟨p, -, h⟩ := h
    obtain ⟨⟨low, rest⟩, hq, heq⟩ := Option.map_eq_some_iff.mp h
    rw [Prod.mk.injEq] at heq
    have hlow : low < 2 ^ bits := ih hq
    have hhigh : p.1.toNat <<< bits < 2 ^ (bits + 1) := by
      have hle := Nat.mul_le_mul_right (2 ^ bits) (Bool.toNat_le p.1)
      rw [Nat.shiftLeft_eq, Nat.pow_succ]
      have hpos := Nat.two_pow_pos bits
      omega
    rw [← heq.1]
    exact Nat.or_lt_two_pow hhigh (hlow.trans (Nat.pow_lt_pow_right (by decide) (by omega)))

end ByteBuffer

namespace MovementReader

def FlagsFit (r : MovementReader) : Prop :=
  r.mi.moveFlags.toNat < 2 ^ 30 ∧ r.mi.moveFlags2.toNat < 2 ^ 12

theorem readIf_cases {α : Type} {r r' : MovementReader} {data data' : ByteBuffer} {there : Bool}
    {read : ByteBuffer → Option (α × ByteBuffer)} {store : α → MovementReader}
    (h : r.readIf data there read store = some (r', data')) :
    r' = r ∨ ∃ value, read data = some (value, data') ∧ r' = store value := by
  rw [readIf] at h
  split at h
  · obtain ⟨p, hp, heq⟩ := Option.map_eq_some_iff.mp h
    rw [Prod.mk.injEq] at heq
    exact .inr ⟨p.1, by rw [hp, ← heq.2], heq.1.symm⟩
  · rw [Option.some.injEq, Prod.mk.injEq] at h
    exact .inl h.1.symm

theorem FlagsFit.readElement {r r' : MovementReader} {data data' : ByteBuffer}
    {element : MovementStatusElement} (h : r.FlagsFit)
    (hread : r.readElement data element = some (r', data')) : r'.FlagsFit := by
  cases element with
  | flags =>
    rw [MovementReader.readElement] at hread
    rcases readIf_cases hread with rfl | ⟨value, hvalue, rfl⟩
    · exact h
    · have hlt := ByteBuffer.readBits_lt hvalue
      refine ⟨?_, h.2⟩
      rw [UInt32.toNat_ofNat', Nat.mod_eq_of_lt (by omega)]
      exact hlt
  | flags2 =>
    rw [MovementReader.readElement] at hread
    rcases readIf_cases hread with rfl | ⟨value, hvalue, rfl⟩
    · exact h
    · have hlt := ByteBuffer.readBits_lt hvalue
      refine ⟨h.1, ?_⟩
      rw [UInt16.toNat_ofNat', Nat.mod_eq_of_lt (by omega)]
      exact hlt
  | _ =>
    rw [MovementReader.readElement] at hread
    rcases readIf_cases hread with rfl | ⟨value, -, rfl⟩
    · exact h
    · exact h

theorem FlagsFit.readElements {r r' : MovementReader} {data data' : ByteBuffer}
    {sequence : List MovementStatusElement} (h : r.FlagsFit)
    (hread : readElements sequence r data = some (r', data')) : r'.FlagsFit := by
  induction sequence generalizing r data with
  | nil =>
    rw [MovementReader.readElements, Option.some.injEq, Prod.mk.injEq] at hread
    rw [← hread.1]
    exact h
  | cons element elements ih =>
    rw [MovementReader.readElements, Option.bind_eq_some_iff] at hread
    obtain ⟨p, hp, hrest⟩ := hread
    exact ih (h.readElement hp) hrest

end MovementReader

namespace MovementInfo

theorem flagsFit_read {opcode : Opcode} {data data' : ByteBuffer} {mi : MovementInfo}
    (h : read data opcode = some (mi, data')) : mi.moveFlags.toNat < 2 ^ 30 ∧ mi.moveFlags2.toNat < 2 ^ 12 := by
  rw [read] at h
  split at h
  · rw [Option.some.injEq, Prod.mk.injEq] at h
    rw [← h.1]
    decide
  · obtain ⟨p, hp, heq⟩ := Option.map_eq_some_iff.mp h
    rw [Prod.mk.injEq] at heq
    rw [← heq.1]
    have hstart : MovementReader.start.FlagsFit := ⟨by decide, by decide⟩
    exact hstart.readElements hp

variable {normalize : Normalization} {mi mi' : MovementInfo} {opcode : Opcode}
  {sequence : List MovementStatusElement}

/-- Two movements with the same parts, where one has flags if the other has. -/
structure SameParts (mi mi' : MovementInfo) : Prop where
  guid : mi.guid = mi'.guid
  t_guid : mi.t_guid = mi'.t_guid
  si : mi.si = mi'.si
  moveFlags : mi'.moveFlags ≠ 0 → mi.moveFlags ≠ 0
  moveFlags2 : mi.moveFlags2 = mi'.moveFlags2

theorem isByte_uint32Items (value : UInt32) : (uint32Items value).map StreamItem.isByte = List.replicate 4 true := by
  simp [uint32Items, byteItems, toBytesWide, StreamItem.isByte, List.range_succ]

theorem isByte_bitItems (value bits : Nat) :
    (bitItems value bits).map StreamItem.isByte = List.replicate bits false := by
  induction bits with
  | zero => rfl
  | succ bits ih => rw [bitItems, List.map_cons, ih, StreamItem.isByte, List.replicate_succ]

theorem SameParts.isByte_elementItems (h : SameParts mi mi') {element : MovementStatusElement}
    (hne : element ≠ .flags) : (mi.elementItems normalize element).map StreamItem.isByte =
      (mi'.elementItems normalize element).map StreamItem.isByte := by
  have htransport : mi.hasTransportData = mi'.hasTransportData := by
    rw [hasTransportData, hasTransportData, h.t_guid]
  cases element with
  | flags => exact absurd rfl hne
  | _ =>
    simp only [elementItems, guidByteItems, htransport, h.guid, h.t_guid, h.si, h.moveFlags2,
      apply_ite (List.map StreamItem.isByte), isByte_uint32Items, isByte_bitItems, List.map_cons,
      List.map_nil, StreamItem.isByte]

theorem SameParts.isByte_flatMap (h : SameParts mi mi') {elements : List MovementStatusElement}
    (hne : .flags ∉ elements) : (elements.flatMap (mi.elementItems normalize)).map StreamItem.isByte =
      (elements.flatMap (mi'.elementItems normalize)).map StreamItem.isByte := by
  induction elements with
  | nil => rfl
  | cons element elements ih =>
    rw [List.mem_cons, not_or] at hne
    rw [List.flatMap_cons, List.flatMap_cons, List.map_append, List.map_append, ih hne.2,
      h.isByte_elementItems (Ne.symm hne.1)]

theorem bitItems_eq_map (value bits : Nat) :
    ∃ list : List Bool, list.length = bits ∧ bitItems value bits = list.map .bit := by
  induction bits with
  | zero => exact ⟨[], rfl, rfl⟩
  | succ bits ih =>
    obtain ⟨list, hlength, heq⟩ := ih
    exact ⟨value.testBit bits :: list, by rw [List.length_cons, hlength],
      by rw [bitItems, heq, List.map_cons]⟩

theorem exists_flags_split (h : getMovementStatusElementsSequence opcode = some sequence) :
    ∃ before behind, sequence = before ++ .flags :: behind ∧ .flags ∉ before ∧ .flags ∉ behind := by
  have hcount : sequence.count .flags = 1 := by
    cases opcode with
    | other value => cases h
    | _ =>
      cases h
      decide +kernel
  have hmem : .flags ∈ sequence := List.count_pos_iff.mp (by omega)
  obtain ⟨before, behind, rfl, hbefore⟩ := List.eq_append_cons_of_mem hmem
  refine ⟨before, behind, rfl, hbefore, ?_⟩
  rw [List.count_append, List.count_cons_self] at hcount
  exact List.count_eq_zero.mp (by omega)

theorem SameParts.layOutLength_le (h : SameParts mi mi')
    (hsequence : getMovementStatusElementsSequence opcode = some sequence) :
    layOutLength 0 (sequence.flatMap (mi.elementItems normalize)) ≤
      layOutLength 0 (sequence.flatMap (mi'.elementItems normalize)) + 5 := by
  obtain ⟨before, behind, rfl, hbefore, hbehind⟩ := exists_flags_split hsequence
  rw [List.flatMap_append, List.flatMap_append, List.flatMap_cons, List.flatMap_cons]
  have hsame : ∀ items items' : List StreamItem, items.map StreamItem.isByte = items'.map StreamItem.isByte →
      layOutLength 0 (before.flatMap (mi.elementItems normalize) ++
        (items ++ behind.flatMap (mi.elementItems normalize))) =
      layOutLength 0 (before.flatMap (mi'.elementItems normalize) ++
        (items' ++ behind.flatMap (mi'.elementItems normalize))) := by
    intro items items' hitems
    apply layOutLength_congr
    rw [List.map_append, List.map_append, List.map_append, List.map_append, hitems,
      h.isByte_flatMap hbefore, h.isByte_flatMap hbehind]
  by_cases hflags : mi'.moveFlags = 0
  · have hnone : mi'.elementItems normalize .flags = [] := by simp [elementItems, hflags]
    rw [hnone, ← hsame [] [] rfl]
    obtain ⟨list, hlength, heq⟩ := bitItems_eq_map mi.moveFlags.toNat 30
    by_cases hown : mi.moveFlags = 0
    · have hnone' : mi.elementItems normalize .flags = [] := by simp [elementItems, hown]
      rw [hnone']
      omega
    · have hsome : mi.elementItems normalize .flags = list.map .bit := by
        simp [elementItems, hown, heq]
      have hinsert := layOutLength_insert_bits (by decide : 0 < 8)
        (before.flatMap (mi.elementItems normalize)) list (behind.flatMap (mi.elementItems normalize))
      rw [hsome]
      rw [hlength] at hinsert
      exact hinsert
  · have hown : mi.moveFlags ≠ 0 := h.moveFlags hflags
    have hitems : (mi.elementItems normalize .flags).map StreamItem.isByte =
        (mi'.elementItems normalize .flags).map StreamItem.isByte := by
      simp [elementItems, hflags, hown, isByte_bitItems]
    rw [← hsame _ _ hitems]
    omega

theorem countP_uint32Items (value : UInt32) : (uint32Items value).countP StreamItem.isByte = 4 := by
  have hbytes := congrArg (List.countP id) (isByte_uint32Items value)
  rwa [List.countP_map] at hbytes

theorem le_countP_isByte (h : getMovementStatusElementsSequence opcode = some sequence) :
    12 ≤ (sequence.flatMap (mi.elementItems normalize)).countP StreamItem.isByte := by
  have hcoordinate : ∀ element : MovementStatusElement, element ∈ [.positionX, .positionY, .positionZ] →
      (mi.elementItems normalize element).countP StreamItem.isByte = 4 := by
    simp [elementItems, countP_uint32Items]
  have hsum : ∀ elements : List MovementStatusElement,
      4 * elements.countP (· ∈ [.positionX, .positionY, .positionZ]) ≤
        (elements.flatMap (mi.elementItems normalize)).countP StreamItem.isByte := by
    intro elements
    induction elements with
    | nil => simp
    | cons element elements ih =>
      rw [List.flatMap_cons, List.countP_append, List.countP_cons]
      split
      next hmem =>
        rw [hcoordinate element (of_decide_eq_true hmem)]
        omega
      next => omega
  have hcount : sequence.countP (· ∈ [.positionX, .positionY, .positionZ]) = 3 := by
    cases opcode with
    | other value => cases h
    | _ =>
      cases h
      decide +kernel
  have hle := hsum sequence
  omega

end MovementInfo

namespace MoverSession

open MovementInfo

variable {session : MoverSession} {normalize : Normalization} {opcode opcode' : Opcode}
  {sequence : List MovementStatusElement} {mi : MovementInfo} {recv : List UInt8} {data : ByteBuffer}

theorem storage_handleMovementOpcodes (h : getMovementStatusElementsSequence opcode = some sequence) :
    (session.handleMovementOpcodes normalize opcode mi).flushBits.storage =
      layOut [] (byteItems (packGuid session.moverGuid) ++
        (sequence.flatMap ((session.update opcode mi).elementItems normalize) ++
          sequence.flatMap ((session.update opcode mi).elementItems normalize))) := by
  rw [← ByteBuffer.storage_write, ByteBuffer.write_append, ByteBuffer.write_append]
  simp only [handleMovementOpcodes, MovementInfo.write, h]

theorem length_record_lt (h : getMovementStatusElementsSequence opcode = some sequence) (time : UInt32) :
    (({ mi with time } : MovementInfo).record normalize opcode).length <
      (session.handleMovementOpcodes normalize opcode mi).flushBits.storage.length := by
  have hparts : SameParts { mi with time } (session.update opcode mi) := by
    constructor
    case moveFlags =>
      intro hsome hnone
      apply hsome
      have hflags : mi.moveFlags = 0 := hnone
      simp [update, hflags]
    all_goals rfl
  have hlength := @SameParts.layOutLength_le normalize _ _ opcode sequence hparts h
  have hbytes := @le_countP_isByte normalize (session.update opcode mi) opcode sequence h
  have htwice := layOutLength_append_ge 0
    (sequence.flatMap ((session.update opcode mi).elementItems normalize))
    (sequence.flatMap ((session.update opcode mi).elementItems normalize))
  have hguid : packGuid session.moverGuid ≠ [] := List.cons_ne_nil _ _
  rw [record_eq h, storage_handleMovementOpcodes h, ByteBuffer.layOut_byteItems hguid,
    length_layOut, List.length_append, List.length_append, length_layOut, List.length_nil]
  omega

theorem not_relays_handleMovementOpcodes (h : getMovementStatusElementsSequence opcode = some sequence) :
    ¬ Relays normalize mi opcode (session.handleMovementOpcodes normalize opcode mi).flushBits.storage := by
  rintro ⟨time, hrecord, -⟩
  have hlt := @length_record_lt session normalize opcode sequence mi h time
  rw [hrecord] at hlt
  exact absurd hlt (lt_irrefl _)

theorem read_of_accept (h : session.accept opcode recv = some mi) :
    ∃ rest, read (.ofStorage recv) opcode = some (mi, rest) := by
  rw [accept] at h
  split at h
  · cases h
  · split at h
    · cases h
    next mi' rest hread =>
      split at h
      · cases h
        exact ⟨rest, hread⟩
      · cases h

theorem relays_handleMoveKnockBackAck (h : session.accept opcode recv = some mi) :
    Relays normalize mi .smsgMoveUpdateKnockBack (handleMoveKnockBackAck normalize mi).flushBits.storage := by
  obtain ⟨rest, hread⟩ := read_of_accept h
  obtain ⟨hflags, hflags2⟩ := flagsFit_read hread
  have hplain : ∀ element ∈ moveUpdateKnockBackSequence, element.isSpecial = false := by decide
  have hrecovers := @recovers_normalized_iff .smsgMoveUpdateKnockBack _ normalize mi rfl hplain hflags
    hflags2
  exact ⟨mi.time, rfl, hrecovers.mpr nofun⟩

/-- Of the packets that are broadcast those of a knock back alone are a record of the movement. -/
theorem relays_iff (haccept : session.accept opcode recv = some mi)
    (hrelay : session.relay normalize opcode recv = some (opcode', data)) :
    Relays normalize mi opcode' data.flushBits.storage ↔ opcode = .cmsgMoveKnockBackAck := by
  have hsequences : ∀ opcode ∈ movementOpcodes, (getMovementStatusElementsSequence opcode).isSome := by decide
  rw [relay] at hrelay
  split at hrelay
  next hknock =>
    rw [haccept, Option.map_some, Option.some.injEq, Prod.mk.injEq] at hrelay
    obtain ⟨rfl, rfl⟩ := hrelay
    exact iff_of_true (relays_handleMoveKnockBackAck haccept) hknock
  next hother =>
    split at hrelay
    next hmem =>
      rw [haccept, Option.map_some, Option.some.injEq, Prod.mk.injEq] at hrelay
      obtain ⟨rfl, rfl⟩ := hrelay
      obtain ⟨sequence, hsequence⟩ : ∃ sequence, getMovementStatusElementsSequence opcode = some sequence :=
        Option.isSome_iff_exists.mp (hsequences opcode hmem)
      exact iff_of_false (not_relays_handleMovementOpcodes hsequence) hother
    next => cases hrelay

/-- The session of a player with the guid 7 who moves himself. -/
private def ofPlayer : MoverSession where
  moverGuid i := if i.val = 0 then 7 else 0
  isPlayer := true
  isBeingTeleported := false
  isValidMapCoord _ := true
  isValidOnTransport _ _ := true
  newTime := 1000

private def standing : MovementInfo :=
  { MovementInfo.default with
    guid := ofPlayer.moverGuid
    pos := ⟨1, 2, 3, 4⟩
    si.hasTimeStamp := true }

private def knockBack : List UInt8 := standing.record ⟨id, id⟩ .cmsgMoveKnockBackAck

private def heartbeat : List UInt8 := standing.record ⟨id, id⟩ .msgMoveHeartbeat

theorem relays_knockBack : ∃ mi data, ofPlayer.accept .cmsgMoveKnockBackAck knockBack = some mi ∧
      ofPlayer.relay ⟨id, id⟩ .cmsgMoveKnockBackAck knockBack = some (.smsgMoveUpdateKnockBack, data) ∧
      Relays ⟨id, id⟩ mi .smsgMoveUpdateKnockBack data.flushBits.storage := by
  have haccepts : (ofPlayer.accept .cmsgMoveKnockBackAck knockBack).isSome := by decide +kernel
  obtain ⟨mi, haccept⟩ := Option.isSome_iff_exists.mp haccepts
  have hrelay : ofPlayer.relay ⟨id, id⟩ .cmsgMoveKnockBackAck knockBack =
      some (.smsgMoveUpdateKnockBack, handleMoveKnockBackAck ⟨id, id⟩ mi) := by
    rw [relay, if_pos rfl, haccept, Option.map_some]
  exact ⟨mi, _, haccept, hrelay, (relays_iff haccept hrelay).mpr rfl⟩

private theorem heartbeat_z : (ofPlayer.relay ⟨id, id⟩ .msgMoveHeartbeat heartbeat).bind (fun p =>
      (read (.ofStorage p.2.flushBits.storage) .msgMoveHeartbeat).map (·.1.pos.z)) = some 198401 ∧
    (ofPlayer.accept .msgMoveHeartbeat heartbeat).map (·.pos.z) = some 3 := by
  constructor
  · decide +kernel
  · decide +kernel

/-- A heartbeat that is broadcast is not one record, and it is read as a movement to another place. -/
theorem not_relays_heartbeat : ∃ mi data, ofPlayer.accept .msgMoveHeartbeat heartbeat = some mi ∧
      ofPlayer.relay ⟨id, id⟩ .msgMoveHeartbeat heartbeat = some (.msgMoveHeartbeat, data) ∧
      ¬ Relays ⟨id, id⟩ mi .msgMoveHeartbeat data.flushBits.storage ∧
      (read (.ofStorage data.flushBits.storage) .msgMoveHeartbeat).map (·.1.pos.z) ≠ some mi.pos.z := by
  have haccepts : (ofPlayer.accept .msgMoveHeartbeat heartbeat).isSome := by decide +kernel
  obtain ⟨hz, hz'⟩ := heartbeat_z
  obtain ⟨mi, haccept⟩ := Option.isSome_iff_exists.mp haccepts
  have hrelay : ofPlayer.relay ⟨id, id⟩ .msgMoveHeartbeat heartbeat =
      some (.msgMoveHeartbeat, ofPlayer.handleMovementOpcodes ⟨id, id⟩ .msgMoveHeartbeat mi) := by
    rw [relay, if_neg (by decide), if_pos (by decide), haccept, Option.map_some]
  rw [hrelay, Option.bind_some] at hz
  rw [haccept, Option.map_some] at hz'
  refine ⟨mi, _, haccept, hrelay, not_relays_handleMovementOpcodes rfl, ?_⟩
  rw [hz, hz']
  decide

end MoverSession

end Mangos
