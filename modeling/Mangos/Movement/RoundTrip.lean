import Mangos.Movement.MovementInfo

/-!
# Movement data is read as it was written

An element is read right when the elements that announce it have been read.
-/

namespace Mangos

open Framework

namespace MovementStatusElement

def needs : MovementStatusElement → List MovementStatusElement
  | .transportGuidBit _ => [.hasTransportData]
  | .guidByte i => [.guidBit i]
  | .transportGuidByte i => [.hasTransportData, .transportGuidBit i]
  | .flags => [.hasMovementFlags]
  | .flags2 => [.hasMovementFlags2]
  | .timestamp => [.hasTimestamp]
  | .positionO => [.hasOrientation]
  | .pitch => [.hasPitch]
  | .hasFallDirection | .fallTime | .fallVerticalSpeed => [.hasFallData]
  | .fallHorizontalSpeed | .fallCosAngle | .fallSinAngle => [.hasFallData, .hasFallDirection]
  | .splineElevation => [.hasSplineElevation]
  | .hasTransportTime2 | .hasTransportTime3 | .transportSeat | .transportPositionO | .transportPositionX
  | .transportPositionY | .transportPositionZ | .transportTime => [.hasTransportData]
  | .transportTime2 => [.hasTransportData, .hasTransportTime2]
  | .transportTime3 => [.hasTransportData, .hasTransportTime3]
  | _ => []

def excludes : MovementStatusElement → List MovementStatusElement
  | .guidBit i | .guidByte i => [.guidByte i]
  | .transportGuidBit i | .transportGuidByte i => [.transportGuidByte i]
  | _ => []

/-- An element of a second guid or a byte parameter. -/
def isSpecial : MovementStatusElement → Bool
  | .guid2Bit _ | .guid2Byte _ | .byteParam => true
  | _ => false

def inOrder (done : List MovementStatusElement) : List MovementStatusElement → Bool
  | [] => true
  | element :: elements =>
    element.needs.all (· ∈ done) && element.excludes.all (· ∉ done) && !element.isSpecial &&
      inOrder (element :: done) elements

end MovementStatusElement

open MovementStatusElement

namespace MovementReader

def guidAfter (guid : ObjectGuid) (bits bytes : Fin 8 → Bool) : ObjectGuid := fun i =>
  if bytes i then guid i else if bits i then (decide (guid i ≠ 0)).toUInt8 else 0

/-- What a reader holds after the elements in `done`. -/
def after (normalize : Normalization) (mi : MovementInfo) (done : List MovementStatusElement) :
    MovementReader where
  mi :=
    { guid := guidAfter mi.guid (fun i => .guidBit i ∈ done) fun i => .guidByte i ∈ done
      guid2 := ObjectGuid.empty
      moveFlags := if .flags ∈ done then mi.moveFlags else 0
      moveFlags2 := if .flags2 ∈ done then mi.moveFlags2 else 0
      time := if .timestamp ∈ done ∧ mi.si.hasTimeStamp then mi.time else 0
      pos :=
        { x := if .positionX ∈ done then mi.pos.x else 0
          y := if .positionY ∈ done then mi.pos.y else 0
          z := if .positionZ ∈ done then mi.pos.z else 0
          o := if .positionO ∈ done ∧ mi.si.hasOrientation then normalize.orientation mi.pos.o else 0 }
      t_guid := guidAfter mi.t_guid (fun i => .transportGuidBit i ∈ done) fun i =>
        .transportGuidByte i ∈ done
      t_pos :=
        { x := if .transportPositionX ∈ done ∧ mi.hasTransportData then mi.t_pos.x else 0
          y := if .transportPositionY ∈ done ∧ mi.hasTransportData then mi.t_pos.y else 0
          z := if .transportPositionZ ∈ done ∧ mi.hasTransportData then mi.t_pos.z else 0
          o := if .transportPositionO ∈ done ∧ mi.hasTransportData then
            normalize.orientation mi.t_pos.o else 0 }
      t_time := if .transportTime ∈ done ∧ mi.hasTransportData then mi.t_time else 0
      t_seat := if .transportSeat ∈ done ∧ mi.hasTransportData then mi.t_seat else 255
      t_time2 := if .transportTime2 ∈ done ∧ mi.hasTransportData ∧ mi.si.hasTransportTime2 then
        mi.t_time2 else 0
      s_pitch := if .pitch ∈ done ∧ mi.si.hasPitch then normalize.pitch mi.s_pitch else 0
      fallTime :=
        if (.fallTime ∈ done ∧ mi.si.hasFallData) ∨
            (.transportTime3 ∈ done ∧ mi.hasTransportData ∧ mi.si.hasTransportTime3) then mi.fallTime
        else 0
      jump :=
        { velocity := if .fallVerticalSpeed ∈ done ∧ mi.si.hasFallData then mi.jump.velocity else 0
          sinAngle := if .fallSinAngle ∈ done ∧ mi.si.hasFallData ∧ mi.si.hasFallDirection then
            mi.jump.sinAngle else 0
          cosAngle := if .fallCosAngle ∈ done ∧ mi.si.hasFallData ∧ mi.si.hasFallDirection then
            mi.jump.cosAngle else 0
          xyspeed := if .fallHorizontalSpeed ∈ done ∧ mi.si.hasFallData ∧ mi.si.hasFallDirection then
            mi.jump.xyspeed else 0 }
      splineElevation := if .splineElevation ∈ done ∧ mi.si.hasSplineElevation then
        mi.splineElevation else 0
      si :=
        { hasFallData := .hasFallData ∈ done ∧ mi.si.hasFallData
          hasFallDirection := .hasFallDirection ∈ done ∧ mi.si.hasFallData ∧ mi.si.hasFallDirection
          hasOrientation := .hasOrientation ∈ done ∧ mi.si.hasOrientation
          hasPitch := .hasPitch ∈ done ∧ mi.si.hasPitch
          hasSpline := .hasSpline ∈ done ∧ mi.si.hasSpline
          hasSplineElevation := .hasSplineElevation ∈ done ∧ mi.si.hasSplineElevation
          hasTimeStamp := .hasTimestamp ∈ done ∧ mi.si.hasTimeStamp
          hasTransportTime2 :=
            .hasTransportTime2 ∈ done ∧ mi.hasTransportData ∧ mi.si.hasTransportTime2
          hasTransportTime3 :=
            .hasTransportTime3 ∈ done ∧ mi.hasTransportData ∧ mi.si.hasTransportTime3 }
      byteParam := 0 }
  hasTransportData := .hasTransportData ∈ done ∧ mi.hasTransportData
  hasMovementFlags := .hasMovementFlags ∈ done ∧ mi.moveFlags ≠ 0
  hasMovementFlags2 := .hasMovementFlags2 ∈ done ∧ mi.moveFlags2 ≠ 0

variable {normalize : Normalization} {mi : MovementInfo} {done : List MovementStatusElement}
  {data : ByteBuffer} {whole : List UInt8} {items : List StreamItem}

theorem after_nil : after normalize mi [] = start := by
  have hnone : ∀ guid, guidAfter guid (fun _ => false) (fun _ => false) = ObjectGuid.empty :=
    fun _ => rfl
  simp [after, start, MovementInfo.default, hnone]

theorem readIf_eq {α : Type} {r r' : MovementReader} {there there' : Bool} {value : α}
    {read : ByteBuffer → Option (α × ByteBuffer)} {store : α → MovementReader}
    {partItems : List StreamItem} (hthere : there' = there)
    (h : data.Reads whole ((if there then partItems else []) ++ items))
    (hread : ∀ data : ByteBuffer, data.Reads whole (partItems ++ items) →
      ∃ data', read data = some (value, data') ∧ data'.Reads whole items)
    (hstore : there = true → store value = r') (hskip : there = false → r = r') :
    ∃ data', r.readIf data there' read store = some (r', data') ∧ data'.Reads whole items := by
  subst hthere
  cases there' with
  | true =>
    obtain ⟨data', hvalue, hrest⟩ := hread data h
    exact ⟨data', by rw [readIf, if_pos rfl, hvalue, Option.map_some, hstore rfl], hrest⟩
  | false => exact ⟨data, by rw [readIf, if_neg Bool.false_ne_true, hskip rfl], h⟩

theorem readIf_uint32 {r r' : MovementReader} {there there' : Bool} {value : UInt32} {store : UInt32 → MovementReader}
    (h : data.Reads whole ((if there then uint32Items value else []) ++ items)) (hthere : there' = there)
    (hstore : there = true → store value = r') (hskip : there = false → r = r') :
    ∃ data', r.readIf data there' ByteBuffer.readUInt32 store = some (r', data') ∧ data'.Reads whole items :=
  readIf_eq hthere h (fun _ hdata => hdata.readUInt32) hstore hskip

theorem readIf_bit {r r' : MovementReader} {there there' value : Bool} {store : Bool → MovementReader}
    (h : data.Reads whole ((if there then [.bit value] else []) ++ items)) (hthere : there' = there)
    (hstore : there = true → store value = r') (hskip : there = false → r = r') :
    ∃ data', r.readIf data there' ByteBuffer.readBit store = some (r', data') ∧ data'.Reads whole items :=
  readIf_eq hthere h (fun _ hdata => hdata.readBit) hstore hskip

theorem read_bit {r r' : MovementReader} {value : Bool} {store : Bool → MovementReader}
    (h : data.Reads whole (.bit value :: items)) (hstore : store value = r') :
    ∃ data', r.readIf data true ByteBuffer.readBit store = some (r', data') ∧ data'.Reads whole items := by
  have hpart : data.Reads whole ((if true then [.bit value] else []) ++ items) := h
  exact readIf_bit hpart rfl (fun _ => hstore) (fun hnot => by cases hnot)

theorem read_uint32 {r r' : MovementReader} {value : UInt32} {store : UInt32 → MovementReader}
    (h : data.Reads whole (uint32Items value ++ items)) (hstore : store value = r') :
    ∃ data', r.readIf data true ByteBuffer.readUInt32 store = some (r', data') ∧ data'.Reads whole items := by
  have hpart : data.Reads whole ((if true then uint32Items value else []) ++ items) := h
  exact readIf_uint32 hpart rfl (fun _ => hstore) (fun hnot => by cases hnot)

theorem guidByteItems_eq (byte : UInt8) :
    MovementInfo.guidByteItems byte = if decide (byte ≠ 0) then [.byte (byte ^^^ 1)] else [] := by
  simp [MovementInfo.guidByteItems]

theorem toUInt8_xor {byte : UInt8} (h : byte ≠ 0) : (decide (byte ≠ 0)).toUInt8 ^^^ (byte ^^^ 1) = byte := by
  have hbit : (decide (byte ≠ 0)).toUInt8 = 1 := by
    rw [decide_eq_true h]
    rfl
  rw [hbit, UInt8.xor_comm byte, ← UInt8.xor_assoc, UInt8.xor_self, UInt8.zero_xor]

theorem toUInt8_ne_zero (byte : UInt8) : decide ((decide (byte ≠ 0)).toUInt8 ≠ 0) = decide (byte ≠ 0) := by
  cases decide (byte ≠ 0) with
  | false => rfl
  | true => rfl

section Guid

private theorem toUInt8_false : false.toUInt8 = 0 := rfl

variable {guid : ObjectGuid} {bits bytes : Fin 8 → Bool} {i : Fin 8}

theorem guidAfter_bit (hbytes : bytes i = false) :
    Function.update (guidAfter guid bits bytes) i (decide (guid i ≠ 0)).toUInt8 =
      guidAfter guid (fun j => decide (j = i) || bits j) bytes := by
  funext j
  by_cases hj : j = i
  · subst hj
    simp [guidAfter, hbytes]
  · simp [guidAfter, hj]

theorem guidAfter_byte : Function.update (guidAfter guid bits bytes) i (guid i) =
      guidAfter guid bits fun j => decide (j = i) || bytes j := by
  funext j
  by_cases hj : j = i
  · subst hj
    simp [guidAfter]
  · simp [guidAfter, hj]

theorem guidAfter_bit_zero (hzero : guid i = 0) :
    guidAfter guid (fun j => decide (j = i) || bits j) bytes = guidAfter guid bits bytes := by
  funext j
  by_cases hj : j = i
  · subst hj
    simp [guidAfter, hzero, toUInt8_false]
  · simp [guidAfter, hj]

theorem guidAfter_byte_zero (hzero : guid i = 0) :
    guidAfter guid bits (fun j => decide (j = i) || bytes j) = guidAfter guid bits bytes := by
  funext j
  by_cases hj : j = i
  · subst hj
    simp [guidAfter, hzero, toUInt8_false]
  · simp [guidAfter, hj]

end Guid

theorem t_guid_eq_zero (h : mi.hasTransportData = false) (i : Fin 8) : mi.t_guid i = 0 := by
  have hempty : mi.t_guid = ObjectGuid.empty := by simpa [MovementInfo.hasTransportData] using h
  rw [hempty, ObjectGuid.empty]

theorem readElement_after {element : MovementStatusElement}
    (hneeds : ∀ e ∈ element.needs, e ∈ done) (hexcludes : ∀ e ∈ element.excludes, e ∉ done)
    (hspecial : element.isSpecial = false) (hflags : mi.moveFlags.toNat < 2 ^ 30)
    (hflags2 : mi.moveFlags2.toNat < 2 ^ 12) (h : data.Reads whole (mi.elementItems normalize element ++ items)) :
    ∃ data', (after normalize mi done).readElement data element =
      some (after normalize mi (element :: done), data') ∧ data'.Reads whole items := by
  cases element with
  | positionX | positionY | positionZ | movementCounter =>
    rw [readElement]
    apply read_uint32 h
    simp [after]
  | hasPitch | hasUnknownBit | hasMovementFlags | hasMovementFlags2 | hasTimestamp | hasOrientation
  | hasFallData | hasTransportData | hasSpline | hasSplineElevation =>
    rw [readElement]
    apply read_bit h
    simp [after]
  | hasFallDirection | hasTransportTime2 | hasTransportTime3 =>
    rw [readElement]
    apply readIf_bit h
    · simp only [needs, List.mem_singleton, forall_eq] at hneeds
      simp [after, hneeds]
    · intro hthere
      simp [after, hthere]
    · intro hthere
      simp [after, hthere]
  | timestamp | positionO | pitch | fallTime | splineElevation | fallVerticalSpeed | transportPositionO
  | transportPositionX | transportPositionY | transportPositionZ | transportTime =>
    rw [readElement]
    apply readIf_uint32 h
    · simp only [needs, List.mem_singleton, forall_eq] at hneeds
      simp [after, hneeds]
    · intro hthere
      simp [after, hthere]
    · intro hthere
      simp [after, hthere]
  | fallHorizontalSpeed | fallCosAngle | fallSinAngle | transportTime2 | transportTime3 =>
    rw [readElement]
    apply readIf_uint32 h
    · simp only [needs, List.mem_cons, List.not_mem_nil, or_false, forall_eq_or_imp, forall_eq]
        at hneeds
      simp [after, hneeds]
    · intro hthere
      rw [Bool.and_eq_true] at hthere
      simp [after, hthere]
    · intro hthere
      rcases Bool.and_eq_false_iff.mp hthere with hnot | hnot
      · simp [after, hnot]
      · simp [after, hnot]
  | transportSeat =>
    rw [readElement]
    apply readIf_eq _ h (fun _ hdata => hdata.readUInt8)
    · intro hthere
      simp [after, hthere]
    · intro hthere
      simp [after, hthere]
    · simp only [needs, List.mem_singleton, forall_eq] at hneeds
      simp [after, hneeds]
  | flags =>
    have hparts : mi.elementItems normalize .flags =
        if decide (mi.moveFlags ≠ 0) then bitItems mi.moveFlags.toNat 30 else [] := by
      simp [MovementInfo.elementItems]
    rw [hparts] at h
    rw [readElement]
    apply readIf_eq _ h (fun _ hdata => hdata.readBits)
    · intro hthere
      rw [Nat.mod_eq_of_lt hflags, UInt32.ofNat_toNat]
      simp [after]
    · intro hthere
      have hnone : mi.moveFlags = 0 := by simpa using hthere
      simp [after, hnone]
    · simp only [needs, List.mem_singleton, forall_eq] at hneeds
      simp [after, hneeds]
  | flags2 =>
    have hparts : mi.elementItems normalize .flags2 =
        if decide (mi.moveFlags2 ≠ 0) then bitItems mi.moveFlags2.toNat 12 else [] := by
      simp [MovementInfo.elementItems]
    rw [hparts] at h
    rw [readElement]
    apply readIf_eq _ h (fun _ hdata => hdata.readBits)
    · intro hthere
      rw [Nat.mod_eq_of_lt hflags2, UInt16.ofNat_toNat]
      simp [after]
    · intro hthere
      have hnone : mi.moveFlags2 = 0 := by simpa using hthere
      simp [after, hnone]
    · simp only [needs, List.mem_singleton, forall_eq] at hneeds
      simp [after, hneeds]
  | guidBit i =>
    simp only [excludes, List.mem_singleton, forall_eq] at hexcludes
    rw [readElement]
    apply read_bit h
    simp only [after]
    rw [guidAfter_bit (decide_eq_false hexcludes)]
    simp
  | transportGuidBit i =>
    simp only [excludes, List.mem_singleton, forall_eq] at hexcludes
    rw [readElement]
    apply readIf_bit h
    · simp only [needs, List.mem_singleton, forall_eq] at hneeds
      simp [after, hneeds]
    · intro hthere
      simp only [after]
      rw [guidAfter_bit (decide_eq_false hexcludes)]
      simp
    · intro hthere
      simp [after, guidAfter_bit_zero (t_guid_eq_zero hthere i)]
  | guidByte i =>
    simp only [excludes, List.mem_singleton, forall_eq] at hexcludes
    simp only [needs, List.mem_singleton, forall_eq] at hneeds
    have hbit : (after normalize mi done).mi.guid i = (decide (mi.guid i ≠ 0)).toUInt8 := by
      simp [after, guidAfter, hneeds, hexcludes]
    rw [readElement, hbit, toUInt8_ne_zero]
    rw [MovementInfo.elementItems, guidByteItems_eq] at h
    apply readIf_eq rfl h (fun _ hdata => hdata.readUInt8)
    · intro hthere
      rw [toUInt8_xor (of_decide_eq_true hthere)]
      simp only [after]
      rw [guidAfter_byte]
      simp
    · intro hthere
      have hzero : mi.guid i = 0 := by simpa using hthere
      simp [after, guidAfter_byte_zero hzero]
  | transportGuidByte i =>
    simp only [excludes, List.mem_singleton, forall_eq] at hexcludes
    simp only [needs, List.mem_cons, List.not_mem_nil, or_false, forall_eq_or_imp, forall_eq] at hneeds
    have hbit : (after normalize mi done).mi.t_guid i = (decide (mi.t_guid i ≠ 0)).toUInt8 := by
      simp [after, guidAfter, hneeds, hexcludes]
    have hparts : mi.elementItems normalize (.transportGuidByte i) =
        if mi.hasTransportData && decide (mi.t_guid i ≠ 0) then [.byte (mi.t_guid i ^^^ 1)] else [] := by
      rw [MovementInfo.elementItems, guidByteItems_eq]
      cases mi.hasTransportData with
      | false => rfl
      | true => rfl
    rw [readElement, hbit, toUInt8_ne_zero]
    rw [hparts] at h
    apply readIf_eq _ h (fun _ hdata => hdata.readUInt8)
    · intro hthere
      rw [toUInt8_xor (of_decide_eq_true (Bool.and_eq_true _ _ ▸ hthere).2)]
      simp only [after]
      rw [guidAfter_byte]
      simp
    · intro hthere
      have hzero : mi.t_guid i = 0 := by
        rcases Bool.and_eq_false_iff.mp hthere with hnot | hnot
        · exact t_guid_eq_zero hnot i
        · simpa using hnot
      simp [after, guidAfter_byte_zero hzero]
    · simp [after, hneeds]
  | guid2Bit i | guid2Byte i | byteParam => cases hspecial

theorem readElements_after {sequence : List MovementStatusElement}
    (horder : inOrder done sequence = true) (hflags : mi.moveFlags.toNat < 2 ^ 30)
    (hflags2 : mi.moveFlags2.toNat < 2 ^ 12)
    (h : data.Reads whole (sequence.flatMap (mi.elementItems normalize) ++ items)) :
    ∃ data', readElements sequence (after normalize mi done) data =
      some (after normalize mi (sequence.reverse ++ done), data') ∧ data'.Reads whole items := by
  induction sequence generalizing done data with
  | nil => exact ⟨data, rfl, h⟩
  | cons element elements ih =>
    simp only [inOrder, Bool.and_eq_true, List.all_eq_true, decide_eq_true_eq, Bool.not_eq_true']
      at horder
    obtain ⟨⟨⟨hneeds, hexcludes⟩, hspecial⟩, hrest⟩ := horder
    rw [List.flatMap_cons, List.append_assoc] at h
    obtain ⟨data₁, hread, h₁⟩ := readElement_after hneeds hexcludes hspecial hflags hflags2 h
    obtain ⟨data₂, hreads, h₂⟩ := ih hrest h₁
    refine ⟨data₂, ?_, h₂⟩
    rw [readElements, hread, Option.bind_some, hreads, List.reverse_cons, List.append_assoc, List.singleton_append]

end MovementReader

theorem inOrder_sequence {opcode : Opcode} {sequence : List MovementStatusElement}
    (h : getMovementStatusElementsSequence opcode = some sequence)
    (hplain : ∀ element ∈ sequence, element.isSpecial = false) : inOrder [] sequence = true := by
  cases opcode with
  | other value => cases h
  | cmsgChangeSeatsOnControlledVehicle =>
    cases h
    exact absurd (hplain .byteParam (by decide)) (by decide)
  | _ =>
    cases h
    decide +kernel

namespace MovementInfo

variable {normalize : Normalization} {mi : MovementInfo} {opcode : Opcode}
  {sequence : List MovementStatusElement}

/-- The bytes of a packet that consists of movement data. Its last bits are flushed before it is sent. -/
def record (normalize : Normalization) (mi : MovementInfo) (opcode : Opcode) : List UInt8 :=
  (mi.write normalize .empty opcode).flushBits.storage

theorem record_eq (h : getMovementStatusElementsSequence opcode = some sequence) :
    mi.record normalize opcode = layOut [] (sequence.flatMap (mi.elementItems normalize)) := by
  rw [record, write, h]
  exact ByteBuffer.storage_write _

theorem read_record (h : getMovementStatusElementsSequence opcode = some sequence)
    (hplain : ∀ element ∈ sequence, element.isSpecial = false) (hflags : mi.moveFlags.toNat < 2 ^ 30)
    (hflags2 : mi.moveFlags2.toNat < 2 ^ 12) : ∃ data, read (.ofStorage (mi.record normalize opcode)) opcode =
      some ((MovementReader.after normalize mi sequence.reverse).mi, data) ∧
      data.rpos = (mi.record normalize opcode).length := by
  have hdata := ByteBuffer.reads_ofStorage (sequence.flatMap (mi.elementItems normalize) ++ [])
  rw [List.append_nil, ← record_eq h] at hdata
  rw [← List.append_nil (sequence.flatMap _)] at hdata
  obtain ⟨data, hread, hend⟩ :=
    MovementReader.readElements_after (inOrder_sequence h hplain) hflags hflags2 hdata
  refine ⟨data, ?_, hend.rpos_eq⟩
  rw [read, h]
  dsimp only
  rw [← MovementReader.after_nil, hread, List.append_nil, Option.map_some]

end MovementInfo

end Mangos
