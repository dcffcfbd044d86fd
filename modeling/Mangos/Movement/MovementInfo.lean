import Mangos.Movement.ByteBuffer
import Mangos.Movement.Structures

/-!
# Movement data in packets

What a unit's movement consists of, and how it is written into a packet and read from one, element by
element.
-/

namespace Mangos

open Framework

abbrev ObjectGuid := Fin 8 → UInt8

def ObjectGuid.empty : ObjectGuid := fun _ => 0

structure Position where
  x : UInt32
  y : UInt32
  z : UInt32
  o : UInt32
  deriving DecidableEq

structure JumpInfo where
  velocity : UInt32
  sinAngle : UInt32
  cosAngle : UInt32
  xyspeed : UInt32
  deriving DecidableEq

/-- Which optional parts there are. -/
structure StatusInfo where
  hasFallData : Bool
  hasFallDirection : Bool
  hasOrientation : Bool
  hasPitch : Bool
  hasSpline : Bool
  hasSplineElevation : Bool
  hasTimeStamp : Bool
  hasTransportTime2 : Bool
  hasTransportTime3 : Bool
  deriving DecidableEq

/-- `MovementInfo`, where the seat is a byte, and -1 is 255. -/
structure MovementInfo where
  guid : ObjectGuid
  guid2 : ObjectGuid
  moveFlags : UInt32
  moveFlags2 : UInt16
  time : UInt32
  pos : Position
  t_guid : ObjectGuid
  t_pos : Position
  t_time : UInt32
  t_seat : UInt8
  t_time2 : UInt32
  s_pitch : UInt32
  fallTime : UInt32
  jump : JumpInfo
  splineElevation : UInt32
  si : StatusInfo
  byteParam : UInt8
  deriving DecidableEq

/-- How orientations and pitches are brought into their range. -/
structure Normalization where
  orientation : UInt32 → UInt32
  pitch : UInt32 → UInt32

namespace MovementInfo

def default : MovementInfo where
  guid := ObjectGuid.empty
  guid2 := ObjectGuid.empty
  moveFlags := 0
  moveFlags2 := 0
  time := 0
  pos := ⟨0, 0, 0, 0⟩
  t_guid := ObjectGuid.empty
  t_pos := ⟨0, 0, 0, 0⟩
  t_time := 0
  t_seat := 255
  t_time2 := 0
  s_pitch := 0
  fallTime := 0
  jump := ⟨0, 0, 0, 0⟩
  splineElevation := 0
  si := ⟨false, false, false, false, false, false, false, false, false⟩
  byteParam := 0

variable (normalize : Normalization) (mi : MovementInfo)

def hasTransportData : Bool := mi.t_guid ≠ ObjectGuid.empty

/-- A byte of a guid that is not zero, as `WriteByteSeq` writes it. -/
def guidByteItems (byte : UInt8) : List StreamItem := if byte ≠ 0 then [.byte (byte ^^^ 1)] else []

/-- What `Write` writes for an element; an element of a second guid or a byte parameter only fails an
assertion. -/
def elementItems : MovementStatusElement → List StreamItem
  | .guidBit i => [.bit (mi.guid i ≠ 0)]
  | .transportGuidBit i => if mi.hasTransportData then [.bit (mi.t_guid i ≠ 0)] else []
  | .guidByte i => guidByteItems (mi.guid i)
  | .transportGuidByte i => if mi.hasTransportData then guidByteItems (mi.t_guid i) else []
  | .hasMovementFlags => [.bit (mi.moveFlags = 0)]
  | .hasMovementFlags2 => [.bit (mi.moveFlags2 = 0)]
  | .flags => if mi.moveFlags ≠ 0 then bitItems mi.moveFlags.toNat 30 else []
  | .flags2 => if mi.moveFlags2 ≠ 0 then bitItems mi.moveFlags2.toNat 12 else []
  | .timestamp => if mi.si.hasTimeStamp then uint32Items mi.time else []
  | .hasPitch => [.bit !mi.si.hasPitch]
  | .hasTimestamp => [.bit !mi.si.hasTimeStamp]
  | .hasUnknownBit => [.bit false]
  | .hasFallData => [.bit mi.si.hasFallData]
  | .hasFallDirection => if mi.si.hasFallData then [.bit mi.si.hasFallDirection] else []
  | .hasTransportData => [.bit mi.hasTransportData]
  | .hasTransportTime2 => if mi.hasTransportData then [.bit mi.si.hasTransportTime2] else []
  | .hasTransportTime3 => if mi.hasTransportData then [.bit mi.si.hasTransportTime3] else []
  | .hasSpline => [.bit mi.si.hasSpline]
  | .hasSplineElevation => [.bit !mi.si.hasSplineElevation]
  | .positionX => uint32Items mi.pos.x
  | .positionY => uint32Items mi.pos.y
  | .positionZ => uint32Items mi.pos.z
  | .positionO => if mi.si.hasOrientation then uint32Items (normalize.orientation mi.pos.o) else []
  | .pitch => if mi.si.hasPitch then uint32Items (normalize.pitch mi.s_pitch) else []
  | .hasOrientation => [.bit !mi.si.hasOrientation]
  | .fallTime => if mi.si.hasFallData then uint32Items mi.fallTime else []
  | .splineElevation => if mi.si.hasSplineElevation then uint32Items mi.splineElevation else []
  | .fallHorizontalSpeed =>
    if mi.si.hasFallData && mi.si.hasFallDirection then uint32Items mi.jump.xyspeed else []
  | .fallVerticalSpeed => if mi.si.hasFallData then uint32Items mi.jump.velocity else []
  | .fallCosAngle =>
    if mi.si.hasFallData && mi.si.hasFallDirection then uint32Items mi.jump.cosAngle else []
  | .fallSinAngle =>
    if mi.si.hasFallData && mi.si.hasFallDirection then uint32Items mi.jump.sinAngle else []
  | .transportSeat => if mi.hasTransportData then [.byte mi.t_seat] else []
  | .transportPositionO =>
    if mi.hasTransportData then uint32Items (normalize.orientation mi.t_pos.o) else []
  | .transportPositionX => if mi.hasTransportData then uint32Items mi.t_pos.x else []
  | .transportPositionY => if mi.hasTransportData then uint32Items mi.t_pos.y else []
  | .transportPositionZ => if mi.hasTransportData then uint32Items mi.t_pos.z else []
  | .transportTime => if mi.hasTransportData then uint32Items mi.t_time else []
  | .transportTime2 =>
    if mi.hasTransportData && mi.si.hasTransportTime2 then uint32Items mi.t_time2 else []
  -- the third time has no field of its own
  | .transportTime3 =>
    if mi.hasTransportData && mi.si.hasTransportTime3 then uint32Items mi.fallTime else []
  | .movementCounter => uint32Items 0
  | .guid2Bit _ | .guid2Byte _ | .byteParam => []

/-- `MovementInfo::Write`, which does nothing for an opcode without a sequence. -/
def write (data : ByteBuffer) (opcode : Opcode) : ByteBuffer :=
  match getMovementStatusElementsSequence opcode with
  | none => data
  | some sequence => data.write (sequence.flatMap (mi.elementItems normalize))

end MovementInfo

/-- The local variables of `MovementInfo::Read`. -/
structure MovementReader where
  mi : MovementInfo
  hasTransportData : Bool
  hasMovementFlags : Bool
  hasMovementFlags2 : Bool
  deriving DecidableEq

namespace MovementReader

def start : MovementReader := ⟨.default, false, false, false⟩

variable (r : MovementReader) (data : ByteBuffer)

def readIf {α : Type} (there : Bool) (read : ByteBuffer → Option (α × ByteBuffer))
    (store : α → MovementReader) : Option (MovementReader × ByteBuffer) :=
  if there then (read data).map fun p => (store p.1, p.2) else some (r, data)

/-- What `Read` does with an element. -/
def readElement : MovementStatusElement → Option (MovementReader × ByteBuffer)
  | .guidBit i => r.readIf data true ByteBuffer.readBit fun bit =>
    { r with mi.guid := Function.update r.mi.guid i bit.toUInt8 }
  | .guid2Bit i => r.readIf data true ByteBuffer.readBit fun bit =>
    { r with mi.guid2 := Function.update r.mi.guid2 i bit.toUInt8 }
  | .transportGuidBit i => r.readIf data r.hasTransportData ByteBuffer.readBit fun bit =>
    { r with mi.t_guid := Function.update r.mi.t_guid i bit.toUInt8 }
  | .guidByte i => r.readIf data (r.mi.guid i ≠ 0) ByteBuffer.readUInt8 fun byte =>
    { r with mi.guid := Function.update r.mi.guid i (r.mi.guid i ^^^ byte) }
  | .guid2Byte i => r.readIf data (r.mi.guid2 i ≠ 0) ByteBuffer.readUInt8 fun byte =>
    { r with mi.guid2 := Function.update r.mi.guid2 i (r.mi.guid2 i ^^^ byte) }
  | .transportGuidByte i =>
    r.readIf data (r.hasTransportData && r.mi.t_guid i ≠ 0) ByteBuffer.readUInt8 fun byte =>
      { r with mi.t_guid := Function.update r.mi.t_guid i (r.mi.t_guid i ^^^ byte) }
  | .flags => r.readIf data r.hasMovementFlags (ByteBuffer.readBits 30) fun value =>
    { r with mi.moveFlags := .ofNat value }
  | .flags2 => r.readIf data r.hasMovementFlags2 (ByteBuffer.readBits 12) fun value =>
    { r with mi.moveFlags2 := .ofNat value }
  | .hasUnknownBit => r.readIf data true ByteBuffer.readBit fun _ => r
  | .timestamp => r.readIf data r.mi.si.hasTimeStamp ByteBuffer.readUInt32 fun value =>
    { r with mi.time := value }
  | .hasTimestamp => r.readIf data true ByteBuffer.readBit fun bit =>
    { r with mi.si.hasTimeStamp := !bit }
  | .hasOrientation => r.readIf data true ByteBuffer.readBit fun bit =>
    { r with mi.si.hasOrientation := !bit }
  | .hasMovementFlags => r.readIf data true ByteBuffer.readBit fun bit =>
    { r with hasMovementFlags := !bit }
  | .hasMovementFlags2 => r.readIf data true ByteBuffer.readBit fun bit =>
    { r with hasMovementFlags2 := !bit }
  | .hasPitch => r.readIf data true ByteBuffer.readBit fun bit => { r with mi.si.hasPitch := !bit }
  | .hasFallData => r.readIf data true ByteBuffer.readBit fun bit =>
    { r with mi.si.hasFallData := bit }
  | .hasFallDirection => r.readIf data r.mi.si.hasFallData ByteBuffer.readBit fun bit =>
    { r with mi.si.hasFallDirection := bit }
  | .hasTransportData => r.readIf data true ByteBuffer.readBit fun bit =>
    { r with hasTransportData := bit }
  | .hasTransportTime2 => r.readIf data r.hasTransportData ByteBuffer.readBit fun bit =>
    { r with mi.si.hasTransportTime2 := bit }
  | .hasTransportTime3 => r.readIf data r.hasTransportData ByteBuffer.readBit fun bit =>
    { r with mi.si.hasTransportTime3 := bit }
  | .hasSpline => r.readIf data true ByteBuffer.readBit fun bit => { r with mi.si.hasSpline := bit }
  | .hasSplineElevation => r.readIf data true ByteBuffer.readBit fun bit =>
    { r with mi.si.hasSplineElevation := !bit }
  | .positionX => r.readIf data true ByteBuffer.readUInt32 fun value => { r with mi.pos.x := value }
  | .positionY => r.readIf data true ByteBuffer.readUInt32 fun value => { r with mi.pos.y := value }
  | .positionZ => r.readIf data true ByteBuffer.readUInt32 fun value => { r with mi.pos.z := value }
  | .positionO => r.readIf data r.mi.si.hasOrientation ByteBuffer.readUInt32 fun value =>
    { r with mi.pos.o := value }
  | .pitch => r.readIf data r.mi.si.hasPitch ByteBuffer.readUInt32 fun value =>
    { r with mi.s_pitch := value }
  | .fallTime => r.readIf data r.mi.si.hasFallData ByteBuffer.readUInt32 fun value =>
    { r with mi.fallTime := value }
  | .splineElevation => r.readIf data r.mi.si.hasSplineElevation ByteBuffer.readUInt32 fun value =>
    { r with mi.splineElevation := value }
  | .fallHorizontalSpeed =>
    r.readIf data (r.mi.si.hasFallData && r.mi.si.hasFallDirection) ByteBuffer.readUInt32 fun value =>
      { r with mi.jump.xyspeed := value }
  | .fallVerticalSpeed => r.readIf data r.mi.si.hasFallData ByteBuffer.readUInt32 fun value =>
    { r with mi.jump.velocity := value }
  | .fallCosAngle =>
    r.readIf data (r.mi.si.hasFallData && r.mi.si.hasFallDirection) ByteBuffer.readUInt32 fun value =>
      { r with mi.jump.cosAngle := value }
  | .fallSinAngle =>
    r.readIf data (r.mi.si.hasFallData && r.mi.si.hasFallDirection) ByteBuffer.readUInt32 fun value =>
      { r with mi.jump.sinAngle := value }
  | .transportSeat => r.readIf data r.hasTransportData ByteBuffer.readUInt8 fun value =>
    { r with mi.t_seat := value }
  | .transportPositionO => r.readIf data r.hasTransportData ByteBuffer.readUInt32 fun value =>
    { r with mi.t_pos.o := value }
  | .transportPositionX => r.readIf data r.hasTransportData ByteBuffer.readUInt32 fun value =>
    { r with mi.t_pos.x := value }
  | .transportPositionY => r.readIf data r.hasTransportData ByteBuffer.readUInt32 fun value =>
    { r with mi.t_pos.y := value }
  | .transportPositionZ => r.readIf data r.hasTransportData ByteBuffer.readUInt32 fun value =>
    { r with mi.t_pos.z := value }
  | .transportTime => r.readIf data r.hasTransportData ByteBuffer.readUInt32 fun value =>
    { r with mi.t_time := value }
  | .transportTime2 =>
    r.readIf data (r.hasTransportData && r.mi.si.hasTransportTime2) ByteBuffer.readUInt32 fun value =>
      { r with mi.t_time2 := value }
  | .transportTime3 =>
    r.readIf data (r.hasTransportData && r.mi.si.hasTransportTime3) ByteBuffer.readUInt32 fun value =>
      { r with mi.fallTime := value }
  | .movementCounter => r.readIf data true ByteBuffer.readUInt32 fun _ => r
  | .byteParam => r.readIf data true ByteBuffer.readUInt8 fun value => { r with mi.byteParam := value }

/-- The loop of `Read`. -/
def readElements : List MovementStatusElement → MovementReader → ByteBuffer → Option (MovementReader × ByteBuffer)
  | [], r, data => some (r, data)
  | element :: elements, r, data =>
    (r.readElement data element).bind fun p => readElements elements p.1 p.2

end MovementReader

/-- `MovementInfo::Read` into a new movement info; without the bytes that an element needs it throws. -/
def MovementInfo.read (data : ByteBuffer) (opcode : Opcode) : Option (MovementInfo × ByteBuffer) :=
  match getMovementStatusElementsSequence opcode with
  | none => some (.default, data)
  | some sequence =>
    (MovementReader.readElements sequence .start data).map fun p => (p.1.mi, p.2)

end Mangos
