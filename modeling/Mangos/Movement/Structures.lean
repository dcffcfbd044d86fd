import Mathlib.Data.Fin.Basic

/-!
# The elements of movement packets

Each movement packet is a sequence of elements, in an order of its own for each opcode.
-/

namespace Mangos

/-- `MovementStatusElements`, without the end mark. -/
inductive MovementStatusElement
  | flags
  | flags2
  | timestamp
  | hasPitch
  | guidBit (i : Fin 8)
  | guid2Bit (i : Fin 8)
  | hasUnknownBit
  | hasMovementFlags
  | hasMovementFlags2
  | hasTimestamp
  | hasOrientation
  | hasFallData
  | hasFallDirection
  | hasTransportData
  | hasTransportTime2
  | hasTransportTime3
  | transportGuidBit (i : Fin 8)
  | hasSpline
  | hasSplineElevation
  | positionX
  | positionY
  | positionZ
  | positionO
  | guidByte (i : Fin 8)
  | guid2Byte (i : Fin 8)
  | pitch
  | fallTime
  | transportGuidByte (i : Fin 8)
  | splineElevation
  | fallHorizontalSpeed
  | fallVerticalSpeed
  | fallCosAngle
  | fallSinAngle
  | transportSeat
  | transportPositionO
  | transportPositionX
  | transportPositionY
  | transportPositionZ
  | transportTime
  | transportTime2
  | transportTime3
  | movementCounter
  | byteParam
  deriving DecidableEq

/-- The opcodes whose packets have movement elements, and all others by their number. -/
inductive Opcode
  | cmsgCastSpell
  | cmsgPetCastSpell
  | cmsgUseItem
  | cmsgMoveChngTransport
  | cmsgMoveFallLand
  | cmsgMoveFallReset
  | cmsgMoveJump
  | cmsgMoveSetCanFlyAck
  | cmsgMoveSetFacing
  | cmsgMoveSetPitch
  | cmsgMoveSetRunMode
  | cmsgMoveSetWalkMode
  | cmsgMoveSplineDone
  | cmsgMoveStartBackward
  | cmsgMoveStartForward
  | cmsgMoveStartStrafeLeft
  | cmsgMoveStartStrafeRight
  | cmsgMoveStartTurnLeft
  | cmsgMoveStartTurnRight
  | cmsgMoveStop
  | cmsgMoveStopStrafe
  | cmsgMoveStopTurn
  | cmsgMoveStartAscend
  | cmsgMoveStartDescend
  | cmsgMoveStartSwim
  | cmsgMoveStopSwim
  | cmsgMoveStopAscend
  | cmsgMoveStartPitchDown
  | cmsgMoveStartPitchUp
  | cmsgMoveStopPitch
  | msgMoveHeartbeat
  | smsgPlayerMove
  | cmsgDismissControlledVehicle
  | cmsgChangeSeatsOnControlledVehicle
  | cmsgMoveKnockBackAck
  | smsgMoveUpdateKnockBack
  | cmsgMoveNotActiveMover
  | other (value : Nat)
  deriving DecidableEq

def playerMoveSequence : List MovementStatusElement :=
  [.hasFallData, .guidBit 3, .guidBit 6, .hasMovementFlags2, .hasSpline, .hasTimestamp,
   .guidBit 0, .guidBit 1, .flags2, .guidBit 7, .hasMovementFlags, .hasOrientation, .guidBit 2,
   .hasSplineElevation, .hasUnknownBit, .guidBit 4, .hasFallDirection, .guidBit 5,
   .hasTransportData, .flags, .transportGuidBit 3, .hasTransportTime3, .transportGuidBit 6,
   .transportGuidBit 1, .transportGuidBit 7, .transportGuidBit 0, .transportGuidBit 4,
   .hasTransportTime2, .transportGuidBit 5, .transportGuidBit 2, .hasPitch, .guidByte 5,
   .fallHorizontalSpeed, .fallCosAngle, .fallSinAngle, .fallVerticalSpeed, .fallTime,
   .splineElevation, .guidByte 7, .positionY, .guidByte 3, .transportTime3,
   .transportGuidByte 6, .transportSeat, .transportGuidByte 5, .transportPositionX,
   .transportGuidByte 1, .transportPositionO, .transportGuidByte 2, .transportTime2,
   .transportGuidByte 0, .transportPositionZ, .transportGuidByte 7, .transportGuidByte 4,
   .transportGuidByte 3, .transportPositionY, .transportTime, .guidByte 4, .positionX,
   .guidByte 6, .positionZ, .timestamp, .guidByte 2, .pitch, .guidByte 0, .positionO, .guidByte 1]

def movementFallLandSequence : List MovementStatusElement :=
  [.positionX, .positionY, .positionZ, .hasTransportData, .guidBit 7, .guidBit 1,
   .hasMovementFlags2, .guidBit 3, .hasSplineElevation, .hasOrientation, .guidBit 6,
   .hasTimestamp, .hasUnknownBit, .hasPitch, .guidBit 4, .hasSpline, .guidBit 5,
   .hasMovementFlags, .hasFallData, .guidBit 0, .guidBit 2, .transportGuidBit 0,
   .transportGuidBit 5, .transportGuidBit 3, .transportGuidBit 2, .hasTransportTime3,
   .hasTransportTime2, .transportGuidBit 6, .transportGuidBit 4, .transportGuidBit 1,
   .transportGuidBit 7, .flags2, .flags, .hasFallDirection, .guidByte 1, .guidByte 7,
   .guidByte 4, .guidByte 3, .guidByte 6, .guidByte 0, .guidByte 2, .guidByte 5, .transportTime,
   .transportPositionZ, .transportPositionY, .transportPositionX, .transportGuidByte 5,
   .transportTime3, .transportGuidByte 1, .transportSeat, .transportTime2, .transportGuidByte 4,
   .transportPositionO, .transportGuidByte 0, .transportGuidByte 7, .transportGuidByte 3,
   .transportGuidByte 6, .transportGuidByte 2, .fallVerticalSpeed, .fallTime, .fallCosAngle,
   .fallHorizontalSpeed, .fallSinAngle, .splineElevation, .timestamp, .pitch, .positionO]

def movementHeartBeatSequence : List MovementStatusElement :=
  [.positionZ, .positionX, .positionY, .hasPitch, .hasTimestamp, .hasFallData,
   .hasMovementFlags2, .hasTransportData, .guidBit 7, .guidBit 1, .guidBit 0, .guidBit 4,
   .guidBit 2, .hasOrientation, .guidBit 5, .guidBit 3, .hasSplineElevation, .hasSpline,
   .hasUnknownBit, .guidBit 6, .hasMovementFlags, .hasTransportTime3, .transportGuidBit 4,
   .transportGuidBit 2, .hasTransportTime2, .transportGuidBit 5, .transportGuidBit 7,
   .transportGuidBit 6, .transportGuidBit 0, .transportGuidBit 3, .transportGuidBit 1,
   .hasFallDirection, .flags, .flags2, .guidByte 3, .guidByte 6, .guidByte 1, .guidByte 7,
   .guidByte 2, .guidByte 5, .guidByte 0, .guidByte 4, .transportPositionZ, .transportSeat,
   .transportPositionO, .transportGuidByte 4, .transportPositionY, .transportTime,
   .transportPositionX, .transportGuidByte 5, .transportGuidByte 1, .transportGuidByte 3,
   .transportGuidByte 7, .transportTime3, .transportTime2, .transportGuidByte 2,
   .transportGuidByte 0, .transportGuidByte 6, .positionO, .fallVerticalSpeed, .fallTime,
   .fallHorizontalSpeed, .fallSinAngle, .fallCosAngle, .pitch, .splineElevation, .timestamp]

def movementJumpSequence : List MovementStatusElement :=
  [.positionY, .positionX, .positionZ, .hasTimestamp, .guidBit 5, .hasMovementFlags, .guidBit 4,
   .guidBit 6, .hasMovementFlags2, .guidBit 0, .hasTransportData, .guidBit 3, .hasPitch,
   .guidBit 7, .hasFallData, .hasSpline, .hasOrientation, .guidBit 1, .hasSplineElevation,
   .hasUnknownBit, .guidBit 2, .transportGuidBit 3, .transportGuidBit 7, .transportGuidBit 6,
   .transportGuidBit 0, .transportGuidBit 5, .transportGuidBit 1, .transportGuidBit 4,
   .hasTransportTime3, .hasTransportTime2, .transportGuidBit 2, .hasFallDirection, .flags,
   .flags2, .guidByte 6, .guidByte 5, .guidByte 4, .guidByte 0, .guidByte 2, .guidByte 3,
   .guidByte 7, .guidByte 1, .transportGuidByte 1, .transportGuidByte 7, .transportPositionX,
   .transportGuidByte 4, .transportTime3, .transportGuidByte 0, .transportPositionO,
   .transportTime2, .transportTime, .transportGuidByte 6, .transportPositionZ, .transportSeat,
   .transportPositionY, .transportGuidByte 3, .transportGuidByte 2, .transportGuidByte 5,
   .pitch, .timestamp, .fallCosAngle, .fallSinAngle, .fallHorizontalSpeed, .fallVerticalSpeed,
   .fallTime, .splineElevation, .positionO]

def movementSetFacingSequence : List MovementStatusElement :=
  [.positionX, .positionY, .positionZ, .guidBit 6, .hasTransportData, .guidBit 4, .hasSpline,
   .guidBit 0, .hasOrientation, .hasTimestamp, .hasPitch, .hasMovementFlags2, .guidBit 5,
   .guidBit 7, .guidBit 2, .hasFallData, .hasSplineElevation, .hasMovementFlags, .guidBit 3,
   .hasUnknownBit, .guidBit 1, .hasTransportTime3, .transportGuidBit 3, .transportGuidBit 7,
   .transportGuidBit 5, .transportGuidBit 2, .transportGuidBit 6, .transportGuidBit 0,
   .hasTransportTime2, .transportGuidBit 4, .transportGuidBit 1, .hasFallDirection, .flags2,
   .flags, .guidByte 6, .guidByte 7, .guidByte 2, .guidByte 0, .guidByte 4, .guidByte 1,
   .guidByte 5, .guidByte 3, .transportGuidByte 0, .transportPositionX, .transportGuidByte 1,
   .transportTime2, .transportGuidByte 4, .transportPositionZ, .transportPositionO,
   .transportGuidByte 2, .transportTime3, .transportGuidByte 3, .transportSeat,
   .transportPositionY, .transportGuidByte 5, .transportGuidByte 6, .transportTime,
   .transportGuidByte 7, .fallHorizontalSpeed, .fallSinAngle, .fallCosAngle, .fallTime,
   .fallVerticalSpeed, .splineElevation, .positionO, .timestamp, .pitch]

def movementSetPitchSequence : List MovementStatusElement :=
  [.positionX, .positionZ, .positionY, .hasFallData, .hasMovementFlags, .guidBit 1,
   .hasOrientation, .guidBit 7, .guidBit 3, .hasMovementFlags2, .hasTransportData,
   .hasSplineElevation, .guidBit 6, .hasPitch, .guidBit 4, .hasSpline, .guidBit 2,
   .hasUnknownBit, .hasTimestamp, .guidBit 0, .guidBit 5, .transportGuidBit 3,
   .transportGuidBit 6, .transportGuidBit 2, .transportGuidBit 4, .transportGuidBit 0,
   .transportGuidBit 1, .transportGuidBit 5, .hasTransportTime3, .transportGuidBit 7,
   .hasTransportTime2, .flags2, .flags, .hasFallDirection, .guidByte 3, .guidByte 7,
   .guidByte 1, .guidByte 6, .guidByte 0, .guidByte 5, .guidByte 2, .guidByte 4,
   .transportGuidByte 4, .transportGuidByte 3, .transportGuidByte 6, .transportPositionO,
   .transportGuidByte 1, .transportTime3, .transportTime, .transportGuidByte 2,
   .transportPositionZ, .transportGuidByte 0, .transportTime2, .transportPositionY,
   .transportGuidByte 5, .transportSeat, .transportGuidByte 7, .transportPositionX,
   .fallVerticalSpeed, .fallTime, .fallHorizontalSpeed, .fallCosAngle, .fallSinAngle, .pitch,
   .splineElevation, .timestamp, .positionO]

def movementStartBackwardSequence : List MovementStatusElement :=
  [.positionX, .positionZ, .positionY, .hasTransportData, .guidBit 3, .guidBit 0, .guidBit 2,
   .hasTimestamp, .guidBit 7, .hasPitch, .hasUnknownBit, .hasMovementFlags, .hasOrientation,
   .hasSpline, .hasMovementFlags2, .hasFallData, .guidBit 5, .guidBit 1, .guidBit 4, .guidBit 6,
   .hasSplineElevation, .transportGuidBit 3, .transportGuidBit 1, .hasTransportTime2,
   .transportGuidBit 2, .transportGuidBit 7, .transportGuidBit 0, .transportGuidBit 6,
   .transportGuidBit 5, .transportGuidBit 4, .hasTransportTime3, .flags, .flags2,
   .hasFallDirection, .guidByte 6, .guidByte 7, .guidByte 4, .guidByte 1, .guidByte 5,
   .guidByte 0, .guidByte 2, .guidByte 3, .transportPositionZ, .transportGuidByte 2,
   .transportTime3, .transportGuidByte 0, .transportGuidByte 5, .transportPositionY,
   .transportGuidByte 1, .transportPositionX, .transportTime2, .transportGuidByte 4,
   .transportPositionO, .transportSeat, .transportGuidByte 7, .transportTime,
   .transportGuidByte 6, .transportGuidByte 3, .pitch, .timestamp, .fallHorizontalSpeed,
   .fallSinAngle, .fallCosAngle, .fallVerticalSpeed, .fallTime, .positionO, .splineElevation]

def movementStartForwardSequence : List MovementStatusElement :=
  [.positionY, .positionZ, .positionX, .guidBit 5, .guidBit 2, .guidBit 0, .hasUnknownBit,
   .hasMovementFlags, .guidBit 7, .guidBit 3, .guidBit 1, .hasOrientation, .guidBit 6,
   .hasSpline, .hasSplineElevation, .guidBit 4, .hasTransportData, .hasTimestamp, .hasPitch,
   .hasMovementFlags2, .hasFallData, .flags, .transportGuidBit 3, .transportGuidBit 4,
   .transportGuidBit 6, .transportGuidBit 2, .transportGuidBit 5, .transportGuidBit 0,
   .transportGuidBit 7, .transportGuidBit 1, .hasTransportTime3, .hasTransportTime2,
   .hasFallDirection, .flags2, .guidByte 2, .guidByte 4, .guidByte 6, .guidByte 1, .guidByte 7,
   .guidByte 3, .guidByte 5, .guidByte 0, .fallVerticalSpeed, .fallHorizontalSpeed,
   .fallCosAngle, .fallSinAngle, .fallTime, .transportGuidByte 3, .transportPositionY,
   .transportPositionZ, .transportGuidByte 1, .transportGuidByte 4, .transportGuidByte 7,
   .transportPositionO, .transportGuidByte 2, .transportPositionX, .transportGuidByte 5,
   .transportTime3, .transportTime, .transportGuidByte 6, .transportGuidByte 0, .transportSeat,
   .transportTime2, .splineElevation, .pitch, .positionO, .timestamp]

def movementStartStrafeLeftSequence : List MovementStatusElement :=
  [.positionZ, .positionX, .positionY, .hasSplineElevation, .guidBit 5, .hasPitch, .guidBit 6,
   .hasTimestamp, .guidBit 1, .hasUnknownBit, .guidBit 4, .guidBit 0, .guidBit 2, .hasFallData,
   .hasOrientation, .guidBit 3, .hasMovementFlags2, .guidBit 7, .hasSpline, .hasMovementFlags,
   .hasTransportData, .hasFallDirection, .hasTransportTime2, .transportGuidBit 7,
   .hasTransportTime3, .transportGuidBit 3, .transportGuidBit 1, .transportGuidBit 6,
   .transportGuidBit 5, .transportGuidBit 2, .transportGuidBit 4, .transportGuidBit 0, .flags,
   .flags2, .guidByte 2, .guidByte 6, .guidByte 3, .guidByte 1, .guidByte 0, .guidByte 7,
   .guidByte 4, .guidByte 5, .fallSinAngle, .fallHorizontalSpeed, .fallCosAngle, .fallTime,
   .fallVerticalSpeed, .transportSeat, .transportGuidByte 2, .transportTime2,
   .transportGuidByte 3, .transportPositionZ, .transportTime3, .transportGuidByte 0,
   .transportGuidByte 7, .transportPositionY, .transportGuidByte 5, .transportGuidByte 1,
   .transportPositionO, .transportTime, .transportGuidByte 6, .transportGuidByte 4,
   .transportPositionX, .timestamp, .positionO, .pitch, .splineElevation]

def movementStartStrafeRightSequence : List MovementStatusElement :=
  [.positionY, .positionX, .positionZ, .hasPitch, .guidBit 1, .hasOrientation, .guidBit 4,
   .hasSpline, .hasUnknownBit, .guidBit 5, .hasFallData, .hasSplineElevation, .hasTimestamp,
   .hasMovementFlags, .guidBit 2, .guidBit 7, .guidBit 6, .guidBit 3, .hasMovementFlags2,
   .hasTransportData, .guidBit 0, .transportGuidBit 7, .transportGuidBit 2, .transportGuidBit 3,
   .transportGuidBit 5, .transportGuidBit 0, .hasTransportTime2, .transportGuidBit 6,
   .transportGuidBit 1, .transportGuidBit 4, .hasTransportTime3, .flags2, .flags,
   .hasFallDirection, .guidByte 7, .guidByte 5, .guidByte 3, .guidByte 1, .guidByte 2,
   .guidByte 4, .guidByte 6, .guidByte 0, .transportGuidByte 5, .transportGuidByte 1,
   .transportGuidByte 6, .transportPositionY, .transportPositionO, .transportGuidByte 0,
   .transportGuidByte 2, .transportSeat, .transportPositionX, .transportTime3, .transportTime,
   .transportGuidByte 4, .transportGuidByte 7, .transportTime2, .transportPositionZ,
   .transportGuidByte 3, .pitch, .positionO, .fallCosAngle, .fallSinAngle, .fallHorizontalSpeed,
   .fallTime, .fallVerticalSpeed, .timestamp, .splineElevation]

def movementStartTurnLeftSequence : List MovementStatusElement :=
  [.positionY, .positionX, .positionZ, .hasUnknownBit, .guidBit 1, .hasOrientation, .hasSpline,
   .hasMovementFlags, .guidBit 4, .guidBit 2, .hasMovementFlags2, .guidBit 5, .guidBit 7,
   .hasTransportData, .guidBit 6, .hasSplineElevation, .guidBit 0, .guidBit 3, .hasPitch,
   .hasTimestamp, .hasFallData, .flags2, .transportGuidBit 3, .transportGuidBit 1,
   .transportGuidBit 0, .hasTransportTime2, .transportGuidBit 2, .hasTransportTime3,
   .transportGuidBit 4, .transportGuidBit 7, .transportGuidBit 5, .transportGuidBit 6,
   .hasFallDirection, .flags, .guidByte 0, .guidByte 4, .guidByte 7, .guidByte 5, .guidByte 6,
   .guidByte 3, .guidByte 2, .guidByte 1, .fallSinAngle, .fallCosAngle, .fallHorizontalSpeed,
   .fallVerticalSpeed, .fallTime, .transportGuidByte 0, .transportPositionX, .transportTime,
   .transportSeat, .transportPositionZ, .transportGuidByte 4, .transportPositionO,
   .transportGuidByte 2, .transportGuidByte 6, .transportGuidByte 1, .transportGuidByte 3,
   .transportPositionY, .transportTime3, .transportTime2, .transportGuidByte 5,
   .transportGuidByte 7, .timestamp, .pitch, .positionO, .splineElevation]

def movementStartTurnRightSequence : List MovementStatusElement :=
  [.positionX, .positionZ, .positionY, .guidBit 3, .guidBit 5, .hasMovementFlags, .hasSpline,
   .guidBit 0, .hasOrientation, .hasTransportData, .guidBit 7, .hasUnknownBit,
   .hasMovementFlags2, .guidBit 1, .hasTimestamp, .guidBit 6, .guidBit 2, .guidBit 4,
   .hasSplineElevation, .hasPitch, .hasFallData, .transportGuidBit 1, .hasTransportTime2,
   .transportGuidBit 6, .transportGuidBit 0, .transportGuidBit 3, .transportGuidBit 5,
   .transportGuidBit 2, .transportGuidBit 4, .transportGuidBit 7, .hasTransportTime3, .flags2,
   .flags, .hasFallDirection, .guidByte 5, .guidByte 0, .guidByte 7, .guidByte 3, .guidByte 2,
   .guidByte 1, .guidByte 4, .guidByte 6, .transportPositionY, .transportGuidByte 0,
   .transportGuidByte 4, .transportGuidByte 1, .transportGuidByte 6, .transportGuidByte 2,
   .transportSeat, .transportPositionO, .transportGuidByte 5, .transportTime3,
   .transportPositionZ, .transportPositionX, .transportTime, .transportGuidByte 7,
   .transportGuidByte 3, .transportTime2, .fallHorizontalSpeed, .fallSinAngle, .fallCosAngle,
   .fallTime, .fallVerticalSpeed, .pitch, .positionO, .splineElevation, .timestamp]

def movementStopSequence : List MovementStatusElement :=
  [.positionX, .positionY, .positionZ, .guidBit 3, .guidBit 6, .hasSplineElevation, .hasSpline,
   .hasOrientation, .guidBit 7, .hasMovementFlags, .guidBit 5, .hasFallData, .hasMovementFlags2,
   .hasTransportData, .hasTimestamp, .guidBit 4, .guidBit 1, .hasUnknownBit, .guidBit 2,
   .guidBit 0, .hasPitch, .transportGuidBit 7, .transportGuidBit 4, .transportGuidBit 1,
   .transportGuidBit 5, .hasTransportTime2, .hasTransportTime3, .transportGuidBit 3,
   .transportGuidBit 6, .transportGuidBit 0, .transportGuidBit 2, .flags, .flags2,
   .hasFallDirection, .guidByte 6, .guidByte 3, .guidByte 0, .guidByte 4, .guidByte 2,
   .guidByte 1, .guidByte 5, .guidByte 7, .transportGuidByte 4, .transportGuidByte 7,
   .transportTime, .transportSeat, .transportPositionZ, .transportTime3, .transportGuidByte 2,
   .transportGuidByte 0, .transportPositionY, .transportGuidByte 1, .transportGuidByte 3,
   .transportTime2, .transportPositionX, .transportPositionO, .transportGuidByte 5,
   .transportGuidByte 6, .timestamp, .positionO, .pitch, .splineElevation, .fallCosAngle,
   .fallSinAngle, .fallHorizontalSpeed, .fallVerticalSpeed, .fallTime]

def movementStopStrafeSequence : List MovementStatusElement :=
  [.positionY, .positionZ, .positionX, .hasPitch, .hasTimestamp, .guidBit 2, .hasFallData,
   .guidBit 7, .hasSplineElevation, .guidBit 3, .hasOrientation, .hasMovementFlags2,
   .hasTransportData, .hasMovementFlags, .hasSpline, .guidBit 0, .hasUnknownBit, .guidBit 6,
   .guidBit 5, .guidBit 1, .guidBit 4, .transportGuidBit 7, .transportGuidBit 0,
   .transportGuidBit 4, .transportGuidBit 2, .transportGuidBit 6, .transportGuidBit 5,
   .hasTransportTime2, .transportGuidBit 1, .transportGuidBit 3, .hasTransportTime3, .flags,
   .hasFallDirection, .flags2, .guidByte 2, .guidByte 7, .guidByte 3, .guidByte 4, .guidByte 5,
   .guidByte 6, .guidByte 1, .guidByte 0, .transportSeat, .transportGuidByte 6,
   .transportPositionZ, .transportTime3, .transportGuidByte 1, .transportGuidByte 3,
   .transportGuidByte 2, .transportGuidByte 4, .transportGuidByte 5, .transportTime,
   .transportPositionO, .transportPositionX, .transportGuidByte 0, .transportPositionY,
   .transportTime2, .transportGuidByte 7, .fallCosAngle, .fallHorizontalSpeed, .fallSinAngle,
   .fallTime, .fallVerticalSpeed, .splineElevation, .positionO, .pitch, .timestamp]

def movementStopTurnSequence : List MovementStatusElement :=
  [.positionX, .positionZ, .positionY, .guidBit 5, .guidBit 4, .hasFallData, .hasUnknownBit,
   .guidBit 1, .guidBit 0, .hasSpline, .hasMovementFlags, .guidBit 2, .guidBit 6, .hasPitch,
   .hasTransportData, .guidBit 3, .hasSplineElevation, .hasTimestamp, .hasMovementFlags2,
   .hasOrientation, .guidBit 7, .transportGuidBit 2, .transportGuidBit 7, .hasTransportTime3,
   .transportGuidBit 4, .hasTransportTime2, .transportGuidBit 5, .transportGuidBit 0,
   .transportGuidBit 3, .transportGuidBit 6, .transportGuidBit 1, .hasFallDirection, .flags,
   .flags2, .guidByte 3, .guidByte 2, .guidByte 6, .guidByte 4, .guidByte 0, .guidByte 7,
   .guidByte 1, .guidByte 5, .splineElevation, .transportPositionX, .transportGuidByte 5,
   .transportSeat, .transportGuidByte 2, .transportGuidByte 3, .transportPositionO,
   .transportTime2, .transportTime3, .transportGuidByte 7, .transportGuidByte 1,
   .transportGuidByte 0, .transportGuidByte 4, .transportPositionY, .transportPositionZ,
   .transportTime, .transportGuidByte 6, .fallTime, .fallHorizontalSpeed, .fallCosAngle,
   .fallSinAngle, .fallVerticalSpeed, .timestamp, .pitch, .positionO]

def movementStartAscendSequence : List MovementStatusElement :=
  [.positionX, .positionY, .positionZ, .guidBit 0, .guidBit 1, .guidBit 7, .hasUnknownBit,
   .guidBit 5, .hasTransportData, .guidBit 2, .hasSplineElevation, .hasFallData, .hasSpline,
   .guidBit 3, .hasMovementFlags2, .guidBit 6, .hasMovementFlags, .hasPitch, .hasTimestamp,
   .hasOrientation, .guidBit 4, .flags, .transportGuidBit 0, .transportGuidBit 2,
   .hasTransportTime3, .transportGuidBit 6, .transportGuidBit 1, .transportGuidBit 4,
   .hasTransportTime2, .transportGuidBit 5, .transportGuidBit 3, .transportGuidBit 7, .flags2,
   .hasFallDirection, .guidByte 6, .guidByte 3, .guidByte 1, .guidByte 4, .guidByte 2,
   .guidByte 0, .guidByte 5, .guidByte 7, .transportGuidByte 3, .transportGuidByte 5,
   .transportGuidByte 4, .transportSeat, .transportGuidByte 2, .transportPositionO,
   .transportPositionY, .transportGuidByte 7, .transportTime2, .transportPositionZ,
   .transportTime3, .transportGuidByte 6, .transportTime, .transportGuidByte 0,
   .transportGuidByte 1, .transportPositionX, .fallCosAngle, .fallSinAngle,
   .fallHorizontalSpeed, .fallTime, .fallVerticalSpeed, .positionO, .pitch, .timestamp, .splineElevation]

def movementStartDescendSequence : List MovementStatusElement :=
  [.positionY, .positionZ, .positionX, .guidBit 0, .hasPitch, .hasFallData, .guidBit 4,
   .hasOrientation, .hasTimestamp, .hasMovementFlags2, .hasMovementFlags, .guidBit 6,
   .hasUnknownBit, .guidBit 1, .hasTransportData, .hasSpline, .hasSplineElevation, .guidBit 5,
   .guidBit 3, .guidBit 7, .guidBit 2, .transportGuidBit 0, .transportGuidBit 1,
   .transportGuidBit 2, .hasTransportTime3, .transportGuidBit 7, .transportGuidBit 4,
   .transportGuidBit 6, .hasTransportTime2, .transportGuidBit 3, .transportGuidBit 5, .flags2,
   .flags, .hasFallDirection, .guidByte 2, .guidByte 7, .guidByte 6, .guidByte 0, .guidByte 1,
   .guidByte 5, .guidByte 4, .guidByte 3, .pitch, .transportPositionZ, .transportSeat,
   .transportTime3, .transportGuidByte 6, .transportTime2, .transportGuidByte 1, .transportTime,
   .transportGuidByte 4, .transportPositionY, .transportPositionX, .transportGuidByte 7,
   .transportGuidByte 3, .transportGuidByte 5, .transportGuidByte 2, .transportPositionO,
   .transportGuidByte 0, .fallTime, .fallSinAngle, .fallCosAngle, .fallHorizontalSpeed,
   .fallVerticalSpeed, .timestamp, .positionO, .splineElevation]

def movementStartSwimSequence : List MovementStatusElement :=
  [.positionZ, .positionX, .positionY, .guidBit 3, .hasSplineElevation, .guidBit 4, .guidBit 7,
   .hasUnknownBit, .hasPitch, .guidBit 0, .hasOrientation, .hasMovementFlags, .hasFallData,
   .guidBit 5, .hasTransportData, .hasMovementFlags2, .hasTimestamp, .guidBit 6, .guidBit 1,
   .hasSpline, .guidBit 2, .transportGuidBit 2, .transportGuidBit 3, .transportGuidBit 7,
   .transportGuidBit 5, .transportGuidBit 4, .transportGuidBit 0, .hasTransportTime2,
   .transportGuidBit 6, .transportGuidBit 1, .hasTransportTime3, .flags, .hasFallDirection,
   .flags2, .guidByte 0, .guidByte 2, .guidByte 1, .guidByte 5, .guidByte 4, .guidByte 6,
   .guidByte 3, .guidByte 7, .pitch, .transportTime2, .transportGuidByte 2, .transportPositionY,
   .transportGuidByte 3, .transportTime, .transportPositionX, .transportPositionO,
   .transportTime3, .transportGuidByte 6, .transportGuidByte 5, .transportGuidByte 4,
   .transportPositionZ, .transportGuidByte 1, .transportGuidByte 7, .transportGuidByte 0,
   .transportSeat, .fallCosAngle, .fallHorizontalSpeed, .fallSinAngle, .fallVerticalSpeed,
   .fallTime, .positionO, .timestamp, .splineElevation]

def movementStopSwimSequence : List MovementStatusElement :=
  [.positionX, .positionY, .positionZ, .hasSpline, .hasPitch, .guidBit 5, .guidBit 3,
   .guidBit 7, .hasSplineElevation, .hasMovementFlags, .guidBit 4, .hasMovementFlags2,
   .guidBit 2, .guidBit 6, .hasTransportData, .hasOrientation, .hasUnknownBit, .hasTimestamp,
   .guidBit 1, .guidBit 0, .hasFallData, .hasTransportTime3, .transportGuidBit 4,
   .transportGuidBit 6, .transportGuidBit 3, .transportGuidBit 7, .transportGuidBit 1,
   .transportGuidBit 0, .hasTransportTime2, .transportGuidBit 2, .transportGuidBit 5, .flags,
   .flags2, .hasFallDirection, .guidByte 0, .guidByte 4, .guidByte 3, .guidByte 6, .guidByte 7,
   .guidByte 1, .guidByte 5, .guidByte 2, .transportTime3, .transportGuidByte 4, .transportTime,
   .transportPositionZ, .transportSeat, .transportGuidByte 3, .transportGuidByte 2,
   .transportPositionY, .transportGuidByte 7, .transportGuidByte 1, .transportGuidByte 6,
   .transportGuidByte 5, .transportTime2, .transportPositionX, .transportGuidByte 0,
   .transportPositionO, .fallVerticalSpeed, .fallCosAngle, .fallHorizontalSpeed, .fallSinAngle,
   .fallTime, .timestamp, .pitch, .positionO, .splineElevation]

def movementStopAscendSequence : List MovementStatusElement :=
  [.positionZ, .positionY, .positionX, .guidBit 3, .guidBit 2, .hasFallData, .guidBit 7,
   .hasOrientation, .hasPitch, .hasSpline, .hasUnknownBit, .guidBit 1, .guidBit 4,
   .hasMovementFlags, .guidBit 0, .guidBit 6, .hasSplineElevation, .hasTransportData,
   .hasMovementFlags2, .hasTimestamp, .guidBit 5, .hasTransportTime2, .hasTransportTime3,
   .transportGuidBit 1, .transportGuidBit 3, .transportGuidBit 2, .transportGuidBit 5,
   .transportGuidBit 7, .transportGuidBit 4, .transportGuidBit 6, .transportGuidBit 0, .flags2,
   .flags, .hasFallDirection, .guidByte 7, .guidByte 5, .guidByte 4, .guidByte 3, .guidByte 2,
   .guidByte 1, .guidByte 0, .guidByte 6, .transportGuidByte 5, .transportPositionY,
   .transportGuidByte 7, .transportGuidByte 2, .transportGuidByte 6, .transportTime2,
   .transportTime3, .transportPositionO, .transportGuidByte 3, .transportGuidByte 4,
   .transportSeat, .transportGuidByte 1, .transportTime, .transportGuidByte 0,
   .transportPositionX, .transportPositionZ, .fallTime, .fallVerticalSpeed, .fallCosAngle,
   .fallSinAngle, .fallHorizontalSpeed, .pitch, .splineElevation, .timestamp, .positionO]

def movementStopPitchSequence : List MovementStatusElement :=
  [.positionX, .positionZ, .positionY, .guidBit 0, .guidBit 5, .guidBit 3, .hasFallData,
   .guidBit 2, .guidBit 4, .guidBit 7, .hasPitch, .hasSpline, .hasOrientation, .hasUnknownBit,
   .hasMovementFlags2, .hasSplineElevation, .guidBit 6, .guidBit 1, .hasTimestamp,
   .hasTransportData, .hasMovementFlags, .transportGuidBit 7, .transportGuidBit 0,
   .transportGuidBit 5, .transportGuidBit 2, .hasTransportTime3, .transportGuidBit 6,
   .transportGuidBit 3, .hasTransportTime2, .transportGuidBit 4, .transportGuidBit 1,
   .hasFallDirection, .flags2, .flags, .guidByte 1, .guidByte 7, .guidByte 0, .guidByte 6,
   .guidByte 4, .guidByte 3, .guidByte 5, .guidByte 2, .timestamp, .fallHorizontalSpeed,
   .fallSinAngle, .fallCosAngle, .fallVerticalSpeed, .fallTime, .transportGuidByte 5,
   .transportGuidByte 2, .transportTime2, .transportPositionX, .transportPositionO,
   .transportGuidByte 6, .transportGuidByte 3, .transportGuidByte 1, .transportPositionZ,
   .transportTime3, .transportGuidByte 0, .transportGuidByte 4, .transportTime,
   .transportPositionY, .transportSeat, .transportGuidByte 7, .splineElevation, .positionO, .pitch]

def movementStartPitchDownSequence : List MovementStatusElement :=
  [.positionX, .positionZ, .positionY, .hasMovementFlags, .guidBit 7, .guidBit 6, .hasPitch,
   .hasUnknownBit, .guidBit 1, .guidBit 4, .hasTimestamp, .hasSplineElevation,
   .hasMovementFlags2, .hasTransportData, .guidBit 0, .guidBit 5, .guidBit 3, .hasSpline,
   .hasOrientation, .hasFallData, .guidBit 2, .transportGuidBit 1, .transportGuidBit 5,
   .hasTransportTime3, .transportGuidBit 7, .transportGuidBit 4, .transportGuidBit 6,
   .hasTransportTime2, .transportGuidBit 0, .transportGuidBit 3, .transportGuidBit 2, .flags2,
   .hasFallDirection, .flags, .guidByte 3, .guidByte 7, .guidByte 0, .guidByte 5, .guidByte 2,
   .guidByte 6, .guidByte 4, .guidByte 1, .transportTime3, .transportGuidByte 3,
   .transportTime2, .transportGuidByte 5, .transportGuidByte 1, .transportPositionY,
   .transportGuidByte 6, .transportGuidByte 4, .transportTime, .transportPositionZ,
   .transportPositionX, .transportGuidByte 0, .transportSeat, .transportGuidByte 2,
   .transportGuidByte 7, .transportPositionO, .fallSinAngle, .fallHorizontalSpeed,
   .fallCosAngle, .fallVerticalSpeed, .fallTime, .pitch, .positionO, .splineElevation, .timestamp]

def movementStartPitchUpSequence : List MovementStatusElement :=
  [.positionZ, .positionY, .positionX, .guidBit 4, .hasMovementFlags, .hasMovementFlags2,
   .hasSpline, .guidBit 2, .guidBit 6, .guidBit 3, .hasUnknownBit, .hasSplineElevation,
   .hasFallData, .guidBit 0, .hasTransportData, .guidBit 1, .guidBit 5, .hasPitch,
   .hasTimestamp, .hasOrientation, .guidBit 7, .flags2, .transportGuidBit 7,
   .transportGuidBit 3, .transportGuidBit 1, .hasTransportTime2, .transportGuidBit 4,
   .hasTransportTime3, .transportGuidBit 0, .transportGuidBit 6, .transportGuidBit 5,
   .transportGuidBit 2, .flags, .hasFallDirection, .guidByte 0, .guidByte 3, .guidByte 4,
   .guidByte 6, .guidByte 7, .guidByte 1, .guidByte 5, .guidByte 2, .transportPositionX,
   .transportGuidByte 1, .transportGuidByte 3, .transportGuidByte 2, .transportGuidByte 0,
   .transportTime, .transportPositionZ, .transportPositionO, .transportGuidByte 7,
   .transportTime2, .transportSeat, .transportGuidByte 6, .transportGuidByte 5, .transportTime3,
   .transportPositionY, .transportGuidByte 4, .fallTime, .fallCosAngle, .fallSinAngle,
   .fallHorizontalSpeed, .fallVerticalSpeed, .positionO, .splineElevation, .pitch, .timestamp]

def movementChngTransportSequence : List MovementStatusElement :=
  [.positionY, .positionX, .positionZ, .guidBit 4, .guidBit 0, .guidBit 2, .hasTransportData,
   .hasSpline, .hasOrientation, .guidBit 6, .hasTimestamp, .guidBit 5, .guidBit 7, .hasPitch,
   .hasUnknownBit, .guidBit 3, .hasSplineElevation, .guidBit 1, .hasFallData, .hasMovementFlags,
   .hasMovementFlags2, .transportGuidBit 3, .hasTransportTime3, .transportGuidBit 4,
   .transportGuidBit 1, .transportGuidBit 6, .transportGuidBit 2, .hasTransportTime2,
   .transportGuidBit 0, .transportGuidBit 7, .transportGuidBit 5, .flags, .flags2,
   .hasFallDirection, .guidByte 7, .guidByte 5, .guidByte 1, .guidByte 2, .guidByte 6,
   .guidByte 4, .guidByte 0, .guidByte 3, .transportPositionY, .transportSeat,
   .transportGuidByte 1, .transportGuidByte 0, .transportGuidByte 2, .transportGuidByte 3,
   .transportGuidByte 6, .transportPositionZ, .transportPositionX, .transportTime3,
   .transportTime, .transportGuidByte 7, .transportGuidByte 5, .transportGuidByte 4,
   .transportPositionO, .transportTime2, .fallTime, .fallHorizontalSpeed, .fallCosAngle,
   .fallSinAngle, .fallVerticalSpeed, .positionO, .pitch, .splineElevation, .timestamp]

def movementSetRunModeSequence : List MovementStatusElement :=
  [.positionY, .positionX, .positionZ, .hasTimestamp, .hasMovementFlags2, .guidBit 1,
   .hasSpline, .hasMovementFlags, .guidBit 7, .hasTransportData, .hasUnknownBit, .guidBit 0,
   .guidBit 3, .hasSplineElevation, .guidBit 5, .hasPitch, .guidBit 6, .guidBit 4, .hasFallData,
   .hasOrientation, .guidBit 2, .transportGuidBit 6, .transportGuidBit 4, .hasTransportTime3,
   .transportGuidBit 5, .transportGuidBit 3, .transportGuidBit 1, .hasTransportTime2,
   .transportGuidBit 7, .transportGuidBit 0, .transportGuidBit 2, .hasFallDirection, .flags2,
   .flags, .guidByte 3, .guidByte 6, .guidByte 0, .guidByte 7, .guidByte 4, .guidByte 1,
   .guidByte 5, .guidByte 2, .pitch, .transportTime2, .transportGuidByte 3, .transportPositionX,
   .transportSeat, .transportGuidByte 5, .transportGuidByte 1, .transportPositionZ,
   .transportGuidByte 2, .transportGuidByte 7, .transportPositionO, .transportGuidByte 4,
   .transportTime, .transportTime3, .transportGuidByte 0, .transportPositionY,
   .transportGuidByte 6, .fallSinAngle, .fallHorizontalSpeed, .fallCosAngle, .fallTime,
   .fallVerticalSpeed, .splineElevation, .timestamp, .positionO]

def movementSetWalkModeSequence : List MovementStatusElement :=
  [.positionY, .positionX, .positionZ, .guidBit 6, .hasSpline, .hasTimestamp, .guidBit 0,
   .guidBit 1, .hasMovementFlags, .hasPitch, .guidBit 7, .hasSplineElevation, .guidBit 4,
   .hasOrientation, .hasTransportData, .guidBit 2, .guidBit 5, .guidBit 3, .hasUnknownBit,
   .hasMovementFlags2, .hasFallData, .transportGuidBit 2, .transportGuidBit 0,
   .transportGuidBit 6, .transportGuidBit 1, .transportGuidBit 3, .hasTransportTime2,
   .transportGuidBit 5, .hasTransportTime3, .transportGuidBit 4, .transportGuidBit 7,
   .hasFallDirection, .flags, .flags2, .guidByte 5, .guidByte 6, .guidByte 4, .guidByte 7,
   .guidByte 3, .guidByte 0, .guidByte 2, .guidByte 1, .transportGuidByte 2,
   .transportGuidByte 5, .transportSeat, .transportPositionZ, .transportGuidByte 3,
   .transportGuidByte 6, .transportGuidByte 0, .transportTime, .transportGuidByte 4,
   .transportTime2, .transportPositionO, .transportPositionX, .transportTime3,
   .transportGuidByte 7, .transportPositionY, .transportGuidByte 1, .fallCosAngle,
   .fallHorizontalSpeed, .fallSinAngle, .fallVerticalSpeed, .fallTime, .splineElevation, .pitch, .timestamp, .positionO]

def movementFallResetSequence : List MovementStatusElement :=
  [.positionZ, .positionX, .positionY, .guidBit 1, .hasTimestamp, .hasMovementFlags,
   .hasUnknownBit, .guidBit 6, .hasSplineElevation, .hasPitch, .guidBit 3, .hasTransportData,
   .guidBit 2, .hasMovementFlags2, .hasOrientation, .guidBit 4, .guidBit 5, .hasSpline,
   .guidBit 7, .guidBit 0, .hasFallData, .transportGuidBit 0, .transportGuidBit 1,
   .transportGuidBit 5, .transportGuidBit 4, .hasTransportTime2, .transportGuidBit 2,
   .hasTransportTime3, .transportGuidBit 6, .transportGuidBit 7, .transportGuidBit 3,
   .hasFallDirection, .flags2, .flags, .guidByte 4, .guidByte 0, .guidByte 1, .guidByte 7,
   .guidByte 5, .guidByte 2, .guidByte 3, .guidByte 6, .transportPositionX,
   .transportGuidByte 7, .transportGuidByte 2, .transportGuidByte 3, .transportGuidByte 5,
   .transportPositionY, .transportPositionZ, .transportSeat, .transportTime2,
   .transportGuidByte 6, .hasTransportTime3, .transportGuidByte 0, .transportPositionO,
   .transportGuidByte 4, .transportGuidByte 1, .fallVerticalSpeed, .fallCosAngle, .fallSinAngle,
   .fallHorizontalSpeed, .fallTime, .positionO, .timestamp, .splineElevation, .pitch]

def movementSetCanFlyAckSequence : List MovementStatusElement :=
  [.positionY, .movementCounter, .positionX, .positionZ, .guidBit 3, .hasTimestamp, .guidBit 4,
   .guidBit 0, .hasOrientation, .hasFallData, .guidBit 2, .guidBit 5, .hasSplineElevation,
   .hasMovementFlags2, .hasUnknownBit, .guidBit 7, .hasSpline, .guidBit 6, .guidBit 1,
   .hasMovementFlags, .hasTransportData, .hasPitch, .transportGuidBit 3, .transportGuidBit 1,
   .transportGuidBit 2, .hasTransportTime3, .hasTransportTime2, .transportGuidBit 0,
   .transportGuidBit 5, .transportGuidBit 7, .transportGuidBit 4, .transportGuidBit 6, .flags2,
   .flags, .hasFallDirection, .guidByte 1, .guidByte 0, .guidByte 2, .guidByte 3, .guidByte 7,
   .guidByte 6, .guidByte 4, .guidByte 5, .transportTime2, .transportGuidByte 6, .transportTime,
   .transportTime3, .transportGuidByte 7, .transportPositionZ, .transportGuidByte 3,
   .transportPositionY, .transportGuidByte 5, .transportPositionX, .transportGuidByte 2,
   .transportPositionO, .transportSeat, .transportGuidByte 1, .transportGuidByte 0,
   .transportGuidByte 4, .fallTime, .fallCosAngle, .fallHorizontalSpeed, .fallSinAngle,
   .fallVerticalSpeed, .pitch, .positionO, .timestamp, .splineElevation]

def movementCastSpellSequence : List MovementStatusElement :=
  [.positionZ, .positionY, .positionX, .hasFallData, .hasTimestamp, .hasOrientation, .hasSpline,
   .hasUnknownBit, .guidBit 6, .guidBit 4, .hasMovementFlags2, .guidBit 3, .guidBit 5,
   .hasSplineElevation, .hasPitch, .guidBit 7, .hasTransportData, .guidBit 2, .hasMovementFlags,
   .guidBit 1, .guidBit 0, .transportGuidBit 6, .transportGuidBit 2, .transportGuidBit 5,
   .hasTransportTime2, .transportGuidBit 7, .transportGuidBit 4, .hasTransportTime3,
   .transportGuidBit 0, .transportGuidBit 1, .transportGuidBit 3, .flags2, .flags,
   .hasFallDirection, .guidByte 1, .guidByte 4, .guidByte 7, .guidByte 3, .guidByte 0,
   .guidByte 2, .guidByte 5, .guidByte 6, .transportSeat, .transportPositionO, .transportTime,
   .transportGuidByte 6, .transportGuidByte 5, .transportTime3, .transportPositionX,
   .transportGuidByte 4, .transportPositionZ, .transportGuidByte 2, .transportGuidByte 0,
   .transportTime2, .transportGuidByte 1, .transportGuidByte 3, .transportPositionY,
   .transportGuidByte 7, .positionO, .splineElevation, .fallTime, .fallHorizontalSpeed,
   .fallCosAngle, .fallSinAngle, .fallVerticalSpeed, .timestamp, .pitch]

def movementSplineDoneSequence : List MovementStatusElement :=
  [.movementCounter, .positionY, .positionX, .positionZ, .guidBit 6, .hasOrientation,
   .hasFallData, .hasTimestamp, .guidBit 2, .hasSplineElevation, .guidBit 4, .hasTransportData,
   .guidBit 3, .hasMovementFlags, .guidBit 0, .hasUnknownBit, .guidBit 1, .guidBit 5, .hasPitch,
   .hasSpline, .hasMovementFlags2, .guidBit 7, .transportGuidBit 1, .transportGuidBit 7,
   .transportGuidBit 5, .transportGuidBit 3, .transportGuidBit 4, .transportGuidBit 6,
   .hasTransportTime2, .transportGuidBit 2, .hasTransportTime3, .transportGuidBit 0,
   .hasFallDirection, .flags2, .flags, .guidByte 7, .guidByte 4, .guidByte 5, .guidByte 6,
   .guidByte 0, .guidByte 1, .guidByte 2, .guidByte 3, .fallVerticalSpeed, .fallSinAngle,
   .fallCosAngle, .fallHorizontalSpeed, .fallTime, .pitch, .positionO, .transportGuidByte 1,
   .transportTime3, .transportGuidByte 7, .transportTime, .transportPositionY,
   .transportPositionX, .transportPositionZ, .transportSeat, .transportPositionO,
   .transportGuidByte 0, .transportTime2, .transportGuidByte 2, .transportGuidByte 3,
   .transportGuidByte 5, .transportGuidByte 6, .transportGuidByte 4, .timestamp, .splineElevation]

def dismissControlledVehicleSequence : List MovementStatusElement :=
  [.positionY, .positionZ, .positionX, .hasSplineElevation, .hasFallData, .hasTransportData,
   .guidBit 4, .guidBit 7, .hasMovementFlags2, .guidBit 2, .hasOrientation, .guidBit 0,
   .guidBit 6, .hasPitch, .hasTimestamp, .guidBit 1, .hasUnknownBit, .hasSpline, .guidBit 3,
   .hasMovementFlags, .guidBit 5, .transportGuidBit 5, .hasTransportTime3, .transportGuidBit 2,
   .transportGuidBit 0, .transportGuidBit 7, .transportGuidBit 3, .transportGuidBit 4,
   .transportGuidBit 1, .transportGuidBit 6, .hasTransportTime2, .flags2, .hasFallDirection,
   .flags, .guidByte 6, .guidByte 3, .guidByte 1, .guidByte 5, .guidByte 2, .guidByte 4,
   .guidByte 7, .guidByte 0, .timestamp, .transportTime3, .transportGuidByte 4,
   .transportGuidByte 7, .transportTime2, .transportGuidByte 6, .transportTime,
   .transportPositionZ, .transportGuidByte 0, .transportPositionX, .transportGuidByte 3,
   .transportSeat, .transportPositionY, .transportPositionO, .transportGuidByte 1,
   .transportGuidByte 5, .transportGuidByte 2, .fallTime, .fallHorizontalSpeed, .fallSinAngle,
   .fallCosAngle, .fallVerticalSpeed, .positionO, .splineElevation, .pitch]

def changeSeatsOnControlledVehicleSequence : List MovementStatusElement :=
  [.positionY, .positionX, .positionZ, .byteParam, .hasMovementFlags, .hasTransportData,
   .guidBit 2, .guidBit 6, .guidBit 4, .guid2Bit 2, .guid2Bit 4, .hasOrientation,
   .hasUnknownBit, .guid2Bit 7, .guidBit 7, .guid2Bit 6, .hasTimestamp, .hasSplineElevation,
   .guidBit 5, .guid2Bit 5, .hasMovementFlags2, .hasPitch, .guid2Bit 0, .guidBit 0, .guid2Bit 1,
   .hasFallData, .guidBit 1, .hasSpline, .flags, .guid2Bit 3, .guidBit 3, .transportGuidBit 3,
   .transportGuidBit 0, .transportGuidBit 7, .transportGuidBit 5, .hasTransportTime3,
   .transportGuidBit 1, .transportGuidBit 2, .hasTransportTime2, .transportGuidBit 4,
   .transportGuidBit 6, .flags2, .hasFallDirection, .guid2Byte 6, .guidByte 7, .guidByte 5,
   .guid2Byte 1, .guid2Byte 2, .guidByte 6, .guid2Byte 5, .guid2Byte 3, .guidByte 3,
   .guid2Byte 0, .guidByte 0, .guid2Byte 4, .guidByte 4, .guidByte 1, .guid2Byte 7, .guidByte 2,
   .pitch, .fallSinAngle, .fallCosAngle, .fallHorizontalSpeed, .fallTime, .fallVerticalSpeed,
   .transportGuidByte 2, .transportTime2, .transportTime3, .transportGuidByte 0, .transportTime,
   .transportSeat, .transportPositionX, .transportPositionO, .transportGuidByte 7,
   .transportGuidByte 4, .transportGuidByte 3, .transportGuidByte 5, .transportPositionZ,
   .transportGuidByte 1, .transportGuidByte 6, .transportPositionY, .splineElevation, .positionO, .timestamp]

def moveKnockbackAckSequence : List MovementStatusElement :=
  [.positionY, .positionZ, .movementCounter, .positionX, .guidBit 6, .hasOrientation, .hasPitch,
   .hasSplineElevation, .guidBit 3, .guidBit 4, .guidBit 1, .guidBit 2, .hasSpline, .guidBit 7,
   .hasUnknownBit, .hasMovementFlags2, .hasTimestamp, .guidBit 0, .hasMovementFlags,
   .hasTransportData, .guidBit 5, .hasFallData, .flags, .transportGuidBit 4,
   .transportGuidBit 1, .hasTransportTime2, .transportGuidBit 0, .hasTransportTime3,
   .transportGuidBit 6, .transportGuidBit 2, .transportGuidBit 3, .transportGuidBit 5,
   .transportGuidBit 7, .flags2, .hasFallDirection, .guidByte 4, .guidByte 5, .guidByte 1,
   .guidByte 6, .guidByte 0, .guidByte 3, .guidByte 2, .guidByte 7, .fallCosAngle,
   .fallHorizontalSpeed, .fallSinAngle, .fallTime, .fallVerticalSpeed, .timestamp,
   .transportPositionY, .transportGuidByte 4, .transportTime2, .transportGuidByte 7,
   .transportPositionO, .transportGuidByte 6, .transportTime, .transportGuidByte 3,
   .transportGuidByte 1, .transportTime3, .transportGuidByte 2, .transportPositionZ,
   .transportGuidByte 0, .transportGuidByte 5, .transportPositionX, .transportSeat, .pitch,
   .splineElevation, .positionO]

def moveUpdateKnockBackSequence : List MovementStatusElement :=
  [.hasUnknownBit, .guidBit 4, .hasMovementFlags, .hasPitch, .hasTimestamp, .guidBit 1,
   .guidBit 0, .guidBit 3, .guidBit 2, .guidBit 7, .hasSpline, .hasTransportData,
   .transportGuidBit 7, .transportGuidBit 5, .transportGuidBit 1, .transportGuidBit 6,
   .hasTransportTime2, .transportGuidBit 2, .transportGuidBit 4, .transportGuidBit 0,
   .hasTransportTime3, .transportGuidBit 3, .guidBit 5, .hasSplineElevation, .hasMovementFlags2,
   .guidBit 6, .flags, .hasFallData, .hasFallDirection, .hasOrientation, .flags2, .positionO,
   .fallCosAngle, .fallHorizontalSpeed, .fallSinAngle, .fallTime, .fallVerticalSpeed,
   .splineElevation, .guidByte 3, .transportGuidByte 5, .transportTime3, .transportGuidByte 7,
   .transportSeat, .transportGuidByte 3, .transportGuidByte 6, .transportPositionZ,
   .transportGuidByte 1, .transportPositionY, .transportPositionX, .transportGuidByte 2,
   .transportGuidByte 0, .transportPositionO, .transportTime, .transportGuidByte 4,
   .transportTime2, .pitch, .positionZ, .timestamp, .positionX, .guidByte 4, .guidByte 6,
   .guidByte 7, .guidByte 2, .guidByte 1, .positionY, .guidByte 0, .guidByte 5]

def moveNotActiveMoverSequence : List MovementStatusElement :=
  [.positionZ, .positionX, .positionY, .hasMovementFlags2, .hasTransportData, .guidBit 6,
   .hasSplineElevation, .guidBit 3, .hasUnknownBit, .hasTimestamp, .guidBit 0, .hasOrientation,
   .guidBit 5, .hasPitch, .guidBit 1, .guidBit 4, .guidBit 7, .hasSpline, .guidBit 2,
   .hasFallData, .hasMovementFlags, .transportGuidBit 4, .transportGuidBit 0,
   .transportGuidBit 1, .transportGuidBit 6, .transportGuidBit 2, .hasTransportTime3,
   .transportGuidBit 5, .transportGuidBit 7, .hasTransportTime2, .transportGuidBit 3,
   .hasFallDirection, .flags, .flags2, .guidByte 1, .guidByte 0, .guidByte 4, .guidByte 2,
   .guidByte 7, .guidByte 5, .guidByte 6, .guidByte 3, .fallVerticalSpeed, .fallCosAngle,
   .fallSinAngle, .fallHorizontalSpeed, .fallTime, .transportTime3, .transportGuidByte 1,
   .transportTime2, .transportPositionO, .transportGuidByte 0, .transportSeat,
   .transportGuidByte 4, .transportGuidByte 6, .transportGuidByte 3, .transportGuidByte 5,
   .transportPositionY, .transportPositionX, .transportGuidByte 2, .transportPositionZ,
   .transportGuidByte 7, .transportTime, .timestamp, .splineElevation, .pitch, .positionO]

def getMovementStatusElementsSequence : Opcode → Option (List MovementStatusElement)
  | .cmsgCastSpell | .cmsgPetCastSpell | .cmsgUseItem => some movementCastSpellSequence
  | .cmsgMoveChngTransport => some movementChngTransportSequence
  | .cmsgMoveFallLand => some movementFallLandSequence
  | .cmsgMoveFallReset => some movementFallResetSequence
  | .cmsgMoveJump => some movementJumpSequence
  | .cmsgMoveSetCanFlyAck => some movementSetCanFlyAckSequence
  | .cmsgMoveSetFacing => some movementSetFacingSequence
  | .cmsgMoveSetPitch => some movementSetPitchSequence
  | .cmsgMoveSetRunMode => some movementSetRunModeSequence
  | .cmsgMoveSetWalkMode => some movementSetWalkModeSequence
  | .cmsgMoveSplineDone => some movementSplineDoneSequence
  | .cmsgMoveStartBackward => some movementStartBackwardSequence
  | .cmsgMoveStartForward => some movementStartForwardSequence
  | .cmsgMoveStartStrafeLeft => some movementStartStrafeLeftSequence
  | .cmsgMoveStartStrafeRight => some movementStartStrafeRightSequence
  | .cmsgMoveStartTurnLeft => some movementStartTurnLeftSequence
  | .cmsgMoveStartTurnRight => some movementStartTurnRightSequence
  | .cmsgMoveStop => some movementStopSequence
  | .cmsgMoveStopStrafe => some movementStopStrafeSequence
  | .cmsgMoveStopTurn => some movementStopTurnSequence
  | .cmsgMoveStartAscend => some movementStartAscendSequence
  | .cmsgMoveStartDescend => some movementStartDescendSequence
  | .cmsgMoveStartSwim => some movementStartSwimSequence
  | .cmsgMoveStopSwim => some movementStopSwimSequence
  | .cmsgMoveStopAscend => some movementStopAscendSequence
  | .cmsgMoveStartPitchDown => some movementStartPitchDownSequence
  | .cmsgMoveStartPitchUp => some movementStartPitchUpSequence
  | .cmsgMoveStopPitch => some movementStopPitchSequence
  | .msgMoveHeartbeat => some movementHeartBeatSequence
  | .smsgPlayerMove => some playerMoveSequence
  | .cmsgDismissControlledVehicle => some dismissControlledVehicleSequence
  | .cmsgChangeSeatsOnControlledVehicle => some changeSeatsOnControlledVehicleSequence
  | .cmsgMoveKnockBackAck => some moveKnockbackAckSequence
  | .smsgMoveUpdateKnockBack => some moveUpdateKnockBackSequence
  | .cmsgMoveNotActiveMover => some moveNotActiveMoverSequence
  | .other _ => none

end Mangos
