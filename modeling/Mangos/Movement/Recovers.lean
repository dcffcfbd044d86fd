import Mangos.Movement.RoundTrip

/-!
# What a record recovers

All that the presence flags of a movement announce is read back, except for the transport time after a
fall is reset: its sequence has a presence bit a second time and leaves two times out.
-/

namespace Mangos

open Framework MovementStatusElement

def MovementStatusElement.recorded : List MovementStatusElement :=
  [.hasMovementFlags, .flags, .hasMovementFlags2, .flags2, .hasTimestamp, .timestamp, .hasOrientation,
    .positionX, .positionY, .positionZ, .positionO, .hasPitch, .pitch, .hasFallData, .fallTime,
    .fallVerticalSpeed, .hasFallDirection, .fallHorizontalSpeed, .fallCosAngle, .fallSinAngle, .hasSpline,
    .hasSplineElevation, .splineElevation, .hasTransportData, .transportSeat, .transportPositionX,
    .transportPositionY, .transportPositionZ, .transportPositionO, .hasTransportTime2,
    .transportTime2] ++ (List.finRange 8).map .guidByte ++ (List.finRange 8).map .transportGuidByte

variable {opcode : Opcode} {sequence : List MovementStatusElement}

theorem recorded_subset (h : getMovementStatusElementsSequence opcode = some sequence)
    (hplain : ∀ element ∈ sequence, element.isSpecial = false) : ∀ element ∈ recorded, element ∈ sequence := by
  cases opcode with
  | other value => cases h
  | cmsgChangeSeatsOnControlledVehicle =>
    cases h
    exact absurd (hplain .byteParam (by decide)) (by decide)
  | _ =>
    cases h
    decide +kernel

theorem transportTime_mem_iff (h : getMovementStatusElementsSequence opcode = some sequence) :
    .transportTime ∈ sequence ↔ opcode ≠ .cmsgMoveFallReset := by
  cases opcode with
  | other value => cases h
  | _ =>
    cases h
    decide +kernel

namespace MovementInfo

/-- The guid, the flags and the position are told by `mi'`, and so are the optional parts that `mi` has. -/
structure Recovers (mi mi' : MovementInfo) : Prop where
  guid : mi'.guid = mi.guid
  moveFlags : mi'.moveFlags = mi.moveFlags
  moveFlags2 : mi'.moveFlags2 = mi.moveFlags2
  x : mi'.pos.x = mi.pos.x
  y : mi'.pos.y = mi.pos.y
  z : mi'.pos.z = mi.pos.z
  hasOrientation : mi'.si.hasOrientation = mi.si.hasOrientation
  o : mi.si.hasOrientation = true → mi'.pos.o = mi.pos.o
  hasTimeStamp : mi'.si.hasTimeStamp = mi.si.hasTimeStamp
  time : mi.si.hasTimeStamp = true → mi'.time = mi.time
  hasPitch : mi'.si.hasPitch = mi.si.hasPitch
  pitch : mi.si.hasPitch = true → mi'.s_pitch = mi.s_pitch
  hasFallData : mi'.si.hasFallData = mi.si.hasFallData
  fall : mi.si.hasFallData = true → mi'.fallTime = mi.fallTime ∧ mi'.jump.velocity = mi.jump.velocity ∧
    mi'.si.hasFallDirection = mi.si.hasFallDirection
  fallDirection : mi.si.hasFallData = true → mi.si.hasFallDirection = true → mi'.jump = mi.jump
  hasSpline : mi'.si.hasSpline = mi.si.hasSpline
  hasSplineElevation : mi'.si.hasSplineElevation = mi.si.hasSplineElevation
  splineElevation : mi.si.hasSplineElevation = true → mi'.splineElevation = mi.splineElevation
  transport : mi.hasTransportData = true → mi'.t_guid = mi.t_guid ∧ mi'.t_seat = mi.t_seat ∧
    mi'.t_pos = mi.t_pos ∧ mi'.t_time = mi.t_time
  hasTransportTime2 : mi.hasTransportData = true → mi'.si.hasTransportTime2 = mi.si.hasTransportTime2
  transportTime2 : mi.hasTransportData = true → mi.si.hasTransportTime2 = true → mi'.t_time2 = mi.t_time2

/-- Orientations and pitch are brought into their ranges. -/
def normalized (normalize : Normalization) (mi : MovementInfo) : MovementInfo :=
  { mi with
    pos.o := normalize.orientation mi.pos.o
    t_pos.o := normalize.orientation mi.t_pos.o
    s_pitch := normalize.pitch mi.s_pitch }

variable {normalize : Normalization} {mi : MovementInfo} {done : List MovementStatusElement}

theorem guidAfter_full {guid : ObjectGuid} {bits bytes : Fin 8 → Bool} (h : ∀ i, bytes i = true) :
    MovementReader.guidAfter guid bits bytes = guid := by
  funext i
  simp [MovementReader.guidAfter, h]

theorem recovers_after_iff (hdone : ∀ element ∈ recorded, element ∈ done) :
    Recovers (mi.normalized normalize) (MovementReader.after normalize mi done).mi ↔
      (mi.hasTransportData = true → .transportTime ∉ done → mi.t_time = 0) := by
  have hguid : ∀ i, .guidByte i ∈ done := fun i => hdone _ (by simp [recorded])
  have ht_guid : ∀ i, .transportGuidByte i ∈ done := fun i => hdone _ (by simp [recorded])
  have hin : ∀ element ∈ recorded, (element ∈ done) = True := fun e he => eq_true (hdone e he)
  simp only [recorded, List.cons_append, List.nil_append, List.forall_mem_cons] at hin
  obtain ⟨hMovementFlags, hflags, hMovementFlags2, hflags2, hTimestamp, htimestamp, hOrientation, hx, hy,
    hz, ho, hPitch, hpitch, hFallData, hfallTime, hvertical, hDirection, hhorizontal, hcos, hsin, hSpline,
    hElevation, helevation, hTransport, hseat, htx, hty, htz, hto, hTime2, htime2, -⟩ := hin
  constructor
  · intro h hthere hout
    have htime := (h.transport hthere).2.2.2
    simpa [MovementReader.after, normalized, hout] using htime.symm
  · intro htime
    constructor
    case guid => exact guidAfter_full fun i => decide_eq_true (hguid i)
    case transport =>
      intro (hthere : mi.hasTransportData = true)
      refine ⟨guidAfter_full fun i => decide_eq_true (ht_guid i), ?_, ?_, ?_⟩
      · simp [MovementReader.after, normalized, hseat, hthere]
      · simp [MovementReader.after, normalized, htx, hty, htz, hto, hthere]
      · by_cases hmem : .transportTime ∈ done
        · simp [MovementReader.after, normalized, hmem, hthere]
        · simp [MovementReader.after, normalized, hmem, htime hthere hmem]
    case fall =>
      intro (hthere : mi.si.hasFallData = true)
      simp [MovementReader.after, normalized, hfallTime, hvertical, hDirection, hthere]
    case fallDirection =>
      intro (hthere : mi.si.hasFallData = true) (hdirection : mi.si.hasFallDirection = true)
      simp [MovementReader.after, normalized, hvertical, hhorizontal, hcos, hsin, hthere, hdirection]
    case transportTime2 =>
      intro (hthere : mi.hasTransportData = true) (htwo : mi.si.hasTransportTime2 = true)
      simp [MovementReader.after, normalized, htime2, hthere, htwo]
    case hasTransportTime2 =>
      intro (hthere : mi.hasTransportData = true)
      simp [MovementReader.after, normalized, hTime2, hthere]
    case o =>
      intro (hthere : mi.si.hasOrientation = true)
      simp [MovementReader.after, normalized, ho, hthere]
    case pitch =>
      intro (hthere : mi.si.hasPitch = true)
      simp [MovementReader.after, normalized, hpitch, hthere]
    case time =>
      intro (hthere : mi.si.hasTimeStamp = true)
      simp [MovementReader.after, normalized, htimestamp, hthere]
    case splineElevation =>
      intro (hthere : mi.si.hasSplineElevation = true)
      simp [MovementReader.after, normalized, helevation, hthere]
    all_goals simp [MovementReader.after, normalized, hflags, hflags2, hTimestamp, hOrientation, hx, hy, hz, hPitch,
      hFallData, hSpline, hElevation]

theorem recovers_normalized_iff (h : getMovementStatusElementsSequence opcode = some sequence)
    (hplain : ∀ element ∈ sequence, element.isSpecial = false) (hflags : mi.moveFlags.toNat < 2 ^ 30)
    (hflags2 : mi.moveFlags2.toNat < 2 ^ 12) :
    (∃ mi' data, read (.ofStorage (mi.record normalize opcode)) opcode = some (mi', data) ∧
      data.rpos = (mi.record normalize opcode).length ∧ Recovers (mi.normalized normalize) mi') ↔
      (opcode = .cmsgMoveFallReset → mi.hasTransportData = true → mi.t_time = 0) := by
  have hrecord := @read_record normalize mi opcode sequence h hplain hflags hflags2
  obtain ⟨data, hread, hend⟩ := hrecord
  have hdone : ∀ element ∈ recorded, element ∈ sequence.reverse := by
    simpa using recorded_subset h hplain
  have hiff := @recovers_after_iff normalize mi _ hdone
  rw [List.mem_reverse, transportTime_mem_iff h, not_not] at hiff
  constructor
  · rintro ⟨mi', data', hread', -, hrecovers⟩ hopcode hthere
    rw [hread, Option.some.injEq, Prod.mk.injEq] at hread'
    rw [← hread'.1] at hrecovers
    exact hiff.mp hrecovers hthere hopcode
  · intro htime
    exact ⟨_, data, hread, hend, hiff.mpr fun hthere hopcode => htime hopcode hthere⟩

/-- A movement whose orientations and pitch are in their ranges is recovered as it was. -/
theorem recovers_iff (h : getMovementStatusElementsSequence opcode = some sequence)
    (hplain : ∀ element ∈ sequence, element.isSpecial = false) (hflags : mi.moveFlags.toNat < 2 ^ 30)
    (hflags2 : mi.moveFlags2.toNat < 2 ^ 12) (hnormal : mi.normalized normalize = mi) :
    (∃ mi' data, read (.ofStorage (mi.record normalize opcode)) opcode = some (mi', data) ∧
      data.rpos = (mi.record normalize opcode).length ∧ Recovers mi mi') ↔
      (opcode = .cmsgMoveFallReset → mi.hasTransportData = true → mi.t_time = 0) := by
  have hiff := @recovers_normalized_iff opcode sequence normalize mi h hplain hflags hflags2
  rwa [hnormal] at hiff

private def onTransport : MovementInfo :=
  { default with
    guid := fun i => if i.val = 0 then 7 else 0
    moveFlags := 1
    pos := ⟨1, 2, 3, 4⟩
    t_guid := fun i => if i.val = 7 then 31 else 0
    t_pos := ⟨5, 6, 7, 8⟩
    t_time := 5
    t_seat := 255
    si.hasOrientation := true }

theorem recovers_heartbeat :
    ∃ mi' data, read (.ofStorage (onTransport.record ⟨id, id⟩ .msgMoveHeartbeat)) .msgMoveHeartbeat =
      some (mi', data) ∧ data.rpos = (onTransport.record ⟨id, id⟩ .msgMoveHeartbeat).length ∧
        Recovers onTransport mi' :=
  (recovers_iff rfl (by decide) (by decide) (by decide) rfl).mpr nofun

/-- The transport time is not read back when a fall is reset. -/
theorem not_recovers_fallReset :
    ¬ ∃ mi' data, read (.ofStorage (onTransport.record ⟨id, id⟩ .cmsgMoveFallReset)) .cmsgMoveFallReset =
      some (mi', data) ∧ data.rpos = (onTransport.record ⟨id, id⟩ .cmsgMoveFallReset).length ∧
        Recovers onTransport mi' := by
  rintro ⟨mi', data, hread, -, hrecovers⟩
  have htime : (read (.ofStorage (onTransport.record ⟨id, id⟩ .cmsgMoveFallReset))
      .cmsgMoveFallReset).map (·.1.t_time) = some 0 := by
    decide +kernel
  rw [hread, Option.map_some, Option.some.injEq] at htime
  have hlost := (hrecovers.transport (by decide)).2.2.2
  rw [htime] at hlost
  exact absurd hlost (by decide)

end MovementInfo

end Mangos
