import MotorDrive.Library.Numerals

/-!
# The Damiao wire protocol and its motor handles

`registers.hpp`, `can_bus.hpp`, `motor.hpp` and the decoders and command encoders of `protocol.hpp` that the
motor handles use; the state of a `MotorHandle` and what it does with a received frame (`accepts_frame` and
`process_feedback_frame` of `runtime.cpp`).  Physical quantities are exact rationals and time is counted in
nanoseconds.  A rejected frame is counted; the other fields of the integrity report are not read by the modelled
functions and are left out.
-/

namespace MotorDrive.Damiao

/-- The data bytes of a classic CAN frame. -/
abbrev Payload := Vector UInt8 8

/-- The raw value of a register. -/
abbrev Word := Vector UInt8 4

/-- `CanFrame`; the channel is the one it was received on. -/
structure CanFrame where
  id : UInt32
  data : Payload
  dlc : UInt8 := 8
  isExtended : Bool := false
  channel : UInt8 := 0xFF
  deriving DecidableEq

/-- A standard frame of eight bytes. -/
def standardFrame (id : UInt32) (data : Payload) : CanFrame := { id, data }

/-! ## Registers -/

inductive RegisterAccess
  | readOnly
  | readWrite
  deriving DecidableEq

inductive RegisterDataType
  | float
  | uint32
  deriving DecidableEq

structure RegisterInfo where
  rid : UInt8
  access : RegisterAccess
  dataType : RegisterDataType
  deriving DecidableEq

def registerInfo (rid : UInt8) : Option RegisterInfo :=
  if rid ≤ 6 then some ⟨rid, .readWrite, .float⟩
  else if rid ≤ 10 then some ⟨rid, .readWrite, .uint32⟩
  else if rid = 11 ∨ rid = 12 then some ⟨rid, .readOnly, .float⟩
  else if 13 ≤ rid ∧ rid ≤ 16 then some ⟨rid, .readOnly, .uint32⟩
  else if 17 ≤ rid ∧ rid ≤ 20 then some ⟨rid, .readOnly, .float⟩
  else if 21 ≤ rid ∧ rid ≤ 34 then some ⟨rid, .readWrite, .float⟩
  else if rid = 35 then some ⟨rid, .readWrite, .uint32⟩
  else if rid = 36 then some ⟨rid, .readOnly, .uint32⟩
  else if (50 ≤ rid ∧ rid ≤ 56) ∨ (59 ≤ rid ∧ rid ≤ 65) ∨ rid = 80 ∨ rid = 81 then
    some ⟨rid, .readOnly, .float⟩
  else none

def isKnownRegister (rid : UInt8) : Bool := (registerInfo rid).isSome

/-- `validate_register`: why the access is refused, if it is. -/
def validateRegister (rid : UInt8) (expectedType : RegisterDataType) (writing : Bool) : Option String :=
  match registerInfo rid with
  | none => some s!"unknown Damiao register: {rid}"
  | some info =>
    if writing && info.access ≠ .readWrite then some s!"Damiao register is read-only: {rid}"
    else if info.dataType ≠ expectedType then some s!"Damiao register has a different data type: {rid}"
    else none

/-! ## Register frames -/

def isRegisterFrame (data : Payload) (marker : UInt8) : Bool :=
  data[1] ≤ 0x0F && data[2] = marker && isKnownRegister data[3]

def isRegisterReply (data : Payload) : Bool := isRegisterFrame data 0x33

def isRegisterWriteAck (data : Payload) : Bool := isRegisterFrame data 0x55

/-- The register value in a register frame. -/
def registerWord (data : Payload) : Word := #v[data[4], data[5], data[6], data[7]]

/-- The low byte of an identifier. -/
def lowByte (id : UInt16) : UInt8 := (id &&& 0xFF).toUInt8

/-- The high byte of an identifier. -/
def highByte (id : UInt16) : UInt8 := ((id >>> 8) &&& 0xFF).toUInt8

def encodeRegisterReadCommand (motorId : UInt16) (rid : UInt8) : Payload :=
  #v[lowByte motorId, highByte motorId, 0x33, rid, 0, 0, 0, 0]

def encodeRegisterWriteCommand (motorId : UInt16) (rid : UInt8) (data : Word) : Payload :=
  #v[lowByte motorId, highByte motorId, 0x55, rid, data[0], data[1], data[2], data[3]]

def encodeFeedbackRequestCommand (motorId : UInt16) : Payload :=
  #v[lowByte motorId, highByte motorId, 0xCC, 0, 0, 0, 0, 0]

def encodeDisableCommand : Payload := #v[0xFF, 0xFF, 0xFF, 0xFF, 0xFF, 0xFF, 0xFF, 0xFD]

/-- The bytes of an unsigned register value, least significant first. -/
def wordOfUInt32 (value : UInt32) : Word :=
  #v[(value &&& 0xFF).toUInt8, ((value >>> 8) &&& 0xFF).toUInt8, ((value >>> 16) &&& 0xFF).toUInt8,
    ((value >>> 24) &&& 0xFF).toUInt8]

structure Limits where
  pMin : ℚ
  pMax : ℚ
  vMin : ℚ
  vMax : ℚ
  tMin : ℚ
  tMax : ℚ
  deriving DecidableEq

def modelLimits (model : String) : Except String Limits :=
  if model = "4310" then .ok ⟨-25 / 2, 25 / 2, -30, 30, -10, 10⟩
  else if model = "4340P" then .ok ⟨-25 / 2, 25 / 2, -10, 10, -28, 28⟩
  else if model = "8009" then .ok ⟨-25 / 2, 25 / 2, -45, 45, -54, 54⟩
  else .error s!"motor model is not installed in yunyi_v1_0: {model}"

structure SensorFeedback where
  canId : UInt8
  statusCode : UInt8
  pos : ℚ
  vel : ℚ
  torq : ℚ
  tMos : ℚ
  tRotor : ℚ
  deriving DecidableEq

def uintToFloat (x : ℕ) (xMin xMax : ℚ) (bits : ℕ) : ℚ :=
  x * (xMax - xMin) / (2 ^ bits - 1 : ℕ) + xMin

def decodeSensorFeedback (data : Payload) (limits : Limits) : SensorFeedback :=
  let position := data[1].toNat * 256 + data[2].toNat
  let velocity := data[3].toNat * 16 + data[4].toNat / 16
  let torque := data[4].toNat % 16 * 256 + data[5].toNat
  { canId := data[0] &&& 0x0F
    statusCode := data[0] >>> 4
    pos := uintToFloat position limits.pMin limits.pMax 16
    vel := uintToFloat velocity limits.vMin limits.vMax 12
    torq := uintToFloat torque limits.tMin limits.tMax 12
    tMos := data[6].toNat
    tRotor := data[7].toNat }

/-! ## MIT frames -/

/-- The codes of an MIT command. -/
structure MitCodes where
  pos : ℕ
  vel : ℕ
  kp : ℕ
  kd : ℕ
  torq : ℕ
  deriving DecidableEq

/-- The fields of a frame. -/
def unpackMit (data : Payload) : MitCodes where
  pos := data[0].toNat * 256 + data[1].toNat
  vel := data[2].toNat * 16 + data[3].toNat / 16
  kp := data[3].toNat % 16 * 256 + data[4].toNat
  kd := data[5].toNat * 16 + data[6].toNat / 16
  torq := data[6].toNat % 16 * 256 + data[7].toNat

/-! ## Motor handles -/

/-- Nanoseconds of a millisecond. -/
def millisecond : ℕ := 1000000

structure MotorState where
  canId : UInt8
  arbitrationId : UInt32
  statusCode : UInt8
  pos : ℚ
  vel : ℚ
  torq : ℚ
  tMos : ℚ
  tRotor : ℚ
  deriving DecidableEq

structure FeedbackIntegrityStats where
  rejectedFrameCount : ℕ
  shortFrameCount : ℕ
  identityMismatchCount : ℕ
  implausiblePositionJumpCount : ℕ
  deriving DecidableEq

structure MotorHandle where
  motorId : UInt16
  feedbackId : UInt16
  limits : Limits
  state : Option MotorState
  stateTime : Option ℕ
  feedbackUpdateCount : ℕ
  integrity : FeedbackIntegrityStats
  disabledHint : Bool
  registerReplies : UInt8 → Option (Word × ℕ)
  registerAcks : UInt8 → Option (Word × ℕ)
  registerAckUpdateCounts : UInt8 → ℕ

/-- The constructor of `MotorHandle`. -/
def makeMotorHandle (motorId feedbackId : UInt16) (model : String) : Except String MotorHandle :=
  (modelLimits model).map fun limits =>
    { motorId, feedbackId, limits
      state := none
      stateTime := none
      feedbackUpdateCount := 0
      integrity := ⟨0, 0, 0, 0⟩
      disabledHint := true
      registerReplies := fun _ => none
      registerAcks := fun _ => none
      registerAckUpdateCounts := fun _ => 0 }

/-- `matches_feedback_arbitration_id`. -/
def matchesFeedbackArbitrationId (arbitrationId : UInt32) (configuredFeedbackId motorId : UInt16) : Bool :=
  let compactId := motorId &&& 0x0F
  let configuredFeedback := 0x10 ||| compactId
  let socketcanfdFeedback := 0x200 ||| compactId.toUInt32
  arbitrationId = configuredFeedbackId.toUInt32 ||
    (configuredFeedbackId = configuredFeedback && arbitrationId = socketcanfdFeedback)

/-- The identity in a frame's payload. -/
def decodedCanId (data : Payload) : UInt16 :=
  if isRegisterReply data || isRegisterWriteAck data then data[0].toUInt16 ||| (data[1].toUInt16 <<< 8)
  else (data[0] &&& 0x0F).toUInt16

namespace MotorHandle

variable (h : MotorHandle) (frame : CanFrame) (now : ℕ)

/-- The identity a frame's payload must have. -/
def expectedCanId (data : Payload) : UInt16 :=
  if isRegisterReply data || isRegisterWriteAck data then h.motorId else h.motorId &&& 0x0F

def rejectShort : MotorHandle :=
  { h with integrity := { h.integrity with
      rejectedFrameCount := h.integrity.rejectedFrameCount + 1
      shortFrameCount := h.integrity.shortFrameCount + 1 } }

def rejectIdentity : MotorHandle :=
  { h with integrity := { h.integrity with
      rejectedFrameCount := h.integrity.rejectedFrameCount + 1
      identityMismatchCount := h.integrity.identityMismatchCount + 1 } }

def rejectJump : MotorHandle :=
  { h with integrity := { h.integrity with
      rejectedFrameCount := h.integrity.rejectedFrameCount + 1
      implausiblePositionJumpCount := h.integrity.implausiblePositionJumpCount + 1 } }

/-- `accepts_frame`: whether the frame is this motor's, and the handle with a rejection counted. -/
def acceptsFrame : Bool × MotorHandle :=
  if frame.isExtended || !matchesFeedbackArbitrationId frame.id h.feedbackId h.motorId then (false, h)
  else if frame.dlc ≠ 8 then (false, h.rejectShort)
  else if decodedCanId frame.data ≠ h.expectedCanId frame.data then (false, h.rejectIdentity)
  else (true, h)

/-- How far the position may be from the last one. -/
def allowedDelta (previous : MotorState) (previousTime : ℕ) (decoded : SensorFeedback) : ℚ :=
  let elapsed : ℚ := (now - previousTime : ℕ) / (1000 * millisecond : ℕ)
  let observedVelocity := max |previous.vel| |decoded.vel|
  let velocityBound := max (observedVelocity * 4) (|h.limits.vMax| * (3 / 2))
  max (15 / 100) (3 / 100 + velocityBound * elapsed)

/-- The position of a sensor frame is too far from the last one. -/
def jumps (decoded : SensorFeedback) : Bool :=
  match h.state, h.stateTime with
  | some previous, some previousTime =>
    h.allowedDelta now previous previousTime decoded < |decoded.pos - previous.pos|
  | _, _ => false

/-- Store a decoded sensor frame. -/
def store (decoded : SensorFeedback) : MotorHandle :=
  { h with
    state := some
      { canId := decoded.canId
        arbitrationId := frame.id
        statusCode := decoded.statusCode
        pos := decoded.pos
        vel := decoded.vel
        torq := decoded.torq
        tMos := decoded.tMos
        tRotor := decoded.tRotor }
    stateTime := some now
    feedbackUpdateCount := h.feedbackUpdateCount + 1 }

/-- `process_feedback_frame`. -/
def processFeedbackFrame : MotorHandle :=
  if isRegisterReply frame.data then
    { h with registerReplies :=
        Function.update h.registerReplies frame.data[3] (some (registerWord frame.data, now)) }
  else if isRegisterWriteAck frame.data then
    { h with
      registerAcks := Function.update h.registerAcks frame.data[3] (some (registerWord frame.data, now))
      registerAckUpdateCounts := Function.update h.registerAckUpdateCounts frame.data[3]
        (h.registerAckUpdateCounts frame.data[3] + 1) }
  else
    let decoded := decodeSensorFeedback frame.data h.limits
    if h.jumps now decoded then h.rejectJump else h.store frame now decoded

end MotorHandle

/-! ### Register frames -/

/-- The register and value that a frame replies to a read. -/
def CanFrame.replies (frame : CanFrame) : Option (UInt8 × Word) :=
  if isRegisterReply frame.data then some (frame.data[3], registerWord frame.data) else none

/-- The register and value that a frame acknowledges. -/
def CanFrame.acknowledges (frame : CanFrame) : Option (UInt8 × Word) :=
  if isRegisterWriteAck frame.data then some (frame.data[3], registerWord frame.data) else none

/-- The frame is a sensor frame with the identity of the handle. -/
structure MotorHandle.IsFeedback (h : MotorHandle) (frame : CanFrame) : Prop where
  standard : frame.isExtended = false ∧ frame.dlc = 8
  arbitration : matchesFeedbackArbitrationId frame.id h.feedbackId h.motorId = true
  sensor : frame.replies = none ∧ frame.acknowledges = none
  identity : (frame.data[0] &&& 0x0F).toUInt16 = h.motorId &&& 0x0F

theorem not_ack_of_reply {data : Payload} (reply : isRegisterReply data) : ¬ isRegisterWriteAck data := by
  intro ack
  simp only [isRegisterReply, isRegisterWriteAck, isRegisterFrame, Bool.and_eq_true,
    decide_eq_true_eq] at reply ack
  exact absurd (reply.1.2.symm.trans ack.1.2) (by decide)

theorem replies_of_acknowledges {frame : CanFrame} {rid : UInt8} {value : Word}
    (acknowledges : frame.acknowledges = some (rid, value)) : frame.replies = none := by
  rw [CanFrame.acknowledges, Option.ite_none_right_eq_some] at acknowledges
  exact if_neg fun reply => not_ack_of_reply reply acknowledges.1

namespace MotorHandle

variable {h : MotorHandle} {frame : CanFrame} {now : ℕ}

/-! ### What a rejection leaves alone -/

@[simp] theorem registerReplies_acceptsFrame :
    (h.acceptsFrame frame).2.registerReplies = h.registerReplies := by
  unfold acceptsFrame
  split_ifs <;> rfl

@[simp] theorem registerAcks_acceptsFrame : (h.acceptsFrame frame).2.registerAcks = h.registerAcks := by
  unfold acceptsFrame
  split_ifs <;> rfl

@[simp] theorem registerAckUpdateCounts_acceptsFrame :
    (h.acceptsFrame frame).2.registerAckUpdateCounts = h.registerAckUpdateCounts := by
  unfold acceptsFrame
  split_ifs <;> rfl

@[simp] theorem motorId_acceptsFrame : (h.acceptsFrame frame).2.motorId = h.motorId := by
  unfold acceptsFrame
  split_ifs <;> rfl

/-! ### What a frame changes -/

@[simp] theorem motorId_processFeedbackFrame : (h.processFeedbackFrame frame now).motorId = h.motorId := by
  unfold processFeedbackFrame
  dsimp only
  split_ifs <;> rfl

/-- A register reply is stored with its time; other frames leave the replies alone. -/
theorem registerReplies_processFeedbackFrame : (h.processFeedbackFrame frame now).registerReplies =
    match frame.replies with
    | some (rid, value) => Function.update h.registerReplies rid (some (value, now))
    | none => h.registerReplies := by
  unfold processFeedbackFrame CanFrame.replies
  dsimp only
  split_ifs <;> rfl

/-- An acknowledgement is stored with its time; other frames leave the acknowledgements alone. -/
theorem registerAcks_processFeedbackFrame : (h.processFeedbackFrame frame now).registerAcks =
    match frame.acknowledges with
    | some (rid, value) => Function.update h.registerAcks rid (some (value, now))
    | none => h.registerAcks := by
  unfold processFeedbackFrame CanFrame.acknowledges
  by_cases reply : isRegisterReply frame.data
  · rw [if_pos reply, if_neg (not_ack_of_reply reply)]
  · rw [if_neg reply]
    dsimp only
    split_ifs <;> rfl

/-- An acknowledgement is counted for its register. -/
theorem registerAckUpdateCounts_processFeedbackFrame :
    (h.processFeedbackFrame frame now).registerAckUpdateCounts =
    match frame.acknowledges with
    | some (rid, _) => Function.update h.registerAckUpdateCounts rid (h.registerAckUpdateCounts rid + 1)
    | none => h.registerAckUpdateCounts := by
  unfold processFeedbackFrame CanFrame.acknowledges
  by_cases reply : isRegisterReply frame.data
  · rw [if_pos reply, if_neg (not_ack_of_reply reply)]
  · rw [if_neg reply]
    dsimp only
    split_ifs <;> rfl

end MotorHandle

/-- The handle of motor 1, just made. -/
def firstHandle : MotorHandle where
  motorId := 1
  feedbackId := 0x11
  limits := ⟨-25 / 2, 25 / 2, -10, 10, -28, 28⟩
  state := none
  stateTime := none
  feedbackUpdateCount := 0
  integrity := ⟨0, 0, 0, 0⟩
  disabledHint := true
  registerReplies _ := none
  registerAcks _ := none
  registerAckUpdateCounts _ := 0

end MotorDrive.Damiao
