import MotorDrive.Library.Validate
import MotorDrive.Trajectory.Segment

/-!
# The ordinary position mailbox

The arm mailbox of `SafetyRuntime` in PV mode, and what `run_arm_control_cycle` does with an ordinary position
command: the final position goes out at once, and the cycle shapes the velocity limit (the envelope of
`advance_ordinary_pv_drive_velocity`) and the stationary hold.

`sqrt` stands for the square root, so that the model computes over any ordered field.
-/

namespace MotorDrive.Control

open Trajectory (Motor)

/-! ## Feedback -/

/-- `ArticoreFeedbackStats` and `ArticoreMotorState` of a motor.  `fresh` stands for readable statistics that
are not stale, `hasValue` for a readable state with a value; a value that is not finite is `none`. -/
structure MotorState (K : Type) where
  fresh : Bool
  hasValue : Bool
  statusCode : ℕ
  position : Option K
  velocity : Option K

/-- The finite values of fresh enabled feedback. -/
structure Reading (K : Type) where
  position : K
  velocity : K

/-- The fresh enabled feedback that a control cycle accepts. -/
def MotorState.reading {K : Type} (state : MotorState K) : Option (Reading K) :=
  if state.fresh ∧ state.hasValue ∧ state.statusCode = 1 then
    state.position.bind fun position => state.velocity.map fun velocity => ⟨position, velocity⟩
  else none

/-! ## Configuration -/

/-- The members of `JointControlConfig` that position commands need. -/
structure JointConfig (K : Type) [Zero K] [LT K] where
  hardLowerPosition : K
  hardUpperPosition : K
  softLowerPosition : K
  softUpperPosition : K
  velocityLimit : K
  velocityFeedbackScale : K
  velocityLimit_pos : 0 < velocityLimit
  velocityFeedbackScale_pos : 0 < velocityFeedbackScale

/-- The side of an arm. -/
inductive Side
  | left | right
  deriving DecidableEq, Repr

/-- The other arm. -/
def Side.other : Side → Side
  | .left => .right
  | .right => .left

/-- `ARTICORE_PRODUCT_ARM_DOF`. -/
abbrev armDof : ℕ := 7

/-- A joint of `gravity_arms_`. -/
structure ArmJoint (K : Type) where
  motor : Motor
  direction : K

/-- What is fixed after `connect`. -/
structure Config (K : Type) [Zero K] [LT K] where
  period : K
  safePvVelocityLimit : K
  armMotors : List Motor
  joint : Motor → Option (JointConfig K)
  arms : Side → Fin armDof → ArmJoint K
  period_pos : 0 < period
  safePvVelocityLimit_pos : 0 < safePvVelocityLimit
  armMotors_nodup : armMotors.Nodup
  arms_distinct : ∀ side joint side' joint',
    (arms side joint).motor = (arms side' joint').motor → side = side' ∧ joint = joint'

/-! ## The mailbox -/

/-- `ArticorePosVelCommand`. -/
structure PvCommand (K : Type) where
  motor : Motor
  targetPosition : K
  velocityLimit : K
  deriving DecidableEq, Repr

/-- A joint of an ordinary PV mailbox: the entries of its vectors at one index. -/
structure PvJoint (K : Type) where
  command : PvCommand K
  finalPosition : K
  referencePosition : K
  referenceVelocity : K
  referenceVelocityLimit : K
  referenceAccelerationLimit : K
  driveVelocityCommand : K
  holdConfirmationCycles : ℕ
  stationaryHold : Bool
  holdTargetPosition : K

/-- An `ArmMailbox` with `joint_position`.  The hold of its joints has a size only from the first cycle on where
`initialize_arm_mailbox_from_feedback` made the mailbox. -/
structure Ordinary (K : Type) where
  userCommand : Bool
  perJointProfile : Bool
  maxReferenceVelocity : K
  maxReferenceAcceleration : K
  pvVelocityLimit : K
  holdsSized : Bool
  joints : List (PvJoint K)

/-- `ArmMailbox` in PV mode: nothing, the commands of a raw PV command or of a trajectory, or an ordinary
position command. -/
inductive ArmMailbox (K : Type)
  | empty
  | commands (pv : List (PvCommand K))
  | ordinary (mailbox : Ordinary K)

variable {K : Type} [Field K] [LinearOrder K]

/-! ## Constants -/

/-- `kNativeOrdinaryPvDefaultAcceleration`. -/
def defaultAcceleration : K := 6

/-- `kNativeOrdinaryPvHoldPositionTolerance`, `kNativeOrdinaryPvHoldReleaseTolerance`. -/
def holdPositionTolerance : K := 2 / 1000

/-- `kNativeOrdinaryPvHoldVelocityTolerance`. -/
def holdVelocityTolerance : K := 2 / 100

/-- `kNativeOrdinaryPvHoldConfirmationCycles`. -/
def requiredConfirmations : ℕ := 25

/-- `kNativePvPositionFeedbackQuantum`, `kNativeOrdinaryPvHoldTargetTolerance`. -/
def holdTargetTolerance : K := 25 / 65535

/-- The scale of ordinary references in `DEGRADED`. -/
def commandScale (degraded : Bool) : K := if degraded then 1 / 4 else 1

theorem commandScale_pos [IsStrictOrderedRing K] (degraded : Bool) : (0 : K) < commandScale degraded := by
  unfold commandScale
  split_ifs
  · exact one_div_pos.mpr four_pos
  · exact one_pos

/-! ## The velocity envelope -/

/-- `advance_ordinary_pv_drive_velocity`. -/
def advanceOrdinaryPvDriveVelocity (sqrt : K → K) (previousVelocityLimit feedbackVelocity remainingDistance
    maximumVelocity maximumAcceleration period : K) : K :=
  if previousVelocityLimit < 0 ∨ remainingDistance < 0 ∨ maximumVelocity ≤ 0 ∨ maximumAcceleration ≤ 0 ∨
      period ≤ 0 then 0
  else
    let brakingVelocity := sqrt (max 0 (2 * maximumAcceleration * remainingDistance))
    let desiredVelocity := min maximumVelocity brakingVelocity
    let maximumChange := maximumAcceleration * period
    let boundedPrevious := min previousVelocityLimit maximumVelocity
    let measuredSpeed := min |feedbackVelocity| maximumVelocity
    if boundedPrevious ≤ desiredVelocity then
      min desiredVelocity (max boundedPrevious measuredSpeed + maximumChange)
    else min boundedPrevious (max desiredVelocity (measuredSpeed - maximumChange))

/-- `advance_acceleration_limited_pv_reference`: the position and the velocity of the next reference. -/
def advanceAccelerationLimitedPvReference (sqrt : K → K) (currentPosition currentVelocity targetPosition
    maximumVelocity maximumAcceleration period : K) : K × K :=
  let error := targetPosition - currentPosition
  let speed := min maximumVelocity (sqrt (max 0 (2 * maximumAcceleration * |error|)))
  let desiredVelocity := if error < 0 then -|speed| else |speed|
  let maximumChange := maximumAcceleration * period
  let nextVelocity := max (currentVelocity - maximumChange) (min desiredVelocity (currentVelocity + maximumChange))
  let nextPosition := currentPosition + 1 / 2 * (currentVelocity + nextVelocity) * period
  let crossed := (0 < error ∧ targetPosition ≤ nextPosition) ∨ (error < 0 ∧ nextPosition ≤ targetPosition)
  if (|error| ≤ 1 / 10 ^ 7 ∨ crossed) ∧ |currentVelocity| ≤ maximumChange then (targetPosition, 0)
  else (nextPosition, nextVelocity)

/-! ## One joint of an ordinary command -/

/-- The scale between the velocity that a motor reports and the one of its joint. -/
def Config.velocityFeedbackScale (config : Config K) (motor : Motor) : K :=
  ((config.joint motor).map JointConfig.velocityFeedbackScale).getD 1

/-- The velocity limit of a joint in the units of its motor. -/
def Ordinary.maximumVelocity (mailbox : Ordinary K) (config : Config K) (degraded : Bool) (joint : PvJoint K) : K :=
  (if mailbox.perJointProfile then joint.referenceVelocityLimit else mailbox.pvVelocityLimit) *
    commandScale degraded / config.velocityFeedbackScale joint.command.motor

/-- The acceleration limit of a joint in the units of its motor. -/
def Ordinary.maximumAcceleration (mailbox : Ordinary K) (config : Config K) (degraded : Bool)
    (joint : PvJoint K) : K :=
  (if mailbox.perJointProfile then joint.referenceAccelerationLimit else mailbox.maxReferenceAcceleration) *
    commandScale degraded * commandScale degraded / config.velocityFeedbackScale joint.command.motor

/-- The stationary hold starts over at the final position. -/
def PvJoint.resetHold (joint : PvJoint K) : PvJoint K :=
  { joint with holdConfirmationCycles := 0, stationaryHold := false, holdTargetPosition := joint.finalPosition }

/-- The feedback confirms the hold of a joint at its final position. -/
def PvJoint.confirms (config : Config K) (joint : PvJoint K) (reading : Reading K) : Prop :=
  |reading.position - joint.finalPosition| ≤ holdPositionTolerance ∧
    |reading.velocity| ≤ holdVelocityTolerance / config.velocityFeedbackScale joint.command.motor ∧
    |joint.finalPosition - joint.holdTargetPosition| ≤ holdTargetTolerance

instance (config : Config K) (joint : PvJoint K) (reading : Reading K) : Decidable (joint.confirms config reading) :=
  inferInstanceAs (Decidable (_ ∧ _))

/-- The hold of a joint after the feedback of a cycle. -/
def PvJoint.updateHold (config : Config K) (joint : PvJoint K) : Option (Reading K) → PvJoint K
  | some reading =>
    if joint.stationaryHold then
      if holdPositionTolerance < |reading.position - joint.finalPosition| ∨
          holdTargetTolerance < |joint.finalPosition - joint.holdTargetPosition| then joint.resetHold
      else joint
    else if joint.confirms config reading then
      let confirmations := if joint.holdConfirmationCycles < requiredConfirmations then
        joint.holdConfirmationCycles + 1 else joint.holdConfirmationCycles
      { joint with
        holdConfirmationCycles := confirmations
        stationaryHold := requiredConfirmations ≤ confirmations }
    else joint.resetHold
  | none => if joint.stationaryHold then joint else joint.resetHold

/-- The velocity limit of a joint that is not held. -/
def Ordinary.driveVelocity (sqrt : K → K) (config : Config K) (mailbox : Ordinary K) (degraded : Bool)
    (joint : PvJoint K) : Option (Reading K) → K
  | some reading => advanceOrdinaryPvDriveVelocity sqrt joint.driveVelocityCommand reading.velocity
      |reading.position - joint.finalPosition| (mailbox.maximumVelocity config degraded joint)
      (mailbox.maximumAcceleration config degraded joint) config.period
  | none => 0

/-- The cycle of one joint of an ordinary command. -/
def Ordinary.advanceJoint (sqrt : K → K) (config : Config K) (mailbox : Ordinary K) (degraded : Bool)
    (state : MotorState K) (joint : PvJoint K) : PvJoint K :=
  let held := joint.updateHold config state.reading
  let limit := if held.stationaryHold then 0
    else mailbox.driveVelocity sqrt config degraded joint state.reading
  { held with
    command := ⟨joint.command.motor, joint.finalPosition, limit⟩
    referencePosition := joint.finalPosition
    referenceVelocity := 0
    driveVelocityCommand := limit }

/-- The holds of a mailbox that has none yet. -/
def Ordinary.sizeHolds (mailbox : Ordinary K) : Ordinary K :=
  if mailbox.holdsSized then mailbox
  else { mailbox with holdsSized := true, joints := mailbox.joints.map PvJoint.resetHold }

/-- The cycle of an ordinary command. -/
def Ordinary.advance (sqrt : K → K) (config : Config K) (mailbox : Ordinary K) (degraded : Bool)
    (feedback : Motor → MotorState K) : Ordinary K :=
  { mailbox.sizeHolds with
    joints := mailbox.sizeHolds.joints.map fun joint =>
      mailbox.advanceJoint sqrt config degraded (feedback joint.command.motor) joint }

end MotorDrive.Control
