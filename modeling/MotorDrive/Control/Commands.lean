import MotorDrive.Control.Mailbox

/-!
# The commands of the ordinary position mailbox

`install_joint_position` with what it carries over from the mailbox before, the updates of the motion limits,
the mailbox of a start from feedback, and the start and the stop of the bimanual follow.
-/

namespace MotorDrive.Control

open Trajectory (Motor)
open Validate

/-! ## State -/

/-- `bimanual_follow_` while it is active. -/
structure BimanualFollow (K : Type) where
  leaderSide : Side
  startPositions : Side → Fin armDof → K
  followerReference : Fin armDof → K
  followerReferenceVelocity : Fin armDof → K

/-- The members of `SafetyRuntime` that an ordinary PV command is made of. -/
structure ArmControl (K : Type) where
  mailbox : ArmMailbox K
  follow : Option (BimanualFollow K)

variable {K : Type} [Field K] [LinearOrder K]

/-! ## Installing a position command -/

/-- The arguments of `install_joint_position` in PV mode; `profile` holds the limits of each target. -/
structure JointPosition (K : Type) where
  targets : List (Motor × K)
  maxReferenceVelocity : K
  maxReferenceAcceleration : K
  pvVelocityLimit : K
  profile : Option (List K × List K)

/-- The test of a position by `validate_position_velocity_torque`. -/
def checkPosition (limits : JointConfig K) (position : K) : Except String Unit := do
  reject (position < limits.hardLowerPosition ∨ limits.hardUpperPosition < position)
    "joint command exceeds hard position limits"
  reject (position < limits.softLowerPosition ∨ limits.softUpperPosition < position)
    "joint command exceeds position limits"

/-- The tests of one target. -/
def JointPosition.checkTarget (config : Config K) (request : JointPosition K) (entry : (Motor × K) × ℕ) :
    Except String Unit := do
  let ((motor, position), index) := entry
  reject (motor ∉ config.armMotors) "ordinary PV position command contains an unexpected motor"
  reject (motor ∈ (request.targets.take index).map Prod.fst)
    "ordinary PV position command contains duplicate motors"
  match config.joint motor with
  | none => .error "joint control configuration is required for native joint control"
  | some limits => do
    reject (limits.velocityLimit < request.maxReferenceVelocity)
      "shared PV reference velocity exceeds joint safety limit"
    reject (limits.velocityLimit < request.pvVelocityLimit) "PV velocity limit exceeds joint safety limit"
    match request.profile with
    | none => checkPosition limits position
    | some (velocities, accelerations) => do
      let velocity := velocities.getD index 0
      reject (velocity ≤ 0 ∨ limits.velocityLimit < velocity ∨ accelerations.getD index 0 ≤ 0)
        "invalid ordinary PV per-joint motion limit"
      checkPosition limits position

/-- The tests of `install_joint_position` before it takes its locks. -/
def JointPosition.check (config : Config K) (request : JointPosition K) : Except String Unit := do
  reject (request.maxReferenceVelocity < 0) "max_reference_velocity must be finite and non-negative"
  reject (request.pvVelocityLimit < 0) "pv_velocity_limit must be finite and non-negative"
  reject (request.maxReferenceAcceleration ≤ 0) "max_reference_acceleration must be finite and positive"
  reject (request.profile.any fun (velocities, accelerations) =>
      velocities.length ≠ request.targets.length || accelerations.length ≠ request.targets.length)
    "ordinary PV per-joint limits must match the complete target layout"
  reject (request.targets.length ≠ config.armMotors.length)
    "ordinary PV position command must contain every active arm joint"
  request.targets.zipIdx.forM (request.checkTarget config)

/-- The position that an enabled motor reports. -/
def MotorState.enabledPosition (state : MotorState K) : Option K :=
  if state.hasValue ∧ state.statusCode = 1 then state.position else none

/-- The position that an enabled motor reports in fresh feedback. -/
def MotorState.freshPosition (state : MotorState K) : Option K :=
  if state.fresh then state.enabledPosition else none

/-- The joint of a position command that continues the joint of an ordinary mailbox. -/
def PvJoint.continue (holdsSized : Bool) (previous : PvJoint K) (final velocity acceleration : K) : PvJoint K :=
  let kept : Bool := holdsSized && |final - previous.holdTargetPosition| ≤ holdTargetTolerance
  { command := ⟨previous.command.motor, previous.command.targetPosition, previous.driveVelocityCommand⟩
    finalPosition := final
    referencePosition := previous.referencePosition
    referenceVelocity := previous.referenceVelocity
    referenceVelocityLimit := velocity
    referenceAccelerationLimit := acceleration
    driveVelocityCommand := previous.driveVelocityCommand
    holdConfirmationCycles := if kept then previous.holdConfirmationCycles else 0
    stationaryHold := if kept then previous.stationaryHold else false
    holdTargetPosition := if kept then previous.holdTargetPosition else final }

/-- The joint of a position command that continues nothing. -/
def PvJoint.fresh (motor : Motor) (position final velocity acceleration : K) : PvJoint K where
  command := ⟨motor, position, 0⟩
  finalPosition := final
  referencePosition := position
  referenceVelocity := 0
  referenceVelocityLimit := velocity
  referenceAccelerationLimit := acceleration
  driveVelocityCommand := 0
  holdConfirmationCycles := 0
  stationaryHold := false
  holdTargetPosition := final

/-- The joint of one target. -/
def JointPosition.installJoint (mailbox : ArmMailbox K) (feedback : Motor → MotorState K)
    (request : JointPosition K) (entry : (Motor × K) × ℕ) : Except String (PvJoint K) :=
  let ((motor, final), index) := entry
  let velocity := (request.profile.map fun profile => profile.1.getD index 0).getD 0
  let acceleration := (request.profile.map fun profile => profile.2.getD index 0).getD 0
  match (feedback motor).freshPosition with
  | none => .error "complete fresh enabled feedback is required for ordinary PV position control"
  | some position =>
    match mailbox with
    | .ordinary previous =>
      match previous.joints.find? fun joint => joint.command.motor = motor with
      | none => .error "ordinary PV reference state does not match the active arm layout"
      | some joint => .ok (joint.continue previous.holdsSized final velocity acceleration)
    | _ => .ok (.fresh motor position final velocity acceleration)

/-- `install_joint_position` in PV mode; `allowed` is what the lifecycle state, the mode and the transports
allow. -/
def ArmControl.installJointPosition (config : Config K) (c : ArmControl K) (request : JointPosition K)
    (allowed : Except String Unit) (feedback : Motor → MotorState K) : Except String Unit × ArmControl K :=
  let installed : Except String (List (PvJoint K)) := do
    request.check config
    allowed
    request.targets.zipIdx.mapM (request.installJoint c.mailbox feedback)
  match installed with
  | .error error => (.error error, c)
  | .ok joints =>
    (.ok (), { c with mailbox := .ordinary {
      userCommand := true
      perJointProfile := request.profile.isSome
      maxReferenceVelocity := request.maxReferenceVelocity
      maxReferenceAcceleration := request.maxReferenceAcceleration
      pvVelocityLimit := request.pvVelocityLimit
      holdsSized := true
      joints := joints } })

/-! ## Updating the limits -/

/-- `joint_config`. -/
def Config.jointConfig (config : Config K) (motor : Motor) : Except String (JointConfig K) :=
  match config.joint motor with
  | none => .error "joint control configuration is required for native joint control"
  | some limits => .ok limits

/-- `update_joint_pv_motion_limits`. -/
def ArmControl.updateMotionLimits (config : Config K) (c : ArmControl K)
    (maxReferenceVelocity maxReferenceAcceleration pvVelocityLimit : K) : Except String Unit × ArmControl K :=
  let checked : Except String Unit := do
    reject (maxReferenceVelocity < 0) "max_reference_velocity must be finite and non-negative"
    reject (pvVelocityLimit < 0) "pv_velocity_limit must be finite and non-negative"
    reject (maxReferenceAcceleration ≤ 0) "max_reference_acceleration must be finite and positive"
  let within (mailbox : Ordinary K) : Except String Unit := do
    reject (mailbox.joints = []) "PV motion-limit update requires an active ordinary PV command"
    mailbox.joints.forM fun joint => do
      let limits ← config.jointConfig joint.command.motor
      reject (limits.velocityLimit < maxReferenceVelocity ∨ limits.velocityLimit < pvVelocityLimit)
        "ordinary PV velocity exceeds joint safety limit"
  match c.mailbox with
  | .ordinary mailbox =>
    match checked.bind fun _ => within mailbox with
    | .error error => (.error error, c)
    | .ok _ => (.ok (), { c with mailbox := .ordinary { mailbox with
        maxReferenceVelocity := maxReferenceVelocity
        maxReferenceAcceleration := maxReferenceAcceleration
        pvVelocityLimit := pvVelocityLimit
        joints := mailbox.joints.map fun joint => { joint with
          command := ⟨joint.command.motor, joint.command.targetPosition,
            max config.safePvVelocityLimit pvVelocityLimit⟩ } } })
  | _ => (checked, c)

/-- `std::max_element` of the limits of a profile. -/
def greatest (limits : List K) : K := limits.tail.foldl max (limits.headD 0)

/-- `update_joint_pv_profile_limits`. -/
def ArmControl.updateProfileLimits (config : Config K) (c : ArmControl K) (velocities accelerations : List K) :
    Except String Unit × ArmControl K :=
  let checked : Except String Unit :=
    reject (velocities.length ≠ accelerations.length ∨ velocities = [])
      "ordinary PV per-joint limits must have the same non-zero size"
  let within (mailbox : Ordinary K) : Except String Unit := do
    reject (velocities.length ≠ mailbox.joints.length)
      "PV profile-limit update requires an active per-joint ordinary PV command"
    mailbox.joints.zipIdx.forM fun (joint, index) => do
      let limits ← config.jointConfig joint.command.motor
      let velocity := velocities.getD index 0
      reject (velocity ≤ 0 ∨ limits.velocityLimit < velocity ∨ accelerations.getD index 0 ≤ 0)
        "invalid ordinary PV per-joint motion limit"
  match c.mailbox with
  | .ordinary mailbox =>
    if !mailbox.userCommand || mailbox.joints = [] || !mailbox.perJointProfile then (checked, c)
    else match checked.bind fun _ => within mailbox with
      | .error error => (.error error, c)
      | .ok _ => (.ok (), { c with mailbox := .ordinary { mailbox with
          maxReferenceVelocity := greatest velocities
          maxReferenceAcceleration := greatest accelerations
          joints := mailbox.joints.mapIdx fun index joint => { joint with
            referenceVelocityLimit := velocities.getD index 0
            referenceAccelerationLimit := accelerations.getD index 0 } } })
  | _ => (checked, c)

/-! ## Starting from feedback -/

/-- A joint that holds its position. -/
def PvJoint.holding (motor : Motor) (position velocityLimit : K) : PvJoint K where
  command := ⟨motor, position, velocityLimit⟩
  finalPosition := position
  referencePosition := position
  referenceVelocity := 0
  referenceVelocityLimit := 0
  referenceAccelerationLimit := 0
  driveVelocityCommand := 0
  holdConfirmationCycles := 0
  stationaryHold := false
  holdTargetPosition := position

/-- `initialize_arm_mailbox_from_feedback` in PV mode. -/
def ArmControl.initializeArmMailbox (config : Config K) (c : ArmControl K) (requireEnabled : Bool)
    (feedback : Motor → MotorState K) : Except String Unit × ArmControl K :=
  let initialized : Except String (List (PvJoint K)) := do
    let joints ← config.armMotors.mapM fun motor =>
      let state := feedback motor
      match state.position, state.velocity with
      | some position, some _ =>
        if !state.fresh || !state.hasValue || 1 < state.statusCode || (requireEnabled && state.statusCode ≠ 1) then
          .error "fresh feedback is required before enable"
        else .ok (PvJoint.holding motor position config.safePvVelocityLimit)
      | _, _ => .error "fresh feedback is required before enable"
    reject (joints = []) "runtime requires at least one active arm motor"
    return joints
  match initialized with
  | .error error => (.error error, c)
  | .ok joints =>
    (.ok (), { c with mailbox := .ordinary {
      userCommand := false
      perJointProfile := false
      maxReferenceVelocity := 0
      maxReferenceAcceleration := defaultAcceleration
      pvVelocityLimit := config.safePvVelocityLimit
      holdsSized := false
      joints := joints } })

/-! ## The bimanual follow -/

/-- The sides in the order of `gravity_arms_`, with their joints. -/
def armJoints : List (Side × Fin armDof) :=
  [Side.left, Side.right].flatMap fun side => (List.finRange armDof).map fun joint => (side, joint)

/-- `start_bimanual_follow`; `allowed` is what the lifecycle state allows. -/
def ArmControl.startBimanualFollow (config : Config K) (c : ArmControl K) (leaderSide : Side)
    (allowed : Except String Unit) (feedback : Motor → MotorState K) : Except String Unit × ArmControl K :=
  let complete : Bool := match c.mailbox with
    | .ordinary mailbox => mailbox.joints.length = 2 * armDof
    | _ => false
  let ready : Except String Unit := do
    allowed
    reject (!complete) "bimanual follow requires an ordinary current-position PV/MIT hold"
    armJoints.forM fun (side, joint) =>
      let motor := (config.arms side joint).motor
      reject ((config.joint motor).isNone ∨ (feedback motor).reading.isNone)
        "bimanual follow requires fresh enabled feedback"
  match ready with
  | .error error => (.error error, c)
  | .ok _ =>
    let position (side : Side) (joint : Fin armDof) : K :=
      ((feedback (config.arms side joint).motor).reading.map Reading.position).getD 0
    (.ok (), { c with follow := some {
      leaderSide := leaderSide
      startPositions := position
      followerReference := position leaderSide.other
      followerReferenceVelocity := fun _ => 0 } })

/-- A joint that stays where it is when the follow stops. -/
def PvJoint.stopFollow (joint : PvJoint K) (position : K) : PvJoint K :=
  { joint with
    command := ⟨joint.command.motor, position, joint.command.velocityLimit⟩
    finalPosition := position
    referencePosition := position
    referenceVelocity := 0
    holdConfirmationCycles := 0
    stationaryHold := false }

/-- The joints of a mailbox with one of them changed. -/
def setJoint (joints : List (PvJoint K)) (motor : Motor) (change : PvJoint K → PvJoint K) : List (PvJoint K) :=
  joints.modify (joints.findIdx fun joint => joint.command.motor = motor) change

/-- `stop_bimanual_follow`: the joints of both arms, in order, until one has lost the layout. -/
def stopFollowJoints (config : Config K) (feedback : Motor → MotorState K) :
    List (Side × Fin armDof) → Ordinary K → Except String Unit × Ordinary K
  | [], mailbox => (.ok (), mailbox)
  | (side, joint) :: rest, mailbox =>
    let motor := (config.arms side joint).motor
    if mailbox.joints.all fun joint => joint.command.motor ≠ motor then
      (.error "PV bimanual hold lost the product layout", mailbox)
    else stopFollowJoints config feedback rest { mailbox with
      joints := setJoint mailbox.joints motor fun joint =>
        joint.stopFollow ((feedback motor).enabledPosition.getD 0) }

/-- `stop_bimanual_follow`. -/
def ArmControl.stopBimanualFollow (config : Config K) (c : ArmControl K) (feedback : Motor → MotorState K) :
    Except String Unit × ArmControl K :=
  match c.follow with
  | none => (.ok (), c)
  | some _ =>
    if armJoints.any fun (side, joint) => (feedback (config.arms side joint).motor).enabledPosition.isNone then
      (.error "current position is unavailable while stopping bimanual follow", c)
    else match c.mailbox with
      | .ordinary mailbox =>
        match stopFollowJoints config feedback armJoints mailbox with
        | (.error error, stopped) => (.error error, { c with mailbox := .ordinary stopped })
        | (.ok _, stopped) => (.ok (), ⟨.ordinary stopped, none⟩)
      | _ => (.error "PV bimanual hold lost the product layout", c)

end MotorDrive.Control
