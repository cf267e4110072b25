import MotorDrive.Cartesian.Continuity
import MotorDrive.Cartesian.InverseKinematics
import MotorDrive.Cartesian.Pose
import MotorDrive.Cartesian.Schedule
import MotorDrive.Trajectory.Plan

/-!
# The Cartesian planner

`product_cartesian.cpp` and `product_cartesian_validation.cpp` over the real numbers: a linear, a piecewise linear and
a circular motion of one arm from the planned reference, with an approach to a declared start that the arm is not at.
The poses of the path are solved one after the other by the inverse kinematics, the joint path gets its time law, and
the knots become the waypoints of a trajectory request.  The kinematics library is a parameter.
-/

namespace MotorDrive.Cartesian

open Validate

open Trajectory (Motor TrajectoryJoint Waypoint Request)

noncomputable section

open Classical

/-! ## The product -/

/-- `ARTICORE_ROBOT_LEFT` and `ARTICORE_ROBOT_RIGHT`. -/
def Side.index : Side → ℕ
  | .left => 0
  | .right => 1

theorem armJoint_lt (side : Side) (joint : Fin 7) : side.index * 7 + joint < 14 := by
  cases side <;> rw [Side.index] <;> omega

/-- The product index of a joint of an arm. -/
def armJoint (side : Side) (joint : Fin 7) : Fin 14 := ⟨side.index * 7 + joint, armJoint_lt side joint⟩

/-- The arm of a product joint, and its place there. -/
def sideOf (joint : Fin 14) : Side := if joint.val < 7 then .left else .right

def placeOf (joint : Fin 14) : Fin 7 := ⟨joint % 7, Nat.mod_lt _ (Nat.succ_pos 6)⟩

/-- `yunyi_joint_role`. -/
def jointRole (joint : Fin 14) : String :=
  (match sideOf joint with
    | .left => "left/l-joint"
    | .right => "right/r-joint") ++ toString ((placeOf joint).val + 1)

/-- `YunyiRuntimeResources::Joint`, less the scale of the torque feedback. -/
structure ProductJoint where
  motor : Motor
  direction : ℝ
  lower : ℝ
  upper : ℝ
  velocityLimit : ℝ
  accelerationLimit : ℝ
  torqueLimit : ℝ
  velocityCommandScale : ℝ
  velocityFeedbackScale : ℝ
  torqueCommandScale : ℝ
  kp : ℝ
  kd : ℝ

/-- What the planner uses of `RobotModel`, with the tool of the product. -/
structure RobotModel (side : Side) where
  /-- `fk`, a rigid placement for every configuration. -/
  fk : Configuration → Pose
  fk_proper : ∀ q, (fk q).Proper
  /-- The kinematics of the inverse problem for a target. -/
  kinematics : Pose → Kinematics
  randomQ : ℕ → Configuration
  randomQ_inLimits : ∀ retry, InLimits side (randomQ retry)

/-- What the planner uses of `YunyiRuntimeResources`; the clock tells each reading whether the budget of the endpoint
search is used up. -/
structure Resources where
  joints : Fin 14 → ProductJoint
  planningModel : (side : Side) → RobotModel side
  poseModel : (side : Side) → RobotModel side
  deadline : ℕ → Bool

/-- `ArticoreRuntimeOperation`, as far as `require_cartesian_reference` tells them apart. -/
inductive ReferenceOperation
  | movePose | moveLinearTrajectory | moveCircularTrajectory | other
  deriving DecidableEq, Repr

/-- `NativeTrajectorySample`, without the number of the motion. -/
structure PlannedReference where
  active : Bool
  operation : ReferenceOperation
  positions : List ℝ
  velocities : List ℝ
  accelerations : List ℝ

/-- `NativeCartesianTrajectoryPlan`, with the poses that its convergence checks compare with. -/
structure TrajectoryPlan where
  trajectory : Request ℝ
  minimumDuration : ℝ
  finalPose : Pose
  approachPose : Option Pose := none

/-- What the planner throws. -/
inductive BuildError
  | invalidArgument (message : String)
  | runtimeError (message : String)
  | unreachable (context : String) (errorNorm : WithTop ℝ)
  | positionLimit (context role : String) (position lower upper : ℝ)
  | continuity (context : String) (error : ContinuityError ℝ)
  | startMismatch (motionName : String) (positionError orientationError : ℝ)
  | noBranch (motionName : String) (attemptedBranches : ℕ) (pathFailure : Option BuildError)

/-- `std::invalid_argument`. -/
def BuildError.isInvalidArgument : BuildError → Bool
  | .runtimeError _ => false
  | _ => true

/-! ## The checks of a call -/

/-- `require_pv_mode`. -/
def requirePvMode (mode : Trajectory.ControlMode) : Except BuildError Unit :=
  reject (mode ≠ .pv) (.runtimeError "product Cartesian motion requires PV mode")

/-- The side of a call. -/
def requireSide : ℕ → Except BuildError Side
  | 0 => .ok .left
  | 1 => .ok .right
  | _ => .error (.invalidArgument "Cartesian motion side must be LEFT(0) or RIGHT(1)")

/-- `require_cartesian_reference`. -/
def requireCartesianReference (reference : PlannedReference) (motionName : String) : Except BuildError Unit := do
  reject (reference.active ∧ reference.operation = .other)
    (.runtimeError (motionName ++ " cannot follow the current planned Runtime operation"))
  reject (reference.positions.length ≠ 14 ∨ reference.velocities.length ≠ 14 ∨ reference.accelerations.length ≠ 14)
    (.runtimeError (motionName ++ " requires a complete current planned reference"))

/-- The values of the fourteen joints. -/
def jointPoint (values : List ℝ) : JointPoint := fun joint => values.getD joint 0

/-- `reference_q`: the joints of an arm. -/
def armOf (side : Side) (point : JointPoint) : Configuration := fun joint => point (armJoint side joint)

/-- The joints of an arm put into the positions of both arms. -/
def setArm (side : Side) (q : Configuration) (point : JointPoint) : JointPoint := fun joint =>
  if sideOf joint = side then q (placeOf joint) else point joint

/-- `validate_cartesian_start_pose`. -/
def validateCartesianStartPose (product : Resources) (side : ℕ) (reference : PlannedReference) (declared : Pose)
    (motionName : String) : Except BuildError Unit := do
  let side ← requireSide side
  reject (reference.positions.length ≠ 14)
    (.runtimeError (motionName ++ " requires a complete current planned reference"))
  let current := (product.planningModel side).fk (armOf side (jointPoint reference.positions))
  let positionError := vectorNorm (current.position - declared.position)
  let value ← (quaternionFromRotation current.rotation).mapError .invalidArgument
  let other ← (quaternionFromRotation declared.rotation).mapError .invalidArgument
  let orientationError := angularDistance value other
  reject (¬ (positionError ≤ 0.005 ∧ orientationError ≤ 0.035))
    (.startMismatch motionName positionError orientationError)

/-- The check of a declared start, if there is one. -/
def validateDeclaredStart (product : Resources) (side : ℕ) (reference : PlannedReference) (declaredStart : Option Pose)
    (motionName : String) : Except BuildError Unit :=
  match declaredStart with
  | some declared => validateCartesianStartPose product side reference declared motionName
  | none => .ok ()

/-! ## The joint path -/

/-- `product_path_ik_options`. -/
def productPathIkOptions : IkOptions where
  maxIterations := 1000
  maxRetries := 0
  tolerance := 0
  stepSize := 0
  damping := 0

/-- `product_endpoint_ik_options`. -/
def productEndpointIkOptions : IkOptions := { productPathIkOptions with maxRetries := 1000 }

/-- A call of the inverse kinematics of a model. -/
def RobotModel.call {side : Side} (model : RobotModel side) (target : Pose) (seed : Configuration)
    (options : IkOptions) (flags : IkFlags) : IkCall where
  kinematics := model.kinematics target
  side := side
  seed := seed
  options := some options
  flags := flags
  randomQ := model.randomQ
  randomQ_inLimits := model.randomQ_inLimits

/-- `solve_path_ik`. -/
def solvePathIk (product : Resources) (side : Side) (target : Pose) (seed : Configuration) (context : String) :
    Except BuildError Configuration := do
  let ik ← (ikImpl ((product.planningModel side).call target seed productPathIkOptions ikFromSeed)).mapError
    .invalidArgument
  reject (¬ ik.success) (.unreachable context ik.errorNorm)
  (List.finRange 7).forM fun index =>
    let joint := product.joints (armJoint side index)
    reject (ik.q index < joint.lower ∨ joint.upper < ik.q index)
      (.positionLimit context (jointRole (armJoint side index)) (ik.q index) joint.lower joint.upper)
  return ik.q

/-- What the loop over the samples of a path keeps. -/
structure PathState where
  seed : Configuration
  continuity : Fin 7 → JointContinuity ℝ
  path : List JointPoint

/-- One sample of a path, with its context and its number. -/
def solveSample (product : Resources) (side : Side) (start : JointPoint) (state : PathState)
    (entry : (Except String Pose × String) × ℕ) : Except BuildError PathState := do
  let target ← entry.1.1.mapError .invalidArgument
  let solved ← solvePathIk product side target state.seed entry.1.2
  let continuity ← (requireCartesianIkContinuity side.index state.seed solved state.continuity entry.2).mapError
    (.continuity entry.1.2)
  return ⟨solved, continuity, state.path ++ [setArm side solved start]⟩

/-- The loop over the samples after the start. -/
def solvePath (product : Resources) (side : Side) (start : JointPoint) (targets : List (Except String Pose × String)) :
    Except BuildError (List JointPoint) := do
  let state ← (targets.zipIdx 1).foldlM (solveSample product side start)
    ⟨armOf side start, fun _ => .fresh, [start]⟩
  return state.path

/-- The samples of a linear path, of which the last one has a context of its own. -/
def labelled (context lastContext : String) (poses : List Pose) : List (Except String Pose × String) :=
  poses.zipIdx.map fun (pose, index) => (.ok pose, if index + 1 = poses.length then lastContext else context)

/-- The samples of an arc, of which the first ones lead to the via pose. -/
def labelledArc (firstSegments : ℕ) (targets : List (Except String Pose)) : List (Except String Pose × String) :=
  targets.zipIdx.map fun (target, index) =>
    (target, if index < firstSegments then "Cartesian circular start-to-via path"
      else "Cartesian circular via-to-end path")

/-! ## The request -/

/-- `trajectory_joint`. -/
def trajectoryJoint (source : ProductJoint) (index : Fin 14) : TrajectoryJoint ℝ where
  role := jointRole index
  motor := source.motor
  direction := source.direction
  velocityCommandScale := source.velocityCommandScale
  velocityFeedbackScale := source.velocityFeedbackScale
  torqueCommandScale := source.torqueCommandScale
  lowerPosition := source.lower
  upperPosition := source.upper
  velocityLimit := source.velocityLimit
  accelerationLimit := source.accelerationLimit
  torqueLimit := source.torqueLimit
  mitKp := source.kp
  mitKd := source.kd
  mitFeedforwardTorque := 0
  pvVelocityLimit := min source.velocityLimit 3
  pvHoldVelocityLimit := min (min source.velocityLimit 3) 0

/-- `all_joints`. -/
def allJoints : BitVec 32 := (1 <<< 14) - 1

/-- The joints as a list. -/
def valuesOf (point : JointPoint) : List ℝ := List.ofFn point

/-- A waypoint of `assemble_cartesian_trajectory_plan`: the derivatives are those of the start at the first one, and
zero at the last one. -/
def assembledWaypoint (path : TimedJointPath) (startVelocities startAccelerations : JointPoint) (index : ℕ) :
    Waypoint ℝ where
  time := path.time index
  positions := valuesOf (path.point index)
  velocities := valuesOf (if index = 0 then startVelocities else 0)
  accelerations := valuesOf (if index = 0 then startAccelerations else 0)
  velocityValidMask := if index = 0 ∨ index + 1 = path.points.length then allJoints else 0
  accelerationValidMask := if index = 0 ∨ index + 1 = path.points.length then allJoints else 0

/-- `assemble_cartesian_trajectory_plan`. -/
def assembleCartesianTrajectoryPlan (product : Resources) (path : TimedJointPath)
    (startVelocities startAccelerations : JointPoint) (mode : Trajectory.ControlMode)
    (operation : Trajectory.Operation) (completionSide : Side)
    (maximumReferenceAcceleration maximumReferenceVelocity : ℝ) : Except BuildError TrajectoryPlan := do
  requirePvMode mode
  reject (maximumReferenceAcceleration ≤ 0)
    (.invalidArgument "Cartesian trajectory acceleration must be finite and positive")
  reject (maximumReferenceVelocity ≤ 0)
    (.invalidArgument "Cartesian trajectory velocity must be finite and positive")
  reject (path.points.length < 2 ∨ path.timestamps.length ≠ path.points.length)
    (.invalidArgument "Cartesian adaptive path positions and timestamps disagree")
  let minimumPathDuration := path.time (path.timestamps.length - 1)
  let trajectory : Request ℝ :=
    { mode
      operation
      execution := .trajectoryPv
      pvReferenceVelocity := maximumReferenceVelocity
      pvReferenceAcceleration := maximumReferenceAcceleration
      pvDriveVelocityLimit := 3
      allowOutOfLimitStartRecovery := true
      approachSegmentCount := 0
      approachDeadline := 0
      completionDeadline := minimumPathDuration
      cartesianTrackingJointMask := (((1 : BitVec 32) <<< 7) - 1) <<< (completionSide.index * 7)
      joints := List.ofFn fun index => trajectoryJoint (product.joints index) index
      waypoints := (List.range path.points.length).map (assembledWaypoint path startVelocities startAccelerations)
      approachConvergenceCheck := false
      finalConvergenceCheck := true }
  return {
    trajectory
    minimumDuration := minimumPathDuration
    finalPose := (product.poseModel completionSide).fk (armOf completionSide (path.point (path.points.length - 1))) }

/-! ## The motions -/

/-- The joint path, its time law and the request that every motion ends with. -/
def finishPlan (product : Resources) (mode : Trajectory.ControlMode) (operation : Trajectory.Operation) (side : Side)
    (reference : PlannedReference) (timed : Except String TimedJointPath) (acceleration velocity : ℝ) :
    Except BuildError TrajectoryPlan := do
  let executionPath ← timed.mapError .invalidArgument
  assembleCartesianTrajectoryPlan product executionPath (jointPoint reference.velocities)
    (jointPoint reference.accelerations) mode operation side acceleration velocity

/-- `build_linear_trajectory_plan_common`. -/
def buildLinearTrajectoryPlanCommon (product : Resources) (mode : Trajectory.ControlMode) (side : ℕ)
    (declaredStart : Option Pose) (endPoseValues : Fin 6 → ℝ) (acceleration velocity : ℝ)
    (reference : PlannedReference) : Except BuildError TrajectoryPlan := do
  requirePvMode mode
  let arm ← requireSide side
  requireCartesianReference reference "linear"
  validateDeclaredStart product side reference declaredStart "linear"
  let endPose := robotPoseFromRpy endPoseValues
  let start := jointPoint reference.positions
  let actualStart := (product.planningModel arm).fk (armOf arm start)
  let geometricStart := declaredStart.getD actualStart
  let posePath ← (appendLinearPoseSamples [geometricStart] geometricStart endPose).mapError .invalidArgument
  let path ← solvePath product arm start
    (labelled "Cartesian linear path sample" "Cartesian linear target" posePath.tail)
  finishPlan product mode .moveLinear arm reference (timeParameterize path velocity acceleration) acceleration velocity

/-- `build_linear_path_trajectory_plan_common`. -/
def buildLinearPathTrajectoryPlanCommon (product : Resources) (mode : Trajectory.ControlMode) (side : ℕ)
    (controlPoses : List Pose) (acceleration velocity : ℝ) (reference : PlannedReference) :
    Except BuildError TrajectoryPlan := do
  requirePvMode mode
  let arm ← requireSide side
  requireCartesianReference reference "linear path"
  let posePath ← (piecewiseLinearPoseSamples controlPoses).mapError .invalidArgument
  let path ← solvePath product arm (jointPoint reference.positions)
    (labelled "Cartesian piecewise linear path sample" "Cartesian linear path target" posePath.poses.tail)
  finishPlan product mode .moveLinear arm reference
    (timeParameterizePiecewise path posePath.controlPointIndices velocity acceleration) acceleration velocity

/-- `build_circular_trajectory_plan_common`. -/
def buildCircularTrajectoryPlanCommon (product : Resources) (mode : Trajectory.ControlMode) (side : ℕ)
    (declaredStart : Option Pose) (viaPoseValues endPoseValues : Fin 6 → ℝ) (acceleration velocity : ℝ)
    (reference : PlannedReference) : Except BuildError TrajectoryPlan := do
  requirePvMode mode
  let arm ← requireSide side
  let via := robotPoseFromRpy viaPoseValues
  let finish := robotPoseFromRpy endPoseValues
  requireCartesianReference reference "circular"
  let start := jointPoint reference.positions
  let actualStart := (product.planningModel arm).fk (armOf arm start)
  validateDeclaredStart product side reference declaredStart "circular"
  let geometricStart := declaredStart.getD actualStart
  let startOrientation ← (quaternionFromRotation geometricStart.rotation).mapError .invalidArgument
  let arc ← (circularArcFromThreePoints geometricStart.position via.position finish.position).mapError .invalidArgument
  let viaOrientation ← (quaternionFromRotation via.rotation).mapError .invalidArgument
  let endOrientation ← (quaternionFromRotation finish.rotation).mapError .invalidArgument
  let firstSegments := requiredSegments (arc.radius * arc.viaAngle) (angularDistance startOrientation viaOrientation)
  let secondSegments := requiredSegments (arc.radius * (arc.endAngle - arc.viaAngle))
    (angularDistance viaOrientation endOrientation)
  reject (2048 < firstSegments + secondSegments)
    (.invalidArgument "circular path is too long for one native transaction")
  let path ← solvePath product arm start (labelledArc firstSegments
    (circularTargets arc startOrientation viaOrientation endOrientation firstSegments secondSegments))
  finishPlan product mode .moveCircular arm reference (timeParameterize path velocity acceleration) acceleration
    velocity

/-! ## Approaches -/

/-- `solve_cartesian_trajectory_approach_targets`. -/
def solveCartesianTrajectoryApproachTargets (product : Resources) (side : ℕ) (reference : PlannedReference)
    (target : Pose) (motionName : String) : Except BuildError (List JointPoint) := do
  let arm ← requireSide side
  requireCartesianReference reference "trajectory approach"
  let start := jointPoint reference.positions
  let best ← (ikImpl ((product.poseModel arm).call target (armOf arm start) productEndpointIkOptions
    (ikEndpointCandidatesUntil arm product.deadline))).mapError .invalidArgument
  reject (best.candidates = []) (.unreachable ("Cartesian " ++ motionName ++ " start") best.errorNorm)
  let within := best.candidates.filter fun q => ∀ index : Fin 7,
    (product.joints (armJoint arm index)).lower ≤ q index ∧ q index ≤ (product.joints (armJoint arm index)).upper
  reject (within = []) (.invalidArgument
    ("Cartesian " ++ motionName ++ " start has no reachable IK branch inside product limits"))
  return within.map fun q => setArm arm q start

/-- A waypoint of the approach. -/
def approachWaypoint (approach : TimedJointPath) (index : ℕ) : Waypoint ℝ where
  time := approach.time index
  positions := valuesOf (approach.point index)
  velocities := valuesOf 0
  accelerations := valuesOf 0
  velocityValidMask := if index = 0 then allJoints else 0
  accelerationValidMask := if index = 0 then allJoints else 0

/-- The first waypoint of the path where the approach ends, at rest. -/
def restAt (waypoint : Waypoint ℝ) : Waypoint ℝ :=
  { waypoint with
    velocities := valuesOf 0
    accelerations := valuesOf 0
    velocityValidMask := allJoints
    accelerationValidMask := allJoints }

/-- `prepend_cartesian_approach`. -/
def prependCartesianApproach (plan : TrajectoryPlan) (reference : PlannedReference) (declaredStart : Pose) :
    Except BuildError TrajectoryPlan :=
  match plan.trajectory.waypoints with
  | [] => .error (.runtimeError "Cartesian approach requires a complete preplanned path")
  | first :: rest => do
    reject (reference.positions.length ≠ 14)
      (.runtimeError "Cartesian approach requires a complete preplanned path")
    let approach ← (timeParameterize [jointPoint reference.positions, jointPoint first.positions]
      plan.trajectory.pvReferenceVelocity plan.trajectory.pvReferenceAcceleration).mapError .invalidArgument
    let leadingCount := approach.points.length - 1
    reject (30000 - min (rest.length + 1) 30000 < leadingCount)
      (.invalidArgument "Cartesian approach and path require more than the native point capacity")
    let approachDuration := approach.time (approach.timestamps.length - 1)
    let pathDuration := ((first :: rest).getLastD first).time
    let minimumTotalDuration := approachDuration + pathDuration
    reject (60 < minimumTotalDuration) (.invalidArgument "Cartesian approach requires an unsafe duration")
    let shifted := (first :: rest).map fun waypoint => { waypoint with time := waypoint.time + approachDuration }
    let leading := (List.range leadingCount).map (approachWaypoint approach)
    return { plan with
      trajectory :=
        { plan.trajectory with
          waypoints := leading ++ shifted.modifyHead restAt
          approachSegmentCount := leadingCount
          approachDeadline := approachDuration
          completionDeadline := minimumTotalDuration
          approachConvergenceCheck := true }
      minimumDuration := minimumTotalDuration
      approachPose := some declaredStart }

/-- The loop over the approach targets: the first target from which the path can be planned. -/
def tryApproaches (attempt : JointPoint → Except BuildError TrajectoryPlan) (motionName : String) (count : ℕ) :
    List JointPoint → Option BuildError → Except BuildError TrajectoryPlan
  | [], pathFailure => .error (.noBranch motionName count pathFailure)
  | target :: rest, pathFailure =>
    match attempt target with
    | .ok plan => .ok plan
    | .error error =>
      if error.isInvalidArgument then tryApproaches attempt motionName count rest (pathFailure.or (some error))
      else .error error

/-- The reference at rest at an approach target. -/
def atTarget (reference : PlannedReference) (target : JointPoint) : PlannedReference :=
  { reference with positions := valuesOf target, velocities := valuesOf 0, accelerations := valuesOf 0 }

/-- The three motions with a declared start: planned from the reference if the arm is there, and behind an approach
otherwise. -/
def planFromDeclaredStart (product : Resources) (side : ℕ) (declaredStart : Pose)
    (motionName approachName : String) (build : PlannedReference → Except BuildError TrajectoryPlan)
    (reference : PlannedReference) : Except BuildError TrajectoryPlan :=
  let direct := do
    validateCartesianStartPose product side reference declaredStart motionName
    build reference
  match direct with
  | .ok plan => .ok plan
  | .error (.startMismatch _ _ _) => do
    let targets ← solveCartesianTrajectoryApproachTargets product side reference declaredStart approachName
    tryApproaches (fun target => do
      let plan ← build (atTarget reference target)
      prependCartesianApproach plan reference declaredStart) approachName targets.length targets none
  | .error error => .error error

/-- `build_linear_trajectory_plan_from_reference`, without and with a start pose. -/
def buildLinearTrajectoryPlan (product : Resources) (mode : Trajectory.ControlMode) (side : ℕ)
    (startPoseValues : Option (Fin 6 → ℝ)) (endPoseValues : Fin 6 → ℝ) (acceleration velocity : ℝ)
    (reference : PlannedReference) : Except BuildError TrajectoryPlan :=
  match startPoseValues with
  | none => buildLinearTrajectoryPlanCommon product mode side none endPoseValues acceleration velocity reference
  | some values => planFromDeclaredStart product side (robotPoseFromRpy values) "linear" "Linear"
    (buildLinearTrajectoryPlanCommon product mode side (some (robotPoseFromRpy values)) endPoseValues acceleration
      velocity) reference

/-- `build_linear_path_trajectory_plan_from_reference`. -/
def buildLinearPathTrajectoryPlan (product : Resources) (mode : Trajectory.ControlMode) (side : ℕ)
    (poseValues : List (Fin 6 → ℝ)) (acceleration velocity : ℝ) (reference : PlannedReference) :
    Except BuildError TrajectoryPlan := do
  requirePvMode mode
  let _ ← requireSide side
  match poseValues with
  | first :: second :: rest => do
    reject (64 < (first :: second :: rest).length)
      (.invalidArgument "linear path pose_count must be within [2,64]")
    planFromDeclaredStart product side (robotPoseFromRpy first) "linear path" "Linear Path"
      (buildLinearPathTrajectoryPlanCommon product mode side ((first :: second :: rest).map robotPoseFromRpy)
        acceleration velocity) reference
  | _ => .error (.invalidArgument "linear path pose_count must be within [2,64]")

/-- `build_circular_trajectory_plan_from_reference`, without and with a start pose. -/
def buildCircularTrajectoryPlan (product : Resources) (mode : Trajectory.ControlMode) (side : ℕ)
    (startPoseValues : Option (Fin 6 → ℝ)) (viaPoseValues endPoseValues : Fin 6 → ℝ) (acceleration velocity : ℝ)
    (reference : PlannedReference) : Except BuildError TrajectoryPlan :=
  match startPoseValues with
  | none => buildCircularTrajectoryPlanCommon product mode side none viaPoseValues endPoseValues acceleration velocity
    reference
  | some values => planFromDeclaredStart product side (robotPoseFromRpy values) "circular" "Circular"
    (buildCircularTrajectoryPlanCommon product mode side (some (robotPoseFromRpy values)) viaPoseValues endPoseValues
      acceleration velocity) reference

/-! ## What the inverse kinematics gives -/

section Solutions

variable {side : Side} {call : IkCall} {q : Configuration} {selection : Selection}

/-- The target of a path is met. -/
def RobotModel.Reaches (model : RobotModel side) (target : Pose) (q : Configuration) : Prop :=
  positionError ((model.kinematics target).residual q) ≤ 0.0005 ∧
    orientationError ((model.kinematics target).residual q) ≤ 0.035

/-- The target of an endpoint is met. -/
def RobotModel.ReachesEndpoint (model : RobotModel side) (target : Pose) (q : Configuration) : Prop :=
  √(∑ i, (model.kinematics target).residual q i ^ 2) < 1e-4

/-- The candidates are the configurations of successful attempts. -/
def Collected (selection : Selection) : Prop :=
  ∀ q ∈ selection.candidates, ∃ attempt ∈ selection.made, attempt.success ∧ attempt.q = q

theorem mem_recordCandidate {attempt : Attempt} {candidates : List Configuration}
    (member : q ∈ recordCandidate call attempt candidates) : q ∈ candidates ∨ (attempt.success ∧ attempt.q = q) := by
  unfold recordCandidate at member
  split_ifs at member with added
  · unfold Search.keepApart at member
    split_ifs at member
    · exact .inl member
    · rcases List.mem_append.mp member with known | new
      · exact .inl known
      · exact .inr ⟨added.2, (List.mem_singleton.mp new).symm⟩
  · exact .inl member

theorem attemptFrom_collected {nearest : Bool} (collected : Collected selection) :
    Collected (attemptFrom call nearest q selection) := by
  have recorded : ∀ found ∈ recordCandidate call (solve call q selection.clock).1 selection.candidates,
      ∃ attempt ∈ selection.made ++ [(solve call q selection.clock).1], attempt.success ∧ attempt.q = found := by
    intro found member
    rcases mem_recordCandidate member with known | new
    · obtain ⟨attempt, made, success, same⟩ := collected found known
      exact ⟨attempt, List.mem_append_left _ made, success, same⟩
    · exact ⟨_, List.mem_append_right _ List.mem_cons_self, new⟩
  unfold attemptFrom
  simp only
  split_ifs <;> exact recorded

theorem fallbackLoop_collected {seeds : List Configuration} (collected : Collected selection) :
    Collected (fallbackLoop call seeds selection) := by
  induction seeds generalizing selection with
  | nil => exact collected
  | cons fallback rest ih =>
    unfold fallbackLoop
    split_ifs
    · exact collected
    · exact ih collected
    · exact ih (attemptFrom_collected collected)

theorem randomLoop_collected {global : Bool} {deterministic : Prop} {left retry : ℕ}
    (collected : Collected selection) : Collected (randomLoop call global deterministic left retry selection) := by
  induction left generalizing retry selection with
  | zero => exact collected
  | succ left ih =>
    unfold randomLoop
    split_ifs
    · exact ih (attemptFrom_collected collected)
    · exact collected

theorem seedSelection_collected : Collected (seedSelection call) := by
  intro found member
  rcases mem_recordCandidate member with known | new
  · exact absurd known List.not_mem_nil
  · exact ⟨_, List.mem_cons_self, new⟩

theorem select_collected (call : IkCall) : Collected (select call) := by
  unfold select
  simp only
  refine randomLoop_collected ?_
  split
  · split_ifs
    · exact fallbackLoop_collected seedSelection_collected
    · exact seedSelection_collected
  · exact seedSelection_collected

/-- The result of an accepted call. -/
theorem ikImpl_ok {result : IkResult} (entry : call.flags.Public call.side) (ok : ikImpl call = .ok result) :
    (result.success → MeetsTolerance call (call.kinematics.residual result.q)) ∧
      ∀ q ∈ result.candidates, MeetsTolerance call (call.kinematics.residual q) := by
  have valid := select_valid entry
  unfold ikImpl at ok
  simp only at ok
  split_ifs at ok with large late
  · cases ok
    refine ⟨valid.selected.meets, fun q member => ?_⟩
    obtain ⟨attempt, made, success, rfl⟩ :=
      select_collected call q ((sortCandidates_perm _).mem_iff.mp member)
    obtain ⟨start, -, sound⟩ := valid.sound attempt made
    exact sound.meets success
  · cases ok
    exact ⟨valid.selected.meets, fun q member => absurd member List.not_mem_nil⟩

variable {product : Resources} {target : Pose} {seed : Configuration} {context : String}

/-- A configuration of a path meets its target, within the limits of the product. -/
theorem solvePathIk_ok (ok : solvePathIk product side target seed context = .ok q) :
    (product.planningModel side).Reaches target q ∧ ∀ index,
      (product.joints (armJoint side index)).lower ≤ q index ∧ q index ≤ (product.joints (armJoint side index)).upper := by
  obtain ⟨result, called, rest⟩ := bind_eq_ok ok
  obtain ⟨success, rest⟩ := reject_bind_eq_ok rest
  obtain ⟨_, checked, returned⟩ := bind_eq_ok rest
  cases returned
  have meets := (ikImpl_ok .fromSeed (mapError_eq_ok.mp called)).1 (not_not.mp success)
  refine ⟨meets, fun index => ?_⟩
  have inside := reject_eq_ok.mp (forM_eq_ok checked index (List.mem_finRange index))
  rw [not_or, not_lt, not_lt] at inside
  exact inside

end Solutions

/-! ## The configurations of a path -/

/-- The configurations that an arm visits after its start: each of them meets its target within the limits of the
product, and no joint jumps or chatters. -/
structure PlannedPath (product : Resources) (side : Side) (start : Configuration) (targets : List Pose)
    (solved : List Configuration) : Prop where
  reaches : List.Forall₂ (product.planningModel side).Reaches targets solved
  inside : ∀ q ∈ solved, ∀ index,
    (product.joints (armJoint side index)).lower ≤ q index ∧ q index ≤ (product.joints (armJoint side index)).upper
  smooth : ∀ index, Smooth (steps (start index) (solved.map fun q => q index))

section Paths

variable {product : Resources} {side : Side} {start : JointPoint} {state state' : PathState}

/-- One sample. -/
theorem solveSample_ok {target : Pose} {context : String} {sample : ℕ}
    (ok : solveSample product side start state ((.ok target, context), sample) = .ok state') :
    (product.planningModel side).Reaches target state'.seed ∧
      (∀ index, (product.joints (armJoint side index)).lower ≤ state'.seed index ∧
        state'.seed index ≤ (product.joints (armJoint side index)).upper) ∧
      (∀ index, checkStep (state'.seed index - state.seed index) (state.continuity index) =
        .ok (state'.continuity index)) ∧
      state'.path = state.path ++ [setArm side state'.seed start] := by
  obtain ⟨pose, given, rest⟩ := bind_eq_ok ok
  obtain ⟨solved, found, rest⟩ := bind_eq_ok rest
  obtain ⟨continuity, continues, returned⟩ := bind_eq_ok rest
  cases given
  cases returned
  obtain ⟨reaches, inside⟩ := solvePathIk_ok found
  have valid : side.index = 0 ∨ side.index = 1 := by cases side <;> decide
  exact ⟨reaches, inside, (requireCartesianIkContinuity_ok valid).mp (mapError_eq_ok.mp continues), rfl⟩

/-- The samples one after the other. -/
theorem solveSamples_ok {poses : List Pose} {targets : List (Except String Pose × String)} {sample : ℕ}
    (given : targets.map Prod.fst = poses.map .ok)
    (ok : (targets.zipIdx sample).foldlM (solveSample product side start) state = .ok state') :
    ∃ solved : List Configuration, List.Forall₂ (product.planningModel side).Reaches poses solved ∧
      (∀ q ∈ solved, ∀ index, (product.joints (armJoint side index)).lower ≤ q index ∧
        q index ≤ (product.joints (armJoint side index)).upper) ∧
      (∀ index, (steps (state.seed index) (solved.map fun q => q index)).foldlM
        (fun state step => checkStep step state) (state.continuity index) = .ok (state'.continuity index)) ∧
      state'.path = state.path ++ solved.map (setArm side · start) := by
  induction targets generalizing sample poses state with
  | nil =>
    cases ok
    rw [List.map_nil, List.nil_eq, List.map_eq_nil_iff] at given
    subst given
    exact ⟨[], .nil, fun _ member => absurd member List.not_mem_nil, fun _ => rfl, (List.append_nil _).symm⟩
  | cons entry rest ih =>
    obtain ⟨pose, poses', rfl, same, given'⟩ := List.map_eq_cons_iff.mp given.symm
    obtain ⟨target, context⟩ := entry
    cases same
    obtain ⟨middle, sampled, later⟩ := bind_eq_ok ok
    obtain ⟨reaches, inside, continues, path⟩ := solveSample_ok sampled
    obtain ⟨solved, reaches', inside', continues', path'⟩ := ih given'.symm later
    refine ⟨middle.seed :: solved, .cons reaches reaches', fun q member => ?_, fun index => ?_, ?_⟩
    · rcases List.mem_cons.mp member with rfl | member
      · exact inside
      · exact inside' q member
    · rw [List.map_cons, steps, List.foldlM_cons, continues index]
      exact continues' index
    · rw [path', path, List.append_assoc]
      rfl

/-- The points of a path: its start, and the configurations with the other arm at rest. -/
def jointPath (side : Side) (start : JointPoint) (solved : List Configuration) : List JointPoint :=
  start :: solved.map (setArm side · start)

/-- The path of an arm along some poses. -/
theorem solvePath_ok {poses : List Pose} {targets : List (Except String Pose × String)} {path : List JointPoint}
    (given : targets.map Prod.fst = poses.map .ok) (ok : solvePath product side start targets = .ok path) :
    ∃ solved, path = jointPath side start solved ∧ PlannedPath product side (armOf side start) poses solved := by
  obtain ⟨state, sampled, returned⟩ := bind_eq_ok ok
  cases returned
  obtain ⟨solved, reaches, inside, continues, path⟩ := solveSamples_ok given sampled
  exact ⟨solved, path, reaches, inside, fun index => ((scan_ok _).1 _ (continues index)).1⟩

theorem labelled_fst (context lastContext : String) (poses : List Pose) :
    (labelled context lastContext poses).map Prod.fst = poses.map .ok := by
  rw [labelled, List.map_map]
  exact (List.map_map (l := poses.zipIdx) (f := Prod.fst) (g := Except.ok)).symm.trans
    (congrArg (List.map Except.ok) (List.zipIdx_map_fst 0 poses))

theorem labelledArc_fst (firstSegments : ℕ) (targets : List (Except String Pose)) :
    (labelledArc firstSegments targets).map Prod.fst = targets := by
  rw [labelledArc, List.map_map]
  exact List.zipIdx_map_fst 0 targets

end Paths

end

end MotorDrive.Cartesian
