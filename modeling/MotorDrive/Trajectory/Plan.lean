import MotorDrive.Library.Validate
import MotorDrive.Trajectory.Segment

/-!
# Planning a trajectory

The part of `start_trajectory` that depends on the request only: the tests of the joints and of the
waypoints, the derivatives that are filled in, and the segments.
-/

namespace MotorDrive.Trajectory

open Validate

variable {K : Type} [Field K] [LinearOrder K]

/-! ## Requests -/

/-- `ArticoreControlMode`. -/
inductive ControlMode
  | mit | pv
  deriving DecidableEq, Repr

/-- `NativeTrajectoryExecution`. -/
inductive Execution
  | quintic | trajectoryPv
  deriving DecidableEq, Repr

/-- `ArticoreRuntimeOperation`, as far as motions are told apart. -/
inductive Operation
  | moveLinear | moveCircular | other
  deriving DecidableEq, Repr

/-- `native_cartesian_operation`. -/
def Operation.nativeCartesian : Operation → Bool
  | .moveLinear | .moveCircular => true
  | .other => false

/-- `NativeTrajectoryWaypoint`. -/
structure Waypoint (K : Type) where
  time : K
  positions : List K
  velocities : List K
  accelerations : List K
  velocityValidMask : BitVec 32 := 0
  accelerationValidMask : BitVec 32 := 0

/-- `NativeTrajectoryRequest`.  Of the two convergence checks it says whether they are set. -/
structure Request (K : Type) where
  mode : ControlMode
  operation : Operation
  execution : Execution
  pvReferenceVelocity : K
  pvReferenceAcceleration : K
  pvDriveVelocityLimit : K
  allowOutOfLimitStartRecovery : Bool
  approachSegmentCount : ℕ
  approachDeadline : K
  completionDeadline : K
  cartesianTrackingJointMask : BitVec 32
  joints : List (TrajectoryJoint K)
  waypoints : List (Waypoint K)
  approachConvergenceCheck : Bool
  finalConvergenceCheck : Bool

/-- Why a request is rejected. -/
inductive PlanError (K : Type)
  | invalid (message : String)
  | startPosition (context role : String) (position lower upper : K)
  | recovery (context role : String) (position : K) (start previous : Option K) (lower upper : K)
  | position (context role : String) (position lower upper : K)
  | segment (error : SegmentError K)
  deriving DecidableEq, Repr

/-- `kNativeMaximumTrajectoryWaypoints`. -/
def nativeMaximumTrajectoryWaypoints : ℕ := 30000

/-! ## Joints -/

/-- The configuration that every mode requires. -/
def TrajectoryJoint.misconfigured (joint : TrajectoryJoint K) : Bool :=
  |joint.direction| ≠ 1 || joint.velocityCommandScale ≤ 0 || joint.velocityFeedbackScale ≤ 0 ||
    joint.torqueCommandScale ≤ 0 || joint.upperPosition ≤ joint.lowerPosition || joint.velocityLimit ≤ 0 ||
    joint.accelerationLimit ≤ 0 || joint.torqueLimit ≤ 0

/-- The tests of one joint; `earlier` are the joints before it. -/
def checkJoint (arms : List Motor) (request : Request K) (earlier : List (TrajectoryJoint K))
    (joint : TrajectoryJoint K) : Except (PlanError K) Unit := do
  reject (joint.motor ∉ arms ∨ joint.motor ∈ earlier.map TrajectoryJoint.motor ∨ joint.misconfigured)
    (.invalid ("trajectory contains invalid joint configuration for " ++ joint.label))
  match request.mode with
  | .mit =>
    reject (joint.mitKp < 0 ∨ 500 < joint.mitKp ∨ joint.mitKd < 0 ∨ 5 < joint.mitKd ∨
        joint.torqueLimit < |joint.mitFeedforwardTorque|)
      (.invalid ("trajectory contains invalid MIT configuration for " ++ joint.label))
  | .pv =>
    reject (joint.pvVelocityLimit ≤ 0 ∨ joint.velocityLimit < joint.pvVelocityLimit)
      (.invalid ("trajectory contains invalid PV velocity limit for " ++ joint.label))
    reject (joint.pvHoldVelocityLimit < 0 ∨ joint.pvVelocityLimit < joint.pvHoldVelocityLimit)
      (.invalid ("trajectory contains invalid PV final-hold velocity limit for " ++ joint.label))
    reject (request.execution = .trajectoryPv ∧ (joint.velocityLimit < request.pvReferenceVelocity ∨
        joint.accelerationLimit < request.pvReferenceAcceleration ∨
        joint.velocityLimit < request.pvDriveVelocityLimit))
      (.invalid ("trajectory PV limits exceed product limits for " ++ joint.label))

/-- The tests of a request that precede those of its waypoints. -/
def checkRequest (arms : List Motor) (request : Request K) : Except (PlanError K) Unit := do
  reject (request.execution = .trajectoryPv ∧ request.mode ≠ .pv)
    (.invalid "TrajectoryPv execution requires PV motor mode")
  reject (request.execution = .trajectoryPv ∧ (request.pvReferenceVelocity ≤ 0 ∨
      request.pvReferenceAcceleration ≤ 0 ∨ request.pvDriveVelocityLimit ≤ 0))
    (.invalid "trajectory PV requires positive finite PV motion limits")
  reject (request.joints = [] ∨ 32 < request.joints.length) (.invalid "trajectory joint count is invalid")
  reject (request.waypoints.length < 2 ∨ nativeMaximumTrajectoryWaypoints < request.waypoints.length)
    (.invalid "trajectory waypoint count is below 2 or exceeds native capacity")
  reject (request.waypoints.length ≤ request.approachSegmentCount)
    (.invalid "trajectory approach segment count is invalid")
  reject (request.joints.length ≠ arms.length)
    (.invalid "trajectory must cover the complete fixed arm layout")
  request.joints.zipIdx.forM fun (joint, index) =>
    checkJoint arms request (request.joints.take index) joint

/-! ## Waypoints -/

/-- `waypoint_context`. -/
def waypointContext (index count : ℕ) : String :=
  if index = 0 then "trajectory start waypoint"
  else if index + 1 = count then "trajectory target waypoint"
  else "trajectory waypoint " ++ toString (index + 1)

/-- What the loop over the waypoints keeps of a joint; `none` stands for `quiet_NaN`. -/
structure Track (K : Type) where
  recoveryDirection : Recovery := .none
  recovered : Bool := false
  recoveryStartPosition : Option K := none
  previousPosition : Option K := none

/-- `moves_inward`: the position is not further outside than the one before it, up to the tolerance. -/
def Track.movesInward (track : Track K) (position : K) : Bool :=
  match track.previousPosition with
  | none => false
  | some previous =>
    if track.recoveryDirection = .upward then previous - limitTolerance ≤ position
    else position ≤ previous + limitTolerance

/-- The test of one position against the limits of its joint. -/
def Track.checkLimits (track : Track K) (request : Request K) (waypointIndex : ℕ) (joint : TrajectoryJoint K)
    (position : K) : Except (PlanError K) (Track K) :=
  let context := waypointContext waypointIndex request.waypoints.length
  let below := position < joint.lowerPosition
  let above := joint.upperPosition < position
  if waypointIndex = 0 ∧ (below ∨ above) then
    if !request.allowOutOfLimitStartRecovery then
      .error (.startPosition context joint.label position joint.lowerPosition joint.upperPosition)
    else .ok { track with
      recoveryDirection := if below then .upward else .downward
      recoveryStartPosition := some position }
  else if below ∨ above then
    let finalWaypoint := waypointIndex + 1 = request.waypoints.length
    let canContinueRecovery := request.allowOutOfLimitStartRecovery ∧ track.recoveryDirection ≠ .none ∧
      ¬ track.recovered ∧ ¬ finalWaypoint
    if ¬ canContinueRecovery ∨ ¬ track.movesInward position then
      .error (if track.recoveryDirection ≠ .none then
        .recovery context joint.label position track.recoveryStartPosition track.previousPosition
          joint.lowerPosition joint.upperPosition
        else .position context joint.label position joint.lowerPosition joint.upperPosition)
    else .ok track
  else if track.recoveryDirection ≠ .none ∧ 0 < waypointIndex then .ok { track with recovered := true }
  else .ok track

/-- The tests of one joint at a waypoint. -/
def checkWaypointJoint (request : Request K) (waypointIndex : ℕ) (waypoint : Waypoint K) (jointIndex : ℕ)
    (joint : TrajectoryJoint K) (track : Track K) : Except (PlanError K) (Track K) := do
  let position := waypoint.positions.getD jointIndex 0
  let context := waypointContext waypointIndex request.waypoints.length
  let checked ← track.checkLimits request waypointIndex joint position
  reject (waypoint.velocityValidMask.getLsbD jointIndex ∧
      joint.velocityLimit < |waypoint.velocities.getD jointIndex 0|)
    (.invalid (context ++ " velocity is invalid for " ++ joint.label))
  reject (waypoint.accelerationValidMask.getLsbD jointIndex ∧
      joint.accelerationLimit < |waypoint.accelerations.getD jointIndex 0|)
    (.invalid (context ++ " acceleration is invalid for " ++ joint.label))
  return { checked with previousPosition := some position }

/-- The bits of the joints, `valid_joint_bits`. -/
def jointBits (count : ℕ) : BitVec 32 := if 32 ≤ count then BitVec.allOnes 32 else (1 <<< count) - 1

/-- The tests of one waypoint. -/
def checkWaypoint (request : Request K) (tracks : List (Track K)) (entry : Waypoint K × ℕ) :
    Except (PlanError K) (List (Track K)) := do
  let (waypoint, index) := entry
  reject (0 < index ∧ (request.waypoints[index - 1]?).any fun previous => waypoint.time ≤ previous.time)
    (.invalid "trajectory timestamps must be finite and strictly increasing")
  reject (waypoint.velocityValidMask &&& ~~~jointBits request.joints.length ≠ 0 ∨
      waypoint.accelerationValidMask &&& ~~~jointBits request.joints.length ≠ 0)
    (.invalid "trajectory derivative mask contains an unknown joint bit")
  reject (waypoint.positions.length ≠ request.joints.length ∨
      waypoint.velocities.length ≠ request.joints.length ∨
      waypoint.accelerations.length ≠ request.joints.length)
    (.invalid "trajectory waypoint does not match the arm joint count")
  (request.joints.zip tracks).zipIdx.mapM fun ((joint, track), jointIndex) =>
    checkWaypointJoint request index waypoint jointIndex joint track

/-- The loop over the waypoints. -/
def checkWaypoints (request : Request K) : Except (PlanError K) (List (Track K)) :=
  request.waypoints.zipIdx.foldlM (checkWaypoint request) (request.joints.map fun _ => {})

/-! ## Segments -/

/-- A derivative at a waypoint: the given one, zero at the ends, otherwise the one that the neighbours
give. -/
def filled (given : Bool) (value : K) (previous next : Option (Waypoint K))
    (estimate : Waypoint K → Waypoint K → K) : K :=
  if given then value
  else match previous, next with
    | some previous, some next => estimate previous next
    | _, _ => 0

/-- The slope of a joint between two waypoints. -/
def slopeBetween (jointIndex : ℕ) (first second : Waypoint K) : K :=
  (second.positions.getD jointIndex 0 - first.positions.getD jointIndex 0) / (second.time - first.time)

/-- The waypoint with all its derivatives. -/
def Waypoint.fill (waypoint : Waypoint K) (count : ℕ) (previous next : Option (Waypoint K)) : Waypoint K :=
  { waypoint with
    velocities := (List.range count).map fun j =>
      filled (waypoint.velocityValidMask.getLsbD j) (waypoint.velocities.getD j 0) previous next
        (slopeBetween j)
    accelerations := (List.range count).map fun j =>
      filled (waypoint.accelerationValidMask.getLsbD j) (waypoint.accelerations.getD j 0) previous next
        fun before after => 2 * (slopeBetween j waypoint after - slopeBetween j before waypoint) /
          (after.time - before.time) }

/-- `time_origin`. -/
def Request.timeOrigin (request : Request K) : K := (request.waypoints.head?.map Waypoint.time).getD 0

/-- The waypoints with times that start at zero and, unless `TrajectoryPv` executes them, with all their
derivatives. -/
def Request.preparedWaypoints (request : Request K) : List (Waypoint K) :=
  let shifted := request.waypoints.map fun waypoint =>
    { waypoint with time := waypoint.time - request.timeOrigin }
  if request.execution = .trajectoryPv then shifted
  else shifted.mapIdx fun index waypoint => waypoint.fill request.joints.length
    (if index = 0 then none else shifted[index - 1]?) shifted[index + 1]?

/-- `TrajectorySegment`. -/
structure Segment (K : Type) where
  start : K
  duration : K
  coefficients : List (Coefficients K)

/-- The polynomial of one joint between two waypoints. -/
def segmentCoefficients (execution : Execution) (duration : K) (first second : Waypoint K) (j : ℕ) :
    Coefficients K :=
  match execution with
  | .trajectoryPv => sampledPvCoefficients (first.positions.getD j 0) (second.positions.getD j 0)
  | .quintic => quinticCoefficients (first.positions.getD j 0) (first.velocities.getD j 0)
      (first.accelerations.getD j 0) (second.positions.getD j 0) (second.velocities.getD j 0)
      (second.accelerations.getD j 0) duration

/-- The segment between two waypoints, after its validation. -/
def makeSegment (request : Request K) (directions : List Recovery) (index : ℕ) (first second : Waypoint K) :
    Except (PlanError K) (Segment K) :=
  let duration := second.time - first.time
  let coefficients :=
    (List.range request.joints.length).map (segmentCoefficients request.execution duration first second)
  match validateSegmentExtrema duration (request.joints.zip (coefficients.zip directions)) index
      (request.execution ≠ .trajectoryPv) with
  | .error error => .error (.segment error)
  | .ok _ => .ok ⟨first.time, duration, coefficients⟩

/-- What a request is planned to. -/
structure Plan (K : Type) where
  segments : List (Segment K)
  duration : K
  referenceDuration : K
  recoveryDirections : List Recovery

/-- The schedule tests: the total duration, from the duration of the references. -/
def checkSchedule (request : Request K) (referenceDuration : K) : Except (PlanError K) K := do
  reject (referenceDuration ≤ 0 ∨ 3600 < referenceDuration)
    (.invalid "trajectory duration must be positive and no greater than one hour")
  let duration := if 0 < request.completionDeadline then request.completionDeadline else referenceDuration
  reject (duration + limitTolerance < referenceDuration ∨ 3600 < duration)
    (.invalid ("trajectory estimated completion time must be finite, no earlier than " ++
      "the last reference, and no greater than one hour"))
  reject (request.approachDeadline ≠ 0 ∧
      (request.approachDeadline ≤ 0 ∨ duration ≤ request.approachDeadline))
    (.invalid ("trajectory estimated approach time must be finite and inside the " ++
      "estimated total time"))
  return duration

/-- The part of `start_trajectory` before its command transaction. -/
def planTrajectory (arms : List Motor) (request : Request K) : Except (PlanError K) (Plan K) := do
  checkRequest arms request
  reject (request.timeOrigin < 0) (.invalid "trajectory first timestamp must be finite and non-negative")
  let tracks ← checkWaypoints request
  let directions := tracks.map Track.recoveryDirection
  let waypoints := request.preparedWaypoints
  let referenceDuration := (waypoints.getLast?.map Waypoint.time).getD 0
  let duration ← checkSchedule request referenceDuration
  let segments ← (waypoints.zip waypoints.tail).zipIdx.mapM fun ((first, second), index) =>
    makeSegment request directions index first second
  return ⟨segments, duration, referenceDuration, directions⟩

end MotorDrive.Trajectory
