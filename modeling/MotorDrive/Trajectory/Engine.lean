import MotorDrive.Trajectory.Plan

/-!
# The trajectory engine

The motions of the runtime, as `state_mutex_` guards them: the active trajectory, the FIFO of the queued
ones and the history of the ended ones, with the operations of `runtime_trajectory.cpp` that start, queue,
replace, cancel and end a motion.  Times are instants in seconds; `none` stands for `time_point{}`.
-/

namespace MotorDrive.Trajectory

open Validate

/-! ## State -/

/-- `ArticoreMotionState`. -/
inductive MotionState
  | idle | queued | running | completed | cancelled | fault
  deriving DecidableEq, Repr

/-- The extreme of the positions of a settling window: the infinity it starts with, a position, or the
`quiet_NaN` of a joint without feedback. -/
inductive Extreme (K : Type)
  | unset
  | position (x : K)
  | nan
  deriving DecidableEq, Repr

/-- `TrajectoryControl`, without what shapes the commands of the mailbox. -/
structure TrajectoryControl (K : Type) where
  state : MotionState
  id : ℕ
  waypointCount : ℕ
  activeSegment : ℕ
  elapsed : K
  duration : K
  referenceDuration : K
  approachDuration : K
  approachDeadline : K
  startedAt : K
  trackingUpdatedAt : K
  trackingPauseStartedAt : Option K
  settlingStartedAt : Option K
  settlingStableStartedAt : Option K
  holdUnstableStartedAt : Option K
  operation : Operation
  execution : Execution
  pvReferenceVelocity : K
  pvReferenceAcceleration : K
  pvDriveVelocityLimit : K
  approachSegmentCount : ℕ
  cartesianTrackingJointMask : BitVec 32
  approachComplete : Bool
  joints : List (TrajectoryJoint K)
  segments : List (Segment K)
  finalConvergenceCheck : Bool
  approachConvergenceCheck : Bool
  settlingFeedbackUpdates : List ℕ
  settlingPositionMin : List (Extreme K)
  settlingPositionMax : List (Extreme K)
  settledFeedbackSamples : ℕ
  settlingFeedbackInitialized : Bool
  stationaryHoldActive : Bool
  trackingTimeScale : K
  trackingPositionError : K
  trackingFeedbackValid : Bool
  error : String

/-- `ArticoreMotionStatus`. -/
structure MotionStatus (K : Type) where
  motionId : ℕ
  motionType : ℕ
  state : MotionState
  activeSegment : ℕ
  waypointCount : ℕ
  elapsed : K
  duration : K
  progress : K
  error : String

/-- The members of `SafetyRuntime` that the motions are made of. -/
structure Engine (K : Type) where
  mode : ControlMode
  intentionallyDisabled : List Motor
  trajectoryControl : TrajectoryControl K
  trajectoryQueue : List (TrajectoryControl K)
  trajectoryHistory : List (MotionStatus K)
  nextMotionId : ℕ

variable {K : Type} [Field K]

/-- The `TrajectoryControl` of a new runtime. -/
def idleTrajectory : TrajectoryControl K where
  state := .idle
  id := 0
  waypointCount := 0
  activeSegment := 0
  elapsed := 0
  duration := 0
  referenceDuration := 0
  approachDuration := 0
  approachDeadline := 0
  startedAt := 0
  trackingUpdatedAt := 0
  trackingPauseStartedAt := none
  settlingStartedAt := none
  settlingStableStartedAt := none
  holdUnstableStartedAt := none
  operation := .other
  execution := .quintic
  pvReferenceVelocity := 0
  pvReferenceAcceleration := 0
  pvDriveVelocityLimit := 0
  approachSegmentCount := 0
  cartesianTrackingJointMask := 0
  approachComplete := true
  joints := []
  segments := []
  finalConvergenceCheck := false
  approachConvergenceCheck := false
  settlingFeedbackUpdates := []
  settlingPositionMin := []
  settlingPositionMax := []
  settledFeedbackSamples := 0
  settlingFeedbackInitialized := false
  stationaryHoldActive := false
  trackingTimeScale := 1
  trackingPositionError := 0
  trackingFeedbackValid := false
  error := ""

/-- A new runtime. -/
def Engine.initial (mode : ControlMode) : Engine K := ⟨mode, [], idleTrajectory, [], [], 1⟩

section Operations

variable [LinearOrder K]

/-! ## Status and history -/

/-- `motion_type`. -/
def motionType : Operation → ℕ
  | .moveLinear => 2
  | .moveCircular => 3
  | .other => 0

/-- `motion_status_locked`. -/
def TrajectoryControl.status (trajectory : TrajectoryControl K) : MotionStatus K where
  motionId := trajectory.id
  motionType := motionType trajectory.operation
  state := trajectory.state
  activeSegment := trajectory.activeSegment
  waypointCount := trajectory.waypointCount
  elapsed := trajectory.elapsed
  duration := trajectory.duration
  progress :=
    if 0 < trajectory.duration then max 0 (min (trajectory.elapsed / trajectory.duration) 1) else 0
  error := trajectory.error

/-- The number of ended motions that the history keeps. -/
def historyCapacity : ℕ := 128

/-- The newest entries; the newest one is the last. -/
def keepNewest (history : List (MotionStatus K)) : List (MotionStatus K) :=
  history.drop (history.length - historyCapacity)

/-- `archive_trajectory_locked`. -/
def Engine.archive (s : Engine K) (trajectory : TrajectoryControl K) : Engine K :=
  if trajectory.id = 0 then s
  else { s with trajectoryHistory := keepNewest (s.trajectoryHistory ++ [trajectory.status]) }

/-- `motion_status` of one motion. -/
def Engine.motionStatus (s : Engine K) (id : ℕ) : MotionStatus K :=
  if s.trajectoryControl.id = id then s.trajectoryControl.status
  else match s.trajectoryQueue.find? fun queued => queued.id = id with
    | some queued => queued.status
    | none => match s.trajectoryHistory.reverse.find? fun status => status.motionId = id with
      | some status => status
      | none => ⟨id, 0, .idle, 0, 0, 0, 0, 0, "motion id is not available"⟩

/-! ## Ending motions -/

/-- A queued motion that ends with its predecessor. -/
def TrajectoryControl.cancelQueued (queued : TrajectoryControl K) (error : String) : TrajectoryControl K :=
  { queued with state := .cancelled, error := "queued motion cancelled: " ++ error }

/-- The states that a terminated motion may have. -/
inductive Ending
  | cancelled | fault
  deriving DecidableEq, Repr

/-- The state of a motion that ends. -/
def Ending.state : Ending → MotionState
  | .cancelled => .cancelled
  | .fault => .fault

/-- The active motion, ended if it runs or holds its final positions. -/
def TrajectoryControl.terminate (trajectory : TrajectoryControl K) (ending : Ending) (error : String) :
    TrajectoryControl K :=
  if trajectory.state = .running ∨ trajectory.state = .completed then
    { trajectory with state := ending.state, error := error }
  else trajectory

/-- `terminate_trajectory_locked`. -/
def Engine.terminate (s : Engine K) (ending : Ending) (error : String) : Engine K :=
  let ended : Engine K := { s with trajectoryControl := s.trajectoryControl.terminate ending error }
  let archived := s.trajectoryQueue.foldl (fun s queued => s.archive (queued.cancelQueued error)) ended
  { archived with trajectoryQueue := [] }

/-- `activate_trajectory_locked`. -/
def Engine.activate (s : Engine K) (trajectory : TrajectoryControl K) (now : K) : Engine K :=
  { s with trajectoryControl := { trajectory with
      state := .running
      activeSegment := 0
      elapsed := 0
      startedAt := now
      trackingUpdatedAt := now
      trackingPauseStartedAt := none
      settlingStartedAt := none
      settlingStableStartedAt := none
      holdUnstableStartedAt := none
      settledFeedbackSamples := 0
      settlingFeedbackInitialized := false
      stationaryHoldActive := false
      trackingTimeScale := 1
      trackingPositionError := 0
      trackingFeedbackValid := false
      approachComplete := trajectory.approachSegmentCount = 0
      error := "" } }

/-! ## Samples -/

/-- `NativeTrajectorySample` of an active trajectory. -/
structure Sample (K : Type) where
  motionId : ℕ
  operation : Operation
  positions : List K
  velocities : List K
  accelerations : List K

/-- `trajectory_final_sample_locked`; `none` where the sample is not active. -/
def TrajectoryControl.finalSample (trajectory : TrajectoryControl K) : Option (Sample K) :=
  match trajectory.segments.getLast? with
  | none => none
  | some last =>
    if trajectory.joints = [] ∨ last.coefficients.length ≠ trajectory.joints.length then none
    else some ⟨trajectory.id, trajectory.operation, last.coefficients.map fun c => c.sample 1,
      last.coefficients.map fun _ => 0, last.coefficients.map fun _ => 0⟩

/-- `planned_trajectory_tail_sample`; `plannedArm` is what `planned_arm_sample` answers. -/
def Engine.plannedTrajectoryTailSample (s : Engine K) (plannedArm : Option (Sample K)) : Option (Sample K) :=
  match s.trajectoryQueue.getLast?.bind TrajectoryControl.finalSample with
  | some sample => some sample
  | none =>
    if s.trajectoryControl.state = .running ∨ s.trajectoryControl.state = .completed then
      match s.trajectoryControl.finalSample with
      | some sample => some sample
      | none => plannedArm
    else plannedArm

/-! ## Starting a motion -/

/-- What the backend reports of a motor.  `fresh` stands for readable statistics and a readable state that
are not stale and hold finite values. -/
structure MotorFeedback (K : Type) where
  fresh : Bool
  updateCount : ℕ
  statusCode : ℕ
  position : K
  velocity : K

/-- What `start_trajectory` reads of the rest of the runtime: whether the lifecycle state and the planning
token allow the command, and the feedback of the motors. -/
structure StartConditions (K : Type) where
  commandAllowed : Except String Unit
  bimanualFollow : Bool
  degraded : Bool
  plannedReference : Bool
  feedback : Motor → MotorFeedback K

/-- Why `start_trajectory` throws. -/
inductive StartError (K : Type)
  | plan (error : PlanError K)
  | refused (message : String)

/-- `kStartPositionTolerance`. -/
def startPositionTolerance : K := 1 / 20

/-- `kStartVelocityTolerance`. -/
def startVelocityTolerance : K := 1 / 10

/-- The tests of `start_trajectory` on the motions. -/
def Engine.checkStart (s : Engine K) (request : Request K) (replace : ℕ) (enqueue : Bool)
    (conditions : StartConditions K) : Except (StartError K) Unit := do
  match conditions.commandAllowed with
  | .error message => .error (.refused message)
  | .ok _ => .ok ()
  reject conditions.bimanualFollow (.refused "trajectory cannot replace active bimanual ordinary control")
  reject conditions.degraded (.refused "cannot start a trajectory while Runtime is degraded")
  reject (s.mode ≠ request.mode) (.refused "trajectory mode does not match the active Runtime mode")
  reject (¬ enqueue ∧ s.trajectoryControl.state = .running ∧
      (replace = 0 ∨ s.trajectoryControl.id ≠ replace)) (.refused "a trajectory is already running")
  reject (replace ≠ 0 ∧ (s.trajectoryControl.state ≠ .running ∨ s.trajectoryControl.id ≠ replace))
    (.refused "trajectory changed while preparing its replacement")
  reject (enqueue ∧ 64 ≤ s.trajectoryQueue.length) (.refused "motion queue is full")

/-- The feedback that `start_trajectory` requires of a joint; `first` is the first waypoint. -/
def checkStartFeedback (disabled : List Motor) (replace : ℕ) (conditions : StartConditions K)
    (first : Waypoint K) (entry : TrajectoryJoint K × ℕ) : Except (StartError K) Unit := do
  let (joint, index) := entry
  let reading := conditions.feedback joint.motor
  reject (¬ reading.fresh ∨ 1 < reading.statusCode)
    (.refused ("trajectory start requires fresh fault-free feedback at " ++ joint.label))
  reject (reading.statusCode ≠ if joint.motor ∈ disabled then 0 else 1)
    (.refused ("trajectory start power feedback disagrees with Runtime at " ++ joint.label))
  let unplanned := replace = 0 ∧ ¬ conditions.plannedReference
  reject (unplanned ∧
      startPositionTolerance < |reading.position - joint.direction * first.positions.getD index 0|)
    (.refused ("trajectory first waypoint is not synchronized with current feedback at " ++ joint.label))
  reject (unplanned ∧ startVelocityTolerance <
      |joint.direction * reading.velocity * joint.velocityFeedbackScale - first.velocities.getD index 0|)
    (.refused ("trajectory first waypoint velocity is not synchronized with current feedback at " ++
      joint.label))

/-- `approach_duration_s`: the end of the last segment of the approach. -/
def approachEnd (segments : List (Segment K)) (count : ℕ) : K :=
  if count = 0 then 0 else ((segments[count - 1]?).map fun segment => segment.start + segment.duration).getD 0

/-- The `TrajectoryControl` of a planned request. -/
def preparedTrajectory (id : ℕ) (request : Request K) (plan : Plan K) : TrajectoryControl K :=
  { idleTrajectory with
    state := .queued
    id := id
    waypointCount := plan.segments.length + 1
    duration := plan.duration
    referenceDuration := plan.referenceDuration
    approachSegmentCount := request.approachSegmentCount
    cartesianTrackingJointMask :=
      if request.cartesianTrackingJointMask = 0 then jointBits request.joints.length
      else request.cartesianTrackingJointMask
    approachDuration := approachEnd plan.segments request.approachSegmentCount
    approachDeadline := request.approachDeadline
    operation := request.operation
    execution := request.execution
    pvReferenceVelocity := request.pvReferenceVelocity
    pvReferenceAcceleration := request.pvReferenceAcceleration
    pvDriveVelocityLimit := request.pvDriveVelocityLimit
    joints := request.joints
    segments := plan.segments
    finalConvergenceCheck := request.finalConvergenceCheck
    approachConvergenceCheck := request.approachConvergenceCheck }

/-- The tests of the last section of `start_trajectory`, after it has taken a motion id. -/
def checkPrepared (request : Request K) (prepared : TrajectoryControl K) : Except (StartError K) Unit := do
  reject (request.cartesianTrackingJointMask &&& ~~~jointBits request.joints.length ≠ 0)
    (.refused "Cartesian tracking joint mask exceeds the trajectory joints")
  reject (prepared.approachSegmentCount ≠ 0 ∧ prepared.approachDeadline ≠ 0 ∧
      prepared.approachDeadline + limitTolerance < prepared.approachDuration)
    (.refused "trajectory estimated approach time is earlier than its final approach reference")

/-- The prepared motion is queued behind a running one, otherwise it becomes the active one. -/
def Engine.install (s : Engine K) (prepared : TrajectoryControl K) (enqueue : Bool) (now : K) : Engine K :=
  if enqueue ∧ s.trajectoryControl.state = .running then
    { s with trajectoryQueue := s.trajectoryQueue ++ [prepared] }
  else
    (if s.trajectoryControl.state = .running then s else s.archive s.trajectoryControl).activate prepared now

/-- `start_trajectory`.  Its last section repeats the tests on the motions, and nothing else that holds the
command mutex runs in between. -/
def Engine.startTrajectory (arms : List Motor) (s : Engine K) (request : Request K) (replace : ℕ)
    (enqueue : Bool) (conditions : StartConditions K) (now : K) : Except (StartError K) ℕ × Engine K :=
  let admitted : Except (StartError K) (Plan K) := do
    reject (enqueue ∧ replace ≠ 0)
      (.refused "a queued trajectory cannot replace a running trajectory")
    let plan ← (planTrajectory arms request).mapError .plan
    s.checkStart request replace enqueue conditions
    let first := request.preparedWaypoints.headD ⟨0, [], [], [], 0, 0⟩
    request.joints.zipIdx.forM (checkStartFeedback s.intentionallyDisabled replace conditions first)
    return plan
  match admitted with
  | .error error => (.error error, s)
  | .ok plan =>
    let prepared := preparedTrajectory s.nextMotionId request plan
    let counted := { s with nextMotionId := s.nextMotionId + 1 }
    match checkPrepared request prepared with
    | .error error => (.error error, counted)
    | .ok _ => (.ok prepared.id, counted.install prepared enqueue now)

/-- What a motion that starts has passed, and where it goes. -/
structure Started (arms : List Motor) (s : Engine K) (request : Request K) (replace : ℕ) (enqueue : Bool)
    (conditions : StartConditions K) (now : K) (id : ℕ) (s' : Engine K) (plan : Plan K) : Prop where
  planned : planTrajectory arms request = .ok plan
  single : ¬ (enqueue = true ∧ replace ≠ 0)
  checked : s.checkStart request replace enqueue conditions = .ok ()
  prepared : checkPrepared request (preparedTrajectory s.nextMotionId request plan) = .ok ()
  id_eq : id = s.nextMotionId
  after : s' = ({ s with nextMotionId := s.nextMotionId + 1 } : Engine K).install
    (preparedTrajectory s.nextMotionId request plan) enqueue now

theorem started_of_ok {arms : List Motor} {s s' : Engine K} {request : Request K} {replace : ℕ} {enqueue : Bool}
    {conditions : StartConditions K} {now : K} {id : ℕ}
    (ok : s.startTrajectory arms request replace enqueue conditions now = (.ok id, s')) :
    ∃ plan, Started arms s request replace enqueue conditions now id s' plan := by
  unfold Engine.startTrajectory at ok
  simp only at ok
  split at ok
  · cases ok
  · rename_i plan admitted
    obtain ⟨single, rest⟩ := reject_bind_eq_ok admitted
    obtain ⟨plan', planned, rest⟩ := bind_eq_ok rest
    obtain ⟨_, checked, rest⟩ := bind_eq_ok rest
    obtain ⟨_, -, result⟩ := bind_eq_ok rest
    cases result
    split at ok
    · cases ok
    · rename_i prepared
      cases ok
      refine ⟨plan, ?_, single, checked, prepared, rfl, rfl⟩
      cases made : planTrajectory arms request with
      | error error =>
        rw [made] at planned
        cases planned
      | ok plan' =>
        rw [made] at planned
        cases planned
        rfl

/-- A start whose tests pass. -/
theorem startTrajectory_of_checks {arms : List Motor} {s : Engine K} {request : Request K} {replace : ℕ}
    {enqueue : Bool} {conditions : StartConditions K} {now : K} {plan : Plan K}
    (single : ¬ (enqueue = true ∧ replace ≠ 0)) (planned : planTrajectory arms request = .ok plan)
    (checked : s.checkStart request replace enqueue conditions = .ok ())
    (read : request.joints.zipIdx.forM (checkStartFeedback s.intentionallyDisabled replace conditions
      (request.preparedWaypoints.headD ⟨0, [], [], [], 0, 0⟩)) = .ok ())
    (prepared : checkPrepared request (preparedTrajectory s.nextMotionId request plan) = .ok ()) :
    s.startTrajectory arms request replace enqueue conditions now =
      (.ok s.nextMotionId, ({ s with nextMotionId := s.nextMotionId + 1 } : Engine K).install
        (preparedTrajectory s.nextMotionId request plan) enqueue now) := by
  unfold Engine.startTrajectory
  simp only [reject, if_neg single, planned, Except.mapError, checked, read, ok_bind, pure_eq_ok, prepared]
  rfl

/-- A start that throws takes at most a motion id. -/
theorem startTrajectory_error {arms : List Motor} {s s' : Engine K} {request : Request K} {replace : ℕ}
    {enqueue : Bool} {conditions : StartConditions K} {now : K} {error : StartError K}
    (failed : s.startTrajectory arms request replace enqueue conditions now = (.error error, s')) :
    s' = s ∨ s' = { s with nextMotionId := s.nextMotionId + 1 } := by
  unfold Engine.startTrajectory at failed
  simp only at failed
  split at failed
  · cases failed
    exact .inl rfl
  · split at failed
    · cases failed
      exact .inr rfl
    · cases failed

/-! ## Cancelling a motion -/

/-- Why `cancel_motion` throws. -/
inductive CancelError (K : Type)
  | refused (message : String)
  | segment (error : SegmentError K)

/-- The velocity that bounds the approach of a joint. -/
def TrajectoryControl.approachVelocity (trajectory : TrajectoryControl K) (joint : TrajectoryJoint K) : K :=
  match trajectory.execution with
  | .trajectoryPv => min joint.velocityLimit trajectory.pvReferenceVelocity
  | .quintic =>
    if 0 < joint.pvVelocityLimit then min joint.velocityLimit joint.pvVelocityLimit else joint.velocityLimit

/-- The acceleration that bounds the approach of a joint. -/
def TrajectoryControl.approachAcceleration (trajectory : TrajectoryControl K) (joint : TrajectoryJoint K) : K :=
  match trajectory.execution with
  | .trajectoryPv => trajectory.pvReferenceAcceleration
  | .quintic => joint.accelerationLimit

/-- The polynomial of a joint on a segment. -/
def Segment.joint (segment : Segment K) (index : ℕ) : Coefficients K :=
  segment.coefficients.getD index ⟨0, 0, 0, 0, 0, 0⟩

/-- The duration of the segment that leads from the predecessor to a detached successor. -/
def approachSegmentDuration (sqrt : K → K) (mode : ControlMode) (predecessor : List K)
    (trajectory : TrajectoryControl K) (first : Segment K) : K :=
  trajectory.joints.zipIdx.foldl (fun duration (joint, index) =>
    let step := |(first.joint index).sample 0 - predecessor.getD index 0|
    let slow := (if mode = .mit then 15 / 8 else 1) * step / max (1 / 100) (trajectory.approachVelocity joint)
    max (max duration slow) (sqrt (8 * step / max (1 / 100) (trajectory.approachAcceleration joint)))) (1 / 10)

/-- The segment that leads from the predecessor to a detached successor. -/
def approachSegment (sqrt : K → K) (mode : ControlMode) (predecessor : List K)
    (trajectory : TrajectoryControl K) (first : Segment K) : Segment K :=
  let duration := approachSegmentDuration sqrt mode predecessor trajectory first
  { start := 0
    duration := duration
    coefficients := (List.range trajectory.joints.length).map fun index =>
      let original := first.joint index
      match trajectory.execution with
      | .trajectoryPv => sampledPvCoefficients (predecessor.getD index 0) (original.sample 0)
      | .quintic => quinticCoefficients (predecessor.getD index 0) 0 0 (original.sample 0)
          (original.sampleVelocity 0 first.duration) (original.sampleAcceleration 0 first.duration) duration }

/-- The successor of a cancelled motion, behind a segment that leads to its start. -/
def TrajectoryControl.rebind (trajectory : TrajectoryControl K) (approach : Segment K) : TrajectoryControl K :=
  { trajectory with
    segments := approach :: trajectory.segments.map fun segment =>
      { segment with start := segment.start + approach.duration }
    duration := trajectory.duration + approach.duration
    referenceDuration := trajectory.referenceDuration + approach.duration
    approachDuration := trajectory.approachDuration + approach.duration
    approachDeadline := if 0 < trajectory.approachDeadline then trajectory.approachDeadline + approach.duration
      else trajectory.approachDeadline
    approachSegmentCount := trajectory.approachSegmentCount + 1
    waypointCount := trajectory.waypointCount + 1 }

/-- The successor of a cancelled motion, detached from it. -/
def detach (sqrt : K → K) (mode : ControlMode) (predecessor : Option (Sample K))
    (successor : TrajectoryControl K) : Except (CancelError K) (TrajectoryControl K) :=
  match predecessor, successor.segments with
  | some sample, first :: _ =>
    if sample.positions.length ≠ successor.joints.length then
      .error (.refused "queued motion cannot be safely detached from its FIFO neighbors")
    else
      let approach := approachSegment sqrt mode sample.positions successor first
      match validateSegmentExtrema approach.duration
          (successor.joints.zip (approach.coefficients.map fun c => (c, Recovery.none))) 0 true with
      | .error error => .error (.segment error)
      | .ok _ => .ok (successor.rebind approach)
  | _, _ => .error (.refused "queued motion cannot be safely detached from its FIFO neighbors")

/-- What a detached successor is. -/
theorem detach_eq_ok {sqrt : K → K} {mode : ControlMode} {predecessor : Option (Sample K)}
    {successor rebound : TrajectoryControl K} (ok : detach sqrt mode predecessor successor = .ok rebound) :
    ∃ sample first rest, predecessor = some sample ∧ successor.segments = first :: rest ∧
      sample.positions.length = successor.joints.length ∧
      validateSegmentExtrema (approachSegment sqrt mode sample.positions successor first).duration
        (successor.joints.zip ((approachSegment sqrt mode sample.positions successor first).coefficients.map
          fun c => (c, Recovery.none))) 0 true = .ok () ∧
      rebound = successor.rebind (approachSegment sqrt mode sample.positions successor first) := by
  unfold detach at ok
  split at ok
  · rename_i sample first rest segments
    split_ifs at ok with lengths
    simp only at ok
    split at ok
    · cases ok
    · rename_i valid
      cases ok
      exact ⟨sample, first, rest, rfl, segments, not_not.mp lengths, valid, rfl⟩
  · cases ok

/-- A queued motion leaves the queue for the history. -/
def Engine.dequeue (s : Engine K) (index : ℕ) (queued : TrajectoryControl K) : Engine K :=
  let archived := s.archive { queued with state := .cancelled, error := "queued motion cancelled" }
  { archived with trajectoryQueue := s.trajectoryQueue.eraseIdx index }

/-- `cancel_motion`. -/
def Engine.cancelMotion (sqrt : K → K) (s : Engine K) (id : ℕ) : Except (CancelError K) Unit × Engine K :=
  if id = 0 then (.error (.refused "motion id must be non-zero"), s)
  else if s.trajectoryControl.id = id then
    (.ok (), if s.trajectoryControl.state = .running then s.terminate .cancelled "motion cancelled" else s)
  else match s.trajectoryQueue.findIdx? fun queued => queued.id = id with
    | some index =>
      match s.trajectoryQueue[index]?, s.trajectoryQueue[index + 1]? with
      | some queued, some successor =>
        let predecessor := if index = 0 then s.trajectoryControl.finalSample
          else (s.trajectoryQueue[index - 1]?).bind TrajectoryControl.finalSample
        match detach sqrt s.mode predecessor successor with
        | .error error => (.error error, s)
        | .ok rebound =>
          let rebound : Engine K :=
            { s with trajectoryQueue := s.trajectoryQueue.set (index + 1) rebound }
          (.ok (), rebound.dequeue index queued)
      | some queued, none => (.ok (), s.dequeue index queued)
      | none, _ => (.ok (), s)
    | none =>
      if s.trajectoryHistory.any fun status => status.motionId = id then (.ok (), s)
      else (.error (.refused "motion id is not available"), s)

/-- `cancel_all_motions`. -/
def Engine.cancelAllMotions (s : Engine K) : Engine K := s.terminate .cancelled "all motions cancelled"

end Operations

end MotorDrive.Trajectory
