import MotorDrive.Trajectory.Engine

/-!
# One control cycle of a trajectory

`prepare_trajectory_cycle` moves the reference along, `run_arm_control_cycle` records the tracking error, and
`update_trajectory_completion` compares the feedback with the end of the motion: it hands over to the next
motion of the FIFO, waits for the joints to settle, watches the hold of a completed motion and ends a motion
that does not arrive.  The commands of the mailbox are left out.
-/

namespace MotorDrive.Trajectory

variable {K : Type} [Field K] [LinearOrder K]

/-! ## Constants -/

/-- `kArrivalStableDuration`, in seconds. -/
def arrivalStableDuration : K := 1 / 5

/-- `kCompletedHoldViolationDuration`, in seconds. -/
def completedHoldViolationDuration : K := 1 / 20

/-- `kPvStablePositionRange`. -/
def pvStablePositionRange : K := 12 / 1000

/-- `kPvFinalPositionTolerance`, `kPvLoadedJointFinalPositionTolerance` for a loaded joint. -/
def finalPositionTolerance (loaded : Bool) : K := if loaded then 12 / 1000 else 5 / 1000

/-- `kPvArrivalPositionTolerance`, `kMitArrivalPositionTolerance`. -/
def positionTolerance : ControlMode → K
  | .pv => 2 / 100
  | .mit => 5 / 100

/-- `kPvArrivalVelocityTolerance`, `kMitArrivalVelocityTolerance`. -/
def velocityTolerance : ControlMode → K
  | .pv => 5 / 100
  | .mit => 1 / 10

/-- `kNativeCartesianFifoHandoffMaximumError`. -/
def handoffMaximumError : K := 4 / 100

/-- `kNativeCartesianTrackingPauseError`. -/
def trackingPauseError : K := 6 / 100

/-- `kNativeCartesianTrackingPauseTimeout`, in seconds. -/
def trackingPauseTimeout : K := 1

/-- `kMinimumArrivalTimeoutSeconds` to `kMaximumArrivalTimeoutSeconds`. -/
def arrivalTimeout (duration : K) : K := max 4 (min (duration * (1 / 4)) 10)

/-- `is_loaded_joint4_role`. -/
def isLoadedJoint4Role (role : String) : Bool := "joint4".toList.isSuffixOf role.toList

/-! ## The reference -/

/-- `native_cartesian_tracking_scale`. -/
def trackingScale (positionError : K) : K := if trackingPauseError ≤ positionError then 0 else 1

/-- The time of a tracking pause passes without the motion. -/
def TrajectoryControl.pauseTracking (trajectory : TrajectoryControl K) (now : K) : TrajectoryControl K :=
  let target := if trajectory.trackingFeedbackValid then trackingScale trajectory.trackingPositionError else 1
  let scaled : TrajectoryControl K := if target ≤ 0 then
      { trajectory with
        trackingTimeScale := 0
        trackingPauseStartedAt := some (trajectory.trackingPauseStartedAt.getD now) }
    else { trajectory with trackingTimeScale := 1, trackingPauseStartedAt := none }
  let passed := max 0 (now - trajectory.trackingUpdatedAt)
  let delayed : TrajectoryControl K := if 0 < passed ∧ scaled.trackingTimeScale < 1 ∧
      trajectory.referenceDuration = trajectory.duration then
      { scaled with startedAt := scaled.startedAt + passed * (1 - scaled.trackingTimeScale) }
    else scaled
  { delayed with trackingUpdatedAt := now }

/-- A tracking pause that has lasted too long. -/
def TrajectoryControl.trackingLost (trajectory : TrajectoryControl K) (now : K) : Bool :=
  trajectory.trackingFeedbackValid && trackingScale trajectory.trackingPositionError ≤ 0 &&
    trajectory.trackingPauseStartedAt.any fun since => trackingPauseTimeout ≤ now - since

/-- `feedback_scaled_cartesian_trajectory`. -/
def TrajectoryControl.feedbackScaled (trajectory : TrajectoryControl K) (mode : ControlMode) : Bool :=
  mode = .pv && trajectory.operation.nativeCartesian && trajectory.execution ≠ .trajectoryPv &&
    trajectory.approachComplete

/-- The end of the approach, as it is planned. -/
def TrajectoryControl.estimatedApproach (trajectory : TrajectoryControl K) : K :=
  if 0 < trajectory.approachDeadline then trajectory.approachDeadline else trajectory.approachDuration

/-- The segment of an instant, from the active one on. -/
def segmentAt (segments : List (Segment K)) (elapsed : K) : ℕ → ℕ → ℕ
  | 0, index => index
  | fuel + 1, index =>
    match segments[index]? with
    | some segment =>
      if index + 1 < segments.length ∧ segment.start + segment.duration ≤ elapsed then
        segmentAt segments elapsed fuel (index + 1)
      else index
    | none => index

/-- The last part of `prepare_trajectory_cycle`: the trajectory at its reference, and whether it settles
there. -/
def TrajectoryControl.advance (trajectory : TrajectoryControl K) (now : K) : TrajectoryControl K × Bool :=
  let wallElapsed := max 0 (min (now - trajectory.startedAt) trajectory.duration)
  let unclamped := min wallElapsed trajectory.referenceDuration
  let atApproachReference : Bool := !trajectory.approachComplete && trajectory.approachSegmentCount ≠ 0 &&
    trajectory.approachDuration ≤ unclamped
  let elapsed := if atApproachReference then trajectory.approachDuration else unclamped
  let atFinalReference : Bool := trajectory.referenceDuration ≤ elapsed
  ({ trajectory with
      activeSegment := if atApproachReference then trajectory.approachSegmentCount - 1
        else segmentAt trajectory.segments elapsed trajectory.segments.length trajectory.activeSegment
      elapsed := if atApproachReference then min wallElapsed trajectory.estimatedApproach else wallElapsed },
    atApproachReference || atFinalReference)

/-- What `prepare_trajectory_cycle` answers. -/
inductive Prepared
  | inactive | active (completing : Bool) | completedHold | failed (error : String)
  deriving DecidableEq, Repr

/-- `prepare_trajectory_cycle`. -/
def Engine.prepareCycle (s : Engine K) (now : K) : Prepared × Engine K :=
  let trajectory := s.trajectoryControl
  match trajectory.state with
  | .completed => (.completedHold, s)
  | .running =>
    if trajectory.segments = [] ∨ trajectory.joints = [] then
      (.failed "trajectory plan is internally empty", s)
    else if trajectory.feedbackScaled s.mode then
      if trajectory.trackingLost now then
        (.failed "Cartesian tracking error did not recover",
          { s with trajectoryControl := { trajectory with trackingTimeScale := 0 } })
      else
        let advanced := (trajectory.pauseTracking now).advance now
        (.active advanced.2, { s with trajectoryControl := advanced.1 })
    else
      let updated := { trajectory with
        trackingTimeScale := 1, trackingUpdatedAt := now, trackingPauseStartedAt := none }
      let advanced := updated.advance now
      (.active advanced.2, { s with trajectoryControl := advanced.1 })
  | _ => (.inactive, s)

/-- The tracking error that `run_arm_control_cycle` records after it has sent the commands. -/
def Engine.recordTracking (s : Engine K) (positionError : K) (valid : Bool) : Engine K :=
  if s.mode = .pv ∧ s.trajectoryControl.state = .running ∧ s.trajectoryControl.operation.nativeCartesian ∧
      s.trajectoryControl.approachComplete then
    { s with trajectoryControl := { s.trajectoryControl with
        trackingPositionError := positionError, trackingFeedbackValid := valid } }
  else s

/-! ## Completion: the first section -/

/-- `ArrivalJoint`. -/
structure Arrival (K : Type) where
  joint : TrajectoryJoint K
  target : K
  intentionallyDisabled : Bool
  role : String

/-- What the first section of `update_trajectory_completion` carries to the second. -/
structure Observation (K : Type) where
  motionId : ℕ
  mode : ControlMode
  monitoringCompletedHold : Bool
  waitingAtApproach : Bool
  atCompletionDeadline : Bool
  previousUpdates : List ℕ
  feedbackInitialized : Bool
  convergenceCheck : Bool
  arrivals : List (Arrival K)

/-- The successor starts where the trajectory ends, with the same motors. -/
def TrajectoryControl.continuous (trajectory next : TrajectoryControl K) : Bool :=
  trajectory.joints.length = next.joints.length &&
    match trajectory.segments.getLast?, next.segments.head? with
    | some last, some first => (List.range trajectory.joints.length).all fun index =>
        (trajectory.joints[index]?).map TrajectoryJoint.motor = (next.joints[index]?).map TrajectoryJoint.motor &&
          |(last.joint index).sample 1 - (first.joint index).sample 0| ≤ 1 / 10 ^ 5
    | _, _ => false

/-- The trajectory waits at the end of its approach. -/
def TrajectoryControl.waitingAtApproach (trajectory : TrajectoryControl K) : Bool :=
  trajectory.state ≠ .completed && !trajectory.approachComplete && trajectory.approachSegmentCount ≠ 0 &&
    trajectory.approachDuration ≤ trajectory.elapsed

/-- The tests of a FIFO handoff. -/
def TrajectoryControl.handsOffTo (trajectory next : TrajectoryControl K) : Bool :=
  trajectory.state ≠ .completed && !trajectory.waitingAtApproach &&
    trajectory.referenceDuration ≤ trajectory.elapsed && trajectory.duration ≤ trajectory.elapsed &&
    trajectory.operation.nativeCartesian && next.operation.nativeCartesian && next.approachSegmentCount = 0 &&
    trajectory.trackingFeedbackValid && trajectory.trackingPositionError ≤ handoffMaximumError &&
    trajectory.continuous next

/-- A fresh settling window of a trajectory that reaches its reference. -/
def TrajectoryControl.beginSettling (trajectory : TrajectoryControl K) (now : K) : TrajectoryControl K :=
  if trajectory.state ≠ .completed ∧ trajectory.settlingStartedAt = none then
    { trajectory with
      settlingStartedAt := some now
      settlingStableStartedAt := none
      holdUnstableStartedAt := none
      settlingFeedbackUpdates := trajectory.joints.map fun _ => 0
      settlingPositionMin := trajectory.joints.map fun _ => .unset
      settlingPositionMax := trajectory.joints.map fun _ => .unset
      settledFeedbackSamples := 0
      settlingFeedbackInitialized := false }
  else trajectory

/-- The segment at whose end the joints shall arrive. -/
def TrajectoryControl.finalSegment (trajectory : TrajectoryControl K) : Option (Segment K) :=
  if trajectory.waitingAtApproach then trajectory.segments[trajectory.approachSegmentCount - 1]?
  else trajectory.segments.getLast?

/-- The role that reports name a joint by. -/
def arrivalRole (roles : Motor → Option String) (joint : TrajectoryJoint K) : String :=
  if joint.role ≠ "" then joint.role else (roles joint.motor).getD "unknown product joint"

/-- The end of the first section without a handoff. -/
def Engine.observation (s : Engine K) (roles : Motor → Option String) (trajectory : TrajectoryControl K) :
    Observation K where
  motionId := trajectory.id
  mode := s.mode
  monitoringCompletedHold := trajectory.state = .completed
  waitingAtApproach := trajectory.waitingAtApproach
  atCompletionDeadline := trajectory.duration ≤ trajectory.elapsed
  previousUpdates := trajectory.settlingFeedbackUpdates
  feedbackInitialized := trajectory.settlingFeedbackInitialized
  convergenceCheck :=
    if trajectory.waitingAtApproach then trajectory.approachConvergenceCheck else trajectory.finalConvergenceCheck
  arrivals := trajectory.joints.mapIdx fun index joint =>
    { joint := joint
      target := (trajectory.finalSegment.map fun segment => (segment.joint index).sample 1).getD 0
      intentionallyDisabled := joint.motor ∈ s.intentionallyDisabled
      role := arrivalRole roles joint }

/-! ## Completion: the feedback -/

/-- The feedback of a joint that is to arrive is usable. -/
def MotorFeedback.usable (reading : MotorFeedback K) : Bool := reading.fresh && reading.statusCode = 1

/-- What the feedback says about one joint. -/
structure JointView (K : Type) where
  intentionallyDisabled : Bool
  available : Bool
  update : ℕ
  new : Bool
  actual : Option K
  positionArrived : Bool
  velocityArrived : Bool
  finalPositionReady : Bool

/-- The view of the joint at an index. -/
def Observation.view (o : Observation K) (feedback : Motor → MotorFeedback K) (index : ℕ) (arrival : Arrival K) :
    JointView K :=
  let reading := feedback arrival.joint.motor
  if arrival.intentionallyDisabled then ⟨true, false, 0, false, none, true, true, true⟩
  else if !reading.usable then ⟨false, false, 0, false, none, false, false, true⟩
  else
    let actual := arrival.joint.direction * reading.position
    let speed := |arrival.joint.direction * reading.velocity * arrival.joint.velocityFeedbackScale|
    let positionError := |actual - arrival.target|
    { intentionallyDisabled := false
      available := true
      update := reading.updateCount
      new := o.feedbackInitialized && (o.previousUpdates[index]?).any fun previous => reading.updateCount ≠ previous
      actual := some actual
      positionArrived := positionError ≤ positionTolerance o.mode
      velocityArrived := speed ≤ velocityTolerance o.mode
      finalPositionReady := o.mode = .mit ||
        positionError ≤ finalPositionTolerance (isLoadedJoint4Role arrival.role) }

/-- What one cycle of `update_trajectory_completion` has seen. -/
structure Seen (K : Type) extends Observation K where
  views : List (JointView K)
  finalPositionReady : Bool

/-- The feedback of all joints; `verdict` is the answer of the convergence check, `false` where it throws. -/
def Observation.see (o : Observation K) (feedback : Motor → MotorFeedback K) (verdict : Bool) : Seen K :=
  let views := o.arrivals.mapIdx (o.view feedback)
  { o with
    views := views
    finalPositionReady :=
      if o.mode = .pv ∧ o.convergenceCheck ∧ views.all fun view => view.intentionallyDisabled || view.available
      then verdict else views.all fun view => view.finalPositionReady }

section Seen

variable (seen : Seen K)

def Seen.hasActiveJoint : Bool := seen.views.any fun view => !view.intentionallyDisabled

/-- `any_feedback_new`. -/
def Seen.anyFeedbackNew : Bool := !seen.feedbackInitialized || seen.views.any fun view => view.new

def Seen.allPositionsArrived : Bool := seen.views.all fun view => view.positionArrived

def Seen.allArrived : Bool := seen.views.all fun view => view.positionArrived && view.velocityArrived

def Seen.currentUpdates : List ℕ := seen.views.map JointView.update

def Seen.actualPositions : List (Option K) := seen.views.map JointView.actual

end Seen

/-! ## Completion: the window of positions -/

/-- `std::min` with the quiet `NaN` on the left: it stays. -/
def Extreme.lower (extreme : Extreme K) (x : K) : Extreme K :=
  match extreme with
  | .unset => .position x
  | .position y => .position (min y x)
  | .nan => .nan

/-- `std::max` with the quiet `NaN` on the left: it stays. -/
def Extreme.upper (extreme : Extreme K) (x : K) : Extreme K :=
  match extreme with
  | .unset => .position x
  | .position y => .position (max y x)
  | .nan => .nan

/-- An actual position taken over as an extreme. -/
def Extreme.ofActual : Option K → Extreme K
  | some x => .position x
  | none => .nan

/-- The range between the extremes is wider than allowed; a comparison with `NaN` fails. -/
def Extreme.tooWide : Extreme K → Extreme K → Bool
  | .position low, .position high => pvStablePositionRange < high - low
  | _, _ => false

/-- The positions of the joints enter the window. -/
def TrajectoryControl.recordPositions (trajectory : TrajectoryControl K) (actual : List (Option K)) :
    TrajectoryControl K :=
  { trajectory with
    settlingPositionMin := trajectory.settlingPositionMin.mapIdx fun index extreme =>
      (actual[index]?).join.elim extreme extreme.lower
    settlingPositionMax := trajectory.settlingPositionMax.mapIdx fun index extreme =>
      (actual[index]?).join.elim extreme extreme.upper }

/-- The window without positions. -/
def TrajectoryControl.resetPositions (trajectory : TrajectoryControl K) (count : ℕ) : TrajectoryControl K :=
  { trajectory with
    settlingPositionMin := List.replicate count .unset
    settlingPositionMax := List.replicate count .unset }

/-- The window that starts from the actual positions. -/
def TrajectoryControl.restartPositions (trajectory : TrajectoryControl K) (actual : List (Option K)) :
    TrajectoryControl K :=
  { trajectory with
    settlingPositionMin := actual.map .ofActual
    settlingPositionMax := actual.map .ofActual }

/-- The positions of a joint in the window have a range that is too wide. -/
def TrajectoryControl.jointUnstable (trajectory : TrajectoryControl K) (index : ℕ) : Bool :=
  match trajectory.settlingPositionMin[index]?, trajectory.settlingPositionMax[index]? with
  | some low, some high => low.tooWide high
  | _, _ => false

/-- `position_range_stable` of a running trajectory: only PV motions have a range to keep. -/
def TrajectoryControl.rangeStable (trajectory : TrajectoryControl K) (seen : Seen K) : Bool :=
  seen.mode = .mit || !(seen.views.zipIdx.any fun (view, index) =>
    !view.intentionallyDisabled && trajectory.jointUnstable index)

/-- `position_range_stable` of a completed trajectory, which leaves out joints without a position. -/
def TrajectoryControl.holdRangeStable (trajectory : TrajectoryControl K) (seen : Seen K) : Bool :=
  seen.mode = .mit || !(seen.views.zipIdx.any fun (view, index) =>
    view.actual.isSome && trajectory.jointUnstable index)

/-! ## Completion: the second section -/

/-- What one call of `update_trajectory_completion` has done. -/
inductive Outcome
  | waiting
  | handoff
  | completed (allDisabled : Bool)
  | approached
  | unstable
  | timedOut
  deriving DecidableEq, Repr

/-- The watch over the hold of a completed motion. -/
def TrajectoryControl.watchHold (trajectory : TrajectoryControl K) (seen : Seen K) (now : K) :
    Outcome × TrajectoryControl K :=
  if !seen.hasActiveJoint || !seen.anyFeedbackNew then (.waiting, trajectory)
  else
    let recorded := { trajectory with settlingFeedbackUpdates := seen.currentUpdates }.recordPositions
      seen.actualPositions
    if seen.allArrived && recorded.holdRangeStable seen then
      (.waiting, { recorded with holdUnstableStartedAt := none })
    else match recorded.holdUnstableStartedAt with
      | none => (.waiting, { recorded with holdUnstableStartedAt := some now })
      | some since =>
        if now - since < completedHoldViolationDuration then (.waiting, recorded)
        else (.unstable, { recorded.resetPositions seen.views.length with
          state := .running
          settlingStartedAt := some now
          settlingStableStartedAt := none
          holdUnstableStartedAt := none
          settledFeedbackSamples := 0
          stationaryHoldActive := seen.allPositionsArrived
          error := "completed trajectory hold became unstable; waiting for physical restabilization" })

/-- `deadline_managed`. -/
def TrajectoryControl.deadlineManaged (trajectory : TrajectoryControl K) : Bool :=
  trajectory.referenceDuration < trajectory.duration

/-- `deadline_managed_final`. -/
def TrajectoryControl.deadlineManagedFinal (trajectory : TrajectoryControl K) (seen : Seen K) : Bool :=
  trajectory.deadlineManaged && !seen.waitingAtApproach

/-- `fresh_final_feedback`. -/
def TrajectoryControl.freshFinalFeedback (trajectory : TrajectoryControl K) (seen : Seen K) : Bool :=
  seen.allPositionsArrived && seen.anyFeedbackNew && (trajectory.deadlineManagedFinal seen ||
    seen.finalPositionReady || trajectory.stationaryHoldActive)

/-- The feedback of this cycle is remembered. -/
def TrajectoryControl.rememberUpdates (trajectory : TrajectoryControl K) (seen : Seen K) : TrajectoryControl K :=
  if seen.anyFeedbackNew then { trajectory with
    settlingFeedbackUpdates := seen.currentUpdates, settlingFeedbackInitialized := true }
  else trajectory

/-- The start of the window, where this cycle confirms the arrival. -/
def TrajectoryControl.openWindow (trajectory : TrajectoryControl K) (seen : Seen K) (now : K) :
    TrajectoryControl K :=
  if trajectory.deadlineManagedFinal seen then
    if trajectory.settlingStableStartedAt = none then
      { trajectory.resetPositions seen.views.length with
        settlingStableStartedAt := some now, settledFeedbackSamples := 0 }
    else trajectory
  else if !trajectory.stationaryHoldActive then
    -- The stationary phase has its own window and its own deadline.
    { trajectory.resetPositions seen.views.length with
      stationaryHoldActive := true
      settlingStartedAt := some now
      settlingStableStartedAt := some now
      settledFeedbackSamples := 0 }
  else { trajectory with
    settlingStableStartedAt := some (trajectory.settlingStableStartedAt.getD now) }

/-- The window after the feedback of this cycle. -/
def TrajectoryControl.updateWindow (trajectory : TrajectoryControl K) (seen : Seen K) (now : K) :
    TrajectoryControl K :=
  if trajectory.freshFinalFeedback seen then
    let recorded := (trajectory.openWindow seen now).recordPositions seen.actualPositions
    { recorded with settledFeedbackSamples := recorded.settledFeedbackSamples + 1 }
  else if seen.anyFeedbackNew && !(trajectory.stationaryHoldActive && seen.allPositionsArrived) then
    { trajectory.resetPositions seen.views.length with
      settledFeedbackSamples := 0
      stationaryHoldActive := false
      settlingStableStartedAt := none }
  else trajectory

/-- `stable_duration_met`. -/
def TrajectoryControl.stableDurationMet (trajectory : TrajectoryControl K) (now : K) : Bool :=
  trajectory.settlingStableStartedAt.any fun since => arrivalStableDuration ≤ now - since

/-- The tests of the arrival. -/
def TrajectoryControl.hasArrived (trajectory : TrajectoryControl K) (seen : Seen K) (now : K) : Bool :=
  trajectory.stableDurationMet now && trajectory.rangeStable seen &&
    if trajectory.deadlineManagedFinal seen then
      seen.allPositionsArrived && seen.finalPositionReady && seen.atCompletionDeadline
    else seen.allArrived

/-- A window that has lasted long enough with a range that is too wide starts again. -/
def TrajectoryControl.restartWindow (trajectory : TrajectoryControl K) (seen : Seen K) (now : K) :
    TrajectoryControl K :=
  if trajectory.stableDurationMet now && !trajectory.rangeStable seen then
    { trajectory.restartPositions seen.actualPositions with
      settlingStableStartedAt := some now, settledFeedbackSamples := 1 }
  else trajectory

/-- The end of an approach. -/
def TrajectoryControl.completeApproach (trajectory : TrajectoryControl K) (now : K) : TrajectoryControl K :=
  { trajectory with
    approachComplete := true
    startedAt := if trajectory.estimatedApproach < now - trajectory.startedAt then
      now - trajectory.estimatedApproach else trajectory.startedAt
    trackingUpdatedAt := now
    trackingTimeScale := 1
    trackingPositionError := 0
    trackingFeedbackValid := false
    trackingPauseStartedAt := none
    settlingStartedAt := none
    settlingStableStartedAt := none
    holdUnstableStartedAt := none
    settledFeedbackSamples := 0
    settlingFeedbackInitialized := false
    stationaryHoldActive := false
    error := "" }

/-- A completed motion, which holds its final positions. -/
def TrajectoryControl.complete (trajectory : TrajectoryControl K) (seen : Seen K) : TrajectoryControl K :=
  { trajectory.restartPositions seen.actualPositions with
    state := .completed
    stationaryHoldActive := true
    holdUnstableStartedAt := none
    error := "" }

/-- The first queued motion takes over. -/
def Engine.activateNext (s : Engine K) (now : K) : Engine K :=
  match s.trajectoryQueue with
  | [] => s
  | next :: rest =>
    let archived := s.archive s.trajectoryControl
    ({ archived with trajectoryQueue := rest } : Engine K).activate next now

/-- `arrival_timeout`. -/
def TrajectoryControl.arrivalTimedOut (trajectory : TrajectoryControl K) (seen : Seen K) (now : K) : Bool :=
  (if seen.waitingAtApproach then trajectory.estimatedApproach else trajectory.duration) +
    arrivalTimeout trajectory.duration ≤ now - trajectory.startedAt

/-- The second section of `update_trajectory_completion`. -/
def Engine.settle (s : Engine K) (seen : Seen K) (now : K) : Outcome × Engine K :=
  let expected := if seen.monitoringCompletedHold then MotionState.completed else .running
  if s.trajectoryControl.state ≠ expected ∨ s.trajectoryControl.id ≠ seen.motionId then (.waiting, s)
  else
    let trajectory := { s.trajectoryControl with
      activeSegment :=
        if seen.waitingAtApproach then s.trajectoryControl.approachSegmentCount - 1
        else if seen.atCompletionDeadline then s.trajectoryControl.segments.length - 1
        else s.trajectoryControl.activeSegment }
    if seen.monitoringCompletedHold then
      let watched := trajectory.watchHold seen now
      (watched.1, { s with trajectoryControl := watched.2 })
    else
      let window := (trajectory.rememberUpdates seen).updateWindow seen now
      let arrived := if seen.hasActiveJoint then window.hasArrived seen now else true
      let settled := if seen.hasActiveJoint then window.restartWindow seen now else trajectory
      let after : Engine K := { s with trajectoryControl := settled }
      if arrived then
        if seen.waitingAtApproach then
          (.approached, { s with trajectoryControl := settled.completeApproach now })
        else
          (.completed !seen.hasActiveJoint,
            ({ s with trajectoryControl := settled.complete seen } : Engine K).activateNext now)
      else if settled.arrivalTimedOut seen now then
        (.timedOut, after.terminate .fault "trajectory arrival timed out")
      else (.waiting, after)

/-! ## The cycle -/

/-- The inputs of a cycle: its instant, whether the commands are sent, the tracking error that it measures, the
feedback and the answer of the convergence check, and how another thread ends the motion between the sections
of the update. -/
structure CycleInput (K : Type) where
  now : K
  sent : Bool
  trackingError : K
  trackingValid : Bool
  feedback : Motor → MotorFeedback K
  verdict : Bool
  interruption : Option Ending

/-- `update_trajectory_completion`, with what it has seen. -/
def Engine.updateCompletion (roles : Motor → Option String) (s : Engine K) (input : CycleInput K) :
    (Outcome × Option (Seen K)) × Engine K :=
  let trajectory := s.trajectoryControl
  if (trajectory.state ≠ .running ∧ trajectory.state ≠ .completed) ∨ trajectory.segments = [] then
    ((.waiting, none), s)
  else if s.trajectoryQueue.head?.any trajectory.handsOffTo then
    let completed : TrajectoryControl K :=
      { trajectory with state := .completed, elapsed := trajectory.duration, error := "" }
    ((.handoff, none), ({ s with trajectoryControl := completed } : Engine K).activateNext input.now)
  else
    let settling := trajectory.beginSettling input.now
    let seen := (s.observation roles settling).see input.feedback input.verdict
    let begun : Engine K := { s with trajectoryControl := settling }
    let between := input.interruption.elim begun fun ending => begun.terminate ending "trajectory terminated"
    let settled := between.settle seen input.now
    ((settled.1, some seen), settled.2)

/-- The trajectory's part of `run_arm_control_cycle`. -/
def Engine.cycle (roles : Motor → Option String) (s : Engine K) (input : CycleInput K) :
    (Outcome × Option (Seen K)) × Engine K :=
  let prepared := s.prepareCycle input.now
  match prepared.1 with
  | .failed error => ((.waiting, none), prepared.2.terminate .fault error)
  | .inactive => ((.waiting, none), prepared.2)
  | .active completing =>
    if !input.sent then ((.waiting, none), prepared.2)
    else
      let recorded := prepared.2.recordTracking input.trackingError input.trackingValid
      if completing then recorded.updateCompletion roles input else ((.waiting, none), recorded)
  | .completedHold =>
    if input.sent then prepared.2.updateCompletion roles input else ((.waiting, none), prepared.2)

end MotorDrive.Trajectory
