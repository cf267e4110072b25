import MotorDrive.Runtime.Safety

/-!
# The worker

`worker_loop` of `runtime_worker.cpp` with the cycles it runs: `run_arm_control_cycle` of
`runtime_commands.cpp`, `run_gravity_control_cycle` of `runtime_gravity.cpp`,
`prepare_trajectory_cycle` and `update_trajectory_completion` of `runtime_trajectory.cpp`, and
`run_gripper_control_once` of `runtime_gripper.cpp`.

Where a cycle samples, limits or blends floating point targets, the model keeps the instant that the
target comes from; what the numbers decide (a reference is reached, a hold is stable, a limit cannot be
computed) is input.
-/

namespace MotorDrive.Runtime

open SafetyRuntime

section Worker

variable (config : RuntimeConfig)

/-! ## Grippers -/

/-- What one gripper of `prepare_gripper_commands_locked` sends, if it has no fault. -/
def gripperCommand (i : Input) (s : SafetyRuntime) (motor : Handle) : Option Command :=
  if (i.ages motor).isNone || (i.states motor).isNone then
    s.grippers.safeGrippers.find? fun c => c.motor = motor
  else some ⟨motor, s.now⟩

/-- The grippers that have a target and are not intentionally disabled. -/
def SafetyRuntime.commandedGrippers (s : SafetyRuntime) : List Handle :=
  (config.gripperMotors.map MotorRecord.motor).filter fun motor =>
    s.grippers.targets.contains motor && !s.intentionallyDisabled.contains motor

/-- A gripper with feedback that does not report enabled. -/
def gripperFaulted (i : Input) (motor : Handle) : Bool :=
  (i.ages motor).isSome && reads i motor fun state => state.statusCode ≠ 1

/-- What `prepare_gripper_commands_locked` leaves: the instant, the set it filtered by and the
commands. -/
structure GripperBatch where
  since : ℕ := 0
  time : ℕ := 0
  disabled : List Handle := []
  commands : List Command := []
  deriving DecidableEq, Repr

/-- The motors that a frame with the grippers of the batch was filtered by. -/
def GripperBatch.filters (batch : GripperBatch) (disabled : List Handle) : List Handle :=
  if batch.commands = [] then disabled else disabled.filter batch.disabled.contains

/-- `prepare_gripper_commands_locked`; `none` is a gripper fault. -/
def SafetyRuntime.gripperBatch (s : SafetyRuntime) (i : Input) : Option GripperBatch :=
  if (s.commandedGrippers config).any (gripperFaulted i) then none
  else some ⟨s.now, i.time, s.intentionallyDisabled,
    (s.commandedGrippers config).filterMap (gripperCommand i s)⟩

def prepareGripperCommandsLocked : Program (Option GripperBatch) :=
  lookAt .gripperPrepare fun i s => s.gripperBatch config i

/-- The grippers of a combined send. -/
def combinedGrippers (includeGrippers : Bool) : Program (Option GripperBatch) :=
  if includeGrippers then prepareGripperCommandsLocked config else pure (some {})

/-- The section of `commit_gripper_commands_sent`. -/
def SafetyRuntime.commitGrippers (s : SafetyRuntime) (time : ℕ) (commands : List Command) :
    SafetyRuntime :=
  if s.grippers.sentGeneration < s.grippers.commandGeneration then
    { s with
      flags := { s.flags with state := if s.state = .enabled then .running else s.state }
      grippers := { s.grippers with
        safeGrippers := commands, sentGeneration := s.grippers.commandGeneration }
      progress := { s.progress with
        hasSuccessfulCommand := true
        lastSuccessfulCommand := if s.progress.hasSuccessfulCommand then
          s.progress.lastSuccessfulCommand else time } }
  else { s with grippers := { s.grippers with safeGrippers := commands } }

/-- `commit_gripper_commands_sent`. -/
def commitGripperCommandsSent (time : ℕ) (commands : List Command) : Program Unit :=
  Proc.when (commands ≠ []) (update (.gripperSent time commands) fun _ s =>
    s.commitGrippers time commands)

/-- What a cycle ends with: nothing sent or all sent, a failed send, or another error. -/
inductive CycleResult
  | done | sendFailed | failed
  deriving DecidableEq, Repr

/-- The send of `run_gripper_control_once`. -/
def sendGrippers : Option GripperBatch → Program CycleResult
  | none => pure .failed
  | some batch =>
    if batch.commands = [] then pure .done else do
      let sent ← send .gripperControl batch.since batch.disabled batch.commands
      if !sent then
        -- the message is the one of the backend if there is one, and `worker_loop` looks for "batch failed" in it
        look fun i _ => if i.error = "" ∨ (i.error.splitOn "batch failed").length ≠ 1 then .sendFailed else .failed
      else do
        commitGripperCommandsSent batch.time batch.commands
        pure .done

/-- `run_gripper_control_once`. -/
def runGripperControlOnce : Program CycleResult :=
  withCommand .worker do
    let active ← look fun _ s => !s.flags.hardwareTransition && s.state.commanding
    if !active then pure .done else do
      let batch ← prepareGripperCommandsLocked config
      sendGrippers batch

/-! ## Gravity compensation -/

/-- The hold positions take part in the target of a gravity cycle: `hold_scale > 0`. -/
def holdBlended (i : Input) : GravityPhase → Bool
  | .inactive | .active => false
  | .entering => !i.settled
  | .exiting => i.settled || i.blending

/-- The commands of a gravity cycle; the joints are read one by one and must all be enabled. -/
def gravityCycle (i : Input) (s : SafetyRuntime) : Option GravityCycle :=
  if config.gravityJoints.all fun motor => reads i motor fun state =>
      state.statusCode = 1 && state.finitePos && state.finiteVel then
    some ⟨s.now, s.intentionallyDisabled, s.arm.gravity.phase, i.settled,
      config.gravityJoints.map fun motor =>
        ⟨motor, if holdBlended i s.arm.gravity.phase then s.arm.gravity.holdPositions else s.now⟩⟩
  else none

/-- The section after the send of a gravity cycle. -/
def SafetyRuntime.commitGravity (s : SafetyRuntime) (cycle : GravityCycle) : SafetyRuntime :=
  let arm := s.arm.setLastSent .mit s.now cycle.commands
  { s with
    arm := if cycle.phase = .entering ∧ cycle.settled then
        { arm with gravity := { arm.gravity with phase := .active } }
      else if cycle.phase = .exiting ∧ cycle.settled then
        { arm with
          mailbox := { valid := true, mit := cycle.commands }
          gravity := { arm.gravity with phase := .inactive } }
      else arm
    progress := { s.progress with consecutiveSendFailures := 0 } }

/-- The frame of a gravity cycle, with the grippers first. -/
def sendGravity (time : ℕ) (cycle : GravityCycle) : Option GripperBatch → Program CycleResult
  | none => pure .failed
  | some batch => do
    let sent ← send .gravityCycle cycle.since (batch.filters cycle.disabled)
      (batch.commands ++ cycle.commands)
    if !sent then do
      update .cycleFailed fun _ s => { s with progress := { s.progress with
        consecutiveSendFailures := s.progress.consecutiveSendFailures + 1 } }
      pure .sendFailed
    else do
      update (.gravitySent cycle) fun _ s => s.commitGravity cycle
      commitGripperCommandsSent time batch.commands
      pure .done

/-- `prepare_mit_torque_limited_commands` may find the torque limits unavailable. -/
def limitTorque : ControlMode → Program Bool
  | .pv => pure true
  | .mit => ask

/-- What follows the reading of a gravity cycle. -/
def gravityFrame (time : ℕ) (includeGrippers : Bool) : Option GravityCycle → Program CycleResult
  | none => pure .failed
  | some cycle => do
    let limited ← limitTorque .mit
    if !limited then pure .failed else do
      let batch ← combinedGrippers config includeGrippers
      sendGravity time cycle batch

/-- `run_gravity_control_cycle`, which neither looks at the state nor filters. -/
def runGravityControlCycle (time : ℕ) (includeGrippers : Bool) : Program CycleResult := do
  let (active, cycle) ← act .gravityRead fun i s =>
    ((decide (s.arm.gravity.phase ≠ .inactive), gravityCycle config i s), s)
  if active then gravityFrame config time includeGrippers cycle else pure .done

/-! ## The arm -/

def cycleSnapshot (s : SafetyRuntime) : Option CycleSnapshot :=
  if s.flags.hardwareTransition ∨ !s.state.commanding then none
  else some ⟨s.now, s.mode, s.arm.gravity.phase ≠ .inactive, s.arm.bimanual, s.intentionallyDisabled⟩

/-- How `prepare_trajectory_cycle` ends. -/
inductive TrajectoryCycle
  | inactive (completing : Bool)
  | active (completing : Bool)
  | failed
  deriving DecidableEq, Repr

def TrajectoryCycle.completing : TrajectoryCycle → Bool
  | .inactive completing | .active completing => completing
  | .failed => false

/-- `prepare_trajectory_cycle`: a running trajectory samples its plan into the mailbox. -/
def SafetyRuntime.trajectoryCycle (s : SafetyRuntime) (i : Input) : TrajectoryCycle × SafetyRuntime :=
  if s.arm.trajectory.state = .completed then (.inactive true, s)
  else if s.arm.trajectory.state ≠ .running then (.inactive false, s)
  else if !i.ok ∨ s.arm.trajectory.joints = [] then (.failed, s)
  else (.active i.settled, (s.setArm { s.arm with
    armGeneration := s.arm.armGeneration + 1
    mailbox := { s.arm.mailbox with
      valid := true
      userCommand := true
      streaming := false
      generation := s.arm.armGeneration + 1
      jointPosition := false }.withCommands s.mode
        (s.arm.trajectory.joints.map fun motor => ⟨motor, s.arm.trajectory.origin⟩) }).record
          (.sampled s.arm.trajectory.id))

def prepareTrajectoryCycle (since : ℕ) : Program TrajectoryCycle :=
  act (.trajectoryCycle since) fun i s => s.trajectoryCycle i

/-- `consume_pending_arm_mailbox`. -/
def Arm.consumePending (arm : Arm) : Arm :=
  if arm.pending.valid then { arm with mailbox := arm.pending, pending := {} } else arm

def consumePendingArmMailbox (since : ℕ) : Program Unit :=
  update (.consumePending since) fun _ s => s.setArm s.arm.consumePending

/-- The joints of an active bimanual follow have fresh enabled feedback. -/
def followable (i : Input) : Bool :=
  config.gravityJoints.all fun motor => fresh config i motor && reads i motor fun state =>
    state.statusCode = 1 && state.finitePos && state.finiteVel

/-- A follower's target is built from the start positions and the leader's target: it is as old as the
older of the two. -/
def followCommands (since : ℕ) (commands : List Command) : List Command :=
  commands.map fun c =>
    if config.gravityJoints.contains c.motor then ⟨c.motor, min since c.origin⟩ else c

/-- The mailbox after the references of a cycle have been advanced; `none` is an error of bimanual
follow. -/
def Arm.advance (arm : Arm) (snapshot : CycleSnapshot) (i : Input) : Option ArmMailbox :=
  match snapshot.bimanual with
  | none => some arm.mailbox
  | some since =>
    if arm.mailbox.jointPosition ∧ followable config i ∧ i.ok then
      some (arm.mailbox.withCommands snapshot.mode
        (followCommands config since (arm.mailbox.commands snapshot.mode)))
    else none

/-- How the references of a cycle end. -/
inductive Advance
  | invalid | failed
  | frame (frame : ArmFrame)
  deriving DecidableEq, Repr

/-- The frame of a cycle, if it has one. -/
def Advance.frame? : Advance → Option ArmFrame
  | .frame armFrame => some armFrame
  | _ => none

/-- The references of `run_arm_control_cycle`, advanced in the mailbox. -/
def SafetyRuntime.advanceArm (s : SafetyRuntime) (snapshot : CycleSnapshot) (i : Input) :
    Advance × SafetyRuntime :=
  if !s.arm.mailbox.valid then (.invalid, s) else
    match s.arm.advance config snapshot i with
    | none => (.failed, s)
    | some mailbox => (.frame ⟨s.arm.mailbox.userCommand, s.arm.mailbox.generation,
        addressable snapshot.disabled (mailbox.commands snapshot.mode)⟩,
      s.setArm { s.arm with mailbox })

/-- The section after the send of an arm cycle. -/
def SafetyRuntime.commitCycle (s : SafetyRuntime) (mode : ControlMode) (time : ℕ) (frame : ArmFrame) :
    SafetyRuntime :=
  let arm := s.arm.setLastSent mode s.now frame.commands
  let renews := frame.userCommand && s.arm.mailbox.sentGeneration < frame.generation
  { s with
    flags := { s.flags with
      state := if frame.userCommand ∧ s.state = .enabled then .running else s.state }
    arm := if renews then
        { arm with mailbox := { arm.mailbox with sentGeneration := frame.generation } }
      else arm
    progress := { s.progress with
      consecutiveSendFailures := 0
      hasSuccessfulCommand := s.progress.hasSuccessfulCommand || frame.userCommand
      lastSuccessfulCommand := if renews then time else s.progress.lastSuccessfulCommand
      firstCommandAccepted := s.progress.firstCommandAccepted && !frame.userCommand } }

/-- The trajectory is completed, and the next one of the queue becomes active. -/
def SafetyRuntime.completeTrajectory (s : SafetyRuntime) : SafetyRuntime :=
  let completed := { s.arm.trajectory with state := MotionState.completed }
  match s.arm.trajectoryQueue with
  | [] => (s.setArm { s.arm with trajectory := completed }).record (.completed s.arm.trajectory.id)
  | next :: rest => (s.setArm { s.arm.archive completed with
      trajectory := { next with state := MotionState.running }
      trajectoryQueue := rest }).record (.completed s.arm.trajectory.id)

/-- `update_trajectory_completion`, with what the arrival checks find: a running trajectory is
completed or times out, a completed one whose hold became unstable runs again. -/
def SafetyRuntime.updateTrajectory (s : SafetyRuntime) (i : Input) : SafetyRuntime :=
  if s.arm.trajectory.state = .running then
    if i.settled then s.completeTrajectory
    else if i.severe then s.setArm (s.arm.terminateTrajectory .fault)
    else s
  else if s.arm.trajectory.state = .completed ∧ i.severe then
    (s.setArm { s.arm with trajectory := { s.arm.trajectory with state := MotionState.running } }).record
      (.resumed s.arm.trajectory.id)
  else s

def updateTrajectoryCompletion : Program Unit :=
  update .trajectoryUpdate fun i s => s.updateTrajectory i

/-- The frame of an arm cycle, with the grippers of a combined send first. -/
def sendFrame (time : ℕ) (snapshot : CycleSnapshot) (completing : Bool) (frame : ArmFrame) :
    Option GripperBatch → Program CycleResult
  | none => pure .failed
  | some batch => do
    let sent ← sendNonempty .armCycle snapshot.since (batch.filters snapshot.disabled)
      (batch.commands ++ frame.commands)
    if !sent then do
      update .cycleFailed fun _ s => { s with progress := { s.progress with
        consecutiveSendFailures := s.progress.consecutiveSendFailures + 1 } }
      pure .sendFailed
    else do
      update (.cycleSent snapshot.mode time frame) fun _ s => s.commitCycle snapshot.mode time frame
      commitGripperCommandsSent time batch.commands
      Proc.when completing updateTrajectoryCompletion
      pure .done

/-- The frame of an arm cycle. -/
def armFrame (time : ℕ) (snapshot : CycleSnapshot) (includeGrippers completing : Bool) :
    Advance → Program CycleResult
  | .invalid => pure .done
  | .failed => pure .failed
  | .frame frame => do
    let limited ← limitTorque snapshot.mode
    if !limited then pure .failed else do
      let batch ← combinedGrippers config (includeGrippers && snapshot.mode = .mit)
      sendFrame time snapshot completing frame batch

/-- `run_arm_control_cycle` after its trajectory. -/
def armCycle (time : ℕ) (snapshot : CycleSnapshot) (includeGrippers : Bool) :
    TrajectoryCycle → Program CycleResult
  | .failed => pure .failed
  | .active completing => do
    let advance ← act (.cyclePrepare snapshot) fun i s => s.advanceArm config snapshot i
    armFrame config time snapshot includeGrippers completing advance
  | .inactive completing => do
    consumePendingArmMailbox snapshot.since
    let advance ← act (.cyclePrepare snapshot) fun i s => s.advanceArm config snapshot i
    armFrame config time snapshot includeGrippers completing advance

/-- `run_arm_control_cycle`. -/
def runArmControlCycle (time : ℕ) (includeGrippers : Bool) : Program CycleResult :=
  withCommand .worker do
    let snapshot ← lookAt .cycleStart fun _ s => cycleSnapshot s
    match snapshot with
    | none => pure .done
    | some snapshot =>
      if snapshot.gravityActive then runGravityControlCycle config time includeGrippers else do
        let trajectory ← prepareTrajectoryCycle snapshot.since
        armCycle config time snapshot includeGrippers trajectory

/-! ## worker_loop -/

/-- What an iteration of `worker_loop` has decided to do. -/
structure Decision where
  time : ℕ := 0
  graceFault : Bool := false
  commandTimeout : Bool := false
  readyFeedback : Bool := false
  feedbackCheck : Bool := false
  armControl : Bool := false
  hold : Bool := false
  gripperControl : Bool := false
  combined : Bool := false
  deriving DecidableEq, Repr

namespace SafetyRuntime

/-- The enable grace has expired without a command. -/
def graceExpired (s : SafetyRuntime) (due : Due) : Bool :=
  s.state = .enabled && !s.flags.enableTransaction && due.enableGrace &&
    !s.progress.hasSuccessfulCommand && !s.progress.firstCommandAccepted &&
    s.progress.activeCommandPlanningToken = 0

/-- The states whose streaming command the watchdog supervises. -/
def watched (s : SafetyRuntime) : Bool :=
  s.state = .running || s.state = .degraded || s.state = .partiallyEnabled

/-- The command watchdog has expired. -/
def commandExpired (s : SafetyRuntime) (time : ℕ) : Bool :=
  s.watched && s.progress.hasSuccessfulCommand && s.arm.mailbox.userCommand &&
    s.arm.mailbox.streaming && s.progress.lastSuccessfulCommand + config.commandTimeout ≤ time

/-- The states whose feedback the worker checks. -/
def feedbackChecked (s : SafetyRuntime) : Bool :=
  s.state = .running || s.state = .degraded || s.state = .partiallyEnabled || s.state = .safeHold ||
    s.state = .safeStop ||
    (s.state = .fault && s.flags.emergencyStopLatched && s.arm.faultHoldActive)

/-- The section in which an iteration decides. -/
def decide (s : SafetyRuntime) (due : Due) (time : ℕ) : Decision × SafetyRuntime :=
  let arm := s.state.commanding && due.controlTick
  let grippers := !s.flags.enableTransaction && s.state.commanding && due.gripperControl &&
    s.grippers.targets ≠ []
  let combined := arm && grippers && s.mode = .mit
  ({ time
     graceFault := s.graceExpired due
     commandTimeout := !s.graceExpired due && s.commandExpired config time
     readyFeedback := s.state = .ready && due.readyFeedback
     feedbackCheck := s.feedbackChecked && due.feedbackCheck
     armControl := arm
     hold := (s.state = .safeHold || s.state = .safeStop ||
       (s.state = .fault && s.arm.faultHoldActive)) && due.safeHold
     gripperControl := grippers && !combined
     combined },
    s.setFlags { s.flags with
      enableGraceTransition := s.flags.enableGraceTransition || s.graceExpired due })

/-- The failure of an arm cycle is retried. -/
def retriesSend (s : SafetyRuntime) (threshold : ℕ) : Bool :=
  0 < s.progress.consecutiveSendFailures && s.progress.consecutiveSendFailures < max 1 threshold

end SafetyRuntime

/-- The feedback refresh of a `READY` Runtime. -/
def runReadyFeedback : Program Unit := do
  let complete ← withCommand .worker do
    let still ← look fun _ s => !s.flags.hardwareTransition && s.state = .ready
    if !still then pure none else do
      let (complete, missing) ← requestFeedbackParallel config
      let valid ← validateFreshFeedbackSnapshot config missing
      pure (some (valid && complete))
  Proc.when (complete = some false) (update .readyWrite fun _ s => { s with progress :=
    { s.progress with consecutiveFeedbackFailures := s.progress.consecutiveFeedbackFailures + 1 } })

/-- What the iteration does after the arm cycle; it says whether the iteration goes on. -/
def afterArm : CycleResult → Program Bool
  | .done => pure true
  | _ => do
    let retried ← look fun _ s => s.retriesSend config.feedbackFailureThreshold
    if retried then pure false else do
      update .faultTrajectory fun _ s => s.setArm (s.arm.terminateTrajectory .fault)
      enterSafeStopOrFault config .worker
      pure false

/-- The arm control of an iteration. -/
def runArmControl (decision : Decision) : Program Bool :=
  if !decision.armControl then pure true else do
    let result ← runArmControlCycle config decision.time decision.combined
    afterArm config result

/-- What a failed feedback check leads to. -/
inductive FeedbackFailure
  | fault | safeStop | degraded | none
  deriving DecidableEq, Repr

/-- The section that counts a failed feedback check. -/
def SafetyRuntime.feedbackFailed (s : SafetyRuntime) (severe : Bool) : FeedbackFailure × SafetyRuntime :=
  let failures := s.progress.consecutiveFeedbackFailures + 1
  (if severe then .fault
    else if s.state = .degraded ∧ config.feedbackFailureThreshold * 3 ≤ failures then .safeStop
    else if s.state = .running ∧ config.feedbackFailureThreshold ≤ failures then .degraded
    else .none,
    { s with progress := { s.progress with consecutiveFeedbackFailures := failures } })

def runFeedbackFailure : FeedbackFailure → Program Unit
  | .fault => enterFault config .worker true
  | .safeStop => enterSafeStopOrFault config .worker
  | .degraded => update .enterDegraded fun _ s => s.enterDegraded
  | .none => pure ()

/-- What the iteration does after a feedback check. -/
def afterFeedback : Option Bool → Program Bool
  | none => pure false
  | some true => pure true
  | some false => do
    let failure ← act .feedbackFailed fun i s => s.feedbackFailed config i.severe
    runFeedbackFailure config failure
    pure false

/-- The feedback check of an iteration. -/
def runFeedbackCheck (decision : Decision) : Program Bool :=
  if !decision.feedbackCheck then pure true else do
    let healthy ← withCommand .worker do
      let still ← look fun _ s => !s.flags.hardwareTransition && s.feedbackChecked
      if !still then pure none else do
        let healthy ← refreshFeedbackHealth config false []
        pure (some healthy)
    afterFeedback config healthy

/-- What the iteration does after the gripper control. -/
def afterGrippers : CycleResult → Program Bool
  | .done => pure true
  | .sendFailed => do
    update .sendFailed fun _ s => { s with progress := { s.progress with
      consecutiveSendFailures := s.progress.consecutiveSendFailures + 1 } }
    enterSafeStopOrFault config .worker
    pure false
  | .failed => do
    enterFault config .worker true
    pure false

/-- The gripper control of an iteration. -/
def runGripperControl (decision : Decision) : Program Bool :=
  if !decision.gripperControl then pure true else do
    let result ← runGripperControlOnce config
    afterGrippers config result

/-- The section that counts a failed hold; it says whether to enter the fault. -/
def SafetyRuntime.holdFailed (s : SafetyRuntime) : Bool × SafetyRuntime :=
  (config.safeHoldFailureThreshold ≤ s.progress.consecutiveHoldFailures + 1 ∧ s.state ≠ .fault,
    { s with progress := { s.progress with
      consecutiveHoldFailures := s.progress.consecutiveHoldFailures + 1
      consecutiveSendFailures := s.progress.consecutiveSendFailures + 1 } })

/-- The protective hold of an iteration. -/
def runHold (decision : Decision) : Program Unit :=
  Proc.when decision.hold do
    let held ← sendSafeHoldOnce config .worker
    if held then update .holdSucceeded fun _ s => { s with progress := { s.progress with
      consecutiveHoldFailures := 0 } }
    else do
      let fault ← act .holdFailed fun _ s => s.holdFailed config
      Proc.when fault (enterFault config .worker true)

/-- The control part of an iteration: each step may end it. -/
def runControl (decision : Decision) : Program Unit := do
  let sent ← runArmControl config decision
  if !sent then pure () else
    let healthy ← runFeedbackCheck config decision
    if !healthy then pure () else
      let gripped ← runGripperControl config decision
      if !gripped then pure () else runHold config decision

/-- What an iteration does once it has decided. -/
def runDecision (decision : Decision) : Program Unit :=
  if decision.graceFault ∨ decision.commandTimeout then enterSafeStopOrFault config .worker
  else if decision.readyFeedback then runReadyFeedback config
  else runControl config decision

/-- How the wait of an iteration ends. -/
def SafetyRuntime.wake (s : SafetyRuntime) : Bool × SafetyRuntime :=
  if s.flags.stopping then (false, { s with workerExited := true })
  else (!s.flags.hardwareTransition, s)

/-- One iteration of `worker_loop`. -/
def workerIteration : Program Unit := do
  let awake ← actWhen .workerWait (fun s => !s.workerExited) fun _ s => s.wake
  Proc.when awake do
    let decision ← act .workerDecide fun i s => s.decide config i.due i.time
    runDecision config decision

end Worker

end MotorDrive.Runtime
