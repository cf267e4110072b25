import MotorDrive.Runtime.Safety

/-!
# Enabling and disabling

`enable`, `disable_hardware`, `disable`, `estop`, `motor_power_state` and `set_motor_power_batch` of
`runtime_enable.cpp`.  They run on the thread that holds `lifecycle_mutex_`.  The reports they fill in
are not read back and are left out.
-/

namespace MotorDrive.Runtime

open SafetyRuntime

section Power

variable (config : RuntimeConfig)

/-- One or more motor or controller enable commands. -/
def enableMotors (motors : List Handle) : Program Bool :=
  if motors = [] then pure true else
    act (.enableMotors motors) fun i s => (i.ok, s.record (.enabled motors))

/-- Disable frames, one for each motor; the answer says whether the backend accepted all of them. -/
def disableMotors (motors : List Handle) : Program Bool :=
  lookAt (.disableMotors motors) fun i _ => i.ok

/-! ## disable_hardware -/

/-- `establish_disable_barrier`: an empty group dispatch, then a feedback marker. -/
def establishDisableBarrier : Program Bool := do
  let dispatched ← lookAt .drain fun i _ => i.ok
  if !dispatched then pure false else
    let (complete, _) ← requestFeedbackParallel config
    if complete then pure true else
      let (complete, _) ← requestFeedbackParallel config
      pure complete

/-- A motor that `collect_unconfirmed` lists. -/
def unconfirmed (i : Input) (complete : Bool) (missing : List MissingMotor) (motor : MotorRecord) :
    Bool :=
  (!complete && missing = []) || specificallyMissing i missing motor || !fresh config i motor.motor ||
    !reads i motor.motor fun state => state.statusCode = 0

/-- The motors that `collect_unconfirmed` lists. -/
def collectUnconfirmed (i : Input) (complete : Bool) (missing : List MissingMotor) : List Handle :=
  (config.motors.filter (unconfirmed config i complete missing)).map MotorRecord.motor

/-- One turn of `confirm_until_deadline`: the motors that are not confirmed disabled. -/
def confirmTurn : Program (List Handle) := do
  let (complete, missing) ← requestFeedbackParallel config
  act (.confirmRead complete missing) fun i s =>
    (collectUnconfirmed config i complete missing, s.record (readingOf config i))

/-- `confirm_until_deadline`, for as many turns as the deadline leaves. -/
def confirmUntilDeadline : ℕ → Program (List Handle)
  | 0 => confirmTurn config
  | n + 1 => do
    let result ← confirmTurn config
    if result = [] then pure [] else confirmUntilDeadline n

/-- The confirmation of `disable_hardware`, with its directed retry. -/
def confirmOrRetry : Program Bool := do
  let turns ← look fun i _ => i.budget
  let retryTargets ← confirmUntilDeadline config turns
  if retryTargets = [] then pure true else
    let _ ← disableMotors retryTargets
    let turns ← look fun i _ => i.budget
    let finalTargets ← confirmUntilDeadline config turns
    pure (finalTargets = [])

/-- `disable_hardware(true, false, …)`. -/
def disableHardware (t : Thread) : Program Bool :=
  withCommand t do
    let barrier ← establishDisableBarrier config
    let _ ← disableMotors config.handles
    let confirmed ← confirmOrRetry config
    pure (barrier && confirmed)

/-! ## enable -/

/-- The first section of `enable`. -/
def SafetyRuntime.checkEnable (s : SafetyRuntime) : Except String ℕ × SafetyRuntime :=
  if (s.state = .ready ∨ s.state = .partiallyEnabled) ∧ !s.flags.faultLatched ∧
      !s.flags.hardwareTransition then
    (.ok s.now, s.setFlags { s.flags with hardwareTransition := true, enableTransaction := true })
  else (.error "expected_states=[READY, PARTIALLY_ENABLED]", s)

/-- A motor whose feedback `initialize_arm_mailbox_from_feedback` accepts. -/
def seedable (i : Input) (requireEnabled : Bool) (motor : MotorRecord) : Bool :=
  fresh config i motor.motor && reads i motor.motor fun state =>
    state.finitePos && state.finiteVel && state.finiteTorq && state.statusCode ≤ 1 &&
      (!requireEnabled || state.statusCode = 1)

/-- `initialize_arm_mailbox_from_feedback`. -/
def SafetyRuntime.seedMailbox (s : SafetyRuntime) (mode : ControlMode) (requireEnabled : Bool)
    (i : Input) : Except String Unit × SafetyRuntime :=
  if config.armMotors.all (seedable config i requireEnabled) then
    if config.armMotors = [] then (.error "runtime requires at least one active arm motor", s)
    else (.ok (), s.setArm { s.arm with
      armGeneration := s.arm.armGeneration + 1
      mailbox := { valid := true, generation := s.arm.armGeneration + 1, jointPosition := true :
        ArmMailbox }.withCommands mode (config.armMotors.map fun motor => ⟨motor.motor, s.now⟩) })
  else (.error (if requireEnabled then "fresh enabled feedback is required before enable"
    else "fresh fault-free feedback is required before enable"), s)

def initializeArmMailboxFromFeedback (mode : ControlMode) (requireEnabled : Bool) : Program Unit :=
  actThrow (.enableSeed mode requireEnabled) fun i s => s.seedMailbox config mode requireEnabled i

/-- The targets captured since an instant, from now on counted as captured while the state is not idle. -/
def restamp (since fresh : ℕ) (commands : List Command) : List Command :=
  commands.map fun c => if since ≤ c.origin then ⟨c.motor, max c.origin fresh⟩ else c

/-- The section of `initialize_enabled_state`.  The feedback that the call captured while the state
was `READY` counts as captured since then. -/
def SafetyRuntime.initializeEnabled (s : SafetyRuntime) (mode : ControlMode) (since : ℕ) :
    SafetyRuntime :=
  { s with
    mode
    flags := { s.flags with
      state := .enabled
      disableConfirmed := false
      enableGraceTransition := false }
    arm := { s.arm.clearSafe.releaseOwners with
      gravity := {}
      mailbox := { s.arm.mailbox with
        pv := restamp since (if s.state = SafetyState.ready then s.freshFrom else 0) s.arm.mailbox.pv
        mit := restamp since (if s.state = SafetyState.ready then s.freshFrom else 0) s.arm.mailbox.mit } }
    grippers := {}
    intentionallyDisabled := []
    progress := { s.progress with
      hasSuccessfulCommand := false
      lastSuccessfulCommand := 0
      firstCommandAccepted := false
      activeCommandPlanningToken := 0
      consecutiveSendFailures := 0
      consecutiveFeedbackFailures := 0
      consecutiveHoldFailures := 0 } }.record .disturbed

def initializeEnabledState (mode : ControlMode) (since : ℕ) : Program Unit :=
  update (.initializeEnabled mode since) fun _ s => s.initializeEnabled mode since

/-- The section of `seed_gripper_targets_from_feedback`. -/
def SafetyRuntime.seedGrippers (s : SafetyRuntime) (activate : Bool) (i : Input) : SafetyRuntime :=
  let seeded := (config.gripperMotors.map MotorRecord.motor).filter fun motor =>
    (i.states motor).isSome
  { s with grippers := { s.grippers with
    safeGrippers := seeded.map fun motor => ⟨motor, s.now⟩
    targets := if activate then seeded else [] } }

/-- `seed_gripper_targets_from_feedback`. -/
def seedGripperTargetsFromFeedback (activate : Bool) : Program Unit :=
  withCommand .lifecycle (update (.seedGrippers activate) fun i s => s.seedGrippers config activate i)

/-- `send_initial_hold`. -/
def sendInitialHold (mode : ControlMode) : Program Unit :=
  withCommand .lifecycle do
    let commands ← look fun _ s => s.arm.mailbox.commands mode
    let sent ← send .initialHold 0 [] commands
    if !sent then .throw "initial arm hold send failed" else
      update (.initialHoldSent mode commands) fun _ s => s.setArm (s.arm.setLastSent mode s.now commands)
      let grippers ← look fun _ s => s.grippers.safeGrippers
      let sent ← sendNonempty .initialHold 0 [] grippers
      if sent then pure () else .throw "initial gripper hold send failed"

/-- What one reading of `confirm_enabled_feedback` finds: a motor fault, every motor enabled, and the
motors to retry. -/
def enabledReading (i : Input) (retried : List Handle) : Bool × Bool × List Handle :=
  (config.handles.any fun motor => fresh config i motor && reads i motor fun state => 1 < state.statusCode,
    config.handles.all fun motor => fresh config i motor && reads i motor fun state => state.statusCode = 1,
    if config.canEnableMotor then config.handles.filter fun motor => !retried.contains motor &&
      fresh config i motor && reads i motor fun state => state.statusCode = 0 else [])

/-- `confirm_enabled_feedback`, for as many turns as the deadline leaves. -/
def confirmEnabledFeedback : ℕ → List Handle → Program Bool
  | 0, _ => pure false
  | n + 1, retried => do
    let (complete, _) ← requestFeedbackParallel config
    let (faulted, allEnabled, retry) ← lookAt .enabledRead fun i _ => enabledReading config i retried
    if faulted then pure false
    else if complete && allEnabled then pure true
    else do
      let accepted ← enableMotors retry
      if accepted then confirmEnabledFeedback n (retried ++ retry) else pure false

/-- `enable` when the backend supplies no `enable_all`. -/
def enableWithoutCallback (mode : ControlMode) (since : ℕ) : Program Unit :=
  Proc.tryCatch (do
    withCommand .lifecycle (initializeArmMailboxFromFeedback config mode true)
    initializeEnabledState mode since
    seedGripperTargetsFromFeedback config false
    update .enableAbandoned fun _ s =>
      s.setFlags { s.flags with hardwareTransition := false, enableTransaction := false })
    fun error => do
      update .enableAbandoned fun _ s =>
        s.setFlags { s.flags with hardwareTransition := false, enableTransaction := false }
      .throw error

/-- The steps of `enable` up to its confirmation. -/
def enableSteps (mode : ControlMode) (since : ℕ) : Program Unit := do
  let (complete, _) ← requestFeedbackParallel config
  if !complete then .throw "initial position feedback failed" else
    withCommand .lifecycle (initializeArmMailboxFromFeedback config mode false)
    let enabled ← enableMotors config.handles
    if !enabled then .throw "enable failed" else
      initializeEnabledState mode since
      seedGripperTargetsFromFeedback config true
      sendInitialHold mode
      update .enableHoldSent fun _ s => s.setFlags { s.flags with hardwareTransition := false }
      let turns ← look fun i _ => i.budget
      let confirmed ← confirmEnabledFeedback config turns []
      if !confirmed then .throw "enable grace expired before all motors reported ENABLED" else
        update .enableDone fun _ s => s.setFlags { s.flags with enableTransaction := false }

/-- The first section of the failure handler of `enable`. -/
def SafetyRuntime.failEnable (s : SafetyRuntime) (motorFault : Bool) : SafetyRuntime :=
  { s with
    flags := { s.flags with
      state := .fault
      faultLatched := true
      motorFaultLatched := s.flags.motorFaultLatched || motorFault
      hardwareTransition := true
      disableConfirmed := false }
    arm := s.arm.clearMailboxes }.record .disturbed

/-- The failure handler of `enable`. -/
def enableFailure (error : String) : Program Unit := do
  withCommand .lifecycle (update .enableFailed fun i s =>
    s.failEnable (currentMotorFaultReported config i))
  let disabled ← disableHardware config .lifecycle
  update (.enableRolledBack disabled) fun _ s => noteConfirmed s (s.setFlags { s.flags with
    disableConfirmed := disabled, hardwareTransition := false, enableTransaction := false })
  .throw error

/-- `enable` after its first section. -/
def enabling (mode : ControlMode) (since : ℕ) : Program Unit :=
  if !config.canEnableAll then enableWithoutCallback config mode since
  else Proc.tryCatch (enableSteps config mode since) fun error => enableFailure config error

/-- `enable`. -/
def enable (mode : ControlMode) : Program Unit := do
  let since ← actThrow .enableCheck fun _ s => s.checkEnable
  enabling config mode since

/-! ## disable -/

/-- The first section of `disable`. -/
def SafetyRuntime.startDisable (s : SafetyRuntime) : Except String Bool × SafetyRuntime :=
  if s.state = .disconnected then (.error "cannot disable a disconnected runtime", s)
  else (.ok (s.state = .fault ∧ s.flags.faultLatched),
    { s with
      flags := { s.flags with hardwareTransition := true }
      arm := s.arm.terminateTrajectory .cancelled })

/-- The last section of `disable`. -/
def SafetyRuntime.commitDisable (s : SafetyRuntime) (confirmed preserveFault motorFault : Bool) :
    SafetyRuntime :=
  { s with
    flags := { s.flags with
      state := if confirmed ∧ !preserveFault then .ready else .fault
      faultLatched := if confirmed ∧ !preserveFault then s.flags.faultLatched else true
      motorFaultLatched := s.flags.motorFaultLatched || (!confirmed && motorFault)
      disableConfirmed := confirmed
      hardwareTransition := false
      enableGraceTransition := false }
    arm := { s.arm.clearSafe.clearLastSent.clearMailboxes.releaseOwners with
      faultHoldActive := false }
    grippers := { s.grippers with safeGrippers := [], commandGeneration := 0, sentGeneration := 0 }
    intentionallyDisabled := if confirmed then [] else s.intentionallyDisabled
    progress := { s.progress with
      hasSuccessfulCommand := false
      firstCommandAccepted := false
      activeCommandPlanningToken := 0 } }.record .disturbed

/-- `disable`. -/
def disable : Program Unit := do
  let preserveFault ← actThrow .disableStart fun _ s => s.startDisable
  let confirmed ← disableHardware config .lifecycle
  update (.disableCommit confirmed preserveFault) fun i s =>
    noteConfirmed s (s.commitDisable confirmed preserveFault (currentMotorFaultReported config i))
  if confirmed then pure () else .throw "disable confirmation failed"

/-! ## estop -/

/-- What the first section of `estop` leaves to do: `none`, or whether a hold is required and the
confirmation to restore. -/
def SafetyRuntime.latchEstop (s : SafetyRuntime) : Option (Bool × Bool) × SafetyRuntime :=
  if s.flags.emergencyStopLatched then
    (none, s.setFlags { s.flags with faultLatched := true })
  else
    (if s.state = .disconnected then none
      else some (!s.flags.disableConfirmed && s.state ≠ .ready, s.flags.disableConfirmed),
      { s with
        flags := { s.flags with emergencyStopLatched := true, faultLatched := true } }.record .emergency)

/-- `estop` once its hold is prepared. -/
def estopHold : Program Unit := do
  let available ← withCommand .lifecycle (act .estopClear fun _ s =>
    (decide (s.arm.safe s.mode ≠ []), s.setArm s.arm.clearLastSent))
  if !available then .throw "emergency stop current-position hold is unavailable" else do
    let held ← sendSafeHoldOnce config .lifecycle
    if held then pure () else .throw "emergency stop initial hold failed"

/-- `estop`. -/
def estop : Program Unit := do
  let next ← act .estopLatch fun _ s => s.latchEstop
  match next with
  | none => pure ()
  | some (requiresHold, wasDisableConfirmed) => do
    enterFault config .lifecycle requiresHold
    if requiresHold then estopHold config else
      update (.estopRestore wasDisableConfirmed) fun _ s =>
        s.setFlags { s.flags with disableConfirmed := wasDisableConfirmed }

/-! ## motor_power_state -/

/-- The first section of `motor_power_state`; it says whether to refresh. -/
def SafetyRuntime.startMotorPower (s : SafetyRuntime) : Except String Bool × SafetyRuntime :=
  if s.state = .disconnected then (.error "cannot query motor power while disconnected", s)
  else if s.state = .ready ∨ s.state = .partiallyEnabled then
    (.ok true, s.setFlags { s.flags with hardwareTransition := true })
  else (.ok false, s)

/-- The last section of `motor_power_state`. -/
def SafetyRuntime.commitMotorPower (s : SafetyRuntime) (allDisabled : Bool) : SafetyRuntime :=
  s.setFlags { s.flags with
    state := if allDisabled then .ready else .partiallyEnabled
    disableConfirmed := allDisabled
    hardwareTransition := false }

/-- `motor_power_state` after its refresh. -/
def refreshedMotorPower (complete : Bool) : Program Unit :=
  if complete then do
    let all ← readMotorPower config config.handles
    update (.motorPowerCommit (all = .disabled)) fun _ s =>
      noteConfirmed s (s.commitMotorPower (all = .disabled))
  else do
    update .motorPowerFailed fun _ s => s.setFlags { s.flags with hardwareTransition := false }
    .throw "motor power feedback verification failed"

/-- `motor_power_state`. -/
def motorPowerState (role : Option Handle) : Program Unit :=
  if role.all config.handles.contains then do
    let refresh ← actThrow .motorPowerStart fun _ s => s.startMotorPower
    Proc.when refresh do
      let complete ← withCommand .lifecycle (requestAndValidate config)
      refreshedMotorPower config complete
  else .throw "unknown motor role"

/-! ## set_motor_power_batch -/

/-- The first section of `set_motor_power_batch`. -/
def SafetyRuntime.startBatch (s : SafetyRuntime) (selected : List Handle) (enabled : Bool) :
    Except String SafetyState × SafetyRuntime :=
  if s.state = .disconnected ∨ s.flags.stopping then
    (.error "motor power batch requires a connected Runtime", s)
  else if enabled ∧ ((s.state ≠ .ready ∧ s.state ≠ .partiallyEnabled) ∨ s.flags.faultLatched) then
    (.error "motor enable batch requires READY or PARTIALLY_ENABLED", s)
  else if enabled ∧ !config.canEnableMotor then (.error "motor enable batch is unavailable", s)
  else if s.flags.hardwareTransition then
    (.error "another Runtime hardware transaction is active", s)
  else (.ok s.state, { s with
    flags := { s.flags with hardwareTransition := true }
    arm := if enabled then s.arm.terminateTrajectory .cancelled
      else (s.arm.terminateTrajectory .cancelled).releaseOwners
    intentionallyDisabled := if enabled then s.intentionallyDisabled
      else selected ++ s.intentionallyDisabled })

/-- The `refresh` of `set_motor_power_batch`. -/
def batchRefresh : Program Bool := do
  let (complete, missing) ← requestFeedbackParallel config
  let valid ← validateFreshFeedbackSnapshot config missing
  pure (complete && valid)

/-- A selected motor whose initial state the batch accepts. -/
def batchReadable (i : Input) (enabled : Bool) (motor : Handle) : Bool :=
  reads i motor fun state => state.finitePos && (!enabled || state.statusCode ≤ 1)

/-- The selected motors read before the first one that is not accepted, and that one. -/
def batchRead (i : Input) (enabled : Bool) (selected : List Handle) : List Handle :=
  selected.takeWhile (batchReadable i enabled) ++
    (selected.dropWhile (batchReadable i enabled)).take 1

/-- What the preflight of a batch reads. -/
def preflightOutcome (selected : List Handle) (enabled : Bool) (i : Input) (now : ℕ) : BatchOutcome where
  ok := selected.all (batchReadable i enabled)
  since := now
  off := (batchRead i enabled selected).filter fun motor => reads i motor fun state => state.statusCode = 0
  refreshed := true

/-- The preflight of a batch: whether it succeeded, and what it read. -/
def batchPreflight (selected : List Handle) (enabled : Bool) : Program BatchOutcome := do
  let refreshed ← batchRefresh config
  if !refreshed then pure { ok := false } else
    lookAt .preflightRead fun i s => preflightOutcome selected enabled i s.now

/-- `selected_confirmed`. -/
def selectedConfirmed (selected : List Handle) (expectedEnabled : Bool) : Program Bool :=
  lookAt .selectedRead fun i _ => selected.all fun motor => fresh config i motor &&
    reads i motor fun state => state.statusCode = if expectedEnabled then 1 else 0

/-- Enable the motors one by one; the motors tried, and whether all were accepted. -/
def enableEach : List Handle → Program (List Handle × Bool)
  | [] => pure ([], true)
  | motor :: rest => do
    let accepted ← enableMotors [motor]
    if accepted then do
      let (tried, all) ← enableEach rest
      pure (motor :: tried, all)
    else pure ([motor], false)

/-- The current-position holds of a batch that enables: the positions of the preflight reading. -/
def batchHolds (selected : List Handle) (since : ℕ) : Program Bool := do
  let (pv, mit) ← look fun _ s =>
    let isMit := fun motor => s.mode = .mit || config.gripperMotors.any fun m => m.motor = motor
    (((selected.filter fun motor => !isMit motor).map fun motor => (⟨motor, since⟩ : Command)),
      (selected.filter isMit).map fun motor => (⟨motor, since⟩ : Command))
  let sent ← sendNonempty .powerHold 0 [] pv
  if sent then sendNonempty .powerHold 0 [] mit else pure false

/-- The confirmation of a batch that enables. -/
def batchEnableConfirm (selected : List Handle) (outcome : BatchOutcome) : Program BatchOutcome := do
  let held ← batchHolds config selected outcome.since
  if !held then pure { outcome with ok := false, refreshed := false } else
    let refreshed ← batchRefresh config
    if !refreshed then pure { outcome with ok := false, refreshed := false } else
      let confirmed ← selectedConfirmed config selected true
      pure { outcome with ok := confirmed, refreshed := true }

/-- The section in which a batch started in `READY` keeps the motors that it does not select. -/
def SafetyRuntime.insertDisabled (s : SafetyRuntime) (i : Input) : SafetyRuntime :=
  { s with intentionallyDisabled := (config.handles.filter fun motor => reads i motor fun state =>
    state.statusCode = 0) ++ s.intentionallyDisabled }

/-- The transaction of a batch that enables, after its preflight. -/
def batchEnable (selected : List Handle) (startedReady : Bool) (preflight : BatchOutcome) :
    Program BatchOutcome := do
  Proc.when startedReady (update .batchInsert fun i s => s.insertDisabled config i)
  let (tried, accepted) ← enableEach (selected.filter preflight.off.contains)
  let outcome := { preflight with attempted := tried, refreshed := preflight.refreshed && tried = [] }
  if accepted then batchEnableConfirm config selected outcome
  else pure { outcome with ok := false }

/-- The rollback of a batch that enables. -/
def batchRollback (outcome : BatchOutcome) : Program BatchOutcome := do
  let _ ← disableMotors outcome.attempted
  let refreshed ← batchRefresh config
  let confirmed ← selectedConfirmed config outcome.attempted false
  pure { outcome with refreshed, rollbackConfirmed := refreshed && confirmed }

/-- The rollback, where one is due. -/
def batchSettle (outcome : BatchOutcome) : Program BatchOutcome :=
  if !outcome.ok && outcome.attempted ≠ [] then batchRollback config outcome else pure outcome

/-- The second attempt of a batch that disables, for the motors that do not report disabled. -/
def batchDisableAgain (selected : List Handle) : Program (Bool × Bool) := do
  let again ← look fun i _ => selected.filter fun motor => !reads i motor fun state =>
    state.statusCode = 0
  let _ ← disableMotors again
  let refreshed ← batchRefresh config
  if !refreshed then pure (false, false) else
    let confirmed ← selectedConfirmed config selected false
    pure (true, confirmed)

/-- The first attempt of a batch that disables, and the second one where it is needed. -/
def batchDisableConfirm (selected : List Handle) : Program (Bool × Bool) := do
  let refreshed ← batchRefresh config
  if !refreshed then batchDisableAgain config selected else
    let confirmed ← selectedConfirmed config selected false
    if confirmed then pure (true, true) else batchDisableAgain config selected

/-- The transaction of a batch that disables, after its preflight. -/
def batchDisable (selected : List Handle) (preflight : BatchOutcome) : Program BatchOutcome := do
  let barrier ← establishDisableBarrier config
  let sent ← disableMotors selected
  let (refreshed, confirmed) ← batchDisableConfirm config selected
  pure { preflight with ok := barrier && sent && confirmed, refreshed }

/-- The transaction of a batch, under `command_mutex_`. -/
def batchTransaction (selected : List Handle) (enabled startedReady : Bool) : Program BatchOutcome := do
  let preflight ← batchPreflight config selected enabled
  if !preflight.ok then pure preflight
  else if enabled then do
    let outcome ← batchEnable config selected startedReady preflight
    batchSettle config outcome
  else batchDisable config selected preflight

/-- `preserve_abnormal_state`. -/
def preserveAbnormalState (enabled : Bool) (started : SafetyState) : Bool :=
  !enabled && (started = .degraded || started = .safeHold || started = .safeStop || started = .fault)

/-- The set of intentionally disabled motors after a batch. -/
def SafetyRuntime.batchDisabled (s : SafetyRuntime) (selected : List Handle) (enabled : Bool)
    (outcome : BatchOutcome) : List Handle :=
  if !enabled then s.intentionallyDisabled
  else if outcome.ok then s.intentionallyDisabled.filter fun motor => !selected.contains motor
  else outcome.off ++ s.intentionallyDisabled

/-- `rollback_safety_failure`. -/
def BatchOutcome.rollbackFailed (outcome : BatchOutcome) (enabled : Bool) : Bool :=
  enabled && !outcome.ok && outcome.attempted ≠ [] && !outcome.rollbackConfirmed

/-- The last section of `set_motor_power_batch`. -/
def SafetyRuntime.commitBatch (s : SafetyRuntime) (selected : List Handle) (enabled : Bool)
    (started : SafetyState) (outcome : BatchOutcome) (allDisabled motorFault : Bool) :
    SafetyRuntime :=
  let preserve := preserveAbnormalState enabled started
  let disabled := s.batchDisabled selected enabled outcome
  if outcome.rollbackFailed enabled then
    { s with
      flags := { s.flags with
        state := .fault
        faultLatched := true
        motorFaultLatched := s.flags.motorFaultLatched || motorFault
        disableConfirmed := false
        hardwareTransition := false }
      intentionallyDisabled := disabled }
  else if enabled ∧ outcome.ok ∧ !s.flags.faultLatched then
    { s with
      flags := { s.flags with
        state := .partiallyEnabled, disableConfirmed := false, hardwareTransition := false }
      intentionallyDisabled := if allDisabled then [] else disabled }
  else
    { s with
      flags := { s.flags with
        state := if preserve then started
          else if s.flags.faultLatched then s.state
          else if allDisabled then .ready else .partiallyEnabled
        disableConfirmed := allDisabled
        hardwareTransition := false }
      intentionallyDisabled :=
        if allDisabled ∧ preserve then config.handles ++ disabled
        else if allDisabled ∧ !s.flags.faultLatched then []
        else disabled }

/-- `set_motor_power_batch`, once its arguments are checked: the `success` of its report. -/
def motorPowerBatch (selected : List Handle) (enabled : Bool) : Program Bool := do
  let started ← actThrow (.batchStart selected enabled) fun _ s => s.startBatch config selected enabled
  let outcome ← withCommand .lifecycle
    (batchTransaction config selected enabled (started = .ready))
  let all ← readMotorPower config config.handles
  update (.batchCommit selected enabled started outcome (all = .disabled)) fun i s =>
    noteConfirmed s ((s.commitBatch config selected enabled started outcome (all = .disabled)
      (currentMotorFaultReported config i)).record .disturbed)
  pure outcome.ok

/-- `set_motor_power_batch`. -/
def setMotorPowerBatch (selected : List Handle) (enabled : Bool) : Program Bool :=
  if selected = [] then .throw "motor power batch requires at least one role"
  else if 32 < selected.length then .throw "motor power batch exceeds 32 roles"
  else if !selected.all config.handles.contains then .throw "unknown motor role"
  else if ¬ selected.Nodup then .throw "duplicate motor role"
  else motorPowerBatch config selected enabled

end Power

end MotorDrive.Runtime
