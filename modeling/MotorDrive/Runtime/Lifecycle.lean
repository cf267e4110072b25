import MotorDrive.Runtime.Power
import MotorDrive.Runtime.Commands

/-!
# Connecting, maintenance, recovery and closing

`connect`, `stop_worker` and `close` of `runtime.cpp`, the maintenance calls of
`runtime_maintenance.cpp` and `recover` of `runtime_enable.cpp`.  They run on the thread that holds
`lifecycle_mutex_`; only the last `finish_maintenance` of a `clear_faults` call that timed out runs
without it.
-/

namespace MotorDrive.Runtime

open SafetyRuntime

section Lifecycle

variable (config : RuntimeConfig)

/-! ## connect -/

/-- A system fault that `connect` may revalidate. -/
def SafetyRuntime.revalidates (s : SafetyRuntime) : Bool :=
  s.state = .fault && s.flags.faultLatched && !s.flags.emergencyStopLatched &&
    !s.flags.motorFaultLatched && !s.flags.hardwareTransition

/-- The first section of `connect`: `none` when there is nothing to do, else whether it revalidates a
system fault. -/
def SafetyRuntime.checkConnect (s : SafetyRuntime) (i : Input) :
    Except String (Option Bool) × SafetyRuntime :=
  if s.flags.stopping then
    (.error "Runtime was terminally disconnected and cannot reconnect", s)
  else if s.state ≠ .disconnected ∧ !s.revalidates then (.ok none, s)
  else if s.state ≠ .disconnected ∧ currentMotorFaultReported config i then
    (.ok none, s.setFlags { s.flags with motorFaultLatched := true })
  else if !config.gripperProfilesBound then
    (.error "built-in gripper product profile is required before connect", s)
  else (.ok (some (s.state ≠ .disconnected)), { s with
    flags := { s.flags with hardwareTransition := true }
    sides := fun side => { connected := config.activeSide side } })

/-- The section of a failed feedback transaction of `connect`. -/
def SafetyRuntime.failConnect (s : SafetyRuntime) : SafetyRuntime :=
  { s with
    flags := { s.flags with hardwareTransition := false }
    sides := fun side => if config.activeSide side then { s.sides side with connected := false }
      else s.sides side }

/-- The last section of `connect`. -/
def SafetyRuntime.commitConnect (s : SafetyRuntime) (faulted disabled : Bool) : SafetyRuntime :=
  { s with
    flags := { s.flags with
      motorFaultLatched := s.flags.motorFaultLatched || faulted
      state := if s.flags.emergencyStopLatched || s.flags.motorFaultLatched || faulted then .fault
        else .ready
      faultLatched := s.flags.emergencyStopLatched || s.flags.motorFaultLatched || faulted
      disableConfirmed := disabled
      hardwareTransition := false }
    sides := fun side => if config.activeSide side then { s.sides side with connected := true }
      else s.sides side }.record .disturbed

/-- `connect` after a complete transaction. -/
def connectVerified (revalidating : Bool) : Program Unit := do
  let (disabled, faulted) ← act .reading fun i s =>
    ((config.handles.all fun motor => reads i motor fun state => state.statusCode = 0,
      currentMotorFaultReported config i), s.record (readingOf config i))
  if revalidating && !faulted && !disabled then do
    update .connectNotDisabled fun _ s => s.setFlags { s.flags with
      disableConfirmed := false, hardwareTransition := false }
    .throw "system fault revalidation requires every motor to be disabled"
  else update (.connectCommit faulted disabled) fun _ s =>
    noteConfirmed s (s.commitConnect config faulted disabled)

/-- The feedback transaction of `connect` and what follows it. -/
def connectTransaction (revalidating : Bool) : Program Unit := do
  let (complete, missing) ← requestFeedbackParallel config
  let valid ← validateFreshFeedbackSnapshot config missing
  if complete && valid then connectVerified config revalidating else do
    update .connectFailed fun _ s => s.failConnect config
    .throw (if revalidating then "system fault revalidation failed"
      else "connect initial feedback transaction failed")

/-- `connect`. -/
def connect : Program Unit := do
  let started ← actThrow .connectCheck fun i s => s.checkConnect config i
  match started with
  | none => pure ()
  | some revalidating => connectTransaction config revalidating

/-! ## Maintenance -/

/-- The codes after which `finish_maintenance` latches a fault. -/
def OperationCode.latches : OperationCode → Bool
  | .transport | .feedback | .notDisabled | .motorCommand | .verification => true
  | .ok | .invalidState | .unsupported | .notStationary => false

/-- The section of `finish_maintenance`. -/
def SafetyRuntime.finishMaintenance (s : SafetyRuntime) (operation : Maintenance) (code : OperationCode)
    (latchFault motorFault : Bool) : SafetyRuntime :=
  if code = .ok then
    (s.setFlags { s.flags with
      state := .ready
      faultLatched := s.flags.faultLatched && operation ≠ .clearFaults
      motorFaultLatched := s.flags.motorFaultLatched && operation ≠ .clearFaults
      disableConfirmed := true
      hardwareTransition := false }).record .disturbed
  else if latchFault then
    (s.setFlags { s.flags with
      state := .fault
      faultLatched := true
      motorFaultLatched := s.flags.motorFaultLatched || motorFault
      disableConfirmed := false
      hardwareTransition := false }).record .disturbed
  else s.setFlags { s.flags with hardwareTransition := false }

/-- `finish_maintenance`. -/
def finishMaintenance (operation : Maintenance) (code : OperationCode) (latchFault : Bool) :
    Program Unit :=
  update (.finishMaintenance operation code latchFault) fun i s =>
    noteConfirmed s (s.finishMaintenance operation code latchFault (currentMotorFaultReported config i))

/-- The section of `maintenance_precheck`. -/
def SafetyRuntime.precheckMaintenance (s : SafetyRuntime) (operation : Maintenance) :
    Bool × SafetyRuntime :=
  if (s.state = .ready ∨ operation = .clearFaults ∧ s.state = .fault ∧
      !s.flags.emergencyStopLatched) ∧ !s.flags.hardwareTransition then
    (true, s.setFlags { s.flags with hardwareTransition := true })
  else (false, s)

/-- What `maintenance_precheck` says of one motor, if it does not pass. -/
def precheckMotor (i : Input) (operation : Maintenance) (motor : Handle) : Option OperationCode :=
  match i.states motor with
  | none => some .feedback
  | some state =>
    if operation ≠ .clearFaults ∧ state.statusCode ≠ 0 then some .notDisabled
    else if !state.finiteVel then some .feedback
    else if operation = .setZero ∧ !state.stationary then some .notStationary
    else none

/-- `maintenance_precheck`. -/
def maintenancePrecheck (operation : Maintenance) : Program OperationCode := do
  let started ← act (.maintenancePrecheck operation) fun _ s => s.precheckMaintenance operation
  if !started then pure .invalidState else
    let transports ← refreshTransportHealth config
    if !transports then pure .transport else
      let valid ← requestAndValidate config
      if !valid then pure .feedback else
        look fun i _ =>
          (config.handles.findSome? (precheckMotor i operation)).getD .ok

/-- The backend supplies what the operation calls. -/
def supported : Maintenance → Bool
  | .configureMode => config.canEnsureMode
  | .clearFaults => config.canClearError
  | .setZero => config.canSetZero

/-- The operation itself: `configure_hardware_mode`, or `clear_error` or `set_zero`, of every motor. -/
def applyMaintenance (operation : Maintenance) : Program OperationCode :=
  if supported config operation then do
    let applied ← lookAt (.applyMaintenance operation) fun i _ => config.handles.all i.accepts
    pure (if applied then .ok else .motorCommand)
  else pure .unsupported

/-- A motor that passes the verification of `run_motor_maintenance`. -/
def verified (i : Input) (operation : Maintenance) (motor : Handle) : Bool :=
  reads i motor fun state => state.statusCode = 0 && state.finiteVel &&
    (operation ≠ .setZero || state.stationary && state.finitePos && state.zeroed)

/-- The verification of `run_motor_maintenance`. -/
def verifyMaintenance (operation : Maintenance) : Program OperationCode := do
  let valid ← requestAndValidate config
  if !valid then pure .feedback else
    act .reading fun i s =>
      (if config.handles.all (verified i operation) then .ok else .verification,
        s.record (readingOf config i))

/-- The steps of `run_motor_maintenance` up to its code. -/
def maintenanceSteps (operation : Maintenance) : Program OperationCode := do
  let precheck ← maintenancePrecheck config operation
  if precheck ≠ .ok then pure precheck else
    let applied ← applyMaintenance config operation
    if applied ≠ .ok then pure applied else verifyMaintenance config operation

/-- `run_motor_maintenance`. -/
def runMotorMaintenance (operation : Maintenance) (mode : Option ControlMode) :
    Program OperationCode :=
  withCommand .lifecycle do
    let code ← maintenanceSteps config operation
    Proc.when (code = .ok) (update (.modeWrite mode) fun _ s => { s with mode := mode.getD s.mode })
    finishMaintenance config operation code code.latches
    pure code

/-- `configure_mode`. -/
def configureMode (mode : ControlMode) : Program Unit := do
  let _ ← runMotorMaintenance config .configureMode (some mode)

/-- `set_zero`. -/
def setZero : Program Unit := do
  let _ ← runMotorMaintenance config .setZero none

/-- One attempt of `clear_faults`.  It releases `lifecycle_mutex_` between attempts; after one that may
be retried the deadline may have passed. -/
def clearFaults : Program Unit := do
  let code ← runMotorMaintenance config .clearFaults none
  Proc.when (code = .feedback || code = .verification) (update .retryPark fun i s =>
    if i.ok then { s with retries := s.retries + 1 }.record .parked else s)

/-- The end of a `clear_faults` call that timed out.  `finish_maintenance` does the same for the two
codes that its last attempt can have. -/
def clearFaultsTimeout : Program Unit :=
  actWhen .retryTimeout (fun s => s.retries ≠ 0) fun i s =>
    ((), { s with retries := s.retries - 1 }.finishMaintenance .clearFaults .feedback true
      (currentMotorFaultReported config i))

/-! ## recover -/

/-- The commands that `recover` drops before its first action and when it fails. -/
def SafetyRuntime.dropCommands (s : SafetyRuntime) : SafetyRuntime :=
  { s with
    arm := { s.arm.clearSafe.clearLastSent.clearMailboxes with faultHoldActive := false }
    grippers := { s.grippers with safeGrippers := [] } }

/-- The section in which `fail_recovery` latches the fault. -/
def SafetyRuntime.failRecover (s : SafetyRuntime) (motorFault : Bool) : SafetyRuntime :=
  { s with
    flags := { s.flags with
      state := .fault
      faultLatched := true
      motorFaultLatched := s.flags.motorFaultLatched || motorFault
      hardwareTransition := true }
    recovering := false }.record .disturbed

/-- `fail_recovery`. -/
def failRecovery (error : String) : Program Unit := do
  withCommand .lifecycle (update .recoverFailClear fun _ s => s.dropCommands)
  update .recoverFailFault fun i s => s.failRecover (currentMotorFaultReported config i)
  let disabled ← disableHardware config .lifecycle
  update (.recoverFailed disabled) fun _ s => noteConfirmed s (s.setFlags { s.flags with
    state := .fault
    faultLatched := true
    disableConfirmed := disabled
    hardwareTransition := false
    enableTransaction := false })
  .throw error

/-- The first section of `recover`. -/
def SafetyRuntime.startRecover (s : SafetyRuntime) : Except String Bool :=
  if s.flags.stopping then .error "recover cannot use a terminally disconnected Runtime"
  else if s.flags.hardwareTransition then
    .error "recover cannot overlap another hardware transaction"
  else .ok (s.state = .disconnected)

/-- `recover` freezes the worker and disables the product. -/
def recoverDisable (connectFirst : Bool) : Program Unit := do
  Proc.when connectFirst (connect config)
  update .recoverFreeze fun _ s => (s.setFlags { s.flags with
    state := .fault, faultLatched := true, hardwareTransition := true }).record .disturbed
  withCommand .lifecycle (update .recoverClear fun _ s =>
    s.dropCommands.setArm s.dropCommands.arm.releaseOwners)
  let disabled ← disableHardware config .lifecycle
  if disabled then
    update .recoverConfirmed fun _ s => noteConfirmed s (s.setFlags { s.flags with
      disableConfirmed := true })
  else .throw "recover failed during initial disable"

/-- Every arm motor has a finite position. -/
def positionsKnown (i : Input) : Bool :=
  config.armMotors.all fun motor => reads i motor.motor fun state => state.finitePos

/-- `recover` configures the mode and reads the positions. -/
def recoverMode : Program Unit :=
  if !config.canEnsureMode then .throw "recover failed during configure control mode" else do
    let configured ← ask
    if !configured then .throw "recover failed during configure control mode" else
      let known ← look fun i _ => positionsKnown config i
      if known then pure () else .throw "calibrated position is unavailable"

/-- `recover` reads the health of the disabled product. -/
def recoverHealth : Program Unit := do
  let transports ← refreshTransportHealth config
  if !transports then .throw "recover failed during dual-arm health validation" else
    let (complete, missing) ← requestFeedbackParallel config
    if !complete then .throw "recover failed during dual-arm health validation" else
      let healthy ← refreshFeedbackHealth config true missing
      if !healthy then .throw "recover failed during dual-arm health validation" else
        recoverMode config

/-- `recover` clears the motor faults. -/
def recoverFaults : Program Unit :=
  if !config.canClearError then .throw "native clear-fault callback is unavailable" else do
    let cleared ← ask
    if cleared then
      update .recoverFaultsCleared fun _ s => s.setFlags { s.flags with motorFaultLatched := false }
    else .throw "recover failed during clear recoverable faults"

/-- An arm motor that has reached its calibrated zero. -/
def reachedZero (i : Input) (motor : Handle) : Bool :=
  fresh config i motor && reads i motor fun state => state.statusCode = 1 && state.finitePos &&
    state.finiteVel && state.zeroed && state.stationary

/-- The homing loop of `recover`, for as many turns as the deadline leaves. -/
def homing : ℕ → Bool → Program Unit
  | 0, reached =>
    if reached then pure () else .throw "timed out waiting for all arm joints to reach calibrated zero"
  | n + 1, _ => do
    let (complete, _) ← requestFeedbackParallel config
    if !complete then .throw "recover failed during calibrated-zero return feedback" else
      let stopped ← look fun _ s =>
        s.state = .fault || s.state = .safeStop || s.state = .degraded
      if stopped then .throw "Runtime stopped during calibrated-zero return" else
        let reached ← lookAt .zeroRead fun i _ =>
          config.armMotors.all fun motor => reachedZero config i motor.motor
        if reached then pure () else homing n false

/-- The section in which `recover` drops the latch to home the robot. -/
def SafetyRuntime.readyRecover (s : SafetyRuntime) : SafetyRuntime :=
  { s with
    flags := { s.flags with
      state := .ready
      faultLatched := false
      motorFaultLatched := false
      disableConfirmed := true
      hardwareTransition := false }
    recovering := true }.record .disturbed

/-- The last section of `recover`. -/
def SafetyRuntime.commitRecover (s : SafetyRuntime) : SafetyRuntime :=
  { s with
    flags := { s.flags with
      state := .ready
      faultLatched := false
      motorFaultLatched := false
      emergencyStopLatched := false
      disableConfirmed := true }
    progress := { s.progress with consecutiveSendFailures := 0, consecutiveFeedbackFailures := 0 }
    recovering := false }.record .recovered

/-- `recover` enables, homes and disables the product. -/
def recoverMotion : Program Unit := do
  let mode ← look fun _ s => s.mode
  enable config mode
  installJointPosition config .lifecycle mode 0 false
  let turns ← lookAt .homingClock fun i _ => i.budget
  homing config turns true
  disable config

/-- `recover` drops the latch, homes the product and completes. -/
def recoverHome : Program Unit := do
  update .recoverReady fun _ s => noteConfirmed s s.readyRecover
  recoverMotion config
  update .recoverDone fun _ s => noteConfirmed s s.commitRecover

/-- `recover` after its first section. -/
def recoverSteps (connectFirst : Bool) : Program Unit := do
  recoverDisable config connectFirst
  recoverFaults config
  recoverHealth config
  recoverHome config

/-- `recover`: every failure after the first section ends in `fail_recovery`. -/
def recover : Program Unit := do
  let connectFirst ← lookThrow fun _ s => s.startRecover
  Proc.tryCatch (recoverSteps config connectFirst) fun error => failRecovery config error

/-! ## close -/

/-- `close` has to disable first. -/
def SafetyRuntime.needsDisable (s : SafetyRuntime) : Bool :=
  s.state ≠ .disconnected && (!s.flags.disableConfirmed || s.state.commanding ||
    s.state = .safeHold || s.state = .safeStop)

/-- The first section of `close`: `none` when it has been made before. -/
def SafetyRuntime.checkClose (s : SafetyRuntime) : Option Bool :=
  if s.flags.stopping then none else some s.needsDisable

/-- The first section of `stop_worker`. -/
def SafetyRuntime.startStop (s : SafetyRuntime) : SafetyRuntime :=
  { s with
    flags := { s.flags with stopping := true, enableGraceTransition := false }
    arm := { (s.arm.terminateTrajectory .cancelled).clearMailboxes.releaseOwners with
      faultHoldActive := false }
    progress := { s.progress with firstCommandAccepted := false, activeCommandPlanningToken := 0 } }

/-- The last section of `stop_worker`. -/
def SafetyRuntime.commitStop (s : SafetyRuntime) : SafetyRuntime :=
  { s with
    flags := { s.flags with state := .disconnected }
    sides := fun side => { s.sides side with connected := false } }

/-- `stop_worker`; it joins the worker. -/
def stopWorker : Program Unit := do
  update .stopStart fun _ s => s.startStop
  actWhen .workerJoin (fun s => s.workerExited) fun _ s => ((), s)
  update .stopDone fun _ s => s.commitStop

/-- The disable of `close`; its error is thrown after the worker has stopped. -/
def closeDisable (needed : Bool) : Program (Option String) :=
  Proc.tryCatch (do
    Proc.when needed (disable config)
    pure none) fun error => pure (some error)

/-- `close`. -/
def close : Program Unit := do
  let needed ← lookAt .closeCheck fun _ s => s.checkClose
  match needed with
  | none => pure ()
  | some needed => do
    let failure ← closeDisable config needed
    stopWorker
    match failure with
    | none => pure ()
    | some error => .throw error

end Lifecycle

end MotorDrive.Runtime
