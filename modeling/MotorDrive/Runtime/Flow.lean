import MotorDrive.Library.Flow
import MotorDrive.Runtime.System

/-!
# Where the threads of the Runtime are

`effect config t site` is what the section `site` does to the state when thread `t` runs it.  `Local`
is what a thread carries from section to section: the mutexes it holds, the transaction it is in, and
what it has read.  `runtimeFlow` puts the two together, with the local states at which each section may
be taken.
-/

namespace MotorDrive.Runtime

open Threads SafetyRuntime

section Effect

variable (config : RuntimeConfig) (t : Thread)

/-- What a section does, after its tick. -/
def effect : Site → Input → SafetyRuntime → SafetyRuntime
  | .look, _, s | .closeCheck, _, s | .workerJoin, _, s | .holdCapture, _, s | .holdSnapshot, _, s
  | .holdCheck, _, s | .gripperSnapshot, _, s | .gripperSendable, _, s | .safeHoldRead, _, s
  | .gravityCheck, _, s | .stopGravityCheck, _, s | .bimanualCheck, _, s | .ownerRead, _, s
  | .cycleStart, _, s | .gripperPrepare, _, s | .gravityRead, _, s | .preflightRead, _, s
  | .selectedRead, _, s | .enabledRead, _, s | .homingClock, _, s | .zeroRead, _, s | .disableMotors _, _, s
  | .applyMaintenance _, _, s | .drain, _, s => s
  | .call, _, s => { s with lifecycleLocked := true }.record .call
  | .returned, _, s => { s with lifecycleLocked := false }
  | .lock, _, s => { s with commandOwner := some t }
  | .unlock, _, s => { s with commandOwner := none }
  | .feedback, i, s => s.record (.feedback (requestComplete config i)
      (missingOn config i 0 ++ missingOn config i 1))
  | .transport, i, s => { s with
      sides := fun side => if config.activeSide side then i.sides side else s.sides side }
  | .reading, i, s => s.record (readingOf config i)
  | .validate missing, i, s => { s with progress := { s.progress with
      consecutiveFeedbackFailures := if config.motors.all (snapshotValid config i missing) then 0
        else s.progress.consecutiveFeedbackFailures } }.record (readingOf config i)
  | .confirmRead _ _, i, s => s.record (readingOf config i)
  | .healthRead _, i, s => s.record (readingOf config i)
  | .healthWrite healthy faults, _, s => s.writeHealth healthy faults
  | .send path _ _ commands, _, s =>
    s.record (.frame path s.freshFrom s.restFrom s.intentionallyDisabled commands)
  | .connectCheck, i, s => (s.checkConnect config i).2
  | .connectFailed, _, s => s.failConnect config
  | .connectNotDisabled, _, s => s.setFlags { s.flags with
      disableConfirmed := false, hardwareTransition := false }
  | .connectCommit faulted disabled, _, s =>
    noteConfirmed s (s.commitConnect config faulted disabled)
  | .enableCheck, _, s => s.checkEnable.2
  | .enableHoldSent, _, s => s.setFlags { s.flags with hardwareTransition := false }
  | .enableDone, _, s => s.setFlags { s.flags with enableTransaction := false }
  | .enableFailed, i, s => s.failEnable (currentMotorFaultReported config i)
  | .enableAbandoned, _, s => s.setFlags { s.flags with
      hardwareTransition := false, enableTransaction := false }
  | .enableSeed mode requireEnabled, i, s => (s.seedMailbox config mode requireEnabled i).2
  | .enableMotors motors, _, s => s.record (.enabled motors)
  | .initializeEnabled mode since, _, s => s.initializeEnabled mode since
  | .seedGrippers activate, i, s => s.seedGrippers config activate i
  | .initialHoldSent mode commands, _, s => s.setArm (s.arm.setLastSent mode s.now commands)
  | .enableRolledBack disabled, _, s => noteConfirmed s (s.setFlags { s.flags with
      disableConfirmed := disabled, hardwareTransition := false, enableTransaction := false })
  | .disableStart, _, s => s.startDisable.2
  | .disableCommit confirmed preserveFault, i, s =>
    noteConfirmed s (s.commitDisable confirmed preserveFault (currentMotorFaultReported config i))
  | .estopLatch, _, s => s.latchEstop.2
  | .estopClear, _, s => s.setArm s.arm.clearLastSent
  | .estopRestore confirmed, _, s => s.setFlags { s.flags with disableConfirmed := confirmed }
  | .motorPowerStart, _, s => s.startMotorPower.2
  | .motorPowerFailed, _, s => s.setFlags { s.flags with hardwareTransition := false }
  | .motorPowerCommit allDisabled, _, s => noteConfirmed s (s.commitMotorPower allDisabled)
  | .batchStart selected enabled, _, s => (s.startBatch config selected enabled).2
  | .batchInsert, i, s => s.insertDisabled config i
  | .batchCommit selected enabled started outcome allDisabled, i, s =>
    noteConfirmed s ((s.commitBatch config selected enabled started outcome allDisabled
      (currentMotorFaultReported config i)).record .disturbed)
  | .maintenancePrecheck operation, _, s => (s.precheckMaintenance operation).2
  | .modeWrite mode, _, s => { s with mode := mode.getD s.mode }
  | .finishMaintenance operation code latchFault, i, s =>
    noteConfirmed s (s.finishMaintenance operation code latchFault (currentMotorFaultReported config i))
  | .retryPark, i, s => if i.ok then { s with retries := s.retries + 1 }.record .parked else s
  | .retryTimeout, i, s => { s with retries := s.retries - 1 }.finishMaintenance .clearFaults .feedback
      true (currentMotorFaultReported config i)
  | .recoverFreeze, _, s => (s.setFlags { s.flags with
      state := .fault, faultLatched := true, hardwareTransition := true }).record .disturbed
  | .recoverClear, _, s => s.dropCommands.setArm s.dropCommands.arm.releaseOwners
  | .recoverConfirmed, _, s =>
    noteConfirmed s (s.setFlags { s.flags with disableConfirmed := true })
  | .recoverFaultsCleared, _, s => s.setFlags { s.flags with motorFaultLatched := false }
  | .recoverReady, _, s => noteConfirmed s s.readyRecover
  | .recoverDone, _, s => noteConfirmed s s.commitRecover
  | .recoverFailClear, _, s => s.dropCommands
  | .recoverFailFault, i, s => s.failRecover (currentMotorFaultReported config i)
  | .recoverFailed disabled, _, s => noteConfirmed s (s.setFlags { s.flags with
      state := .fault
      faultLatched := true
      disableConfirmed := disabled
      hardwareTransition := false
      enableTransaction := false })
  | .stopStart, _, s => s.startStop
  | .stopDone, _, s => s.commitStop
  | .holdInstall hold, _, s => s.installHold hold
  | .safeHoldInstall _ mode commands, _, s => (s.enterSafeHold mode commands).2
  | .gripperHoldWrite commands, _, s =>
    { s with grippers := { s.grippers with safeGrippers := commands } }
  | .enterFault allowProtectiveHold armHoldAvailable, i, s =>
    s.enterFault allowProtectiveHold armHoldAvailable (currentMotorFaultReported config i)
  | .enterSafeStop, _, s => s.enterSafeStop.2
  | .enterDegraded, _, s => s.enterDegraded
  | .submit mode streaming, _, s => (s.submit config mode streaming).2
  | .install mode planningToken client, i, s => (s.install config mode planningToken client i).2
  | .beginPlanning allowTrajectory, _, s => (s.beginPlanning allowTrajectory).2
  | .cancelPlanning token, _, s => s.cancelPlanning token
  | .trajectoryStart mode enqueue replace planningToken, _, s =>
    (s.startTrajectory config mode enqueue replace planningToken).2
  | .cancelMotion id, i, s => (s.cancelMotion id i).2
  | .cancelAllMotions, _, s => s.setArm (s.arm.terminateTrajectory .cancelled)
  | .gripperInstall, _, s => (s.installGrippers config).2
  | .rawGripperAccept, _, s => s.acceptRawGripper.2
  | .sendFailed, _, s => { s with progress := { s.progress with
      consecutiveSendFailures := s.progress.consecutiveSendFailures + 1 } }
  | .rawGripperSent motors, _, s => { s with grippers := { s.grippers with
      safeGrippers := rememberGrippers s.grippers.safeGrippers motors s.now } }
  | .gravityStart since, i, s => s.startGravity since i.time
  | .gravityStop since, _, s => s.setArm { s.arm with gravity := ⟨.exiting, since⟩ }
  | .bimanualStart since, i, s => s.startBimanual since i.time
  | .bimanualStop since, _, s => (s.stopBimanual config since).2
  | .workerWait, _, s => s.wake.2
  | .workerDecide, i, s => (s.decide config i.due i.time).2
  | .trajectoryUpdate, i, s => s.updateTrajectory i
  | .cycleFailed, _, s => { s with progress := { s.progress with
      consecutiveSendFailures := s.progress.consecutiveSendFailures + 1 } }
  | .faultTrajectory, _, s => s.setArm (s.arm.terminateTrajectory .fault)
  | .trajectoryCycle _, i, s => (s.trajectoryCycle i).2
  | .consumePending _, _, s => s.setArm s.arm.consumePending
  | .cyclePrepare snapshot, i, s => (s.advanceArm config snapshot i).2
  | .cycleSent mode time frame, _, s => s.commitCycle mode time frame
  | .gravitySent cycle, _, s => s.commitGravity cycle
  | .gripperSent time commands, _, s => s.commitGrippers time commands
  | .feedbackFailed, i, s => (s.feedbackFailed config i.severe).2
  | .readyWrite, _, s => { s with progress := { s.progress with
      consecutiveFeedbackFailures := s.progress.consecutiveFeedbackFailures + 1 } }
  | .holdFailed, _, s => (s.holdFailed config).2
  | .holdSucceeded, _, s => { s with progress := { s.progress with consecutiveHoldFailures := 0 } }

/-- What a section leaves. -/
def after (site : Site) (i : Input) (s : SafetyRuntime) : SafetyRuntime :=
  noteCleared site s (effect config t site i s.tick)

end Effect

/-! ## Local states -/

/-- The transaction that a thread is in the middle of. -/
inductive Stage
  | idle
  | connecting (revalidating : Bool)
  | enabling (since : ℕ) (seeded : Bool)
  | confirming (sent : Bool)
  | rollingBack
  | disabling (preserveFault : Bool)
  | estopping
  | powering
  | batching (selected : List Handle) (enabled : Bool) (started : SafetyState)
  | maintaining (operation : Maintenance)
  | failed
  | starting
  | releasing
  | closing
  | stopping
  | degrading
  deriving DecidableEq, Repr

/-- How far `recover` is. -/
inductive Recovery
  | none | frozen | cleared | homing | failing
  deriving DecidableEq, Repr

/-- What the feedback of a call has shown so far: a complete transaction, fresh feedback of every motor
since, every motor disabled since.  `doubtful` is a confirmation without a complete transaction. -/
inductive Evidence
  | none | fed | validated | proved | doubtful
  deriving DecidableEq, Repr

/-- The local state of a thread: the mutexes it holds, its transaction, whether it has held
`command_mutex_` since the transaction began, whether it has found the Runtime connected or at rest, and
what it has captured from the state. -/
structure Local where
  locked : Bool := false
  command : Bool := false
  stage : Stage := .idle
  recovery : Recovery := .none
  drained : Bool := false
  prechecked : Bool := false
  settled : Bool := false
  evidence : Evidence := .none
  hold : Option Hold := none
  held : Option HoldSnapshot := none
  gripped : Option GripperSnapshot := none
  sendable : List Command := []
  cycle : Option CycleSnapshot := none
  frame : Option ArmFrame := none
  gravity : Option GravityCycle := none
  batch : GripperBatch := {}
  read : ℕ := 0

/-- Every motor is fresh. -/
def allFresh (config : RuntimeConfig) (i : Input) : Bool := config.handles.all (fresh config i)

/-- Every motor reports disabled. -/
def allDisabled (config : RuntimeConfig) (i : Input) : Bool :=
  config.handles.all fun motor => reads i motor fun state => state.statusCode = 0

namespace Evidence

/-- What a reading of the motors adds. -/
def read (config : RuntimeConfig) (i : Input) : Evidence → Evidence
  | .fed => if allFresh config i then (if allDisabled config i then .proved else .validated) else .fed
  | .validated => if allDisabled config i then .proved else .validated
  | evidence => evidence

/-- What a reading of `confirm_until_deadline` adds. -/
def confirm (config : RuntimeConfig) (i : Input) (complete : Bool) (missing : List MissingMotor)
    (evidence : Evidence) : Evidence :=
  if config.motors.any (unconfirmed config i complete missing) then evidence.read config i
  else if evidence = .none ∨ evidence = .doubtful then .doubtful else .proved

/-- The call may say that every motor is disabled. -/
def claims : Evidence → Bool
  | .proved | .doubtful => true
  | _ => false

end Evidence

namespace Local

def lock (φ : Local) : Local := { φ with command := true, drained := true }

/-- What is captured under `command_mutex_` is dropped with it, and so is a start that was refused. -/
def unlock (φ : Local) : Local :=
  { φ with
    command := false
    stage := if φ.stage = .starting ∨ φ.stage = .releasing then .idle else φ.stage
    cycle := none
    frame := none
    gravity := none }

/-- A transaction begins. -/
def enter (φ : Local) (stage : Stage) : Local := { φ with stage, drained := false }

/-- What a cycle has captured is of no use any more. -/
def drop (φ : Local) : Local := { φ with cycle := none, frame := none, gravity := none }

/-- The transaction is over. -/
def leave (φ : Local) : Local := { φ.drop with stage := .idle, settled := false }

/-- The grippers that the hold of the snapshot still commands. -/
def sendableAt (config : RuntimeConfig) (φ : Local) (i : Input) (now : ℕ) : List Command :=
  φ.gripped.elim [] fun snapshot =>
    sendableGrippers config i now snapshot.disabled snapshot.commands

/-- What a section does to the local state, given the state after its tick. -/
def step (config : RuntimeConfig) (φ : Local) (site : Site) (i : Input) (s : SafetyRuntime) : Local :=
  match site with
  | .call => { φ with locked := true, evidence := .none, prechecked := false, settled := false }
  | .returned => { φ with locked := false, stage := .idle }
  | .lock => φ.lock
  | .unlock => φ.unlock
  | .feedback => { φ with evidence := if requestComplete config i then .fed else .none }
  | .reading | .validate _ | .healthRead _ => { φ with evidence := φ.evidence.read config i }
  | .confirmRead complete missing =>
    { φ with evidence := φ.evidence.confirm config i complete missing }
  | .send _ _ _ _ | .enableMotors _ => { φ with evidence := .none }
  | .connectCheck =>
    match (s.checkConnect config i).1 with
    | .ok (some revalidating) => φ.enter (.connecting revalidating)
    | _ => φ
  | .connectFailed | .connectNotDisabled | .connectCommit _ _ | .enableDone | .enableAbandoned
  | .enableRolledBack _ | .motorPowerFailed | .motorPowerCommit _ | .batchCommit _ _ _ _ _
  | .gravityStart _ | .bimanualStart _ | .gravityStop _ | .stopDone | .enterFault _ _ | .enterDegraded =>
    φ.leave
  | .enableCheck =>
    match s.checkEnable.1 with
    | .ok since => φ.enter (.enabling since false)
    | .error _ => φ
  | .enableSeed mode requireEnabled =>
    match (s.seedMailbox config mode requireEnabled i).1, φ.stage with
    | .ok _, .enabling since _ => { φ with stage := .enabling since true }
    | _, _ => φ
  | .initializeEnabled _ _ => { φ with stage := .confirming false, settled := false }
  | .enableHoldSent => { φ with stage := .confirming true }
  | .enableFailed => { φ with stage := .rollingBack }
  | .disableStart =>
    match s.startDisable.1 with
    | .ok preserveFault => φ.enter (.disabling preserveFault)
    | .error _ => { φ with settled := true }
  | .disableCommit _ _ => { φ with stage := .idle, settled := true }
  | .estopLatch => if s.latchEstop.1.isSome then φ.enter .estopping else φ
  | .motorPowerStart =>
    match s.startMotorPower.1 with
    | .ok true => φ.enter .powering
    | _ => φ
  | .batchStart selected enabled =>
    match (s.startBatch config selected enabled).1 with
    | .ok started => φ.enter (.batching selected enabled started)
    | .error _ => φ
  | .maintenancePrecheck operation =>
    if (s.precheckMaintenance operation).1 then
      { φ with stage := .maintaining operation, prechecked := true }
    else φ
  | .finishMaintenance _ _ latchFault => if latchFault then { φ.leave with stage := .failed } else φ.leave
  | .recoverFreeze => { φ with recovery := .frozen, drained := false }
  | .recoverClear => { φ with recovery := .cleared }
  | .recoverReady => { φ with recovery := .homing }
  | .recoverFailFault => { φ with recovery := .failing, drained := false }
  | .recoverDone | .recoverFailed _ => { φ with recovery := .none }
  | .closeCheck => { φ with settled := s.checkClose = some false }
  | .stopStart => φ.enter .closing
  | .holdCapture => { φ with hold := some (captureHold config i s) }
  | .holdInstall _ => { φ with hold := none }
  | .holdSnapshot => { φ with held := snapshotHold s }
  | .gripperSnapshot => { φ with gripped := some s.gripperSnapshot, sendable := [] }
  | .gripperSendable => { φ with sendable := φ.sendableAt config i s.now }
  | .safeHoldRead | .ownerRead => { φ with read := s.now }
  | .enterSafeStop => if s.enterSafeStop.1 then φ.leave else φ.drop
  | .safeHoldInstall _ _ _ => φ.drop
  | .gravityCheck => if s.checkGravity.isOk then φ.enter .starting else φ
  | .stopGravityCheck => if s.checkStopGravity.toOption = some true then φ.enter .releasing else φ
  | .bimanualCheck => if (s.checkBimanual config).isOk then φ.enter .starting else φ
  | .workerDecide => if (s.decide config i.due i.time).1.graceFault ∨
      (s.decide config i.due i.time).1.commandTimeout then φ.enter .stopping else φ
  | .cycleStart => { φ.drop with cycle := cycleSnapshot s, batch := {} }
  | .gripperPrepare => { φ with batch := (s.gripperBatch config i).getD {} }
  | .cyclePrepare snapshot => { φ with frame := (s.advanceArm config snapshot i).1.frame? }
  | .gravityRead => { φ with gravity :=
      if s.arm.gravity.phase = .inactive then none else gravityCycle config i s }
  | .feedbackFailed =>
    match (s.feedbackFailed config i.severe).1 with
    | .fault | .safeStop => φ.enter .stopping
    | .degraded => φ.enter .degrading
    | .none => φ
  | .holdFailed => if (s.holdFailed config).1 then φ.enter .stopping else φ
  | _ => φ

-- The equations of the two large functions are generated here, once for all proofs.
attribute [local simp] effect Local.step

/-- The thread is in a lifecycle call. -/
def calls (φ : Local) (t : Thread) : Prop := t = .lifecycle ∧ φ.locked = true

/-- The thread may begin a transaction of a lifecycle call. -/
def begins (φ : Local) (t : Thread) : Prop := φ.calls t ∧ φ.stage = .idle ∧ φ.recovery = .none

/-- The thread is in its transaction under `command_mutex_`. -/
def holds (φ : Local) (t : Thread) (stage : Stage) : Prop :=
  φ.calls t ∧ φ.command = true ∧ φ.stage = stage

/-- A client or the worker, under `command_mutex_`. -/
def serves (φ : Local) (t : Thread) : Prop := t ≠ .lifecycle ∧ φ.command = true

/-- The worker in a control cycle. -/
def cycles (φ : Local) (t : Thread) (gravity : Bool) (cycle : CycleSnapshot) : Prop :=
  t = .worker ∧ φ.command = true ∧ φ.cycle = some cycle ∧ cycle.gravityActive = gravity

/-- The frame that a path may send at a local state. -/
def sends (φ : Local) (t : Thread) (path : Path) (since : ℕ) (disabled : List Handle)
    (commands : List Command) : Prop :=
  match path with
  | .initialHold => φ.calls t ∧ φ.stage = .confirming false
  | .powerHold => φ.calls t ∧ ∃ selected started, φ.stage = .batching selected true started
  | .armCycle => ∃ cycle frame, φ.cycles t false cycle ∧ φ.frame = some frame ∧
      since = cycle.since ∧ disabled = φ.batch.filters cycle.disabled ∧
      commands = φ.batch.commands ++ frame.commands
  | .gravityCycle => ∃ snapshot cycle, φ.cycles t true snapshot ∧ φ.gravity = some cycle ∧
      since = cycle.since ∧ disabled = φ.batch.filters cycle.disabled ∧
      commands = φ.batch.commands ++ cycle.commands
  | .gripperControl => t = .worker ∧ since = φ.batch.since ∧ disabled = φ.batch.disabled ∧
      commands = φ.batch.commands
  | .rawGripper => t ≠ .lifecycle ∧ disabled = []
  | .armHold => ∃ snapshot, φ.held = some snapshot ∧ since = snapshot.since ∧
      disabled = snapshot.disabled ∧ ∀ c ∈ commands, c ∈ addressable snapshot.disabled snapshot.commands
  | .gripperHold => ∃ snapshot, φ.gripped = some snapshot ∧ since = snapshot.since ∧
      disabled = snapshot.disabled ∧ ∀ c ∈ commands, c ∈ φ.sendable

/-- A section may be taken at a local state. -/
def fits (φ : Local) (t : Thread) : Site → Prop
  | .look | .feedback | .transport | .reading | .validate _ | .confirmRead _ _ | .healthRead _
  | .healthWrite _ _ | .preflightRead | .selectedRead | .enabledRead | .homingClock | .zeroRead
  | .applyMaintenance _ | .drain => True
  | .disableMotors _ => φ.calls t
  | .call => t = .lifecycle ∧ φ.locked = false ∧ φ.command = false ∧ φ.stage = .idle ∧
      φ.recovery = .none
  | .returned => φ.calls t ∧ (φ.stage = .idle ∨ φ.stage = .failed) ∧ φ.recovery = .none ∧
      φ.command = false
  | .lock => φ.command = false
  | .unlock => φ.command = true
  | .send path since disabled commands => φ.command = true ∧ φ.sends t path since disabled commands
  | .connectCheck | .motorPowerStart | .batchStart _ _ | .estopLatch | .estopRestore _ | .closeCheck
  | .recoverFreeze => φ.begins t
  | .connectFailed => φ.calls t ∧ ∃ revalidating, φ.stage = .connecting revalidating
  | .connectNotDisabled => φ.calls t ∧ φ.stage = .connecting true
  | .connectCommit faulted disabled => φ.calls t ∧ ∃ revalidating,
      φ.stage = .connecting revalidating ∧ (revalidating = true → faulted = true ∨ disabled = true) ∧
      (disabled = true → φ.evidence = .proved)
  | .enableCheck | .disableStart => φ.calls t ∧ φ.stage = .idle ∧
      (φ.recovery = .none ∨ φ.recovery = .homing)
  | .enableSeed _ _ => ∃ since, φ.holds t (.enabling since false)
  | .enableMotors _ => φ.calls t ∧ ((∃ since, φ.stage = .enabling since true) ∨ φ.stage = .confirming true ∨
      ∃ selected started, φ.stage = .batching selected true started)
  | .initializeEnabled _ since => φ.calls t ∧ φ.stage = .enabling since true
  | .seedGrippers _ | .initialHoldSent _ _ => φ.holds t (.confirming false)
  | .enableHoldSent => φ.calls t ∧ φ.stage = .confirming false
  | .enableDone => φ.calls t ∧ φ.stage = .confirming true
  | .enableAbandoned => φ.calls t ∧ (φ.stage = .confirming false ∨ ∃ since, φ.stage = .enabling since false)
  | .enableFailed => φ.calls t ∧ φ.command = true ∧
      ((∃ sent, φ.stage = .confirming sent) ∨ ∃ since seeded, φ.stage = .enabling since seeded)
  | .enableRolledBack disabled => φ.calls t ∧ φ.stage = .rollingBack ∧
      (disabled = true → φ.evidence.claims = true)
  | .disableCommit confirmed preserveFault => φ.calls t ∧ φ.stage = .disabling preserveFault ∧
      φ.drained = true ∧ φ.command = false ∧ (confirmed = true → φ.evidence.claims = true)
  | .estopClear => φ.holds t .idle ∧ φ.recovery = .none
  | .motorPowerFailed => φ.calls t ∧ φ.stage = .powering
  | .motorPowerCommit allDisabled => φ.calls t ∧ φ.stage = .powering ∧ φ.drained = true ∧
      φ.command = false ∧ (allDisabled = true → φ.evidence = .proved)
  | .batchInsert => ∃ selected, φ.holds t (.batching selected true .ready)
  | .batchCommit selected enabled started outcome allDisabled => φ.calls t ∧
      φ.stage = .batching selected enabled started ∧ φ.drained = true ∧ φ.command = false ∧
      (outcome.refreshed = true → allDisabled = true → φ.evidence = .proved)
  | .maintenancePrecheck _ => φ.begins t ∧ φ.command = true
  | .modeWrite _ => ∃ operation, φ.holds t (.maintaining operation)
  | .finishMaintenance operation code latchFault => φ.calls t ∧ φ.command = true ∧
      latchFault = code.latches ∧ φ.recovery = .none ∧
      (φ.stage = .maintaining operation ∧ code ≠ .invalidState ∧ (code = .ok → φ.evidence = .proved) ∨
        φ.stage = .idle ∧ code = .invalidState)
  | .retryPark => φ.calls t ∧ φ.stage = .failed ∧ φ.recovery = .none ∧ φ.prechecked = true
  | .retryTimeout => t ≠ .lifecycle
  | .recoverClear => φ.holds t .idle ∧ φ.recovery = .frozen
  | .recoverConfirmed => φ.calls t ∧ φ.stage = .idle ∧ φ.recovery = .cleared ∧
      φ.evidence.claims = true
  | .recoverFaultsCleared => φ.calls t ∧ φ.stage = .idle ∧ φ.recovery = .cleared
  | .recoverReady => φ.calls t ∧ φ.stage = .idle ∧ φ.recovery = .cleared ∧ φ.evidence = .proved
  | .recoverDone => φ.calls t ∧ φ.stage = .idle ∧ φ.recovery = .homing ∧ φ.settled = true ∧
      φ.evidence.claims = true
  | .recoverFailClear => φ.holds t .idle
  | .recoverFailFault => φ.calls t ∧ φ.stage = .idle
  | .recoverFailed disabled => φ.calls t ∧ φ.stage = .idle ∧ φ.recovery = .failing ∧
      (disabled = true → φ.evidence.claims = true) ∧ φ.drained = true ∧ φ.command = false
  | .stopStart => φ.begins t ∧ φ.settled = true
  | .workerJoin | .stopDone => φ.calls t ∧ φ.stage = .closing
  | .holdCapture | .holdCheck | .gripperSendable => φ.command = true
  | .holdSnapshot | .gripperSnapshot => True
  | .safeHoldRead => φ.serves t
  | .holdInstall hold => φ.hold = some hold ∧ (t = .lifecycle → φ.locked = true ∧ φ.stage = .estopping)
  | .safeHoldInstall since _ commands => φ.serves t ∧ φ.read = since ∧
      ∀ c ∈ commands, c.origin = since
  | .gripperHoldWrite commands => φ.command = true ∧ commands = φ.sendable
  | .enterFault _ _ => φ.command = true ∧ (t = .lifecycle → φ.locked = true ∧ φ.stage = .estopping ∧
      φ.recovery = .none)
  | .enterSafeStop => t = .worker ∧ φ.command = true
  | .enterDegraded => t = .worker ∧ φ.stage = .degrading
  | .submit _ _ | .cancelPlanning _ | .sendFailed => t ≠ .lifecycle
  | .install _ _ client => φ.command = true ∧ client = (t ≠ .lifecycle) ∧
      (t = .lifecycle → φ.locked = true ∧ φ.stage = .idle ∧ φ.recovery = .homing)
  | .beginPlanning _ | .trajectoryStart _ _ _ _ | .cancelMotion _ | .cancelAllMotions | .gripperInstall
  | .rawGripperAccept | .rawGripperSent _ => φ.serves t
  | .gravityCheck | .stopGravityCheck | .bimanualCheck => φ.begins t ∧ φ.command = true
  | .ownerRead => φ.calls t ∧ φ.command = true
  | .gravityStart since | .bimanualStart since => φ.holds t .starting ∧ φ.recovery = .none ∧
      φ.read = since
  | .gravityStop since => φ.holds t .releasing ∧ φ.recovery = .none ∧ φ.read = since
  | .bimanualStop since => φ.holds t .idle ∧ φ.recovery = .none ∧ φ.read = since
  | .workerWait | .workerDecide => t = .worker ∧ φ.stage = .idle
  | .faultTrajectory | .feedbackFailed | .readyWrite | .holdFailed | .holdSucceeded => t = .worker
  | .cycleStart | .gripperPrepare | .cycleFailed => t = .worker ∧ φ.command = true
  | .trajectoryUpdate => ∃ cycle, φ.cycles t false cycle
  | .trajectoryCycle since | .consumePending since =>
    ∃ cycle, φ.cycles t false cycle ∧ cycle.since = since
  | .cyclePrepare snapshot => φ.cycles t false snapshot
  | .cycleSent mode _ frame => φ.frame = some frame ∧ ∃ cycle, φ.cycles t false cycle ∧ cycle.mode = mode
  | .gravityRead => ∃ cycle, φ.cycles t true cycle
  | .gravitySent cycle => φ.gravity = some cycle ∧ ∃ snapshot, φ.cycles t true snapshot
  | .gripperSent _ commands => t = .worker ∧ φ.command = true ∧ commands = φ.batch.commands

/-- The local state of a thread between its operations. -/
def Rests (φ : Local) : Prop :=
  φ.locked = false ∧ φ.command = false ∧ φ.stage = .idle ∧ φ.recovery = .none ∧ φ.hold = none

end Local

/-- When a section is ready. -/
def Site.ready : Site → SafetyRuntime → Bool
  | .lock, s => s.commandOwner = none
  | .retryTimeout, s => s.retries ≠ 0
  | .workerWait, s => !s.workerExited
  | .workerJoin, s => s.workerExited
  | _, _ => true

/-- The sections of the Runtime, and where its threads are. -/
def runtimeFlow (config : RuntimeConfig) : Flow Thread SafetyRuntime Input Site Local where
  ready := Site.ready
  act := after config
  fits t φ site := φ.fits t site
  step _ φ site i s := φ.step config site i s.tick
  rest := Local.Rests

end MotorDrive.Runtime
