import MotorDrive.Library.Threads
import MotorDrive.Library.History

/-!
# The state of the Runtime

`SafetyRuntime` of `runtime/include/articore/detail/runtime.hpp`: the fields that its lifecycle calls,
its motion commands and its worker share, the motors it was built for, and the sections that its
functions are made of.  A section is one critical section of `state_mutex_` or one call of the motor
backend; `command_mutex_` and `lifecycle_mutex_`, which are held across sections, are fields.

The positions, velocities and gains of a command are floating point and are left out.  In their place
a command carries the instant at which its target was captured from feedback, accepted from a client
or last sent.  The log, newest first, and the fields after it record what the Runtime did; no section
reads them.
-/

namespace MotorDrive.Runtime

/-- `ArticoreSafetyState`. -/
inductive SafetyState
  | disconnected | ready | enabled | running | safeHold | degraded | safeStop | fault
  | partiallyEnabled
  deriving DecidableEq, Repr

/-- The states in which the control cycle sends and commands are accepted. -/
def SafetyState.commanding : SafetyState → Bool
  | .enabled | .running | .degraded | .partiallyEnabled => true
  | _ => false

/-- The states whose protective hold is retransmitted. -/
def SafetyState.holding : SafetyState → Bool
  | .safeHold | .safeStop | .fault => true
  | _ => false

/-- `ArticoreControlMode`. -/
inductive ControlMode
  | pv | mit
  deriving DecidableEq, Repr

/-- The handle of a motor. -/
abbrev Handle := ℕ

/-- `MotorRecord`: what is fixed at construction. -/
structure MotorRecord where
  motor : Handle
  side : ℕ
  isGripper : Bool := false
  configuredCanId : Option ℕ := none
  deriving DecidableEq, Repr

/-- `MissingMotor`. -/
structure MissingMotor where
  side : ℕ
  id : ℕ
  deriving DecidableEq, Repr

/-- `ArticoreMotorState` as the Runtime tests it: the status code, the CAN id and which of the values
are finite, at rest and at the calibrated zero. -/
structure MotorState where
  statusCode : ℕ := 1
  canId : ℕ := 0
  finitePos : Bool := true
  finiteVel : Bool := true
  finiteTorq : Bool := true
  stationary : Bool := true
  zeroed : Bool := true
  deriving DecidableEq, Repr

/-- A PV or MIT command: its motor, and the instant its target comes from. -/
structure Command where
  motor : Handle
  origin : ℕ
  deriving DecidableEq, Repr

/-- `ArmMailbox`. -/
structure ArmMailbox where
  valid : Bool := false
  userCommand : Bool := false
  streaming : Bool := false
  generation : ℕ := 0
  sentGeneration : ℕ := 0
  jointPosition : Bool := false
  pv : List Command := []
  mit : List Command := []
  deriving DecidableEq, Repr

/-- The commands of the mailbox that a mode sends. -/
def ArmMailbox.commands (mailbox : ArmMailbox) : ControlMode → List Command
  | .pv => mailbox.pv
  | .mit => mailbox.mit

/-- A mailbox with the commands of one mode. -/
def ArmMailbox.withCommands (mailbox : ArmMailbox) (mode : ControlMode) (commands : List Command) :
    ArmMailbox :=
  match mode with
  | .pv => { mailbox with pv := commands, mit := [] }
  | .mit => { mailbox with pv := [], mit := commands }

/-- `ArticoreMotionState`. -/
inductive MotionState
  | idle | running | completed | cancelled | fault
  deriving DecidableEq, Repr

/-- `TrajectoryControl`: its state, its id, the instant it was accepted and its joints. -/
structure TrajectoryControl where
  state : MotionState := .idle
  id : ℕ := 0
  origin : ℕ := 0
  joints : List Handle := []
  deriving DecidableEq, Repr

/-- `ArticoreGravityCompensationPhase`. -/
inductive GravityPhase
  | inactive | entering | active | exiting
  deriving DecidableEq, Repr

/-- `gravity_control_`: its phase and the instant of its hold positions. -/
structure GravityControl where
  phase : GravityPhase := .inactive
  holdPositions : ℕ := 0
  deriving DecidableEq, Repr

/-- The arm's commands and their sources. -/
structure Arm where
  mailbox : ArmMailbox := {}
  pending : ArmMailbox := {}
  lastSentPv : List Command := []
  lastSentMit : List Command := []
  safePv : List Command := []
  safeMit : List Command := []
  faultHoldActive : Bool := false
  trajectory : TrajectoryControl := {}
  trajectoryQueue : List TrajectoryControl := []
  trajectoryHistory : List (ℕ × MotionState) := []
  nextMotionId : ℕ := 1
  armGeneration : ℕ := 0
  gravity : GravityControl := {}
  bimanual : Option ℕ := none
  deriving DecidableEq, Repr

/-- The lifecycle state and its flags. -/
structure Flags where
  state : SafetyState := .disconnected
  faultLatched : Bool := false
  motorFaultLatched : Bool := false
  emergencyStopLatched : Bool := false
  disableConfirmed : Bool := false
  hardwareTransition : Bool := false
  enableTransaction : Bool := false
  enableGraceTransition : Bool := false
  stopping : Bool := false
  deriving DecidableEq, Repr

/-- The gripper commands. -/
structure Grippers where
  safeGrippers : List Command := []
  targets : List Handle := []
  commandGeneration : ℕ := 0
  sentGeneration : ℕ := 0
  deriving DecidableEq, Repr

/-- The counters and marks of command processing. -/
structure Progress where
  hasSuccessfulCommand : Bool := false
  lastSuccessfulCommand : ℕ := 0
  firstCommandAccepted : Bool := false
  activeCommandPlanningToken : ℕ := 0
  nextCommandPlanningToken : ℕ := 1
  consecutiveSendFailures : ℕ := 0
  consecutiveFeedbackFailures : ℕ := 0
  consecutiveHoldFailures : ℕ := 0
  deriving DecidableEq, Repr

/-- `SideHealth`, as the Runtime reads it back. -/
structure SideHealth where
  connected : Bool := false
  transportHealthy : Bool := true
  deriving DecidableEq, Repr

/-- `ArticoreRuntimeConfig`, the motors and the callbacks the backend supplies. -/
structure RuntimeConfig where
  motors : List MotorRecord
  gravityJoints : List Handle := []
  feedbackMaxAge : ℕ := 100000000
  commandTimeout : ℕ := 100
  feedbackFailureThreshold : ℕ := 3
  safeHoldFailureThreshold : ℕ := 3
  canEnableAll : Bool := true
  canEnableMotor : Bool := true
  canClearError : Bool := true
  canSetZero : Bool := true
  canEnsureMode : Bool := true
  gripperProfilesBound : Bool := true

namespace RuntimeConfig

variable (config : RuntimeConfig)

/-- The handles of the installed motors. -/
def handles : List Handle := config.motors.map MotorRecord.motor

def armMotors : List MotorRecord := config.motors.filter fun motor => !motor.isGripper

def gripperMotors : List MotorRecord := config.motors.filter MotorRecord.isGripper

/-- `active_sides_`. -/
def activeSide (side : ℕ) : Bool := config.motors.any fun motor => motor.side = side

end RuntimeConfig

/-- `ArticoreRuntimeOperation` of the maintenance calls. -/
inductive Maintenance
  | configureMode | clearFaults | setZero
  deriving DecidableEq, Repr

/-- `ArticoreRuntimeOperationCode` of the maintenance calls. -/
inductive OperationCode
  | ok | invalidState | unsupported | transport | feedback | notDisabled | notStationary
  | motorCommand | verification
  deriving DecidableEq, Repr

/-- Which timers of `worker_loop` have run out when it looks at the clock. -/
structure Due where
  enableGrace : Bool := false
  controlTick : Bool := false
  readyFeedback : Bool := false
  feedbackCheck : Bool := false
  safeHold : Bool := false
  gripperControl : Bool := false
  deriving DecidableEq, Repr

/-- What the Runtime does not choose at a section: what the backend answers, what the motors report,
and what the clock says. -/
structure Input where
  ok : Bool := true
  time : ℕ := 0
  codes : ℕ → Bool := fun _ => true
  accepts : Handle → Bool := fun _ => true
  missing : ℕ → List ℕ := fun _ => []
  ages : Handle → Option ℕ := fun _ => some 0
  states : Handle → Option MotorState := fun _ => some {}
  sides : ℕ → SideHealth := fun _ => ⟨true, true⟩
  due : Due := {}
  severe : Bool := false
  settled : Bool := true
  blending : Bool := true
  budget : ℕ := 1
  error : String := ""

/-- The threads: the holder of `lifecycle_mutex_`, the worker, and the callers of everything that does
not take that mutex. -/
inductive Thread
  | lifecycle | worker | client (n : ℕ)
  deriving DecidableEq, Repr

/-- The paths that send PV or MIT frames. -/
inductive Path
  | initialHold | powerHold | armCycle | gravityCycle | gripperControl | rawGripper | armHold
  | gripperHold
  deriving DecidableEq, Repr

/-! ## What sections hand to later sections -/

/-- What `prepare_protective_hold` captures. -/
structure Hold where
  since : ℕ
  mode : ControlMode
  arm : List Command
  grippers : List Command
  deriving DecidableEq, Repr

/-- What the transaction of a batch leaves behind: whether it succeeded, the instant of its preflight
reading, the selected motors it read as disabled then, the motors it tried to enable, whether its last
refresh succeeded and whether its rollback was confirmed. -/
structure BatchOutcome where
  ok : Bool
  since : ℕ := 0
  off : List Handle := []
  attempted : List Handle := []
  refreshed : Bool := false
  rollbackConfirmed : Bool := true
  deriving DecidableEq, Repr

/-- What a gravity cycle sends: the instant of its reading, the set at that instant, its phase, whether
its transition is over and its commands. -/
structure GravityCycle where
  since : ℕ
  disabled : List Handle
  phase : GravityPhase
  settled : Bool
  commands : List Command
  deriving DecidableEq, Repr

/-- What the first section of `run_arm_control_cycle` takes from the state. -/
structure CycleSnapshot where
  since : ℕ
  mode : ControlMode
  gravityActive : Bool
  bimanual : Option ℕ
  disabled : List Handle
  deriving DecidableEq, Repr

/-- What a cycle takes from the mailbox: whether it is a user command, and its commands without the
intentionally disabled motors. -/
structure ArmFrame where
  userCommand : Bool
  generation : ℕ
  commands : List Command
  deriving DecidableEq, Repr

/-! ## Sections -/

/-- The sections, with what they carry over from the sections before them. -/
inductive Site
  | look | call | returned | lock | unlock
  | feedback | transport | drain | reading | preflightRead | selectedRead | enabledRead | homingClock | zeroRead
  | validate (missing : List MissingMotor)
  | confirmRead (complete : Bool) (missing : List MissingMotor)
  | healthRead (missing : List MissingMotor)
  | healthWrite (healthy faults : Bool)
  | send (path : Path) (since : ℕ) (snapshot : List Handle) (commands : List Command)
  | connectCheck | connectFailed | connectNotDisabled
  | connectCommit (faulted disabled : Bool)
  | enableCheck | enableHoldSent | enableDone | enableFailed | enableAbandoned
  | enableSeed (mode : ControlMode) (requireEnabled : Bool)
  | enableMotors (motors : List Handle)
  | disableMotors (motors : List Handle)
  | initializeEnabled (mode : ControlMode) (since : ℕ)
  | seedGrippers (activate : Bool)
  | initialHoldSent (mode : ControlMode) (commands : List Command)
  | enableRolledBack (disabled : Bool)
  | disableStart
  | disableCommit (confirmed preserveFault : Bool)
  | estopLatch | estopClear
  | estopRestore (confirmed : Bool)
  | motorPowerStart | motorPowerFailed
  | motorPowerCommit (allDisabled : Bool)
  | batchStart (selected : List Handle) (enabled : Bool)
  | batchInsert
  | batchCommit (selected : List Handle) (enabled : Bool) (started : SafetyState)
    (outcome : BatchOutcome) (allDisabled : Bool)
  | maintenancePrecheck (operation : Maintenance)
  | applyMaintenance (operation : Maintenance)
  | modeWrite (mode : Option ControlMode)
  | finishMaintenance (operation : Maintenance) (code : OperationCode) (latchFault : Bool)
  | retryPark | retryTimeout
  | recoverFreeze | recoverClear | recoverConfirmed | recoverFaultsCleared | recoverReady | recoverDone
  | recoverFailClear | recoverFailFault
  | recoverFailed (disabled : Bool)
  | closeCheck | stopStart | workerJoin | stopDone
  | holdCapture | holdSnapshot | holdCheck | gripperSnapshot | gripperSendable | safeHoldRead
  | holdInstall (hold : Hold)
  | safeHoldInstall (since : ℕ) (mode : ControlMode) (commands : List Command)
  | gripperHoldWrite (commands : List Command)
  | enterFault (allowProtectiveHold armHoldAvailable : Bool)
  | enterSafeStop | enterDegraded
  | submit (mode : ControlMode) (streaming : Bool)
  | install (mode : ControlMode) (planningToken : ℕ) (client : Bool)
  | beginPlanning (allowTrajectory : Bool)
  | cancelPlanning (token : ℕ)
  | trajectoryStart (mode : ControlMode) (enqueue : Bool) (replace planningToken : ℕ)
  | cancelMotion (id : ℕ)
  | cancelAllMotions | gripperInstall | rawGripperAccept | sendFailed
  | rawGripperSent (motors : List Handle)
  | gravityCheck | stopGravityCheck | bimanualCheck | ownerRead
  | gravityStart (since : ℕ)
  | gravityStop (since : ℕ)
  | bimanualStart (since : ℕ)
  | bimanualStop (since : ℕ)
  | workerWait | workerDecide | cycleStart | gripperPrepare | trajectoryUpdate | cycleFailed | gravityRead | faultTrajectory
  | trajectoryCycle (since : ℕ)
  | consumePending (since : ℕ)
  | cyclePrepare (snapshot : CycleSnapshot)
  | cycleSent (mode : ControlMode) (time : ℕ) (frame : ArmFrame)
  | gravitySent (cycle : GravityCycle)
  | gripperSent (time : ℕ) (commands : List Command)
  | feedbackFailed | readyWrite | holdFailed | holdSucceeded
  deriving DecidableEq, Repr

/-- What an accepted command is for: the arm, the arm behind the trajectories already queued, or a
gripper. -/
inductive Accepted
  | arm | fifo | gripper
  deriving DecidableEq, Repr

/-- One entry of the log.  `disturbed` is an enable, a disable, a fault, a safe stop, a power batch or a
fault clear; `completed`, `resumed` and `sampled` are about a trajectory. -/
inductive Event
  | call
  | parked
  | cleared (site : Site)
  | emergency
  | recovered
  | planned (token : ℕ)
  | disturbed
  | accepted (client : Bool) (token : ℕ) (kind : Accepted)
  | completed (id : ℕ)
  | resumed (id : ℕ)
  | sampled (id : ℕ)
  | feedback (complete : Bool) (missing : List MissingMotor)
  | reading (fresh disabled : List Handle)
  | enabled (motors : List Handle)
  | confirmed
  | frame (path : Path) (fresh rest : ℕ) (disabled : List Handle) (commands : List Command)
  deriving DecidableEq, Repr

/-- `SafetyRuntime`.  `retries` counts the `clear_faults` calls whose last attempt failed and whose
deadline has passed.  A command that is older than `freshFrom` is stale for the control cycle: it comes
from before the last instant at which the state was `READY`, `FAULT` or `DISCONNECTED`.  One older than
`restFrom` is stale for the protective hold: it comes from before the last instant at which the state
was `READY` or `DISCONNECTED`.  `recovering` is set from the instant `recover` drops the latch to its
end. -/
structure SafetyRuntime where
  flags : Flags := {}
  mode : ControlMode := .pv
  arm : Arm := {}
  grippers : Grippers := {}
  intentionallyDisabled : List Handle := []
  progress : Progress := {}
  sides : ℕ → SideHealth := fun _ => {}
  commandOwner : Option Thread := none
  lifecycleLocked : Bool := false
  workerExited : Bool := false
  retries : ℕ := 0
  now : ℕ := 0
  freshFrom : ℕ := 0
  restFrom : ℕ := 0
  recovering : Bool := false
  log : List Event := []

/-- A program of the Runtime. -/
abbrev Program := Proc SafetyRuntime Input Site String

namespace SafetyRuntime

def state (s : SafetyRuntime) : SafetyState := s.flags.state

@[simps]
def record (s : SafetyRuntime) (e : Event) : SafetyRuntime := { s with log := e :: s.log }

@[simps]
def setFlags (s : SafetyRuntime) (flags : Flags) : SafetyRuntime := { s with flags }

@[simps]
def setArm (s : SafetyRuntime) (arm : Arm) : SafetyRuntime := { s with arm }

/-- The instant before a section: what was there while the state was idle is stale from here on. -/
@[simps flags mode arm grippers intentionallyDisabled progress sides commandOwner lifecycleLocked
  workerExited retries now recovering log]
def tick (s : SafetyRuntime) : SafetyRuntime :=
  { s with
    now := s.now + 1
    freshFrom := if s.state = .ready ∨ s.state = .fault ∨ s.state = .disconnected then s.now + 2
      else s.freshFrom
    restFrom := if s.state = .ready ∨ s.state = .disconnected then s.now + 2 else s.restFrom }

@[simp] theorem state_tick (s : SafetyRuntime) : s.tick.state = s.state := rfl

/-- The log records a section that drops the fault latch. -/
@[simps]
def noteCleared (site : Site) (s s' : SafetyRuntime) : SafetyRuntime :=
  { s' with log := if s.flags.faultLatched ∧ ¬ s'.flags.faultLatched then .cleared site :: s'.log
      else s'.log }

/-- The log records a section that sets the disable confirmation. -/
@[simps]
def noteConfirmed (s s' : SafetyRuntime) : SafetyRuntime :=
  { s' with log := if s'.flags.disableConfirmed ∧ ¬ s.flags.disableConfirmed then .confirmed :: s'.log
      else s'.log }

end SafetyRuntime

open SafetyRuntime

/-- One section that cannot throw. -/
def act {α : Type} (site : Site) (f : Input → SafetyRuntime → α × SafetyRuntime) : Program α :=
  Proc.atomic site fun i s => ((f i s.tick).1, noteCleared site s (f i s.tick).2)

/-- One section that may throw. -/
def actThrow {α : Type} (site : Site)
    (f : Input → SafetyRuntime → Except String α × SafetyRuntime) : Program α :=
  Proc.await site (fun _ => true) fun i s => ((f i s.tick).1, noteCleared site s (f i s.tick).2)

/-- A section that only changes the state. -/
def update (site : Site) (f : Input → SafetyRuntime → SafetyRuntime) : Program Unit :=
  act site fun i s => ((), f i s)

/-- A section that waits. -/
def actWhen {α : Type} (site : Site) (ready : SafetyRuntime → Bool)
    (f : Input → SafetyRuntime → α × SafetyRuntime) : Program α :=
  Proc.await site ready fun i s => (.ok (f i s.tick).1, noteCleared site s (f i s.tick).2)

/-- A section that only looks. -/
def lookAt {α : Type} (site : Site) (f : Input → SafetyRuntime → α) : Program α :=
  act site fun i s => (f i s, s)

def look {α : Type} (f : Input → SafetyRuntime → α) : Program α := lookAt .look f

/-- A section that looks and may throw. -/
def lookThrowAt {α : Type} (site : Site) (f : Input → SafetyRuntime → Except String α) : Program α :=
  actThrow site fun i s => (f i s, s)

def lookThrow {α : Type} (f : Input → SafetyRuntime → Except String α) : Program α :=
  lookThrowAt .look f

/-- A backend call whose answer decides. -/
def ask : Program Bool := look fun i _ => i.ok

/-! ## The mutexes held across sections -/

def lockCommand (t : Thread) : Program Unit :=
  actWhen .lock (fun s => s.commandOwner = none) fun _ s => ((), { s with commandOwner := some t })

def unlockCommand : Program Unit := update .unlock fun _ s => { s with commandOwner := none }

/-- `std::lock_guard command_lock(command_mutex_)` around a program. -/
def withCommand {α : Type} (t : Thread) (p : Program α) : Program α := do
  lockCommand t
  let a ← Proc.tryCatch p fun error => do
    unlockCommand
    .throw error
  unlockCommand
  pure a

/-- `std::lock_guard lifecycle_lock(lifecycle_mutex_)` around a call. -/
def withLifecycle (p : Program Unit) : Program Unit := do
  update .call fun _ s => { s with lifecycleLocked := true }.record .call
  Proc.tryCatch p fun error => do
    update .returned fun _ s => { s with lifecycleLocked := false }
    .throw error
  update .returned fun _ s => { s with lifecycleLocked := false }

/-! ## Feedback -/

section Feedback

variable (config : RuntimeConfig)

/-- The motors that a side without a report misses. -/
def unreported (i : Input) (side : ℕ) : List MissingMotor :=
  (config.motors.filter fun motor => motor.side = side).map fun motor =>
    ⟨side, motor.configuredCanId.getD ((i.states motor.motor).elim 0 MotorState.canId)⟩

/-- `missing_motors` of one side. -/
def missingOn (i : Input) (side : ℕ) : List MissingMotor :=
  if config.activeSide side then
    if i.codes side = false ∧ i.missing side = [] then unreported config i side
    else (i.missing side).map fun id => ⟨side, id⟩
  else []

/-- Every active side answers with code 0. -/
def requestComplete (i : Input) : Bool :=
  (!config.activeSide 0 || i.codes 0) && (!config.activeSide 1 || i.codes 1)

/-- `request_feedback_parallel`. -/
def requestFeedbackParallel : Program (Bool × List MissingMotor) :=
  act .feedback fun i s =>
    ((requestComplete config i, missingOn config i 0 ++ missingOn config i 1),
      s.record (.feedback (requestComplete config i) (missingOn config i 0 ++ missingOn config i 1)))

/-- `stats.has_feedback` within `feedback_max_age_ms`. -/
def fresh (i : Input) (motor : Handle) : Bool := (i.ages motor).any fun age => age ≤ config.feedbackMaxAge

/-- The motor's state is available and satisfies a test. -/
def reads (i : Input) (motor : Handle) (test : MotorState → Bool) : Bool := (i.states motor).any test

/-- A reading of the motors for the log: which are fresh and which report disabled. -/
def readingOf (i : Input) : Event :=
  .reading (config.handles.filter (fresh config i))
    (config.handles.filter fun motor => reads i motor fun state => state.statusCode = 0)

/-- The report names the motor as missing. -/
def specificallyMissing (i : Input) (missing : List MissingMotor) (motor : MotorRecord) : Bool :=
  reads i motor.motor fun state => missing.contains ⟨motor.side, state.canId⟩

/-- One motor's snapshot in `validate_fresh_feedback_snapshot`. -/
def snapshotValid (i : Input) (missing : List MissingMotor) (motor : MotorRecord) : Bool :=
  fresh config i motor.motor && (reads i motor.motor fun state =>
    motor.configuredCanId.all (· = state.canId) && state.finitePos && state.finiteVel &&
      state.finiteTorq) && !specificallyMissing i missing motor

/-- `validate_fresh_feedback_snapshot`. -/
def validateFreshFeedbackSnapshot (missing : List MissingMotor) : Program Bool :=
  act (.validate missing) fun i s =>
    (config.motors.all (snapshotValid config i missing),
      { s with progress := { s.progress with
        consecutiveFeedbackFailures :=
          if config.motors.all (snapshotValid config i missing) then 0
          else s.progress.consecutiveFeedbackFailures } }.record (readingOf config i))

/-- A feedback transaction and its validation: `request_feedback_parallel(…) &&
validate_fresh_feedback_snapshot(…)`. -/
def requestAndValidate : Program Bool := do
  let (complete, missing) ← requestFeedbackParallel config
  if complete then validateFreshFeedbackSnapshot config missing else pure false

/-- `ArticoreMotorPowerState`. -/
inductive MotorPower
  | unknown | disabled | enabled | mixed
  deriving DecidableEq, Repr

/-- `cached_motor_power_state` of the selected motors. -/
def cachedMotorPowerState (i : Input) (selected : List Handle) : MotorPower :=
  if selected.any fun motor => !reads i motor fun state => state.statusCode ≤ 1 then .unknown
  else
    match selected.any (fun motor => reads i motor fun state => state.statusCode = 1),
      selected.any (fun motor => reads i motor fun state => state.statusCode = 0) with
    | true, true => .mixed
    | true, false => .enabled
    | false, true => .disabled
    | false, false => .unknown

/-- A reading of `cached_motor_power_state`. -/
def readMotorPower (selected : List Handle) : Program MotorPower :=
  act .reading fun i s => (cachedMotorPowerState i selected, s.record (readingOf config i))

/-- `current_motor_fault_reported`. -/
def currentMotorFaultReported (i : Input) : Bool :=
  config.handles.any fun motor => reads i motor fun state => 1 < state.statusCode

/-- `refresh_transport_health`. -/
def refreshTransportHealth : Program Bool :=
  act .transport fun i s =>
    ((List.range 2).all fun side => !config.activeSide side ||
        ((i.sides side).connected && (i.sides side).transportHealthy),
      { s with sides := fun side => if config.activeSide side then i.sides side else s.sides side })

/-- An item of `collect_motor_feedback_health` without issue. -/
def healthy (i : Input) (disabled : List Handle) (recoveryCheck : Bool) (motor : MotorRecord) : Bool :=
  fresh config i motor.motor && reads i motor.motor fun state =>
    state.finitePos && state.finiteVel && state.finiteTorq && state.statusCode ≤ 1 &&
      (if recoveryCheck then state.statusCode = 0
        else state.statusCode = 1 || disabled.contains motor.motor)

/-- The last section of `refresh_feedback_health`. -/
def SafetyRuntime.writeHealth (s : SafetyRuntime) (healthy faults : Bool) : SafetyRuntime :=
  { s with
    flags := { s.flags with motorFaultLatched := s.flags.motorFaultLatched || faults }
    progress := { s.progress with consecutiveFeedbackFailures :=
      if healthy then 0 else s.progress.consecutiveFeedbackFailures } }

/-- `refresh_feedback_health`: a reading, then the section that writes what it found. -/
def refreshFeedbackHealth (recoveryCheck : Bool) (missing : List MissingMotor) : Program Bool := do
  let transports ← refreshTransportHealth config
  let (items, faults) ← act (.healthRead missing) fun i s =>
    ((config.motors.all (healthy config i s.intentionallyDisabled recoveryCheck),
      currentMotorFaultReported config i), s.record (readingOf config i))
  update (.healthWrite (transports && items) faults) fun _ s => s.writeHealth (transports && items) faults
  pure (transports && items)

end Feedback

end MotorDrive.Runtime
