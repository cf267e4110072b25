import MotorDrive.Runtime.State

/-!
# Protective holds and the safety transitions

`runtime_safety.cpp`, with `enter_safe_stop`, `enter_degraded` and `enter_safe_hold_from_feedback` of
`runtime_commands.cpp` and `send_gripper_hold_once` of `runtime_gripper.cpp`.  Every caller passes
`torque_off = false` to `enter_fault`, so its disable branch is left out.
-/

namespace MotorDrive.Runtime

open SafetyRuntime

namespace Arm

/-- `archive_trajectory_locked`: the last 128 motions, newest first. -/
def archive (arm : Arm) (trajectory : TrajectoryControl) : Arm :=
  if trajectory.id = 0 then arm
  else { arm with trajectoryHistory :=
    ((trajectory.id, trajectory.state) :: arm.trajectoryHistory).take 128 }

/-- The queued motions, cancelled and archived. -/
def cancelQueue (arm : Arm) : Arm :=
  { arm.trajectoryQueue.foldl (fun arm queued => arm.archive { queued with state := .cancelled }) arm
    with trajectoryQueue := [] }

/-- `terminate_trajectory_locked`: a cancelled trajectory leaves a stationary hold in the mailbox. -/
def terminateTrajectory (arm : Arm) (state : MotionState) : Arm :=
  if arm.trajectory.state = .running ∨ arm.trajectory.state = .completed then
    { arm.cancelQueue with
      trajectory := { arm.trajectory with state }
      mailbox := if arm.mailbox.valid then
        { arm.mailbox with userCommand := true, streaming := false } else arm.mailbox }
  else arm.cancelQueue

/-- `clear_pending_arm_mailbox` and `arm_mailbox_ = ArmMailbox{}`. -/
def clearMailboxes (arm : Arm) : Arm := { arm with mailbox := {}, pending := {} }

/-- Gravity compensation set inactive, and `reset_bimanual_follow_locked`. -/
def releaseOwners (arm : Arm) : Arm :=
  { arm with gravity := { arm.gravity with phase := .inactive }, bimanual := none }

def clearSafe (arm : Arm) : Arm := { arm with safePv := [], safeMit := [] }

def clearLastSent (arm : Arm) : Arm := { arm with lastSentPv := [], lastSentMit := [] }

def lastSent (arm : Arm) : ControlMode → List Command
  | .pv => arm.lastSentPv
  | .mit => arm.lastSentMit

def safe (arm : Arm) : ControlMode → List Command
  | .pv => arm.safePv
  | .mit => arm.safeMit

/-- The last frame of a mode, by the instant it was sent. -/
def setLastSent (arm : Arm) (mode : ControlMode) (now : ℕ) (commands : List Command) : Arm :=
  match mode with
  | .pv => { arm with lastSentPv := commands.map fun c => ⟨c.motor, now⟩, lastSentMit := [] }
  | .mit => { arm with lastSentMit := commands.map fun c => ⟨c.motor, now⟩, lastSentPv := [] }

end Arm

/-- One backend send; the log keeps the frame whatever the backend answers. -/
def send (path : Path) (since : ℕ) (snapshot : List Handle) (commands : List Command) :
    Program Bool :=
  act (.send path since snapshot commands) fun i s =>
    (i.ok, s.record (.frame path s.freshFrom s.restFrom s.intentionallyDisabled commands))

/-- A send that is skipped when there is nothing to send. -/
def sendNonempty (path : Path) (since : ℕ) (snapshot : List Handle) (commands : List Command) :
    Program Bool :=
  if commands = [] then pure true else send path since snapshot commands

section Safety

variable (config : RuntimeConfig) (t : Thread)

/-- The commands of one side. -/
def onSide (side : ℕ) (commands : List Command) : List Command :=
  commands.filter fun c => config.motors.any fun motor => motor.motor = c.motor ∧ motor.side = side

/-- The two sends of a fault hold, one for each channel. -/
def sendBySide (path : Path) (since : ℕ) (snapshot : List Handle) (commands : List Command) :
    Program Bool := do
  let left ← sendNonempty path since snapshot (onSide config 0 commands)
  let right ← sendNonempty path since snapshot (onSide config 1 commands)
  pure (left && right)

/-! ## The protective hold -/

/-- The command of one arm motor in `prepare_protective_hold`. -/
def holdCommand (i : Input) (s : SafetyRuntime) (motor : MotorRecord) : Option Command :=
  if !(s.sides motor.side).connected || reads i motor.motor fun state => state.statusCode ≠ 1 then none
  else if fresh config i motor.motor && reads i motor.motor fun state => state.finitePos then
    some ⟨motor.motor, s.now⟩
  else (s.arm.lastSent s.mode).find? fun c => c.motor = motor.motor

/-- A gripper command that stays in the protective hold. -/
def keepsGripper (i : Input) (s : SafetyRuntime) (c : Command) : Bool :=
  (config.gripperMotors.any fun motor => motor.motor = c.motor ∧ (s.sides motor.side).connected) &&
    !reads i c.motor fun state => state.statusCode ≠ 1

def captureHold (i : Input) (s : SafetyRuntime) : Hold :=
  ⟨s.now, s.mode, config.armMotors.filterMap (holdCommand config i s),
    s.grippers.safeGrippers.filter (keepsGripper config i s)⟩

/-- The last section of `prepare_protective_hold`. -/
def SafetyRuntime.installHold (s : SafetyRuntime) (hold : Hold) : SafetyRuntime :=
  { s with
    arm := { s.arm with
      safePv := if hold.mode = .pv then hold.arm else []
      safeMit := if hold.mode = .mit then hold.arm else []
      faultHoldActive := hold.arm ≠ [] ∨ hold.grippers ≠ [] }
    grippers := { s.grippers with safeGrippers := hold.grippers } }

/-- `prepare_protective_hold`. -/
def prepareProtectiveHold : Program Bool := do
  let hold ← withCommand t (lookAt .holdCapture (captureHold config))
  update (.holdInstall hold) fun _ s => s.installHold hold
  pure (hold.arm ≠ [])

/-- What `send_safe_hold_once` takes from the state. -/
structure HoldSnapshot where
  since : ℕ
  state : SafetyState
  mode : ControlMode
  commands : List Command
  disabled : List Handle
  deriving DecidableEq, Repr

def snapshotHold (s : SafetyRuntime) : Option HoldSnapshot :=
  if s.state.holding then some ⟨s.now, s.state, s.mode, s.arm.safe s.mode, s.intentionallyDisabled⟩
  else none

/-- The commands whose motor is not intentionally disabled. -/
def addressable (disabled : List Handle) (commands : List Command) : List Command :=
  commands.filter fun c => !disabled.contains c.motor

/-- The grippers that `send_gripper_hold_once` still commands. -/
def sendableGrippers (i : Input) (now : ℕ) (disabled : List Handle) (commands : List Command) :
    List Command :=
  (addressable disabled commands).filterMap fun c =>
    if !config.gripperMotors.any fun motor => motor.motor = c.motor then none
    else if (i.ages c.motor).isNone || (i.states c.motor).isNone then some c
    else if reads i c.motor fun state => state.statusCode ≠ 1 then none
    else if fresh config i c.motor then some ⟨c.motor, now⟩ else some c

/-- What `send_gripper_hold_once` takes from the state. -/
structure GripperSnapshot where
  since : ℕ
  state : SafetyState
  commands : List Command
  disabled : List Handle
  deriving DecidableEq, Repr

def SafetyRuntime.gripperSnapshot (s : SafetyRuntime) : GripperSnapshot :=
  ⟨s.now, s.state, s.grippers.safeGrippers, s.intentionallyDisabled⟩

/-- `send_gripper_hold_once`; it looks neither at `hardware_transition_` nor at the state again. -/
def sendGripperHoldOnce : Program Bool := do
  let snapshot ← lookAt .gripperSnapshot fun _ s => s.gripperSnapshot
  if snapshot.commands = [] then pure true else
    withCommand t do
      let sendable ← lookAt .gripperSendable fun i s =>
        sendableGrippers config i s.now snapshot.disabled snapshot.commands
      let sent ← (if snapshot.state = .fault then
          sendBySide config .gripperHold snapshot.since snapshot.disabled sendable
        else sendNonempty .gripperHold snapshot.since snapshot.disabled sendable)
      update (.gripperHoldWrite sendable) fun _ s =>
        { s with grippers := { s.grippers with safeGrippers := sendable } }
      pure sent

/-- The arm part of `send_safe_hold_once`: `none` when the state has moved on. -/
def sendArmHold (snapshot : HoldSnapshot) : Program (Option Bool) := do
  let current ← lookAt .holdCheck fun _ s => !s.flags.hardwareTransition && s.state = snapshot.state
  if !current then pure none
  else if snapshot.state = .fault then do
    let sent ← sendBySide config .armHold snapshot.since snapshot.disabled
      (addressable snapshot.disabled snapshot.commands)
    pure (some sent)
  else if snapshot.commands = [] then pure (some false)
  else do
    let sent ← sendNonempty .armHold snapshot.since snapshot.disabled
      (addressable snapshot.disabled snapshot.commands)
    pure (some sent)

/-- The gripper part of `send_safe_hold_once`. -/
def sendGripperPart (snapshot : HoldSnapshot) : Option Bool → Program Bool
  | none => pure true
  | some sent =>
    if snapshot.state ≠ .fault ∧ snapshot.commands = [] then pure false
    else do
      let gripperSent ← sendGripperHoldOnce config t
      pure (sent && gripperSent)

/-- `send_safe_hold_once`. -/
def sendSafeHoldOnce : Program Bool := do
  let snapshot ← lookAt .holdSnapshot fun _ s => snapshotHold s
  match snapshot with
  | none => pure true
  | some snapshot => do
    let sent ← withCommand t (sendArmHold config snapshot)
    sendGripperPart config t snapshot sent

/-! ## The safety transitions -/

/-- The section of `enter_fault`. -/
def SafetyRuntime.enterFault (s : SafetyRuntime)
    (allowProtectiveHold armHoldAvailable motorFault : Bool) : SafetyRuntime :=
  if s.state = .disconnected then s else
    { s with
      flags := { s.flags with
        state := .fault
        faultLatched := true
        motorFaultLatched := s.flags.motorFaultLatched || motorFault
        hardwareTransition := false
        disableConfirmed := false }
      arm := { (if allowProtectiveHold then (s.arm.terminateTrajectory .fault).clearMailboxes.releaseOwners
          else ((s.arm.terminateTrajectory .fault).clearMailboxes.releaseOwners).clearSafe) with
        faultHoldActive := allowProtectiveHold && (armHoldAvailable || s.grippers.safeGrippers ≠ []) }
      grippers := if allowProtectiveHold then s.grippers else { s.grippers with safeGrippers := [] }
      }.record .disturbed

/-- `allow_protective_hold && prepare_protective_hold(…)`. -/
def holdIfAllowed (allowProtectiveHold : Bool) : Program Bool :=
  if allowProtectiveHold then prepareProtectiveHold config t else pure false

/-- `enter_fault`. -/
def enterFault (allowProtectiveHold : Bool) : Program Unit := do
  let armHoldAvailable ← holdIfAllowed config t allowProtectiveHold
  withCommand t (update (.enterFault allowProtectiveHold armHoldAvailable) fun i s =>
    s.enterFault allowProtectiveHold armHoldAvailable (currentMotorFaultReported config i))

/-- The section of `enter_safe_stop`. -/
def SafetyRuntime.enterSafeStop (s : SafetyRuntime) : Bool × SafetyRuntime :=
  if s.state = .disconnected ∨ s.state = .ready ∨ s.state = .fault then (false, s) else
    let active : Bool := s.arm.safePv ≠ [] ∨ s.arm.safeMit ≠ [] ∨ s.grippers.safeGrippers ≠ []
    (active, { s with
      flags := { s.flags with state := .safeStop, faultLatched := false }
      arm := { (s.arm.terminateTrajectory .fault).clearMailboxes.releaseOwners with
        faultHoldActive := active }
      progress := { s.progress with consecutiveHoldFailures := 0 } }.record .disturbed)

/-- `enter_safe_stop`. -/
def enterSafeStop : Program Bool := do
  let available ← prepareProtectiveHold config t
  if available then withCommand t (act .enterSafeStop fun _ s => s.enterSafeStop) else pure false

/-- `enter_safe_stop`, and `enter_fault` when no protective hold is available. -/
def enterSafeStopOrFault : Program Unit := do
  let stopped ← enterSafeStop config t
  Proc.when (!stopped) (enterFault config t true)

/-- The section of `enter_degraded`. -/
def SafetyRuntime.enterDegraded (s : SafetyRuntime) : SafetyRuntime :=
  if s.state = .running then { s with flags := { s.flags with state := .degraded } } else s

/-- Every arm motor has a current position in `enter_safe_hold_from_feedback`. -/
def currentPositions (i : Input) (now : ℕ) : Option (List Command) :=
  if config.armMotors ≠ [] ∧ config.armMotors.all fun motor => fresh config i motor.motor &&
      reads i motor.motor fun state => state.finitePos && state.statusCode = 1
  then some (config.armMotors.map fun motor => ⟨motor.motor, now⟩) else none

/-- The last section of `enter_safe_hold_from_feedback`. -/
def SafetyRuntime.enterSafeHold (s : SafetyRuntime) (mode : ControlMode) (commands : List Command) :
    Bool × SafetyRuntime :=
  if s.state = .running ∧ s.progress.hasSuccessfulCommand ∧ s.mode = mode then
    (true, { s with
      flags := { s.flags with state := .safeHold }
      arm := { s.arm.clearMailboxes with
        safePv := if mode = .pv then commands else []
        safeMit := if mode = .mit then commands else []
        faultHoldActive := false }
      progress := { s.progress with consecutiveHoldFailures := 0 } })
  else (false, s)

/-- `enter_safe_hold_from_feedback`. -/
def enterSafeHoldFromFeedback : Program Bool := do
  let mode ← look fun _ s =>
    if s.state = .running ∧ s.progress.hasSuccessfulCommand then some s.mode else none
  match mode with
  | none => pure false
  | some mode => withCommand t do
    let positions ← lookAt .safeHoldRead fun i s => (s.now, currentPositions config i s.now)
    match positions with
    | (_, none) => pure false
    | (since, some commands) =>
      act (.safeHoldInstall since mode commands) fun _ s => s.enterSafeHold mode commands

end Safety

end MotorDrive.Runtime
