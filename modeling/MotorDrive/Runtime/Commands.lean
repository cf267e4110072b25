import MotorDrive.Runtime.Safety

/-!
# Motion commands

The commands of `runtime_commands.cpp`, `runtime_joint_position.cpp`, `runtime_trajectory.cpp` and
`runtime_gripper.cpp`, which take no `lifecycle_mutex_`, and the starting and stopping of gravity
compensation and bimanual follow of `runtime_gravity.cpp`, which do.  Arguments that fail validation
throw before the first section; the programs here are those of arguments that pass it, so a command
addresses every arm motor or every gripper.
-/

namespace MotorDrive.Runtime

open SafetyRuntime

namespace SafetyRuntime

/-- `require_state_for_command`. -/
def requireStateForCommand (s : SafetyRuntime) (allowGravity allowTrajectory : Bool)
    (planningToken : ℕ) : Except String Unit :=
  if s.flags.faultLatched ∨ s.flags.hardwareTransition ∨ s.flags.enableTransaction ∨
      s.flags.enableGraceTransition ∨ !s.state.commanding then
    .error "Articore runtime is not accepting motion commands"
  else if s.progress.activeCommandPlanningToken ≠ 0 ∧
      s.progress.activeCommandPlanningToken ≠ planningToken then
    .error "motion commands are owned by an active native planning transaction"
  else if !allowGravity ∧ s.arm.gravity.phase ≠ .inactive then
    .error "arm commands are owned by active gravity compensation"
  else if !allowTrajectory ∧ s.arm.trajectory.state = .running then
    .error "arm commands are owned by an active native trajectory"
  else .ok ()

/-- The token of a planned command is still the active one. -/
def requirePlanning (s : SafetyRuntime) (planningToken : ℕ) : Except String Unit :=
  if planningToken ≠ 0 ∧ s.progress.activeCommandPlanningToken ≠ planningToken then
    .error "Runtime state changed while planning the command"
  else .ok ()

/-- The planning transaction ends with the command it was for. -/
def endPlanning (progress : Progress) (planningToken : ℕ) : Progress :=
  if planningToken = 0 then progress else { progress with activeCommandPlanningToken := 0 }

end SafetyRuntime

section Commands

variable (config : RuntimeConfig) (t : Thread)

/-- A command for every arm motor, from one instant. -/
def armCommands (origin : ℕ) : List Command :=
  config.armMotors.map fun motor => ⟨motor.motor, origin⟩

/-- The mailbox of an accepted command. -/
def acceptedMailbox (generation : ℕ) (streaming jointPosition : Bool) : ArmMailbox :=
  { valid := true, userCommand := true, streaming, generation, jointPosition }

/-! ## Raw commands -/

/-- The section of `submit_pos_vel_ex` and `submit_mit_ex`. -/
def SafetyRuntime.submit (s : SafetyRuntime) (mode : ControlMode) (streaming : Bool) :
    Except String Unit × SafetyRuntime :=
  match s.requireStateForCommand false false 0 with
  | .error error => (.error error, s)
  | .ok _ =>
    if s.arm.bimanual.isSome then
      (.error "raw commands cannot replace active bimanual ordinary control", s)
    else if s.mode ≠ mode then (.error "cannot submit while runtime mode differs", s)
    else (.ok (), (s.setArm { s.arm with
      armGeneration := s.arm.armGeneration + 1
      pending := (acceptedMailbox (s.arm.armGeneration + 1) streaming false).withCommands mode
        (armCommands config s.now) }).record (.accepted true 0 .arm))

/-- `submit_pos_vel_ex` and `submit_mit_ex`. -/
def submit (mode : ControlMode) (streaming : Bool) : Program Unit :=
  actThrow (.submit mode streaming) fun _ s => s.submit config mode streaming

/-! ## Ordinary joint positions -/

/-- The feedback that `install_joint_position` requires of every joint. -/
def installable (i : Input) : Bool :=
  config.armMotors.all fun motor => fresh config i motor.motor && reads i motor.motor fun state =>
    state.finitePos && state.statusCode = 1

/-- The arm of a completed trajectory that an ordinary command replaces. -/
def Arm.replaceCompleted (arm : Arm) : Arm :=
  if arm.trajectory.state = .completed then arm.terminateTrajectory .cancelled else arm

/-- The section of `install_joint_position`. -/
def SafetyRuntime.install (s : SafetyRuntime) (mode : ControlMode) (planningToken : ℕ) (client : Bool)
    (i : Input) : Except String Unit × SafetyRuntime :=
  match s.requirePlanning planningToken, s.requireStateForCommand false false planningToken with
  | .error error, _ => (.error error, s)
  | _, .error error => (.error error, s)
  | .ok _, .ok _ =>
    let arm := s.arm.replaceCompleted
    if s.mode ≠ mode then
      (.error "ordinary position command requires matching runtime mode", s.setArm arm)
    else if (List.range 2).any fun side => config.activeSide side &&
        !((s.sides side).connected && (s.sides side).transportHealthy) then
      (.error "transport is not healthy for ordinary position control", s.setArm arm)
    else if !installable config i then
      (.error "complete fresh enabled feedback is required for ordinary position control",
        s.setArm arm)
    else if arm.mailbox.jointPosition ∧ !(config.armMotors.all fun motor =>
        (arm.mailbox.commands mode).any fun c => c.motor = motor.motor) then
      (.error "ordinary reference state does not match the active arm layout", s.setArm arm)
    else (.ok (), { s with
      arm := { arm with
        pending := {}
        armGeneration := arm.armGeneration + 1
        mailbox := (acceptedMailbox (arm.armGeneration + 1) false true).withCommands mode
          (armCommands config s.now) }
      progress := { endPlanning s.progress planningToken with firstCommandAccepted := true }
      }.record (.accepted client planningToken .arm))

/-- `install_joint_position`, behind `set_joint_pv`, `set_joint_mit` and `set_joint_mit_fast`. -/
def installJointPosition (mode : ControlMode) (planningToken : ℕ) (client : Bool) : Program Unit :=
  withCommand t (actThrow (.install mode planningToken client) fun i s =>
     s.install config mode planningToken client i)

/-! ## Trajectories -/

/-- `begin_command_planning`.  The tokens are natural numbers, so no counter wraps and has to skip zero. -/
def SafetyRuntime.beginPlanning (s : SafetyRuntime) (allowTrajectory : Bool) :
    Except String ℕ × SafetyRuntime :=
  match s.requireStateForCommand false allowTrajectory 0 with
  | .error error => (.error error, s)
  | .ok _ => (.ok s.progress.nextCommandPlanningToken, { s with progress := { s.progress with
      activeCommandPlanningToken := s.progress.nextCommandPlanningToken
      nextCommandPlanningToken := s.progress.nextCommandPlanningToken + 1 } }.record
        (.planned s.progress.nextCommandPlanningToken))

def beginCommandPlanning (allowTrajectory : Bool) : Program ℕ :=
  withCommand t (actThrow (.beginPlanning allowTrajectory) fun _ s => s.beginPlanning allowTrajectory)

/-- The section of `cancel_command_planning`. -/
def SafetyRuntime.cancelPlanning (s : SafetyRuntime) (token : ℕ) : SafetyRuntime :=
  if s.progress.activeCommandPlanningToken = token then
    { s with progress := { s.progress with activeCommandPlanningToken := 0 } }
  else s

/-- `cancel_command_planning`. -/
def cancelCommandPlanning (token : ℕ) : Program Unit :=
  update (.cancelPlanning token) fun _ s => s.cancelPlanning token

/-- A planned command: the planning scope ends on every path. -/
def planned (allowTrajectory : Bool) (command : ℕ → Program Unit) : Program Unit := do
  let token ← beginCommandPlanning t allowTrajectory
  Proc.tryCatch (command token) fun error => do
    cancelCommandPlanning token
    .throw error
  cancelCommandPlanning token

/-- The tests of `start_trajectory` on the state. -/
def SafetyRuntime.checkTrajectory (s : SafetyRuntime) (mode : ControlMode) (enqueue : Bool)
    (replace planningToken : ℕ) : Except String Unit :=
  match s.requirePlanning planningToken,
    s.requireStateForCommand false (enqueue || replace != 0) planningToken with
  | .error error, _ => .error error
  | _, .error error => .error error
  | .ok _, .ok _ =>
    if s.arm.bimanual.isSome then
      .error "trajectory cannot replace active bimanual ordinary control"
    else if s.mode ≠ mode then .error "trajectory mode does not match the active Runtime mode"
    else if !enqueue ∧ s.arm.trajectory.state = .running ∧
        (replace = 0 ∨ s.arm.trajectory.id ≠ replace) then .error "a trajectory is already running"
    else if replace ≠ 0 ∧ (s.arm.trajectory.state ≠ .running ∨ s.arm.trajectory.id ≠ replace) then
      .error "trajectory changed while preparing its replacement"
    else if enqueue ∧ 64 ≤ s.arm.trajectoryQueue.length then .error "motion queue is full"
    else .ok ()

/-- The power feedback that `start_trajectory` requires of every joint. -/
def trajectoryReadable (i : Input) (disabled : List Handle) : Bool :=
  config.armMotors.all fun motor => fresh config i motor.motor && reads i motor.motor fun state =>
    state.finitePos && state.finiteVel &&
      state.statusCode = if disabled.contains motor.motor then 0 else 1

/-- A trajectory that is not running is archived before the next one replaces it. -/
def Arm.archiveStopped (arm : Arm) : Arm :=
  if arm.trajectory.state = .running then arm else arm.archive arm.trajectory

/-- The last section of `start_trajectory`. -/
def SafetyRuntime.startTrajectory (s : SafetyRuntime) (mode : ControlMode) (enqueue : Bool)
    (replace planningToken : ℕ) : Except String Unit × SafetyRuntime :=
  match s.checkTrajectory mode enqueue replace planningToken with
  | .error error => (.error error, s)
  | .ok _ =>
    let prepared : TrajectoryControl :=
      ⟨.running, s.arm.nextMotionId, s.now, config.armMotors.map MotorRecord.motor⟩
    let arm := { s.arm with nextMotionId := s.arm.nextMotionId + 1 }
    (.ok (), if enqueue ∧ s.arm.trajectory.state = .running then
        { s with
          arm := { arm with trajectoryQueue := arm.trajectoryQueue ++ [prepared] }
          progress := endPlanning s.progress planningToken }.record
            (.accepted true planningToken .fifo)
      else
        { s with
          arm := { arm.archiveStopped.clearMailboxes with trajectory := prepared }
          progress := endPlanning s.progress planningToken }.record
            (.accepted true planningToken .arm))

/-- `start_trajectory`. -/
def startTrajectory (mode : ControlMode) (enqueue : Bool) (replace planningToken : ℕ) :
    Program Unit :=
  withCommand t do
    let disabled ← lookThrow fun _ s =>
      match s.checkTrajectory mode enqueue replace planningToken with
      | .error error => .error error
      | .ok _ => if s.state = .degraded then
          .error "cannot start a trajectory while Runtime is degraded"
        else .ok s.intentionallyDisabled
    let readable ← look fun i _ => trajectoryReadable config i disabled
    if readable then
      actThrow (.trajectoryStart mode enqueue replace planningToken) fun _ s =>
        s.startTrajectory config mode enqueue replace planningToken
    else .throw "trajectory start requires fresh fault-free feedback"

/-- A queued motion is taken out of the queue and archived. -/
def Arm.cancelQueued (arm : Arm) (queued : TrajectoryControl) : Arm :=
  { arm.archive { queued with state := .cancelled } with
    trajectoryQueue := arm.trajectoryQueue.filter fun other => other.id ≠ queued.id }

/-- The section of `cancel_motion`.  A queued motion with a successor has to be detached from its
neighbours, which may fail. -/
def SafetyRuntime.cancelMotion (s : SafetyRuntime) (id : ℕ) (i : Input) :
    Except String Unit × SafetyRuntime :=
  if s.arm.trajectory.id = id then
    if s.arm.trajectory.state = .running then (.ok (), s.setArm (s.arm.terminateTrajectory .cancelled))
    else (.ok (), s)
  else
    match s.arm.trajectoryQueue.find? fun queued => queued.id = id with
    | some queued =>
      if (s.arm.trajectoryQueue.getLast?.map TrajectoryControl.id) ≠ some id ∧ !i.ok then
        (.error "queued motion cannot be safely detached from its FIFO neighbors", s)
      else (.ok (), s.setArm (s.arm.cancelQueued queued))
    | none =>
      if s.arm.trajectoryHistory.any fun entry => entry.1 = id then (.ok (), s)
      else (.error "motion id is not available", s)

/-- `cancel_motion`. -/
def cancelMotion (id : ℕ) : Program Unit :=
  if id = 0 then .throw "motion id must be non-zero" else
    withCommand t (actThrow (.cancelMotion id) fun i s => s.cancelMotion id i)

/-- `cancel_all_motions`. -/
def cancelAllMotions : Program Unit :=
  withCommand t (update .cancelAllMotions fun _ s => s.setArm (s.arm.terminateTrajectory .cancelled))

/-! ## Grippers -/

/-- The last section of `set_gripper_commands`. -/
def SafetyRuntime.installGrippers (s : SafetyRuntime) : Except String Unit × SafetyRuntime :=
  match s.requireStateForCommand true false 0 with
  | .error error => (.error error, s)
  | .ok _ => (.ok (), { s with grippers := { s.grippers with
      targets := config.gripperMotors.map MotorRecord.motor
      commandGeneration := s.grippers.commandGeneration + 1 } }.record (.accepted true 0 .gripper))

/-- `set_gripper_commands`, behind `set_gripper_openings`. -/
def setGripperCommands : Program Unit := do
  lookThrow fun _ s => s.requireStateForCommand true false 0
  withCommand t (actThrow .gripperInstall fun _ s => s.installGrippers config)

/-- The safe command of a gripper after a raw frame. -/
def rememberGrippers (safe : List Command) (motors : List Handle) (now : ℕ) : List Command :=
  (safe.filter fun c => !motors.contains c.motor) ++ motors.map fun motor => ⟨motor, now⟩

/-- The section in which `submit_gripper_mit` is accepted. -/
def SafetyRuntime.acceptRawGripper (s : SafetyRuntime) : Except String ℕ × SafetyRuntime :=
  match s.requireStateForCommand true false 0 with
  | .error error => (.error error, s)
  | .ok _ => (.ok s.now, s.record (.accepted true 0 .gripper))

/-- The send of `submit_gripper_mit`, which filters nothing. -/
def sendRawGripper (motors : List Handle) : Program Bool := do
  let since ← actThrow .rawGripperAccept fun _ s => s.acceptRawGripper
  let sent ← send .rawGripper since [] (motors.map fun motor => ⟨motor, since⟩)
  Proc.when sent (update (.rawGripperSent motors) fun _ s => { s with grippers := { s.grippers with
    safeGrippers := rememberGrippers s.grippers.safeGrippers motors s.now } })
  pure sent

/-- What `submit_gripper_mit` does after a failed send. -/
def rawGripperFailed : Program Unit := do
  update .sendFailed fun _ s => { s with progress := { s.progress with
    consecutiveSendFailures := s.progress.consecutiveSendFailures + 1 } }
  let held ← enterSafeHoldFromFeedback config t
  Proc.when (!held) (enterFault config t true)
  .throw "gripper group send failed"

/-- `submit_gripper_mit`. -/
def submitGripperMit (motors : List Handle) : Program Unit :=
  if motors ≠ [] ∧ motors.Nodup ∧ motors.all fun motor =>
      config.gripperMotors.any fun record => record.motor = motor then do
    lookThrow fun _ s => s.requireStateForCommand true false 0
    let sent ← withCommand t (sendRawGripper motors)
    if sent then pure () else rawGripperFailed config t
  else .throw "gripper command contains an unexpected motor"

/-! ## Gravity compensation and bimanual follow -/

/-- The joints have finite enabled feedback. -/
def jointsReadable (i : Input) : Bool :=
  config.gravityJoints.all fun motor => reads i motor fun state =>
    state.statusCode = 1 && state.finitePos && state.finiteVel

/-- The first section of `start_gravity_compensation`. -/
def SafetyRuntime.checkGravity (s : SafetyRuntime) : Except String Unit :=
  if s.flags.hardwareTransition ∨ s.flags.faultLatched ∨
      (s.state ≠ .enabled ∧ s.state ≠ .running) then
    .error "gravity compensation requires an enabled Runtime"
  else if s.mode ≠ .mit then .error "gravity compensation requires MIT control mode"
  else if s.arm.gravity.phase ≠ .inactive then .error "gravity compensation is already active"
  else if s.arm.bimanual.isSome then
    .error "gravity compensation cannot replace active bimanual follow"
  else if s.arm.trajectory.state = .running then
    .error "gravity compensation cannot replace an active trajectory"
  else .ok ()

/-- The last section of `start_gravity_compensation`. -/
def SafetyRuntime.startGravity (s : SafetyRuntime) (since time : ℕ) : SafetyRuntime :=
  { s with
    flags := { s.flags with state := .running }
    arm := { s.arm.clearMailboxes with gravity := ⟨.entering, since⟩, bimanual := none }
    progress := { s.progress with
      hasSuccessfulCommand := true, lastSuccessfulCommand := time } }.record (.accepted true 0 .arm)

/-- `start_gravity_compensation`. -/
def startGravityCompensation : Program Unit :=
  withCommand .lifecycle do
    lookThrowAt .gravityCheck fun _ s => s.checkGravity
    let (since, readable) ← lookAt .ownerRead fun i s => (s.now, jointsReadable config i)
    if config.gravityJoints ≠ [] ∧ readable then
      update (.gravityStart since) fun i s => s.startGravity since i.time
    else .throw "gravity compensation requires finite enabled feedback"

/-- The first section of `stop_gravity_compensation`; it says whether there is something to stop. -/
def SafetyRuntime.checkStopGravity (s : SafetyRuntime) : Except String Bool :=
  if s.arm.gravity.phase = .inactive then .ok false
  else if s.flags.hardwareTransition ∨ s.flags.faultLatched ∨
      (s.state ≠ .enabled ∧ s.state ≠ .running ∧ s.state ≠ .degraded) then
    .error "gravity compensation cannot stop in the current Runtime state"
  else .ok true

/-- `stop_gravity_compensation`. -/
def stopGravityCompensation : Program Unit :=
  withCommand .lifecycle do
    let active ← lookThrowAt .stopGravityCheck fun _ s => s.checkStopGravity
    Proc.when active do
      let (since, readable) ← lookAt .ownerRead fun i s => (s.now, jointsReadable config i)
      if readable then
        update (.gravityStop since) fun _ s => s.setArm { s.arm with gravity := ⟨.exiting, since⟩ }
      else .throw "current position is unavailable while leaving gravity compensation"

/-- The first section of `start_bimanual_follow`. -/
def SafetyRuntime.checkBimanual (s : SafetyRuntime) : Except String Unit :=
  if s.flags.hardwareTransition ∨ s.flags.faultLatched ∨
      (s.state ≠ .enabled ∧ s.state ≠ .running) then
    .error "bimanual follow requires a fully enabled Runtime"
  else if s.arm.gravity.phase ≠ .inactive then
    .error "bimanual follow cannot replace active gravity compensation"
  else if s.arm.trajectory.state = .running then
    .error "bimanual follow cannot replace an active trajectory"
  else if !s.arm.mailbox.valid ∨ !s.arm.mailbox.jointPosition ∨
      (s.arm.mailbox.commands s.mode).length ≠ config.gravityJoints.length then
    .error "bimanual follow requires an ordinary current-position PV/MIT hold"
  else .ok ()

/-- The last section of `start_bimanual_follow`. -/
def SafetyRuntime.startBimanual (s : SafetyRuntime) (since time : ℕ) : SafetyRuntime :=
  { s with
    flags := { s.flags with state := .running }
    arm := { s.arm with pending := {}, bimanual := some since }
    progress := { s.progress with
      hasSuccessfulCommand := true, lastSuccessfulCommand := time } }.record (.accepted true 0 .arm)

/-- `start_bimanual_follow`. -/
def startBimanualFollow : Program Unit :=
  withCommand .lifecycle do
    lookThrowAt .bimanualCheck fun _ s => s.checkBimanual config
    let (since, readable) ← lookAt .ownerRead fun i s =>
      (s.now, jointsReadable config i && config.gravityJoints.all (fresh config i))
    if readable then update (.bimanualStart since) fun i s => s.startBimanual since i.time
    else .throw "bimanual follow requires fresh enabled feedback"

/-- The last section of `stop_bimanual_follow`: every joint of the mailbox holds where it was read. -/
def SafetyRuntime.stopBimanual (s : SafetyRuntime) (since : ℕ) : Except String Unit × SafetyRuntime :=
  if config.gravityJoints.all fun motor =>
      (s.arm.mailbox.commands s.mode).any fun c => c.motor = motor then
    (.ok (), s.setArm { s.arm with
      bimanual := none
      mailbox := { s.arm.mailbox with
        pv := s.arm.mailbox.pv.map fun c =>
          if s.mode = .pv ∧ config.gravityJoints.contains c.motor then ⟨c.motor, since⟩ else c
        mit := s.arm.mailbox.mit.map fun c =>
          if s.mode = .mit ∧ config.gravityJoints.contains c.motor then ⟨c.motor, since⟩ else c } })
  else (.error "bimanual hold lost the product layout", s)

/-- `stop_bimanual_follow`. -/
def stopBimanualFollow : Program Unit :=
  withCommand .lifecycle do
    let active ← look fun _ s => s.arm.bimanual.isSome
    Proc.when active do
      let (since, readable) ← lookAt .ownerRead fun i s => (s.now, jointsReadable config i)
      if readable then actThrow (.bimanualStop since) fun _ s => s.stopBimanual config since
      else .throw "current position is unavailable while stopping bimanual follow"

end Commands

end MotorDrive.Runtime
