import MotorDrive.Runtime.Lifecycle
import MotorDrive.Runtime.Worker

/-!
# The Runtime as a system of threads

The calls of the Runtime and the iterations of its worker, each on the thread that runs it.  A run
interleaves their sections in any order.
-/

namespace MotorDrive.Runtime

open Threads SafetyRuntime

/-- The calls that hold `lifecycle_mutex_`. -/
inductive LifecycleCall
  | connect | disable | estop | recover | close | setZero | clearFaults
  | enable (mode : ControlMode)
  | configureMode (mode : ControlMode)
  | motorPowerState (role : Option Handle)
  | setMotorPowerBatch (selected : List Handle) (enabled : Bool)
  | startGravityCompensation | stopGravityCompensation | startBimanualFollow | stopBimanualFollow
  deriving DecidableEq, Repr

/-- The calls that do not. -/
inductive ClientCall
  | submit (mode : ControlMode) (streaming : Bool)
  | setJoint (mode : ControlMode)
  | setJointPlanned (mode : ControlMode)
  | startTrajectory (mode : ControlMode) (enqueue : Bool) (replace : ℕ)
  | startTrajectoryPlanned (mode : ControlMode) (enqueue : Bool) (replace : ℕ)
  | cancelMotion (id : ℕ)
  | cancelAllMotions | setGripperCommands
  | submitGripperMit (motors : List Handle)
  | clearFaultsTimeout
  deriving DecidableEq, Repr

/-- The operations of the system.  `valid` says that the arguments of a client's call pass the
validation, which reads nothing but the configuration. -/
inductive Op
  | lifecycle (call : LifecycleCall)
  | worker
  | client (n : ℕ) (valid : Bool) (call : ClientCall)
  deriving DecidableEq, Repr

section System

variable (config : RuntimeConfig)

def lifecycleBody : LifecycleCall → Program Unit
  | .connect => connect config
  | .disable => disable config
  | .estop => estop config
  | .recover => recover config
  | .close => close config
  | .setZero => setZero config
  | .clearFaults => clearFaults config
  | .enable mode => enable config mode
  | .configureMode mode => configureMode config mode
  | .motorPowerState role => motorPowerState config role
  | .setMotorPowerBatch selected enabled => do
    let _ ← setMotorPowerBatch config selected enabled
  | .startGravityCompensation => startGravityCompensation config
  | .stopGravityCompensation => stopGravityCompensation config
  | .startBimanualFollow => startBimanualFollow config
  | .stopBimanualFollow => stopBimanualFollow config

def clientBody (t : Thread) : ClientCall → Program Unit
  | .submit mode streaming => submit config mode streaming
  | .setJoint mode => installJointPosition config t mode 0 true
  | .setJointPlanned mode => planned t false fun token =>
      installJointPosition config t mode token true
  | .startTrajectory mode enqueue replace => startTrajectory config t mode enqueue replace 0
  | .startTrajectoryPlanned mode enqueue replace => planned t (enqueue || replace != 0) fun token =>
      startTrajectory config t mode enqueue replace token
  | .cancelMotion id => cancelMotion t id
  | .cancelAllMotions => cancelAllMotions t
  | .setGripperCommands => setGripperCommands config t
  | .submitGripperMit motors => submitGripperMit config t motors
  | .clearFaultsTimeout => clearFaultsTimeout config

/-- The Runtime: its calls and its worker. -/
def runtime : Machine Thread SafetyRuntime Input Site String Op where
  thread
    | .lifecycle _ => .lifecycle
    | .worker => .worker
    | .client n _ _ => .client n
  body
    | .lifecycle call => withLifecycle (lifecycleBody config call)
    | .worker => workerIteration config
    | .client n valid call =>
      if valid then clientBody config (.client n) call else .throw "invalid argument"
  start := {}

end System

/-! ## Schedules -/

namespace Scenario

/-- A robot of one arm motor and one gripper on the left channel. -/
def config : RuntimeConfig where
  motors := [⟨1, 0, false, some 11⟩, ⟨2, 0, true, some 12⟩]

abbrev Move := Threads.Move Thread Input Op

/-- The state a motor of the robot reports. -/
def motorState (status : ℕ) (motor : Handle) : MotorState :=
  { statusCode := status, canId := 10 + motor }

/-- A healthy answer with every motor in one power state. -/
def powered (status : ℕ) : Input := { states := fun motor => some (motorState status motor) }

/-- Advance a thread several times with the same answers. -/
def advance (t : Thread) (n : ℕ) (i : Input) : List Move := List.replicate n (.advance t i)

/-- A lifecycle call of `n` sections. -/
def call (lifecycle : LifecycleCall) (n : ℕ) (i : Input) : List Move :=
  .start (.lifecycle lifecycle) :: advance .lifecycle n i

/-- A connected Runtime that has found both motors enabled. -/
def partlyEnabled : List Move :=
  call .connect 7 (powered 0) ++ call (.motorPowerState none) 9 (powered 1)

/-- A raw command of a client. -/
def submitted (mode : ControlMode) (streaming : Bool) : List Move :=
  [.start (.client 0 true (.submit mode streaming)), .advance (.client 0) {}]

end Scenario

end MotorDrive.Runtime
