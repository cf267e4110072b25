import MotorDrive.Library.History
import MotorDrive.Control.Cycle

/-!
# Runs of the arm control

Position commands, updates of the limits, starts and stops of the bimanual follow, everything else that
replaces the mailbox, and control cycles, in any order.
-/

namespace MotorDrive.Control

open Trajectory (Motor)

/-- An operation on the arm control. -/
inductive Event (K : Type)
  | install (request : JointPosition K) (allowed : Except String Unit) (feedback : Motor → MotorState K)
  | motionLimits (maxReferenceVelocity maxReferenceAcceleration pvVelocityLimit : K)
  | profileLimits (velocities accelerations : List K)
  | fromFeedback (requireEnabled : Bool) (feedback : Motor → MotorState K)
  | startFollow (leaderSide : Side) (allowed : Except String Unit) (feedback : Motor → MotorState K)
  | stopFollow (feedback : Motor → MotorState K)
  | resetFollow
  | replace (pv : Option (List (PvCommand K)))
  | cycle (input : CycleInput K)

/-- What an operation answers. -/
inductive Reply (K : Type)
  | result (result : Except String Unit)
  | cycled (outcome : Outcome K)

section Step

variable {K : Type} [Field K] [LinearOrder K] (sqrt : K → K) (config : Config K)

/-- One operation.  `replace` stands for a raw PV command or a trajectory, which write their commands, and for
whatever clears the mailbox. -/
def step (c : ArmControl K) : Event K → ArmControl K × Reply K
  | .install request allowed feedback =>
    let installed := c.installJointPosition config request allowed feedback
    (installed.2, .result installed.1)
  | .motionLimits maxReferenceVelocity maxReferenceAcceleration pvVelocityLimit =>
    let updated := c.updateMotionLimits config maxReferenceVelocity maxReferenceAcceleration pvVelocityLimit
    (updated.2, .result updated.1)
  | .profileLimits velocities accelerations =>
    let updated := c.updateProfileLimits config velocities accelerations
    (updated.2, .result updated.1)
  | .fromFeedback requireEnabled feedback =>
    let initialized := c.initializeArmMailbox config requireEnabled feedback
    (initialized.2, .result initialized.1)
  | .startFollow leaderSide allowed feedback =>
    let started := c.startBimanualFollow config leaderSide allowed feedback
    (started.2, .result started.1)
  | .stopFollow feedback =>
    let stopped := c.stopBimanualFollow config feedback
    (stopped.2, .result stopped.1)
  | .resetFollow => ({ c with follow := none }, .result (.ok ()))
  | .replace pv => ({ c with mailbox := pv.elim .empty .commands }, .result (.ok ()))
  | .cycle input =>
    let cycled := c.cycle sqrt config input
    (cycled.2, .cycled cycled.1)

/-- An operation in a run. -/
abbrev Entry (K : Type) := History.Entry (ArmControl K) (Event K) (Reply K)

/-- The run of a list of operations on a new runtime. -/
def run (events : List (Event K)) : List (Entry K) := History.run (step sqrt config) ⟨.empty, none⟩ events

/-- The state after a list of operations on a new runtime. -/
def final (events : List (Event K)) : ArmControl K := History.final (step sqrt config) ⟨.empty, none⟩ events

end Step

end MotorDrive.Control
