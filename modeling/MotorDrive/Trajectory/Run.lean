import MotorDrive.Library.History
import MotorDrive.Trajectory.Cycle

/-!
# Runs of the trajectory engine

The operations on the motions in any order: starts, cancellations, the terminations by the rest of the
runtime, changes of the mode and the power of motors, and control cycles.
-/

namespace MotorDrive.Trajectory

/-- An operation on the motions. -/
inductive Event (K : Type)
  | start (request : Request K) (replace : ℕ) (enqueue : Bool) (conditions : StartConditions K) (now : K)
  | cancel (id : ℕ)
  | cancelAll
  | terminate (ending : Ending) (error : String)
  | power (mode : ControlMode) (disabled : List Motor)
  | cycle (input : CycleInput K)

/-- What an operation answers. -/
inductive Reply (K : Type)
  | started (result : Except (StartError K) ℕ)
  | cancelled (result : Except (CancelError K) Unit)
  | cycled (outcome : Outcome) (seen : Option (Seen K))
  | done

section Step

variable {K : Type} [Field K] [LinearOrder K] (arms : List Motor) (roles : Motor → Option String) (sqrt : K → K)

/-- One operation.  A change of the mode or of the disabled motors terminates the motions first, and nothing
starts before its hardware transition ends. -/
def step (s : Engine K) : Event K → Engine K × Reply K
  | .start request replace enqueue conditions now =>
    let started := s.startTrajectory arms request replace enqueue conditions now
    (started.2, .started started.1)
  | .cancel id =>
    let cancelled := s.cancelMotion sqrt id
    (cancelled.2, .cancelled cancelled.1)
  | .cancelAll => (s.cancelAllMotions, .done)
  | .terminate ending error => (s.terminate ending error, .done)
  | .power mode disabled =>
    -- `recover` empties the set too, without an end of the trajectory; that path is left out
    let terminated := s.terminate .cancelled "trajectory cancelled by a motor power change"
    ({ terminated with mode := mode, intentionallyDisabled := disabled }, .done)
  | .cycle input =>
    let cycled := s.cycle roles input
    (cycled.2, .cycled cycled.1.1 cycled.1.2)

/-- An operation in a run. -/
abbrev Entry (K : Type) := History.Entry (Engine K) (Event K) (Reply K)

/-- The run of a list of operations on a new runtime. -/
def run (mode : ControlMode) (events : List (Event K)) : List (Entry K) :=
  History.run (step arms roles sqrt) (Engine.initial mode) events

/-- The state after a list of operations on a new runtime. -/
def final (mode : ControlMode) (events : List (Event K)) : Engine K :=
  History.final (step arms roles sqrt) (Engine.initial mode) events

end Step

end MotorDrive.Trajectory
