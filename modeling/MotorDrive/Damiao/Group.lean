import MotorDrive.Damiao.Protocol

/-!
# Controller groups

`ControllerGroup` of `runtime.cpp`: one worker for each controller, woken by a generation count, and any number of
callers.  A step is what one thread does while it holds a mutex, or one send.  A spurious wakeup finds the
predicate of its wait false and changes nothing.

The group is not destroyed while it is used, so `stopping_` is left out.
-/

namespace MotorDrive.Damiao

/-! ## Commands -/

structure MitBatchCommand where
  /-- The address of the motor's handle, unless the pointer is null. -/
  motor : Option ℕ
  pos : ℚ
  vel : ℚ
  kp : ℚ
  kd : ℚ
  tau : ℚ
  deriving DecidableEq

structure PosVelBatchCommand where
  motor : Option ℕ
  pos : ℚ
  velocityLimit : ℚ
  deriving DecidableEq

inductive TaskKind
  | mit
  | posVel
  deriving DecidableEq

namespace TaskKind

/-- The commands of a kind of task. -/
abbrev Command : TaskKind → Type
  | .mit => MitBatchCommand
  | .posVel => PosVelBatchCommand

def motor : (kind : TaskKind) → kind.Command → Option ℕ
  | .mit, command => MitBatchCommand.motor command
  | .posVel, command => PosVelBatchCommand.motor command

def name : TaskKind → String
  | .mit => "MIT"
  | .posVel => "POS_VEL"

end TaskKind

/-- `kMaximumBatchCommands`. -/
def maximumBatchCommands : ℕ := 32

/-- A call of a group of `n` controllers. -/
structure GroupCall (n : ℕ) where
  kind : TaskKind
  commands : List kind.Command
  /-- What `owns_motor` of a controller answers for the command at a position. -/
  owns : ℕ → Fin n → Bool

namespace GroupCall

variable {n : ℕ} (call : GroupCall n)

/-- The first controller that owns the motor of the command at a position. -/
def owner (position : ℕ) : Option (Fin n) := (List.finRange n).find? (call.owns position)

/-- The loop of `partition`, from a position on, with the motors before it. -/
def assign : ℕ → List ℕ → List call.kind.Command → (Fin n → List call.kind.Command) →
    Except String Unit × (Fin n → List call.kind.Command)
  | _, _, [], batches => (.ok (), batches)
  | position, unique, command :: rest, batches =>
    match call.kind.motor command with
    | none => (.error (call.kind.name ++ " batch contains a null motor"), batches)
    | some motor =>
      if motor ∈ unique then (.error (call.kind.name ++ " batch contains a duplicate motor"), batches)
      else
        match call.owner position with
        | none => (.error (call.kind.name ++ " batch contains a foreign motor"), batches)
        | some i =>
          if maximumBatchCommands ≤ (batches i).length then
            (.error (call.kind.name ++ " controller batch is full"), batches)
          else assign (position + 1) (motor :: unique) rest (Function.update batches i (batches i ++ [command]))

/-- `partition`, and the batches it leaves. -/
def partition (batches : Fin n → List call.kind.Command) : Except String Unit × (Fin n → List call.kind.Command) :=
  if maximumBatchCommands < call.commands.length then
    (.error (call.kind.name ++ " batch exceeds fixed capacity"), batches)
  else call.assign 0 [] call.commands batches

/-- The commands from a position on that belong to a controller. -/
def ownedFrom (i : Fin n) : ℕ → List call.kind.Command → List call.kind.Command
  | _, [] => []
  | position, command :: rest =>
    if call.owner position = some i then command :: ownedFrom i (position + 1) rest
    else ownedFrom i (position + 1) rest

/-- The sub-batch of a controller. -/
def sub (i : Fin n) : List call.kind.Command := call.ownedFrom i 0 call.commands

end GroupCall

/-! ## States -/

/-- What a worker does for a call. -/
inductive WorkerEvent
  /-- It begins to send a batch. -/
  | handed (kind : TaskKind) (batch : List kind.Command)
  | sent (kind : TaskKind) (command : kind.Command)
  | finished (error : String)

/-- What happens in a group of `n` controllers with callers `θ`. -/
inductive GroupEvent (θ : Type) (n : ℕ)
  | accepted (t : θ) (call : GroupCall n)
  | rejected (t : θ) (call : GroupCall n) (what : String)
  | worker (i : Fin n) (event : WorkerEvent)
  | returned (t : θ) (result : Except String Unit)

/-- Where a caller is. -/
inductive CallerState (n : ℕ)
  | outside
  | calling (call : GroupCall n)
  | refused (what : String)
  | waiting
  | raising (errors : Fin n → String)

/-- Where a worker is in its loop. -/
inductive WorkerPhase
  | waiting
  /-- It has these commands left to send; `fresh` until one is sent. -/
  | sending (kind : TaskKind) (fresh : Bool) (rest : List kind.Command)
  | ended (error : String)

structure WorkerState where
  seenGeneration : UInt64
  phase : WorkerPhase

structure GroupState (θ : Type) (n : ℕ) where
  callMutex : Option θ
  callers : θ → CallerState n
  workers : Fin n → WorkerState
  generation : UInt64
  completed : ℕ
  taskKind : TaskKind
  /-- `mit_batches_` and `pos_vel_batches_`. -/
  batches : (kind : TaskKind) → Fin n → List kind.Command
  errors : Fin n → String
  /-- What has happened, oldest first. -/
  log : List (GroupEvent θ n)

/-- What the group knows of its controllers. -/
structure ControllerGroup (n : ℕ) where
  endpointLabel : Fin n → String
  /-- The identifier of the motor at an address. -/
  motorId : ℕ → UInt16

/-- How `send_mit_batch` or `send_pos_vel_batch` may fail. -/
inductive BatchFailure
  | closed
  | foreignMotor
  /-- The send to a motor throws an `std::exception`. -/
  | refused (motor : ℕ) (what : String)
  | unknown

/-- The error that a worker keeps. -/
def BatchFailure.text {n : ℕ} (g : ControllerGroup n) (i : Fin n) : BatchFailure → String
  | .closed => g.endpointLabel i ++ " is closed"
  | .foreignMotor => g.endpointLabel i ++ " received a motor it does not own"
  | .refused motor what => g.endpointLabel i ++ ", motor ID " ++ toString (g.motorId motor) ++ ": " ++ what
  | .unknown => "unknown native exception"

/-- The failures before the next command. -/
def BatchFailure.Possible (kind : TaskKind) (fresh : Bool) (rest : List kind.Command) : BatchFailure → Prop
  | .closed => fresh = true
  | .foreignMotor => rest ≠ []
  | .refused motor _ => ∃ command later, rest = command :: later ∧ kind.motor command = some motor
  | .unknown => rest ≠ []

/-- What `wait_and_raise` throws. -/
def raise {n : ℕ} (errors : Fin n → String) : Except String Unit :=
  let failed := (List.finRange n).filter fun i => errors i ≠ ""
  if failed = [] then .ok ()
  else .error ("controller group send failed" ++
    String.join (failed.map fun i => s!"; controller index {i.val}: {errors i}"))

/-! ## Steps -/

namespace GroupState

variable {θ : Type} {n : ℕ}

section Steps

variable [DecidableEq θ] (s : GroupState θ n)

def setCaller (t : θ) (caller : CallerState n) : GroupState θ n :=
  { s with callers := Function.update s.callers t caller }

def setPhase (i : Fin n) (phase : WorkerPhase) : GroupState θ n :=
  { s with workers := Function.update s.workers i { s.workers i with phase } }

def note (event : GroupEvent θ n) : GroupState θ n := { s with log := s.log ++ [event] }

/-- The section of `dispatch_mit` or `dispatch_pos_vel` under the state mutex. -/
def prepare (t : θ) (call : GroupCall n) : GroupState θ n :=
  match call.partition fun _ => [] with
  | (.error what, batches) =>
    (({ s with batches := Function.update s.batches call.kind batches }).setCaller t (.refused what)).note
      (.rejected t call what)
  | (.ok _, batches) =>
    (({ s with
        batches := Function.update s.batches call.kind batches
        taskKind := call.kind
        completed := 0
        errors := fun _ => ""
        generation := s.generation + 1 }).setCaller t .waiting).note (.accepted t call)

/-- A worker leaves its wait and copies its batch. -/
def wake (i : Fin n) : GroupState θ n :=
  let batch := s.batches s.taskKind i
  ({ s with workers := Function.update s.workers i ⟨s.generation, .sending s.taskKind true batch⟩ }).note
    (.worker i (.handed s.taskKind batch))

/-- A worker stores its error. -/
def report (i : Fin n) (error : String) : GroupState θ n :=
  (({ s with errors := Function.update s.errors i error, completed := s.completed + 1 }).setPhase i .waiting).note
    (.worker i (.finished error))

/-- A step of a thread. -/
inductive Step (g : ControllerGroup n) : GroupState θ n → GroupState θ n → Prop
  | lock {s : GroupState θ n} (t : θ) (call : GroupCall n) (outside : s.callers t = .outside)
    (free : s.callMutex = none) : Step g s ({ s with callMutex := some t }.setCaller t (.calling call))
  | prepare {s : GroupState θ n} (t : θ) (call : GroupCall n) (calling : s.callers t = .calling call) :
    Step g s (s.prepare t call)
  | refuse {s : GroupState θ n} (t : θ) (what : String) (refused : s.callers t = .refused what) :
    Step g s ({ s with callMutex := none }.setCaller t .outside)
  | wake {s : GroupState θ n} (i : Fin n) (asleep : (s.workers i).phase = .waiting)
    (signalled : s.generation ≠ (s.workers i).seenGeneration) : Step g s (s.wake i)
  | transmit {s : GroupState θ n} (i : Fin n) (kind : TaskKind) (fresh : Bool) (command : kind.Command)
    (rest : List kind.Command) (sending : (s.workers i).phase = .sending kind fresh (command :: rest)) :
    Step g s ((s.setPhase i (.sending kind false rest)).note (.worker i (.sent kind command)))
  | fail {s : GroupState θ n} (i : Fin n) (kind : TaskKind) (fresh : Bool) (rest : List kind.Command)
    (failure : BatchFailure) (sending : (s.workers i).phase = .sending kind fresh rest)
    (possible : failure.Possible kind fresh rest) : Step g s (s.setPhase i (.ended (failure.text g i)))
  | complete {s : GroupState θ n} (i : Fin n) (kind : TaskKind) (fresh : Bool)
    (sending : (s.workers i).phase = .sending kind fresh []) : Step g s (s.setPhase i (.ended ""))
  | report {s : GroupState θ n} (i : Fin n) (error : String) (ended : (s.workers i).phase = .ended error) :
    Step g s (s.report i error)
  | collect {s : GroupState θ n} (t : θ) (waiting : s.callers t = .waiting) (done : s.completed = n) :
    Step g s (s.setCaller t (.raising s.errors))
  | release {s : GroupState θ n} (t : θ) (errors : Fin n → String) (raising : s.callers t = .raising errors) :
    Step g s (({ s with callMutex := none }.setCaller t .outside).note (.returned t (raise errors)))

end Steps

/-- A group that has just been made. -/
def initial (θ : Type) (n : ℕ) : GroupState θ n where
  callMutex := none
  callers _ := .outside
  workers _ := ⟨0, .waiting⟩
  generation := 0
  completed := 0
  taskKind := .mit
  batches _ _ := []
  errors _ := ""
  log := []

/-- The states that a group reaches. -/
def Reach [DecidableEq θ] (g : ControllerGroup n) : GroupState θ n → Prop :=
  Relation.ReflTransGen (Step g) (initial θ n)

end GroupState

end MotorDrive.Damiao
