import MotorDrive.Control.Commands
import MotorDrive.Control.Torque
import MotorDrive.Library.History

/-!
# Gravity compensation

`start_gravity_compensation`, `stop_gravity_compensation` and `run_gravity_control_cycle`.  The gravity scale is
not stored: it is computed from the phase, the time the phase started, its duration and the scale the phase
started at.

Main results:

* `mit_torque_ceiling`: the MIT batches of both control cycles stay within the torque limits of their joints.
-/

namespace MotorDrive.Control

open Trajectory (Motor)
open Validate

/-! ## The arms -/

/-- A joint of a `GravityArm`. -/
structure GravityJoint (K : Type) where
  motor : Motor
  positionDirection : K
  torqueCommandScale : K

/-- A `GravityArm`; `gravity` stands for `gravity_realtime` of its robot model. -/
structure GravityArm (K : Type) where
  joints : Fin armDof → GravityJoint K
  gravity : (Fin armDof → K) → Fin armDof → K

/-- What gravity compensation finds configured. -/
structure GravityConfig (K : Type) [Zero K] [LT K] where
  arms : List (GravityArm K)
  configs : MitConfigs K

/-! ## The blend -/

/-- `ArticoreGravityCompensationPhase`. -/
inductive GravityPhase
  | inactive | entering | active | exiting
  deriving DecidableEq, Repr

/-- `GravityControl`; times are in seconds and the duration in milliseconds. -/
structure GravityControl (K : Type) where
  phase : GravityPhase
  transitionStarted : K
  transitionDuration : ℕ
  transitionStartGravityScale : K
  holdPositions : List K
  controlCycles : ℕ

variable {K : Type} [Field K] [LinearOrder K]

/-- `transition_progress`. -/
def transitionProgress (now started : K) (duration : ℕ) : K :=
  if duration = 0 then 1 else max 0 (min 1 ((now - started) / (duration / 1000)))

/-- The progress of a phase. -/
def GravityControl.progress (control : GravityControl K) (now : K) : K :=
  if control.phase = .active then 1
  else transitionProgress now control.transitionStarted control.transitionDuration

/-- The gravity scale; without gravity compensation there is no gravity feedforward. -/
def GravityControl.scale (control : GravityControl K) (now : K) : K :=
  match control.phase with
  | .inactive => 0
  | .entering => control.transitionStartGravityScale +
      (1 - control.transitionStartGravityScale) * control.progress now
  | .active => 1
  | .exiting => control.transitionStartGravityScale * (1 - control.progress now)

/-! ## The request of a cycle -/

/-- The finite position and velocity of enabled feedback. -/
def MotorState.enabledReading (state : MotorState K) : Option (Reading K) :=
  if state.hasValue ∧ state.statusCode = 1 then
    state.position.bind fun position => state.velocity.map fun velocity => ⟨position, velocity⟩
  else none

/-- The commands of an arm at a gravity scale. -/
def GravityArm.request (arm : GravityArm K) (configs : MitConfigs K) (feedback : Motor → MotorState K)
    (hold : Fin armDof → Option K) (gravityScale : K) : Except String (List (MitCommand K)) := do
  let reading := fun joint => (feedback (arm.joints joint).motor).enabledReading
  reject (∃ joint, (reading joint).isNone = true) "gravity compensation requires finite enabled feedback"
  let position := fun joint => ((reading joint).map Reading.position).getD 0
  let gravity := arm.gravity fun joint => (arm.joints joint).positionDirection * position joint
  let holdScale := 1 - gravityScale
  (List.finRange armDof).mapM fun joint =>
    match configs.lookup (arm.joints joint).motor, if 0 < holdScale then hold joint else some (position joint) with
    | some gains, some target => .ok
        { motor := (arm.joints joint).motor
          targetPosition := target
          targetVelocity := 0
          stiffness := gains.mitKp * holdScale
          damping := gains.mitKd * holdScale
          feedforwardTorque := (arm.joints joint).positionDirection * (arm.joints joint).torqueCommandScale *
            gravity joint * gravityScale }
    | _, _ => .error "out of range"

/-- What `run_gravity_control_cycle` asks the limiter for. -/
def gravityRequest (gravity : GravityConfig K) (feedback : Motor → MotorState K) (holdPositions : List K)
    (gravityScale : K) : Except String (List (MitCommand K)) :=
  List.flatten <$> gravity.arms.zipIdx.mapM fun (arm, side) =>
    arm.request gravity.configs feedback (fun joint => holdPositions[side * armDof + joint]?) gravityScale

/-! ## The cycle -/

/-- What a cycle finds: the time it was started at, the feedback its request is built from, the feedback the
limiter reads, the grippers and whether the backend accepts the batch. -/
structure GravityInput (K : Type) where
  now : K
  feedback : Motor → MotorState K
  limiterFeedback : Motor → MotorState K
  degraded : Bool
  grippers : Except String (List (MitCommand K))
  sends : Bool

/-- `gravity_control_`, the commands of `arm_mailbox_` and the record of MIT batches. -/
structure GravityState (K : Type) where
  control : GravityControl K
  armMailbox : List (MitCommand K)
  record : MitRecord K

/-- What a sent batch does to the phase. -/
def GravityControl.advance (control : GravityControl K) (now : K) : GravityControl K :=
  { control with
    controlCycles := control.controlCycles + 1
    phase := if control.progress now < 1 then control.phase
      else match control.phase with
        | .entering => .active
        | .exiting => .inactive
        | phase => phase }

/-- A sent batch; the end of the exit leaves the last request in the mailbox. -/
def GravityState.commit (state : GravityState K) (now : K) (requested : List (MitCommand K)) : GravityState K :=
  { state with
    control := state.control.advance now
    armMailbox := if state.control.phase = .exiting ∧ ¬ state.control.progress now < 1 then requested
      else state.armMailbox }

/-- `run_gravity_control_cycle`; nothing happens while the phase is inactive. -/
def GravityState.runGravityControlCycle (state : GravityState K) (gravity : GravityConfig K)
    (input : GravityInput K) : Option (MitOutcome K) × GravityState K :=
  if state.control.phase = .inactive then (none, state)
  else match gravityRequest gravity input.feedback state.control.holdPositions (state.control.scale input.now) with
    | .error error => (some (.failed error), state)
    | .ok requested =>
      let (outcome, record) := state.record.dispatch gravity.configs input.limiterFeedback requested input.degraded
        input.grippers input.sends
      match outcome with
      | .sent _ => (some outcome, GravityState.commit { state with record := record } input.now requested)
      | _ => (some outcome, { state with record := record })

/-! ## The torque ceiling -/

section TorqueCeiling

/-- A cycle that builds a request dispatches it. -/
theorem runGravityControlCycle_dispatch {state : GravityState K} {gravity : GravityConfig K}
    {input : GravityInput K} {requested : List (MitCommand K)} (running : state.control.phase ≠ .inactive)
    (built : gravityRequest gravity input.feedback state.control.holdPositions (state.control.scale input.now) =
      .ok requested) :
    (state.runGravityControlCycle gravity input).1 = some (state.record.dispatch gravity.configs
        input.limiterFeedback requested input.degraded input.grippers input.sends).1 ∧
      (state.runGravityControlCycle gravity input).2.record = (state.record.dispatch gravity.configs
        input.limiterFeedback requested input.degraded input.grippers input.sends).2 := by
  unfold GravityState.runGravityControlCycle
  rw [if_neg running, built]
  simp only
  split
  · rename_i batch sent
    exact ⟨by rw [sent], rfl⟩
  · exact ⟨rfl, rfl⟩

/-- Every MIT batch of `run_arm_control_cycle` and `run_gravity_control_cycle` is the commands of the grippers and
those of the arms.  These stay within the torque limits at the feedback the limiter reads, are the request where that
is within them already, keep the targets of the request and are what the statistics describe; without a limit or
enabled finite feedback for a joint there is no batch, and with them the request is sent. -/
theorem mit_torque_ceiling [IsStrictOrderedRing K] (gravity : GravityConfig K) (configured : gravity.configs ≠ []) :
    (∀ (record : MitRecord K) (feedback : Motor → MotorState K) (mailbox : List (MitCommand K))
      (disabled : List Motor) (degraded : Bool) (grippers : Except String (List (MitCommand K))) (sends : Bool),
      Ceiling gravity.configs feedback (armRequest mailbox disabled degraded) degraded grippers sends record
        (record.runArmControlCycle gravity.configs feedback mailbox disabled degraded grippers sends).1
        (record.runArmControlCycle gravity.configs feedback mailbox disabled degraded grippers sends).2) ∧
    ∀ (state : GravityState K) (input : GravityInput K), state.control.phase ≠ .inactive →
      ∃ outcome, (state.runGravityControlCycle gravity input).1 = some outcome ∧
        match gravityRequest gravity input.feedback state.control.holdPositions
          (state.control.scale input.now) with
        | .error _ => outcome.batch = none ∧ (state.runGravityControlCycle gravity input).2 = state
        | .ok requested => Ceiling gravity.configs input.limiterFeedback requested input.degraded input.grippers
            input.sends state.record outcome (state.runGravityControlCycle gravity input).2.record := by
  refine ⟨fun record feedback mailbox disabled degraded grippers sends =>
    (dispatch_ceiling configured ..).mono fun sends => Bool.or_eq_true_iff.mpr (.inr sends),
    fun state input running => ?_⟩
  cases built : gravityRequest gravity input.feedback state.control.holdPositions
    (state.control.scale input.now) with
  | error error =>
    refine ⟨.failed error, ?_, rfl, ?_⟩
    all_goals
      unfold GravityState.runGravityControlCycle
      rw [if_neg running, built]
  | ok requested =>
    obtain ⟨outcome, record⟩ := runGravityControlCycle_dispatch running built
    exact ⟨_, outcome, record ▸ dispatch_ceiling configured ..⟩

/-- An arm of weak motors under a gravity torque of `5`, and a gripper. -/
def weakGravity : GravityConfig ℚ :=
  ⟨[⟨fun joint => ⟨joint, 1, 1⟩, fun _ _ => 5⟩], (List.range 8).map fun motor => (motor, ⟨2, 10, 1, by norm_num⟩)⟩

def standing : Motor → MotorState ℚ := fun _ => ⟨true, true, 1, some 0, some 0⟩

/-- A command of a joint that pushes against an obstacle. -/
def push : MitCommand ℚ := ⟨3, 1, 0, 10, 0, 0⟩

def noRecord : MitRecord ℚ := ⟨[], torqueStats [], 0⟩

def grip : MitCommand ℚ := ⟨7, 1, 0, 1, 0, 0⟩

/-- Active gravity compensation. -/
def floating : GravityState ℚ := ⟨⟨.active, 0, 500, 0, [], 0⟩, [], noRecord⟩

/-- A cycle in the state `DEGRADED`. -/
def floatingInput : GravityInput ℚ := ⟨0, standing, standing, true, .ok [grip], true⟩

/-- The commands of the arm with a feedforward torque. -/
def lifting (torque : ℚ) : List (MitCommand ℚ) := (List.range 7).map fun motor => ⟨motor, 0, 0, 0, 0, torque⟩

theorem mit_torque_ceiling_push :
    (Ceiling weakGravity.configs standing (armRequest [push] [] false) false (.ok [grip]) true noRecord
        (noRecord.runArmControlCycle weakGravity.configs standing [push] [] false (.ok [grip]) true).1
        (noRecord.runArmControlCycle weakGravity.configs standing [push] [] false (.ok [grip]) true).2 ∧
      (noRecord.runArmControlCycle weakGravity.configs standing [push] [] false (.ok [grip]) true).1.batch =
        some [grip, { push with stiffness := 2 }]) ∧
    ∃ outcome, (floating.runGravityControlCycle weakGravity floatingInput).1 = some outcome ∧
      Ceiling weakGravity.configs standing (lifting 5) true (.ok [grip]) true noRecord outcome
        (floating.runGravityControlCycle weakGravity floatingInput).2.record ∧
      outcome.batch = some (grip :: lifting (1 / 2)) := by
  obtain ⟨arms, cycles⟩ := mit_torque_ceiling weakGravity (by decide)
  obtain ⟨outcome, ran, ceiling⟩ := cycles floating floatingInput (by decide)
  have built : gravityRequest weakGravity floatingInput.feedback floating.control.holdPositions
      (floating.control.scale floatingInput.now) = .ok (lifting 5) := by
    decide +kernel
  have batch : ((floating.runGravityControlCycle weakGravity floatingInput).1).bind MitOutcome.batch =
      some (grip :: lifting (1 / 2)) := by
    decide +kernel
  rw [built] at ceiling
  rw [ran] at batch
  exact ⟨⟨arms noRecord standing [push] [] false (.ok [grip]) true, by decide +kernel⟩, outcome, ran, ceiling, batch⟩

end TorqueCeiling

/-! ## Starting and stopping -/

/-- The positions of the joints, in the order of the arms. -/
def GravityConfig.positions (gravity : GravityConfig K) (read : Motor → Except String K) :
    Except String (List K) :=
  (gravity.arms.flatMap fun arm => (List.finRange armDof).map fun joint => (arm.joints joint).motor).mapM read

/-- What `start_gravity_compensation` finds; a duration of 0 asks for the default. -/
structure StartInput (K : Type) where
  transitionMs : ℕ
  enabled : Bool
  mitMode : Bool
  bimanualFollow : Bool
  trajectoryRunning : Bool
  feedback : Motor → MotorState K
  now : K

/-- `start_gravity_compensation`. -/
def GravityState.startGravityCompensation (state : GravityState K) (gravity : GravityConfig K)
    (input : StartInput K) : Except String (GravityState K) := do
  let transitionMs := if input.transitionMs = 0 then 500 else input.transitionMs
  reject (60000 < transitionMs) "gravity compensation transition_ms exceeds 60000"
  reject (¬ input.enabled) "gravity compensation requires an enabled Runtime"
  reject (¬ input.mitMode) "gravity compensation requires MIT control mode"
  reject (state.control.phase ≠ .inactive) "gravity compensation is already active"
  reject (input.bimanualFollow = true) "gravity compensation cannot replace active bimanual follow"
  reject (input.trajectoryRunning = true) "gravity compensation cannot replace an active trajectory"
  reject (gravity.arms.isEmpty = true) "gravity product models are not configured"
  let positions ← gravity.positions fun motor =>
    if (gravity.configs.lookup motor).isNone then
      .error "gravity compensation requires joint torque-limit configuration"
    else match (input.feedback motor).enabledReading with
      | some reading => .ok reading.position
      | none => .error "gravity compensation requires finite enabled feedback"
  return { state with
    armMailbox := []
    control :=
      { phase := .entering
        transitionStarted := input.now
        transitionDuration := transitionMs
        transitionStartGravityScale := 0
        holdPositions := positions
        controlCycles := 0 } }

/-- What `stop_gravity_compensation` finds; it reads the clock twice. -/
structure StopInput (K : Type) where
  enabled : Bool
  feedback : Motor → MotorState K
  measured : K
  now : K

/-- `stop_gravity_compensation`. -/
def GravityState.stopGravityCompensation (state : GravityState K) (gravity : GravityConfig K)
    (input : StopInput K) : Except String (GravityState K) := do
  if state.control.phase = .inactive then return state
  reject (¬ input.enabled) "gravity compensation cannot stop in the current Runtime state"
  let currentGravityScale := if state.control.phase = .entering then state.control.scale input.measured else 1
  let positions ← gravity.positions fun motor =>
    match (input.feedback motor).enabledPosition with
    | some position => .ok position
    | none => .error "current position is unavailable while leaving gravity compensation"
  return { state with
    control :=
      { state.control with
        phase := .exiting
        transitionStarted := input.now
        transitionStartGravityScale := currentGravityScale
        holdPositions := positions } }

/-! ## Runs -/

/-- The calls that change the gravity blend. -/
inductive GravityCall (K : Type)
  | start (input : StartInput K)
  | stop (input : StopInput K)
  | cycle (input : GravityInput K)

/-- One call: a call that throws changes nothing. -/
def GravityState.step (gravity : GravityConfig K) (state : GravityState K) :
    GravityCall K → GravityState K × Except String (Option (MitOutcome K))
  | .start input => match state.startGravityCompensation gravity input with
    | .ok after => (after, .ok none)
    | .error error => (state, .error error)
  | .stop input => match state.stopGravityCompensation gravity input with
    | .ok after => (after, .ok none)
    | .error error => (state, .error error)
  | .cycle input =>
    ((state.runGravityControlCycle gravity input).2, .ok (state.runGravityControlCycle gravity input).1)

/-- An entry of the history of these calls. -/
abbrev GravityEntry (K : Type) :=
  History.Entry (GravityState K) (GravityCall K) (Except String (Option (MitOutcome K)))

/-- What the clock allows for two calls, the first one before the second.  The calls hold one lock, and a start
or a stop reads the clock under it; the control loop reads it before it takes the lock. -/
def GravityCall.Precedes : GravityCall K → GravityCall K → Prop
  | .start first, .start second => first.now ≤ second.now
  | .start first, .stop second => first.now ≤ second.measured
  | .stop first, .start second => first.now ≤ second.now
  | .stop first, .stop second => first.now ≤ second.measured
  | .cycle first, .start second => first.now ≤ second.now
  | .cycle first, .stop second => first.now ≤ second.measured
  | .cycle first, .cycle second => first.now ≤ second.now
  | _, .cycle _ => True

/-- A list of calls whose clock readings come in order. -/
def Chronological (calls : List (GravityCall K)) : Prop :=
  calls.Pairwise GravityCall.Precedes ∧
    ∀ input : StopInput K, GravityCall.stop input ∈ calls → input.measured ≤ input.now

/-- An accepted stop of running gravity compensation. -/
def Stops (entry : GravityEntry K) (input : StopInput K) : Prop :=
  entry.call = .stop input ∧ entry.before.control.phase ≠ .inactive ∧ entry.answer = .ok none

/-- The gravity scale that a call shows, with its phase: what an accepted start or stop leaves at its time, what a
cycle uses. -/
def observe (entry : GravityEntry K) : Option (GravityPhase × K) :=
  match entry.call, entry.answer with
  | .start input, .ok _ => some (.entering, entry.after.control.scale input.now)
  | .stop input, .ok _ =>
    if entry.before.control.phase = .inactive then none
    else some (.exiting, entry.after.control.scale input.now)
  | .cycle input, .ok _ => some (entry.before.control.phase, entry.before.control.scale input.now)
  | _, .error _ => none

/-- The scale does not fall while entering and does not rise while exiting. -/
def Gradual (earlier later : GravityPhase × K) : Prop :=
  (earlier.1 = .entering → later.1 = .entering → earlier.2 ≤ later.2) ∧
    (earlier.1 = .exiting → later.1 = .exiting → later.2 ≤ earlier.2)

/-- The blend of a history is continuous. -/
structure ContinuousBlend (history : List (GravityEntry K)) : Prop where
  range : ∀ entry ∈ history, ∀ time, 0 ≤ entry.after.control.scale time ∧ entry.after.control.scale time ≤ 1
  kept : ∀ entry ∈ history, ∀ input, Stops entry input →
    entry.after.control.scale input.now = entry.before.control.scale input.measured
  smooth : (history.filterMap observe).IsChain Gradual
  ends : ∀ entry ∈ history, ∀ input, entry.call = .cycle input → entry.before.control.phase ≠ .inactive →
    entry.after.control.phase = .inactive → entry.before.control.scale input.now = 0

/-! ## The scale of a phase -/

section Scale

variable [IsStrictOrderedRing K]

theorem transitionProgress_mem (now started : K) (duration : ℕ) :
    0 ≤ transitionProgress now started duration ∧ transitionProgress now started duration ≤ 1 := by
  unfold transitionProgress
  split_ifs
  · exact ⟨zero_le_one, le_rfl⟩
  · exact ⟨le_max_left _ _, max_le zero_le_one (min_le_left _ _)⟩

theorem transitionProgress_mono {now later : K} (started : K) (duration : ℕ) (le : now ≤ later) :
    transitionProgress now started duration ≤ transitionProgress later started duration := by
  unfold transitionProgress
  split_ifs
  · exact le_rfl
  · have length : (0 : K) ≤ duration / 1000 := by positivity
    exact max_le_max_left _ (min_le_min_left _ (div_le_div_of_nonneg_right (sub_le_sub_right le _) length))

theorem transitionProgress_self {started : K} {duration : ℕ} (long : duration ≠ 0) :
    transitionProgress started started duration = 0 := by
  unfold transitionProgress
  rw [if_neg long, sub_self, zero_div, min_eq_right zero_le_one, max_self]

/-- A phase starts at a scale between 0 and 1 and lasts. -/
structure GravityControl.Valid (control : GravityControl K) : Prop where
  scale_nonneg : 0 ≤ control.transitionStartGravityScale
  scale_le : control.transitionStartGravityScale ≤ 1
  long : control.phase ≠ .inactive → control.transitionDuration ≠ 0

theorem progress_mem (control : GravityControl K) (now : K) :
    0 ≤ control.progress now ∧ control.progress now ≤ 1 := by
  unfold GravityControl.progress
  split_ifs
  · exact ⟨zero_le_one, le_rfl⟩
  · exact transitionProgress_mem ..

theorem progress_mono (control : GravityControl K) {now later : K} (le : now ≤ later) :
    control.progress now ≤ control.progress later := by
  unfold GravityControl.progress
  split_ifs
  · exact le_rfl
  · exact transitionProgress_mono _ _ le

theorem GravityControl.Valid.scale_mem {control : GravityControl K} (valid : control.Valid) (now : K) :
    0 ≤ control.scale now ∧ control.scale now ≤ 1 := by
  obtain ⟨progress_nonneg, progress_le⟩ := progress_mem control now
  have start_nonneg := valid.scale_nonneg
  have start_le := valid.scale_le
  unfold GravityControl.scale
  cases control.phase with
  | inactive => exact ⟨le_rfl, zero_le_one⟩
  | active => exact ⟨zero_le_one, le_rfl⟩
  | entering =>
    have rest : (1 - control.transitionStartGravityScale) * control.progress now ≤
        1 - control.transitionStartGravityScale :=
      mul_le_of_le_one_right (sub_nonneg.mpr start_le) progress_le
    exact ⟨add_nonneg start_nonneg (mul_nonneg (sub_nonneg.mpr start_le) progress_nonneg),
      (add_le_add_right rest _).trans (add_sub_cancel _ _).le⟩
  | exiting =>
    have rest := sub_nonneg.mpr progress_le
    exact ⟨mul_nonneg start_nonneg rest,
      (mul_le_of_le_one_right start_nonneg (sub_le_self _ progress_nonneg)).trans start_le⟩

/-- Within a phase the scale is gradual. -/
theorem GravityControl.Valid.gradual {control : GravityControl K} (valid : control.Valid) {now later : K}
    (le : now ≤ later) :
    Gradual (control.phase, control.scale now) (control.phase, control.scale later) := by
  have more := progress_mono control le
  refine ⟨fun entering _ => ?_, fun exiting _ => ?_⟩
  · simp only [GravityControl.scale, show control.phase = .entering from entering]
    exact add_le_add_right (mul_le_mul_of_nonneg_left more (sub_nonneg.mpr valid.scale_le)) _
  · simp only [GravityControl.scale, show control.phase = .exiting from exiting]
    exact mul_le_mul_of_nonneg_left (sub_le_sub_left more _) valid.scale_nonneg

end Scale

/-! ## What the calls do to the phase -/

section Calls

variable {gravity : GravityConfig K} {state after : GravityState K}

/-- An accepted start. -/
theorem start_eq_ok {input : StartInput K} (ok : state.startGravityCompensation gravity input = .ok after) :
    state.control.phase = .inactive ∧ after.control.phase = .entering ∧
      after.control.transitionStarted = input.now ∧ after.control.transitionDuration ≠ 0 ∧
      after.control.transitionStartGravityScale = 0 := by
  unfold GravityState.startGravityCompensation at ok
  obtain ⟨-, ok⟩ := reject_bind_eq_ok ok
  obtain ⟨-, ok⟩ := reject_bind_eq_ok ok
  obtain ⟨-, ok⟩ := reject_bind_eq_ok ok
  obtain ⟨phase, ok⟩ := reject_bind_eq_ok ok
  obtain ⟨-, ok⟩ := reject_bind_eq_ok ok
  obtain ⟨-, ok⟩ := reject_bind_eq_ok ok
  obtain ⟨-, ok⟩ := reject_bind_eq_ok ok
  obtain ⟨positions, -, ok⟩ := bind_eq_ok ok
  cases ok
  refine ⟨not_not.mp phase, rfl, rfl, ?_, rfl⟩
  change (if input.transitionMs = 0 then 500 else input.transitionMs) ≠ 0
  split_ifs with none
  · decide
  · exact none

/-- The scale that a stop keeps. -/
def StopInput.kept (input : StopInput K) (control : GravityControl K) : K :=
  if control.phase = .entering then control.scale input.measured else 1

/-- An accepted stop. -/
theorem stop_eq_ok {input : StopInput K} (ok : state.stopGravityCompensation gravity input = .ok after) :
    (state.control.phase = .inactive ∧ after = state) ∨
      (state.control.phase ≠ .inactive ∧ after.control.phase = .exiting ∧
        after.control.transitionStarted = input.now ∧
        after.control.transitionDuration = state.control.transitionDuration ∧
        after.control.transitionStartGravityScale = input.kept state.control) := by
  unfold GravityState.stopGravityCompensation at ok
  by_cases inactive : state.control.phase = .inactive
  · rw [if_pos inactive] at ok
    cases ok
    exact .inl ⟨inactive, rfl⟩
  · rw [if_neg inactive] at ok
    obtain ⟨-, ok⟩ := reject_bind_eq_ok ok
    obtain ⟨positions, -, ok⟩ := bind_eq_ok ok
    cases ok
    exact .inr ⟨inactive, rfl, rfl, rfl, rfl⟩

/-- A cycle leaves the phase alone or advances it. -/
theorem cycle_control (gravity : GravityConfig K) (state : GravityState K) (input : GravityInput K) :
    (state.runGravityControlCycle gravity input).2.control = state.control ∨
      (state.control.phase ≠ .inactive ∧
        (state.runGravityControlCycle gravity input).2.control = state.control.advance input.now) := by
  unfold GravityState.runGravityControlCycle
  by_cases inactive : state.control.phase = .inactive
  · exact .inl (by rw [if_pos inactive])
  · rw [if_neg inactive]
    cases gravityRequest gravity input.feedback state.control.holdPositions (state.control.scale input.now) with
    | error error => exact .inl rfl
    | ok requested =>
      simp only
      split
      · exact .inr ⟨inactive, rfl⟩
      · exact .inl rfl

/-- An advanced phase is the same one, or the next one at the end of the transition. -/
theorem advance_cases (control : GravityControl K) (now : K) :
    ((control.advance now).phase = control.phase ∧ (control.advance now).scale = control.scale) ∨
      (¬ control.progress now < 1 ∧ control.phase = .entering ∧ (control.advance now).phase = .active) ∨
      (¬ control.progress now < 1 ∧ control.phase = .exiting ∧ (control.advance now).phase = .inactive) := by
  have same (phase : (control.advance now).phase = control.phase) :
      (control.advance now).phase = control.phase ∧ (control.advance now).scale = control.scale := by
    refine ⟨phase, funext fun time => ?_⟩
    have progress : (control.advance now).progress time = control.progress time := by
      unfold GravityControl.progress
      rw [phase]
      rfl
    unfold GravityControl.scale
    rw [progress, phase]
    rfl
  by_cases running : control.progress now < 1
  · exact .inl (same (if_pos running))
  · cases phase : control.phase with
    | inactive => exact .inl (phase ▸ same (by simp [GravityControl.advance, phase]))
    | active => exact .inl (phase ▸ same (by simp [GravityControl.advance, phase]))
    | entering => exact .inr (.inl ⟨running, rfl, by simp [GravityControl.advance, phase, running]⟩)
    | exiting => exact .inr (.inr ⟨running, rfl, by simp [GravityControl.advance, phase, running]⟩)

variable [IsStrictOrderedRing K]

theorem kept_mem {control : GravityControl K} (valid : control.Valid) (input : StopInput K) :
    0 ≤ input.kept control ∧ input.kept control ≤ 1 := by
  unfold StopInput.kept
  split_ifs
  · exact valid.scale_mem _
  · exact ⟨zero_le_one, le_rfl⟩

theorem valid_gravityStep (valid : state.control.Valid) (call : GravityCall K) :
    (state.step gravity call).1.control.Valid := by
  cases call with
  | start input =>
    simp only [GravityState.step]
    cases ok : state.startGravityCompensation gravity input with
    | error error => exact valid
    | ok after =>
      obtain ⟨-, -, -, long, start⟩ := start_eq_ok ok
      exact ⟨start.ge, start.le.trans zero_le_one, fun _ => long⟩
  | stop input =>
    simp only [GravityState.step]
    cases ok : state.stopGravityCompensation gravity input with
    | error error => exact valid
    | ok after =>
      obtain ⟨-, rfl⟩ | ⟨running, -, -, duration, start⟩ := stop_eq_ok ok
      · exact valid
      · obtain ⟨kept_nonneg, kept_le⟩ := kept_mem valid input
        exact ⟨start ▸ kept_nonneg, start ▸ kept_le, fun _ => duration ▸ valid.long running⟩
  | cycle input =>
    obtain same | ⟨running, advanced⟩ := cycle_control gravity state input
    · exact same ▸ valid
    · exact advanced ▸ ⟨valid.scale_nonneg, valid.scale_le, fun _ => valid.long running⟩

/-- The scale right after an accepted stop is the one that it keeps. -/
theorem scale_stopped {input : StopInput K} (valid : state.control.Valid)
    (running : state.control.phase ≠ .inactive)
    (ok : state.stopGravityCompensation gravity input = .ok after) :
    after.control.scale input.now = input.kept state.control := by
  obtain ⟨inactive, -⟩ | ⟨-, phase, started, duration, start⟩ := stop_eq_ok ok
  · exact absurd inactive running
  · have progress : after.control.progress input.now = 0 := by
      rw [GravityControl.progress, phase, if_neg nofun, started, duration]
      exact transitionProgress_self (valid.long running)
    simp only [GravityControl.scale, phase, progress, start, sub_zero, mul_one]

end Calls

/-! ## Continuity -/

section Continuity

/-- `GravityControl` at first. -/
def GravityControl.fresh : GravityControl K :=
  { phase := .inactive
    transitionStarted := 0
    transitionDuration := 500
    transitionStartGravityScale := 0
    holdPositions := []
    controlCycles := 0 }

/-- No accepted stop finds the scale of an exit below 1. -/
def StopsAtFullScale (history : List (GravityEntry K)) : Prop :=
  ∀ entry ∈ history, ∀ input, Stops entry input → entry.before.control.phase = .exiting →
    entry.before.control.scale input.measured = 1

variable [IsStrictOrderedRing K] {gravity : GravityConfig K}

theorem valid_fresh : (GravityControl.fresh : GravityControl K).Valid :=
  ⟨le_rfl, zero_le_one, fun running => absurd rfl running⟩

theorem entries_valid {first : GravityState K} (valid : first.control.Valid) (calls : List (GravityCall K)) :
    ∀ entry ∈ History.run (GravityState.step gravity) first calls, entry.before.control.Valid ∧
      ∃ call, entry = History.entry (GravityState.step gravity) entry.before call := by
  refine (History.history_induction (H := fun h m => m.control.Valid ∧ ∀ entry ∈ h,
    entry.before.control.Valid ∧ ∃ call, entry = History.entry (GravityState.step gravity) entry.before call)
    _ ⟨valid, fun _ none => absurd none List.not_mem_nil⟩
    (fun h m i ⟨valid, entries⟩ => ⟨valid_gravityStep valid i, fun entry member => ?_⟩) calls).2
  rcases List.mem_append.mp member with old | new
  · exact entries entry old
  · rw [List.mem_singleton.mp new]
    exact ⟨valid, i, rfl⟩

/-- The scale right after an accepted start. -/
theorem scale_started {state after : GravityState K} {input : StartInput K}
    (ok : state.startGravityCompensation gravity input = .ok after) : after.control.scale input.now = 0 := by
  obtain ⟨-, phase, started, long, start⟩ := start_eq_ok ok
  have progress : after.control.progress input.now = 0 := by
    rw [GravityControl.progress, phase, if_neg nofun, started]
    exact transitionProgress_self long
  simp only [GravityControl.scale, phase, progress, start, mul_zero, add_zero]

/-- What a call shows and does to the phase. -/
inductive Shows (m : GravityState K) (call : GravityCall K) (after : GravityState K) :
    Option (GravityPhase × K) → Prop
  | nothing (same : after = m) (other : ∀ input, call ≠ .cycle input) : Shows m call after none
  | started (input : StartInput K) (is : call = .start input) (inactive : m.control.phase = .inactive)
      (entering : after.control.phase = .entering) : Shows m call after (some (.entering, 0))
  | stopped (input : StopInput K) (is : call = .stop input) (running : m.control.phase ≠ .inactive)
      (exiting : after.control.phase = .exiting)
      (start : after.control.transitionStartGravityScale = input.kept m.control)
      (scale : after.control.scale input.now = input.kept m.control) :
      Shows m call after (some (.exiting, input.kept m.control))
  | cycled (input : GravityInput K) (is : call = .cycle input)
      (control : (after.control.phase = m.control.phase ∧ after.control.scale = m.control.scale) ∨
        (¬ m.control.progress input.now < 1 ∧ m.control.phase = .entering ∧ after.control.phase = .active) ∨
        (¬ m.control.progress input.now < 1 ∧ m.control.phase = .exiting ∧ after.control.phase = .inactive)) :
      Shows m call after (some (m.control.phase, m.control.scale input.now))

theorem shows_step {m : GravityState K} (valid : m.control.Valid) (call : GravityCall K) :
    Shows m call (m.step gravity call).1 (observe (History.entry (GravityState.step gravity) m call)) := by
  cases call with
  | start input =>
    simp only [observe, History.entry, GravityState.step]
    cases ok : m.startGravityCompensation gravity input with
    | error error => exact .nothing rfl nofun
    | ok after =>
      obtain ⟨inactive, entering, -⟩ := start_eq_ok ok
      simp only [scale_started ok]
      exact .started input rfl inactive entering
  | stop input =>
    simp only [observe, History.entry, GravityState.step]
    cases ok : m.stopGravityCompensation gravity input with
    | error error => exact .nothing rfl nofun
    | ok after =>
      obtain ⟨inactive, same⟩ | ⟨running, exiting, -, -, start⟩ := stop_eq_ok ok
      · simp only [inactive, if_true]
        exact .nothing same nofun
      · have scale := scale_stopped valid running ok
        simp only [if_neg running, scale]
        exact .stopped input rfl running exiting start scale
  | cycle input =>
    simp only [observe, History.entry, GravityState.step]
    refine .cycled input rfl ?_
    obtain same | ⟨-, advanced⟩ := cycle_control gravity m input
    · exact .inl ⟨congrArg _ same, congrArg _ same⟩
    · rw [advanced]
      exact advance_cases m.control input.now

omit [IsStrictOrderedRing K] in
theorem kept_eq_iff {control : GravityControl K} {input : StopInput K} (running : control.phase ≠ .inactive) :
    input.kept control = control.scale input.measured ↔
      (control.phase = .exiting → control.scale input.measured = 1) := by
  unfold StopInput.kept
  cases phase : control.phase with
  | inactive => exact absurd phase running
  | entering => simp
  | active => simp [GravityControl.scale, phase]
  | exiting => simp [eq_comm]

/-- What an accepted stop leaves. -/
theorem scale_of_stops {m : GravityState K} {call : GravityCall K} {input : StopInput K} (valid : m.control.Valid)
    (stops : Stops (History.entry (GravityState.step gravity) m call) input) :
    (m.step gravity call).1.control.scale input.now = input.kept m.control := by
  obtain ⟨rfl, running, accepted⟩ := stops
  simp only [History.entry, GravityState.step] at running accepted ⊢
  cases ok : m.stopGravityCompensation gravity input with
  | error error => simp [ok] at accepted
  | ok after => exact scale_stopped valid running ok

omit [IsStrictOrderedRing K] in
theorem stops_of_observe {m : GravityState K} {input : StopInput K} {seen : GravityPhase × K}
    (observed : observe (History.entry (GravityState.step gravity) m (.stop input)) = some seen) :
    Stops (History.entry (GravityState.step gravity) m (.stop input)) input := by
  simp only [observe, History.entry, GravityState.step] at observed
  simp only [Stops, History.entry, GravityState.step]
  cases ok : m.stopGravityCompensation gravity input with
  | error error => simp [ok] at observed
  | ok after =>
    refine ⟨trivial, fun inactive => ?_, rfl⟩
    simp [ok, inactive] at observed

/-- The readings of the cycles of a history are over at a time. -/
def CyclesUntil (history : List (GravityEntry K)) (time : K) : Prop :=
  ∀ entry ∈ history, ∀ input, entry.call = .cycle input → input.now ≤ time

/-- What the last observation says about the calls to come. -/
structure Tracks (last : Option (GravityPhase × K)) (m : GravityState K) (past : K → Prop) : Prop where
  entering : ∀ seen ∈ last, seen.1 = .entering → m.control.phase = .entering ∨ m.control.phase = .active
  exiting : ∀ seen ∈ last, seen.1 = .exiting → m.control.phase = .exiting ∨ m.control.phase = .inactive
  gradual : ∀ seen ∈ last, ∀ time, past time → Gradual seen (m.control.phase, m.control.scale time)

omit [IsStrictOrderedRing K] in
theorem Tracks.weaken {last : Option (GravityPhase × K)} {m : GravityState K} {past later : K → Prop}
    (tracks : Tracks last m past) (weaker : ∀ time, later time → past time) : Tracks last m later :=
  ⟨tracks.entering, tracks.exiting, fun seen member time late => tracks.gradual seen member time (weaker time late)⟩

omit [IsStrictOrderedRing K] in
/-- The next observation is gradual. -/
theorem Tracks.link {last : Option (GravityPhase × K)} {m after : GravityState K} {past : K → Prop}
    {call : GravityCall K} {seen : GravityPhase × K} (tracks : Tracks last m past)
    (shown : Shows m call after (some seen)) (cycleLater : ∀ input, call = .cycle input → past input.now)
    (stopLater : ∀ input, call = .stop input → past input.measured)
    (atFull : ∀ input, call = .stop input → m.control.phase = .exiting → m.control.scale input.measured = 1) :
    ∀ earlier ∈ last, Gradual earlier seen := by
  intro earlier member
  cases shown with
  | started input is inactive entering =>
    refine ⟨fun was _ => ?_, fun _ is => nomatch is⟩
    rcases tracks.entering earlier member was with phase | phase <;> exact nomatch inactive.symm.trans phase
  | stopped input is running exiting start scale =>
    refine ⟨fun _ is => (nomatch is), fun was _ => ?_⟩
    rcases tracks.exiting earlier member was with phase | phase
    · have kept := (kept_eq_iff running).mpr (atFull input is)
      exact kept.le.trans ((tracks.gradual earlier member _ (stopLater input is)).2 was phase)
    · exact absurd phase running
  | cycled input is control => exact tracks.gradual earlier member _ (cycleLater input is)

/-- A call is tracked from its own observation on. -/
theorem Shows.tracks {m after : GravityState K} {call : GravityCall K} {seen : GravityPhase × K}
    (shown : Shows m call after (some seen)) (valid : m.control.Valid) (validAfter : after.control.Valid)
    {past : K → Prop} (cycleEarlier : ∀ input, call = .cycle input → ∀ time, past time → input.now ≤ time) :
    Tracks (some seen) after past := by
  cases shown with
  | started input is inactive entering =>
    refine ⟨fun _ member _ => .inl entering, fun _ member was => ?_, fun _ member time _ => ?_⟩
    · cases member
      exact nomatch was
    · cases member
      exact ⟨fun _ _ => (validAfter.scale_mem time).1, fun was => nomatch was⟩
  | stopped input is running exiting start scale =>
    refine ⟨fun _ member was => ?_, fun _ member _ => .inl exiting, fun _ member time _ => ?_⟩
    · cases member
      exact nomatch was
    · cases member
      refine ⟨fun was => (nomatch was), fun _ _ => ?_⟩
      simp only [GravityControl.scale, exiting, start]
      exact mul_le_of_le_one_right (kept_mem valid input).1 (sub_le_self _ (progress_mem after.control time).1)
  | cycled input is control =>
    refine ⟨fun _ member was => ?_, fun _ member was => ?_, fun _ member time late => ?_⟩ <;> cases member
    · obtain ⟨same, -⟩ | ⟨-, -, next⟩ | ⟨-, is, -⟩ := control
      · exact .inl (same.trans was)
      · exact .inr next
      · exact nomatch is.symm.trans was
    · obtain ⟨same, -⟩ | ⟨-, is, -⟩ | ⟨-, -, next⟩ := control
      · exact .inl (same.trans was)
      · exact nomatch is.symm.trans was
      · exact .inr next
    · obtain ⟨same, scale⟩ | ⟨-, was, next⟩ | ⟨-, was, next⟩ := control
      · rw [same, scale]
        exact valid.gradual (cycleEarlier input is time late)
      · rw [was, next]
        exact ⟨fun _ is => (nomatch is), fun is => nomatch is⟩
      · rw [was, next]
        exact ⟨fun is => (nomatch is), fun _ is => nomatch is⟩

/-- The scale is 0 when a cycle ends the exit. -/
theorem scale_of_ends {m after : GravityState K} {input : GravityInput K} {seen : Option (GravityPhase × K)}
    (shown : Shows m (.cycle input) after seen) (running : m.control.phase ≠ .inactive)
    (stopped : after.control.phase = .inactive) : m.control.scale input.now = 0 := by
  cases shown with
  | nothing same other => exact absurd rfl (other input)
  | started input is => exact nomatch is
  | stopped input is => exact nomatch is
  | cycled input is control =>
    cases is
    obtain ⟨same, -⟩ | ⟨-, -, next⟩ | ⟨finished, was, -⟩ := control
    · exact absurd (same.symm.trans stopped) running
    · exact nomatch next.symm.trans stopped
    · have progress : m.control.progress input.now = 1 := le_antisymm (progress_mem ..).2 (not_lt.mp finished)
      simp only [GravityControl.scale, was, progress, sub_self, mul_zero]

omit [Field K] [IsStrictOrderedRing K] in
theorem precedes_of_chronological {h : List (GravityEntry K)} {e : GravityEntry K}
    (chronological : Chronological ((h ++ [e]).map History.Entry.call)) :
    Chronological (h.map History.Entry.call) ∧ ∀ entry ∈ h, entry.call.Precedes e.call := by
  obtain ⟨pairwise, stops⟩ := chronological
  rw [List.map_append, List.pairwise_append] at pairwise
  refine ⟨⟨pairwise.1, fun input member => stops input ?_⟩, fun entry member => ?_⟩
  · rw [List.map_append]
    exact List.mem_append_left _ member
  · exact pairwise.2.2 _ (List.mem_map_of_mem member) _ (List.mem_singleton_self _)

/-- One more call on a continuous blend. -/
theorem continuousBlend_concat {h : List (GravityEntry K)} {m : GravityState K} {call : GravityCall K}
    (valid : m.control.Valid) (continuous : ContinuousBlend h)
    (tracks : Tracks (h.filterMap observe).getLast? m (CyclesUntil h))
    (earlier : ∀ entry ∈ h, entry.call.Precedes call)
    (atFull : ∀ input, Stops (History.entry (GravityState.step gravity) m call) input →
      m.control.phase = .exiting → m.control.scale input.measured = 1) :
    ContinuousBlend (h ++ [History.entry (GravityState.step gravity) m call]) ∧
      Tracks ((h ++ [History.entry (GravityState.step gravity) m call]).filterMap observe).getLast?
        (m.step gravity call).1 (CyclesUntil (h ++ [History.entry (GravityState.step gravity) m call])) := by
  have validAfter : (m.step gravity call).1.control.Valid := valid_gravityStep valid call
  have shown : Shows m call (m.step gravity call).1 (observe (History.entry (GravityState.step gravity) m call)) :=
    shows_step valid call
  have cycleLater : ∀ input, call = .cycle input → CyclesUntil h input.now := by
    rintro input rfl entry member first is
    have before := earlier entry member
    rwa [is] at before
  have stopLater : ∀ input, call = .stop input → CyclesUntil h input.measured := by
    rintro input rfl entry member first is
    have before := earlier entry member
    rwa [is] at before
  have weaker : ∀ time, CyclesUntil (h ++ [History.entry (GravityState.step gravity) m call]) time →
      CyclesUntil h time := fun time past entry member => past entry (List.mem_append_left _ member)
  have cycleEarlier : ∀ input, call = .cycle input → ∀ time,
      CyclesUntil (h ++ [History.entry (GravityState.step gravity) m call]) time → input.now ≤ time :=
    fun input is time past => past _ (List.mem_append_right _ (List.mem_singleton_self _)) input is
  have each : ∀ {P : GravityEntry K → Prop}, (∀ entry ∈ h, P entry) →
      P (History.entry (GravityState.step gravity) m call) →
      ∀ entry ∈ h ++ [History.entry (GravityState.step gravity) m call], P entry := fun old new entry member =>
    (List.mem_append.mp member).elim (old entry) fun last => List.mem_singleton.mp last ▸ new
  have chain : ((h ++ [History.entry (GravityState.step gravity) m call]).filterMap observe).IsChain Gradual ∧
      Tracks ((h ++ [History.entry (GravityState.step gravity) m call]).filterMap observe).getLast?
        (m.step gravity call).1 (CyclesUntil (h ++ [History.entry (GravityState.step gravity) m call])) := by
    rw [List.filterMap_append]
    generalize observed : observe (History.entry (GravityState.step gravity) m call) = seen at shown
    cases seen with
    | none =>
      rw [List.filterMap_cons_none observed, List.filterMap_nil, List.append_nil]
      cases shown with
      | nothing same other =>
        rw [same]
        exact ⟨continuous.smooth, tracks.weaken weaker⟩
    | some seen =>
      rw [List.filterMap_cons_some observed, List.filterMap_nil, List.getLast?_concat]
      refine ⟨List.isChain_append.mpr ⟨continuous.smooth, List.isChain_singleton _, fun x last y head => ?_⟩,
        shown.tracks valid validAfter cycleEarlier⟩
      cases head
      exact tracks.link shown cycleLater stopLater (fun input is => atFull input (is ▸ stops_of_observe (is ▸ observed)))
        x last
  refine ⟨⟨each continuous.range (validAfter.scale_mem ·), each continuous.kept fun input stops => ?_, chain.1,
    each continuous.ends fun input cycle running stopped => ?_⟩, chain.2⟩
  · exact (scale_of_stops valid stops).trans ((kept_eq_iff stops.2.1).mpr (atFull input stops))
  · cases cycle
    exact scale_of_ends shown running stopped

/-- The gravity scale is continuous in every run whose stops find no exit below full scale, and only there. -/
theorem gravity_blend_continuous_iff (gravity : GravityConfig K) (first : GravityState K)
    (fresh : first.control = .fresh) (calls : List (GravityCall K)) (chronological : Chronological calls) :
    ContinuousBlend (History.run (GravityState.step gravity) first calls) ↔
      StopsAtFullScale (History.run (GravityState.step gravity) first calls) := by
  have valid : first.control.Valid := fresh ▸ valid_fresh
  constructor
  · intro continuous entry member input stops exiting
    obtain ⟨validBefore, call, is⟩ := entries_valid valid calls entry member
    have kept := continuous.kept entry member input stops
    have scale := scale_of_stops validBefore (is ▸ stops)
    rw [show (entry.before.step gravity call).1 = entry.after by rw [is]; rfl] at scale
    exact (kept_eq_iff stops.2.1).mp (scale.symm.trans kept) exiting
  · have run := History.history_induction (H := fun h m => m.control.Valid ∧
      (Chronological (h.map History.Entry.call) → StopsAtFullScale h →
        ContinuousBlend h ∧ Tracks (h.filterMap observe).getLast? m (CyclesUntil h)))
      (GravityState.step gravity) ⟨valid, fun _ _ => ?_⟩ (fun h m i ⟨valid, ih⟩ => ⟨valid_gravityStep valid i, fun
        chronological atFull => ?_⟩) calls
    · rw [History.map_call_run] at run
      exact fun atFull => (run.2 chronological atFull).1
    · refine ⟨⟨?_, ?_, List.isChain_nil, ?_⟩, ⟨?_, ?_, ?_⟩⟩
      all_goals exact fun _ none => absurd none (by simp)
    · obtain ⟨chronologicalBefore, earlier⟩ := precedes_of_chronological chronological
      obtain ⟨continuous, tracks⟩ := ih chronologicalBefore fun entry member =>
        atFull entry (List.mem_append_left _ member)
      exact continuousBlend_concat valid continuous tracks earlier
        (atFull _ (List.mem_append_right _ (List.mem_singleton_self _)))

end Continuity

/-- One arm without gravity. -/
def lightArm : GravityConfig ℚ where
  arms := [⟨fun joint => ⟨joint, 1, 1⟩, fun _ _ => 0⟩]
  configs := (List.range armDof).map fun motor => (motor, ⟨2, 10, 1, by norm_num⟩)

def lightState : GravityState ℚ := ⟨.fresh, [], noRecord⟩

def startSlowly : GravityCall ℚ := .start ⟨1000, true, true, false, false, standing, 0⟩

def stopAt (measured now : ℚ) : GravityCall ℚ := .stop ⟨true, standing, measured, now⟩

theorem gravity_blend_continuous_once :
    ContinuousBlend (History.run (GravityState.step lightArm) lightState [startSlowly, stopAt (1 / 2) 1]) := by
  have chronological : Chronological [startSlowly, stopAt (1 / 2) 1] := by
    refine ⟨List.pairwise_pair.mpr (by norm_num [startSlowly, stopAt, GravityCall.Precedes]), fun input member => ?_⟩
    rcases List.mem_pair.mp member with is | is <;> cases is
    norm_num
  refine (gravity_blend_continuous_iff lightArm lightState rfl _ chronological).mpr ?_
  intro entry member input stops exiting
  rcases List.mem_pair.mp member with rfl | rfl <;> exact nomatch exiting

/-- A second stop lets the gravity scale jump back to 1. -/
theorem gravity_blend_jumps :
    Chronological [startSlowly, stopAt 1 1, stopAt (3 / 2) (3 / 2)] ∧
      ¬ ContinuousBlend (History.run (GravityState.step lightArm) lightState
        [startSlowly, stopAt 1 1, stopAt (3 / 2) (3 / 2)]) := by
  refine ⟨⟨?_, fun input member => ?_⟩, fun continuous => ?_⟩
  · norm_num [startSlowly, stopAt, GravityCall.Precedes]
  · simp only [List.mem_cons, List.not_mem_nil, or_false] at member
    rcases member with is | is | is <;> cases is <;> norm_num
  · have kept := continuous.kept _ (.tail _ (.tail _ (.head _))) ⟨true, standing, 3 / 2, 3 / 2⟩
      ⟨rfl, by decide +kernel, rfl⟩
    revert kept
    decide +kernel

end MotorDrive.Control
