import MotorDrive.Control.Torque
import MotorDrive.Library.History

/-!
# The gripper machine

`set_gripper_commands`, `submit_gripper_mit`, `seed_gripper_targets_from_feedback`, the control cycle of
`prepare_gripper_commands_locked` with its commit, and the safe-hold path of `send_gripper_hold_once`.

Times and the millisecond constants of the descriptors are in seconds.  An unset time is `none`.  The entries of
`safe_grippers_` have distinct motors; the model holds them by motor.
-/

namespace MotorDrive.Control

open Trajectory (Motor)
open Validate

/-! ## Descriptors and records -/

/-- `ArticoreGripperControlState`. -/
inductive GripperControlState
  | disabled | idle | moving | contact | holding | overloadRetreat | fault
  deriving DecidableEq, Repr

/-- `ArticoreGripperMode`. -/
inductive GripperMode
  | protectedMode | directMode
  deriving DecidableEq, Repr

/-- `ARTICORE_GRIPPER_STRENGTH_MIN`. -/
abbrev strengthMin : ℕ := 0

/-- `GripperForceProfile`. -/
structure GripperForceProfile (K : Type) where
  contactTorque : K
  overloadTorque : K
  movingKp : K
  movingKd : K
  holdKp : K
  holdKd : K

/-- The descriptor of a gripper: what the constructor accepts.  `forceProfile` is the profile of a level of
`force_profiles`; only these levels are ever active. -/
structure GripperDescriptor (K : Type) [Zero K] [LE K] where
  motor : Motor
  openPosition : K
  closedPosition : K
  closeSpeed : K
  motionWindow : K
  stallMovement : K
  minPositionError : K
  contactHold : K
  overloadHold : K
  holdOffset : K
  retreatDistance : K
  retreatRetry : K
  maxStepInterval : K
  closingDirection : K
  lowerPosition : K
  upperPosition : K
  forceLevels : List ℕ
  forceProfile : ℕ → GripperForceProfile K
  closeSpeed_nonneg : 0 ≤ closeSpeed
  retreatDistance_nonneg : 0 ≤ retreatDistance
  maxStepInterval_nonneg : 0 ≤ maxStepInterval
  lower_le_upper : lowerPosition ≤ upperPosition

/-- The members of `MotorRecord` that move a gripper. -/
structure GripperRecord (K : Type) where
  requestedPosition : K
  commandSpeed : K
  forceLevel : ℕ
  mode : GripperMode
  hasTarget : Bool
  commandPosition : K
  state : GripperControlState
  retreatTarget : K
  retreatActive : Bool
  protectiveTarget : K
  protectiveTargetActive : Bool
  contactStartedAt : Option K
  overloadStartedAt : Option K
  lastRetreatAt : Option K
  motionSamples : List (K × K)
  lastUpdate : Option K

/-- The statistics and the state of a gripper: `available` for statistics and a state with a value, `stale` for
statistics over the maximum age. -/
structure GripperFeedback (K : Type) where
  available : Bool
  stale : Bool
  statusCode : ℕ
  position : K
  torque : K

/-- The grippers, in the order of `motors_`. -/
structure GripperConfig (K : Type) [Zero K] [LE K] where
  grippers : List (GripperDescriptor K)
  distinct : (grippers.map GripperDescriptor.motor).Nodup

variable {K : Type} [Field K] [LinearOrder K]

/-- The gripper of a motor. -/
def GripperConfig.find (config : GripperConfig K) (motor : Motor) : Option (GripperDescriptor K) :=
  config.grippers.find? fun descriptor => descriptor.motor = motor

/-- `std::clamp`. -/
def clamp (value lower upper : K) : K := max lower (min value upper)

/-- `std::copysign`. -/
def copysign (magnitude sign : K) : K := if sign < 0 then -|magnitude| else |magnitude|

/-- `opening_to_position`. -/
def GripperDescriptor.openingToPosition (descriptor : GripperDescriptor K) (opening : K) : K :=
  descriptor.closedPosition +
    (descriptor.openPosition - descriptor.closedPosition) * (clamp opening 0 1000 / 1000)

/-- Where an overload retreat from a position goes. -/
def GripperDescriptor.retreatFrom (descriptor : GripperDescriptor K) (base : K) : K :=
  clamp (base - descriptor.closingDirection * descriptor.retreatDistance) descriptor.lowerPosition
    descriptor.upperPosition

/-- Contact and overload protection: off in `DIRECT` mode and at minimum strength. -/
def GripperRecord.protectionEnabled (record : GripperRecord K) : Bool :=
  record.mode = .protectedMode ∧ record.forceLevel ≠ strengthMin

/-! ## Gains -/

/-- `gripper_gain_scale`. -/
def GripperRecord.gainScale (record : GripperRecord K) : K :=
  if record.mode = .directMode ∧ record.forceLevel ≠ strengthMin then 10 else 1

/-- `clamp_gripper_damping`. -/
def clampGripperDamping (damping : K) : K := clamp damping 0 5

/-- The command of a gripper at a position. -/
def GripperRecord.commandAt (record : GripperRecord K) (motor : Motor) (position kp kd scale : K) : MitCommand K where
  motor := motor
  targetPosition := position
  targetVelocity := 0
  stiffness := kp * record.gainScale * scale
  damping := clampGripperDamping (kd * record.gainScale * scale)
  feedforwardTorque := 0

/-! ## Overload -/

/-- The time since an instant has reached a duration; an unset instant is long ago. -/
def elapsed (now : K) (since : Option K) (duration : K) : Bool :=
  match since with
  | none => true
  | some since => duration ≤ now - since

/-- An overload has lasted and the next retreat is due. -/
def GripperRecord.retreatDue (record : GripperRecord K) (descriptor : GripperDescriptor K) (now : K) : Bool :=
  elapsed now (some (record.overloadStartedAt.getD now)) descriptor.overloadHold &&
    elapsed now record.lastRetreatAt descriptor.retreatRetry

/-- A retreat to a target. -/
def GripperRecord.retreat (record : GripperRecord K) (now target : K) : GripperRecord K :=
  { record with
    retreatTarget := target
    retreatActive := true
    protectiveTarget := target
    protectiveTargetActive := true
    state := .overloadRetreat
    lastRetreatAt := some now }

/-- `update_overload` of `prepare_gripper_commands_locked`, with the retreat target that it computes. -/
def GripperRecord.updateOverload (record : GripperRecord K) (descriptor : GripperDescriptor K)
    (force : GripperForceProfile K) (feedback : GripperFeedback K) (now : K) : GripperRecord K × Option K :=
  if |feedback.torque| < force.overloadTorque then ({ record with overloadStartedAt := none }, none)
  else
    let record := { record with overloadStartedAt := some (record.overloadStartedAt.getD now) }
    if record.retreatDue descriptor now then
      let target := descriptor.retreatFrom (if record.retreatActive then record.retreatTarget else feedback.position)
      ({ record.retreat now target with commandPosition := target }, some target)
    else (record, none)

/-! ## The control cycle of one gripper -/

/-- The samples that are not older than the motion window, with one before it. -/
def dropOld (threshold : K) : List (K × K) → List (K × K)
  | first :: second :: rest => if second.1 ≤ threshold then dropOld threshold (second :: rest) else first :: second :: rest
  | samples => samples

/-- How far the sampled positions spread. -/
def spread (samples : List (K × K)) : K :=
  match (samples.map Prod.snd).max?, (samples.map Prod.snd).min? with
  | some highest, some lowest => highest - lowest
  | _, _ => 0

/-- The samples of a cycle with protection, or the reset of a cycle without it. -/
def GripperRecord.begin (record : GripperRecord K) (descriptor : GripperDescriptor K) (feedback : GripperFeedback K)
    (now : K) : GripperRecord K :=
  if record.protectionEnabled then
    { record with
      motionSamples := dropOld (now - descriptor.motionWindow) (record.motionSamples ++ [(now, feedback.position)]) }
  else
    { record with
      protectiveTargetActive := false
      retreatActive := false
      contactStartedAt := none
      overloadStartedAt := none
      motionSamples := []
      state := if record.state = .contact ∨ record.state = .holding ∨ record.state = .overloadRetreat then .moving
        else record.state }

/-- Contact and a completed retreat become a hold. -/
def GripperRecord.settle (record : GripperRecord K) (descriptor : GripperDescriptor K) (feedback : GripperFeedback K)
    (now : K) : GripperRecord K :=
  if record.protectionEnabled ∧ (record.state = .contact ∨ (record.state = .overloadRetreat ∧
      (|feedback.position - record.retreatTarget| ≤ descriptor.minPositionError ∨
        elapsed now record.lastRetreatAt descriptor.retreatRetry))) then
    { record with state := .holding }
  else record

/-- Contact evidence of a moving gripper. -/
def GripperRecord.contactEvidence (record : GripperRecord K) (descriptor : GripperDescriptor K)
    (force : GripperForceProfile K) (feedback : GripperFeedback K) (closing : Bool) : Bool :=
  record.protectionEnabled && closing && force.contactTorque ≤ |feedback.torque| &&
    2 ≤ record.motionSamples.length &&
    descriptor.motionWindow ≤
      ((record.motionSamples.getLast?.map Prod.fst).getD 0) - ((record.motionSamples.head?.map Prod.fst).getD 0) &&
    descriptor.minPositionError ≤ |record.commandPosition - feedback.position| &&
    spread record.motionSamples ≤ descriptor.stallMovement

/-- The contact branch of a moving gripper. -/
def GripperRecord.updateContact (record : GripperRecord K) (descriptor : GripperDescriptor K)
    (feedback : GripperFeedback K) (now : K) (contact : Bool) : GripperRecord K :=
  if contact then
    let started := record.contactStartedAt.getD now
    if descriptor.contactHold ≤ now - started then
      let target := clamp (feedback.position + descriptor.closingDirection * descriptor.holdOffset)
        descriptor.lowerPosition descriptor.upperPosition
      { record with
        contactStartedAt := some started
        protectiveTarget := target
        commandPosition := target
        protectiveTargetActive := true
        state := .contact }
    else { record with contactStartedAt := some started }
  else { record with contactStartedAt := none }

/-- The `MOVING` branch, with the step that the cycle allows. -/
def GripperRecord.move (record : GripperRecord K) (descriptor : GripperDescriptor K) (force : GripperForceProfile K)
    (feedback : GripperFeedback K) (now step : K) : GripperRecord K :=
  let closing : Bool :=
    1 / 1000000 < (record.requestedPosition - feedback.position) * descriptor.closingDirection
  let delta := record.requestedPosition - record.commandPosition
  let record := { record with commandPosition := record.commandPosition + copysign (min |delta| step) delta }
  let record := if closing then record
    else { record with contactStartedAt := none, overloadStartedAt := none, motionSamples := [] }
  let record := record.updateContact descriptor feedback now
    (record.contactEvidence descriptor force feedback closing)
  if record.state = .moving ∧ |record.requestedPosition - feedback.position| ≤ descriptor.minPositionError then
    { record with state := .idle }
  else record

/-- The time that a cycle may move a gripper for. -/
def GripperRecord.interval (record : GripperRecord K) (descriptor : GripperDescriptor K) (now : K) : K :=
  match record.lastUpdate with
  | none => 0
  | some before => min (now - before) descriptor.maxStepInterval

/-- The branch of a gripper's state. -/
def GripperRecord.act (record : GripperRecord K) (descriptor : GripperDescriptor K) (force : GripperForceProfile K)
    (feedback : GripperFeedback K) (now step : K) : GripperRecord K × Option K :=
  match record.state with
  | .moving => (record.move descriptor force feedback now step, none)
  | .holding => if record.protectionEnabled then record.updateOverload descriptor force feedback now else (record, none)
  | .idle => ({ record with commandPosition := record.requestedPosition }, none)
  | _ => (record, none)

/-- What a cycle does with one gripper: its record, its command and the retreat target that it computes. -/
structure GripperStep (K : Type) where
  record : GripperRecord K
  command : Except String (Option (MitCommand K))
  retreat : Option K

/-- The safe command of a gripper without feedback, with smaller gains in `DEGRADED`. -/
def GripperRecord.degradedHold (record : GripperRecord K) (force : GripperForceProfile K) (previous : MitCommand K)
    (scale : K) : MitCommand K :=
  if scale < 1 then
    { previous with
      stiffness := min previous.stiffness (max force.movingKp force.holdKp * record.gainScale * scale)
      damping := min previous.damping
        (clampGripperDamping (max force.movingKd force.holdKd * record.gainScale * scale)) }
  else previous

/-- A cycle without feedback keeps the last safe output. -/
def GripperRecord.prepareUnavailable (record : GripperRecord K) (descriptor : GripperDescriptor K)
    (previous : Option (MitCommand K)) (scale : K) : GripperStep K :=
  match previous with
  | none => ⟨record, .ok none, none⟩
  | some previous =>
    ⟨record, .ok (some (record.degradedHold (descriptor.forceProfile record.forceLevel) previous scale)), none⟩

/-- A cycle with the feedback of an enabled gripper. -/
def GripperRecord.prepareAvailable (record : GripperRecord K) (descriptor : GripperDescriptor K)
    (force : GripperForceProfile K) (feedback : GripperFeedback K) (now scale : K) : GripperStep K :=
  let step := record.commandSpeed * scale * record.interval descriptor now
  let begun := ({ record with lastUpdate := some now }.begin descriptor feedback now).settle descriptor feedback now
  let (record, retreat) := begun.act descriptor force feedback now step
  let lowGain : Bool := record.protectionEnabled &&
    (record.state = .contact || record.state = .holding || record.state = .overloadRetreat)
  ⟨record, .ok (some (record.commandAt descriptor.motor record.commandPosition
    (if lowGain then force.holdKp else force.movingKp) (if lowGain then force.holdKd else force.movingKd) scale)),
    retreat⟩

/-- The body of the loop of `prepare_gripper_commands_locked`. -/
def GripperRecord.prepare (record : GripperRecord K) (descriptor : GripperDescriptor K) (feedback : GripperFeedback K)
    (previous : Option (MitCommand K)) (now scale : K) : GripperStep K :=
  if feedback.available = false then record.prepareUnavailable descriptor previous scale
  else if feedback.statusCode ≠ 1 then ⟨{ record with state := .fault }, .error "gripper motor fault", none⟩
  else record.prepareAvailable descriptor (descriptor.forceProfile record.forceLevel) feedback now scale

/-! ## The safe-hold path of one gripper -/

/-- An overload calls for a retreat in the safe-hold path. -/
def GripperRecord.holdRetreats (record : GripperRecord K) (descriptor : GripperDescriptor K)
    (force : GripperForceProfile K) (feedback : GripperFeedback K) (now : K) : Bool :=
  record.protectionEnabled && force.overloadTorque ≤ |feedback.torque| && record.retreatDue descriptor now

/-- The overload of `send_gripper_hold_once`, with the retreat target that it computes. -/
def GripperRecord.holdOverload (record : GripperRecord K) (descriptor : GripperDescriptor K)
    (force : GripperForceProfile K) (feedback : GripperFeedback K) (now : K) : GripperRecord K × Option K :=
  if record.holdRetreats descriptor force feedback now then
    let target := descriptor.retreatFrom feedback.position
    ({ record with overloadStartedAt := some (record.overloadStartedAt.getD now) }.retreat now target, some target)
  else if record.protectionEnabled ∧ force.overloadTorque ≤ |feedback.torque| then
    ({ record with overloadStartedAt := some (record.overloadStartedAt.getD now) }, none)
  else if record.protectionEnabled then
    ({ record with
      overloadStartedAt := none
      state := if record.state = .overloadRetreat then .holding else record.state }, none)
  else (record, none)

/-- The position that the safe-hold path commands. -/
def GripperRecord.holdPosition (record : GripperRecord K) (command : MitCommand K) : K :=
  if record.protectionEnabled ∧ record.retreatActive then record.retreatTarget
  else if record.protectionEnabled ∧ record.protectiveTargetActive then record.protectiveTarget
  else command.targetPosition

/-- What a hold does with one gripper. -/
structure HoldStep (K : Type) where
  record : GripperRecord K
  command : Option (MitCommand K)
  retreat : Option K

/-- The body of the loop of `send_gripper_hold_once`. -/
def GripperRecord.hold (record : GripperRecord K) (descriptor : GripperDescriptor K) (feedback : GripperFeedback K)
    (command : MitCommand K) (now : K) : HoldStep K :=
  if feedback.available = false then ⟨record, some command, none⟩
  else if feedback.statusCode ≠ 1 then ⟨{ record with state := .fault }, none, none⟩
  else if feedback.stale then ⟨record, some command, none⟩
  else
    let force := descriptor.forceProfile record.forceLevel
    let (record, retreat) := record.holdOverload descriptor force feedback now
    ⟨record, some (record.commandAt command.motor (record.holdPosition command)
      (if record.protectionEnabled then force.holdKp else force.movingKp)
      (if record.protectionEnabled then force.holdKd else force.movingKd) 1), retreat⟩

/-! ## The grippers together -/

/-- The safe-hold commands that a hold has copied, and the motors that are disabled on purpose. -/
structure HoldSnapshot (K : Type) where
  commands : Motor → Option (MitCommand K)
  disabled : List Motor

/-- The records of the grippers, `safe_grippers_` and the holds that have copied it. -/
structure GripperState (K : Type) where
  record : Motor → GripperRecord K
  safe : Motor → Option (MitCommand K)
  holds : List (HoldSnapshot K)

/-- A client's command for one gripper. -/
structure GripperCommand (K : Type) where
  motor : Motor
  opening : K
  speed : K
  forceLevel : ℕ

/-- What `set_gripper_commands` accepts for one gripper. -/
def GripperConfig.Accepts (config : GripperConfig K) (command : GripperCommand K) : Prop :=
  ∃ descriptor ∈ config.grippers, descriptor.motor = command.motor ∧
    0 ≤ command.opening ∧ command.opening ≤ 1000 ∧ 0 < command.speed ∧ command.speed ≤ 1000 ∧
    command.forceLevel ∈ descriptor.forceLevels

instance (config : GripperConfig K) (command : GripperCommand K) : Decidable (config.Accepts command) :=
  inferInstanceAs (Decidable (∃ descriptor ∈ config.grippers, descriptor.motor = command.motor ∧
    0 ≤ command.opening ∧ command.opening ≤ 1000 ∧ 0 < command.speed ∧ command.speed ≤ 1000 ∧
    command.forceLevel ∈ descriptor.forceLevels))

/-- A new target or mode restarts the motion. -/
def GripperRecord.restarts (record : GripperRecord K) (position : K) (mode : GripperMode) : Bool :=
  record.hasTarget = false ∨ 1 / 1000000 < |position - record.requestedPosition| ∨ record.mode ≠ mode

/-- An accepted command of a gripper. -/
def GripperRecord.accept (record : GripperRecord K) (descriptor : GripperDescriptor K) (command : GripperCommand K)
    (mode : GripperMode) : GripperRecord K :=
  let position := descriptor.openingToPosition command.opening
  let accepted := { record with
    requestedPosition := position
    commandSpeed := descriptor.closeSpeed * command.speed / 1000
    forceLevel := command.forceLevel
    mode := mode
    hasTarget := true }
  if record.restarts position mode then
    { accepted with
      state := .moving
      protectiveTargetActive := false
      retreatActive := false
      contactStartedAt := none
      overloadStartedAt := none
      motionSamples := [] }
  else if record.forceLevel ≠ command.forceLevel ∧ record.state = .moving then
    { accepted with contactStartedAt := none, overloadStartedAt := none, motionSamples := [] }
  else accepted

/-- `set_gripper_commands`; `allowed` is what `require_state_for_command` says. -/
def GripperState.setGripperCommands (state : GripperState K) (config : GripperConfig K)
    (commands : List (GripperCommand K)) (mode : GripperMode) (allowed : Bool) : Except String (GripperState K) := do
  reject (commands.isEmpty = true) "gripper command is empty"
  reject (commands.length ≠ config.grippers.length) "gripper command must contain every active product gripper"
  reject (¬ (commands.map GripperCommand.motor).Nodup ∨ ∃ command ∈ commands, ¬ config.Accepts command)
    "invalid gripper opening, speed, force level, or motor"
  reject (¬ allowed) "Runtime state does not accept commands"
  return { state with
    record := fun motor =>
      match config.find motor, commands.find? fun command => command.motor = motor with
      | some descriptor, some command => (state.record motor).accept descriptor command mode
      | _, _ => state.record motor }

/-- A raw command forgets protection and retreat. -/
def GripperRecord.reset (record : GripperRecord K) : GripperRecord K :=
  { record with
    retreatActive := false
    protectiveTargetActive := false
    contactStartedAt := none
    overloadStartedAt := none
    lastRetreatAt := none
    motionSamples := [] }

/-- `submit_gripper_mit` for commands that `validate_motor_set` accepts: what is sent becomes the safe output. -/
def GripperState.submitGripperMit (state : GripperState K) (config : GripperConfig K)
    (commands : List (MitCommand K)) (sends : Bool) : GripperState K :=
  if sends then
    { state with
      record := fun motor =>
        match commands.find? fun command => command.motor = motor with
        | some _ => (state.record motor).reset
        | none => state.record motor
      safe := fun motor =>
        match config.find motor, commands.find? fun command => command.motor = motor with
        | some descriptor, some command =>
          let force := descriptor.forceProfile (state.record motor).forceLevel
          some { command with
            targetVelocity := 0
            stiffness := force.holdKp
            damping := force.holdKd
            feedforwardTorque := 0 }
        | _, _ => state.safe motor }
  else state

/-- `seed_gripper_targets_from_feedback`; a gripper without a value has no position. -/
def GripperState.seed (state : GripperState K) (config : GripperConfig K) (activate : Bool)
    (position : Motor → Option K) : GripperState K :=
  { state with
    record := fun motor =>
      match config.find motor, position motor with
      | some _, some position =>
        { state.record motor with
          commandPosition := position
          requestedPosition := position
          hasTarget := activate }
      | _, _ => state.record motor
    safe := fun motor =>
      match config.find motor, position motor with
      | some descriptor, some position =>
        let force := descriptor.forceProfile (state.record motor).forceLevel
        some ⟨motor, position, 0, force.holdKp, force.holdKd, 0⟩
      | _, _ => none }

/-! ## Cycles and holds -/

/-- What a control cycle finds. -/
structure GripperInput (K : Type) where
  now : K
  degraded : Bool
  disabled : List Motor
  feedback : Motor → GripperFeedback K
  sends : Bool

/-- What a cycle or a hold hands to the backend and which retreat targets it computes; a cycle can fail. -/
structure GripperAnswer (K : Type) where
  failed : Option String
  sent : List (MitCommand K)
  retreats : List (Motor × K)

/-- The loop of `prepare_gripper_commands_locked`: the records, the commands unless a gripper fails, and the retreat
targets. -/
def prepareGripperCommandsLocked (input : GripperInput K) (safe : Motor → Option (MitCommand K)) :
    List (GripperDescriptor K) → (Motor → GripperRecord K) →
      (Motor → GripperRecord K) × Except String (List (MitCommand K)) × List (Motor × K)
  | [], record => (record, .ok [], [])
  | descriptor :: rest, record =>
    if (record descriptor.motor).hasTarget = false ∨ descriptor.motor ∈ input.disabled then
      prepareGripperCommandsLocked input safe rest record
    else
      let step := (record descriptor.motor).prepare descriptor (input.feedback descriptor.motor)
        (safe descriptor.motor) input.now (commandScale input.degraded)
      let record := Function.update record descriptor.motor step.record
      let retreats := (step.retreat.map fun target => (descriptor.motor, target)).toList
      match step.command with
      | .error error => (record, .error error, retreats)
      | .ok command =>
        let (record, commands, others) := prepareGripperCommandsLocked input safe rest record
        (record, (command.toList ++ ·) <$> commands, retreats ++ others)

/-- A control cycle with its commit. -/
def GripperState.cycle (state : GripperState K) (config : GripperConfig K) (input : GripperInput K) :
    GripperState K × GripperAnswer K :=
  let (record, commands, retreats) := prepareGripperCommandsLocked input state.safe config.grippers state.record
  match commands with
  | .error error => ({ state with record := record }, ⟨some error, [], retreats⟩)
  | .ok commands =>
    if commands = [] ∨ input.sends = false then ({ state with record := record }, ⟨none, commands, retreats⟩)
    else ({ state with
        record := record
        safe := fun motor => commands.find? fun command => command.motor = motor }, ⟨none, commands, retreats⟩)

/-- The start of `send_gripper_hold_once`: it copies `safe_grippers_` before it takes the command lock. -/
def GripperState.beginHold (state : GripperState K) (config : GripperConfig K) (disabled : List Motor) :
    GripperState K :=
  if config.grippers.all fun descriptor => (state.safe descriptor.motor).isNone then state
  else { state with holds := state.holds ++ [⟨state.safe, disabled⟩] }

/-- What a hold that copied `safe_grippers_` does with a gripper. -/
def GripperState.holdStep (state : GripperState K) (config : GripperConfig K) (snapshot : HoldSnapshot K) (now : K)
    (feedback : Motor → GripperFeedback K) (motor : Motor) : Option (HoldStep K) :=
  match config.find motor, snapshot.commands motor with
  | some descriptor, some command =>
    if motor ∈ snapshot.disabled then none
    else some ((state.record motor).hold descriptor (feedback motor) command now)
  | _, _ => none

/-- The rest of `send_gripper_hold_once`: its commands become the safe output, sent or not. -/
def GripperState.finishHold (state : GripperState K) (config : GripperConfig K) (index : ℕ) (now : K)
    (feedback : Motor → GripperFeedback K) : GripperState K × GripperAnswer K :=
  match state.holds[index]? with
  | none => (state, ⟨none, [], []⟩)
  | some snapshot =>
    let step := state.holdStep config snapshot now feedback
    ({ record := fun motor => ((step motor).map HoldStep.record).getD (state.record motor)
       safe := fun motor => (step motor).bind HoldStep.command
       holds := state.holds.eraseIdx index },
      ⟨none, config.grippers.filterMap fun descriptor => (step descriptor.motor).bind HoldStep.command,
        config.grippers.filterMap fun descriptor =>
          ((step descriptor.motor).bind HoldStep.retreat).map fun target => (descriptor.motor, target)⟩)

/-! ## Runs -/

/-- The calls and loops that move the grippers. -/
inductive GripperCall (K : Type)
  | set (commands : List (GripperCommand K)) (mode : GripperMode) (allowed : Bool)
  | submit (commands : List (MitCommand K)) (sends : Bool)
  | seed (activate : Bool) (position : Motor → Option K)
  | cycle (input : GripperInput K)
  | beginHold (disabled : List Motor)
  | finishHold (index : ℕ) (now : K) (feedback : Motor → GripperFeedback K)

/-- One call. -/
def GripperState.step (config : GripperConfig K) (state : GripperState K) :
    GripperCall K → GripperState K × GripperAnswer K
  | .set commands mode allowed =>
    match state.setGripperCommands config commands mode allowed with
    | .ok after => (after, ⟨none, [], []⟩)
    | .error error => (state, ⟨some error, [], []⟩)
  | .submit commands sends => (state.submitGripperMit config commands sends, ⟨none, [], []⟩)
  | .seed activate position => (state.seed config activate position, ⟨none, [], []⟩)
  | .cycle input => state.cycle config input
  | .beginHold disabled => (state.beginHold config disabled, ⟨none, [], []⟩)
  | .finishHold index now feedback => state.finishHold config index now feedback

/-- An entry of the history of these calls. -/
abbrev GripperEntry (K : Type) := History.Entry (GripperState K) (GripperCall K) (GripperAnswer K)

/-- The grippers at first, or after an enable: nothing is protected, nothing is remembered. -/
structure GripperConfig.Starts (config : GripperConfig K) (state : GripperState K) : Prop where
  speed : ∀ motor, 0 ≤ (state.record motor).commandSpeed
  retreat : ∀ motor, (state.record motor).retreatActive = false
  protective : ∀ motor, (state.record motor).protectiveTargetActive = false
  update : ∀ motor, (state.record motor).lastUpdate = none
  safe : ∀ motor, state.safe motor = none
  holds : state.holds = []

/-- The control loop reads the clock in order. -/
def CyclesInOrder (calls : List (GripperCall K)) : Prop :=
  calls.Pairwise fun earlier later => ∀ first second, earlier = .cycle first → later = .cycle second →
    first.now ≤ second.now

/-! ## What a cycle does -/

section Cycle

variable {input : GripperInput K} {safe : Motor → Option (MitCommand K)}

/-- What a cycle does with a gripper that it reaches. -/
def GripperInput.stepOf (input : GripperInput K) (safe : Motor → Option (MitCommand K))
    (record : Motor → GripperRecord K) (descriptor : GripperDescriptor K) : GripperStep K :=
  (record descriptor.motor).prepare descriptor (input.feedback descriptor.motor) (safe descriptor.motor) input.now
    (commandScale input.degraded)

/-- A cycle is for a gripper with a target that is not disabled on purpose. -/
def GripperInput.Controls (input : GripperInput K) (record : Motor → GripperRecord K)
    (descriptor : GripperDescriptor K) : Prop :=
  (record descriptor.motor).hasTarget = true ∧ descriptor.motor ∉ input.disabled

/-- The loop of `prepare_gripper_commands_locked` over some grippers: each record is left alone or stepped, and
stepped if no gripper fails; commands and retreat targets come from these steps. -/
structure Prepares (input : GripperInput K) (safe : Motor → Option (MitCommand K))
    (grippers : List (GripperDescriptor K)) (before after : Motor → GripperRecord K)
    (commands : Except String (List (MitCommand K))) (retreats : List (Motor × K)) : Prop where
  other : ∀ motor, motor ∉ grippers.map GripperDescriptor.motor → after motor = before motor
  record : ∀ descriptor ∈ grippers, (after descriptor.motor = before descriptor.motor ∧
      ∀ target, (descriptor.motor, target) ∉ retreats) ∨
    (input.Controls before descriptor ∧
      after descriptor.motor = (input.stepOf safe before descriptor).record ∧
      ∀ target, (descriptor.motor, target) ∈ retreats → (input.stepOf safe before descriptor).retreat = some target)
  reached : ∀ descriptor ∈ grippers, input.Controls before descriptor → commands.isOk = true →
    after descriptor.motor = (input.stepOf safe before descriptor).record
  command : ∀ sent, commands = .ok sent → ∀ command ∈ sent, ∃ descriptor ∈ grippers,
    input.Controls before descriptor ∧ (input.stepOf safe before descriptor).command = .ok (some command)
  retreat : ∀ motor target, (motor, target) ∈ retreats → motor ∈ grippers.map GripperDescriptor.motor

theorem stepOf_update {record : Motor → GripperRecord K} {descriptor : GripperDescriptor K} {motor : Motor}
    {next : GripperRecord K} (ne : descriptor.motor ≠ motor) :
    input.stepOf safe (Function.update record motor next) descriptor = input.stepOf safe record descriptor := by
  simp only [GripperInput.stepOf, Function.update_of_ne ne]

theorem controls_update {record : Motor → GripperRecord K} {descriptor : GripperDescriptor K} {motor : Motor}
    {next : GripperRecord K} (ne : descriptor.motor ≠ motor) :
    input.Controls (Function.update record motor next) descriptor ↔ input.Controls record descriptor := by
  simp only [GripperInput.Controls, Function.update_of_ne ne]

variable {descriptor : GripperDescriptor K} {rest : List (GripperDescriptor K)}
  {before after : Motor → GripperRecord K} {commands : Except String (List (MitCommand K))}
  {retreats : List (Motor × K)}

/-- A gripper that the cycle is not for. -/
theorem Prepares.skip (prepared : Prepares input safe rest before after commands retreats)
    (fresh : descriptor.motor ∉ rest.map GripperDescriptor.motor) (skipped : ¬ input.Controls before descriptor) :
    Prepares input safe (descriptor :: rest) before after commands retreats where
  other motor missing := prepared.other motor fun member => missing (List.mem_cons_of_mem _ member)
  record other member := by
    rcases List.mem_cons.mp member with rfl | member
    · exact .inl ⟨prepared.other _ fresh, fun target found => fresh (prepared.retreat _ target found)⟩
    · exact prepared.record other member
  reached other member controls := by
    rcases List.mem_cons.mp member with rfl | member
    · exact absurd controls skipped
    · exact prepared.reached other member controls
  command sent is command member := by
    obtain ⟨other, member, made⟩ := prepared.command sent is command member
    exact ⟨other, List.mem_cons_of_mem _ member, made⟩
  retreat motor target found := List.mem_cons_of_mem _ (prepared.retreat motor target found)

/-- The retreat target of the first gripper. -/
theorem mem_retreat_head {retreat : Option K} {motor : Motor} {target : K}
    (found : (motor, target) ∈ (retreat.map fun target => (descriptor.motor, target)).toList) :
    motor = descriptor.motor ∧ retreat = some target := by
  cases retreat with
  | none => exact absurd found List.not_mem_nil
  | some computed =>
    cases List.mem_singleton.mp found
    exact ⟨rfl, rfl⟩

/-- A gripper that fails ends the loop. -/
theorem prepares_failed (safe : Motor → Option (MitCommand K)) (fresh : descriptor.motor ∉ rest.map GripperDescriptor.motor)
    (controls : input.Controls before descriptor) (error : String) :
    Prepares input safe (descriptor :: rest) before
      (Function.update before descriptor.motor (input.stepOf safe before descriptor).record) (.error error)
      ((input.stepOf safe before descriptor).retreat.map fun target => (descriptor.motor, target)).toList where
  other motor missing := by
    have ne : motor ≠ descriptor.motor := fun is => missing (is ▸ List.mem_cons_self ..)
    exact Function.update_of_ne ne ..
  record other member := by
    rcases List.mem_cons.mp member with rfl | member
    · exact .inr ⟨controls, Function.update_self .., fun target found => (mem_retreat_head found).2⟩
    · have ne : other.motor ≠ descriptor.motor := fun is => fresh (is ▸ List.mem_map_of_mem member)
      exact .inl ⟨Function.update_of_ne ne .., fun target found => ne (mem_retreat_head found).1⟩
  reached _ _ _ ok := nomatch ok
  command _ is := nomatch is
  retreat motor target found := (mem_retreat_head found).1 ▸ List.mem_cons_self ..

/-- A gripper that has its command, in front of the others. -/
theorem Prepares.step {command : Option (MitCommand K)}
    (prepared : Prepares input safe rest
      (Function.update before descriptor.motor (input.stepOf safe before descriptor).record) after commands retreats)
    (fresh : descriptor.motor ∉ rest.map GripperDescriptor.motor) (controls : input.Controls before descriptor)
    (made : (input.stepOf safe before descriptor).command = .ok command) :
    Prepares input safe (descriptor :: rest) before after ((command.toList ++ ·) <$> commands)
      (((input.stepOf safe before descriptor).retreat.map fun target => (descriptor.motor, target)).toList ++
        retreats) where
  other motor missing := by
    have ne : motor ≠ descriptor.motor := fun is => missing (is ▸ List.mem_cons_self ..)
    rw [prepared.other motor fun member => missing (List.mem_cons_of_mem _ member)]
    exact Function.update_of_ne ne ..
  record other member := by
    rcases List.mem_cons.mp member with rfl | member
    · refine .inr ⟨controls, (prepared.other _ fresh).trans (Function.update_self ..), fun target found => ?_⟩
      rcases List.mem_append.mp found with head | tail
      · exact (mem_retreat_head head).2
      · exact absurd (prepared.retreat _ target tail) fresh
    · have ne : other.motor ≠ descriptor.motor := fun is => fresh (is ▸ List.mem_map_of_mem member)
      have tail : ∀ target, (other.motor, target) ∈
          ((input.stepOf safe before descriptor).retreat.map fun target => (descriptor.motor, target)).toList ++
            retreats → (other.motor, target) ∈ retreats := fun target found =>
        (List.mem_append.mp found).resolve_left fun head => ne (mem_retreat_head head).1
      rcases prepared.record other member with ⟨same, no⟩ | ⟨controlled, stepped, made⟩
      · exact .inl ⟨same.trans (Function.update_of_ne ne ..), fun target found => no target (tail target found)⟩
      · rw [controls_update ne] at controlled
        rw [stepOf_update ne] at stepped
        refine .inr ⟨controlled, stepped, fun target found => ?_⟩
        rw [← made target (tail target found), stepOf_update ne]
  reached other member controlled ok := by
    rcases List.mem_cons.mp member with rfl | member
    · exact (prepared.other _ fresh).trans (Function.update_self ..)
    · have ne : other.motor ≠ descriptor.motor := fun is => fresh (is ▸ List.mem_map_of_mem member)
      rw [prepared.reached other member ((controls_update ne).mpr controlled) (by cases commands <;> exact ok),
        stepOf_update ne]
  command sent is found member := by
    cases commands with
    | error error => exact nomatch is
    | ok others =>
      cases is
      rcases List.mem_append.mp member with head | tail
      · cases command with
        | none => exact absurd head List.not_mem_nil
        | some command =>
          cases List.mem_singleton.mp head
          exact ⟨descriptor, List.mem_cons_self .., controls, made⟩
      · obtain ⟨other, member, controlled, made⟩ := prepared.command others rfl found tail
        have ne : other.motor ≠ descriptor.motor := fun is => fresh (is ▸ List.mem_map_of_mem member)
        rw [controls_update ne] at controlled
        rw [stepOf_update ne] at made
        exact ⟨other, List.mem_cons_of_mem _ member, controlled, made⟩
  retreat motor target found := by
    rcases List.mem_append.mp found with head | tail
    · exact (mem_retreat_head head).1 ▸ List.mem_cons_self ..
    · exact List.mem_cons_of_mem _ (prepared.retreat motor target tail)

theorem prepares (input : GripperInput K) (safe : Motor → Option (MitCommand K))
    (grippers : List (GripperDescriptor K)) (record : Motor → GripperRecord K)
    (distinct : (grippers.map GripperDescriptor.motor).Nodup) :
    Prepares input safe grippers record (prepareGripperCommandsLocked input safe grippers record).1
      (prepareGripperCommandsLocked input safe grippers record).2.1
      (prepareGripperCommandsLocked input safe grippers record).2.2 := by
  induction grippers generalizing record with
  | nil =>
    refine ⟨fun _ _ => rfl, fun _ member => absurd member List.not_mem_nil, fun _ member => absurd member List.not_mem_nil,
      fun sent is command member => ?_, fun _ _ member => absurd member List.not_mem_nil⟩
    cases is
    exact absurd member List.not_mem_nil
  | cons descriptor rest ih =>
    obtain ⟨fresh, distinct⟩ := List.nodup_cons.mp distinct
    by_cases skipped : (record descriptor.motor).hasTarget = false ∨ descriptor.motor ∈ input.disabled
    · simp only [prepareGripperCommandsLocked, if_pos skipped]
      refine (ih record distinct).skip fresh fun controls => ?_
      rcases skipped with missing | disabled
      · exact absurd (missing.symm.trans controls.1) Bool.false_ne_true
      · exact controls.2 disabled
    · have controls : input.Controls record descriptor := by
        rw [not_or, Bool.not_eq_false] at skipped
        exact skipped
      simp only [prepareGripperCommandsLocked, if_neg skipped]
      cases made : (input.stepOf safe record descriptor).command with
      | error error =>
        have failed := prepares_failed safe fresh controls error
        simp only [GripperInput.stepOf] at made failed
        simpa only [made] using failed
      | ok command =>
        have stepped := (ih (Function.update record descriptor.motor (input.stepOf safe record descriptor).record)
          distinct).step fresh controls made
        simp only [GripperInput.stepOf] at made stepped
        simpa only [made] using stepped

/-- A cycle steps the grippers; its commands become the safe output if they are sent. -/
theorem cycle_cases (state : GripperState K) (config : GripperConfig K) (input : GripperInput K) :
    ∃ commands, Prepares input state.safe config.grippers state.record (state.cycle config input).1.record commands
        (state.cycle config input).2.retreats ∧
      (state.cycle config input).1.holds = state.holds ∧
      ((∃ error, commands = .error error ∧ (state.cycle config input).1.safe = state.safe ∧
          (state.cycle config input).2.sent = [] ∧ (state.cycle config input).2.failed = some error) ∨
        (commands = .ok (state.cycle config input).2.sent ∧ (state.cycle config input).2.failed = none ∧
          ((state.cycle config input).1.safe = state.safe ∨ (state.cycle config input).1.safe = fun motor =>
            (state.cycle config input).2.sent.find? fun command => command.motor = motor))) := by
  have prepared := prepares input state.safe config.grippers state.record config.distinct
  refine ⟨(prepareGripperCommandsLocked input state.safe config.grippers state.record).2.1, ?_⟩
  unfold GripperState.cycle
  generalize prepareGripperCommandsLocked input state.safe config.grippers state.record = result at prepared ⊢
  obtain ⟨record, commands, retreats⟩ := result
  cases commands with
  | error error => exact ⟨prepared, rfl, .inl ⟨error, rfl, rfl, rfl, rfl⟩⟩
  | ok sent =>
    simp only
    split_ifs
    · exact ⟨prepared, rfl, .inr ⟨rfl, rfl, .inl rfl⟩⟩
    · exact ⟨prepared, rfl, .inr ⟨rfl, rfl, .inr rfl⟩⟩

end Cycle

/-! ## What a call does to one gripper -/

section Moves

variable {config : GripperConfig K} {descriptor : GripperDescriptor K}

theorem find?_gripper {grippers : List (GripperDescriptor K)}
    (distinct : (grippers.map GripperDescriptor.motor).Nodup) (member : descriptor ∈ grippers) :
    (grippers.find? fun other => other.motor = descriptor.motor) = some descriptor := by
  induction grippers with
  | nil => exact absurd member List.not_mem_nil
  | cons first rest ih =>
    obtain ⟨fresh, distinct⟩ := List.nodup_cons.mp distinct
    rcases List.mem_cons.mp member with rfl | member
    · exact List.find?_cons_of_pos (decide_eq_true rfl)
    · have ne : first.motor ≠ descriptor.motor := fun is => fresh (is ▸ List.mem_map_of_mem member)
      rw [List.find?_cons_of_neg (by simpa using ne)]
      exact ih distinct member

theorem find_motor (member : descriptor ∈ config.grippers) : config.find descriptor.motor = some descriptor :=
  find?_gripper config.distinct member

theorem find_eq_some {motor : Motor} (found : config.find motor = some descriptor) :
    descriptor ∈ config.grippers ∧ descriptor.motor = motor :=
  ⟨List.mem_of_find?_eq_some found, by simpa using List.find?_some found⟩

/-- What a call can do to the record of a gripper, with the retreat target that it computes. -/
inductive Moves (config : GripperConfig K) (descriptor : GripperDescriptor K) (state : GripperState K) :
    GripperCall K → GripperRecord K → Option K → Prop
  | kept (call : GripperCall K) : Moves config descriptor state call (state.record descriptor.motor) none
  | set (commands : List (GripperCommand K)) (mode : GripperMode) (allowed : Bool) (command : GripperCommand K)
      (found : (commands.find? fun command => command.motor = descriptor.motor) = some command)
      (accepts : config.Accepts command)
      (accepted : (state.setGripperCommands config commands mode allowed).isOk = true) :
      Moves config descriptor state (.set commands mode allowed)
        ((state.record descriptor.motor).accept descriptor command mode) none
  | submit (commands : List (MitCommand K)) (command : MitCommand K)
      (found : (commands.find? fun command => command.motor = descriptor.motor) = some command) :
      Moves config descriptor state (.submit commands true) (state.record descriptor.motor).reset none
  | seed (activate : Bool) (positions : Motor → Option K) (position : K) :
      Moves config descriptor state (.seed activate positions)
        { state.record descriptor.motor with
          commandPosition := position
          requestedPosition := position
          hasTarget := activate } none
  | cycle (input : GripperInput K) (controls : input.Controls state.record descriptor) :
      Moves config descriptor state (.cycle input) (input.stepOf state.safe state.record descriptor).record
        (input.stepOf state.safe state.record descriptor).retreat
  | hold (index : ℕ) (now : K) (feedback : Motor → GripperFeedback K) (snapshot : HoldSnapshot K)
      (copied : snapshot ∈ state.holds) (command : MitCommand K)
      (found : snapshot.commands descriptor.motor = some command) :
      Moves config descriptor state (.finishHold index now feedback)
        ((state.record descriptor.motor).hold descriptor (feedback descriptor.motor) command now).record
        ((state.record descriptor.motor).hold descriptor (feedback descriptor.motor) command now).retreat

/-- An accepted command list. -/
theorem set_eq_ok {state after : GripperState K} {commands : List (GripperCommand K)} {mode : GripperMode}
    {allowed : Bool} (ok : state.setGripperCommands config commands mode allowed = .ok after) :
    (∀ command ∈ commands, config.Accepts command) ∧ after = { state with
      record := fun motor =>
        match config.find motor, commands.find? fun command => command.motor = motor with
        | some descriptor, some command => (state.record motor).accept descriptor command mode
        | _, _ => state.record motor } := by
  unfold GripperState.setGripperCommands at ok
  obtain ⟨-, ok⟩ := reject_bind_eq_ok ok
  obtain ⟨-, ok⟩ := reject_bind_eq_ok ok
  obtain ⟨valid, ok⟩ := reject_bind_eq_ok ok
  obtain ⟨-, ok⟩ := reject_bind_eq_ok ok
  cases ok
  refine ⟨fun command member => not_not.mp fun wrong => valid (.inr ⟨command, member, wrong⟩), rfl⟩

/-- The step of a hold for one gripper. -/
theorem holdStep_eq (member : descriptor ∈ config.grippers) (state : GripperState K) (snapshot : HoldSnapshot K)
    (now : K) (feedback : Motor → GripperFeedback K) :
    state.holdStep config snapshot now feedback descriptor.motor = none ∨
      ∃ command, snapshot.commands descriptor.motor = some command ∧
        state.holdStep config snapshot now feedback descriptor.motor =
          some ((state.record descriptor.motor).hold descriptor (feedback descriptor.motor) command now) := by
  unfold GripperState.holdStep
  rw [find_motor member]
  cases found : snapshot.commands descriptor.motor with
  | none => exact .inl rfl
  | some command =>
    dsimp only
    split_ifs
    · exact .inl rfl
    · exact .inr ⟨command, rfl, rfl⟩

theorem eq_of_motor_eq {other : GripperDescriptor K} (member : descriptor ∈ config.grippers)
    (otherMember : other ∈ config.grippers) (same : other.motor = descriptor.motor) : other = descriptor := by
  have found := find_motor otherMember
  rw [same, find_motor member] at found
  exact (Option.some.inj found).symm

theorem step_moves (member : descriptor ∈ config.grippers) (state : GripperState K) (call : GripperCall K) :
    ∃ retreat, Moves config descriptor state call ((state.step config call).1.record descriptor.motor) retreat ∧
      ∀ target, (descriptor.motor, target) ∈ (state.step config call).2.retreats → retreat = some target := by
  have no : ∀ target, (descriptor.motor, target) ∈ ([] : List (Motor × K)) → (none : Option K) = some target :=
    fun _ found => absurd found List.not_mem_nil
  cases call with
  | set commands mode allowed =>
    simp only [GripperState.step]
    cases ok : state.setGripperCommands config commands mode allowed with
    | error error => exact ⟨none, .kept _, no⟩
    | ok after =>
      obtain ⟨accepts, rfl⟩ := set_eq_ok ok
      dsimp only
      rw [find_motor member]
      cases found : commands.find? fun command => command.motor = descriptor.motor with
      | none => exact ⟨none, .kept _, no⟩
      | some command =>
        exact ⟨none, .set commands mode allowed command found (accepts command (List.mem_of_find?_eq_some found))
          (ok ▸ rfl), no⟩
  | submit commands sends =>
    simp only [GripperState.step, GripperState.submitGripperMit]
    cases sends with
    | false => exact ⟨none, .kept _, no⟩
    | true =>
      simp only [if_true]
      cases found : commands.find? fun command => command.motor = descriptor.motor with
      | none => exact ⟨none, .kept _, no⟩
      | some command => exact ⟨none, .submit commands command found, no⟩
  | seed activate positions =>
    simp only [GripperState.step, GripperState.seed]
    rw [find_motor member]
    cases positions descriptor.motor with
    | none => exact ⟨none, .kept _, no⟩
    | some position => exact ⟨none, .seed activate positions position, no⟩
  | cycle input =>
    obtain ⟨commands, prepared, -⟩ := cycle_cases state config input
    simp only [GripperState.step]
    rcases prepared.record descriptor member with ⟨same, none⟩ | ⟨controls, stepped, retreats⟩
    · rw [same]
      exact ⟨_, .kept _, fun target found => absurd found (none target)⟩
    · rw [stepped]
      exact ⟨_, .cycle input controls, retreats⟩
  | beginHold disabled =>
    simp only [GripperState.step, GripperState.beginHold]
    split_ifs <;> exact ⟨none, .kept _, no⟩
  | finishHold index now feedback =>
    simp only [GripperState.step, GripperState.finishHold]
    cases copied : state.holds[index]? with
    | none => exact ⟨none, .kept _, no⟩
    | some snapshot =>
      have retreats : ∀ target, (descriptor.motor, target) ∈ (config.grippers.filterMap fun other =>
          ((state.holdStep config snapshot now feedback other.motor).bind HoldStep.retreat).map
            fun target => (other.motor, target)) →
          (state.holdStep config snapshot now feedback descriptor.motor).bind HoldStep.retreat = some target := by
        intro target found
        obtain ⟨other, otherMember, made⟩ := List.mem_filterMap.mp found
        obtain ⟨computed, is, pair⟩ := Option.map_eq_some_iff.mp made
        cases eq_of_motor_eq member otherMember (congrArg Prod.fst pair)
        exact is.trans (congrArg some (congrArg Prod.snd pair))
      rcases holdStep_eq member state snapshot now feedback with step | ⟨command, found, step⟩ <;> dsimp only <;>
        rw [step] at retreats ⊢
      · exact ⟨none, .kept _, retreats⟩
      · exact ⟨_, .hold index now feedback snapshot (List.mem_of_getElem? copied) command found, retreats⟩

variable {state : GripperState K} {call : GripperCall K}

/-- Where a command that a call hands to the backend comes from. -/
theorem sent_step {command : MitCommand K} (sent : command ∈ (state.step config call).2.sent) :
    (∃ input, call = .cycle input ∧ ∃ descriptor ∈ config.grippers,
        (input.stepOf state.safe state.record descriptor).command = .ok (some command)) ∨
      ∃ index now feedback snapshot, call = .finishHold index now feedback ∧ snapshot ∈ state.holds ∧
        ∃ descriptor ∈ config.grippers, ∃ copied, snapshot.commands descriptor.motor = some copied ∧
          ((state.record descriptor.motor).hold descriptor (feedback descriptor.motor) copied now).command =
            some command := by
  cases call with
  | set commands mode allowed =>
    simp only [GripperState.step] at sent
    split at sent <;> exact absurd sent List.not_mem_nil
  | submit commands sends => exact absurd sent List.not_mem_nil
  | seed activate positions => exact absurd sent List.not_mem_nil
  | beginHold disabled => exact absurd sent List.not_mem_nil
  | cycle input =>
    simp only [GripperState.step] at sent
    obtain ⟨commands, prepared, -, ⟨error, -, -, nothing, -⟩ | ⟨is, -, -⟩⟩ := cycle_cases state config input
    · exact absurd (nothing ▸ sent) List.not_mem_nil
    · obtain ⟨descriptor, member, -, made⟩ := prepared.command _ is command sent
      exact .inl ⟨input, rfl, descriptor, member, made⟩
  | finishHold index now feedback =>
    simp only [GripperState.step, GripperState.finishHold] at sent
    cases copied : state.holds[index]? with
    | none =>
      rw [copied] at sent
      exact absurd sent List.not_mem_nil
    | some snapshot =>
      rw [copied] at sent
      obtain ⟨descriptor, member, made⟩ := List.mem_filterMap.mp sent
      refine .inr ⟨index, now, feedback, snapshot, rfl, List.mem_of_getElem? copied, descriptor, member, ?_⟩
      rcases holdStep_eq member state snapshot now feedback with step | ⟨before, found, step⟩ <;> rw [step] at made
      · exact nomatch made
      · exact ⟨before, found, made⟩

/-- Where a safe command comes from. -/
theorem safe_step (member : descriptor ∈ config.grippers) {command : MitCommand K}
    (safe : (state.step config call).1.safe descriptor.motor = some command) :
    state.safe descriptor.motor = some command ∨
      (command ∈ (state.step config call).2.sent ∧ command.motor = descriptor.motor) ∨
      (command.motor = descriptor.motor ∧
        ((∃ commands sends, call = .submit commands sends) ∨ ∃ activate positions, call = .seed activate positions)) ∨
      ∃ index now feedback snapshot copied, call = .finishHold index now feedback ∧ snapshot ∈ state.holds ∧
        snapshot.commands descriptor.motor = some copied ∧
        ((state.record descriptor.motor).hold descriptor (feedback descriptor.motor) copied now).command =
          some command := by
  cases call with
  | set commands mode allowed =>
    simp only [GripperState.step] at safe
    cases ok : state.setGripperCommands config commands mode allowed with
    | error error =>
      rw [ok] at safe
      exact .inl safe
    | ok after =>
      rw [ok] at safe
      rw [(set_eq_ok ok).2] at safe
      exact .inl safe
  | submit commands sends =>
    simp only [GripperState.step, GripperState.submitGripperMit] at safe
    split_ifs at safe
    · dsimp only at safe
      rw [find_motor member] at safe
      cases found : commands.find? fun command => command.motor = descriptor.motor with
      | none =>
        rw [found] at safe
        exact .inl safe
      | some raw =>
        rw [found] at safe
        cases safe
        exact .inr (.inr (.inl ⟨by simpa using List.find?_some found, .inl ⟨commands, sends, rfl⟩⟩))
    · exact .inl safe
  | seed activate positions =>
    simp only [GripperState.step, GripperState.seed, find_motor member] at safe
    cases found : positions descriptor.motor with
    | none =>
      rw [found] at safe
      exact nomatch safe
    | some position =>
      rw [found] at safe
      cases safe
      exact .inr (.inr (.inl ⟨rfl, .inr ⟨activate, positions, rfl⟩⟩))
  | cycle input =>
    simp only [GripperState.step] at safe ⊢
    obtain ⟨commands, -, -, ⟨error, -, same, -, -⟩ | ⟨-, -, same | sent⟩⟩ := cycle_cases state config input
    · exact .inl (same ▸ safe)
    · exact .inl (same ▸ safe)
    · rw [sent] at safe
      exact .inr (.inl ⟨List.mem_of_find?_eq_some safe, by simpa using List.find?_some safe⟩)
  | beginHold disabled =>
    simp only [GripperState.step, GripperState.beginHold] at safe
    split_ifs at safe <;> exact .inl safe
  | finishHold index now feedback =>
    simp only [GripperState.step, GripperState.finishHold] at safe
    cases copied : state.holds[index]? with
    | none =>
      rw [copied] at safe
      exact .inl safe
    | some snapshot =>
      rw [copied] at safe
      dsimp only at safe
      rcases holdStep_eq member state snapshot now feedback with step | ⟨before, found, step⟩ <;> rw [step] at safe
      · exact nomatch safe
      · exact .inr (.inr (.inr ⟨index, now, feedback, snapshot, before, rfl, List.mem_of_getElem? copied, found, safe⟩))

/-- A hold copies the safe commands. -/
theorem holds_step {snapshot : HoldSnapshot K} (copied : snapshot ∈ (state.step config call).1.holds) :
    snapshot ∈ state.holds ∨ snapshot.commands = state.safe := by
  cases call with
  | set commands mode allowed =>
    simp only [GripperState.step] at copied
    cases ok : state.setGripperCommands config commands mode allowed with
    | error error =>
      rw [ok] at copied
      exact .inl copied
    | ok after =>
      rw [ok] at copied
      rw [(set_eq_ok ok).2] at copied
      exact .inl copied
  | submit commands sends =>
    simp only [GripperState.step, GripperState.submitGripperMit] at copied
    split_ifs at copied <;> exact .inl copied
  | seed activate positions => exact .inl copied
  | cycle input =>
    simp only [GripperState.step] at copied
    obtain ⟨-, -, same, -⟩ := cycle_cases state config input
    exact .inl (same ▸ copied)
  | beginHold disabled =>
    simp only [GripperState.step, GripperState.beginHold] at copied
    split_ifs at copied
    · exact .inl copied
    · rcases List.mem_append.mp copied with old | new
      · exact .inl old
      · exact .inr (List.mem_singleton.mp new ▸ rfl)
  | finishHold index now feedback =>
    simp only [GripperState.step, GripperState.finishHold] at copied
    split at copied
    · exact .inl copied
    · exact .inl (List.mem_of_mem_eraseIdx copied)

end Moves

end MotorDrive.Control
