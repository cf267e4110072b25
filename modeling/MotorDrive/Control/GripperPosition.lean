import MotorDrive.Control.Gripper

/-!
# The position that a gripper is commanded to

* A moving gripper approaches the requested position by at most the step of the cycle and never passes it, unless
  contact protection takes over.
* Positions inside the limits stay inside, in the control cycle, the overload retreat and the protective hold.
* Without protection no control cycle ends in contact, in a hold or in a retreat.

Main result: `gripper_command_position`.
-/

namespace MotorDrive.Control

open Trajectory (Motor)

variable {K : Type} [Field K] [LinearOrder K]

/-! ## Approaching -/

/-- A position moves from `before` toward the requested one, by at most a bound and never past it. -/
def Approaches (before after requested bound : K) : Prop :=
  |after - before| ≤ bound ∧ ((before ≤ after ∧ after ≤ requested) ∨ (requested ≤ after ∧ after ≤ before))

/-- A cycle finds the gripper moving, or frees it from a state that needs protection. -/
def GripperRecord.moves (record : GripperRecord K) : Prop :=
  record.state = .moving ∨ (record.protectionEnabled = false ∧
    (record.state = .contact ∨ record.state = .holding ∨ record.state = .overloadRetreat))

/-- The states that need protection. -/
def GripperControlState.Guards (state : GripperControlState) : Prop :=
  state = .contact ∨ state = .holding ∨ state = .overloadRetreat

section Begun

/-- The record in front of the branch of its state. -/
def GripperRecord.begun (record : GripperRecord K) (descriptor : GripperDescriptor K) (feedback : GripperFeedback K)
    (now : K) : GripperRecord K :=
  ({ record with lastUpdate := some now }.begin descriptor feedback now).settle descriptor feedback now

variable (record : GripperRecord K) (descriptor : GripperDescriptor K) (feedback : GripperFeedback K) (now : K)

@[simp] theorem begun_commandPosition :
    (record.begun descriptor feedback now).commandPosition = record.commandPosition := by
  unfold GripperRecord.begun GripperRecord.settle GripperRecord.begin
  split_ifs <;> rfl

@[simp] theorem begun_requestedPosition :
    (record.begun descriptor feedback now).requestedPosition = record.requestedPosition := by
  unfold GripperRecord.begun GripperRecord.settle GripperRecord.begin
  split_ifs <;> rfl

@[simp] theorem begun_lastUpdate : (record.begun descriptor feedback now).lastUpdate = some now := by
  unfold GripperRecord.begun GripperRecord.settle GripperRecord.begin
  split_ifs <;> rfl

@[simp] theorem begun_commandSpeed :
    (record.begun descriptor feedback now).commandSpeed = record.commandSpeed := by
  unfold GripperRecord.begun GripperRecord.settle GripperRecord.begin
  split_ifs <;> rfl

@[simp] theorem begun_protectionEnabled :
    (record.begun descriptor feedback now).protectionEnabled = record.protectionEnabled := by
  unfold GripperRecord.begun GripperRecord.settle GripperRecord.begin
  split_ifs <;> rfl

theorem begun_state_of_unprotected (unprotected : record.protectionEnabled = false) :
    (record.begun descriptor feedback now).state =
      if record.state = .contact ∨ record.state = .holding ∨ record.state = .overloadRetreat then .moving
      else record.state := by
  have off : ¬ ({ record with lastUpdate := some now } : GripperRecord K).protectionEnabled = true := by
    rw [show ({ record with lastUpdate := some now } : GripperRecord K).protectionEnabled = _ from unprotected]
    exact Bool.false_ne_true
  unfold GripperRecord.begun GripperRecord.settle GripperRecord.begin
  rw [if_neg off]
  exact congrArg GripperRecord.state (if_neg fun on => off on.1)

theorem begun_state_of_moving (moving : record.state = .moving) :
    (record.begun descriptor feedback now).state = .moving := by
  unfold GripperRecord.begun GripperRecord.settle GripperRecord.begin
  split_ifs <;> simp_all

/-- Without protection no state that needs it is left. -/
theorem not_guards_begun (unprotected : record.protectionEnabled = false) :
    ¬ (record.begun descriptor feedback now).state.Guards := by
  rw [begun_state_of_unprotected record descriptor feedback now unprotected]
  split_ifs with guards
  · rintro (is | is | is) <;> exact nomatch is
  · exact guards

/-- A moving cycle comes to the `MOVING` branch. -/
theorem begun_state_of_moves (moves : record.moves) : (record.begun descriptor feedback now).state = .moving := by
  rcases moves with moving | ⟨unprotected, guards⟩
  · exact begun_state_of_moving record descriptor feedback now moving
  · rw [begun_state_of_unprotected record descriptor feedback now unprotected, if_pos guards]

end Begun

/-! ## The step of a moving gripper -/

section Move

variable {record : GripperRecord K} {descriptor : GripperDescriptor K} {force : GripperForceProfile K}
  {feedback : GripperFeedback K} {now step : K}

theorem approaches_copysign [IsStrictOrderedRing K] (before requested : K) {step : K} (step_nonneg : 0 ≤ step) :
    Approaches before (before + copysign (min |requested - before| step) (requested - before)) requested step := by
  have size : 0 ≤ min |requested - before| step := le_min (abs_nonneg _) step_nonneg
  unfold Approaches copysign
  rw [abs_of_nonneg size, add_sub_cancel_left]
  split_ifs with back
  · rw [abs_neg, abs_of_nonneg size]
    refine ⟨min_le_right _ _, .inr ⟨?_, ?_⟩⟩
    · have le : min |requested - before| step ≤ before - requested :=
        (min_le_left _ _).trans (by rw [abs_of_neg back, neg_sub])
      linarith
    · linarith
  · rw [abs_of_nonneg size]
    refine ⟨min_le_right _ _, .inl ⟨?_, ?_⟩⟩
    · linarith
    · have le : min |requested - before| step ≤ requested - before :=
        (min_le_left _ _).trans (abs_of_nonneg (not_lt.mp back)).le
      linarith

/-- Where a moving gripper is commanded to without contact. -/
def GripperRecord.stepped (record : GripperRecord K) (step : K) : K :=
  record.commandPosition + copysign (min |record.requestedPosition - record.commandPosition| step)
    (record.requestedPosition - record.commandPosition)

/-- The contact branch keeps the command, or moves it to the protective target. -/
theorem updateContact_cases (record : GripperRecord K) (descriptor : GripperDescriptor K)
    (feedback : GripperFeedback K) (now : K) (contact : Bool) :
    ((record.updateContact descriptor feedback now contact).commandPosition = record.commandPosition ∧
        (record.updateContact descriptor feedback now contact).state = record.state ∧
        (record.updateContact descriptor feedback now contact).protectiveTargetActive =
          record.protectiveTargetActive ∧
        (record.updateContact descriptor feedback now contact).protectiveTarget = record.protectiveTarget) ∨
      (contact = true ∧ (record.updateContact descriptor feedback now contact).state = .contact ∧
        ∃ base, (record.updateContact descriptor feedback now contact).commandPosition =
            clamp base descriptor.lowerPosition descriptor.upperPosition ∧
          (record.updateContact descriptor feedback now contact).protectiveTarget =
            clamp base descriptor.lowerPosition descriptor.upperPosition) := by
  unfold GripperRecord.updateContact
  split_ifs with evidence
  · simp only
    split_ifs
    · exact .inr ⟨evidence, rfl, _, rfl, rfl⟩
    · exact .inl ⟨rfl, rfl, rfl, rfl⟩
  · exact .inl ⟨rfl, rfl, rfl, rfl⟩

/-- A moving gripper makes its step, or contact takes its command over. -/
theorem move_cases (descriptor : GripperDescriptor K) (force : GripperForceProfile K)
    (feedback : GripperFeedback K) (now step : K) (moving : record.state = .moving) :
    (((record.move descriptor force feedback now step).commandPosition = record.stepped step ∧
        ((record.move descriptor force feedback now step).state = .moving ∨
          (record.move descriptor force feedback now step).state = .idle) ∧
        (record.move descriptor force feedback now step).protectiveTargetActive = record.protectiveTargetActive ∧
        (record.move descriptor force feedback now step).protectiveTarget = record.protectiveTarget) ∨
      (record.protectionEnabled = true ∧ (record.move descriptor force feedback now step).state = .contact ∧
        ∃ base, (record.move descriptor force feedback now step).commandPosition =
            clamp base descriptor.lowerPosition descriptor.upperPosition ∧
          (record.move descriptor force feedback now step).protectiveTarget =
            clamp base descriptor.lowerPosition descriptor.upperPosition)) := by
  unfold GripperRecord.move
  extract_lets closing delta commanded prepared contacted
  have command : prepared.commandPosition = record.stepped step := by
    simp only [prepared]
    split_ifs <;> rfl
  have state : prepared.state = .moving := by
    simp only [prepared]
    split_ifs <;> exact moving
  have protective : prepared.protectiveTargetActive = record.protectiveTargetActive ∧
      prepared.protectiveTarget = record.protectiveTarget := by
    simp only [prepared]
    split_ifs <;> exact ⟨rfl, rfl⟩
  have protection : prepared.protectionEnabled = record.protectionEnabled := by
    simp only [prepared]
    split_ifs <;> rfl
  rcases updateContact_cases prepared descriptor feedback now
    (prepared.contactEvidence descriptor force feedback closing) with
    ⟨commandKept, stateKept, activeKept, targetKept⟩ | ⟨evidence, contact, base, commanded, guarded⟩
  · refine .inl ?_
    split_ifs
    · exact ⟨commandKept.trans command, .inr rfl, activeKept.trans protective.1, targetKept.trans protective.2⟩
    · exact ⟨commandKept.trans command, .inl (stateKept.trans state), activeKept.trans protective.1,
        targetKept.trans protective.2⟩
  · refine .inr ⟨?_, ?_⟩
    · rw [← protection]
      simp only [GripperRecord.contactEvidence, Bool.and_eq_true] at evidence
      exact evidence.1.1.1.1.1.1
    · have found : contacted.state = .contact := contact
      have still : ¬ (contacted.state = .moving ∧
          |contacted.requestedPosition - feedback.position| ≤ descriptor.minPositionError) := by
        rintro ⟨is, -⟩
        cases found.symm.trans is
      rw [if_neg still]
      exact ⟨found, base, commanded, guarded⟩

/-- What a moving gripper keeps. -/
theorem move_kept (record : GripperRecord K) (descriptor : GripperDescriptor K) (force : GripperForceProfile K)
    (feedback : GripperFeedback K) (now step : K) :
    (record.move descriptor force feedback now step).retreatActive = record.retreatActive ∧
      (record.move descriptor force feedback now step).retreatTarget = record.retreatTarget ∧
      (record.move descriptor force feedback now step).requestedPosition = record.requestedPosition ∧
      (record.move descriptor force feedback now step).commandSpeed = record.commandSpeed ∧
      (record.move descriptor force feedback now step).lastUpdate = record.lastUpdate := by
  unfold GripperRecord.move GripperRecord.updateContact
  dsimp only
  split_ifs <;> exact ⟨rfl, rfl, rfl, rfl, rfl⟩

/-- The overload of a hold is left alone, or leads to a retreat. -/
theorem updateOverload_cases (record : GripperRecord K) (descriptor : GripperDescriptor K)
    (force : GripperForceProfile K) (feedback : GripperFeedback K) (now : K) :
    ((record.updateOverload descriptor force feedback now).2 = none ∧
        ∃ started, (record.updateOverload descriptor force feedback now).1 =
          { record with overloadStartedAt := started }) ∨
      ∃ started target, (record.updateOverload descriptor force feedback now).2 = some target ∧
        target = descriptor.retreatFrom
          (if record.retreatActive then record.retreatTarget else feedback.position) ∧
        (record.updateOverload descriptor force feedback now).1 =
          { { record with overloadStartedAt := started }.retreat now target with commandPosition := target } := by
  unfold GripperRecord.updateOverload
  by_cases light : |feedback.torque| < force.overloadTorque
  · rw [if_pos light]
    exact .inl ⟨rfl, none, rfl⟩
  · rw [if_neg light]
    dsimp only
    by_cases due : GripperRecord.retreatDue
        { record with overloadStartedAt := some (record.overloadStartedAt.getD now) } descriptor now = true
    · rw [if_pos due]
      exact .inr ⟨some (record.overloadStartedAt.getD now), _, rfl, rfl, rfl⟩
    · rw [if_neg due]
      exact .inl ⟨rfl, some (record.overloadStartedAt.getD now), rfl⟩

end Move

/-- What no branch of a cycle changes. -/
theorem act_kept (record : GripperRecord K) (descriptor : GripperDescriptor K) (force : GripperForceProfile K)
    (feedback : GripperFeedback K) (now step : K) :
    (record.act descriptor force feedback now step).1.requestedPosition = record.requestedPosition ∧
      (record.act descriptor force feedback now step).1.commandSpeed = record.commandSpeed ∧
      (record.act descriptor force feedback now step).1.lastUpdate = record.lastUpdate := by
  unfold GripperRecord.act
  split
  · exact (move_kept record descriptor force feedback now step).2.2
  · split_ifs
    · rcases updateOverload_cases record descriptor force feedback now with ⟨-, _, is⟩ | ⟨_, _, -, -, is⟩ <;>
        rw [is] <;> exact ⟨rfl, rfl, rfl⟩
    · exact ⟨rfl, rfl, rfl⟩
  · exact ⟨rfl, rfl, rfl⟩
  · exact ⟨rfl, rfl, rfl⟩

/-! ## Positions inside the limits -/

section Inside

/-- A position inside the limits of the gripper. -/
def GripperDescriptor.Inside (descriptor : GripperDescriptor K) (position : K) : Prop :=
  descriptor.lowerPosition ≤ position ∧ position ≤ descriptor.upperPosition

/-- Where a record is going is inside the limits. -/
structure GripperRecord.Targets (record : GripperRecord K) (descriptor : GripperDescriptor K) : Prop where
  requested : descriptor.Inside record.requestedPosition
  command : descriptor.Inside record.commandPosition

/-- The targets that protection has set are inside the limits. -/
structure GripperRecord.Guarded (record : GripperRecord K) (descriptor : GripperDescriptor K) : Prop where
  retreat : record.retreatActive = true → descriptor.Inside record.retreatTarget
  protective : record.protectiveTargetActive = true → descriptor.Inside record.protectiveTarget

variable {record : GripperRecord K} {descriptor : GripperDescriptor K} {force : GripperForceProfile K}
  {feedback : GripperFeedback K} {now step : K}

theorem inside_clamp (descriptor : GripperDescriptor K) (position : K) :
    descriptor.Inside (clamp position descriptor.lowerPosition descriptor.upperPosition) :=
  ⟨le_max_left _ _, max_le descriptor.lower_le_upper (min_le_right _ _)⟩

theorem inside_retreatFrom (descriptor : GripperDescriptor K) (base : K) :
    descriptor.Inside (descriptor.retreatFrom base) :=
  inside_clamp ..

theorem Approaches.inside {before after requested bound : K} (approaches : Approaches before after requested bound)
    (inside : descriptor.Inside before) (target : descriptor.Inside requested) : descriptor.Inside after := by
  rcases approaches.2 with ⟨above, below⟩ | ⟨above, below⟩
  · exact ⟨inside.1.trans above, below.trans target.2⟩
  · exact ⟨target.1.trans above, below.trans inside.2⟩

theorem GripperRecord.Guarded.begun (guarded : record.Guarded descriptor) :
    (record.begun descriptor feedback now).Guarded descriptor := by
  unfold GripperRecord.begun GripperRecord.settle GripperRecord.begin
  split_ifs
  all_goals first
    | exact ⟨guarded.retreat, guarded.protective⟩
    | exact ⟨nofun, nofun⟩

theorem GripperRecord.Targets.begun (targets : record.Targets descriptor) :
    (record.begun descriptor feedback now).Targets descriptor :=
  ⟨by simpa using targets.requested, by simpa using targets.command⟩

theorem GripperRecord.Guarded.act (guarded : record.Guarded descriptor) :
    (record.act descriptor force feedback now step).1.Guarded descriptor := by
  unfold GripperRecord.act
  split
  · rename_i moving
    obtain ⟨active, target, -⟩ := move_kept record descriptor force feedback now step
    refine ⟨fun on => target ▸ guarded.retreat (active ▸ on), fun on => ?_⟩
    rcases move_cases descriptor force feedback now step moving with ⟨-, -, active, target⟩ | ⟨-, -, base, -, target⟩
    · exact target ▸ guarded.protective (active ▸ on)
    · exact target ▸ inside_clamp descriptor base
  · split_ifs
    · rcases updateOverload_cases record descriptor force feedback now with ⟨-, started, is⟩ | ⟨started, target, -, made, is⟩
      · rw [is]
        exact ⟨guarded.retreat, guarded.protective⟩
      · rw [is, made]
        exact ⟨fun _ => inside_retreatFrom .., fun _ => inside_retreatFrom ..⟩
    · exact guarded
  · exact ⟨guarded.retreat, guarded.protective⟩
  · exact guarded

theorem GripperRecord.Targets.act [IsStrictOrderedRing K] (targets : record.Targets descriptor) (step_nonneg : 0 ≤ step) :
    (record.act descriptor force feedback now step).1.Targets descriptor := by
  unfold GripperRecord.act
  split
  · rename_i moving
    obtain ⟨-, -, requested, -⟩ := move_kept record descriptor force feedback now step
    refine ⟨requested ▸ targets.requested, ?_⟩
    rcases move_cases descriptor force feedback now step moving with ⟨command, -⟩ | ⟨-, -, base, command, -⟩
    · exact command ▸ (approaches_copysign _ _ step_nonneg).inside targets.command targets.requested
    · exact command ▸ inside_clamp descriptor base
  · split_ifs
    · rcases updateOverload_cases record descriptor force feedback now with ⟨-, started, is⟩ | ⟨started, target, -, made, is⟩
      · rw [is]
        exact ⟨targets.requested, targets.command⟩
      · rw [is, made]
        exact ⟨targets.requested, inside_retreatFrom ..⟩
    · exact targets
  · exact ⟨targets.requested, targets.requested⟩
  · exact targets

/-- What a cycle does to the record of a gripper: nothing, a fault, or the branch of its state. -/
theorem prepare_cases (record : GripperRecord K) (descriptor : GripperDescriptor K) (feedback : GripperFeedback K)
    (previous : Option (MitCommand K)) (now scale : K) :
    ((record.prepare descriptor feedback previous now scale).record = record ∧
        (record.prepare descriptor feedback previous now scale).retreat = none ∧ feedback.available = false ∧
        ∀ command, (record.prepare descriptor feedback previous now scale).command = .ok (some command) →
          ∃ before, previous = some before ∧ command.motor = before.motor ∧
            command.targetPosition = before.targetPosition) ∨
      ((record.prepare descriptor feedback previous now scale).record = { record with state := .fault } ∧
        (record.prepare descriptor feedback previous now scale).retreat = none ∧
        ∃ error, (record.prepare descriptor feedback previous now scale).command = .error error) ∨
      (feedback.available = true ∧ feedback.statusCode = 1 ∧ ∃ force step acted,
        acted = (record.begun descriptor feedback now).act descriptor force feedback now step ∧
        step = record.commandSpeed * scale * record.interval descriptor now ∧
        (record.prepare descriptor feedback previous now scale).record = acted.1 ∧
        (record.prepare descriptor feedback previous now scale).retreat = acted.2 ∧
        ∀ command, (record.prepare descriptor feedback previous now scale).command = .ok (some command) →
          command.motor = descriptor.motor ∧ command.targetPosition = acted.1.commandPosition) := by
  unfold GripperRecord.prepare
  by_cases missing : feedback.available = false
  · rw [if_pos missing]
    refine .inl ?_
    unfold GripperRecord.prepareUnavailable
    cases previous with
    | none => exact ⟨rfl, rfl, missing, nofun⟩
    | some before =>
      refine ⟨rfl, rfl, missing, fun command is => ⟨before, rfl, ?_⟩⟩
      cases is
      unfold GripperRecord.degradedHold
      split_ifs <;> exact ⟨rfl, rfl⟩
  · rw [if_neg missing]
    by_cases status : feedback.statusCode ≠ 1
    · rw [if_pos status]
      exact .inr (.inl ⟨rfl, rfl, _, rfl⟩)
    · rw [if_neg status]
      refine .inr (.inr ⟨by simpa using missing, not_not.mp status, descriptor.forceProfile record.forceLevel, _, _, rfl, rfl, rfl, rfl,
        fun command is => ?_⟩)
      cases is
      exact ⟨rfl, rfl⟩

/-- The overload of the safe-hold path is left alone, or leads to a retreat from the measured position. -/
theorem holdOverload_cases (record : GripperRecord K) (descriptor : GripperDescriptor K)
    (force : GripperForceProfile K) (feedback : GripperFeedback K) (now : K) :
    ((record.holdOverload descriptor force feedback now).2 = none ∧
        ∃ started state, (record.holdOverload descriptor force feedback now).1 =
          { record with overloadStartedAt := started, state := state }) ∨
      ∃ started target, (record.holdOverload descriptor force feedback now).2 = some target ∧
        record.holdRetreats descriptor force feedback now = true ∧
        target = descriptor.retreatFrom feedback.position ∧
        (record.holdOverload descriptor force feedback now).1 =
          { record with overloadStartedAt := started }.retreat now target := by
  unfold GripperRecord.holdOverload
  by_cases retreats : record.holdRetreats descriptor force feedback now = true
  · rw [if_pos retreats]
    exact .inr ⟨some (record.overloadStartedAt.getD now), _, rfl, retreats, rfl, rfl⟩
  · rw [if_neg retreats]
    refine .inl ?_
    split_ifs
    · exact ⟨rfl, _, record.state, rfl⟩
    · exact ⟨rfl, none, _, rfl⟩
    · exact ⟨rfl, none, _, rfl⟩
    · exact ⟨rfl, record.overloadStartedAt, record.state, rfl⟩

/-- What a hold does with a gripper: nothing, a fault, or the overload and a command at its position. -/
theorem hold_cases (record : GripperRecord K) (descriptor : GripperDescriptor K) (feedback : GripperFeedback K)
    (command : MitCommand K) (now : K) :
    ((record.hold descriptor feedback command now).record = record ∧
        (record.hold descriptor feedback command now).command = some command ∧
        (record.hold descriptor feedback command now).retreat = none) ∨
      ((record.hold descriptor feedback command now).record = { record with state := .fault } ∧
        (record.hold descriptor feedback command now).command = none ∧
        (record.hold descriptor feedback command now).retreat = none) ∨
      ∃ held, held = record.holdOverload descriptor (descriptor.forceProfile record.forceLevel) feedback now ∧
        (record.hold descriptor feedback command now).record = held.1 ∧
        (record.hold descriptor feedback command now).retreat = held.2 ∧
        ∃ output, (record.hold descriptor feedback command now).command = some output ∧
          output.motor = command.motor ∧ output.targetPosition = held.1.holdPosition command := by
  unfold GripperRecord.hold
  by_cases missing : feedback.available = false
  · rw [if_pos missing]
    exact .inl ⟨rfl, rfl, rfl⟩
  · rw [if_neg missing]
    by_cases status : feedback.statusCode ≠ 1
    · rw [if_pos status]
      exact .inr (.inl ⟨rfl, rfl, rfl⟩)
    · rw [if_neg status]
      by_cases stale : feedback.stale = true
      · rw [if_pos stale]
        exact .inl ⟨rfl, rfl, rfl⟩
      · rw [if_neg stale]
        exact .inr (.inr ⟨_, rfl, rfl, rfl, _, rfl, rfl, rfl⟩)

theorem GripperRecord.Guarded.holdOverload (guarded : record.Guarded descriptor) (force : GripperForceProfile K)
    (feedback : GripperFeedback K) (now : K) :
    (record.holdOverload descriptor force feedback now).1.Guarded descriptor := by
  rcases holdOverload_cases record descriptor force feedback now with
    ⟨-, started, state, is⟩ | ⟨started, target, -, -, made, is⟩
  · rw [is]
    exact ⟨guarded.retreat, guarded.protective⟩
  · rw [is, made]
    exact ⟨fun _ => inside_retreatFrom .., fun _ => inside_retreatFrom ..⟩

theorem GripperRecord.Guarded.hold (guarded : record.Guarded descriptor) (command : MitCommand K) :
    (record.hold descriptor feedback command now).record.Guarded descriptor := by
  rcases hold_cases record descriptor feedback command now with ⟨is, -⟩ | ⟨is, -⟩ | ⟨held, rfl, is, -⟩
  · rwa [is]
  · rw [is]
    exact ⟨guarded.retreat, guarded.protective⟩
  · rw [is]
    exact guarded.holdOverload _ _ _

/-- What a hold never changes. -/
theorem hold_kept (record : GripperRecord K) (descriptor : GripperDescriptor K) (feedback : GripperFeedback K)
    (command : MitCommand K) (now : K) :
    (record.hold descriptor feedback command now).record.requestedPosition = record.requestedPosition ∧
      (record.hold descriptor feedback command now).record.commandPosition = record.commandPosition ∧
      (record.hold descriptor feedback command now).record.commandSpeed = record.commandSpeed ∧
      (record.hold descriptor feedback command now).record.lastUpdate = record.lastUpdate := by
  rcases hold_cases record descriptor feedback command now with ⟨is, -⟩ | ⟨is, -⟩ | ⟨held, rfl, is, -⟩
  · rw [is]
    exact ⟨rfl, rfl, rfl, rfl⟩
  · rw [is]
    exact ⟨rfl, rfl, rfl, rfl⟩
  · rw [is]
    rcases holdOverload_cases record descriptor (descriptor.forceProfile record.forceLevel) feedback now with
      ⟨-, _, _, is⟩ | ⟨_, _, -, -, -, is⟩ <;> rw [is] <;> exact ⟨rfl, rfl, rfl, rfl⟩

/-- A hold commands a protected target or the copied one. -/
theorem inside_hold {command output : MitCommand K} (guarded : record.Guarded descriptor)
    (inside : descriptor.Inside command.targetPosition)
    (made : (record.hold descriptor feedback command now).command = some output) :
    descriptor.Inside output.targetPosition := by
  rcases hold_cases record descriptor feedback command now with
    ⟨-, is, -⟩ | ⟨-, is, -⟩ | ⟨held, rfl, -, -, result, is, -, position⟩
  · cases is.symm.trans made
    exact inside
  · cases is.symm.trans made
  · cases is.symm.trans made
    have guarded := guarded.holdOverload (descriptor.forceProfile record.forceLevel) feedback now
    rw [position]
    unfold GripperRecord.holdPosition
    split_ifs with retreat protective
    · exact guarded.retreat retreat.2
    · exact guarded.protective protective.2
    · exact inside

theorem hold_motor {command output : MitCommand K}
    (made : (record.hold descriptor feedback command now).command = some output) : output.motor = command.motor := by
  rcases hold_cases record descriptor feedback command now with
    ⟨-, is, -⟩ | ⟨-, is, -⟩ | ⟨held, rfl, -, -, result, is, motor, -⟩
  · cases is.symm.trans made
    rfl
  · cases is.symm.trans made
  · cases is.symm.trans made
    exact motor

theorem GripperRecord.Guarded.prepare (guarded : record.Guarded descriptor) (previous : Option (MitCommand K))
    (scale : K) : (record.prepare descriptor feedback previous now scale).record.Guarded descriptor := by
  rcases prepare_cases record descriptor feedback previous now scale with
    ⟨is, -⟩ | ⟨is, -⟩ | ⟨-, -, force, step, acted, rfl, -, is, -⟩
  · rwa [is]
  · rw [is]
    exact ⟨guarded.retreat, guarded.protective⟩
  · rw [is]
    exact guarded.begun.act

/-- What a cycle keeps of the speed and the time of its last step. -/
theorem prepare_kept (record : GripperRecord K) (descriptor : GripperDescriptor K) (feedback : GripperFeedback K)
    (previous : Option (MitCommand K)) (now scale : K) :
    (record.prepare descriptor feedback previous now scale).record.commandSpeed = record.commandSpeed ∧
      ((record.prepare descriptor feedback previous now scale).record.lastUpdate = record.lastUpdate ∨
        (record.prepare descriptor feedback previous now scale).record.lastUpdate = some now) := by
  rcases prepare_cases record descriptor feedback previous now scale with
    ⟨is, -⟩ | ⟨is, -⟩ | ⟨-, -, force, step, acted, rfl, -, is, -⟩
  · rw [is]
    exact ⟨rfl, .inl rfl⟩
  · rw [is]
    exact ⟨rfl, .inl rfl⟩
  · rw [is]
    obtain ⟨-, speed, update⟩ := act_kept (record.begun descriptor feedback now) descriptor force feedback now step
    exact ⟨speed.trans (begun_commandSpeed ..), .inr (update.trans (begun_lastUpdate ..))⟩

section Accept

variable (record) (descriptor) (command : GripperCommand K) (mode : GripperMode)

/-- An accepted command asks for the position of its opening and leaves the commanded position alone. -/
theorem accept_positions :
    (record.accept descriptor command mode).requestedPosition = descriptor.openingToPosition command.opening ∧
      (record.accept descriptor command mode).commandPosition = record.commandPosition ∧
      (record.accept descriptor command mode).commandSpeed = descriptor.closeSpeed * command.speed / 1000 ∧
      (record.accept descriptor command mode).lastUpdate = record.lastUpdate := by
  unfold GripperRecord.accept
  dsimp only
  split_ifs <;> exact ⟨rfl, rfl, rfl, rfl⟩

/-- A restart forgets the targets of protection. -/
theorem accept_of_restarts (restarts : record.restarts (descriptor.openingToPosition command.opening) mode = true) :
    (record.accept descriptor command mode).retreatActive = false ∧
      (record.accept descriptor command mode).protectiveTargetActive = false := by
  unfold GripperRecord.accept
  dsimp only
  rw [if_pos restarts]
  exact ⟨rfl, rfl⟩

/-- Any other command keeps them. -/
theorem accept_of_not_restarts
    (continues : ¬ record.restarts (descriptor.openingToPosition command.opening) mode = true) :
    (record.accept descriptor command mode).retreatActive = record.retreatActive ∧
      (record.accept descriptor command mode).retreatTarget = record.retreatTarget ∧
      (record.accept descriptor command mode).protectiveTargetActive = record.protectiveTargetActive ∧
      (record.accept descriptor command mode).protectiveTarget = record.protectiveTarget := by
  unfold GripperRecord.accept
  dsimp only
  rw [if_neg continues]
  split_ifs <;> exact ⟨rfl, rfl, rfl, rfl⟩

end Accept

theorem GripperRecord.Guarded.accept (guarded : record.Guarded descriptor) (command : GripperCommand K)
    (mode : GripperMode) : (record.accept descriptor command mode).Guarded descriptor := by
  by_cases restarts : record.restarts (descriptor.openingToPosition command.opening) mode = true
  · obtain ⟨retreat, protective⟩ := accept_of_restarts record descriptor command mode restarts
    exact ⟨fun on => absurd (retreat.symm.trans on) Bool.false_ne_true,
      fun on => absurd (protective.symm.trans on) Bool.false_ne_true⟩
  · obtain ⟨retreat, retreatTarget, protective, protectiveTarget⟩ :=
      accept_of_not_restarts record descriptor command mode restarts
    exact ⟨fun on => retreatTarget ▸ guarded.retreat (retreat ▸ on),
      fun on => protectiveTarget ▸ guarded.protective (protective ▸ on)⟩

/-- The positions between two positions inside the limits are inside. -/
theorem inside_openingToPosition [IsStrictOrderedRing K] (closed : descriptor.Inside descriptor.closedPosition)
    (opened : descriptor.Inside descriptor.openPosition) (opening : K) :
    descriptor.Inside (descriptor.openingToPosition opening) := by
  have ratio_nonneg : 0 ≤ clamp opening 0 1000 / 1000 := div_nonneg (le_max_left _ _) (by norm_num)
  have ratio_le : clamp opening 0 1000 / 1000 ≤ 1 :=
    (div_le_one (by norm_num)).mpr (max_le (by norm_num) (min_le_right _ _))
  unfold GripperDescriptor.openingToPosition
  set ratio := clamp opening 0 1000 / 1000
  obtain ⟨closed_ge, closed_le⟩ := closed
  obtain ⟨open_ge, open_le⟩ := opened
  constructor
  · have lower := add_le_add (mul_le_mul_of_nonneg_right closed_ge (sub_nonneg.mpr ratio_le))
      (mul_le_mul_of_nonneg_right open_ge ratio_nonneg)
    linarith
  · have upper := add_le_add (mul_le_mul_of_nonneg_right closed_le (sub_nonneg.mpr ratio_le))
      (mul_le_mul_of_nonneg_right open_le ratio_nonneg)
    linarith

end Inside

/-! ## Runs -/

section Runs

variable {config : GripperConfig K} {descriptor : GripperDescriptor K} {state : GripperState K}
  {call : GripperCall K}

/-- What holds of every state that a list of calls leads to. -/
structure Sane (config : GripperConfig K) (calls : List (GripperCall K)) (state : GripperState K) : Prop where
  guarded : ∀ descriptor ∈ config.grippers, (state.record descriptor.motor).Guarded descriptor
  speed : ∀ descriptor ∈ config.grippers, 0 ≤ (state.record descriptor.motor).commandSpeed
  stamped : ∀ descriptor ∈ config.grippers, ∀ time, (state.record descriptor.motor).lastUpdate = some time →
    ∃ input, GripperCall.cycle input ∈ calls ∧ input.now = time
  safe : ∀ descriptor ∈ config.grippers, ∀ command, state.safe descriptor.motor = some command →
    command.motor = descriptor.motor
  holds : ∀ descriptor ∈ config.grippers, ∀ snapshot ∈ state.holds, ∀ command,
    snapshot.commands descriptor.motor = some command → command.motor = descriptor.motor

theorem sane_of_starts (starts : config.Starts state) : Sane config [] state where
  guarded _ _ := ⟨fun on => absurd ((starts.retreat _).symm.trans on) Bool.false_ne_true,
    fun on => absurd ((starts.protective _).symm.trans on) Bool.false_ne_true⟩
  speed _ _ := starts.speed _
  stamped _ _ _ is := nomatch (starts.update _).symm.trans is
  safe _ _ _ is := nomatch (starts.safe _).symm.trans is
  holds _ _ _ copied := absurd (starts.holds ▸ copied) List.not_mem_nil

theorem guarded_moves {after : GripperRecord K} {retreat : Option K}
    (guarded : (state.record descriptor.motor).Guarded descriptor)
    (moves : Moves config descriptor state call after retreat) : after.Guarded descriptor := by
  cases moves with
  | kept => exact guarded
  | set commands mode allowed command found accepts accepted => exact guarded.accept command mode
  | submit => exact ⟨nofun, nofun⟩
  | seed => exact ⟨guarded.retreat, guarded.protective⟩
  | cycle input controls => exact guarded.prepare _ _
  | hold index now feedback snapshot copied command found => exact guarded.hold command

theorem speed_moves [IsStrictOrderedRing K] {after : GripperRecord K} {retreat : Option K}
    (speed : 0 ≤ (state.record descriptor.motor).commandSpeed)
    (moves : Moves config descriptor state call after retreat) : 0 ≤ after.commandSpeed := by
  cases moves with
  | kept => exact speed
  | set commands mode allowed command found accepts accepted =>
    obtain ⟨-, -, -, -, -, positive, -, -⟩ := accepts
    rw [(accept_positions _ descriptor command mode).2.2.1]
    exact div_nonneg (mul_nonneg descriptor.closeSpeed_nonneg positive.le) (by norm_num)
  | submit => exact speed
  | seed => exact speed
  | cycle input controls =>
    unfold GripperInput.stepOf
    rwa [(prepare_kept _ _ _ _ _ _).1]
  | hold index now feedback snapshot copied command found => rwa [(hold_kept _ _ _ _ _).2.2.1]

theorem stamped_moves {after : GripperRecord K} {retreat : Option K} {time : K}
    (moves : Moves config descriptor state call after retreat) (stamp : after.lastUpdate = some time) :
    (state.record descriptor.motor).lastUpdate = some time ∨ ∃ input, call = .cycle input ∧ input.now = time := by
  cases moves with
  | kept => exact .inl stamp
  | set commands mode allowed command found accepts accepted =>
    exact .inl ((accept_positions _ descriptor command mode).2.2.2 ▸ stamp)
  | submit => exact .inl stamp
  | seed => exact .inl stamp
  | cycle input controls =>
    rcases (prepare_kept (state.record descriptor.motor) descriptor (input.feedback descriptor.motor)
      (state.safe descriptor.motor) input.now (commandScale input.degraded)).2 with same | now
    · exact .inl (same.symm.trans stamp)
    · exact .inr ⟨input, rfl, Option.some.inj (now.symm.trans stamp)⟩
  | hold index now feedback snapshot copied command found =>
    rw [(hold_kept _ _ _ _ _).2.2.2] at stamp
    exact .inl stamp

theorem sane_step [IsStrictOrderedRing K] {calls : List (GripperCall K)} (sane : Sane config calls state)
    (call : GripperCall K) : Sane config (calls ++ [call]) (state.step config call).1 where
  guarded descriptor member := by
    obtain ⟨retreat, moves, -⟩ := step_moves member state call
    exact guarded_moves (sane.guarded descriptor member) moves
  speed descriptor member := by
    obtain ⟨retreat, moves, -⟩ := step_moves member state call
    exact speed_moves (sane.speed descriptor member) moves
  stamped descriptor member time stamp := by
    obtain ⟨retreat, moves, -⟩ := step_moves member state call
    rcases stamped_moves moves stamp with old | ⟨input, is, now⟩
    · obtain ⟨input, found, now⟩ := sane.stamped descriptor member time old
      exact ⟨input, List.mem_append_left _ found, now⟩
    · exact ⟨input, List.mem_append_right _ (is ▸ List.mem_singleton_self _), now⟩
  safe descriptor member command safe := by
    rcases safe_step member safe with old | ⟨-, motor⟩ | ⟨motor, -⟩ | ⟨_, _, _, snapshot, copied, -, held, found, made⟩
    · exact sane.safe descriptor member command old
    · exact motor
    · exact motor
    · exact (hold_motor made).trans (sane.holds descriptor member snapshot held copied found)
  holds descriptor member snapshot copied command found := by
    rcases holds_step copied with old | fresh
    · exact sane.holds descriptor member snapshot old command found
    · exact sane.safe descriptor member command (fresh ▸ found)

theorem sane_final [IsStrictOrderedRing K] (starts : config.Starts state) (calls : List (GripperCall K)) :
    Sane config calls (History.final (GripperState.step config) state calls) := by
  induction calls using List.reverseRecOn with
  | nil => exact sane_of_starts starts
  | append_singleton calls call ih =>
    rw [History.final_append]
    exact sane_step ih call

/-- The time that a cycle in order may move a gripper for. -/
theorem interval_nonneg [IsStrictOrderedRing K] {record : GripperRecord K} {now : K}
    (ordered : ∀ time, record.lastUpdate = some time → time ≤ now) : 0 ≤ record.interval descriptor now := by
  unfold GripperRecord.interval
  cases stamp : record.lastUpdate with
  | none => exact le_rfl
  | some time => exact le_min (sub_nonneg.mpr (ordered time stamp)) descriptor.maxStepInterval_nonneg

/-- The step of a cycle in order. -/
theorem step_nonneg [IsStrictOrderedRing K] {calls later : List (GripperCall K)} {input : GripperInput K}
    (sane : Sane config calls state) (ordered : CyclesInOrder (calls ++ .cycle input :: later))
    (member : descriptor ∈ config.grippers) :
    0 ≤ (state.record descriptor.motor).commandSpeed * commandScale input.degraded *
      (state.record descriptor.motor).interval descriptor input.now := by
  refine mul_nonneg (mul_nonneg (sane.speed descriptor member) (commandScale_pos _).le)
    (interval_nonneg fun time stamp => ?_)
  obtain ⟨before, found, rfl⟩ := sane.stamped descriptor member time stamp
  exact (List.pairwise_append.mp ordered).2.2 _ found _ (List.mem_cons_self ..) before input rfl rfl

/-- Where a gripper is going, what is remembered for it and what holds have copied is inside its limits. -/
structure Bounded (descriptor : GripperDescriptor K) (state : GripperState K) : Prop where
  targets : (state.record descriptor.motor).Targets descriptor
  safe : ∀ command, state.safe descriptor.motor = some command → descriptor.Inside command.targetPosition
  holds : ∀ snapshot ∈ state.holds, ∀ command, snapshot.commands descriptor.motor = some command →
    descriptor.Inside command.targetPosition

/-- A call that neither seeds the targets nor sends raw commands. -/
def GripperCall.Keeps (call : GripperCall K) : Prop :=
  (∀ commands sends, call ≠ .submit commands sends) ∧ ∀ activate positions, call ≠ .seed activate positions

/-- What a call hands to the backend for a bounded gripper is inside its limits. -/
theorem inside_sent [IsStrictOrderedRing K] {calls later : List (GripperCall K)} {command : MitCommand K}
    (sane : Sane config calls state) (bounded : Bounded descriptor state) (member : descriptor ∈ config.grippers)
    (ordered : CyclesInOrder (calls ++ call :: later)) (sent : command ∈ (state.step config call).2.sent)
    (motor : command.motor = descriptor.motor) : descriptor.Inside command.targetPosition := by
  rcases sent_step sent with ⟨input, rfl, other, otherMember, made⟩ |
    ⟨index, now, feedback, snapshot, rfl, held, other, otherMember, copied, found, made⟩
  · rcases prepare_cases (state.record other.motor) other (input.feedback other.motor) (state.safe other.motor)
      input.now (commandScale input.degraded) with ⟨-, -, -, from_safe⟩ | ⟨-, -, error, failed⟩ |
      ⟨-, -, force, step, acted, rfl, rfl, -, -, commanded⟩
    · obtain ⟨before, safe, sameMotor, sameTarget⟩ := from_safe command made
      cases eq_of_motor_eq member otherMember
        ((sane.safe other otherMember before safe).symm.trans (sameMotor.symm.trans motor))
      exact sameTarget ▸ bounded.safe before safe
    · exact nomatch failed.symm.trans made
    · obtain ⟨sameMotor, target⟩ := commanded command made
      cases eq_of_motor_eq member otherMember (sameMotor.symm.trans motor)
      exact target ▸ (bounded.targets.begun.act (step_nonneg sane ordered member)).command
  · have keyed := (hold_motor made).trans (sane.holds other otherMember snapshot held copied found)
    cases eq_of_motor_eq member otherMember (keyed.symm.trans motor)
    exact inside_hold (sane.guarded descriptor member) (bounded.holds snapshot held copied found) made

theorem targets_moves [IsStrictOrderedRing K] {after : GripperRecord K} {retreat : Option K}
    {calls later : List (GripperCall K)} (sane : Sane config calls state) (bounded : Bounded descriptor state)
    (member : descriptor ∈ config.grippers) (ordered : CyclesInOrder (calls ++ call :: later)) (keeps : call.Keeps)
    (closed : descriptor.Inside descriptor.closedPosition) (opened : descriptor.Inside descriptor.openPosition)
    (moves : Moves config descriptor state call after retreat) : after.Targets descriptor := by
  have targets := bounded.targets
  cases moves with
  | kept => exact targets
  | set commands mode allowed command found accepts accepted =>
    obtain ⟨requested, commanded, -⟩ := accept_positions (state.record descriptor.motor) descriptor command mode
    exact ⟨requested ▸ inside_openingToPosition closed opened _, commanded ▸ targets.command⟩
  | submit commands command found => exact absurd rfl (keeps.1 commands true)
  | seed activate positions => exact absurd rfl (keeps.2 activate positions)
  | cycle input controls =>
    unfold GripperInput.stepOf
    rcases prepare_cases (state.record descriptor.motor) descriptor (input.feedback descriptor.motor)
      (state.safe descriptor.motor) input.now (commandScale input.degraded) with
      ⟨is, -⟩ | ⟨is, -⟩ | ⟨-, -, force, step, acted, rfl, rfl, is, -⟩
    · rwa [is]
    · rw [is]
      exact ⟨targets.requested, targets.command⟩
    · rw [is]
      exact targets.begun.act (step_nonneg sane ordered member)
  | hold index now feedback snapshot copied command found =>
    obtain ⟨requested, commanded, -⟩ :=
      hold_kept (state.record descriptor.motor) descriptor (feedback descriptor.motor) command now
    exact ⟨requested ▸ targets.requested, commanded ▸ targets.command⟩

theorem bounded_step [IsStrictOrderedRing K] {calls later : List (GripperCall K)} (sane : Sane config calls state)
    (bounded : Bounded descriptor state) (member : descriptor ∈ config.grippers)
    (ordered : CyclesInOrder (calls ++ call :: later)) (keeps : call.Keeps)
    (closed : descriptor.Inside descriptor.closedPosition) (opened : descriptor.Inside descriptor.openPosition) :
    Bounded descriptor (state.step config call).1 where
  targets := by
    obtain ⟨retreat, moves, -⟩ := step_moves member state call
    exact targets_moves sane bounded member ordered keeps closed opened moves
  safe command safe := by
    rcases safe_step member safe with old | ⟨sent, motor⟩ | ⟨-, ⟨commands, sends, is⟩ | ⟨activate, positions, is⟩⟩ |
      ⟨_, _, _, snapshot, copied, -, held, found, made⟩
    · exact bounded.safe command old
    · exact inside_sent sane bounded member ordered sent motor
    · exact absurd is (keeps.1 commands sends)
    · exact absurd is (keeps.2 activate positions)
    · exact inside_hold (sane.guarded descriptor member) (bounded.holds snapshot held copied found) made
  holds snapshot copied command found := by
    rcases holds_step copied with old | fresh
    · exact bounded.holds snapshot old command found
    · exact bounded.safe command (fresh ▸ found)

theorem inside_run [IsStrictOrderedRing K] {calls later : List (GripperCall K)} (sane : Sane config calls state)
    (bounded : Bounded descriptor state) (member : descriptor ∈ config.grippers)
    (ordered : CyclesInOrder (calls ++ later)) (keeps : ∀ call ∈ later, call.Keeps)
    (closed : descriptor.Inside descriptor.closedPosition) (opened : descriptor.Inside descriptor.openPosition) :
    ∀ entry ∈ History.run (GripperState.step config) state later, ∀ command ∈ entry.answer.sent,
      command.motor = descriptor.motor → descriptor.Inside command.targetPosition := by
  induction later generalizing calls state with
  | nil => exact fun _ none => absurd none List.not_mem_nil
  | cons call later ih =>
    intro entry found command sent motor
    rcases List.mem_cons.mp found with rfl | found
    · exact inside_sent sane bounded member ordered sent motor
    · refine ih (sane_step sane call) (bounded_step sane bounded member ordered
        (keeps call (List.mem_cons_self ..)) closed opened) ?_ (fun other member => keeps other
        (List.mem_cons_of_mem _ member)) entry found command sent motor
      rwa [List.append_assoc, List.singleton_append]

/-- A moving cycle approaches the requested position, or contact takes over. -/
theorem approaches_cycle [IsStrictOrderedRing K] {calls later : List (GripperCall K)} {input : GripperInput K}
    (sane : Sane config calls state) (ordered : CyclesInOrder (calls ++ .cycle input :: later))
    (member : descriptor ∈ config.grippers) (moving : (state.record descriptor.motor).moves) :
    ((state.cycle config input).1.record descriptor.motor).state = .contact ∨
      Approaches (state.record descriptor.motor).commandPosition
        ((state.cycle config input).1.record descriptor.motor).commandPosition
        (state.record descriptor.motor).requestedPosition
        ((state.record descriptor.motor).commandSpeed * commandScale input.degraded *
          (state.record descriptor.motor).interval descriptor input.now) := by
  have bound := step_nonneg sane ordered member
  have still : Approaches (state.record descriptor.motor).commandPosition
      (state.record descriptor.motor).commandPosition (state.record descriptor.motor).requestedPosition
      ((state.record descriptor.motor).commandSpeed * commandScale input.degraded *
        (state.record descriptor.motor).interval descriptor input.now) := by
    refine ⟨by rwa [sub_self, abs_zero], ?_⟩
    exact (le_total _ _).imp (fun le => ⟨le_rfl, le⟩) fun le => ⟨le, le_rfl⟩
  obtain ⟨commands, prepared, -⟩ := cycle_cases state config input
  rcases prepared.record descriptor member with ⟨same, -⟩ | ⟨controls, stepped, -⟩
  · rw [same]
    exact .inr still
  · rw [stepped]
    unfold GripperInput.stepOf
    rcases prepare_cases (state.record descriptor.motor) descriptor (input.feedback descriptor.motor)
      (state.safe descriptor.motor) input.now (commandScale input.degraded) with
      ⟨is, -⟩ | ⟨is, -⟩ | ⟨-, -, force, step, acted, rfl, rfl, is, -⟩
    · rw [is]
      exact .inr still
    · rw [is]
      exact .inr still
    · rw [is]
      have found := begun_state_of_moves (state.record descriptor.motor) descriptor
        (input.feedback descriptor.motor) input.now moving
      unfold GripperRecord.act
      simp only [found]
      rcases move_cases descriptor force (input.feedback descriptor.motor) input.now
        ((state.record descriptor.motor).commandSpeed * commandScale input.degraded *
          (state.record descriptor.motor).interval descriptor input.now) found with ⟨command, -⟩ | ⟨-, contact, -⟩
      · rw [command]
        unfold GripperRecord.stepped
        simp only [begun_commandPosition, begun_requestedPosition]
        exact .inr (approaches_copysign _ _ bound)
      · exact .inl contact

omit [Field K] [LinearOrder K] in
theorem not_guards {state : GripperControlState} (contact : state ≠ .contact) (holding : state ≠ .holding)
    (retreat : state ≠ .overloadRetreat) : ¬ state.Guards := by
  rintro (is | is | is)
  · exact contact is
  · exact holding is
  · exact retreat is

/-- Without protection no branch ends in a state that needs it. -/
theorem not_guards_act {record : GripperRecord K} {force : GripperForceProfile K} {feedback : GripperFeedback K}
    {now step : K} (unprotected : record.protectionEnabled = false) (free : ¬ record.state.Guards) :
    ¬ (record.act descriptor force feedback now step).1.state.Guards := by
  unfold GripperRecord.act
  split
  · rename_i moving
    rcases move_cases descriptor force feedback now step moving with
      ⟨-, moved | stopped, -⟩ | ⟨guarded, -⟩
    · rw [moved]
      exact not_guards nofun nofun nofun
    · rw [stopped]
      exact not_guards nofun nofun nofun
    · exact absurd (unprotected.symm.trans guarded) Bool.false_ne_true
  · rename_i holding
    exact absurd (.inr (.inl holding)) free
  · rename_i idle
    rw [show ({ record with commandPosition := record.requestedPosition } : GripperRecord K).state = .idle from idle]
    exact not_guards nofun nofun nofun
  · exact free

theorem not_guards_cycle {input : GripperInput K} (member : descriptor ∈ config.grippers)
    (complete : (state.cycle config input).2.failed = none) (controls : input.Controls state.record descriptor)
    (read : (input.feedback descriptor.motor).available = true)
    (unprotected : (state.record descriptor.motor).protectionEnabled = false) :
    ¬ ((state.cycle config input).1.record descriptor.motor).state.Guards := by
  obtain ⟨commands, prepared, -, ⟨error, -, -, -, failed⟩ | ⟨is, -, -⟩⟩ := cycle_cases state config input
  · exact nomatch failed.symm.trans complete
  · rw [prepared.reached descriptor member controls (is ▸ rfl)]
    unfold GripperInput.stepOf
    rcases prepare_cases (state.record descriptor.motor) descriptor (input.feedback descriptor.motor)
      (state.safe descriptor.motor) input.now (commandScale input.degraded) with
      ⟨-, -, missing, -⟩ | ⟨is, -⟩ | ⟨-, -, force, step, acted, rfl, -, is, -⟩
    · exact absurd (missing.symm.trans read) Bool.false_ne_true
    · rw [is]
      exact not_guards nofun nofun nofun
    · rw [is]
      exact not_guards_act (by simpa using unprotected) (not_guards_begun _ _ _ _ unprotected)

/-- In every run: a moving cycle approaches the requested position within its step and never passes it, unless
contact takes over; a gripper whose targets and remembered commands are inside its limits, like its open and its
closed position, is sent positions inside its limits until it is seeded or commanded directly; and a cycle that
reads a gripper without protection does not leave it in contact, in a hold or in a retreat. -/
theorem gripper_command_position [IsStrictOrderedRing K] (config : GripperConfig K) (first : GripperState K)
    (starts : config.Starts first) (calls : List (GripperCall K)) (ordered : CyclesInOrder calls) :
    (∀ earlier input later, calls = earlier ++ .cycle input :: later → ∀ descriptor ∈ config.grippers,
      let state := History.final (GripperState.step config) first earlier
      let before := state.record descriptor.motor
      let after := (state.cycle config input).1.record descriptor.motor
      before.moves → after.state = .contact ∨
        Approaches before.commandPosition after.commandPosition before.requestedPosition
          (before.commandSpeed * commandScale input.degraded * before.interval descriptor input.now)) ∧
    (∀ earlier later, calls = earlier ++ later → ∀ descriptor ∈ config.grippers,
      descriptor.Inside descriptor.closedPosition → descriptor.Inside descriptor.openPosition →
      Bounded descriptor (History.final (GripperState.step config) first earlier) →
      (∀ call ∈ later, call.Keeps) →
      ∀ entry ∈ History.run (GripperState.step config) (History.final (GripperState.step config) first earlier) later,
        ∀ command ∈ entry.answer.sent, command.motor = descriptor.motor →
          descriptor.Inside command.targetPosition) ∧
    ∀ earlier input later, calls = earlier ++ .cycle input :: later → ∀ descriptor ∈ config.grippers,
      let state := History.final (GripperState.step config) first earlier
      (state.cycle config input).2.failed = none → input.Controls state.record descriptor →
      (input.feedback descriptor.motor).available = true →
      (state.record descriptor.motor).mode = .directMode ∨ (state.record descriptor.motor).forceLevel = strengthMin →
      ¬ ((state.cycle config input).1.record descriptor.motor).state.Guards := by
  refine ⟨?_, ?_, ?_⟩
  · intro earlier input later is descriptor member state before after moving
    exact approaches_cycle (sane_final starts earlier) (is ▸ ordered) member moving
  · intro earlier later is descriptor member closed opened bounded keeps
    exact inside_run (sane_final starts earlier) bounded member (is ▸ ordered) keeps closed opened
  · intro earlier input later is descriptor member state complete controls read off
    refine not_guards_cycle member complete controls read ?_
    unfold GripperRecord.protectionEnabled
    rcases off with direct | weak
    · simp [direct]
    · simp [weak]

end Runs

/-! ## One gripper -/

/-- A gripper between 0 and 2. -/
def jaw : GripperDescriptor ℚ where
  motor := 1
  openPosition := 2
  closedPosition := 0
  closeSpeed := 100
  motionWindow := 1 / 5
  stallMovement := 1 / 100
  minPositionError := 1 / 20
  contactHold := 1 / 5
  overloadHold := 1 / 20
  holdOffset := 2 / 25
  retreatDistance := 3 / 20
  retreatRetry := 1 / 10
  maxStepInterval := 1
  closingDirection := -1
  lowerPosition := 0
  upperPosition := 2
  forceLevels := [0, 5]
  forceProfile _ := ⟨1, 2, 6, 1, 2, 1⟩
  closeSpeed_nonneg := by norm_num
  retreatDistance_nonneg := by norm_num
  maxStepInterval_nonneg := by norm_num
  lower_le_upper := by norm_num

def jaws : GripperConfig ℚ := ⟨[jaw], List.nodup_singleton _⟩

/-- A gripper that has not moved yet. -/
def GripperRecord.rest : GripperRecord ℚ where
  requestedPosition := 0
  commandSpeed := 100
  forceLevel := 5
  mode := .protectedMode
  hasTarget := false
  commandPosition := 0
  state := .idle
  retreatTarget := 0
  retreatActive := false
  protectiveTarget := 0
  protectiveTargetActive := false
  contactStartedAt := none
  overloadStartedAt := none
  lastRetreatAt := none
  motionSamples := []
  lastUpdate := none

def restingJaws : GripperState ℚ := ⟨fun _ => .rest, fun _ => none, []⟩

theorem restingJaws_starts {config : GripperConfig ℚ} : config.Starts restingJaws :=
  ⟨fun _ => by norm_num [restingJaws, GripperRecord.rest], fun _ => rfl, fun _ => rfl, fun _ => rfl, fun _ => rfl, rfl⟩

/-- Feedback of the gripper at a position. -/
def jawAt (position : ℚ) : Motor → GripperFeedback ℚ := fun _ => ⟨true, false, 1, position, 0⟩

def jawLost : Motor → GripperFeedback ℚ := fun _ => ⟨false, false, 0, 0, 0⟩

/-- A command that moves the gripper to its middle, and two cycles. -/
def movingIn : List (GripperCall ℚ) :=
  [.set [⟨1, 500, 1000, 5⟩] .protectedMode true, .cycle ⟨0, false, [], jawAt 0, true⟩,
    .cycle ⟨1, false, [], jawAt 0, true⟩]

theorem gripper_command_position_jaws :
    Bounded jaw restingJaws ∧ ∀ entry ∈ History.run (GripperState.step jaws) restingJaws movingIn,
      ∀ command ∈ entry.answer.sent, command.motor = jaw.motor → jaw.Inside command.targetPosition := by
  have bounded : Bounded jaw restingJaws :=
    ⟨⟨⟨le_rfl, by norm_num [restingJaws, GripperRecord.rest, jaw]⟩,
      ⟨le_rfl, by norm_num [restingJaws, GripperRecord.rest, jaw]⟩⟩, nofun, nofun⟩
  refine ⟨bounded, (gripper_command_position jaws restingJaws restingJaws_starts movingIn ?_).2.1 [] movingIn rfl jaw
    (List.mem_singleton_self _) ⟨le_rfl, by norm_num [jaw]⟩ ⟨by norm_num [jaw], le_rfl⟩ bounded ?_⟩
  · simp [CyclesInOrder, movingIn]
  · simp [movingIn, GripperCall.Keeps]

/-- A gripper is seeded outside its limits, asked to move inside, and one send fails. -/
def leavingSeed : List (GripperCall ℚ) :=
  [.seed true fun _ => some (-1), .set [⟨1, 500, 1000, 5⟩] .protectedMode true,
    .cycle ⟨0, false, [], jawAt (-1), true⟩, .cycle ⟨1, false, [], jawAt (-1), false⟩]

/-- A gripper closes onto an object and is then switched to minimum strength. -/
def grasping : List (GripperCall ℚ) :=
  let pressed : Motor → GripperFeedback ℚ := fun _ => ⟨true, false, 1, 1, 3 / 2⟩
  [.seed true fun _ => some 1, .set [⟨1, 0, 1000, 5⟩] .protectedMode true, .cycle ⟨0, false, [], pressed, true⟩,
    .cycle ⟨1, false, [], pressed, true⟩, .cycle ⟨2, false, [], pressed, true⟩,
    .set [⟨1, 0, 1000, strengthMin⟩] .protectedMode true, .cycle ⟨3, false, [], jawLost, true⟩]

/-- A gripper that opens beyond its limits. -/
def wideJaw : GripperDescriptor ℚ := { jaw with openPosition := 3 }

def wideJaws : GripperConfig ℚ := ⟨[wideJaw], List.nodup_singleton _⟩

/-- A command that opens the gripper, and two cycles. -/
def openingWide : List (GripperCall ℚ) :=
  [.set [⟨1, 1000, 1000, 5⟩] .protectedMode true, .cycle ⟨0, false, [], jawAt 0, true⟩,
    .cycle ⟨1, false, [], jawAt 0, true⟩]

/-- It is sent to its open position, which is outside the limits. -/
theorem sent_openingWide : ∃ entry ∈ History.run (GripperState.step wideJaws) restingJaws openingWide,
    ∃ command ∈ entry.answer.sent, command.motor = wideJaw.motor ∧ ¬ wideJaw.Inside command.targetPosition := by
  have sent : ((GripperState.step wideJaws (History.final (GripperState.step wideJaws) restingJaws (openingWide.take 2))
      (.cycle ⟨1, false, [], jawAt 0, true⟩)).2.sent.map fun command =>
        (command.motor, command.targetPosition)) = [(1, 3)] := by decide +kernel
  obtain ⟨command, only, is⟩ := List.map_eq_singleton_iff.mp sent
  obtain ⟨motor, target⟩ := Prod.mk.inj is
  refine ⟨_, .tail _ (.tail _ (.head _)), command, ?_, motor, ?_⟩
  · rw [History.entry_answer]
    exact only.symm ▸ List.mem_singleton_self _
  · rw [target]
    norm_num [GripperDescriptor.Inside, wideJaw, jaw]

/-- The protective hold sends the remembered command outside the limits, normal control sends an open position that is
outside of them, and a cycle without feedback leaves a gripper at minimum strength in contact. -/
theorem gripper_hold_outside :
    jaws.Starts restingJaws ∧ CyclesInOrder (leavingSeed ++ [.beginHold [], .finishHold 0 2 jawLost]) ∧
      jaw.Inside jaw.closedPosition ∧ jaw.Inside jaw.openPosition ∧
      ((History.final (GripperState.step jaws) restingJaws leavingSeed).record jaw.motor).Targets jaw ∧
      (∃ entry ∈ History.run (GripperState.step jaws)
          (History.final (GripperState.step jaws) restingJaws leavingSeed) [.beginHold [], .finishHold 0 2 jawLost],
        ∃ command ∈ entry.answer.sent, command.motor = jaw.motor ∧ ¬ jaw.Inside command.targetPosition) ∧
      (wideJaws.Starts restingJaws ∧ CyclesInOrder openingWide ∧ (restingJaws.record wideJaw.motor).Targets wideJaw ∧
        ∃ entry ∈ History.run (GripperState.step wideJaws) restingJaws openingWide,
          ∃ command ∈ entry.answer.sent, command.motor = wideJaw.motor ∧ ¬ wideJaw.Inside command.targetPosition) ∧
      CyclesInOrder grasping ∧
      ((History.final (GripperState.step jaws) restingJaws grasping).record jaw.motor).forceLevel = strengthMin ∧
      ((History.final (GripperState.step jaws) restingJaws grasping).record jaw.motor).state = .contact := by
  have requested : ((History.final (GripperState.step jaws) restingJaws leavingSeed).record
      jaw.motor).requestedPosition = 1 := by decide +kernel
  have commanded : ((History.final (GripperState.step jaws) restingJaws leavingSeed).record
      jaw.motor).commandPosition = 1 := by decide +kernel
  have sent : ((GripperState.step jaws (GripperState.step jaws (History.final (GripperState.step jaws) restingJaws
      leavingSeed) (.beginHold [])).1 (.finishHold 0 2 jawLost)).2.sent.map fun command =>
        (command.motor, command.targetPosition)) = [(1, -1)] := by decide +kernel
  obtain ⟨command, only, is⟩ := List.map_eq_singleton_iff.mp sent
  obtain ⟨motor, target⟩ := Prod.mk.inj is
  refine ⟨restingJaws_starts, ?_, ⟨le_rfl, by norm_num [jaw]⟩, ⟨by norm_num [jaw], le_rfl⟩, ⟨?_, ?_⟩,
    ⟨_, .tail _ (.head _), command, ?_, motor, ?_⟩, ⟨restingJaws_starts, ?_, ⟨?_, ?_⟩, sent_openingWide⟩, ?_,
    by decide +kernel, by decide +kernel⟩
  · simp [CyclesInOrder, leavingSeed]
  · rw [requested]
    norm_num [GripperDescriptor.Inside, jaw]
  · rw [commanded]
    norm_num [GripperDescriptor.Inside, jaw]
  · rw [History.entry_answer, only]
    exact List.mem_singleton_self _
  · rw [target]
    norm_num [GripperDescriptor.Inside, jaw]
  · simp [CyclesInOrder, openingWide]
  · norm_num [GripperDescriptor.Inside, restingJaws, GripperRecord.rest, wideJaw, jaw]
  · norm_num [GripperDescriptor.Inside, restingJaws, GripperRecord.rest, wideJaw, jaw]
  · simp [CyclesInOrder, grasping]
    norm_num

end MotorDrive.Control
