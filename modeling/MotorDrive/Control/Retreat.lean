import MotorDrive.Control.GripperPosition

/-!
# The overload retreat

The control cycle computes the next retreat target from the previous one, the safe-hold path from the measured
position, and a cycle without protection forgets that a retreat is active.

Main result: `retreat_only_opens`, in every run whose holds retreat from positions that followed the previous
target and whose cycles keep protection on during a retreat, the targets of a retreat never close.
-/

namespace MotorDrive.Control

open Trajectory (Motor)

variable {K : Type} [Field K] [LinearOrder K]

/-! ## Retreats -/

/-- A call that gives a gripper a new target or mode. -/
def NewTarget (config : GripperConfig K) (descriptor : GripperDescriptor K) (entry : GripperEntry K) : Prop :=
  (∃ commands mode allowed command, entry.call = .set commands mode allowed ∧
    (entry.before.setGripperCommands config commands mode allowed).isOk = true ∧
    (commands.find? fun command => command.motor = descriptor.motor) = some command ∧
    (entry.before.record descriptor.motor).restarts (descriptor.openingToPosition command.opening) mode = true) ∨
  ∃ commands command, entry.call = .submit commands true ∧
    (commands.find? fun command => command.motor = descriptor.motor) = some command

/-- The retreat targets of a gripper do not move in the closing direction until it has a new target or mode. -/
def OnlyOpens (config : GripperConfig K) (descriptor : GripperDescriptor K) (history : List (GripperEntry K)) : Prop :=
  ∀ older first between second newer, history = older ++ first :: (between ++ second :: newer) →
    (∀ entry ∈ between, ¬ NewTarget config descriptor entry) →
    ∀ earlier later, (descriptor.motor, earlier) ∈ first.answer.retreats →
      (descriptor.motor, later) ∈ second.answer.retreats →
      descriptor.closingDirection * later ≤ descriptor.closingDirection * earlier

/-- No position inside the limits is more closed. -/
def GripperDescriptor.ClosedEnd (descriptor : GripperDescriptor K) (position : K) : Prop :=
  ∀ other, descriptor.Inside other → descriptor.closingDirection * other ≤ descriptor.closingDirection * position

/-- A hold that retreats during a retreat finds that the position has followed it: the retreat distance in front of
the position does not lie on the closing side of the previous target, unless that is the closed end.  A cycle that
reads the gripper during a retreat finds protection on. -/
structure KeepsOpen (descriptor : GripperDescriptor K) (entry : GripperEntry K) : Prop where
  hold : ∀ index now feedback, entry.call = .finishHold index now feedback →
    (entry.before.record descriptor.motor).retreatActive = true →
    (entry.before.record descriptor.motor).holdRetreats descriptor
      (descriptor.forceProfile (entry.before.record descriptor.motor).forceLevel) (feedback descriptor.motor) now = true →
    descriptor.closingDirection * ((feedback descriptor.motor).position -
        descriptor.closingDirection * descriptor.retreatDistance) ≤
      descriptor.closingDirection * (entry.before.record descriptor.motor).retreatTarget ∨
    descriptor.ClosedEnd (entry.before.record descriptor.motor).retreatTarget
  cycle : ∀ input, entry.call = .cycle input → input.Controls entry.before.record descriptor →
    (input.feedback descriptor.motor).available = true → (input.feedback descriptor.motor).statusCode = 1 →
    (entry.before.record descriptor.motor).retreatActive = true →
    (entry.before.record descriptor.motor).protectionEnabled = true

/-! ## One retreat -/

section Step

variable {descriptor : GripperDescriptor K} {record : GripperRecord K}

theorem clamp_le [IsStrictOrderedRing K] {position target : K} (inside : descriptor.Inside target)
    (opening : descriptor.closingDirection * position ≤ descriptor.closingDirection * target) :
    descriptor.closingDirection * clamp position descriptor.lowerPosition descriptor.upperPosition ≤
      descriptor.closingDirection * target := by
  rcases lt_trichotomy descriptor.closingDirection 0 with negative | zero | positive
  · have le : target ≤ position := (mul_le_mul_left_of_neg negative).mp opening
    exact (mul_le_mul_left_of_neg negative).mpr ((le_min le inside.2).trans (le_max_right _ _))
  · rw [zero, zero_mul, zero_mul]
  · have le : position ≤ target := (mul_le_mul_iff_right₀ positive).mp opening
    exact (mul_le_mul_iff_right₀ positive).mpr (max_le inside.1 ((min_le_left _ _).trans le))

/-- A retreat from a position whose retreat distance is open. -/
theorem retreatFrom_le [IsStrictOrderedRing K] {base target : K} (inside : descriptor.Inside target)
    (opening : descriptor.closingDirection * (base - descriptor.closingDirection * descriptor.retreatDistance) ≤
      descriptor.closingDirection * target) :
    descriptor.closingDirection * descriptor.retreatFrom base ≤ descriptor.closingDirection * target :=
  clamp_le inside opening

/-- A retreat from its previous target opens. -/
theorem retreatFrom_self_le [IsStrictOrderedRing K] {target : K} (inside : descriptor.Inside target) :
    descriptor.closingDirection * descriptor.retreatFrom target ≤ descriptor.closingDirection * target := by
  refine retreatFrom_le inside ?_
  have square : 0 ≤ descriptor.closingDirection * descriptor.closingDirection * descriptor.retreatDistance :=
    mul_nonneg (mul_self_nonneg _) descriptor.retreatDistance_nonneg
  rw [mul_sub, ← mul_assoc]
  exact sub_le_self _ square

/-- The branch of a state leaves the retreat alone, or computes the next target. -/
theorem act_retreat (record : GripperRecord K) (descriptor : GripperDescriptor K) (force : GripperForceProfile K)
    (feedback : GripperFeedback K) (now step : K) :
    ((record.act descriptor force feedback now step).2 = none ∧
        (record.act descriptor force feedback now step).1.retreatActive = record.retreatActive ∧
        (record.act descriptor force feedback now step).1.retreatTarget = record.retreatTarget) ∨
      ∃ target, (record.act descriptor force feedback now step).2 = some target ∧
        target = descriptor.retreatFrom
          (if record.retreatActive then record.retreatTarget else feedback.position) ∧
        (record.act descriptor force feedback now step).1.retreatActive = true ∧
        (record.act descriptor force feedback now step).1.retreatTarget = target := by
  unfold GripperRecord.act
  split
  · obtain ⟨active, target, -⟩ := move_kept record descriptor force feedback now step
    exact .inl ⟨rfl, active, target⟩
  · by_cases protection : record.protectionEnabled = true
    · rw [if_pos protection]
      rcases updateOverload_cases record descriptor force feedback now with ⟨none, started, is⟩ | ⟨started, target, some, made, is⟩
      · exact .inl ⟨none, by rw [is], by rw [is]⟩
      · refine .inr ⟨target, some, made, ?_, ?_⟩ <;> rw [is] <;> rfl
    · rw [if_neg protection]
      exact .inl ⟨rfl, rfl, rfl⟩
  · exact .inl ⟨rfl, rfl, rfl⟩
  · exact .inl ⟨rfl, rfl, rfl⟩

/-- With protection the start of a cycle leaves the retreat alone. -/
theorem begun_retreat (record : GripperRecord K) (descriptor : GripperDescriptor K) (feedback : GripperFeedback K)
    (now : K) (protection : record.protectionEnabled = true) :
    (record.begun descriptor feedback now).retreatActive = record.retreatActive ∧
      (record.begun descriptor feedback now).retreatTarget = record.retreatTarget := by
  have on : ({ record with lastUpdate := some now } : GripperRecord K).protectionEnabled = true := protection
  unfold GripperRecord.begun GripperRecord.settle GripperRecord.begin
  rw [if_pos on]
  split_ifs <;> exact ⟨rfl, rfl⟩

end Step

/-! ## Retreats along a run -/

section Run

variable [IsStrictOrderedRing K] {config : GripperConfig K} {descriptor : GripperDescriptor K}
  {state : GripperState K} {call : GripperCall K}

omit [IsStrictOrderedRing K] in
/-- After a retreat target was computed it is the target of an active retreat. -/
theorem retreat_moves {after : GripperRecord K} {target : K}
    (moves : Moves config descriptor state call after (some target)) :
    after.retreatActive = true ∧ after.retreatTarget = target := by
  generalize computed : some target = retreat at moves
  cases moves with
  | kept => exact nomatch computed
  | set => exact nomatch computed
  | submit => exact nomatch computed
  | seed => exact nomatch computed
  | cycle input controls =>
    unfold GripperInput.stepOf at computed ⊢
    rcases prepare_cases (state.record descriptor.motor) descriptor (input.feedback descriptor.motor)
      (state.safe descriptor.motor) input.now (commandScale input.degraded) with
      ⟨-, none, -⟩ | ⟨-, none, -⟩ | ⟨-, -, force, step, acted, rfl, -, is, some, -⟩
    · exact nomatch computed.trans none
    · exact nomatch computed.trans none
    · rw [is]
      rcases act_retreat ((state.record descriptor.motor).begun descriptor (input.feedback descriptor.motor)
        input.now) descriptor force (input.feedback descriptor.motor) input.now step with
        ⟨none, -⟩ | ⟨made, found, -, active, same⟩
      · exact nomatch (computed.trans some).trans none
      · cases (computed.trans some).trans found
        exact ⟨active, same⟩
  | hold index now feedback snapshot copied command found =>
    rcases hold_cases (state.record descriptor.motor) descriptor (feedback descriptor.motor) command now with
      ⟨-, -, none⟩ | ⟨-, -, none⟩ | ⟨held, rfl, is, some, -⟩
    · exact nomatch computed.trans none
    · exact nomatch computed.trans none
    · rw [is]
      rcases holdOverload_cases (state.record descriptor.motor) descriptor
        (descriptor.forceProfile (state.record descriptor.motor).forceLevel) (feedback descriptor.motor) now with
        ⟨none, -⟩ | ⟨started, made, found, -, -, record⟩
      · exact nomatch (computed.trans some).trans none
      · cases (computed.trans some).trans found
        rw [record]
        exact ⟨rfl, rfl⟩

/-- During a retreat a call keeps it active and does not close it, unless it gives a new target or mode. -/
theorem opens_moves {after : GripperRecord K} {retreat : Option K}
    (guarded : (state.record descriptor.motor).Guarded descriptor)
    (active : (state.record descriptor.motor).retreatActive = true)
    (old : ¬ NewTarget config descriptor (History.entry (GripperState.step config) state call))
    (keeps : KeepsOpen descriptor (History.entry (GripperState.step config) state call))
    (moves : Moves config descriptor state call after retreat) :
    after.retreatActive = true ∧ descriptor.closingDirection * after.retreatTarget ≤
      descriptor.closingDirection * (state.record descriptor.motor).retreatTarget := by
  have inside := guarded.retreat active
  cases moves with
  | kept => exact ⟨active, le_rfl⟩
  | set commands mode allowed command found accepts accepted =>
    have continues : ¬ (state.record descriptor.motor).restarts
        (descriptor.openingToPosition command.opening) mode = true := fun restarts =>
      old (.inl ⟨commands, mode, allowed, command, rfl, accepted, found, restarts⟩)
    obtain ⟨sameActive, sameTarget, -⟩ :=
      accept_of_not_restarts (state.record descriptor.motor) descriptor command mode continues
    exact ⟨sameActive.trans active, sameTarget ▸ le_rfl⟩
  | submit commands command found => exact absurd (.inr ⟨commands, command, rfl, found⟩) old
  | seed activate positions position => exact ⟨active, le_rfl⟩
  | cycle input controls =>
    unfold GripperInput.stepOf
    rcases prepare_cases (state.record descriptor.motor) descriptor (input.feedback descriptor.motor)
      (state.safe descriptor.motor) input.now (commandScale input.degraded) with
      ⟨is, -⟩ | ⟨is, -⟩ | ⟨available, status, force, step, acted, rfl, -, is, -⟩
    · rw [is]
      exact ⟨active, le_rfl⟩
    · rw [is]
      exact ⟨active, le_rfl⟩
    · have protection := keeps.cycle input rfl controls available status active
      obtain ⟨begunActive, begunTarget⟩ := begun_retreat (state.record descriptor.motor) descriptor
        (input.feedback descriptor.motor) input.now protection
      rw [is]
      rcases act_retreat ((state.record descriptor.motor).begun descriptor (input.feedback descriptor.motor)
        input.now) descriptor force (input.feedback descriptor.motor) input.now step with
        ⟨-, sameActive, sameTarget⟩ | ⟨target, -, made, nowActive, nowTarget⟩
      · exact ⟨sameActive.trans (begunActive.trans active), (sameTarget.trans begunTarget) ▸ le_rfl⟩
      · rw [begunActive, active, if_pos rfl, begunTarget] at made
        rw [nowTarget, made]
        exact ⟨nowActive, retreatFrom_self_le inside⟩
  | hold index now feedback snapshot copied command found =>
    rcases hold_cases (state.record descriptor.motor) descriptor (feedback descriptor.motor) command now with
      ⟨is, -⟩ | ⟨is, -⟩ | ⟨held, rfl, is, -⟩
    · rw [is]
      exact ⟨active, le_rfl⟩
    · rw [is]
      exact ⟨active, le_rfl⟩
    · rw [is]
      rcases holdOverload_cases (state.record descriptor.motor) descriptor
        (descriptor.forceProfile (state.record descriptor.motor).forceLevel) (feedback descriptor.motor) now with
        ⟨-, started, control, record⟩ | ⟨started, target, -, retreats, made, record⟩
      · rw [record]
        exact ⟨active, le_rfl⟩
      · rw [record, made]
        refine ⟨rfl, ?_⟩
        rcases keeps.hold index now feedback rfl active retreats with followed | closedEnd
        · exact retreatFrom_le inside followed
        · exact closedEnd _ (inside_retreatFrom ..)

/-- What the retreats of a history say about the record that it leads to. -/
def Opened (config : GripperConfig K) (descriptor : GripperDescriptor K) (history : List (GripperEntry K))
    (state : GripperState K) : Prop :=
  ∀ older first between, history = older ++ first :: between →
    (∀ entry ∈ between, ¬ NewTarget config descriptor entry) →
    ∀ earlier, (descriptor.motor, earlier) ∈ first.answer.retreats →
      (state.record descriptor.motor).retreatActive = true ∧
        descriptor.closingDirection * (state.record descriptor.motor).retreatTarget ≤
          descriptor.closingDirection * earlier

/-- One more call after retreats. -/
theorem opened_concat {history : List (GripperEntry K)} (member : descriptor ∈ config.grippers)
    (guarded : (state.record descriptor.motor).Guarded descriptor) (opened : Opened config descriptor history state)
    (keeps : KeepsOpen descriptor (History.entry (GripperState.step config) state call)) :
    Opened config descriptor (history ++ [History.entry (GripperState.step config) state call])
      (state.step config call).1 := by
  obtain ⟨retreat, moves, computed⟩ := step_moves member state call
  intro older first between split same earlier found
  rcases List.eq_nil_or_concat between with rfl | ⟨rest, last, rfl⟩
  · obtain ⟨-, is⟩ := List.append_inj' split rfl
    cases is
    cases computed earlier found
    obtain ⟨active, target⟩ := retreat_moves moves
    exact ⟨active, target ▸ le_rfl⟩
  · rw [List.concat_eq_append, ← List.cons_append, ← List.append_assoc] at split
    obtain ⟨before, is⟩ := List.append_inj' split rfl
    cases is
    obtain ⟨active, le⟩ := opened older first rest before (fun entry inRest => same entry (by simp [inRest]))
      earlier found
    obtain ⟨nowActive, nowLe⟩ := opens_moves guarded active (same _ (by simp)) keeps moves
    exact ⟨nowActive, nowLe.trans le⟩

theorem opened_run (starts : config.Starts state) (member : descriptor ∈ config.grippers)
    (calls : List (GripperCall K))
    (keeps : ∀ entry ∈ History.run (GripperState.step config) state calls, KeepsOpen descriptor entry) :
    Opened config descriptor (History.run (GripperState.step config) state calls)
      (History.final (GripperState.step config) state calls) := by
  induction calls using List.reverseRecOn with
  | nil => exact fun older first between split => by simp [History.run] at split
  | append_singleton calls call ih =>
    rw [History.run_append] at keeps ⊢
    rw [History.final_append]
    exact opened_concat member ((sane_final starts calls).guarded descriptor member)
      (ih fun entry found => keeps entry (List.mem_append_left _ found))
      (keeps _ (List.mem_append_right _ (List.mem_singleton_self _)))

omit [IsStrictOrderedRing K] in
/-- A call that computes a retreat target gives no new target or mode. -/
theorem not_newTarget_of_retreat {target : K}
    (computed : (descriptor.motor, target) ∈ (state.step config call).2.retreats) :
    ¬ NewTarget config descriptor (History.entry (GripperState.step config) state call) := by
  rintro (⟨commands, mode, allowed, command, is, -⟩ | ⟨commands, command, is, -⟩)
  · rw [show call = .set commands mode allowed from is] at computed
    simp only [GripperState.step] at computed
    split at computed <;> exact absurd computed List.not_mem_nil
  · rw [show call = .submit commands true from is] at computed
    exact absurd computed List.not_mem_nil

/-- In every run whose holds retreat from positions that followed the previous target, and whose cycles keep
protection on during a retreat, the targets of a retreat only open. -/
theorem retreat_only_opens (config : GripperConfig K) (first : GripperState K) (starts : config.Starts first)
    (calls : List (GripperCall K)) (descriptor : GripperDescriptor K) (member : descriptor ∈ config.grippers)
    (keeps : ∀ entry ∈ History.run (GripperState.step config) first calls, KeepsOpen descriptor entry) :
    OnlyOpens config descriptor (History.run (GripperState.step config) first calls) := by
  intro older retreat between second newer split same earlier later found next
  rw [← List.cons_append, ← List.append_assoc] at split
  obtain ⟨before, call, after, rfl, prefixed, rfl⟩ := History.run_split (GripperState.step config) split
  rw [split] at keeps
  have opened := opened_run starts member before fun entry inRun =>
    keeps entry (List.mem_append_left _ (prefixed ▸ inRun))
  obtain ⟨active, le⟩ := opened older retreat between prefixed.symm same earlier found
  obtain ⟨target, moves, computed⟩ := step_moves member (History.final (GripperState.step config) first before) call
  cases computed later next
  obtain ⟨-, opens⟩ := opens_moves ((sane_final starts before).guarded descriptor member) active
    (not_newTarget_of_retreat next) (keeps _ (List.mem_append_right _ (List.mem_cons_self ..))) moves
  rw [(retreat_moves moves).2] at opens
  exact opens.trans le

end Run

/-! ## A gripper that retreats -/

/-- The gripper against an object, at a torque. -/
def pressedAt (position torque : ℚ) : Motor → GripperFeedback ℚ := fun _ => ⟨true, false, 1, position, torque⟩

/-- The gripper closes onto an object and holds it. -/
def holdingOn : List (GripperCall ℚ) :=
  [.seed true fun _ => some 1, .set [⟨1, 0, 1000, 5⟩] .protectedMode true,
    .cycle ⟨0, false, [], pressedAt 1 (3 / 2), true⟩, .cycle ⟨1, false, [], pressedAt 1 (3 / 2), true⟩,
    .cycle ⟨2, false, [], pressedAt 1 (3 / 2), true⟩, .cycle ⟨3, false, [], pressedAt 1 3, true⟩]

/-- An overload that lasts. -/
def overloaded (now : ℚ) : GripperCall ℚ := .cycle ⟨now, false, [], pressedAt 1 3, true⟩

theorem retreat_only_opens_twice :
    jaws.Starts restingJaws ∧ OnlyOpens jaws jaw (History.run (GripperState.step jaws) restingJaws
      (holdingOn ++ [overloaded 4, overloaded 5])) := by
  refine ⟨restingJaws_starts, retreat_only_opens jaws restingJaws restingJaws_starts _ jaw
    (List.mem_singleton_self _) fun entry member => ?_⟩
  have protection : ∀ entry ∈ History.run (GripperState.step jaws) restingJaws
      (holdingOn ++ [overloaded 4, overloaded 5]), (entry.before.record jaw.motor).protectionEnabled = true := by
    decide +kernel
  have called : entry.call ∈ holdingOn ++ [overloaded 4, overloaded 5] := by
    rw [← History.map_call_run (GripperState.step jaws) restingJaws (holdingOn ++ [overloaded 4, overloaded 5])]
    exact List.mem_map_of_mem member
  refine ⟨fun index now feedback is => ?_, fun input _ _ _ _ _ => protection entry member⟩
  rw [is] at called
  simp [holdingOn, overloaded] at called

/-- The safe-hold path retreats from the measured position and closes the gripper again. -/
theorem retreat_closes_again :
    jaws.Starts restingJaws ∧ ¬ OnlyOpens jaws jaw (History.run (GripperState.step jaws) restingJaws
      (holdingOn ++ [overloaded 4, .beginHold [], .finishHold 0 5 (pressedAt (9 / 10) 3)])) := by
  refine ⟨restingJaws_starts, fun opens => ?_⟩
  have first : (GripperState.step jaws (History.final (GripperState.step jaws) restingJaws holdingOn)
      (overloaded 4)).2.retreats = [(1, 23 / 20)] := by decide +kernel
  have second : (GripperState.step jaws (History.final (GripperState.step jaws) restingJaws
      (holdingOn ++ [overloaded 4, .beginHold []])) (.finishHold 0 5 (pressedAt (9 / 10) 3))).2.retreats =
        [(1, 21 / 20)] := by decide +kernel
  have closed := opens (History.run (GripperState.step jaws) restingJaws holdingOn)
    (History.entry (GripperState.step jaws) (History.final (GripperState.step jaws) restingJaws holdingOn)
      (overloaded 4))
    [History.entry (GripperState.step jaws) (History.final (GripperState.step jaws) restingJaws
      (holdingOn ++ [overloaded 4])) (.beginHold [])]
    (History.entry (GripperState.step jaws) (History.final (GripperState.step jaws) restingJaws
      (holdingOn ++ [overloaded 4, .beginHold []])) (.finishHold 0 5 (pressedAt (9 / 10) 3)))
    [] rfl (by simp [NewTarget]) (23 / 20) (21 / 20) (first ▸ List.mem_singleton_self _)
    (second ▸ List.mem_singleton_self _)
  norm_num [jaw] at closed

end MotorDrive.Control
