import MotorDrive.Trajectory.Fifo

/-!
# What a cycle reaches

A cycle that gets to the update of a running motion has moved its reference to an end (`AtEnd`), and has touched neither
its plan nor its settling window on the way (`Tracked`).  `ticks` lists what a cycle does in these terms.
-/

namespace MotorDrive.Trajectory

variable {K : Type} [Field K] [LinearOrder K]

/-! ## The reference -/

/-- The time of the reference, within the duration of the motion. -/
def TrajectoryControl.wallElapsed (trajectory : TrajectoryControl K) (now : K) : K :=
  max 0 (min (now - trajectory.startedAt) trajectory.duration)

/-- The reference stands at the end of the approach. -/
def TrajectoryControl.atApproachReference (trajectory : TrajectoryControl K) (elapsed : K) : Bool :=
  !trajectory.approachComplete && trajectory.approachSegmentCount ≠ 0 &&
    trajectory.approachDuration ≤ min elapsed trajectory.referenceDuration

/-- The reference stands at the end of the approach or of the motion. -/
def TrajectoryControl.completesAt (trajectory : TrajectoryControl K) (elapsed : K) : Bool :=
  trajectory.atApproachReference elapsed || trajectory.referenceDuration ≤
    (if trajectory.atApproachReference elapsed then trajectory.approachDuration
      else min elapsed trajectory.referenceDuration)

/-- The time that the status of a motion shows. -/
def TrajectoryControl.shownElapsed (trajectory : TrajectoryControl K) (elapsed : K) : K :=
  if trajectory.atApproachReference elapsed then min elapsed trajectory.estimatedApproach else elapsed

section Reference

variable {trajectory : TrajectoryControl K} {now elapsed elapsed' : K}

theorem advance_snd (trajectory : TrajectoryControl K) (now : K) :
    (trajectory.advance now).2 = trajectory.completesAt (trajectory.wallElapsed now) := rfl

omit [Field K] in
theorem atApproachReference_mono (later : elapsed ≤ elapsed')
    (reached : trajectory.atApproachReference elapsed = true) : trajectory.atApproachReference elapsed' = true := by
  simp only [TrajectoryControl.atApproachReference, Bool.and_eq_true, decide_eq_true_eq] at reached ⊢
  exact ⟨reached.1, reached.2.trans (min_le_min_right _ later)⟩

omit [Field K] in
theorem completesAt_iff : trajectory.completesAt elapsed = true ↔
    trajectory.atApproachReference elapsed = true ∨ trajectory.referenceDuration ≤ elapsed := by
  unfold TrajectoryControl.completesAt
  rw [Bool.or_eq_true, decide_eq_true_eq]
  constructor
  · rintro (approach | final)
    · exact .inl approach
    · by_cases approach : trajectory.atApproachReference elapsed = true
      · exact .inl approach
      · rw [if_neg approach] at final
        exact .inr (final.trans (min_le_left _ _))
  · rintro (approach | final)
    · exact .inl approach
    · by_cases approach : trajectory.atApproachReference elapsed = true
      · exact .inl approach
      · rw [if_neg approach]
        exact .inr (le_min final le_rfl)

omit [Field K] in
/-- A reference that has reached an end stays there. -/
theorem completesAt_mono (later : elapsed ≤ elapsed') (reached : trajectory.completesAt elapsed = true) :
    trajectory.completesAt elapsed' = true := by
  rw [completesAt_iff] at reached ⊢
  exact reached.imp (atApproachReference_mono later) fun final => final.trans later

theorem shownElapsed_le : trajectory.shownElapsed elapsed ≤ elapsed := by
  unfold TrajectoryControl.shownElapsed
  split_ifs
  · exact min_le_left _ _
  · exact le_rfl

theorem wallElapsed_le : trajectory.wallElapsed now ≤ max 0 trajectory.duration :=
  max_le_max le_rfl (min_le_right _ _)

end Reference

/-! ## The parts of a cycle -/

section Goes

variable {K : Type} [LinearOrder K]

/-- A motion goes on: it is planned alike, it has not started earlier, and its approach stays complete. -/
structure GoesOn (first second : TrajectoryControl K) : Prop extends SamePlan first second where
  startedAt : first.startedAt ≤ second.startedAt
  approachComplete : first.approachComplete = true → second.approachComplete = true

theorem GoesOn.refl (trajectory : TrajectoryControl K) : GoesOn trajectory trajectory :=
  ⟨SamePlan.refl trajectory, le_rfl, id⟩

theorem GoesOn.trans {first second third : TrajectoryControl K} (goes : GoesOn first second)
    (goes' : GoesOn second third) : GoesOn first third :=
  ⟨goes.toSamePlan.trans goes'.toSamePlan, goes.startedAt.trans goes'.startedAt,
    goes'.approachComplete ∘ goes.approachComplete⟩

/-- A motion goes on with its settling window as it was. -/
structure Tracked (first second : TrajectoryControl K) : Prop extends SameMotion first second where
  startedAt : first.startedAt ≤ second.startedAt
  settlingStartedAt : second.settlingStartedAt = first.settlingStartedAt
  settlingStableStartedAt : second.settlingStableStartedAt = first.settlingStableStartedAt
  settlingPositionMin : second.settlingPositionMin = first.settlingPositionMin
  settlingPositionMax : second.settlingPositionMax = first.settlingPositionMax
  stationaryHoldActive : second.stationaryHoldActive = first.stationaryHoldActive
  settlingFeedbackUpdates : second.settlingFeedbackUpdates = first.settlingFeedbackUpdates
  settlingFeedbackInitialized : second.settlingFeedbackInitialized = first.settlingFeedbackInitialized

variable {first second third : TrajectoryControl K}

theorem Tracked.refl (trajectory : TrajectoryControl K) : Tracked trajectory trajectory :=
  ⟨SameMotion.refl trajectory, le_rfl, rfl, rfl, rfl, rfl, rfl, rfl, rfl⟩

theorem Tracked.trans (tracked : Tracked first second) (tracked' : Tracked second third) : Tracked first third :=
  ⟨tracked.toSameMotion.trans tracked'.toSameMotion, tracked.startedAt.trans tracked'.startedAt,
    tracked'.settlingStartedAt.trans tracked.settlingStartedAt,
    tracked'.settlingStableStartedAt.trans tracked.settlingStableStartedAt,
    tracked'.settlingPositionMin.trans tracked.settlingPositionMin,
    tracked'.settlingPositionMax.trans tracked.settlingPositionMax,
    tracked'.stationaryHoldActive.trans tracked.stationaryHoldActive,
    tracked'.settlingFeedbackUpdates.trans tracked.settlingFeedbackUpdates,
    tracked'.settlingFeedbackInitialized.trans tracked.settlingFeedbackInitialized⟩

theorem Tracked.goesOn (tracked : Tracked first second) : GoesOn first second :=
  ⟨tracked.toSamePlan, tracked.startedAt, fun complete => tracked.approachComplete.trans complete⟩

end Goes

theorem tracked_advance (trajectory : TrajectoryControl K) (now : K) :
    Tracked trajectory (trajectory.advance now).1 :=
  ⟨sameMotion_advance trajectory now, le_rfl, rfl, rfl, rfl, rfl, rfl, rfl, rfl⟩

/-- A pause moves the start of the motion forward. -/
theorem tracked_pauseTracking [IsStrictOrderedRing K] (trajectory : TrajectoryControl K) (now : K) :
    Tracked trajectory (trajectory.pauseTracking now) := by
  refine ⟨sameMotion_pauseTracking trajectory now, ?_, ?_, ?_, ?_, ?_, ?_, ?_, ?_⟩
  · unfold TrajectoryControl.pauseTracking
    simp only
    split_ifs
    all_goals first
      | exact le_rfl
      | rename_i delayed
        exact le_add_of_nonneg_right (mul_nonneg delayed.1.le (sub_nonneg.mpr delayed.2.1.le))
  all_goals
    unfold TrajectoryControl.pauseTracking
    simp only
    split_ifs <;> rfl

/-- The reference of a motion stands at an end. -/
structure AtEnd (trajectory : TrajectoryControl K) (now : K) : Prop where
  completes : trajectory.completesAt (trajectory.wallElapsed now) = true
  elapsed : trajectory.elapsed = trajectory.shownElapsed (trajectory.wallElapsed now)

/-- The motion with the tracking error that a cycle has measured. -/
def Engine.measured (s : Engine K) (input : CycleInput K) : TrajectoryControl K :=
  ((s.prepareCycle input.now).2.recordTracking input.trackingError input.trackingValid).trajectoryControl

/-- What a cycle does, with what the update finds. -/
inductive Ticks (roles : Motor → Option String) (s : Engine K) (input : CycleInput K) :
    (Outcome × Option (Seen K)) × Engine K → Prop
  | idle (stopped : s.trajectoryControl.state ≠ .running) : Ticks roles s input ((.waiting, none), s)
  | held (completed : s.trajectoryControl.state = .completed) :
      Ticks roles s input (s.updateCompletion roles input)
  | failed (trajectory : TrajectoryControl K) (running : s.trajectoryControl.state = .running)
      (tracked : Tracked s.trajectoryControl trajectory) (error : String) :
      Ticks roles s input ((.waiting, none),
        ({ s with trajectoryControl := trajectory } : Engine K).terminate .fault error)
  | moving (trajectory : TrajectoryControl K) (running : s.trajectoryControl.state = .running)
      (tracked : Tracked s.trajectoryControl trajectory) :
      Ticks roles s input ((.waiting, none), { s with trajectoryControl := trajectory })
  | ending (trajectory : TrajectoryControl K) (running : s.trajectoryControl.state = .running)
      (tracked : Tracked s.trajectoryControl trajectory) (atEnd : AtEnd trajectory input.now)
      (measured : trajectory = s.measured input) :
      Ticks roles s input (({ s with trajectoryControl := trajectory } : Engine K).updateCompletion roles input)

/-- What `prepare_trajectory_cycle` leaves of a motion. -/
inductive Prepares (s : Engine K) (now : K) : Prepared × Engine K → Prop
  | inactive (stopped : s.trajectoryControl.state ≠ .running) : Prepares s now (.inactive, s)
  | completedHold (completed : s.trajectoryControl.state = .completed) : Prepares s now (.completedHold, s)
  | failed (trajectory : TrajectoryControl K) (running : s.trajectoryControl.state = .running)
      (tracked : Tracked s.trajectoryControl trajectory) (error : String) :
      Prepares s now (.failed error, { s with trajectoryControl := trajectory })
  | active (trajectory : TrajectoryControl K) (running : s.trajectoryControl.state = .running)
      (tracked : Tracked s.trajectoryControl trajectory) :
      Prepares s now (.active (trajectory.advance now).2, { s with trajectoryControl := (trajectory.advance now).1 })

theorem prepares [IsStrictOrderedRing K] (s : Engine K) (now : K) : Prepares s now (s.prepareCycle now) := by
  unfold Engine.prepareCycle
  simp only
  split
  · rename_i completed
    exact .completedHold completed
  · rename_i running
    split_ifs
    · exact .failed s.trajectoryControl running (Tracked.refl _) _
    · refine .failed _ running ?_ _
      exact ⟨⟨by constructor <;> rfl, rfl, rfl⟩, le_rfl, rfl, rfl, rfl, rfl, rfl, rfl, rfl⟩
    · exact .active _ running (tracked_pauseTracking _ now)
    · refine .active _ running ?_
      exact ⟨⟨by constructor <;> rfl, rfl, rfl⟩, le_rfl, rfl, rfl, rfl, rfl, rfl, rfl, rfl⟩
  · rename_i other
    exact .inactive other

/-- The tracking error changes nothing that the end of the reference depends on. -/
theorem recordTracking_atEnd (s : Engine K) (positionError : K) (valid : Bool) :
    ∃ trajectory, s.recordTracking positionError valid = { s with trajectoryControl := trajectory } ∧
      Tracked s.trajectoryControl trajectory ∧ trajectory.startedAt = s.trajectoryControl.startedAt ∧
      ∀ now, AtEnd s.trajectoryControl now → AtEnd trajectory now := by
  unfold Engine.recordTracking
  split_ifs
  · exact ⟨_, rfl, ⟨⟨by constructor <;> rfl, rfl, rfl⟩, le_rfl, rfl, rfl, rfl, rfl, rfl, rfl, rfl⟩, rfl,
      fun now atEnd => ⟨atEnd.completes, atEnd.elapsed⟩⟩
  · exact ⟨_, rfl, Tracked.refl _, rfl, fun now atEnd => atEnd⟩

theorem ticks [IsStrictOrderedRing K] (roles : Motor → Option String) (s : Engine K) (input : CycleInput K) :
    Ticks roles s input (s.cycle roles input) := by
  have prepared := prepares s input.now
  unfold Engine.cycle
  generalize found : s.prepareCycle input.now = result at prepared
  cases prepared with
  | inactive stopped => exact .idle stopped
  | completedHold completed =>
    cases sent : input.sent with
    | true => exact .held completed
    | false => exact .idle (completed.symm ▸ nofun)
  | failed trajectory running tracked error => exact .failed trajectory running tracked error
  | active trajectory running tracked =>
    have advanced := tracked.trans (tracked_advance trajectory input.now)
    obtain ⟨recorded, eq, recording, -, atEnd⟩ := recordTracking_atEnd
      ({ s with trajectoryControl := (trajectory.advance input.now).1 } : Engine K) input.trackingError
      input.trackingValid
    simp only [eq]
    cases sent : input.sent with
    | false => exact .moving _ running advanced
    | true =>
      cases completing : (trajectory.advance input.now).2 with
      | false => exact .moving _ running (advanced.trans recording)
      | true =>
        refine .ending recorded running (advanced.trans recording) (atEnd _ ⟨completing, rfl⟩) ?_
        rw [Engine.measured, found, eq]

/-! ## The parts of an update -/

section Update

variable (trajectory : TrajectoryControl K) (seen : Seen K) (now : K)

omit [Field K] in
theorem goesOn_terminate (ending : Ending) (error : String) : GoesOn trajectory (trajectory.terminate ending error) := by
  refine ⟨samePlan_terminate trajectory ending error, ?_, ?_⟩ <;>
    (unfold TrajectoryControl.terminate; split_ifs)
  · exact le_rfl
  · exact le_rfl
  · exact id
  · exact id

omit [Field K] [LinearOrder K] in
theorem startedAt_beginSettling : (trajectory.beginSettling now).startedAt = trajectory.startedAt := by
  unfold TrajectoryControl.beginSettling
  split_ifs <;> rfl

omit [Field K] in
theorem goesOn_beginSettling : GoesOn trajectory (trajectory.beginSettling now) := by
  have same := sameMotion_beginSettling trajectory now
  exact ⟨same.toSamePlan, (startedAt_beginSettling trajectory now).ge, fun complete =>
    same.approachComplete.trans complete⟩

omit [Field K] in
theorem startedAt_updateWindow : (trajectory.updateWindow seen now).startedAt = trajectory.startedAt := by
  unfold TrajectoryControl.updateWindow TrajectoryControl.openWindow
  split_ifs <;> rfl

theorem startedAt_settled (s : Engine K) : (s.settled seen now).startedAt = s.trajectoryControl.startedAt := by
  have remembered : ((s.placed seen).rememberUpdates seen).startedAt = s.trajectoryControl.startedAt := by
    unfold TrajectoryControl.rememberUpdates
    split_ifs <;> rfl
  have window : (s.window seen now).startedAt = s.trajectoryControl.startedAt :=
    (startedAt_updateWindow _ seen now).trans remembered
  unfold Engine.settled
  split_ifs
  · unfold TrajectoryControl.restartWindow
    split_ifs <;> exact window
  · rfl

theorem goesOn_settled (s : Engine K) : GoesOn s.trajectoryControl (s.settled seen now) := by
  have same := sameMotion_settled s seen now
  exact ⟨same.toSamePlan, (startedAt_settled seen now s).ge, fun complete => same.approachComplete.trans complete⟩

omit [Field K] in
theorem goesOn_complete : GoesOn trajectory (trajectory.complete seen) := ⟨by constructor <;> rfl, le_rfl, id⟩

/-- The end of an approach moves the start of the motion forward. -/
theorem goesOn_completeApproach [IsStrictOrderedRing K] : GoesOn trajectory (trajectory.completeApproach now) := by
  refine ⟨samePlan_completeApproach trajectory now, ?_, fun _ => rfl⟩
  change trajectory.startedAt ≤ if trajectory.estimatedApproach < now - trajectory.startedAt then
    now - trajectory.estimatedApproach else trajectory.startedAt
  split_ifs with late
  · linarith
  · exact le_rfl

/-- The watch over a hold touches neither the start of the motion nor its approach. -/
theorem watchHold_goesOn : GoesOn trajectory (trajectory.watchHold seen now).2 ∧
    (trajectory.watchHold seen now).2.approachComplete = trajectory.approachComplete := by
  have plan := (watchHold_cases trajectory now seen).1
  have same : (trajectory.watchHold seen now).2.startedAt = trajectory.startedAt ∧
      (trajectory.watchHold seen now).2.approachComplete = trajectory.approachComplete := by
    unfold TrajectoryControl.watchHold
    simp only
    split_ifs
    · exact ⟨rfl, rfl⟩
    · exact ⟨rfl, rfl⟩
    · split
      · exact ⟨rfl, rfl⟩
      · split_ifs <;> exact ⟨rfl, rfl⟩
  exact ⟨⟨plan, same.1.ge, fun complete => same.2.trans complete⟩, same.2⟩

end Update

end MotorDrive.Trajectory
