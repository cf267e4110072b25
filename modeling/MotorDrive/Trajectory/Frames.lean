import MotorDrive.Trajectory.Cycle

/-!
# What a cycle leaves alone

The parts of a control cycle change the settling window, the clock and the state of the active trajectory,
never its plan (`SamePlan`).  A whole cycle keeps the motion, ends it or completes it (`Cycled`).
-/

namespace MotorDrive.Trajectory

variable {K : Type}

/-- The trajectories are planned alike. -/
structure SamePlan (trajectory trajectory' : TrajectoryControl K) : Prop where
  id : trajectory'.id = trajectory.id
  joints : trajectory'.joints = trajectory.joints
  segments : trajectory'.segments = trajectory.segments
  duration : trajectory'.duration = trajectory.duration
  referenceDuration : trajectory'.referenceDuration = trajectory.referenceDuration
  approachDuration : trajectory'.approachDuration = trajectory.approachDuration
  approachDeadline : trajectory'.approachDeadline = trajectory.approachDeadline
  approachSegmentCount : trajectory'.approachSegmentCount = trajectory.approachSegmentCount
  operation : trajectory'.operation = trajectory.operation
  execution : trajectory'.execution = trajectory.execution
  finalConvergenceCheck : trajectory'.finalConvergenceCheck = trajectory.finalConvergenceCheck
  approachConvergenceCheck : trajectory'.approachConvergenceCheck = trajectory.approachConvergenceCheck

@[refl] theorem SamePlan.refl (trajectory : TrajectoryControl K) : SamePlan trajectory trajectory :=
  ⟨rfl, rfl, rfl, rfl, rfl, rfl, rfl, rfl, rfl, rfl, rfl, rfl⟩

theorem SamePlan.trans {first second third : TrajectoryControl K} (h : SamePlan first second)
    (h' : SamePlan second third) : SamePlan first third :=
  ⟨h'.id.trans h.id, h'.joints.trans h.joints, h'.segments.trans h.segments, h'.duration.trans h.duration,
    h'.referenceDuration.trans h.referenceDuration, h'.approachDuration.trans h.approachDuration,
    h'.approachDeadline.trans h.approachDeadline, h'.approachSegmentCount.trans h.approachSegmentCount,
    h'.operation.trans h.operation, h'.execution.trans h.execution,
    h'.finalConvergenceCheck.trans h.finalConvergenceCheck,
    h'.approachConvergenceCheck.trans h.approachConvergenceCheck⟩

/-- The trajectory is planned alike and in the same state. -/
structure SameMotion (trajectory trajectory' : TrajectoryControl K) : Prop extends
    SamePlan trajectory trajectory' where
  state : trajectory'.state = trajectory.state
  approachComplete : trajectory'.approachComplete = trajectory.approachComplete

@[refl] theorem SameMotion.refl (trajectory : TrajectoryControl K) : SameMotion trajectory trajectory :=
  ⟨SamePlan.refl trajectory, rfl, rfl⟩

theorem SameMotion.trans {first second third : TrajectoryControl K} (h : SameMotion first second)
    (h' : SameMotion second third) : SameMotion first third :=
  ⟨h.toSamePlan.trans h'.toSamePlan, h'.state.trans h.state, h'.approachComplete.trans h.approachComplete⟩

theorem samePlan_terminate (trajectory : TrajectoryControl K) (ending : Ending) (error : String) :
    SamePlan trajectory (trajectory.terminate ending error) := by
  unfold TrajectoryControl.terminate
  split_ifs <;> constructor <;> rfl

@[simp] theorem terminate_id (trajectory : TrajectoryControl K) (ending : Ending) (error : String) :
    (trajectory.terminate ending error).id = trajectory.id := (samePlan_terminate trajectory ending error).id

theorem terminate_state {trajectory : TrajectoryControl K}
    (monitored : trajectory.state = .running ∨ trajectory.state = .completed) (ending : Ending) (error : String) :
    (trajectory.terminate ending error).state = ending.state := by
  rw [TrajectoryControl.terminate, if_pos monitored]

section Parts

variable (trajectory : TrajectoryControl K) (now : K) (seen : Seen K)

theorem sameMotion_beginSettling : SameMotion trajectory (trajectory.beginSettling now) := by
  unfold TrajectoryControl.beginSettling
  split_ifs <;> exact ⟨by constructor <;> rfl, rfl, rfl⟩

theorem sameMotion_rememberUpdates : SameMotion trajectory (trajectory.rememberUpdates seen) := by
  unfold TrajectoryControl.rememberUpdates
  split_ifs <;> exact ⟨by constructor <;> rfl, rfl, rfl⟩

theorem samePlan_complete : SamePlan trajectory (trajectory.complete seen) := by constructor <;> rfl

variable [LinearOrder K]

theorem sameMotion_openWindow : SameMotion trajectory (trajectory.openWindow seen now) := by
  unfold TrajectoryControl.openWindow
  split_ifs <;> exact ⟨by constructor <;> rfl, rfl, rfl⟩

theorem sameMotion_updateWindow : SameMotion trajectory (trajectory.updateWindow seen now) := by
  unfold TrajectoryControl.updateWindow
  split_ifs
  · exact (sameMotion_openWindow trajectory now seen).trans ⟨by constructor <;> rfl, rfl, rfl⟩
  · exact ⟨by constructor <;> rfl, rfl, rfl⟩
  · rfl

variable [Field K]

theorem sameMotion_pauseTracking : SameMotion trajectory (trajectory.pauseTracking now) := by
  unfold TrajectoryControl.pauseTracking
  simp only
  split_ifs <;> exact ⟨by constructor <;> rfl, rfl, rfl⟩

theorem sameMotion_advance : SameMotion trajectory (trajectory.advance now).1 :=
  ⟨by constructor <;> rfl, rfl, rfl⟩

theorem sameMotion_restartWindow : SameMotion trajectory (trajectory.restartWindow seen now) := by
  unfold TrajectoryControl.restartWindow
  split_ifs <;> exact ⟨by constructor <;> rfl, rfl, rfl⟩

theorem samePlan_completeApproach : SamePlan trajectory (trajectory.completeApproach now) := by
  constructor <;> rfl

/-- The watch over a hold keeps the motion or finds the hold unstable. -/
theorem watchHold_cases : SamePlan trajectory (trajectory.watchHold seen now).2 ∧
    ((trajectory.watchHold seen now).2.state = trajectory.state ∨
      (trajectory.watchHold seen now).2.state = .running) := by
  unfold TrajectoryControl.watchHold
  simp only
  split_ifs
  · exact ⟨SamePlan.refl _, .inl rfl⟩
  · exact ⟨by constructor <;> rfl, .inl rfl⟩
  · split
    · exact ⟨by constructor <;> rfl, .inl rfl⟩
    · split_ifs
      · exact ⟨by constructor <;> rfl, .inl rfl⟩
      · exact ⟨by constructor <;> rfl, .inr rfl⟩

end Parts

/-! ## The archive -/

section Archive

variable [Field K] [LinearOrder K] (s : Engine K) (trajectory : TrajectoryControl K)

@[simp] theorem archive_trajectoryControl : (s.archive trajectory).trajectoryControl = s.trajectoryControl := by
  unfold Engine.archive
  split_ifs <;> rfl

@[simp] theorem archive_trajectoryQueue : (s.archive trajectory).trajectoryQueue = s.trajectoryQueue := by
  unfold Engine.archive
  split_ifs <;> rfl

@[simp] theorem archive_nextMotionId : (s.archive trajectory).nextMotionId = s.nextMotionId := by
  unfold Engine.archive
  split_ifs <;> rfl

@[simp] theorem archive_mode : (s.archive trajectory).mode = s.mode := by
  unfold Engine.archive
  split_ifs <;> rfl

@[simp] theorem archive_intentionallyDisabled :
    (s.archive trajectory).intentionallyDisabled = s.intentionallyDisabled := by
  unfold Engine.archive
  split_ifs <;> rfl

theorem archive_trajectoryHistory (numbered : trajectory.id ≠ 0) :
    (s.archive trajectory).trajectoryHistory = keepNewest (s.trajectoryHistory ++ [trajectory.status]) := by
  rw [Engine.archive, if_neg numbered]

/-- Archiving leaves everything but the history. -/
theorem foldl_archive (f : TrajectoryControl K → TrajectoryControl K) (queue : List (TrajectoryControl K))
    (s : Engine K) : ∃ history, (queue.foldl (fun s q => s.archive (f q)) s) = ⟨s.mode, s.intentionallyDisabled,
      s.trajectoryControl, s.trajectoryQueue, history, s.nextMotionId⟩ := by
  induction queue generalizing s with
  | nil => exact ⟨s.trajectoryHistory, rfl⟩
  | cons q queue ih =>
    obtain ⟨history, rest⟩ := ih (s.archive (f q))
    rw [List.foldl_cons, rest]
    exact ⟨history, by simp⟩


variable (ending : Ending) (error : String)

@[simp] theorem terminate_trajectoryControl :
    (s.terminate ending error).trajectoryControl = s.trajectoryControl.terminate ending error := by
  obtain ⟨history, archived⟩ := foldl_archive (fun q => q.cancelQueued error) s.trajectoryQueue
    { s with trajectoryControl := s.trajectoryControl.terminate ending error }
  simp only [Engine.terminate, archived]

@[simp] theorem terminate_trajectoryQueue : (s.terminate ending error).trajectoryQueue = [] := rfl

@[simp] theorem terminate_nextMotionId : (s.terminate ending error).nextMotionId = s.nextMotionId := by
  obtain ⟨history, archived⟩ := foldl_archive (fun q => q.cancelQueued error) s.trajectoryQueue
    { s with trajectoryControl := s.trajectoryControl.terminate ending error }
  simp only [Engine.terminate, archived]

@[simp] theorem terminate_mode : (s.terminate ending error).mode = s.mode := by
  obtain ⟨history, archived⟩ := foldl_archive (fun q => q.cancelQueued error) s.trajectoryQueue
    { s with trajectoryControl := s.trajectoryControl.terminate ending error }
  simp only [Engine.terminate, archived]

@[simp] theorem terminate_intentionallyDisabled :
    (s.terminate ending error).intentionallyDisabled = s.intentionallyDisabled := by
  obtain ⟨history, archived⟩ := foldl_archive (fun q => q.cancelQueued error) s.trajectoryQueue
    { s with trajectoryControl := s.trajectoryControl.terminate ending error }
  simp only [Engine.terminate, archived]

end Archive

/-! ## The sections of a cycle -/

section Sections

variable [Field K] [LinearOrder K] (roles : Motor → Option String) (s : Engine K)

/-- The state of a motion may change from running to completed and back. -/
def MotionState.Runs (state state' : MotionState) : Prop :=
  state' = state ∨ (state = .running ∨ state = .completed) ∧ (state' = .running ∨ state' = .completed)

/-- What a cycle does with the motions. -/
inductive Cycled (now : K) : Engine K → Prop
  | kept {trajectory : TrajectoryControl K} (plan : SamePlan s.trajectoryControl trajectory)
      (state : s.trajectoryControl.state.Runs trajectory.state) :
      Cycled now { s with trajectoryControl := trajectory }
  | terminated {trajectory : TrajectoryControl K} (plan : SamePlan s.trajectoryControl trajectory)
      (state : trajectory.state = s.trajectoryControl.state) (ending : Ending) (error : String) :
      Cycled now (({ s with trajectoryControl := trajectory } : Engine K).terminate ending error)
  | completed {trajectory : TrajectoryControl K} (plan : SamePlan s.trajectoryControl trajectory)
      (running : s.trajectoryControl.state = .running) (state : trajectory.state = .completed) :
      Cycled now (({ s with trajectoryControl := trajectory } : Engine K).activateNext now)

/-- The first part of a cycle moves the reference only. -/
theorem prepareCycle_eq (now : K) : ∃ trajectory, SameMotion s.trajectoryControl trajectory ∧
    (s.prepareCycle now).2 = { s with trajectoryControl := trajectory } := by
  unfold Engine.prepareCycle
  simp only
  split
  · exact ⟨_, SameMotion.refl _, rfl⟩
  · split_ifs
    · exact ⟨_, SameMotion.refl _, rfl⟩
    · refine ⟨_, ?_, rfl⟩
      exact ⟨by constructor <;> rfl, rfl, rfl⟩
    · exact ⟨_, (sameMotion_pauseTracking _ _).trans (sameMotion_advance _ _), rfl⟩
    · refine ⟨_, ?_, rfl⟩
      exact ⟨by constructor <;> rfl, rfl, rfl⟩
  · exact ⟨_, SameMotion.refl _, rfl⟩

omit [Field K] [LinearOrder K] in
theorem recordTracking_eq (positionError : K) (valid : Bool) :
    ∃ trajectory, SameMotion s.trajectoryControl trajectory ∧
      s.recordTracking positionError valid = { s with trajectoryControl := trajectory } := by
  unfold Engine.recordTracking
  split_ifs
  · refine ⟨_, ?_, rfl⟩
    exact ⟨by constructor <;> rfl, rfl, rfl⟩
  · exact ⟨_, SameMotion.refl _, rfl⟩

variable {s}

theorem Cycled.of_sameMotion {trajectory : TrajectoryControl K} {now : K} {s' : Engine K}
    (same : SameMotion s.trajectoryControl trajectory)
    (cycled : Cycled ({ s with trajectoryControl := trajectory } : Engine K) now s') : Cycled s now s' := by
  cases cycled with
  | kept plan state =>
    refine .kept (same.toSamePlan.trans plan) ?_
    simpa only [same.state] using state
  | terminated plan state ending error =>
    exact .terminated (same.toSamePlan.trans plan) (state.trans same.state) ending error
  | completed plan running state =>
    exact .completed (same.toSamePlan.trans plan) (same.state.symm.trans running) state

variable (s)

/-- The active trajectory on the segment where it settles. -/
def Engine.placed (seen : Seen K) : TrajectoryControl K :=
  { s.trajectoryControl with
    activeSegment :=
      if seen.waitingAtApproach then s.trajectoryControl.approachSegmentCount - 1
      else if seen.atCompletionDeadline then s.trajectoryControl.segments.length - 1
      else s.trajectoryControl.activeSegment }

/-- The active trajectory after the feedback of a cycle. -/
def Engine.window (seen : Seen K) (now : K) : TrajectoryControl K :=
  ((s.placed seen).rememberUpdates seen).updateWindow seen now

/-- The active trajectory arrives. -/
def Engine.arrives (seen : Seen K) (now : K) : Bool :=
  if seen.hasActiveJoint then (s.window seen now).hasArrived seen now else true

/-- The active trajectory, whose window starts again where its range is too wide. -/
def Engine.settled (seen : Seen K) (now : K) : TrajectoryControl K :=
  if seen.hasActiveJoint then (s.window seen now).restartWindow seen now else s.placed seen

/-- What the second section of the update does. -/
inductive Settles (seen : Seen K) (now : K) : Outcome × Engine K → Prop
  | changed (other : s.trajectoryControl.state ≠
        (if seen.monitoringCompletedHold then MotionState.completed else .running) ∨
        s.trajectoryControl.id ≠ seen.motionId) : Settles seen now (.waiting, s)
  | watched (hold : seen.monitoringCompletedHold = true) (completed : s.trajectoryControl.state = .completed)
      (same : s.trajectoryControl.id = seen.motionId) :
      Settles seen now (((s.placed seen).watchHold seen now).1,
        { s with trajectoryControl := ((s.placed seen).watchHold seen now).2 })
  | approached (hold : seen.monitoringCompletedHold = false) (running : s.trajectoryControl.state = .running)
      (same : s.trajectoryControl.id = seen.motionId) (arrives : s.arrives seen now = true)
      (approach : seen.waitingAtApproach = true) :
      Settles seen now (.approached, { s with trajectoryControl := (s.settled seen now).completeApproach now })
  | completed (hold : seen.monitoringCompletedHold = false) (running : s.trajectoryControl.state = .running)
      (same : s.trajectoryControl.id = seen.motionId) (arrives : s.arrives seen now = true)
      (final : seen.waitingAtApproach = false) :
      Settles seen now (.completed !seen.hasActiveJoint,
        ({ s with trajectoryControl := (s.settled seen now).complete seen } : Engine K).activateNext now)
  | timedOut (hold : seen.monitoringCompletedHold = false) (running : s.trajectoryControl.state = .running)
      (same : s.trajectoryControl.id = seen.motionId) (waits : s.arrives seen now = false)
      (late : (s.settled seen now).arrivalTimedOut seen now = true) :
      Settles seen now (.timedOut, ({ s with trajectoryControl := s.settled seen now } : Engine K).terminate
        .fault "trajectory arrival timed out")
  | waits (hold : seen.monitoringCompletedHold = false) (running : s.trajectoryControl.state = .running)
      (same : s.trajectoryControl.id = seen.motionId) (waits : s.arrives seen now = false)
      (inTime : (s.settled seen now).arrivalTimedOut seen now = false) :
      Settles seen now (.waiting, { s with trajectoryControl := s.settled seen now })

theorem settles (seen : Seen K) (now : K) : Settles s seen now (s.settle seen now) := by
  have unfolded : s.settle seen now =
      if s.trajectoryControl.state ≠ (if seen.monitoringCompletedHold then MotionState.completed else .running) ∨
        s.trajectoryControl.id ≠ seen.motionId then (.waiting, s)
      else if seen.monitoringCompletedHold then (((s.placed seen).watchHold seen now).1,
        { s with trajectoryControl := ((s.placed seen).watchHold seen now).2 })
      else if s.arrives seen now then
        if seen.waitingAtApproach then
          (.approached, { s with trajectoryControl := (s.settled seen now).completeApproach now })
        else (.completed !seen.hasActiveJoint,
          ({ s with trajectoryControl := (s.settled seen now).complete seen } : Engine K).activateNext now)
      else if (s.settled seen now).arrivalTimedOut seen now then
        (.timedOut, ({ s with trajectoryControl := s.settled seen now } : Engine K).terminate
          .fault "trajectory arrival timed out")
      else (.waiting, { s with trajectoryControl := s.settled seen now }) := rfl
  rw [unfolded]
  by_cases other : s.trajectoryControl.state ≠
      (if seen.monitoringCompletedHold then MotionState.completed else .running) ∨
      s.trajectoryControl.id ≠ seen.motionId
  · rw [if_pos other]
    exact .changed other
  obtain ⟨state, same⟩ := not_or.mp other
  rw [not_not] at state same
  rw [if_neg other]
  cases hold : seen.monitoringCompletedHold with
  | true =>
    rw [hold, if_pos rfl] at state
    exact .watched hold state same
  | false =>
    rw [hold, if_neg nofun] at state
    rw [if_neg nofun]
    cases arrives : s.arrives seen now with
    | true =>
      cases approach : seen.waitingAtApproach with
      | true => exact .approached hold state same arrives approach
      | false => exact .completed hold state same arrives approach
    | false =>
      cases late : (s.settled seen now).arrivalTimedOut seen now with
      | true => exact .timedOut hold state same arrives late
      | false => exact .waits hold state same arrives late

omit [Field K] [LinearOrder K] in
theorem sameMotion_placed (seen : Seen K) : SameMotion s.trajectoryControl (s.placed seen) :=
  ⟨by constructor <;> rfl, rfl, rfl⟩

omit [Field K] in
theorem sameMotion_window (seen : Seen K) (now : K) : SameMotion s.trajectoryControl (s.window seen now) :=
  ((sameMotion_placed s seen).trans (sameMotion_rememberUpdates _ _)).trans (sameMotion_updateWindow _ _ _)

theorem sameMotion_settled (seen : Seen K) (now : K) : SameMotion s.trajectoryControl (s.settled seen now) := by
  unfold Engine.settled
  split_ifs
  · exact (sameMotion_window s seen now).trans (sameMotion_restartWindow _ _ _)
  · exact sameMotion_placed s seen

theorem cycled_settle (seen : Seen K) (now : K) : Cycled s now (s.settle seen now).2 := by
  have settled := sameMotion_settled s seen now
  have done := settles s seen now
  generalize s.settle seen now = result at done
  cases done with
  | changed other => exact .kept (SamePlan.refl _) (.inl rfl)
  | watched hold completed same =>
    obtain ⟨plan, states⟩ := watchHold_cases (s.placed seen) now seen
    refine .kept ((sameMotion_placed s seen).toSamePlan.trans plan) ?_
    rcases states with kept | running
    · exact .inl (kept.trans (sameMotion_placed s seen).state)
    · exact .inr ⟨.inr completed, .inl running⟩
  | approached hold running same arrives approach =>
    exact .kept (settled.toSamePlan.trans (samePlan_completeApproach _ _)) (.inl settled.state)
  | completed hold running same arrives final =>
    exact .completed (settled.toSamePlan.trans (samePlan_complete _ _)) running rfl
  | timedOut hold running same waits late =>
    exact .terminated settled.toSamePlan settled.state .fault _
  | waits hold running same waits inTime => exact .kept settled.toSamePlan (.inl settled.state)

/-- The state in which the second section of the update begins. -/
def Engine.begun (now : K) : Engine K := { s with trajectoryControl := s.trajectoryControl.beginSettling now }

/-- What the first section of the update has seen. -/
def Engine.seen (input : CycleInput K) : Seen K :=
  (s.observation roles (s.trajectoryControl.beginSettling input.now)).see input.feedback input.verdict

/-- What the update does. -/
inductive Updates (input : CycleInput K) : (Outcome × Option (Seen K)) × Engine K → Prop
  | unmonitored : Updates input ((.waiting, none), s)
  | handoff (next : TrajectoryControl K) (rest : List (TrajectoryControl K))
      (queue : s.trajectoryQueue = next :: rest) (running : s.trajectoryControl.state = .running)
      (handsOff : s.trajectoryControl.handsOffTo next = true) :
      Updates input ((.handoff, none), ({ s with trajectoryControl :=
        { s.trajectoryControl with
          state := .completed, elapsed := s.trajectoryControl.duration, error := "" } } : Engine K).activateNext
        input.now)
  | interrupted (ending : Ending) : Updates input ((.waiting, some (s.seen roles input)),
      (s.begun input.now).terminate ending "trajectory terminated")
  | settled : Updates input ((((s.begun input.now).settle (s.seen roles input) input.now).1,
      some (s.seen roles input)), ((s.begun input.now).settle (s.seen roles input) input.now).2)

theorem updates (input : CycleInput K) : Updates roles s input (s.updateCompletion roles input) := by
  have unfolded : s.updateCompletion roles input =
      if (s.trajectoryControl.state ≠ .running ∧ s.trajectoryControl.state ≠ .completed) ∨
        s.trajectoryControl.segments = [] then ((.waiting, none), s)
      else if s.trajectoryQueue.head?.any s.trajectoryControl.handsOffTo then
        ((.handoff, none), ({ s with trajectoryControl :=
          { s.trajectoryControl with
            state := .completed, elapsed := s.trajectoryControl.duration, error := "" } } : Engine K).activateNext
          input.now)
      else
        let settled := (input.interruption.elim (s.begun input.now) fun ending =>
          (s.begun input.now).terminate ending "trajectory terminated").settle (s.seen roles input) input.now
        ((settled.1, some (s.seen roles input)), settled.2) := rfl
  rw [unfolded]
  split_ifs with unmonitored handsOff
  · exact .unmonitored
  · obtain ⟨next, head, handed⟩ := (Option.any_eq_true _ _).mp handsOff
    obtain ⟨rest, queue⟩ := List.head?_eq_some_iff.mp head
    have uncompleted : s.trajectoryControl.state ≠ .completed := by
      simp only [TrajectoryControl.handsOffTo, Bool.and_eq_true, decide_eq_true_eq] at handed
      tauto
    exact .handoff next rest queue (by tauto) handed
  · cases input.interruption with
    | none => exact .settled
    | some ending =>
      have monitored : (s.begun input.now).trajectoryControl.state = .running ∨
          (s.begun input.now).trajectoryControl.state = .completed := by
        rw [Engine.begun, (sameMotion_beginSettling _ _).state]
        tauto
      have ended := terminate_state monitored ending "trajectory terminated"
      rw [← terminate_trajectoryControl] at ended
      have stopped : ((s.begun input.now).terminate ending "trajectory terminated").settle
          (s.seen roles input) input.now =
            (.waiting, (s.begun input.now).terminate ending "trajectory terminated") := by
        refine if_pos (.inl ?_)
        rw [ended]
        cases ending <;> split_ifs <;> simp [Ending.state]
      simp only [Option.elim_some, stopped]
      exact .interrupted ending

/-- What a cycle does. -/
inductive Cycles (input : CycleInput K) : (Outcome × Option (Seen K)) × Engine K → Prop
  | prepared (trajectory : TrajectoryControl K) (same : SameMotion s.trajectoryControl trajectory) :
      Cycles input ((.waiting, none), { s with trajectoryControl := trajectory })
  | failed (trajectory : TrajectoryControl K) (same : SameMotion s.trajectoryControl trajectory) (error : String) :
      Cycles input ((.waiting, none),
        ({ s with trajectoryControl := trajectory } : Engine K).terminate .fault error)
  | updated (trajectory : TrajectoryControl K) (same : SameMotion s.trajectoryControl trajectory) :
      Cycles input (({ s with trajectoryControl := trajectory } : Engine K).updateCompletion roles input)

theorem cycles (input : CycleInput K) : Cycles roles s input (s.cycle roles input) := by
  obtain ⟨trajectory, same, eq⟩ := prepareCycle_eq s input.now
  obtain ⟨recorded, same', eq'⟩ := recordTracking_eq ({ s with trajectoryControl := trajectory } : Engine K)
    input.trackingError input.trackingValid
  unfold Engine.cycle
  simp only [eq, eq']
  split
  · exact .failed trajectory same _
  · exact .prepared trajectory same
  · split_ifs
    · exact .prepared trajectory same
    · exact .updated recorded (same.trans same')
    · exact .prepared recorded (same.trans same')
  · split_ifs
    · exact .updated trajectory same
    · exact .prepared trajectory same

theorem cycled_updateCompletion (input : CycleInput K) :
    Cycled s input.now (s.updateCompletion roles input).2 := by
  have begun : SameMotion s.trajectoryControl (s.begun input.now).trajectoryControl :=
    sameMotion_beginSettling _ _
  have done := updates roles s input
  generalize s.updateCompletion roles input = result at done
  cases done with
  | unmonitored => exact .kept (SamePlan.refl _) (.inl rfl)
  | handoff next rest queue running handsOff => exact .completed (by constructor <;> rfl) running rfl
  | interrupted ending => exact .terminated begun.toSamePlan begun.state ending _
  | settled => exact .of_sameMotion begun (cycled_settle _ _ _)

theorem cycled_cycle (input : CycleInput K) : Cycled s input.now (s.cycle roles input).2 := by
  have done := cycles roles s input
  generalize s.cycle roles input = result at done
  cases done with
  | prepared trajectory same => exact .kept same.toSamePlan (.inl same.state)
  | failed trajectory same error => exact .terminated same.toSamePlan same.state .fault error
  | updated trajectory same => exact .of_sameMotion same (cycled_updateCompletion roles _ input)

end Sections

/-! ## Cancelling -/

section Cancelling

variable [Field K] [LinearOrder K] (sqrt : K → K) (s : Engine K)

/-- Where the motion in front of a queued one ends. -/
def Engine.predecessorSample (index : ℕ) : Option (Sample K) :=
  if index = 0 then s.trajectoryControl.finalSample
  else (s.trajectoryQueue[index - 1]?).bind TrajectoryControl.finalSample

/-- What `cancel_motion` does. -/
inductive Cancels (id : ℕ) : Except (CancelError K) Unit × Engine K → Prop
  | refused (error : CancelError K) : Cancels id (.error error, s)
  | ended : Cancels id (.ok (), s)
  | active (running : s.trajectoryControl.state = .running) (same : s.trajectoryControl.id = id) :
      Cancels id (.ok (), s.terminate .cancelled "motion cancelled")
  | last (index : ℕ) (queued : TrajectoryControl K) (found : s.trajectoryQueue[index]? = some queued)
      (last : s.trajectoryQueue[index + 1]? = none) : Cancels id (.ok (), s.dequeue index queued)
  | detached (index : ℕ) (queued successor rebound : TrajectoryControl K)
      (found : s.trajectoryQueue[index]? = some queued) (next : s.trajectoryQueue[index + 1]? = some successor)
      (ok : detach sqrt s.mode (s.predecessorSample index) successor = .ok rebound) :
      Cancels id (.ok (), ({ s with
        trajectoryQueue := s.trajectoryQueue.set (index + 1) rebound } : Engine K).dequeue index queued)

theorem cancels (id : ℕ) : Cancels sqrt s id (s.cancelMotion sqrt id) := by
  unfold Engine.cancelMotion
  by_cases zero : id = 0
  · rw [if_pos zero]
    exact .refused _
  rw [if_neg zero]
  by_cases active : s.trajectoryControl.id = id
  · rw [if_pos active]
    by_cases running : s.trajectoryControl.state = .running
    · rw [if_pos running]
      exact .active running active
    · rw [if_neg running]
      exact .ended
  rw [if_neg active]
  cases search : s.trajectoryQueue.findIdx? fun queued => decide (queued.id = id) with
  | none =>
    simp only
    split_ifs
    · exact .ended
    · exact .refused _
  | some index =>
    cases found : s.trajectoryQueue[index]? with
    | none =>
      simp only [found]
      exact .ended
    | some queued =>
      cases next : s.trajectoryQueue[index + 1]? with
      | none =>
        simp only [found, next]
        exact .last index queued found next
      | some successor =>
        simp only [found, next]
        have sampled : (if index = 0 then s.trajectoryControl.finalSample
          else (s.trajectoryQueue[index - 1]?).bind TrajectoryControl.finalSample) = s.predecessorSample index := rfl
        rw [sampled]
        cases ok : detach sqrt s.mode (s.predecessorSample index) successor with
        | error error => exact .refused error
        | ok rebound => exact .detached index queued successor rebound found next ok

end Cancelling

end MotorDrive.Trajectory
