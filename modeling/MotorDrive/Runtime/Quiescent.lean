import MotorDrive.Runtime.Cycle
import MotorDrive.Runtime.Emergency

/-!
# States at rest

In `FAULT`, `SAFE_STOP`, `SAFE_HOLD`, `READY` and `DISCONNECTED` nothing of the arm may be left that
would move it once the Runtime commands again.  Most transitions into these states clear the mailboxes,
the owners and the trajectories.  Seven do not: the commits of a power batch and of a power query, the
failures of `enable` and `recover`, the freeze of `recover`, the safe hold and the timeout of
`clear_faults`.
-/

namespace MotorDrive.Runtime

open Threads SafetyRuntime

namespace Arm

/-- No trajectory runs, holds its end or waits. -/
def Ended (arm : Arm) : Prop :=
  arm.trajectory.state ≠ .running ∧ arm.trajectory.state ≠ .completed ∧ arm.trajectoryQueue = []

/-- No trajectory runs or waits, and gravity compensation and bimanual follow are off. -/
def Released (arm : Arm) : Prop :=
  arm.gravity.phase = .inactive ∧ arm.bimanual = none ∧ arm.trajectory.state ≠ .running ∧
    arm.trajectoryQueue = []

/-- Nothing is left that would move the arm. -/
def Quiet (arm : Arm) : Prop := arm.mailbox.valid = false ∧ arm.pending.valid = false ∧ arm.Released

instance (arm : Arm) : Decidable arm.Released := inferInstanceAs (Decidable (_ ∧ _ ∧ _ ∧ _))

instance (arm : Arm) : Decidable arm.Quiet := inferInstanceAs (Decidable (_ ∧ _ ∧ _))

variable {arm : Arm}

theorem cancelQueue_eq (arm : Arm) : ∃ history,
    arm.cancelQueue = { arm with trajectoryHistory := history, trajectoryQueue := [] } := by
  have folded : ∀ (queue : List TrajectoryControl) (arm : Arm), ∃ history,
      queue.foldl (fun arm queued => arm.archive { queued with state := .cancelled }) arm =
        { arm with trajectoryHistory := history } := by
    intro queue
    induction queue with
    | nil => exact fun arm => ⟨arm.trajectoryHistory, rfl⟩
    | cons queued queue ih =>
      intro arm
      obtain ⟨history, same⟩ := ih (arm.archive { queued with state := .cancelled })
      refine ⟨history, ?_⟩
      rw [List.foldl_cons, same]
      unfold archive
      split_ifs <;> rfl
  obtain ⟨history, same⟩ := folded arm.trajectoryQueue arm
  exact ⟨history, by rw [cancelQueue, same]⟩

section Terminate

variable (arm) (state : MotionState)

@[simp] theorem terminate_pending : (arm.terminateTrajectory state).pending = arm.pending := by
  obtain ⟨history, queue⟩ := arm.cancelQueue_eq
  unfold terminateTrajectory
  split <;> simp only [queue]

@[simp] theorem terminate_gravity : (arm.terminateTrajectory state).gravity = arm.gravity := by
  obtain ⟨history, queue⟩ := arm.cancelQueue_eq
  unfold terminateTrajectory
  split <;> simp only [queue]

@[simp] theorem terminate_bimanual : (arm.terminateTrajectory state).bimanual = arm.bimanual := by
  obtain ⟨history, queue⟩ := arm.cancelQueue_eq
  unfold terminateTrajectory
  split <;> simp only [queue]

@[simp] theorem terminate_queue : (arm.terminateTrajectory state).trajectoryQueue = [] := by
  unfold terminateTrajectory
  split <;> rfl

@[simp] theorem terminate_valid :
    (arm.terminateTrajectory state).mailbox.valid = arm.mailbox.valid := by
  obtain ⟨history, queue⟩ := arm.cancelQueue_eq
  unfold terminateTrajectory
  split
  · by_cases valid : arm.mailbox.valid = true <;> simp [valid]
  · simp only [queue]

@[simp] theorem terminate_trajectory : (arm.terminateTrajectory state).trajectory =
    if arm.trajectory.state = .running ∨ arm.trajectory.state = .completed then
      { arm.trajectory with state } else arm.trajectory := by
  obtain ⟨history, queue⟩ := arm.cancelQueue_eq
  unfold terminateTrajectory
  split <;> simp only [queue]

end Terminate

/-- A terminated trajectory neither runs nor holds, and nothing waits behind it. -/
theorem ended_terminate {state : MotionState} (past : state ≠ .running ∧ state ≠ .completed) :
    (arm.terminateTrajectory state).Ended := by
  simp only [Ended, terminate_trajectory, terminate_queue]
  split_ifs with active
  · simp [past]
  · simp [not_or.mp active]

theorem released_terminate {state : MotionState} (past : state ≠ .running)
    (off : arm.gravity.phase = .inactive ∧ arm.bimanual = none) :
    (arm.terminateTrajectory state).Released := by
  simp only [Released, terminate_trajectory, terminate_queue, terminate_gravity, terminate_bimanual, off]
  split_ifs with active
  · simp [past]
  · simp [not_or.mp active]

namespace Quiet

/-- Terminating a trajectory revives nothing. -/
theorem terminate {state : MotionState} (quiet : arm.Quiet) (past : state ≠ .running) :
    (arm.terminateTrajectory state).Quiet := by
  obtain ⟨mailbox, pending, gravity, bimanual, -⟩ := quiet
  exact ⟨by rw [terminate_valid, mailbox], by rw [terminate_pending, pending],
    released_terminate past ⟨gravity, bimanual⟩⟩

theorem releaseOwners (quiet : arm.Quiet) : arm.releaseOwners.Quiet :=
  ⟨quiet.1, quiet.2.1, rfl, rfl, quiet.2.2.2.2⟩

theorem clearMailboxes (released : arm.Released) : arm.clearMailboxes.Quiet := ⟨rfl, rfl, released⟩

/-- What clears the mailboxes and the owners of a terminated trajectory leaves nothing. -/
theorem cleared {state : MotionState} (past : state ≠ .running) :
    (arm.terminateTrajectory state).clearMailboxes.releaseOwners.Quiet := by
  refine ⟨rfl, rfl, rfl, rfl, ?_, terminate_queue arm state⟩
  change (arm.terminateTrajectory state).trajectory.state ≠ .running
  rw [terminate_trajectory]
  split_ifs with active
  · exact past
  · exact (not_or.mp active).1

end Quiet

end Arm

/-! ## Sections that revive nothing -/

theorem quiet_after {config : RuntimeConfig} {t : Thread} {site : Site} (i : Input) {s : SafetyRuntime}
    {φ : Local} (fits : φ.fits t site) (calm : s.state.commanding = false)
    (idle : t = .worker → φ.cycle = none)
    (quiet : s.arm.Quiet) (commands : site.commands = false)
    (seeds : ∀ mode requireEnabled, site ≠ .enableSeed mode requireEnabled)
    (leaves : ∀ since, site ≠ .gravityStop since) : (after config t site i s).arm.Quiet := by
  have footprint := after_footprint config t site i s
  have closed : s.tick.accepting = false := by simp [accepting, calm]
  have refused (admits : effect config t site i s.tick = s.tick) : (after config t site i s).arm.Quiet := by
    change (effect config t site i s.tick).arm.Quiet
    rw [admits]
    exact quiet
  by_cases writes : site.writesArm = true
  · cases site with
    | enableFailed => exact .clearMailboxes quiet.2.2
    | safeHoldInstall since mode commands =>
      simp only [after, effect, enterSafeHold]
      split
      · exact ⟨rfl, rfl, quiet.2.2⟩
      · exact quiet
    | initialHoldSent mode commands => cases mode <;> exact quiet
    | disableStart =>
      simp only [after, effect, startDisable]
      split_ifs
      · exact quiet
      · exact quiet.terminate (by simp)
    | disableCommit confirmed preserveFault => exact ⟨rfl, rfl, rfl, rfl, quiet.2.2.2.2⟩
    | batchStart selected enabled =>
      have terminated : (s.arm.terminateTrajectory .cancelled).Quiet := quiet.terminate (by simp)
      simp only [after, effect, startBatch]
      split_ifs
      · exact quiet
      · exact quiet
      · exact quiet
      · exact quiet
      · exact terminated
      · exact terminated.releaseOwners
    | recoverClear => exact ⟨rfl, rfl, rfl, rfl, quiet.2.2.2.2⟩
    | recoverFailClear => exact ⟨rfl, rfl, quiet.2.2⟩
    | stopStart => exact .cleared (by simp)
    | enterFault hold available =>
      have cleared : (s.arm.terminateTrajectory .fault).clearMailboxes.releaseOwners.Quiet :=
        .cleared (by simp)
      simp only [after, effect, SafetyRuntime.enterFault]
      split_ifs
      · exact quiet
      · exact cleared
      · exact cleared
    | enterSafeStop =>
      simp only [after, effect, SafetyRuntime.enterSafeStop]
      split_ifs
      · exact quiet
      · exact .cleared (by simp)
    | estopClear | holdInstall _ => exact quiet
    | submit _ _ | trajectoryStart _ _ _ _ => exact refused (effect_refused i rfl closed)
    | install mode planningToken client =>
      simp only [effect, install, requireStateForCommand_error closed] at refused
      refine refused ?_
      split <;> first | rfl | simp_all
    | cancelMotion id =>
      have queue : s.tick.arm.trajectoryQueue = [] := quiet.2.2.2.2.2
      simp only [after, effect, SafetyRuntime.cancelMotion, queue, List.find?_nil]
      split_ifs
      · exact quiet.terminate (by simp)
      · exact quiet
      · exact quiet
      · exact quiet
    | cancelAllMotions | faultTrajectory => exact quiet.terminate (by simp)
    | bimanualStop since =>
      simp only [after, effect, stopBimanual]
      split_ifs
      · exact ⟨quiet.1, quiet.2.1, quiet.2.2.1, rfl, quiet.2.2.2.2⟩
      · exact quiet
    | enableSeed mode requireEnabled => exact absurd rfl (seeds mode requireEnabled)
    | gravityStop since => exact absurd rfl (leaves since)
    | initializeEnabled _ _ | gravityStart _ | bimanualStart _ => cases commands
    | cycleSent mode time frame =>
      obtain ⟨-, cycle, ⟨worker, -, captured, -⟩, -⟩ := fits
      simp [idle worker] at captured
    | gravitySent cycle =>
      obtain ⟨-, snapshot, worker, -, captured, -⟩ := fits
      simp [idle worker] at captured
    | cyclePrepare snapshot =>
      obtain ⟨worker, -, captured, -⟩ := fits
      simp [idle worker] at captured
    | trajectoryCycle since | consumePending since =>
      obtain ⟨cycle, ⟨worker, -, captured, -⟩, -⟩ := fits
      simp [idle worker] at captured
    | trajectoryUpdate =>
      obtain ⟨cycle, worker, -, captured, -⟩ := fits
      simp [idle worker] at captured
    | _ => cases writes
  · rw [footprint.arm (by simpa using writes)]
    exact quiet

/-- While no command is accepted no trajectory begins. -/
theorem ended_after {config : RuntimeConfig} {t : Thread} {site : Site} (i : Input) {s : SafetyRuntime}
    (closed : s.accepting = false) (ended : s.arm.Ended) : (after config t site i s).arm.Ended := by
  have footprint := after_footprint config t site i s
  have closed : s.tick.accepting = false := closed
  have refused (admits : effect config t site i s.tick = s.tick) : (after config t site i s).arm.Ended := by
    change (effect config t site i s.tick).arm.Ended
    rw [admits]
    exact ended
  have terminated : ∀ {state : MotionState}, state ≠ .running ∧ state ≠ .completed →
      (s.arm.terminateTrajectory state).Ended := Arm.ended_terminate
  by_cases writes : site.writesArm = true
  · cases site with
    | enableSeed mode requireEnabled =>
      simp only [after, effect, seedMailbox]
      split_ifs <;> exact ended
    | initialHoldSent mode commands => cases mode <;> exact ended
    | cycleSent mode time frame =>
      change Arm.Ended (if _ then _ else _)
      cases mode <;> split <;> exact ended
    | disableStart =>
      simp only [after, effect, startDisable]
      split_ifs
      · exact ended
      · exact terminated (by simp)
    | batchStart selected enabled =>
      simp only [after, effect, startBatch]
      split_ifs
      · exact ended
      · exact ended
      · exact ended
      · exact ended
      · exact terminated (by simp)
      · exact terminated (by simp)
    | stopStart => exact terminated (by simp)
    | enterFault hold available =>
      simp only [after, effect, SafetyRuntime.enterFault]
      split_ifs
      · exact ended
      · exact terminated (by simp)
      · exact terminated (by simp)
    | enterSafeStop =>
      simp only [after, effect, SafetyRuntime.enterSafeStop]
      split_ifs
      · exact ended
      · exact terminated (by simp)
    | safeHoldInstall since mode commands =>
      simp only [after, effect, enterSafeHold]
      split <;> exact ended
    | submit _ _ | trajectoryStart _ _ _ _ => exact refused (effect_refused i rfl closed)
    | install mode planningToken client =>
      simp only [effect, install, requireStateForCommand_error closed] at refused
      refine refused ?_
      split <;> first | rfl | simp_all
    | cancelMotion id =>
      have queue : s.tick.arm.trajectoryQueue = [] := ended.2.2
      simp only [after, effect, SafetyRuntime.cancelMotion, queue, List.find?_nil]
      split_ifs
      · exact terminated (by simp)
      · exact ended
      · exact ended
      · exact ended
    | cancelAllMotions | faultTrajectory => exact terminated (by simp)
    | bimanualStop since =>
      simp only [after, effect, stopBimanual]
      split_ifs <;> exact ended
    | trajectoryUpdate =>
      have past : s.tick.arm.trajectory.state ≠ .running ∧ s.tick.arm.trajectory.state ≠ .completed :=
        ⟨ended.1, ended.2.1⟩
      simp only [after, effect, updateTrajectory, if_neg past.1, past.2, false_and, if_false]
      exact ended
    | trajectoryCycle since =>
      have past : s.tick.arm.trajectory.state ≠ .running ∧ s.tick.arm.trajectory.state ≠ .completed :=
        ⟨ended.1, ended.2.1⟩
      simp only [after, effect, SafetyRuntime.trajectoryCycle, if_neg past.2, if_pos past.1]
      exact ended
    | consumePending since =>
      simp only [after, effect, Arm.consumePending]
      split_ifs <;> exact ended
    | cyclePrepare snapshot =>
      simp only [after, effect, advanceArm]
      split_ifs
      · exact ended
      · split <;> exact ended
    | gravitySent cycle =>
      simp only [after, effect, SafetyRuntime.commitGravity, Arm.setLastSent]
      split_ifs <;> exact ended
    | enableFailed | initializeEnabled _ _ | disableCommit _ _ | estopClear | recoverClear | recoverFailClear
    | holdInstall _ | gravityStart _ | gravityStop _ | bimanualStart _ => exact ended
    | _ => cases writes
  · rw [footprint.arm (by simpa using writes)]
    exact ended

/-! ## Owners that are left behind -/

/-- A power batch commits to a state in which nothing is sent. -/
def SafetyRuntime.batchRests (s : SafetyRuntime) (enabled : Bool) (started : SafetyState)
    (outcome : BatchOutcome) (allDisabled : Bool) : Bool :=
  outcome.rollbackFailed enabled || !(enabled && outcome.ok && !s.flags.faultLatched) &&
    (if preserveAbnormalState enabled started then started ≠ .degraded
      else if s.flags.faultLatched then !s.state.commanding else allDisabled)

/-- The section enters a state in which nothing is sent and leaves alone what would move the arm: it
clears neither (or, in `enable`, `recover` and the safe hold, only the mailboxes). -/
def Site.abandons (site : Site) (s : SafetyRuntime) : Bool :=
  match site with
  | .batchCommit _ enabled started outcome allDisabled =>
    s.batchRests enabled started outcome allDisabled && !s.arm.Quiet
  | .motorPowerCommit allDisabled => allDisabled && !s.arm.Quiet
  | .enableFailed => !s.arm.Released
  | .recoverClear => s.arm.trajectory.state = .running || s.arm.trajectoryQueue ≠ []
  | .recoverFailed _ => !s.arm.Quiet
  | .safeHoldInstall _ mode _ => s.state = .running && s.progress.hasSuccessfulCommand && s.mode = mode &&
      !s.arm.Released
  | .retryTimeout => s.state.commanding && (!s.arm.Quiet || s.commandOwner ≠ none)
  | _ => false

/-- No section leaves owners behind. -/
def parks (_ : Thread) (site : Site) (_ : Input) (s : SafetyRuntime) : Bool := !site.abandons s

/-- The lifecycle thread prepares to enable the product, or `recover` is between its freeze and its first
disable or between its failure and its end. -/
def Local.prepares (φ : Local) : Prop :=
  (∃ since, φ.stage = .enabling since true) ∨ φ.recovery = .frozen ∨ φ.recovery = .failing

/-- What holds of the arm where nothing is sent. -/
structure Parked (s : SafetyRuntime) (φ : Thread → Local) : Prop where
  quiet : s.state.commanding = false → ¬ (φ .lifecycle).prepares → s.arm.Quiet ∧ (φ .worker).cycle = none
  ended : ∀ preserveFault, (φ .lifecycle).stage = .disabling preserveFault → s.arm.Ended
  releasing : (φ .lifecycle).stage = .releasing →
    (φ .lifecycle).command = true ∧ s.state.commanding = true

theorem batchRests_iff {config : RuntimeConfig} {t : Thread} {i : Input} {s : SafetyRuntime}
    {selected : List Handle} {enabled : Bool} {started : SafetyState} {outcome : BatchOutcome}
    {allDisabled : Bool} (rests : (after config t (.batchCommit selected enabled started outcome
      allDisabled) i s).state.commanding = false) :
    s.batchRests enabled started outcome allDisabled = true := by
  have state := state_commitBatch s.tick (currentMotorFaultReported config i) config selected enabled
    started outcome allDisabled
  change (after config t (.batchCommit selected enabled started outcome allDisabled) i s).state = _ at state
  rw [state] at rests
  have refused (accepted : ¬(enabled = true ∧ outcome.ok = true ∧ (!s.tick.flags.faultLatched) = true)) :
      (enabled && outcome.ok && !s.flags.faultLatched) = false := by
    rw [Bool.eq_false_iff]
    intro on
    exact accepted (by simpa [and_assoc] using on)
  unfold batchRests
  split_ifs at rests with failed accepted preserve latched disabled
  · simp [failed]
  · cases rests
  · have other : started ≠ .degraded := by
      rintro rfl
      cases rests
    rw [refused accepted]
    simp [preserve, other]
  · have isLatched : s.flags.faultLatched = true := latched
    have calm : s.state.commanding = false := rests
    rw [refused accepted]
    simp [preserve, isLatched, calm]
  · have unlatched : ¬ s.flags.faultLatched = true := latched
    rw [refused accepted]
    simp [preserve, unlatched, disabled]
  · cases rests

/-- The sections that leave the arm to what the lifecycle thread has done before. -/
def Site.settles : Site → Bool
  | .batchCommit _ _ _ _ _ | .motorPowerCommit _ | .disableCommit _ _ | .enableFailed | .recoverClear
  | .recoverFailed _ | .enterFault _ _ => true
  | _ => false

theorem settles_of_commanding {config : RuntimeConfig} {site : Site} {i : Input} {s : SafetyRuntime}
    {φ : Local} (calm : Calm s φ) (fits : φ.fits .lifecycle site)
    (prepared : ¬ (φ.step config site i s.tick).prepares)
    (rests : (after config .lifecycle site i s).state.commanding = false)
    (before : s.state.commanding = true) : site.settles = true := by
  have footprint := after_footprint config .lifecycle site i s
  have awake (calms : φ.calms) : False := by simp [calm.calm calms] at before
  by_cases writes : site.writesState = true
  · cases site with
    | connectCommit faulted disabled =>
      obtain ⟨-, revalidating, stage, -⟩ := fits
      exact (awake (.inl (by rw [stage]; rfl))).elim
    | initializeEnabled _ _ | gravityStart _ | bimanualStart _ => cases rests
    | finishMaintenance operation code latchFault =>
      obtain ⟨-, -, rfl, -, ⟨stage, -⟩ | ⟨-, rfl⟩⟩ := fits
      · exact (awake (.inl (by rw [stage]; rfl))).elim
      · have same : (after config .lifecycle (.finishMaintenance operation .invalidState
            OperationCode.invalidState.latches) i s).state = s.state := rfl
        rw [same, before] at rests
        cases rests
    | retryTimeout => exact absurd rfl fits
    | recoverFreeze => exact absurd (.inr (.inl rfl)) prepared
    | recoverReady => exact (awake (.inr (.inl (by rw [fits.2.2.1]; rfl)))).elim
    | recoverDone => exact (awake (.inr (.inr fits.2.2.2.1))).elim
    | recoverFailFault => exact absurd (.inr (.inr rfl)) prepared
    | stopDone => exact (awake (.inl (by rw [fits.2]; rfl))).elim
    | safeHoldInstall since mode commands => exact absurd rfl fits.1.1
    | enterSafeStop => exact nomatch fits.1
    | enterDegraded => exact nomatch fits.1
    | cycleSent mode time frame => exact nomatch fits.2.choose_spec.1.1
    | gripperSent time commands => exact nomatch fits.1
    | _ => first | rfl | cases writes
  · rw [footprint.state (by simpa using writes), before] at rests
    cases rests

theorem settles_of_prepares {config : RuntimeConfig} {site : Site} {i : Input} {s : SafetyRuntime}
    {φ : Local} (fits : φ.fits .lifecycle site) (prepared : ¬ (φ.step config site i s.tick).prepares)
    (rests : (after config .lifecycle site i s).state.commanding = false) (before : φ.prepares) :
    site.settles = true := by
  obtain ⟨since, stage⟩ | frozen | failing := before
  · by_cases moves : site.movesStage = true
    · cases site with
      | unlock => exact absurd (.inl ⟨since, by simp [Local.step, Local.unlock, stage]⟩) prepared
      | initializeEnabled _ _ => cases rests
      | workerDecide | enterSafeStop | enterDegraded => cases fits.1
      | feedbackFailed | holdFailed => cases fits
      | _ =>
        first
        | rfl
        | (cases moves; done)
        | simp [Local.fits, Local.begins, Local.holds, stage] at fits
    · exact absurd (.inl ⟨since, (step_stage config φ i s.tick (by simpa using moves)).trans stage⟩) prepared
  · by_cases moves : site.movesRecovery = true
    · cases site with
      | recoverFailFault => exact absurd (.inr (.inr rfl)) prepared
      | _ =>
        first
        | rfl
        | (cases moves; done)
        | simp [Local.fits, Local.begins, frozen] at fits
    · exact absurd (.inr (.inl ((step_recovery config φ i s.tick (by simpa using moves)).trans frozen)))
        prepared
  · by_cases moves : site.movesRecovery = true
    · cases site with
      | recoverFailFault => exact absurd (.inr (.inr rfl)) prepared
      | _ =>
        first
        | rfl
        | (cases moves; done)
        | simp [Local.fits, Local.begins, failing] at fits
    · exact absurd (.inr (.inr ((step_recovery config φ i s.tick (by simpa using moves)).trans failing)))
        prepared

/-- What these sections leave. -/
theorem parked_settles {config : RuntimeConfig} {site : Site} {i : Input} {s : SafetyRuntime}
    {φ : Thread → Local} (locks : Locks s φ) (ordered : Ordered s φ) (parked : Parked s φ)
    (fits : (φ .lifecycle).fits .lifecycle site) (permitted : site.abandons s = false)
    (settles : site.settles = true)
    (rests : (after config .lifecycle site i s).state.commanding = false) :
    (after config .lifecycle site i s).arm.Quiet ∧ (φ .worker).cycle = none := by
  have alone (command : (φ .lifecycle).command = true) : (φ .worker).cycle = none := by
    refine ordered.cycling .worker ?_
    by_contra theirs
    have same : Thread.lifecycle = .worker := locks.exclusive command (by simpa using theirs)
    cases same
  cases site with
  | batchCommit selected enabled started outcome allDisabled =>
    obtain ⟨-, stage, isDrained, -⟩ := fits
    have quiet : s.arm.Quiet := by
      simpa [Site.abandons, batchRests_iff rests] using permitted
    rw [(after_footprint config .lifecycle _ i s).arm rfl]
    exact ⟨quiet, ordered.drained (.inl (by rw [stage]; rfl)) isDrained⟩
  | motorPowerCommit allDisabled =>
    obtain ⟨-, stage, isDrained, -⟩ := fits
    have disabled : allDisabled = true := by
      change (if allDisabled then SafetyState.ready else .partiallyEnabled).commanding = false at rests
      by_contra other
      simp [other, SafetyState.commanding] at rests
    have quiet : s.arm.Quiet := by simpa [Site.abandons, disabled] using permitted
    exact ⟨quiet, ordered.drained (.inl (by rw [stage]; rfl)) isDrained⟩
  | disableCommit confirmed preserveFault =>
    obtain ⟨-, stage, isDrained, -⟩ := fits
    obtain ⟨past, -, queue⟩ := parked.ended preserveFault stage
    exact ⟨⟨rfl, rfl, rfl, rfl, past, queue⟩, ordered.drained (.inl (by rw [stage]; rfl)) isDrained⟩
  | enableFailed =>
    have isReleased : s.arm.Released := by simpa [Site.abandons] using permitted
    exact ⟨.clearMailboxes isReleased, alone fits.2.1⟩
  | recoverClear =>
    obtain ⟨past, queue⟩ : s.arm.trajectory.state ≠ .running ∧ s.arm.trajectoryQueue = [] := by
      simpa [Site.abandons] using permitted
    exact ⟨⟨rfl, rfl, rfl, rfl, past, queue⟩, alone fits.1.2.1⟩
  | recoverFailed disabled =>
    obtain ⟨-, -, failing, -, isDrained, -⟩ := fits
    have quiet : s.arm.Quiet := by simpa [Site.abandons] using permitted
    exact ⟨quiet, ordered.drained (.inr failing) isDrained⟩
  | enterFault hold available =>
    obtain ⟨-, stage, recovery⟩ := fits.2 rfl
    refine ⟨?_, alone fits.1⟩
    have cleared : (s.arm.terminateTrajectory .fault).clearMailboxes.releaseOwners.Quiet :=
      .cleared (by simp)
    simp only [after, effect, SafetyRuntime.enterFault]
    split_ifs with disconnected
    · have calm : s.state.commanding = false := by rw [show s.state = _ from disconnected]; rfl
      refine (parked.quiet calm ?_).1
      rintro (⟨since, seeded⟩ | frozen | failing)
      · simp [stage] at seeded
      · simp [recovery] at frozen
      · simp [recovery] at failing
    · exact cleared
    · exact cleared
  | _ => cases settles

theorem stage_disabling {config : RuntimeConfig} {site : Site} {i : Input} {s : SafetyRuntime}
    {φ : Local} {preserveFault : Bool} (reached : (φ.step config site i s).stage = .disabling preserveFault) :
    φ.stage = .disabling preserveFault ∨ site = .disableStart ∧ s.state ≠ .disconnected := by
  cases site with
  | disableStart =>
    rw [stage_disableStart] at reached
    split_ifs at reached with disconnected
    · exact .inl reached
    · exact .inr ⟨rfl, disconnected⟩
  | _ =>
    first
    | exact .inl reached
    | cases reached
    | (simp only [Local.step, Local.enter, Local.leave, Local.drop, Local.unlock] at reached
       repeat' split at reached
       all_goals first | exact .inl reached | cases reached)

theorem stage_releasing {config : RuntimeConfig} {site : Site} {i : Input} {s : SafetyRuntime}
    {φ : Local} (reached : (φ.step config site i s).stage = .releasing) :
    φ.stage = .releasing ∧ site ≠ .unlock ∨
      site = .stopGravityCheck ∧ s.checkStopGravity = .ok true := by
  cases site with
  | unlock =>
    simp only [Local.step, Local.unlock] at reached
    split_ifs at reached with begun
    exact absurd (.inr reached) begun
  | stopGravityCheck =>
    simp only [Local.step] at reached
    split_ifs at reached with begun
    · cases check : s.checkStopGravity with
      | error error => simp [check, Except.toOption] at begun
      | ok active =>
        refine .inr ⟨rfl, ?_⟩
        simp only [check, Except.toOption, Option.some.injEq] at begun
        rw [begun]
    · exact .inl ⟨reached, by simp⟩
  | _ =>
    first
    | exact .inl ⟨reached, by simp⟩
    | cases reached
    | (simp only [Local.step, Local.enter, Local.leave, Local.drop] at reached
       repeat' split at reached
       all_goals first | exact .inl ⟨reached, by simp⟩ | cases reached)

theorem parked_own {config : RuntimeConfig} {site : Site} {i : Input} {s : SafetyRuntime}
    {φ : Thread → Local} (locks : Locks s φ) (ordered : Ordered s φ) (parked : Parked s φ)
    (fits : (φ .lifecycle).fits .lifecycle site) (permitted : site.abandons s = false) :
    Parked (after config .lifecycle site i s)
      (Function.update φ .lifecycle ((φ .lifecycle).step config site i s.tick)) := by
  have footprint := after_footprint config .lifecycle site i s
  refine ⟨?_, ?_, ?_⟩
  · rw [Function.update_self, Function.update_of_ne (by simp)]
    intro rests prepared
    by_cases settles : site.settles = true
    · exact parked_settles locks ordered parked fits permitted settles rests
    have calm : s.state.commanding = false := by
      by_contra before
      exact settles (settles_of_commanding ⟨ordered.calm, ordered.alone⟩ fits prepared rests (by simpa using before))
    obtain ⟨quiet, idle⟩ := parked.quiet calm fun before =>
      settles (settles_of_prepares fits prepared rests before)
    refine ⟨?_, idle⟩
    cases site with
    | enableSeed mode requireEnabled =>
      obtain ⟨since, -, -, stage⟩ := fits
      simp only [after, effect, seedMailbox]
      split_ifs with seedable motorless
      · exact quiet
      · refine absurd (.inl ⟨since, ?_⟩) prepared
        simp [Local.step, seedMailbox, seedable, motorless, stage]
      · exact quiet
      · exact quiet
    | gravityStop since => simp [(parked.releasing fits.1.2.2).2] at calm
    | initializeEnabled _ _ | gravityStart _ | bimanualStart _ => cases rests
    | batchCommit _ _ _ _ _ | motorPowerCommit _ => exact absurd rfl settles
    | _ => exact quiet_after i fits calm (by rintro ⟨⟩) quiet rfl (by rintro _ _ ⟨⟩) (by rintro _ ⟨⟩)
  · rw [Function.update_self]
    intro preserveFault reached
    obtain stage | ⟨rfl, connected⟩ := stage_disabling reached
    · refine ended_after i ?_ (parked.ended preserveFault stage)
      obtain transition | calm := ordered.transacting (by rw [stage]; rfl)
      · simp [accepting, transition]
      · simp [accepting, calm]
    · have connected : s.state ≠ .disconnected := connected
      have terminated : (s.arm.terminateTrajectory .cancelled).Ended := Arm.ended_terminate (by simp)
      simpa [after, effect, startDisable, connected] using terminated
  · rw [Function.update_self]
    intro reached
    obtain ⟨stage, other⟩ | ⟨rfl, check⟩ := stage_releasing reached
    · obtain ⟨command, awake⟩ := parked.releasing stage
      have lock : site ≠ .lock := by
        rintro rfl
        simp [Local.fits, command] at fits
      refine ⟨(step_command config _ i s.tick ⟨lock, other⟩).trans command, ?_⟩
      rw [footprint.state]
      · exact awake
      · cases site <;> first
          | rfl
          | (exfalso; simp [Local.fits, Local.begins, Local.holds, Local.serves, Local.cycles, stage] at fits)
    · refine ⟨(step_command config _ i s.tick (by simp)).trans fits.2, ?_⟩
      rw [footprint.state rfl]
      by_contra calm
      have none : s.tick.state ≠ .enabled ∧ s.tick.state ≠ .running ∧ s.tick.state ≠ .degraded := by
        refine ⟨?_, ?_, ?_⟩ <;>
          · intro state
            simp [show s.state = _ from state, SafetyState.commanding] at calm
      by_cases inactive : s.tick.arm.gravity.phase = .inactive
      · rw [checkStopGravity, if_pos inactive] at check
        cases check
      · rw [checkStopGravity, if_neg inactive, if_pos (.inr (.inr none))] at check
        cases check

/-- Another thread ends a state that commands with one of four sections. -/
theorem rests_other {config : RuntimeConfig} {t : Thread} {site : Site} {i : Input} {s : SafetyRuntime}
    (theirs : site.isLifecycle = false) (awake : s.state.commanding = true)
    (rests : (after config t site i s).state.commanding = false) :
    (∃ hold available, site = .enterFault hold available) ∨ site = .enterSafeStop ∨
      (∃ since mode commands, site = .safeHoldInstall since mode commands) ∨ site = .retryTimeout := by
  have footprint := after_footprint config t site i s
  have keeps (moves : (after config t site i s).state = s.state ∨
      s.state = .enabled ∧ (after config t site i s).state = .running ∨
      s.state = .running ∧ (after config t site i s).state = .degraded) : False := by
    obtain same | ⟨-, running⟩ | ⟨-, degraded⟩ := moves
    · simp [same, awake] at rests
    · simp [running, SafetyState.commanding] at rests
    · simp [degraded, SafetyState.commanding] at rests
  cases site with
  | enterFault hold available => exact .inl ⟨hold, available, rfl⟩
  | enterSafeStop => exact .inr (.inl rfl)
  | safeHoldInstall since mode commands => exact .inr (.inr (.inl ⟨since, mode, commands, rfl⟩))
  | retryTimeout => exact .inr (.inr (.inr rfl))
  | enterDegraded =>
    have state := state_enterDegraded s.tick
    change (after config t .enterDegraded i s).state = _ at state
    split_ifs at state with running
    · exact (keeps (.inr (.inr ⟨running, state⟩))).elim
    · exact (keeps (.inl state)).elim
  | cycleSent mode time frame =>
    have state := state_commitCycle s.tick mode time frame
    change (after config t (.cycleSent mode time frame) i s).state = _ at state
    split_ifs at state with starts
    · exact (keeps (.inr (.inl ⟨starts.2, state⟩))).elim
    · exact (keeps (.inl state)).elim
  | gripperSent time commands =>
    have state := state_commitGrippers s.tick time commands
    change (after config t (.gripperSent time commands) i s).state = _ at state
    split_ifs at state with starts
    · exact (keeps (.inr (.inl ⟨starts.2, state⟩))).elim
    · exact (keeps (.inl state)).elim
  | _ =>
    first
    | exact (keeps (.inl (footprint.state rfl))).elim
    | cases theirs

theorem parked_rests {config : RuntimeConfig} {t : Thread} {site : Site} {i : Input} {s : SafetyRuntime}
    {φ : Thread → Local} (locks : Locks s φ) (ordered : Ordered s φ) (fits : (φ t).fits t site)
    (permitted : site.abandons s = false) (theirs : site.isLifecycle = false)
    (awake : s.state.commanding = true) (rests : (after config t site i s).state.commanding = false) :
    (after config t site i s).arm.Quiet ∧
      (Function.update φ t ((φ t).step config site i s.tick) .worker).cycle = none := by
  have under (command : (φ t).command = true) (drops : ((φ t).step config site i s.tick).cycle = none) :
      (Function.update φ t ((φ t).step config site i s.tick) .worker).cycle = none := by
    by_cases worker : t = .worker
    · subst worker
      rw [Function.update_self]
      exact drops
    · rw [Function.update_of_ne (Ne.symm worker)]
      refine ordered.cycling .worker ?_
      by_contra held
      exact worker (locks.exclusive command (by simpa using held))
  obtain ⟨hold, available, rfl⟩ | rfl | ⟨since, mode, commands, rfl⟩ | rfl :=
    rests_other theirs awake rests
  · have cleared : (s.arm.terminateTrajectory .fault).clearMailboxes.releaseOwners.Quiet :=
      .cleared (by simp)
    refine ⟨?_, under fits.1 rfl⟩
    simp only [after, effect, SafetyRuntime.enterFault]
    split_ifs with disconnected
    · rw [show s.state = _ from disconnected] at awake
      cases awake
    · exact cleared
    · exact cleared
  · refine ⟨?_, under fits.2 ?_⟩
    · simp only [after, effect, SafetyRuntime.enterSafeStop]
      split_ifs with idle
      · rcases idle with idle | idle | idle <;> simp [show s.state = _ from idle, SafetyState.commanding] at awake
      · exact .cleared (by simp)
    · simp only [Local.step]
      split_ifs <;> rfl
  · refine ⟨?_, under fits.1.2 rfl⟩
    have state := state_enterSafeHold s.tick mode commands
    change (after config t (.safeHoldInstall since mode commands) i s).state = _ at state
    by_cases starts : s.tick.state = .running ∧ s.tick.progress.hasSuccessfulCommand ∧ s.tick.mode = mode
    · have isReleased : s.arm.Released := by
        obtain ⟨running, sent, same⟩ := starts
        simp only [Site.abandons, show s.state = _ from running, show s.progress.hasSuccessfulCommand = _ from sent,
          show s.mode = _ from same] at permitted
        simpa using permitted
      simp only [after, effect, enterSafeHold, if_pos starts]
      exact ⟨rfl, rfl, isReleased⟩
    · rw [if_neg starts] at state
      rw [state, state_tick, awake] at rests
      cases rests
  · obtain ⟨quiet, free⟩ : s.arm.Quiet ∧ s.commandOwner = none := by
      simpa [Site.abandons, awake] using permitted
    refine ⟨quiet, ?_⟩
    have idle : (φ .worker).cycle = none := by
      refine ordered.cycling .worker ?_
      by_contra held
      simp [(locks.1 .worker).mp (by simpa using held)] at free
    by_cases worker : t = .worker
    · subst worker
      rw [Function.update_self]
      exact idle
    · rw [Function.update_of_ne (Ne.symm worker)]
      exact idle

theorem parked_other {config : RuntimeConfig} {t : Thread} {site : Site} {i : Input} {s : SafetyRuntime}
    {φ : Thread → Local} (locks : Locks s φ) (ordered : Ordered s φ) (parked : Parked s φ)
    (fits : (φ t).fits t site) (other : t ≠ .lifecycle) (permitted : site.abandons s = false) :
    Parked (after config t site i s) (Function.update φ t ((φ t).step config site i s.tick)) := by
  have footprint := after_footprint config t site i s
  have theirs : site.isLifecycle = false := by
    by_contra owned
    exact other (lifecycle_of_fits fits (by simpa using owned))
  have cycle (idle : (φ .worker).cycle = none) (starts : t = .worker → site ≠ .cycleStart) :
      (Function.update φ t ((φ t).step config site i s.tick) .worker).cycle = none := by
    by_cases worker : t = .worker
    · subst worker
      rw [Function.update_self]
      exact (step_cycle config _ i s.tick (starts rfl)).elim id fun same => same.trans idle
    · rw [Function.update_of_ne (Ne.symm worker)]
      exact idle
  refine ⟨?_, ?_, ?_⟩
  · rw [Function.update_of_ne (Ne.symm other)]
    intro rests prepared
    cases calm : s.state.commanding with
    | false =>
      obtain ⟨quiet, idle⟩ := parked.quiet calm prepared
      refine ⟨quiet_after i fits calm (by rintro rfl; exact idle) quiet (commands_of_theirs theirs)
        (by rintro _ _ rfl; cases theirs) (by rintro _ rfl; cases theirs), ?_⟩
      by_cases starts : t = .worker ∧ site = .cycleStart
      · obtain ⟨rfl, rfl⟩ := starts
        rw [Function.update_self]
        exact cycleSnapshot_none (.inr calm)
      · exact cycle idle fun worker start => starts ⟨worker, start⟩
    | true => exact parked_rests locks ordered fits permitted theirs calm rests
  · rw [Function.update_of_ne (Ne.symm other)]
    intro preserveFault stage
    refine ended_after i ?_ (parked.ended preserveFault stage)
    obtain transition | calm := ordered.transacting (by rw [stage]; rfl)
    · simp [accepting, transition]
    · simp [accepting, calm]
  · rw [Function.update_of_ne (Ne.symm other)]
    intro stage
    obtain ⟨command, awake⟩ := parked.releasing stage
    refine ⟨command, ?_⟩
    have alone : (φ t).command = false := by
      by_contra theirs
      exact other (locks.exclusive (by simpa using theirs) command)
    by_contra rests
    obtain ⟨hold, available, rfl⟩ | rfl | ⟨since, mode, commands, rfl⟩ | rfl :=
      rests_other theirs awake (by simpa using rests)
    · simp [Local.fits, alone] at fits
    · simp [Local.fits, alone] at fits
    · simp [Local.fits, Local.serves, alone] at fits
    · have free : s.commandOwner = none := (by simpa [Site.abandons, awake] using permitted :
        s.arm.Quiet ∧ s.commandOwner = none).2
      simp [(locks.1 .lifecycle).mp command] at free

theorem parked_carried (config : RuntimeConfig) :
    Carried config (fun t site i s => parks t site i s = true) fun s φ =>
      (Locks s φ ∧ Ordered s φ) ∧ Parked s φ := by
  refine (Carried.under (ordered_carried config)).and
    ⟨fun _ _ => ⟨⟨rfl, rfl, rfl, rfl, by simp, rfl⟩, rfl⟩, nofun, nofun⟩ ?_
  intro t site i s φ ⟨locks, ordered⟩ parked _ fits permitted
  have clears : site.abandons s = false := by simpa [parks] using permitted
  by_cases own : t = .lifecycle
  · subst own
    exact parked_own locks ordered parked fits clears
  · exact parked_other locks ordered parked fits own clears

/-- With no lifecycle call in progress, nothing is left in `FAULT`, `SAFE_STOP`, `SAFE_HOLD`, `READY` and
`DISCONNECTED` that would move the arm. -/
def AtRest (c : Config Thread SafetyRuntime Input Site String) : Prop :=
  c.slots .lifecycle = none → c.shared.state.commanding = false → c.shared.arm.Quiet

/-- In every run in which no section leaves owners behind, a Runtime at rest has none. -/
theorem atRest_of_reach (config : RuntimeConfig) {c : Config Thread SafetyRuntime Input Site String}
    (reach : (runtime config).Reach (fun t site i s => parks t site i s = true) c) : AtRest c := by
  intro idle calm
  obtain ⟨φ, ⟨-, parked⟩, rests⟩ := (parked_carried config).reach reach
  obtain ⟨-, -, stage, recovery, -⟩ := rests .lifecycle idle
  refine (parked.quiet calm ?_).1
  rintro (⟨since, seeded⟩ | frozen | failing)
  · simp [stage] at seeded
  · simp [recovery] at frozen
  · simp [recovery] at failing

theorem atRest_of_reach_disabled :
    ∃ c, (runtime Scenario.config).Reach (fun t site i s => parks t site i s = true) c ∧
      (c.shared.arm.armGeneration = 1 ∧ c.shared.state = .ready) ∧ AtRest c := by
  obtain ⟨c, reach, seen⟩ := Machine.exists_reach_of_run (M := runtime Scenario.config) parks
    (fun s => (s.arm.armGeneration, s.state))
    (Scenario.partlyEnabled ++ Scenario.submitted .pv true ++
      Scenario.call .disable 12 (Scenario.powered 0))
    (fun _ _ _ _ passed => passed) (b := (1, .ready)) (by rfl)
  exact ⟨c, reach, by simpa using seen, atRest_of_reach Scenario.config reach⟩

/-- A power batch that disables every motor leaves the pending command in `READY`. -/
theorem batch_abandons :
    ∃ c, (runtime Scenario.config).Reach anySection c ∧ ¬ AtRest c := by
  obtain ⟨c, reach, seen⟩ := Machine.exists_config_of_run (M := runtime Scenario.config)
    (fun _ _ _ _ => true)
    (fun c => ((c.slots .lifecycle).isNone, c.shared.state, c.shared.arm.pending.valid))
    (Scenario.partlyEnabled ++ Scenario.submitted .pv true ++
      Scenario.call (.setMotorPowerBatch [1, 2] false) 16 (Scenario.powered 0))
    (fun _ _ _ _ _ => trivial) (b := (true, .ready, true)) (by rfl)
  simp only [Prod.mk.injEq, Option.isNone_iff_eq_none] at seen
  obtain ⟨idle, state, pending⟩ := seen
  refine ⟨c, reach, fun holds => ?_⟩
  have quiet := holds idle (by rw [state]; rfl)
  simp [quiet.2.1] at pending

end MotorDrive.Runtime
