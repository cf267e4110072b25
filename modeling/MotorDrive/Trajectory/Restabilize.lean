import MotorDrive.Trajectory.Bookkeeping
import MotorDrive.Trajectory.Ticks

/-!
# The time of a restabilization

A completed motion whose hold becomes unstable runs again, and its arrival timeout still counts from the start of the
motion.  The timeout comes no earlier than a whole arrival timeout after the flip exactly if the flip comes no later than
the scheduled end of the motion.
-/

namespace MotorDrive.Trajectory

open Validate

variable {K : Type} [Field K] [LinearOrder K]

/-! ## Schedules -/

/-- The approach of a motion ends within its reference, which takes time. -/
structure Scheduled (trajectory : TrajectoryControl K) : Prop where
  joints : trajectory.joints ≠ []
  segments : trajectory.segments ≠ []
  positive : 0 < trajectory.referenceDuration
  approach : trajectory.approachDuration ≤ trajectory.referenceDuration

/-- A motion that has completed does not wait at its approach, and its reference has an end to stand at. -/
structure Finished (trajectory : TrajectoryControl K) : Prop where
  final : trajectory.approachComplete = true ∨ trajectory.approachSegmentCount = 0 ∨
    trajectory.estimatedApproach < trajectory.approachDuration
  reached : trajectory.completesAt (max 0 trajectory.duration) = true

section Schedule

variable {first second : TrajectoryControl K}

theorem SamePlan.scheduled (same : SamePlan first second) (scheduled : Scheduled first) : Scheduled second := by
  refine ⟨?_, ?_, ?_, ?_⟩
  · rw [same.joints]
    exact scheduled.joints
  · rw [same.segments]
    exact scheduled.segments
  · rw [same.referenceDuration]
    exact scheduled.positive
  · rw [same.approachDuration, same.referenceDuration]
    exact scheduled.approach

theorem SamePlan.estimatedApproach (same : SamePlan first second) :
    second.estimatedApproach = first.estimatedApproach := by
  unfold TrajectoryControl.estimatedApproach
  rw [same.approachDeadline, same.approachDuration]

omit [Field K] in
theorem SamePlan.atApproachReference (same : SamePlan first second)
    (approach : second.approachComplete = first.approachComplete) (elapsed : K) :
    second.atApproachReference elapsed = first.atApproachReference elapsed := by
  unfold TrajectoryControl.atApproachReference
  rw [approach, same.approachSegmentCount, same.approachDuration, same.referenceDuration]

omit [Field K] in
theorem SamePlan.completesAt (same : SamePlan first second)
    (approach : second.approachComplete = first.approachComplete) (elapsed : K) :
    second.completesAt elapsed = first.completesAt elapsed := by
  unfold TrajectoryControl.completesAt
  rw [same.atApproachReference approach, same.referenceDuration, same.approachDuration]

theorem SamePlan.finished (same : SamePlan first second)
    (approach : second.approachComplete = first.approachComplete) (finished : Finished first) : Finished second := by
  refine ⟨?_, ?_⟩
  · rw [approach, same.approachSegmentCount, same.estimatedApproach, same.approachDuration]
    exact finished.final
  · rw [same.completesAt approach, same.duration]
    exact finished.reached

/-- A motion that goes on keeps its approach behind it. -/
theorem GoesOn.final (goes : GoesOn first second) (final : first.approachComplete = true ∨
    first.approachSegmentCount = 0 ∨ first.estimatedApproach < first.approachDuration) :
    second.approachComplete = true ∨ second.approachSegmentCount = 0 ∨
      second.estimatedApproach < second.approachDuration := by
  rw [goes.approachSegmentCount, goes.toSamePlan.estimatedApproach, goes.approachDuration]
  exact final.imp_left goes.approachComplete

/-- At an end of its reference a motion waits at its approach, or it never will. -/
theorem waitingAtApproach_iff {trajectory : TrajectoryControl K} {now : K} (scheduled : Scheduled trajectory)
    (running : trajectory.state ≠ .completed) (atEnd : AtEnd trajectory now) :
    trajectory.waitingAtApproach = false ↔ trajectory.approachComplete = true ∨
      trajectory.approachSegmentCount = 0 ∨ trajectory.estimatedApproach < trajectory.approachDuration := by
  have completes := completesAt_iff.mp atEnd.completes
  have elapsed := atEnd.elapsed
  unfold TrajectoryControl.waitingAtApproach
  rw [decide_eq_true running, Bool.true_and]
  cases complete : trajectory.approachComplete with
  | true => simp
  | false =>
    by_cases none : trajectory.approachSegmentCount = 0
    · simp [none]
    have open' : trajectory.atApproachReference (trajectory.wallElapsed now) = true ↔
        trajectory.approachDuration ≤ min (trajectory.wallElapsed now) trajectory.referenceDuration := by
      simp [TrajectoryControl.atApproachReference, complete, none]
    have reached : trajectory.approachDuration ≤ trajectory.wallElapsed now := by
      rcases completes with approach | final
      · exact (open'.mp approach).trans (min_le_left _ _)
      · exact scheduled.approach.trans final
    have approach := open'.mpr (le_min reached scheduled.approach)
    rw [TrajectoryControl.shownElapsed, if_pos approach] at elapsed
    rw [elapsed]
    simp [none, reached]

variable [IsStrictOrderedRing K] {arms : List Motor} {request : Request K} {plan : Plan K}

/-- The times of the waypoints increase. -/
theorem Planned.time_le (planned : Planned arms request plan) {j k : ℕ} {first second : Waypoint K} (le : j ≤ k)
    (at_j : request.preparedWaypoints[j]? = some first) (at_k : request.preparedWaypoints[k]? = some second) :
    first.time ≤ second.time := by
  obtain ⟨tracks, checked, -⟩ := planned.tracks
  induction k, le using Nat.le_induction generalizing second with
  | base =>
    cases at_j.symm.trans at_k
    exact le_rfl
  | succ k le ih =>
    have inside := (List.getElem?_eq_some_iff.mp at_k).1
    have before := List.getElem?_eq_getElem (Nat.lt_of_succ_lt inside)
    exact (ih before).trans (preparedWaypoints_increasing checked before at_k).le

theorem Planned.scheduled (planned : Planned arms request plan) (id : ℕ) :
    Scheduled (preparedTrajectory id request plan) := by
  have contiguous := planned.contiguous id
  have approach := planned.approach
  have count := planned.count
  have positive : 0 < plan.referenceDuration := by
    obtain ⟨bounds, -⟩ := reject_bind_eq_ok planned.schedule
    exact not_le.mp (not_or.mp bounds).1
  refine ⟨contiguous.joints, contiguous.segments, positive, ?_⟩
  change approachEnd plan.segments request.approachSegmentCount ≤ plan.referenceDuration
  unfold approachEnd
  split_ifs with none
  · exact positive.le
  · have inside : request.approachSegmentCount - 1 < plan.segments.length := by omega
    have found := List.getElem?_eq_getElem inside
    obtain ⟨first, second, -, at_next, made⟩ := planned.segment found
    obtain ⟨last, at_last⟩ : ∃ last, request.preparedWaypoints[plan.segments.length]? = some last :=
      ⟨_, List.getElem?_eq_getElem (by rw [length_preparedWaypoints]; omega)⟩
    have ends : plan.referenceDuration = last.time := by
      rw [planned.referenceDuration, List.getLast?_eq_getElem?, length_preparedWaypoints, ← count,
        Nat.add_sub_cancel, at_last]
      rfl
    rw [found, ends]
    change (plan.segments[request.approachSegmentCount - 1]).start +
      (plan.segments[request.approachSegmentCount - 1]).duration ≤ last.time
    rw [made.start, made.duration, add_sub_cancel]
    exact planned.time_le (by omega) at_next at_last

theorem Scheduled.rebind {trajectory : TrajectoryControl K} (scheduled : Scheduled trajectory) {approach : Segment K}
    (positive : 0 ≤ approach.duration) : Scheduled (trajectory.rebind approach) :=
  ⟨scheduled.joints, List.cons_ne_nil _ _, add_pos_of_pos_of_nonneg scheduled.positive positive,
    add_le_add_left scheduled.approach approach.duration⟩

end Schedule

/-! ## What a cycle makes of the active motion -/

/-- What a cycle makes of the active motion. -/
inductive Advances (s : Engine K) (now : K) : Engine K → Prop
  | kept (trajectory : TrajectoryControl K) (goes : GoesOn s.trajectoryControl trajectory)
      (state : trajectory.state = s.trajectoryControl.state)
      (approach : s.trajectoryControl.state = .completed →
        trajectory.approachComplete = s.trajectoryControl.approachComplete) :
      Advances s now { s with trajectoryControl := trajectory }
  | flipped (trajectory : TrajectoryControl K) (goes : GoesOn s.trajectoryControl trajectory)
      (completed : s.trajectoryControl.state = .completed) (running : trajectory.state = .running)
      (approach : trajectory.approachComplete = s.trajectoryControl.approachComplete) :
      Advances s now { s with trajectoryControl := trajectory }
  | terminated (trajectory : TrajectoryControl K) (goes : GoesOn s.trajectoryControl trajectory)
      (monitored : trajectory.state = .running ∨ trajectory.state = .completed) (ending : Ending) (error : String) :
      Advances s now (({ s with trajectoryControl := trajectory } : Engine K).terminate ending error)
  | completed (trajectory : TrajectoryControl K) (goes : GoesOn s.trajectoryControl trajectory)
      (running : s.trajectoryControl.state = .running) (state : trajectory.state = .completed)
      (finished : s.trajectoryQueue = [] → Scheduled s.trajectoryControl → Finished trajectory) :
      Advances s now (({ s with trajectoryControl := trajectory } : Engine K).activateNext now)

section Advance

variable {s : Engine K}

/-- A cycle that changes the active motion first. -/
theorem Advances.of_tracked {trajectory : TrajectoryControl K} {now : K} {s' : Engine K}
    (tracked : Tracked s.trajectoryControl trajectory)
    (advances : Advances ({ s with trajectoryControl := trajectory } : Engine K) now s') : Advances s now s' := by
  have goes := tracked.goesOn
  cases advances with
  | kept later goes' state approach =>
    refine .kept later (goes.trans goes') (state.trans tracked.state) fun completed => ?_
    exact (approach (tracked.state.trans completed)).trans tracked.approachComplete
  | flipped later goes' completed running approach =>
    exact .flipped later (goes.trans goes') (tracked.state.symm.trans completed) running
      (approach.trans tracked.approachComplete)
  | terminated later goes' monitored ending error => exact .terminated later (goes.trans goes') monitored ending error
  | completed later goes' running state finished =>
    exact .completed later (goes.trans goes') (tracked.state.symm.trans running) state fun empty scheduled =>
      finished empty (tracked.toSamePlan.scheduled scheduled)

omit [Field K] in
/-- The motion that has begun to settle is otherwise as it was. -/
theorem begun_goesOn (s : Engine K) (now : K) : GoesOn s.trajectoryControl (s.begun now).trajectoryControl :=
  goesOn_beginSettling s.trajectoryControl now

variable [IsStrictOrderedRing K] (roles : Motor → Option String)

omit [IsStrictOrderedRing K] in
/-- An update of a completed motion. -/
theorem advances_held (completed : s.trajectoryControl.state = .completed) (input : CycleInput K) :
    Advances s input.now (s.updateCompletion roles input).2 := by
  have begun := sameMotion_beginSettling s.trajectoryControl input.now
  have state : (s.begun input.now).trajectoryControl.state = .completed := begun.state.trans completed
  have goes := begun_goesOn s input.now
  have done := updates roles s input
  generalize s.updateCompletion roles input = result at done
  cases done with
  | unmonitored => exact .kept s.trajectoryControl (GoesOn.refl _) rfl fun _ => rfl
  | handoff next rest queue running handsOff => exact absurd (running.symm.trans completed) nofun
  | interrupted ending => exact .terminated _ goes (.inr state) ending _
  | settled =>
    have settled := settles (s.begun input.now) (s.seen roles input) input.now
    generalize (s.begun input.now).settle (s.seen roles input) input.now = result at settled
    cases settled with
    | changed other => exact .kept _ goes begun.state fun _ => begun.approachComplete
    | watched hold completed' same =>
      obtain ⟨watched, approach⟩ := watchHold_goesOn ((s.begun input.now).placed (s.seen roles input))
        (s.seen roles input) input.now
      have placed : GoesOn (s.begun input.now).trajectoryControl
          ((s.begun input.now).placed (s.seen roles input)) := ⟨by constructor <;> rfl, le_rfl, id⟩
      rcases (watchHold_cases ((s.begun input.now).placed (s.seen roles input)) input.now
        (s.seen roles input)).2 with kept | running
      · exact .kept _ ((goes.trans placed).trans watched) (kept.trans begun.state) fun _ =>
          approach.trans begun.approachComplete
      · exact .flipped _ ((goes.trans placed).trans watched) completed running
          (approach.trans begun.approachComplete)
    | approached hold running same arrives approach => exact absurd (running.symm.trans state) nofun
    | completed hold running same arrives final => exact absurd (running.symm.trans state) nofun
    | timedOut hold running same waits late => exact absurd (running.symm.trans state) nofun
    | waits hold running same waits inTime => exact absurd (running.symm.trans state) nofun

/-- An update of a running motion whose reference stands at an end. -/
theorem advances_ending (running : s.trajectoryControl.state = .running) (input : CycleInput K)
    (atEnd : AtEnd s.trajectoryControl input.now) : Advances s input.now (s.updateCompletion roles input).2 := by
  have begun := sameMotion_beginSettling s.trajectoryControl input.now
  have state : (s.begun input.now).trajectoryControl.state = .running := begun.state.trans running
  have goes := begun_goesOn s input.now
  have done := updates roles s input
  generalize s.updateCompletion roles input = result at done
  cases done with
  | unmonitored => exact .kept s.trajectoryControl (GoesOn.refl _) rfl fun _ => rfl
  | handoff next rest queue running' handsOff =>
    refine .completed _ ⟨by constructor <;> rfl, le_rfl, id⟩ running rfl fun empty => ?_
    exact absurd (queue.symm.trans empty) (List.cons_ne_nil _ _)
  | interrupted ending => exact .terminated _ goes (.inl state) ending _
  | settled =>
    have same := sameMotion_settled (s.begun input.now) (s.seen roles input) input.now
    have goes' := goes.trans (goesOn_settled (s.seen roles input) input.now (s.begun input.now))
    have settled := settles (s.begun input.now) (s.seen roles input) input.now
    generalize (s.begun input.now).settle (s.seen roles input) input.now = result at settled
    cases settled with
    | changed other => exact .kept _ goes begun.state fun _ => begun.approachComplete
    | watched hold completed same' => exact absurd (state.symm.trans completed) nofun
    | approached hold running' same' arrives approach =>
      exact .kept _ (goes'.trans (goesOn_completeApproach _ _)) (same.state.trans begun.state) fun completed =>
        absurd (running.symm.trans completed) nofun
    | completed hold running' same' arrives final =>
      refine .completed _ (goes'.trans (goesOn_complete _ _)) running rfl fun _ scheduled => ?_
      have open' : s.trajectoryControl.state ≠ .completed := running.symm ▸ nofun
      have waiting : s.trajectoryControl.waitingAtApproach = false := by
        refine Eq.trans ?_ final
        have seen : (s.seen roles input).waitingAtApproach =
          (s.trajectoryControl.beginSettling input.now).waitingAtApproach := rfl
        rw [seen]
        unfold TrajectoryControl.beginSettling
        split_ifs <;> rfl
      have finished : Finished s.trajectoryControl :=
        ⟨(waitingAtApproach_iff scheduled open' atEnd).mp waiting,
          completesAt_mono wallElapsed_le atEnd.completes⟩
      have plan := (begun.toSamePlan.trans same.toSamePlan).trans
        (samePlan_complete ((s.begun input.now).settled (s.seen roles input) input.now) (s.seen roles input))
      exact plan.finished (same.approachComplete.trans begun.approachComplete) finished
    | timedOut hold running' same' waits late =>
      exact .terminated _ goes' (.inl (same.state.trans state)) .fault _
    | waits hold running' same' waits inTime =>
      exact .kept _ goes' (same.state.trans begun.state) fun _ => same.approachComplete.trans begun.approachComplete

theorem advances_cycle (s : Engine K) (input : CycleInput K) : Advances s input.now (s.cycle roles input).2 := by
  have ticked := ticks roles s input
  generalize s.cycle roles input = result at ticked
  cases ticked with
  | idle stopped => exact .kept s.trajectoryControl (GoesOn.refl _) rfl fun _ => rfl
  | held completed => exact advances_held roles completed input
  | failed trajectory running tracked error =>
    exact .terminated trajectory tracked.goesOn (.inl (tracked.state.trans running)) .fault error
  | moving trajectory running tracked =>
    exact .kept trajectory tracked.goesOn tracked.state fun _ => tracked.approachComplete
  | ending trajectory running tracked atEnd =>
    have running' : ({ s with trajectoryControl := trajectory } : Engine K).trajectoryControl.state = .running :=
      tracked.state.trans running
    exact .of_tracked tracked (advances_ending roles running' input atEnd)

end Advance

/-! ## Orderly engines -/

/-- All motions are scheduled, a completed one has finished, and nothing waits behind a motion that does not run. -/
structure Engine.Orderly (s : Engine K) : Prop where
  waiting : s.trajectoryQueue ≠ [] → s.trajectoryControl.state = .running
  queued : ∀ motion ∈ s.trajectoryQueue, Scheduled motion
  active : s.trajectoryControl.state = .running ∨ s.trajectoryControl.state = .completed →
    Scheduled s.trajectoryControl
  finished : s.trajectoryControl.state = .completed → Finished s.trajectoryControl

section Orderly

variable {s : Engine K}

theorem orderly_of_stopped (empty : s.trajectoryQueue = [])
    (stopped : s.trajectoryControl.state ≠ .running ∧ s.trajectoryControl.state ≠ .completed) : s.Orderly := by
  refine ⟨fun some => absurd empty some, fun motion member => ?_, fun monitored => ?_, fun completed => ?_⟩
  · rw [empty] at member
    exact absurd member List.not_mem_nil
  · exact absurd monitored (not_or.mpr stopped)
  · exact absurd completed stopped.2

theorem orderly_initial (mode : ControlMode) : (Engine.initial mode : Engine K).Orderly :=
  orderly_of_stopped rfl ⟨nofun, nofun⟩

theorem orderly_terminate (s : Engine K) (ending : Ending) (error : String) : (s.terminate ending error).Orderly := by
  refine orderly_of_stopped rfl ?_
  rw [terminate_trajectoryControl]
  by_cases monitored : s.trajectoryControl.state = .running ∨ s.trajectoryControl.state = .completed
  · rw [terminate_state monitored]
    cases ending <;> exact ⟨nofun, nofun⟩
  · rw [TrajectoryControl.terminate, if_neg monitored]
    exact not_or.mp monitored

/-- A motion becomes active. -/
theorem Engine.Orderly.activate {trajectory : TrajectoryControl K} (scheduled : Scheduled trajectory)
    (queued : ∀ motion ∈ s.trajectoryQueue, Scheduled motion) (now : K) : (s.activate trajectory now).Orderly :=
  ⟨fun _ => rfl, queued, fun _ => (samePlan_activate s trajectory now).scheduled scheduled, nofun⟩

variable [IsStrictOrderedRing K]

theorem Engine.Orderly.start (orderly : s.Orderly) {arms : List Motor} {request : Request K} {replace : ℕ}
    {enqueue : Bool} {conditions : StartConditions K} {now : K} :
    (s.startTrajectory arms request replace enqueue conditions now).2.Orderly := by
  cases answer : s.startTrajectory arms request replace enqueue conditions now with
  | mk result after =>
  cases result with
  | error error =>
    rcases startTrajectory_error answer with rfl | rfl
    · exact orderly
    · exact ⟨orderly.waiting, orderly.queued, orderly.active, orderly.finished⟩
  | ok id =>
    obtain ⟨plan, started⟩ := started_of_ok answer
    have scheduled := (planned_of_ok started.planned).scheduled s.nextMotionId
    rw [started.after]
    unfold Engine.install
    by_cases running : s.trajectoryControl.state = .running
    · cases enqueue with
      | true =>
        rw [if_pos ⟨rfl, running⟩]
        refine ⟨fun _ => running, fun motion member => ?_, orderly.active, orderly.finished⟩
        rcases List.mem_append.mp member with earlier | new
        · exact orderly.queued motion earlier
        · rw [List.mem_singleton.mp new]
          exact scheduled
      | false =>
        rw [if_neg (fun both => absurd both.1 nofun), if_pos running]
        exact Engine.Orderly.activate (s := { s with nextMotionId := s.nextMotionId + 1 }) scheduled orderly.queued now
    · rw [if_neg (fun both => running both.2), if_neg running]
      refine Engine.Orderly.activate scheduled (fun motion member => ?_) now
      rw [archive_trajectoryQueue] at member
      exact orderly.queued motion member

omit [IsStrictOrderedRing K] in
theorem Engine.Orderly.dequeue (orderly : s.Orderly) {queue : List (TrajectoryControl K)} {index : ℕ}
    {queued : TrajectoryControl K} (waiting : s.trajectoryQueue ≠ [])
    (scheduled : ∀ motion ∈ queue, Scheduled motion) :
    (({ s with trajectoryQueue := queue } : Engine K).dequeue index queued).Orderly := by
  have control : (({ s with trajectoryQueue := queue } : Engine K).dequeue index queued).trajectoryControl =
      s.trajectoryControl := archive_trajectoryControl _ _
  refine ⟨fun _ => ?_, fun motion member => scheduled motion (List.mem_of_mem_eraseIdx member), ?_, ?_⟩
  · rw [control]
    exact orderly.waiting waiting
  · rw [control]
    exact orderly.active
  · rw [control]
    exact orderly.finished

theorem Engine.Orderly.cancelMotion (orderly : s.Orderly) (sqrt : K → K) (id : ℕ) :
    (s.cancelMotion sqrt id).2.Orderly := by
  have done := cancels sqrt s id
  generalize s.cancelMotion sqrt id = result at done
  have waiting {index : ℕ} {queued : TrajectoryControl K} (found : s.trajectoryQueue[index]? = some queued) :
      s.trajectoryQueue ≠ [] := List.ne_nil_of_mem (List.mem_of_getElem? found)
  cases done with
  | refused error => exact orderly
  | ended => exact orderly
  | active running same => exact orderly_terminate s _ _
  | last index queued found last => exact orderly.dequeue (waiting found) orderly.queued
  | detached index queued successor rebound found next ok =>
    refine orderly.dequeue (waiting found) fun motion member => ?_
    rcases List.mem_or_eq_of_mem_set member with old | rfl
    · exact orderly.queued motion old
    · obtain ⟨sample, first, rest, -, -, -, -, rfl⟩ := detach_eq_ok ok
      exact (orderly.queued successor (List.mem_of_getElem? next)).rebind approachSegmentDuration_pos.le

theorem Engine.Orderly.cycle (orderly : s.Orderly) (roles : Motor → Option String) (input : CycleInput K) :
    (s.cycle roles input).2.Orderly := by
  have advances := advances_cycle roles s input
  have runs : s.trajectoryQueue ≠ [] → (s.cycle roles input).2.trajectoryQueue = [] ∨
      (s.cycle roles input).2.trajectoryControl.state = .running := fun waiting =>
    running_cycle roles (orderly.waiting waiting) waiting input
  generalize (s.cycle roles input).2 = after at advances runs
  cases advances with
  | kept trajectory goes state approach =>
    refine ⟨fun waiting => (runs waiting).resolve_left waiting, orderly.queued, fun monitored => ?_, fun completed => ?_⟩
    · exact goes.toSamePlan.scheduled (orderly.active (state ▸ monitored))
    · have before := state.symm.trans completed
      exact goes.toSamePlan.finished (approach before) (orderly.finished before)
  | flipped trajectory goes completed running approach =>
    refine ⟨fun _ => running, orderly.queued, fun _ => ?_, fun completed' => absurd (running.symm.trans completed') nofun⟩
    exact goes.toSamePlan.scheduled (orderly.active (.inr completed))
  | terminated trajectory goes monitored ending error => exact orderly_terminate _ ending error
  | completed trajectory goes running state finished =>
    have scheduled := orderly.active (.inl running)
    unfold Engine.activateNext
    cases queue : s.trajectoryQueue with
    | nil =>
      refine ⟨fun some => absurd rfl some, fun motion member => absurd member List.not_mem_nil, fun _ => ?_,
        fun _ => ?_⟩
      · exact goes.toSamePlan.scheduled scheduled
      · exact finished queue scheduled
    | cons next rest =>
      have queued := orderly.queued
      rw [queue] at queued
      exact Engine.Orderly.activate (queued next List.mem_cons_self)
        (fun motion member => queued motion (List.mem_cons_of_mem _ member)) _

theorem orderly_step (arms : List Motor) (roles : Motor → Option String) (sqrt : K → K) (orderly : s.Orderly)
    (event : Event K) : (step arms roles sqrt s event).1.Orderly := by
  cases event with
  | start request replace enqueue conditions now => exact orderly.start
  | cancel id => exact orderly.cancelMotion sqrt id
  | cancelAll => exact orderly_terminate s _ _
  | terminate ending error => exact orderly_terminate s _ _
  | power mode disabled =>
    have terminated := orderly_terminate s .cancelled "trajectory cancelled by a motor power change"
    exact ⟨terminated.waiting, terminated.queued, terminated.active, terminated.finished⟩
  | cycle input => exact orderly.cycle roles input

theorem orderly_final (arms : List Motor) (roles : Motor → Option String) (sqrt : K → K) (mode : ControlMode)
    (events : List (Event K)) : (final arms roles sqrt mode events).Orderly := by
  refine History.history_induction (H := fun _ m => m.Orderly) (step arms roles sqrt) (orderly_initial mode) ?_ events
  exact fun _ m event orderly => orderly_step arms roles sqrt orderly event

end Orderly

/-! ## A motion that goes on -/

/-- A motion that is not queued has a property as long as it is active. -/
structure Keeps (id : ℕ) (P : TrajectoryControl K → Prop) (s : Engine K) : Prop where
  older : id < s.nextMotionId
  queue : ∀ motion ∈ s.trajectoryQueue, motion.id ≠ id
  active : s.trajectoryControl.id = id → P s.trajectoryControl

section Keep

variable {id : ℕ} {P : TrajectoryControl K → Prop} {s : Engine K}

theorem Keeps.terminate (keeps : Keeps id P s) (stable : ∀ {first second}, GoesOn first second → P first → P second)
    (ending : Ending) (error : String) : Keeps id P (s.terminate ending error) := by
  refine ⟨?_, fun motion member => absurd member List.not_mem_nil, fun same => ?_⟩
  · rw [terminate_nextMotionId]
    exact keeps.older
  · rw [terminate_trajectoryControl] at same ⊢
    exact stable (goesOn_terminate _ ending error) (keeps.active ((terminate_id _ ending error).symm.trans same))

omit [LinearOrder K] in
/-- Another motion becomes active. -/
theorem Keeps.activate (keeps : Keeps id P s) {trajectory : TrajectoryControl K} (other : trajectory.id ≠ id)
    (now : K) : Keeps id P (s.activate trajectory now) :=
  ⟨keeps.older, keeps.queue, fun same => absurd same other⟩

/-- The first queued motion takes over. -/
theorem Keeps.activateNext (keeps : Keeps id P s) (now : K) : Keeps id P (s.activateNext now) := by
  unfold Engine.activateNext
  cases queue : s.trajectoryQueue with
  | nil => exact keeps
  | cons next rest =>
    have queued := keeps.queue
    rw [queue] at queued
    refine Keeps.activate ⟨?_, fun motion member => queued motion (List.mem_cons_of_mem _ member), ?_⟩
      (queued next List.mem_cons_self) now
    · change id < (s.archive s.trajectoryControl).nextMotionId
      rw [archive_nextMotionId]
      exact keeps.older
    · change (s.archive s.trajectoryControl).trajectoryControl.id = id →
        P (s.archive s.trajectoryControl).trajectoryControl
      rw [archive_trajectoryControl]
      exact keeps.active

theorem Keeps.dequeue (keeps : Keeps id P s) {queue : List (TrajectoryControl K)} {index : ℕ}
    {queued : TrajectoryControl K} (others : ∀ motion ∈ queue, motion.id ≠ id) :
    Keeps id P (({ s with trajectoryQueue := queue } : Engine K).dequeue index queued) := by
  refine ⟨?_, fun motion member => others motion (List.mem_of_mem_eraseIdx member), ?_⟩
  · have counter : (({ s with trajectoryQueue := queue } : Engine K).dequeue index queued).nextMotionId =
        s.nextMotionId := archive_nextMotionId _ _
    rw [counter]
    exact keeps.older
  · have control : (({ s with trajectoryQueue := queue } : Engine K).dequeue index queued).trajectoryControl =
        s.trajectoryControl := archive_trajectoryControl _ _
    rw [control]
    exact keeps.active

variable [IsStrictOrderedRing K] (arms : List Motor) (roles : Motor → Option String) (sqrt : K → K)

/-- A motion that goes on keeps what every such motion keeps. -/
theorem Keeps.step (keeps : Keeps id P s) (stable : ∀ {first second}, GoesOn first second → P first → P second)
    (event : Event K) : Keeps id P (step arms roles sqrt s event).1 := by
  cases event with
  | start request replace enqueue conditions now =>
    change Keeps id P (s.startTrajectory arms request replace enqueue conditions now).2
    cases answer : s.startTrajectory arms request replace enqueue conditions now with
    | mk result after =>
    cases result with
    | error error =>
      rcases startTrajectory_error answer with rfl | rfl
      · exact keeps
      · exact ⟨Nat.lt_succ_of_lt keeps.older, keeps.queue, keeps.active⟩
    | ok started =>
      obtain ⟨plan, started⟩ := started_of_ok answer
      have counted : Keeps id P ({ s with nextMotionId := s.nextMotionId + 1 } : Engine K) :=
        ⟨Nat.lt_succ_of_lt keeps.older, keeps.queue, keeps.active⟩
      have other : (preparedTrajectory s.nextMotionId request plan).id ≠ id := keeps.older.ne'
      rw [started.after]
      unfold Engine.install
      split_ifs
      · refine ⟨counted.older, fun motion member => ?_, counted.active⟩
        rcases List.mem_append.mp member with earlier | new
        · exact keeps.queue motion earlier
        · rw [List.mem_singleton.mp new]
          exact other
      · exact counted.activate other now
      · refine Keeps.activate ⟨?_, ?_, ?_⟩ other now
        · rw [archive_nextMotionId]
          exact counted.older
        · rw [archive_trajectoryQueue]
          exact counted.queue
        · rw [archive_trajectoryControl]
          exact counted.active
  | cancel removed =>
    change Keeps id P (s.cancelMotion sqrt removed).2
    have done := cancels sqrt s removed
    generalize s.cancelMotion sqrt removed = result at done
    cases done with
    | refused error => exact keeps
    | ended => exact keeps
    | active running same => exact keeps.terminate stable _ _
    | last index queued found last => exact keeps.dequeue keeps.queue
    | detached index queued successor rebound found next ok =>
      refine keeps.dequeue fun motion member => ?_
      rcases List.mem_or_eq_of_mem_set member with old | rfl
      · exact keeps.queue motion old
      · obtain ⟨sample, first, rest, -, -, -, -, rfl⟩ := detach_eq_ok ok
        exact keeps.queue successor (List.mem_of_getElem? next)
  | cancelAll => exact keeps.terminate stable _ _
  | terminate ending error => exact keeps.terminate stable ending error
  | power mode disabled =>
    have terminated := keeps.terminate stable .cancelled "trajectory cancelled by a motor power change"
    exact ⟨terminated.older, terminated.queue, terminated.active⟩
  | cycle input =>
    have advances := advances_cycle roles s input
    change Keeps id P (s.cycle roles input).2
    generalize (s.cycle roles input).2 = after at advances
    have moved {trajectory : TrajectoryControl K} (goes : GoesOn s.trajectoryControl trajectory) :
        Keeps id P ({ s with trajectoryControl := trajectory } : Engine K) :=
      ⟨keeps.older, keeps.queue, fun same => stable goes (keeps.active (goes.id.symm.trans same))⟩
    cases advances with
    | kept trajectory goes state approach => exact moved goes
    | flipped trajectory goes completed running approach => exact moved goes
    | terminated trajectory goes monitored ending error => exact (moved goes).terminate stable ending error
    | completed trajectory goes running state finished => exact (moved goes).activateNext input.now

/-- In a run it keeps it too. -/
theorem Keeps.run (keeps : Keeps id P s) (stable : ∀ {first second}, GoesOn first second → P first → P second)
    (events : List (Event K)) : ∀ e ∈ History.run (MotorDrive.Trajectory.step arms roles sqrt) s events,
      Keeps id P e.before := by
  induction events generalizing s with
  | nil => exact fun e member => absurd member List.not_mem_nil
  | cons event events ih =>
    intro e member
    rcases List.mem_cons.mp member with rfl | later
    · exact keeps
    · exact ih (keeps.step arms roles sqrt stable event) e later

end Keep

/-! ## Flips and timeouts -/

/-- The monitor sends a completed motion back at an instant, because its hold has become unstable. -/
def Flips (e : Entry K) (t : K) : Prop :=
  ∃ input seen, e.call = .cycle input ∧ input.now = t ∧ e.answer = .cycled .unstable seen

/-- The arrival timeout ends the active motion at an instant. -/
def TimesOut (e : Entry K) (t : K) : Prop :=
  ∃ input seen, e.call = .cycle input ∧ input.now = t ∧ e.answer = .cycled .timedOut seen

/-- However the run goes on, the arrival timeout does not end the active motion before a whole arrival timeout after the
instant. -/
def Granted (arms : List Motor) (roles : Motor → Option String) (sqrt : K → K) (s : Engine K) (t : K) : Prop :=
  ∀ later, ∀ e ∈ History.run (step arms roles sqrt) s later, ∀ t', TimesOut e t' →
    e.before.trajectoryControl.id = s.trajectoryControl.id →
      t + arrivalTimeout s.trajectoryControl.duration ≤ t'

/-- The motion waits for its tracking error to fall. -/
def Engine.Paused (s : Engine K) : Prop :=
  s.trajectoryControl.feedbackScaled s.mode = true ∧ s.trajectoryControl.trackingFeedbackValid = true ∧
    trackingPauseError ≤ s.trajectoryControl.trackingPositionError

section Flip

variable {s : Engine K} {trajectory : TrajectoryControl K} {seen : Seen K} {now : K}

/-- What the flip makes of a completed motion. -/
structure Flipped (trajectory flipped : TrajectoryControl K) (now : K) : Prop extends GoesOn trajectory flipped where
  running : flipped.state = .running
  settling : flipped.settlingStartedAt = some now
  approach : flipped.approachComplete = trajectory.approachComplete
  start : flipped.startedAt = trajectory.startedAt
  valid : flipped.trackingFeedbackValid = trajectory.trackingFeedbackValid
  error : flipped.trackingPositionError = trajectory.trackingPositionError

theorem flipped_of_unstable : (trajectory.watchHold seen now).1 = .unstable →
    seen.hasActiveJoint = true ∧ Flipped trajectory (trajectory.watchHold seen now).2 now := by
  unfold TrajectoryControl.watchHold
  simp only
  split_ifs with unseen stable
  · exact nofun
  · exact nofun
  · rw [Bool.or_eq_true, not_or, Bool.not_eq_true', Bool.not_eq_false] at unseen
    split
    · exact nofun
    · split_ifs
      · exact nofun
      · exact fun _ => ⟨unseen.1, ⟨by constructor <;> rfl, le_rfl, id⟩, rfl, rfl, rfl, rfl, rfl, rfl⟩

theorem view_intentionallyDisabled (o : Observation K) (feedback : Motor → MotorFeedback K) (index : ℕ)
    (arrival : Arrival K) : (o.view feedback index arrival).intentionallyDisabled = arrival.intentionallyDisabled := by
  unfold Observation.view
  simp only
  split_ifs with disabled unusable
  · exact disabled.symm
  · exact (Bool.eq_false_iff.mpr disabled).symm
  · exact (Bool.eq_false_iff.mpr disabled).symm

/-- Some joint of the motion is not disabled. -/
theorem hasActiveJoint_iff (roles : Motor → Option String) (s : Engine K) (trajectory : TrajectoryControl K)
    (feedback : Motor → MotorFeedback K) (verdict : Bool) :
    ((s.observation roles trajectory).see feedback verdict).hasActiveJoint = true ↔
      ∃ joint ∈ trajectory.joints, joint.motor ∉ s.intentionallyDisabled := by
  unfold Seen.hasActiveJoint Observation.see
  simp only [List.any_eq_true, List.mem_mapIdx, Bool.not_eq_true']
  constructor
  · rintro ⟨view, ⟨index, inside, rfl⟩, active⟩
    rw [view_intentionallyDisabled] at active
    simp only [Engine.observation, List.getElem_mapIdx, decide_eq_false_iff_not] at active
    exact ⟨_, List.getElem_mem _, active⟩
  · rintro ⟨joint, member, active⟩
    obtain ⟨index, inside, rfl⟩ := List.getElem_of_mem member
    refine ⟨_, ⟨index, ?_, rfl⟩, ?_⟩
    · simpa [Engine.observation] using inside
    · rw [view_intentionallyDisabled]
      simpa [Engine.observation] using active

/-- An active joint without usable feedback has not arrived. -/
theorem not_arrived_of_blind (roles : Motor → Option String) {feedback : Motor → MotorFeedback K}
    (blind : ∀ motor, (feedback motor).usable = false) {verdict : Bool}
    (active : ∃ joint ∈ trajectory.joints, joint.motor ∉ s.intentionallyDisabled) :
    ((s.observation roles trajectory).see feedback verdict).allPositionsArrived = false := by
  obtain ⟨joint, member, active⟩ := active
  obtain ⟨index, inside, rfl⟩ := List.getElem_of_mem member
  unfold Seen.allPositionsArrived Observation.see
  refine List.all_eq_false.mpr ⟨_, List.mem_mapIdx.mpr ⟨index, ?_, rfl⟩, ?_⟩
  · simpa [Engine.observation] using inside
  · simp [Observation.view, Engine.observation, active, blind]

omit [Field K] [LinearOrder K] in
theorem beginSettling_completed (completed : trajectory.state = .completed) (now : K) :
    trajectory.beginSettling now = trajectory := if_neg fun both => both.1 completed

omit [Field K] in
theorem waitingAtApproach_beginSettling (trajectory : TrajectoryControl K) (now : K) :
    (trajectory.beginSettling now).waitingAtApproach = trajectory.waitingAtApproach := by
  unfold TrajectoryControl.beginSettling
  split_ifs <;> rfl

/-- The update hands over, or its second section decides about a running motion at an end or about a completed one. -/
inductive Concludes (roles : Motor → Option String) (s : Engine K) (input : CycleInput K) :
    (Outcome × Option (Seen K)) × Engine K → Prop
  | handoff (trajectory : TrajectoryControl K) (running : s.trajectoryControl.state = .running)
      (tracked : Tracked s.trajectoryControl trajectory) (next : TrajectoryControl K)
      (rest : List (TrajectoryControl K)) (queue : s.trajectoryQueue = next :: rest)
      (handsOff : trajectory.handsOffTo next = true) (measured : trajectory = s.measured input) :
      Concludes roles s input ((.handoff, none), ({ s with trajectoryControl := { trajectory with
        state := .completed, elapsed := trajectory.duration, error := "" } } : Engine K).activateNext input.now)
  | running (trajectory : TrajectoryControl K) (running : s.trajectoryControl.state = .running)
      (tracked : Tracked s.trajectoryControl trajectory) (atEnd : AtEnd trajectory input.now) (begun : Engine K)
      (begun_eq : begun = ({ s with trajectoryControl := trajectory } : Engine K).begun input.now) (seen : Seen K)
      (seen_eq : seen = ({ s with trajectoryControl := trajectory } : Engine K).seen roles input) :
      Concludes roles s input (((begun.settle seen input.now).1, some seen), (begun.settle seen input.now).2)
  | completed (completed : s.trajectoryControl.state = .completed) (seen : Seen K)
      (seen_eq : seen = (s.observation roles s.trajectoryControl).see input.feedback input.verdict) :
      Concludes roles s input (((s.settle seen input.now).1, some seen), (s.settle seen input.now).2)

variable [IsStrictOrderedRing K] (roles : Motor → Option String) {input : CycleInput K}

/-- A cycle that does more than wait. -/
theorem concludes (busy : (s.cycle roles input).1.1 ≠ .waiting) : Concludes roles s input (s.cycle roles input) := by
  have ticked := ticks roles s input
  generalize s.cycle roles input = result at ticked busy ⊢
  cases ticked with
  | idle stopped => exact absurd rfl busy
  | failed trajectory running tracked error => exact absurd rfl busy
  | moving trajectory running tracked => exact absurd rfl busy
  | ending trajectory running tracked atEnd measured =>
    have done := updates roles ({ s with trajectoryControl := trajectory } : Engine K) input
    generalize ({ s with trajectoryControl := trajectory } : Engine K).updateCompletion roles input = result
      at done busy ⊢
    cases done with
    | unmonitored => exact absurd rfl busy
    | handoff next rest queue running' handsOff =>
      exact .handoff trajectory running tracked next rest queue handsOff measured
    | interrupted ending => exact absurd rfl busy
    | settled => exact .running trajectory running tracked atEnd _ rfl _ rfl
  | held completed =>
    have begun : s.begun input.now = s := by
      unfold Engine.begun
      rw [beginSettling_completed completed]
    have seen : s.seen roles input = (s.observation roles s.trajectoryControl).see input.feedback input.verdict := by
      unfold Engine.seen
      rw [beginSettling_completed completed]
    have done := updates roles s input
    generalize s.updateCompletion roles input = result at done busy ⊢
    cases done with
    | unmonitored => exact absurd rfl busy
    | handoff next rest queue running handsOff => exact absurd (running.symm.trans completed) nofun
    | interrupted ending => exact absurd rfl busy
    | settled =>
      rw [begun]
      exact .completed completed _ seen

/-- A cycle that finds a hold unstable. -/
theorem flipped_of_cycle (unstable : (s.cycle roles input).1.1 = .unstable) :
    ∃ flipped, s.trajectoryControl.state = .completed ∧
      (s.cycle roles input).2 = { s with trajectoryControl := flipped } ∧
      Flipped s.trajectoryControl flipped input.now ∧
      ∃ joint ∈ s.trajectoryControl.joints, joint.motor ∉ s.intentionallyDisabled := by
  have concluded : Concludes roles s input (s.cycle roles input) := concludes roles (unstable.symm ▸ nofun)
  generalize s.cycle roles input = result at concluded unstable ⊢
  cases concluded with
  | handoff trajectory running tracked next rest queue handsOff => cases unstable
  | running trajectory running tracked atEnd begun begun_eq seen seen_eq =>
    have state : begun.trajectoryControl.state = .running := begun_eq ▸
      ((sameMotion_beginSettling trajectory input.now).state.trans tracked.state).trans running
    have settled := settles begun seen input.now
    generalize begun.settle seen input.now = result at settled unstable
    cases settled with
    | watched hold completed same => exact absurd (state.symm.trans completed) nofun
    | _ => cases unstable
  | completed completed seen seen_eq =>
    have settled := settles s seen input.now
    generalize s.settle seen input.now = result at settled unstable ⊢
    cases settled with
    | watched hold completed' same =>
      obtain ⟨active, flipped⟩ := flipped_of_unstable unstable
      refine ⟨_, completed, rfl, ⟨⟨?_, flipped.startedAt, flipped.approachComplete⟩, flipped.running,
        flipped.settling, flipped.approach, flipped.start, flipped.valid, flipped.error⟩, ?_⟩
      · exact (sameMotion_placed s seen).toSamePlan.trans flipped.toSamePlan
      · rw [seen_eq] at active
        exact (hasActiveJoint_iff roles s s.trajectoryControl input.feedback input.verdict).mp active
    | _ => cases unstable

omit [IsStrictOrderedRing K] in
/-- The watch over a hold waits, or finds it unstable. -/
theorem watchHold_outcome (trajectory : TrajectoryControl K) (seen : Seen K) (now : K) :
    (trajectory.watchHold seen now).1 = .waiting ∨ (trajectory.watchHold seen now).1 = .unstable := by
  unfold TrajectoryControl.watchHold
  simp only
  split_ifs
  · exact .inl rfl
  · exact .inl rfl
  · split
    · exact .inl rfl
    · split_ifs
      · exact .inl rfl
      · exact .inr rfl

/-- A cycle that times the active motion out. -/
theorem timedOut_of_cycle (late : (s.cycle roles input).1.1 = .timedOut) :
    ∃ trajectory, s.trajectoryControl.state = .running ∧ Tracked s.trajectoryControl trajectory ∧
      AtEnd trajectory input.now ∧ (if trajectory.waitingAtApproach then trajectory.estimatedApproach
        else trajectory.duration) + arrivalTimeout trajectory.duration ≤ input.now - trajectory.startedAt := by
  have concluded : Concludes roles s input (s.cycle roles input) := concludes roles (late.symm ▸ nofun)
  generalize s.cycle roles input = result at concluded late
  cases concluded with
  | handoff trajectory running tracked next rest queue handsOff => cases late
  | completed completed seen seen_eq =>
    have settled := settles s seen input.now
    generalize s.settle seen input.now = result at settled late
    cases settled with
    | watched hold completed' same =>
      rcases watchHold_outcome (s.placed seen) seen input.now with waiting | unstable
      · exact absurd (waiting.symm.trans late) nofun
      · exact absurd (unstable.symm.trans late) nofun
    | timedOut hold running same waits late' => exact absurd (running.symm.trans completed) nofun
    | _ => cases late
  | running trajectory running tracked atEnd begun begun_eq seen seen_eq =>
    refine ⟨trajectory, running, tracked, atEnd, ?_⟩
    have state : begun.trajectoryControl.state = .running := begun_eq ▸
      ((sameMotion_beginSettling trajectory input.now).state.trans tracked.state).trans running
    have settled := settles begun seen input.now
    generalize begun.settle seen input.now = result at settled late
    cases settled with
    | watched hold completed same => exact absurd (state.symm.trans completed) nofun
    | timedOut hold running' same waits late' =>
      subst begun_eq seen_eq
      set found : Engine K := { s with trajectoryControl := trajectory } with found_eq
      have begins : SameMotion trajectory (found.begun input.now).trajectoryControl :=
        sameMotion_beginSettling trajectory input.now
      have plan := begins.toSamePlan.trans
        (sameMotion_settled (found.begun input.now) (found.seen roles input) input.now).toSamePlan
      have start : ((found.begun input.now).settled (found.seen roles input) input.now).startedAt =
          trajectory.startedAt :=
        (startedAt_settled _ input.now (found.begun input.now)).trans (startedAt_beginSettling trajectory input.now)
      have approach : (found.seen roles input).waitingAtApproach = trajectory.waitingAtApproach :=
        waitingAtApproach_beginSettling trajectory input.now
      rwa [TrajectoryControl.arrivalTimedOut, decide_eq_true_eq, approach, plan.estimatedApproach, plan.duration,
        start] at late'
    | _ => cases late

end Flip

/-! ## The time that is left -/

section Left

variable [IsStrictOrderedRing K] {arms : List Motor} {roles : Motor → Option String} {sqrt : K → K} {s : Engine K}
  {input : CycleInput K}

/-- A motion whose arrival timeout comes no earlier than a whole timeout after an instant. -/
structure Timely (t duration : K) (trajectory : TrajectoryControl K) : Prop where
  scheduled : Scheduled trajectory
  final : trajectory.approachComplete = true ∨ trajectory.approachSegmentCount = 0 ∨
    trajectory.estimatedApproach < trajectory.approachDuration
  same : trajectory.duration = duration
  late : t ≤ trajectory.startedAt + duration

theorem Timely.goesOn {t duration : K} {first second : TrajectoryControl K}
    (goes : GoesOn first second) (timely : Timely t duration first) : Timely t duration second :=
  ⟨goes.toSamePlan.scheduled timely.scheduled, goes.final timely.final, goes.duration.trans timely.same,
    timely.late.trans (add_le_add_left goes.startedAt duration)⟩

/-- A timely motion is timed out in time only. -/
theorem Timely.timesOut {t duration : K} (timely : Timely t duration s.trajectoryControl)
    (late : (s.cycle roles input).1.1 = .timedOut) : t + arrivalTimeout duration ≤ input.now := by
  obtain ⟨trajectory, running, tracked, atEnd, passed⟩ := timedOut_of_cycle roles late
  have kept := timely.goesOn tracked.goesOn
  have state : trajectory.state ≠ .completed := by
    rw [tracked.state, running]
    exact nofun
  have approach := (waitingAtApproach_iff kept.scheduled state atEnd).mpr kept.final
  rw [approach, if_neg Bool.false_ne_true, kept.same] at passed
  have late := kept.late
  linarith

/-- A flip that comes no later than the scheduled end leaves the whole arrival timeout. -/
theorem granted_of_early {flipped : TrajectoryControl K} {t : K}
    (older : flipped.id < s.nextMotionId) (empty : s.trajectoryQueue = [])
    (timely : Timely t flipped.duration flipped) :
    Granted arms roles sqrt { s with trajectoryControl := flipped } t := by
  intro later e member t' timesOut same
  have keeps : Keeps flipped.id (Timely t flipped.duration) ({ s with trajectoryControl := flipped } : Engine K) := by
    refine ⟨older, fun motion member => ?_, fun _ => timely⟩
    change motion ∈ s.trajectoryQueue at member
    rw [empty] at member
    exact absurd member List.not_mem_nil
  have kept := (keeps.run arms roles sqrt Timely.goesOn later e member).active same
  obtain ⟨m, event, rfl⟩ := History.exists_entry_of_mem _ member
  obtain ⟨input, seen, called, rfl, answered⟩ := timesOut
  obtain rfl : event = .cycle input := called
  have late : (_ : Engine K).cycle roles input |>.1.1 = .timedOut := (Reply.cycled.inj answered).1
  exact kept.timesOut late

/-! ### A cycle that comes too early -/

/-- The input of a cycle without feedback. -/
def blindInput (now : K) : CycleInput K where
  now := now
  sent := true
  trackingError := 0
  trackingValid := false
  feedback := fun _ => ⟨false, 0, 0, 0, 0⟩
  verdict := false
  interruption := none

/-- The scale of a motion that does not wait for its tracking error. -/
theorem trackingScale_unpaused {trajectory : TrajectoryControl K}
    (unpaused : ¬ (trajectory.trackingFeedbackValid = true ∧ trackingPauseError ≤ trajectory.trackingPositionError)) :
    (if trajectory.trackingFeedbackValid then trackingScale trajectory.trackingPositionError else 1) = 1 ∧
      ∀ now, trajectory.trackingLost now = false := by
  unfold TrajectoryControl.trackingLost trackingScale
  cases valid : trajectory.trackingFeedbackValid with
  | false => exact ⟨if_neg nofun, fun now => rfl⟩
  | true =>
    have small : ¬ trackingPauseError ≤ trajectory.trackingPositionError := fun large => unpaused ⟨valid, large⟩
    rw [if_pos rfl, if_neg small, decide_eq_false (not_le.mpr zero_lt_one)]
    exact ⟨rfl, fun now => rfl⟩

theorem startedAt_pauseTracking {trajectory : TrajectoryControl K}
    (unpaused : ¬ (trajectory.trackingFeedbackValid = true ∧ trackingPauseError ≤ trajectory.trackingPositionError))
    (now : K) : (trajectory.pauseTracking now).startedAt = trajectory.startedAt := by
  unfold TrajectoryControl.pauseTracking
  simp only [(trackingScale_unpaused unpaused).1]
  rw [if_neg (not_le.mpr (zero_lt_one' K)), if_neg (fun both => lt_irrefl (1 : K) both.2.1)]

/-- A motion that is not paused keeps its start. -/
theorem prepareCycle_unpaused (running : s.trajectoryControl.state = .running)
    (joints : s.trajectoryControl.joints ≠ []) (segments : s.trajectoryControl.segments ≠ [])
    (unpaused : ¬ s.Paused) (now : K) : ∃ trajectory, Tracked s.trajectoryControl trajectory ∧
      trajectory.startedAt = s.trajectoryControl.startedAt ∧ s.prepareCycle now =
        (.active (trajectory.advance now).2, { s with trajectoryControl := (trajectory.advance now).1 }) := by
  unfold Engine.prepareCycle
  simp only [running]
  rw [if_neg (not_or.mpr ⟨segments, joints⟩)]
  by_cases scaled : s.trajectoryControl.feedbackScaled s.mode = true
  · have tracking := fun both => unpaused ⟨scaled, both⟩
    rw [if_pos scaled, if_neg ((trackingScale_unpaused tracking).2 now ▸ nofun)]
    exact ⟨_, tracked_pauseTracking s.trajectoryControl now, startedAt_pauseTracking tracking now, rfl⟩
  · rw [if_neg scaled]
    refine ⟨_, ?_, ?_, rfl⟩
    · exact ⟨⟨by constructor <;> rfl, running.symm, rfl⟩, le_rfl, rfl, rfl, rfl, rfl, rfl, rfl, rfl⟩
    · rfl

omit [Field K] [LinearOrder K] [IsStrictOrderedRing K] in
theorem allPositionsArrived_of_allArrived {seen : Seen K} (arrived : seen.allArrived = true) :
    seen.allPositionsArrived = true := by
  refine List.all_eq_true.mpr fun view member => ?_
  have both := List.all_eq_true.mp arrived view member
  rw [Bool.and_eq_true] at both
  exact both.1

omit [IsStrictOrderedRing K] in
/-- The second section times a running motion out that has not arrived. -/
theorem settle_timedOut {seen : Seen K} {now : K} (running : s.trajectoryControl.state = .running)
    (watched : seen.monitoringCompletedHold = false) (same : seen.motionId = s.trajectoryControl.id)
    (active : seen.hasActiveJoint = true) (blind : seen.allPositionsArrived = false)
    (approach : seen.waitingAtApproach = false)
    (late : s.trajectoryControl.duration + arrivalTimeout s.trajectoryControl.duration ≤
      now - s.trajectoryControl.startedAt) : (s.settle seen now).1 = .timedOut := by
  have away : s.arrives seen now = false := by
    rw [Engine.arrives, if_pos active, TrajectoryControl.hasArrived]
    refine Bool.and_eq_false_imp.mpr fun _ => ?_
    split_ifs
    · rw [blind]
      rfl
    · exact Bool.eq_false_iff.mpr fun arrived => by
        rw [allPositionsArrived_of_allArrived arrived] at blind
        cases blind
  have spent : (s.settled seen now).arrivalTimedOut seen now = true := by
    have plan := sameMotion_settled s seen now
    rw [TrajectoryControl.arrivalTimedOut, decide_eq_true_eq, approach, if_neg Bool.false_ne_true, plan.duration,
      startedAt_settled]
    exact late
  have settled := settles s seen now
  generalize s.settle seen now = result at settled
  cases settled with
  | changed other =>
    rw [watched, if_neg Bool.false_ne_true] at other
    exact absurd other (not_or.mpr ⟨not_not.mpr running, not_not.mpr same.symm⟩)
  | watched hold completed same => exact absurd (watched.symm.trans hold) nofun
  | approached hold running same arrives approach => exact absurd (away.symm.trans arrives) nofun
  | completed hold running same arrives final => exact absurd (away.symm.trans arrives) nofun
  | timedOut hold running same waits late => rfl
  | waits hold running same waits inTime => exact absurd (spent.symm.trans inTime) nofun

/-- A running motion without feedback is timed out where its time is over. -/
theorem blind_timedOut (running : s.trajectoryControl.state = .running) (empty : s.trajectoryQueue = [])
    (scheduled : Scheduled s.trajectoryControl) (finished : Finished s.trajectoryControl) (unpaused : ¬ s.Paused)
    (active : ∃ joint ∈ s.trajectoryControl.joints, joint.motor ∉ s.intentionallyDisabled) {now : K}
    (late : s.trajectoryControl.duration + arrivalTimeout s.trajectoryControl.duration ≤
      now - s.trajectoryControl.startedAt) : (s.cycle roles (blindInput now)).1.1 = .timedOut := by
  obtain ⟨prepared, tracked, start, preparing⟩ :=
    prepareCycle_unpaused running scheduled.joints scheduled.segments unpaused now
  obtain ⟨trajectory, recording, recorded, start', atEnd⟩ := recordTracking_atEnd
    ({ s with trajectoryControl := (prepared.advance now).1 } : Engine K) 0 false
  have patience : 0 ≤ arrivalTimeout s.trajectoryControl.duration := (by norm_num : (0 : K) ≤ 4).trans (le_max_left _ _)
  have whole : prepared.wallElapsed now = max 0 s.trajectoryControl.duration := by
    unfold TrajectoryControl.wallElapsed
    rw [start, tracked.duration, min_eq_right (by linarith)]
  have completing : (prepared.advance now).2 = true := by
    rw [advance_snd, whole, tracked.completesAt tracked.approachComplete]
    exact finished.reached
  have goes := (tracked.trans (tracked_advance prepared now)).trans recorded
  have ends : AtEnd trajectory now := atEnd now ⟨completing, rfl⟩
  have cycled : s.cycle roles (blindInput now) =
      ({ s with trajectoryControl := trajectory } : Engine K).updateCompletion roles (blindInput now) := by
    unfold Engine.cycle
    simp only [blindInput, preparing, completing, recording]
    rfl
  set found : Engine K := { s with trajectoryControl := trajectory } with found_eq
  have state : trajectory.state = .running := goes.state.trans running
  have begins : SameMotion trajectory (trajectory.beginSettling now) := sameMotion_beginSettling trajectory now
  have update : found.updateCompletion roles (blindInput now) =
      ((((found.begun now).settle (found.seen roles (blindInput now)) now).1, some (found.seen roles (blindInput now))),
        ((found.begun now).settle (found.seen roles (blindInput now)) now).2) := by
    unfold Engine.updateCompletion
    simp only
    rw [if_neg, if_neg]
    · rfl
    · change ¬ (s.trajectoryQueue.head?.any _ = true)
      rw [empty]
      exact nofun
    · rw [not_or, not_and_or, not_not]
      exact ⟨.inl state, goes.toSamePlan.scheduled scheduled |>.segments⟩
  have lively : ∃ joint ∈ (trajectory.beginSettling now).joints, joint.motor ∉ s.intentionallyDisabled := by
    rw [begins.joints, goes.joints]
    exact active
  rw [cycled, update]
  refine settle_timedOut ?_ ?_ ?_ ?_ ?_ ?_ ?_
  · exact begins.state.trans state
  · change decide ((trajectory.beginSettling now).state = .completed) = false
    rw [begins.state, state]
    rfl
  · rfl
  · exact (hasActiveJoint_iff roles found _ _ _).mpr lively
  · exact not_arrived_of_blind roles (fun _ => rfl) lively
  · refine (waitingAtApproach_beginSettling trajectory now).trans ?_
    have open' : trajectory.state ≠ .completed := state.symm ▸ nofun
    exact (waitingAtApproach_iff (goes.toSamePlan.scheduled scheduled) open' ends).mpr
      (goes.goesOn.final finished.final)
  · change (trajectory.beginSettling now).duration + arrivalTimeout (trajectory.beginSettling now).duration ≤
      now - (trajectory.beginSettling now).startedAt
    rw [begins.duration, goes.duration, startedAt_beginSettling, start']
    change s.trajectoryControl.duration + _ ≤ now - prepared.startedAt
    rwa [start]

end Left

/-! ## Runs -/

section Runs

variable [IsStrictOrderedRing K] (arms : List Motor) (roles : Motor → Option String) (sqrt : K → K)
  (mode : ControlMode) (events : List (Event K))

omit [IsStrictOrderedRing K] in
/-- The active motion of a run has an id that is taken. -/
theorem id_lt_nextMotionId (busy : (final arms roles sqrt mode events).trajectoryControl.state ≠ .idle) :
    (final arms roles sqrt mode events).trajectoryControl.id <
      (final arms roles sqrt mode events).nextMotionId := by
  obtain ⟨ended, -, -, accounts⟩ := exists_archived arms roles sqrt mode events
  have accounted := accounts events.length le_rfl
  rw [List.take_length] at accounted
  have numbered := accounted.wellFormed.numbered busy
  have live : (final arms roles sqrt mode events).trajectoryControl.id ∈ (final arms roles sqrt mode events).live := by
    rw [accounted.wellFormed.live_eq_cons numbered]
    exact List.mem_cons_self
  exact (accounted.below _ (accounted.conserved.mem_iff.mpr (List.mem_append_left _ live))).2

omit [IsStrictOrderedRing K] in
theorem Flipped.paused {s : Engine K} {flipped : TrajectoryControl K} {now : K}
    (flip : Flipped s.trajectoryControl flipped now)
    (paused : ({ s with trajectoryControl := flipped } : Engine K).Paused) : s.Paused := by
  obtain ⟨scaled, valid, large⟩ := paused
  refine ⟨?_, flip.valid.symm.trans valid, flip.error ▸ large⟩
  unfold TrajectoryControl.feedbackScaled at scaled ⊢
  rw [flip.operation, flip.execution, flip.approach] at scaled
  exact scaled

variable {arms roles sqrt mode events}

/-- A completed motion whose hold becomes unstable gets its whole arrival timeout if the flip comes no later than its
scheduled end, and, unless it waits for its tracking error, only then. -/
theorem restabilization_iff {e : Entry K} (member : e ∈ run arms roles sqrt mode events) {t : K} (flips : Flips e t) :
    (t ≤ e.before.trajectoryControl.startedAt + e.before.trajectoryControl.duration →
      Granted arms roles sqrt e.after t) ∧
    (¬ e.before.Paused → Granted arms roles sqrt e.after t →
      t ≤ e.before.trajectoryControl.startedAt + e.before.trajectoryControl.duration) := by
  obtain ⟨older, newer, split⟩ := List.append_of_mem member
  obtain ⟨earlier, event, later, -, -, rfl⟩ := History.run_split (step arms roles sqrt) split
  obtain ⟨input, seen, called, rfl, answered⟩ := flips
  obtain rfl : event = .cycle input := called
  have orderly := orderly_final arms roles sqrt mode earlier
  have older := id_lt_nextMotionId arms roles sqrt mode earlier
  change (final arms roles sqrt mode earlier).Orderly at orderly
  set s := final arms roles sqrt mode earlier with s_eq
  have unstable : (s.cycle roles input).1.1 = .unstable := (Reply.cycled.inj answered).1
  obtain ⟨flipped, completed, after, flip, active⟩ := flipped_of_cycle roles unstable
  have older : flipped.id < s.nextMotionId := flip.id.trans_lt (older (completed.symm ▸ nofun))
  have empty : s.trajectoryQueue = [] := by
    by_contra waiting
    exact absurd ((orderly.waiting waiting).symm.trans completed) nofun
  have scheduled := flip.toSamePlan.scheduled (orderly.active (.inr completed))
  have finished := flip.toSamePlan.finished flip.approach (orderly.finished completed)
  change (input.now ≤ s.trajectoryControl.startedAt + s.trajectoryControl.duration →
      Granted arms roles sqrt (s.cycle roles input).2 input.now) ∧ (¬ s.Paused →
    Granted arms roles sqrt (s.cycle roles input).2 input.now →
      input.now ≤ s.trajectoryControl.startedAt + s.trajectoryControl.duration)
  rw [after, ← flip.start, ← flip.duration]
  refine ⟨fun early => granted_of_early older empty ⟨scheduled, finished.final, rfl, early⟩, fun unpaused granted => ?_⟩
  by_contra late
  have positive : 0 < arrivalTimeout flipped.duration := (by norm_num : (0 : K) < 4).trans_le (le_max_left _ _)
  set now := max input.now (flipped.startedAt + flipped.duration + arrivalTimeout flipped.duration) with now_eq
  have spent : flipped.duration + arrivalTimeout flipped.duration ≤ now - flipped.startedAt := by
    have reached := le_max_right input.now (flipped.startedAt + flipped.duration + arrivalTimeout flipped.duration)
    rw [← now_eq] at reached
    linarith
  have unqueued : ({ s with trajectoryControl := flipped } : Engine K).trajectoryQueue = [] := empty
  have timedOut : (({ s with trajectoryControl := flipped } : Engine K).cycle roles (blindInput now)).1.1 = .timedOut :=
    blind_timedOut flip.running unqueued scheduled finished (fun paused => unpaused (flip.paused paused))
      (flip.joints ▸ active) spent
  have promised := granted [.cycle (blindInput now)] _ List.mem_cons_self now
    ⟨blindInput now, _, rfl, rfl, congrArg (Reply.cycled · _) timedOut⟩ rfl
  rcases max_cases input.now (flipped.startedAt + flipped.duration + arrivalTimeout flipped.duration) with
    ⟨same, -⟩ | ⟨same, -⟩ <;> rw [now_eq, same] at promised
  · linarith
  · exact late (by linarith)

end Runs

/-! ### A disturbance of a long hold -/

section Disturbed

/-- A cycle with new feedback of the only joint, which stands still. -/
def cycleAt (now position : ℚ) (update : ℕ) : Event ℚ :=
  .cycle ⟨now, true, 0, true, fun _ => ⟨true, update, 1, position, 0⟩, true, none⟩

/-- A motion of one second that is completed after 1.2 s, and is pushed away after 20 s. -/
def disturbed : List (Event ℚ) :=
  [.start (moveRequest 0 (1 / 2)) 0 false (ready 0 0) 0, cycleAt 1 (1 / 2) 1, cycleAt (6 / 5) (1 / 2) 2,
    cycleAt 20 (3 / 5) 3, cycleAt (1003 / 50) (3 / 5) 4]

/-- The state in which the last cycle finds the hold unstable. -/
def disturbedHold : Engine ℚ := final [7] (fun _ => none) id .pv (disturbed.take 4)

/-- The cycle that finds the hold unstable. -/
def disturbance : Entry ℚ :=
  History.entry (step [7] (fun _ => none) id) disturbedHold (cycleAt (1003 / 50) (3 / 5) 4)

theorem disturbance_mem : disturbance ∈ run [7] (fun _ => none) id .pv disturbed :=
  List.mem_of_getElem? (i := 4) rfl

theorem disturbance_flips : Flips disturbance (1003 / 50) := by
  refine ⟨_, _, rfl, rfl, congrArg (Reply.cycled · _) ?_⟩
  decide +kernel

theorem restabilization_iff_disturbed : Granted [7] (fun _ => none) id disturbance.after (1003 / 50) ↔
    (1003 / 50 : ℚ) ≤ disturbance.before.trajectoryControl.startedAt + disturbance.before.trajectoryControl.duration := by
  obtain ⟨enough, needed⟩ := restabilization_iff disturbance_mem disturbance_flips
  refine ⟨needed fun paused => absurd paused.1 ?_, enough⟩
  decide +kernel

/-- The next cycle, a hundredth of a second later, times the motion out. -/
theorem disturbed_timedOut : disturbance ∈ run [7] (fun _ => none) id .pv disturbed ∧
    Flips disturbance (1003 / 50) ∧ ¬ Granted [7] (fun _ => none) id disturbance.after (1003 / 50) := by
  refine ⟨disturbance_mem, disturbance_flips, fun granted => ?_⟩
  have early := granted [cycleAt (2007 / 100) (3 / 5) 5] _ List.mem_cons_self (2007 / 100)
    ⟨_, _, rfl, rfl, congrArg (Reply.cycled · _) (by decide +kernel)⟩ rfl
  revert early
  decide +kernel

end Disturbed

end MotorDrive.Trajectory
