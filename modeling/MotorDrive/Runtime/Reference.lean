import MotorDrive.Runtime.State

/-!
# The reference clock of a trajectory

`start_trajectory`, `activate_trajectory_locked`, `prepare_trajectory_cycle` and
`update_trajectory_completion` of `runtime_trajectory.cpp`, as far as they decide at which reference time
a cycle samples the segments of the active trajectory.  Instants are ticks of the steady clock, one
nanosecond each.  A number of seconds is a `double` in the source and a rational number here, so that
arithmetic is exact; `duration_cast` truncates to a tick.  What the arrival checks find about the joints is
input.  The run of a trajectory ends when another one takes its place.

`referenceClock_of_run` says how the reference times of a run follow each other.
-/

namespace MotorDrive.Runtime

/-- `std::chrono::duration<double>(…).count()`. -/
def seconds (ticks : ℤ) : ℚ := ticks / 1000000000

/-- `std::chrono::duration_cast<Clock::duration>`.  The fractions are exact; with a `double` in between the shift of a
pause can lose a tick. -/
def ticks (seconds : ℚ) : ℤ :=
  if 0 ≤ seconds then ⌊seconds * 1000000000⌋ else ⌈seconds * 1000000000⌉

/-- `std::clamp`. -/
def clamp (value low high : ℚ) : ℚ :=
  if value < low then low else if high < value then high else value

/-! ## Accepted trajectories -/

/-- `kLimitTolerance`. -/
def kLimitTolerance : ℚ := 1 / 1000000

/-- `kNativeMaximumTrajectoryWaypoints`. -/
def kNativeMaximumTrajectoryWaypoints : ℕ := 30000

/-- The timing of a `NativeTrajectoryRequest`; an unset deadline is 0. -/
structure TrajectoryRequest where
  waypoints : List ℚ
  approachSegmentCount : ℕ := 0
  approachDeadlineS : ℚ := 0
  completionDeadlineS : ℚ := 0
  cartesian : Bool := false
  trajectoryPv : Bool := false

/-- The durations that `start_trajectory` stores.  `cartesian` is `native_cartesian_operation` of the
operation and `trajectoryPv` its execution. -/
structure TrajectoryTiming where
  durationS : ℚ
  referenceDurationS : ℚ
  approachSegmentCount : ℕ
  approachDurationS : ℚ
  approachDeadlineS : ℚ
  cartesian : Bool
  trajectoryPv : Bool
  nonneg : 0 ≤ durationS
  approach_le : approachDurationS ≤ referenceDurationS

namespace TrajectoryRequest

variable (request : TrajectoryRequest)

/-- The timestamps after `time_s -= time_origin`. -/
def times : List ℚ := request.waypoints.map fun time => time - request.waypoints.headD 0

/-- `start_s` and `duration_s` of the segments. -/
def segments : List (ℚ × ℚ) :=
  List.zipWith (fun start stop => (start, stop - start)) request.times request.times.tail

def referenceDurationS : ℚ := request.times.getLastD 0

def durationS : ℚ :=
  if 0 < request.completionDeadlineS then request.completionDeadlineS else request.referenceDurationS

def approachDurationS : ℚ :=
  if request.approachSegmentCount = 0 then 0
  else
    let segment := request.segments[request.approachSegmentCount - 1]?.getD (0, 0)
    segment.1 + segment.2

theorem le_getLastD {times : List ℚ} {time : ℚ} (sorted : times.Pairwise (· < ·)) (found : time ∈ times)
    (default : ℚ) : time ≤ times.getLastD default := by
  induction times using List.reverseRecOn with
  | nil => cases found
  | append_singleton earlier last _ =>
    rw [List.getLastD_concat]
    rcases List.mem_append.mp found with before | here
    · exact ((List.pairwise_append.mp sorted).2.2 _ before _ (List.mem_singleton_self _)).le
    · rw [List.mem_singleton.mp here]

/-- A segment ends at a timestamp. -/
theorem end_mem_times {segment : ℚ × ℚ} (found : segment ∈ request.segments) :
    segment.1 + segment.2 ∈ request.times := by
  obtain ⟨n, inside, rfl⟩ := List.getElem_of_mem found
  simp only [segments, List.getElem_zipWith, List.getElem_tail, add_sub_cancel]
  exact List.getElem_mem _

theorem approachDurationS_le (sorted : request.waypoints.IsChain (· < ·))
    (positive : 0 ≤ request.referenceDurationS) :
    request.approachDurationS ≤ request.referenceDurationS := by
  have sortedTimes : request.times.Pairwise (· < ·) := by
    rw [times, List.pairwise_map]
    exact (List.isChain_iff_pairwise.mp sorted).imp fun less => sub_lt_sub_right less _
  unfold approachDurationS
  split_ifs with none
  · exact positive
  · cases found : request.segments[request.approachSegmentCount - 1]? with
    | none => simpa using positive
    | some segment =>
      exact le_getLastD sortedTimes (request.end_mem_times (List.mem_of_getElem? found)) 0

/-- The checks of `start_trajectory` on the timing. -/
def timing : Except String TrajectoryTiming :=
  if request.waypoints.length < 2 ∨ kNativeMaximumTrajectoryWaypoints < request.waypoints.length then
    .error "trajectory waypoint count is below 2 or exceeds native capacity"
  else if request.waypoints.length ≤ request.approachSegmentCount then
    .error "trajectory approach segment count is invalid"
  else if request.waypoints.headD 0 < 0 then
    .error "trajectory first timestamp must be finite and non-negative"
  else if unsorted : ¬ request.waypoints.IsChain (· < ·) then
    .error "trajectory timestamps must be finite and strictly increasing"
  else if positive : request.referenceDurationS ≤ 0 ∨ 3600 < request.referenceDurationS then
    .error "trajectory duration must be positive and no greater than one hour"
  else if request.durationS + kLimitTolerance < request.referenceDurationS ∨ 3600 < request.durationS then
    .error "trajectory estimated completion time must be finite, no earlier than the last reference, and no greater than one hour"
  else if request.approachDeadlineS ≠ 0 ∧
      (request.approachDeadlineS ≤ 0 ∨ request.durationS ≤ request.approachDeadlineS) then
    .error "trajectory estimated approach time must be finite and inside the estimated total time"
  else if request.approachSegmentCount ≠ 0 ∧ request.approachDeadlineS ≠ 0 ∧
      request.approachDeadlineS + kLimitTolerance < request.approachDurationS then
    .error "trajectory estimated approach time is earlier than its final approach reference"
  else .ok {
    durationS := request.durationS
    referenceDurationS := request.referenceDurationS
    approachSegmentCount := request.approachSegmentCount
    approachDurationS := request.approachDurationS
    approachDeadlineS := request.approachDeadlineS
    cartesian := request.cartesian
    trajectoryPv := request.trajectoryPv
    nonneg := by
      rw [not_or, not_le] at positive
      rw [durationS]
      split_ifs with deadline
      · exact deadline.le
      · exact positive.1.le
    approach_le := by
      rw [not_or, not_le] at positive
      exact request.approachDurationS_le (not_not.mp unsorted) positive.1.le }

end TrajectoryRequest

/-- The estimated approach time: `approach_deadline_s` where it is set. -/
def TrajectoryTiming.estimatedApproachS (timing : TrajectoryTiming) : ℚ :=
  if 0 < timing.approachDeadlineS then timing.approachDeadlineS else timing.approachDurationS

/-! ## The active trajectory -/

/-- `kNativeCartesianTrackingPauseError`. -/
def kNativeCartesianTrackingPauseError : ℚ := 60 / 1000

/-- `kNativeCartesianTrackingPauseTimeout`. -/
def kNativeCartesianTrackingPauseTimeout : ℤ := 1000000000

/-- `native_cartesian_tracking_scale`. -/
def nativeCartesianTrackingScale (positionError : ℚ) : ℚ :=
  if kNativeCartesianTrackingPauseError ≤ positionError then 0 else 1

/-- The fields of the active `TrajectoryControl` that the reference time depends on. -/
structure TrajectoryClock where
  timing : TrajectoryTiming
  startedAt : ℤ
  trackingUpdatedAt : ℤ
  approachComplete : Bool
  state : MotionState := .running
  elapsedS : ℚ := 0
  trackingPauseStartedAt : Option ℤ := none
  trackingTimeScale : ℚ := 1
  trackingFeedbackValid : Bool := false
  trackingPositionError : ℚ := 0

/-- `activate_trajectory_locked`. -/
def TrajectoryTiming.activate (timing : TrajectoryTiming) (now : ℤ) : TrajectoryClock :=
  { timing, startedAt := now, trackingUpdatedAt := now
    approachComplete := timing.approachSegmentCount = 0 }

/-- A cycle: its instant, whether the mode is PV, whether its frame was sent, whether
the tracking feedback is valid, the tracking error, and what the arrival checks find. -/
structure CycleInput where
  now : ℤ
  pv : Bool := true
  sent : Bool := true
  trackingValid : Bool := false
  trackingError : ℚ := 0
  arrived : Bool := false
  unstable : Bool := false

/-- What a cycle samples: its instant, the reference time, the unclamped time since the start, whether the
approach was confirmed and whether the tracking pause was active. -/
structure Sample where
  now : ℤ
  reference : ℚ
  wall : ℚ
  confirmed : Bool
  paused : Bool
  deriving DecidableEq

/-- `elapsed` of `prepare_trajectory_cycle`, from the time since the start. -/
def TrajectoryTiming.elapsed (timing : TrajectoryTiming) (wall : ℚ) : ℚ :=
  min (clamp wall 0 timing.durationS) timing.referenceDurationS

/-- `at_approach_reference`. -/
def TrajectoryTiming.atApproach (timing : TrajectoryTiming) (confirmed : Bool) (wall : ℚ) : Prop :=
  confirmed = false ∧ timing.approachSegmentCount ≠ 0 ∧ timing.approachDurationS ≤ timing.elapsed wall

instance (timing : TrajectoryTiming) (confirmed : Bool) (wall : ℚ) :
    Decidable (timing.atApproach confirmed wall) :=
  inferInstanceAs (Decidable (_ ∧ _ ∧ _))

/-- `sample_elapsed`: the reference time. -/
def TrajectoryTiming.reference (timing : TrajectoryTiming) (confirmed : Bool) (wall : ℚ) : ℚ :=
  if timing.atApproach confirmed wall then timing.approachDurationS else timing.elapsed wall

namespace TrajectoryClock

variable (c : TrajectoryClock) (now : ℤ)

/-- The time since the start. -/
def wall : ℚ := seconds (now - c.startedAt)

/-- `feedback_scaled_cartesian_trajectory`. -/
def scaled (pv : Bool) : Bool :=
  pv && c.timing.cartesian && !c.timing.trajectoryPv && c.approachComplete

/-- `target_scale`. -/
def targetScale : ℚ :=
  if c.trackingFeedbackValid then nativeCartesianTrackingScale c.trackingPositionError else 1

/-- The tracking pause has timed out. -/
def pauseExpired : Bool :=
  c.trackingPauseStartedAt.any fun since => kNativeCartesianTrackingPauseTimeout ≤ now - since

/-- `tracking_dt`. -/
def trackingDt : ℚ := max 0 (seconds (now - c.trackingUpdatedAt))

/-- The start is shifted by what the tracking scale takes away. -/
def shift (scale : ℚ) : ℤ :=
  if 0 < c.trackingDt now ∧ scale < 1 ∧ c.timing.referenceDurationS = c.timing.durationS then
    ticks (c.trackingDt now * (1 - scale))
  else 0

/-- The part of `prepare_trajectory_cycle` before the sample; `false` is the error of a pause that has
timed out. -/
def track (pv : Bool) : Bool × TrajectoryClock :=
  if c.scaled pv then
    if c.targetScale ≤ 0 then
      if c.pauseExpired now then (false, { c with trackingTimeScale := 0 })
      else (true, { c with
        startedAt := c.startedAt + c.shift now 0
        trackingUpdatedAt := now
        trackingTimeScale := 0
        trackingPauseStartedAt := some (c.trackingPauseStartedAt.getD now) })
    else (true, { c with
      trackingUpdatedAt := now
      trackingTimeScale := 1
      trackingPauseStartedAt := none })
  else (true, { c with
    trackingUpdatedAt := now
    trackingTimeScale := 1
    trackingPauseStartedAt := none })

/-- The sample of `prepare_trajectory_cycle`. -/
def sample : Sample :=
  ⟨now, c.timing.reference c.approachComplete (c.wall now), c.wall now, c.approachComplete,
    c.trackingTimeScale = 0⟩

/-- `elapsed_s` after the sample. -/
def sampledElapsed : ℚ :=
  if c.timing.atApproach c.approachComplete (c.wall now) then
    min (clamp (c.wall now) 0 c.timing.durationS) c.timing.estimatedApproachS
  else clamp (c.wall now) 0 c.timing.durationS

/-- `completing`: the sample is at a settling reference. -/
def completing : Bool :=
  c.timing.atApproach c.approachComplete (c.wall now) ∨
    c.timing.referenceDurationS ≤ c.timing.reference c.approachComplete (c.wall now)

/-- `prepare_trajectory_cycle`: what it samples, if it does, and whether the worker checks the arrival;
`none` is an error. -/
def prepare (pv : Bool) : Option (Option Sample × Bool) × TrajectoryClock :=
  if c.state = .completed then (some (none, true), c)
  else if c.state ≠ .running then (some (none, false), c)
  else
    let (tracked, c) := c.track now pv
    if tracked then
      (some (some (c.sample now), c.completing now), { c with elapsedS := c.sampledElapsed now })
    else (none, c)

/-- The tracking error that `run_arm_control_cycle` stores after its send. -/
def storeTracking (i : CycleInput) : TrajectoryClock :=
  if i.pv && c.state = .running && c.timing.cartesian && c.approachComplete then
    { c with
      trackingFeedbackValid := i.trackingValid
      trackingPositionError := i.trackingError }
  else c

/-- `waiting_at_approach`. -/
def waitingAtApproach : Bool :=
  c.state = .running && !c.approachComplete && c.timing.approachSegmentCount ≠ 0 &&
    c.timing.approachDurationS ≤ c.elapsedS

/-- The approach is confirmed: the start is moved so that the path goes on from the estimated approach
time, if that has passed. -/
def confirmApproach : TrajectoryClock :=
  { c with
    approachComplete := true
    startedAt := if c.timing.estimatedApproachS < c.wall now then
        now - ticks c.timing.estimatedApproachS
      else c.startedAt
    trackingUpdatedAt := now
    trackingTimeScale := 1
    trackingPositionError := 0
    trackingFeedbackValid := false
    trackingPauseStartedAt := none }

/-- `arrival_timeout`. -/
def arrivalTimedOut : Bool :=
  (if c.waitingAtApproach then c.timing.estimatedApproachS else c.timing.durationS) +
    clamp (c.timing.durationS / 4) 4 10 ≤ c.wall now

/-- `update_trajectory_completion`. -/
def updateCompletion (i : CycleInput) : TrajectoryClock :=
  if c.state = .completed then
    if i.unstable then { c with state := .running } else c
  else if c.state ≠ .running then c
  else if i.arrived then
    if c.waitingAtApproach then c.confirmApproach i.now else { c with state := .completed }
  else if c.arrivalTimedOut i.now then { c with state := .fault }
  else c

/-- The part of a cycle after its frame. -/
def finish (i : CycleInput) (completing : Bool) : TrajectoryClock :=
  if !i.sent then c
  else if completing then (c.storeTracking i).updateCompletion i
  else c.storeTracking i

/-- A control cycle. -/
def cycle (i : CycleInput) : Option Sample × TrajectoryClock :=
  match c.prepare i.now i.pv with
  | (none, c) => (none, c)
  | (some (sampled, completing), c) => (sampled, c.finish i completing)

/-- The samples of a run. -/
def samples (c : TrajectoryClock) : List CycleInput → List Sample
  | [] => []
  | i :: inputs => (c.cycle i).1.toList ++ samples (c.cycle i).2 inputs

end TrajectoryClock

/-! ## The reference time as a function of the time since the start -/

theorem seconds_add (a b : ℤ) : seconds (a + b) = seconds a + seconds b := by
  simp only [seconds, Int.cast_add, add_div]

theorem seconds_sub (a b : ℤ) : seconds (a - b) = seconds a - seconds b := by
  simp only [seconds, Int.cast_sub, sub_div]

theorem seconds_nonneg {a : ℤ} (nonneg : 0 ≤ a) : 0 ≤ seconds a := by
  unfold seconds
  have cast : (0 : ℚ) ≤ a := by exact_mod_cast nonneg
  positivity

/-- A duration of whole ticks is not truncated. -/
theorem ticks_seconds {a : ℤ} (nonneg : 0 ≤ a) : ticks (seconds a) = a := by
  rw [ticks, if_pos (seconds_nonneg nonneg), seconds, div_mul_cancel₀ _ (by norm_num)]
  exact Int.floor_intCast a

/-- The truncation loses less than a tick. -/
theorem le_seconds_ticks {x : ℚ} (nonneg : 0 ≤ x) : x ≤ seconds (ticks x) + seconds 1 := by
  rw [ticks, if_pos nonneg, ← seconds_add, seconds, le_div_iff₀ (by norm_num)]
  have bound := (Int.lt_floor_add_one (x * 1000000000)).le
  exact_mod_cast bound

section Clamp

variable {x y high : ℚ}

theorem clamp_eq (nonneg : 0 ≤ high) : clamp x 0 high = max 0 (min x high) := by
  unfold clamp
  split_ifs with below above
  · rw [min_eq_left (below.le.trans nonneg), max_eq_left below.le]
  · rw [min_eq_right above.le, max_eq_right nonneg]
  · rw [min_eq_left (not_lt.mp above), max_eq_right (not_lt.mp below)]

theorem clamp_mono (nonneg : 0 ≤ high) (le : x ≤ y) : clamp x 0 high ≤ clamp y 0 high := by
  rw [clamp_eq nonneg, clamp_eq nonneg]
  exact max_le_max_left 0 (min_le_min_right high le)

theorem clamp_le_add (nonneg : 0 ≤ high) (le : x ≤ y) : clamp y 0 high ≤ clamp x 0 high + (y - x) := by
  rw [clamp_eq nonneg, clamp_eq nonneg]
  have lower := le_max_left 0 (min x high)
  have upper := le_max_right 0 (min x high)
  refine max_le (by linarith) ?_
  rcases le_total x high with inside | outside
  · rw [min_eq_left inside] at upper ⊢
    have bound := min_le_left y high
    linarith
  · rw [min_eq_right outside] at upper ⊢
    have bound := min_le_right y high
    linarith

end Clamp

namespace TrajectoryTiming

variable (timing : TrajectoryTiming) {x y : ℚ}

theorem elapsed_mono (le : x ≤ y) : timing.elapsed x ≤ timing.elapsed y :=
  min_le_min_right _ (clamp_mono timing.nonneg le)

theorem elapsed_le_add (le : x ≤ y) : timing.elapsed y ≤ timing.elapsed x + (y - x) := by
  have bound := clamp_le_add timing.nonneg le
  unfold elapsed
  rcases le_total (clamp x 0 timing.durationS) timing.referenceDurationS with inside | outside
  · rw [min_eq_left inside]
    exact (min_le_left _ _).trans bound
  · rw [min_eq_right outside]
    have last := min_le_right (clamp y 0 timing.durationS) timing.referenceDurationS
    linarith

/-- Before the approach is confirmed the reference time stops at its end. -/
theorem reference_eq (confirmed : Bool) (wall : ℚ) : timing.reference confirmed wall =
    if confirmed = false ∧ timing.approachSegmentCount ≠ 0 then
      min (timing.elapsed wall) timing.approachDurationS
    else timing.elapsed wall := by
  unfold reference
  by_cases waits : confirmed = false ∧ timing.approachSegmentCount ≠ 0
  · rw [if_pos waits]
    split_ifs with reached
    · rw [min_eq_right reached.2.2]
    · have short : timing.elapsed wall < timing.approachDurationS :=
        not_le.mp fun le => reached ⟨waits.1, waits.2, le⟩
      rw [min_eq_left short.le]
  · rw [if_neg waits, if_neg fun reached => waits ⟨reached.1, reached.2.1⟩]

theorem reference_mono (confirmed : Bool) (le : x ≤ y) :
    timing.reference confirmed x ≤ timing.reference confirmed y := by
  rw [reference_eq, reference_eq]
  split_ifs
  · exact min_le_min_right _ (timing.elapsed_mono le)
  · exact timing.elapsed_mono le

theorem reference_le_add (confirmed : Bool) (le : x ≤ y) :
    timing.reference confirmed y ≤ timing.reference confirmed x + (y - x) := by
  have bound := timing.elapsed_le_add le
  rw [reference_eq, reference_eq]
  split_ifs
  · rcases le_total (timing.elapsed x) timing.approachDurationS with inside | outside
    · rw [min_eq_left inside]
      exact (min_le_left _ _).trans bound
    · rw [min_eq_right outside]
      have last := min_le_right (timing.elapsed y) timing.approachDurationS
      linarith
  · exact bound

/-- Where the time since the start goes on once the approach is confirmed: at the estimated approach time,
if that has passed. -/
def resume (wall : ℚ) : ℚ :=
  if timing.estimatedApproachS < wall then seconds (ticks timing.estimatedApproachS) else wall

/-- Where the clock goes on is no earlier than the end of the approach, after one tick at the latest. -/
theorem le_elapsed_resume {wall : ℚ} {now now' : ℤ}
    (reached : timing.approachDurationS ≤ clamp wall 0 timing.durationS)
    (estimated : timing.approachDurationS ≤ timing.estimatedApproachS) (apart : now < now') :
    timing.approachDurationS ≤ timing.elapsed (timing.resume wall + seconds (now' - now)) := by
  have tick : seconds 1 ≤ seconds (now' - now) := by
    have nonneg := seconds_nonneg (show 0 ≤ now' - now - 1 by omega)
    rw [seconds_sub] at nonneg
    linarith
  refine le_min ?_ timing.approach_le
  rw [clamp_eq timing.nonneg] at reached ⊢
  by_cases none : timing.approachDurationS ≤ 0
  · exact none.trans (le_max_left _ _)
  · have inside : timing.approachDurationS ≤ min wall timing.durationS :=
      (le_max_iff.mp reached).resolve_left none
    have ended := inside.trans (min_le_left _ _)
    refine le_max_of_le_right (le_min ?_ (inside.trans (min_le_right _ _)))
    unfold resume
    split_ifs
    · have truncated := le_seconds_ticks (show 0 ≤ timing.estimatedApproachS by linarith)
      linarith
    · have positive : 0 ≤ seconds 1 := seconds_nonneg (by norm_num)
      linarith

/-- How a sample follows the one before it. -/
structure Follows (a b : Sample) : Prop where
  kept : a.confirmed = true → b.confirmed = true
  mono : b.confirmed = a.confirmed → a.reference ≤ b.reference
  lag : b.confirmed = a.confirmed → b.reference ≤ a.reference + seconds (b.now - a.now)
  paused : b.paused = true → timing.referenceDurationS = timing.durationS → b.reference = a.reference
  resumed : a.confirmed = false → b.confirmed = true → a.reference = timing.approachDurationS ∧
    b.reference = timing.elapsed (timing.resume a.wall + seconds (b.now - a.now)) ∧
    (a.now < b.now → a.reference ≤ b.reference)

end TrajectoryTiming

/-! ## Runs -/

namespace TrajectoryClock

variable {c : TrajectoryClock}

/-- What a clock keeps of the last sample: the start stands as it was, or the approach has been confirmed
since and the start was moved. -/
structure Kept (a : Sample) (c : TrajectoryClock) : Prop where
  updated : c.trackingUpdatedAt = a.now
  reference : a.reference = c.timing.reference a.confirmed a.wall
  confirmed : a.confirmed = true → c.approachComplete = true
  same : c.approachComplete = a.confirmed → c.wall a.now = a.wall
  moved : a.confirmed = false → c.approachComplete = true → c.trackingFeedbackValid = false ∧
    c.wall a.now = c.timing.resume a.wall ∧ a.reference = c.timing.approachDurationS ∧
    c.timing.approachDurationS ≤ clamp a.wall 0 c.timing.durationS ∧
    c.timing.approachDurationS ≤ c.timing.estimatedApproachS

/-- The shift of a pause is the whole time since the last sample, if the reference may wait at all. -/
theorem shift_eq (c : TrajectoryClock) {now : ℤ} (later : c.trackingUpdatedAt ≤ now) :
    c.shift now 0 = if c.timing.referenceDurationS = c.timing.durationS then now - c.trackingUpdatedAt
      else 0 := by
  have nonneg : 0 ≤ now - c.trackingUpdatedAt := by omega
  have dt : c.trackingDt now = seconds (now - c.trackingUpdatedAt) := max_eq_right (seconds_nonneg nonneg)
  unfold shift
  rw [dt, sub_zero, mul_one, ticks_seconds nonneg]
  by_cases waits : c.timing.referenceDurationS = c.timing.durationS
  · rw [if_pos waits]
    split_ifs with passed
    · rfl
    · by_contra other
      refine passed ⟨?_, by norm_num, waits⟩
      have positive : 0 < now - c.trackingUpdatedAt := by omega
      have cast : (0 : ℚ) < ((now - c.trackingUpdatedAt : ℤ) : ℚ) := by exact_mod_cast positive
      unfold seconds
      positivity
  · rw [if_neg waits, if_neg fun passed => waits passed.2.2]

theorem wall_add (c : TrajectoryClock) (now now' : ℤ) :
    c.wall now' = c.wall now + seconds (now' - now) := by
  rw [wall, wall, ← seconds_add]
  congr 1
  ring

/-- A change that leaves the start alone keeps what the clock keeps of the sample. -/
theorem Kept.of_same {a : Sample} {c c' : TrajectoryClock} (kept : Kept a c) (timing : c'.timing = c.timing)
    (updated : c'.trackingUpdatedAt = c.trackingUpdatedAt) (started : c'.startedAt = c.startedAt)
    (complete : c'.approachComplete = c.approachComplete)
    (valid : c'.trackingFeedbackValid = c.trackingFeedbackValid ∨ c.approachComplete = a.confirmed) :
    Kept a c' where
  updated := updated.trans kept.updated
  reference := by rw [timing, kept.reference]
  confirmed holds := complete.trans (kept.confirmed holds)
  same holds := by
    rw [wall, started]
    exact kept.same (complete ▸ holds)
  moved unconfirmed holds := by
    rw [complete] at holds
    obtain ⟨invalid, resumed, rest⟩ := kept.moved unconfirmed holds
    rw [wall, started, timing]
    refine ⟨?_, resumed, rest⟩
    rcases valid with valid | same
    · exact valid.trans invalid
    · rw [holds, unconfirmed] at same
      cases same

/-- What the part of a cycle before its sample does. -/
theorem track_spec (c : TrajectoryClock) {now : ℤ} (pv : Bool) (later : c.trackingUpdatedAt ≤ now)
    (tracked : (c.track now pv).1 = true) :
    ∃ shift, (c.track now pv).2.startedAt = c.startedAt + shift ∧ 0 ≤ shift ∧
      shift ≤ now - c.trackingUpdatedAt ∧ (c.trackingFeedbackValid = false → shift = 0) ∧
      (c.track now pv).2.timing = c.timing ∧ (c.track now pv).2.trackingUpdatedAt = now ∧
      (c.track now pv).2.approachComplete = c.approachComplete ∧ (c.track now pv).2.state = c.state ∧
      ((c.track now pv).2.trackingTimeScale = 0 → c.trackingFeedbackValid = true ∧
        c.approachComplete = true ∧
        (c.timing.referenceDurationS = c.timing.durationS → shift = now - c.trackingUpdatedAt)) := by
  have passed : 0 ≤ now - c.trackingUpdatedAt := by omega
  unfold track at tracked ⊢
  split_ifs at tracked ⊢ with scaled slow
  · have complete : c.approachComplete = true := by
      simp only [TrajectoryClock.scaled, Bool.and_eq_true] at scaled
      exact scaled.2
    have valid : c.trackingFeedbackValid = true := by
      by_contra invalid
      rw [targetScale, if_neg invalid] at slow
      exact absurd slow (by norm_num)
    refine ⟨c.shift now 0, rfl, ?_, ?_, by simp [valid], rfl, rfl, rfl, rfl, fun _ => ⟨valid, complete, ?_⟩⟩
    · rw [shift_eq c later]
      split_ifs <;> omega
    · rw [shift_eq c later]
      split_ifs <;> omega
    · intro waits
      rw [shift_eq c later, if_pos waits]
  · exact ⟨0, (add_zero _).symm, le_rfl, passed, fun _ => rfl, rfl, rfl, rfl, rfl, fun scale => by
      norm_num at scale⟩
  · exact ⟨0, (add_zero _).symm, le_rfl, passed, fun _ => rfl, rfl, rfl, rfl, rfl, fun scale => by
      norm_num at scale⟩

theorem track_updated (c : TrajectoryClock) {now : ℤ} (pv : Bool) (tracked : (c.track now pv).1 = true) :
    (c.track now pv).2.trackingUpdatedAt = now := by
  unfold track at tracked ⊢
  split_ifs at tracked ⊢ <;> rfl

/-- A cycle's sample follows the last one. -/
theorem follows_sample {a : Sample} {c : TrajectoryClock} {now : ℤ} {pv : Bool} (kept : Kept a c)
    (later : a.now ≤ now) (tracked : (c.track now pv).1 = true) :
    c.timing.Follows a ((c.track now pv).2.sample now) := by
  obtain ⟨shift, started, nonneg, bounded, unshifted, timing, -, complete, -, paused⟩ :=
    track_spec c pv (by rw [kept.updated]; exact later) tracked
  rw [kept.updated] at bounded paused
  have wall : (c.track now pv).2.wall now = c.wall a.now + seconds (now - a.now) - seconds shift := by
    rw [← wall_add, TrajectoryClock.wall, TrajectoryClock.wall, started, ← seconds_sub]
    congr 1
    ring
  have shiftNonneg := seconds_nonneg nonneg
  have passed := seconds_nonneg (show 0 ≤ now - a.now - shift by omega)
  rw [seconds_sub] at passed
  refine ⟨fun confirmed => ?_, fun same => ?_, fun same => ?_, fun stands waits => ?_, fun before after => ?_⟩
  · exact complete.trans (kept.confirmed confirmed)
  · have still : c.approachComplete = a.confirmed := complete.symm.trans same
    rw [kept.same still] at wall
    rw [kept.reference, ← still, ← complete, ← timing]
    refine TrajectoryTiming.reference_mono _ _ ?_
    linarith
  · have still : c.approachComplete = a.confirmed := complete.symm.trans same
    rw [kept.same still] at wall
    have bound := c.timing.reference_le_add a.confirmed (show a.wall ≤ (c.track now pv).2.wall now by linarith)
    rw [kept.reference]
    simp only [sample, timing, complete, still]
    linarith
  · obtain ⟨valid, confirmed, whole⟩ := paused (by simpa [sample] using stands)
    have still : c.approachComplete = a.confirmed := by
      by_contra other
      have unconfirmed : a.confirmed = false := by
        rw [confirmed] at other
        simpa using Ne.symm other
      rw [(kept.moved unconfirmed confirmed).1] at valid
      cases valid
    rw [kept.same still, whole waits] at wall
    simp only [sample, timing, complete, still, kept.reference]
    rw [wall, add_sub_cancel_right]
  · have confirmed : c.approachComplete = true := complete.symm.trans after
    obtain ⟨invalid, resumed, ended, reached, estimated⟩ := kept.moved before confirmed
    obtain rfl := unshifted invalid
    rw [resumed, show seconds 0 = 0 by simp [seconds], sub_zero] at wall
    have sampled : ((c.track now pv).2.sample now).reference =
        c.timing.elapsed (c.timing.resume a.wall + seconds (now - a.now)) := by
      simp only [sample, timing, complete, confirmed, TrajectoryTiming.reference_eq]
      rw [if_neg (by simp), wall]
    refine ⟨ended, sampled, fun apart => ?_⟩
    rw [ended, sampled]
    exact c.timing.le_elapsed_resume reached estimated apart

/-- A clock that has just sampled keeps the sample. -/
theorem kept_sample {c : TrajectoryClock} {now : ℤ} (updated : c.trackingUpdatedAt = now) :
    Kept (c.sample now) c where
  updated := updated
  reference := rfl
  confirmed holds := holds
  same _ := rfl
  moved unconfirmed holds := by
    rw [show c.approachComplete = false from unconfirmed] at holds
    cases holds

/-- The approach that the last sample waited for is confirmed. -/
theorem kept_confirm {c : TrajectoryClock} {now : ℤ} (elapsed : c.elapsedS = c.sampledElapsed now)
    (waits : c.waitingAtApproach = true) : Kept (c.sample now) (c.confirmApproach now) := by
  simp only [waitingAtApproach, Bool.and_eq_true, decide_eq_true_eq, Bool.not_eq_true'] at waits
  obtain ⟨⟨⟨-, unconfirmed⟩, approaches⟩, reached⟩ := waits
  rw [elapsed, sampledElapsed] at reached
  have clamped : c.timing.approachDurationS ≤ clamp (c.wall now) 0 c.timing.durationS := by
    split_ifs at reached
    · exact reached.trans (min_le_left _ _)
    · exact reached
  have there : c.timing.atApproach c.approachComplete (c.wall now) :=
    ⟨unconfirmed, by simpa using approaches, le_min clamped c.timing.approach_le⟩
  rw [if_pos there] at reached
  refine ⟨rfl, rfl, fun _ => rfl, fun same => ?_, fun _ _ => ⟨rfl, ?_, ?_, clamped,
    reached.trans (min_le_right _ _)⟩⟩
  · rw [show (c.sample now).confirmed = false from unconfirmed] at same
    cases same
  · by_cases passed : c.timing.estimatedApproachS < c.wall now
    · have moved : (c.confirmApproach now).startedAt = now - ticks c.timing.estimatedApproachS := if_pos passed
      rw [wall, moved, TrajectoryTiming.resume]
      exact (congrArg seconds (sub_sub_cancel _ _)).trans (if_pos passed).symm
    · have stays : (c.confirmApproach now).startedAt = c.startedAt := if_neg passed
      rw [wall, stays, TrajectoryTiming.resume]
      exact (if_neg passed).symm
  · exact if_pos there

/-- Two clocks agree on everything a reference time depends on. -/
structure Agrees (c c' : TrajectoryClock) : Prop where
  timing : c'.timing = c.timing
  started : c'.startedAt = c.startedAt
  updated : c'.trackingUpdatedAt = c.trackingUpdatedAt
  complete : c'.approachComplete = c.approachComplete

theorem agrees_storeTracking (c : TrajectoryClock) (i : CycleInput) : Agrees c (c.storeTracking i) := by
  unfold storeTracking
  split_ifs <;> exact ⟨rfl, rfl, rfl, rfl⟩

/-- The arrival checks confirm the approach that the clock waits at, or leave the reference time alone. -/
theorem updateCompletion_cases (c : TrajectoryClock) (i : CycleInput) :
    (c.waitingAtApproach = true ∧ c.updateCompletion i = c.confirmApproach i.now) ∨
      Agrees c (c.updateCompletion i) ∧
        (c.updateCompletion i).trackingFeedbackValid = c.trackingFeedbackValid := by
  unfold updateCompletion
  split_ifs with completed unstable running arrived waits
  · exact .inr ⟨⟨rfl, rfl, rfl, rfl⟩, rfl⟩
  · exact .inr ⟨⟨rfl, rfl, rfl, rfl⟩, rfl⟩
  · exact .inr ⟨⟨rfl, rfl, rfl, rfl⟩, rfl⟩
  · exact .inl ⟨waits, rfl⟩
  · exact .inr ⟨⟨rfl, rfl, rfl, rfl⟩, rfl⟩
  · exact .inr ⟨⟨rfl, rfl, rfl, rfl⟩, rfl⟩
  · exact .inr ⟨⟨rfl, rfl, rfl, rfl⟩, rfl⟩

/-- What a clock that has just sampled becomes by the end of its cycle. -/
theorem kept_finish {c : TrajectoryClock} {i : CycleInput} (completing : Bool)
    (updated : c.trackingUpdatedAt = i.now) (elapsed : c.elapsedS = c.sampledElapsed i.now) :
    Kept (c.sample i.now) (c.finish i completing) := by
  have kept := kept_sample updated
  have stored := agrees_storeTracking c i
  have keptStored : Kept (c.sample i.now) (c.storeTracking i) :=
    kept.of_same stored.timing stored.updated stored.started stored.complete (.inr rfl)
  unfold finish
  split_ifs
  · exact kept
  · obtain ⟨waits, confirmed⟩ | ⟨agrees, valid⟩ := updateCompletion_cases (c.storeTracking i) i
    · have same : c.storeTracking i = c := by
        simp only [waitingAtApproach, Bool.and_eq_true, Bool.not_eq_true', stored.complete] at waits
        rw [storeTracking, waits.1.1.2, Bool.and_false, if_neg (by simp)]
      rw [confirmed, same]
      exact kept_confirm elapsed (same ▸ waits)
    · exact keptStored.of_same agrees.timing agrees.updated agrees.started agrees.complete (.inl valid)
  · exact keptStored

/-- What a cycle does: it takes no sample and leaves the reference time alone, or it samples after its
tracking part and keeps the sample. -/
theorem cycle_cases (c : TrajectoryClock) (i : CycleInput) :
    ((c.cycle i).1 = none ∧ Agrees c (c.cycle i).2 ∧
        (c.cycle i).2.trackingFeedbackValid = c.trackingFeedbackValid) ∨
      (c.track i.now i.pv).1 = true ∧ (c.cycle i).1 = some ((c.track i.now i.pv).2.sample i.now) ∧
        Kept ((c.track i.now i.pv).2.sample i.now) (c.cycle i).2 := by
  by_cases completed : c.state = .completed
  · have idle : c.storeTracking i = c := by simp [storeTracking, completed]
    have prepared : c.prepare i.now i.pv = (some (none, true), c) := if_pos completed
    refine .inl ?_
    simp only [cycle, prepared, finish, idle, if_true, true_and]
    split_ifs
    · exact ⟨⟨rfl, rfl, rfl, rfl⟩, rfl⟩
    · obtain ⟨waits, -⟩ | same := updateCompletion_cases c i
      · simp [waitingAtApproach, completed] at waits
      · exact same
  by_cases running : c.state = .running
  · cases tracked : (c.track i.now i.pv).1 with
    | false =>
      have prepared : c.prepare i.now i.pv = (none, (c.track i.now i.pv).2) := by
        simp only [prepare, running, ne_eq, not_true, if_false, tracked]
        rfl
      refine .inl ?_
      simp only [cycle, prepared, true_and]
      unfold track at tracked ⊢
      split_ifs at tracked ⊢
      exact ⟨⟨rfl, rfl, rfl, rfl⟩, rfl⟩
    | true =>
      have updated := track_updated c i.pv tracked
      have prepared : c.prepare i.now i.pv = (some (some ((c.track i.now i.pv).2.sample i.now),
          (c.track i.now i.pv).2.completing i.now),
          { (c.track i.now i.pv).2 with elapsedS := (c.track i.now i.pv).2.sampledElapsed i.now }) := by
        simp only [prepare, running, ne_eq, not_true, if_false, tracked]
        rfl
      refine .inr ⟨rfl, ?_, ?_⟩
      · simp only [cycle, prepared]
      · simp only [cycle, prepared]
        exact kept_finish (c := { (c.track i.now i.pv).2 with
          elapsedS := (c.track i.now i.pv).2.sampledElapsed i.now }) _ updated rfl
  · have idle : c.storeTracking i = c := by simp [storeTracking, running]
    have prepared : c.prepare i.now i.pv = (some (none, false), c) := by
      rw [prepare, if_neg completed, if_pos running]
    refine .inl ?_
    simp only [cycle, prepared, finish, idle, true_and, Bool.false_eq_true, if_false, ite_self]
    exact ⟨⟨rfl, rfl, rfl, rfl⟩, trivial⟩

/-- A cycle keeps the last sample, or takes one that follows it and keeps that. -/
theorem kept_cycle {a : Sample} {c : TrajectoryClock} {i : CycleInput} (kept : Kept a c)
    (later : a.now ≤ i.now) :
    ((c.cycle i).1 = none ∧ Kept a (c.cycle i).2) ∨
      ∃ b, (c.cycle i).1 = some b ∧ b.now = i.now ∧ c.timing.Follows a b ∧ Kept b (c.cycle i).2 := by
  obtain ⟨none, agrees, valid⟩ | ⟨tracked, sampled, keeps⟩ := cycle_cases c i
  · exact .inl ⟨none,
      kept.of_same agrees.timing agrees.updated agrees.started agrees.complete (.inl valid)⟩
  · exact .inr ⟨_, sampled, rfl, follows_sample kept later tracked, keeps⟩

/-- While the approach has not been confirmed there is one. -/
def Approaching (c : TrajectoryClock) : Prop :=
  c.approachComplete = false → c.timing.approachSegmentCount ≠ 0

/-- Before the approach is confirmed the reference time is not past its end. -/
theorem reference_sample_le {c : TrajectoryClock} (approaching : Approaching c) (now : ℤ)
    (unconfirmed : c.approachComplete = false) :
    (c.sample now).reference ≤ c.timing.approachDurationS := by
  have waits := approaching unconfirmed
  simp only [sample, TrajectoryTiming.reference_eq]
  rw [if_pos ⟨unconfirmed, waits⟩]
  exact min_le_right _ _

/-- The timing of a trajectory does not change, and a confirmed approach stays confirmed. -/
structure Extends (c c' : TrajectoryClock) : Prop where
  timing : c'.timing = c.timing
  complete : c.approachComplete = true → c'.approachComplete = true

theorem extends_track (c : TrajectoryClock) (now : ℤ) (pv : Bool) : Extends c (c.track now pv).2 := by
  unfold track
  split_ifs <;> exact ⟨rfl, id⟩

theorem extends_finish (c : TrajectoryClock) (i : CycleInput) (completing : Bool) :
    Extends c (c.finish i completing) := by
  have stored := agrees_storeTracking c i
  unfold finish
  split_ifs
  · exact ⟨rfl, id⟩
  · obtain ⟨-, confirmed⟩ | ⟨agrees, -⟩ := updateCompletion_cases (c.storeTracking i) i
    · rw [confirmed]
      exact ⟨stored.timing, fun _ => rfl⟩
    · exact ⟨agrees.timing.trans stored.timing, fun holds => by rw [agrees.complete, stored.complete, holds]⟩
  · exact ⟨stored.timing, fun holds => stored.complete.trans holds⟩

theorem extends_cycle (c : TrajectoryClock) (i : CycleInput) : Extends c (c.cycle i).2 := by
  have tracked := extends_track c i.now i.pv
  unfold cycle prepare
  split_ifs
  · exact extends_finish c i true
  · exact extends_finish c i false
  · simp only
    split_ifs
    · have finished := extends_finish { (c.track i.now i.pv).2 with
        elapsedS := (c.track i.now i.pv).2.sampledElapsed i.now } i ((c.track i.now i.pv).2.completing i.now)
      exact ⟨finished.timing.trans tracked.timing, fun holds => finished.complete (tracked.complete holds)⟩
    · exact tracked

theorem Approaching.extends {c c' : TrajectoryClock} (approaching : Approaching c) (kept : Extends c c') :
    Approaching c' := by
  intro unconfirmed
  rw [kept.timing]
  refine approaching ?_
  by_contra confirmed
  rw [kept.complete (by simpa using confirmed)] at unconfirmed
  cases unconfirmed

/-- Every sample of a run follows the one before it. -/
theorem chain_of_kept {a : Sample} {c : TrajectoryClock} {inputs : List CycleInput} (kept : Kept a c)
    (ordered : inputs.Pairwise fun i j => i.now ≤ j.now) (later : ∀ i ∈ inputs, a.now ≤ i.now) :
    (a :: c.samples inputs).IsChain c.timing.Follows := by
  induction inputs generalizing a c with
  | nil => exact List.isChain_singleton a
  | cons i inputs ih =>
    have ordered' := List.pairwise_cons.mp ordered
    rw [samples]
    obtain ⟨none, keeps⟩ | ⟨b, sampled, now, follows, keeps⟩ := kept_cycle kept (later i List.mem_cons_self)
    · rw [none, ← (extends_cycle c i).timing]
      exact ih keeps ordered'.2 fun j found => later j (List.mem_cons_of_mem i found)
    · have rest := ih keeps ordered'.2 fun j found => now ▸ ordered'.1 j found
      rw [(extends_cycle c i).timing] at rest
      rw [sampled]
      exact List.isChain_cons_cons.mpr ⟨follows, rest⟩

theorem chain_of_run (c : TrajectoryClock) {inputs : List CycleInput}
    (ordered : inputs.Pairwise fun i j => i.now ≤ j.now) :
    (c.samples inputs).IsChain c.timing.Follows := by
  induction inputs generalizing c with
  | nil => exact List.isChain_nil
  | cons i inputs ih =>
    have ordered' := List.pairwise_cons.mp ordered
    rw [samples, ← (extends_cycle c i).timing]
    obtain ⟨none, -⟩ | ⟨-, sampled, keeps⟩ := cycle_cases c i
    · rw [none]
      exact ih (c.cycle i).2 ordered'.2
    · rw [sampled]
      exact chain_of_kept keeps ordered'.2 ordered'.1

/-- In a run the reference time is not past the end of an approach that is not confirmed. -/
theorem reference_le_of_mem {c : TrajectoryClock} {inputs : List CycleInput} (approaching : Approaching c) :
    ∀ b ∈ c.samples inputs, b.confirmed = false → b.reference ≤ c.timing.approachDurationS := by
  induction inputs generalizing c with
  | nil => simp [samples]
  | cons i inputs ih =>
    intro b found unconfirmed
    rw [samples, List.mem_append] at found
    rcases found with here | later
    · obtain ⟨none, -⟩ | ⟨-, sampled, -⟩ := cycle_cases c i
      · simp [none] at here
      · rw [sampled, Option.toList_some, List.mem_singleton] at here
        subst here
        have kept := extends_track c i.now i.pv
        have bound := reference_sample_le (approaching.extends kept) i.now unconfirmed
        rwa [kept.timing] at bound
    · have bound := ih (approaching.extends (extends_cycle c i)) b later unconfirmed
      rwa [(extends_cycle c i).timing] at bound

end TrajectoryClock

/-- In every run of a trajectory, whatever the feedback, with cycle times that do not decrease: before the
approach is confirmed the reference time is not past its end, and every sample follows the one before
it. -/
theorem referenceClock_of_run (timing : TrajectoryTiming) (started : ℤ) (inputs : List CycleInput)
    (ordered : inputs.Pairwise fun i j => i.now ≤ j.now) :
    (∀ b ∈ (timing.activate started).samples inputs,
      b.confirmed = false → b.reference ≤ timing.approachDurationS) ∧
    ((timing.activate started).samples inputs).IsChain timing.Follows := by
  refine ⟨TrajectoryClock.reference_le_of_mem (c := timing.activate started) (fun unconfirmed => ?_), ?_⟩
  · simpa [TrajectoryTiming.activate] using unconfirmed
  · exact TrajectoryClock.chain_of_run (timing.activate started) ordered

namespace Scenario

/-- An approach to 0.2 s, a path to 0.5 s, and an estimated approach time of 0.3 s. -/
def delayedPath : TrajectoryRequest :=
  { waypoints := [0, 1 / 5, 3 / 10, 1 / 2], approachSegmentCount := 1, approachDeadlineS := 3 / 10 }

/-- An approach that does not end on a clock tick. -/
def unevenPath : TrajectoryRequest :=
  { waypoints := [0, 1 / 3, 1], approachSegmentCount := 1 }

/-- A Cartesian path of 1 s with an estimated total time of 2 s. -/
def deadlinePath : TrajectoryRequest :=
  { waypoints := [0, 1], completionDeadlineS := 2, cartesian := true }

/-- A cycle at a number of milliseconds. -/
def cycleAt (milliseconds : ℤ) (arrived : Bool) : CycleInput :=
  { now := milliseconds * 1000000, arrived }

/-- A cycle that leaves a tracking error of 0.1 rad. -/
def laggingAt (milliseconds : ℤ) : CycleInput :=
  { now := milliseconds * 1000000, trackingValid := true, trackingError := 1 / 10 }

/-- The instants and reference times of an accepted trajectory, and whether its tracking pause was
active. -/
def sampled (request : TrajectoryRequest) (inputs : List CycleInput) : Option (List (ℤ × ℚ × Bool)) :=
  request.timing.toOption.map fun timing =>
    ((timing.activate 0).samples inputs).map fun b => (b.now, b.reference, b.paused)

end Scenario

theorem referenceClock_of_run_delayed :
    ∃ timing, Scenario.delayedPath.timing.toOption = some timing ∧
      ((timing.activate 0).samples [Scenario.cycleAt 0 false, Scenario.cycleAt 400 true,
        Scenario.cycleAt 402 false]).IsChain timing.Follows := by
  have accepted : Scenario.delayedPath.timing.toOption.isSome = true := by decide +kernel
  obtain ⟨timing, accepted⟩ := Option.isSome_iff_exists.mp accepted
  exact ⟨timing, accepted, (referenceClock_of_run timing 0 _ (by decide)).2⟩

/-- After its approach the first path goes on 0.102 s later within 2 ms, and the second one where the clock
tick is; the third one advances while its tracking pause is active. -/
theorem referenceClock_skips :
    Scenario.sampled Scenario.delayedPath [Scenario.cycleAt 400 true, Scenario.cycleAt 402 false] =
      some [(400000000, 1 / 5, false), (402000000, 151 / 500, false)] ∧
    Scenario.sampled Scenario.unevenPath [Scenario.cycleAt 400 true, Scenario.cycleAt 400 false] =
      some [(400000000, 1 / 3, false), (400000000, 333333333 / 1000000000, false)] ∧
    Scenario.sampled Scenario.deadlinePath [Scenario.laggingAt 100, Scenario.laggingAt 102] =
      some [(100000000, 1 / 10, false), (102000000, 51 / 500, true)] := by
  decide +kernel

end MotorDrive.Runtime
