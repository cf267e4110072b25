import MotorDrive.Trajectory.Motions
import MotorDrive.Trajectory.Recovery

/-!
# Continuity of the FIFO

Every queued motion starts where the motion in front of it ends (`Follows`), and its segments follow each other
without a gap (`Contiguous`). Starts, cancellations, terminations and cycles keep both, as long as a motion that
replaces the active one in front of a queue ends where that one ends.
-/

namespace MotorDrive.Trajectory

open Validate

/-! ## Neighbours -/

section Neighbours

variable {K : Type} [Field K]

/-- Where a motion ends, as `trajectory_final_sample_locked` answers. -/
def TrajectoryControl.finalPositions (trajectory : TrajectoryControl K) : Option (List K) :=
  trajectory.finalSample.map Sample.positions

/-- Where the first segment of a motion starts. -/
def TrajectoryControl.startPositions (trajectory : TrajectoryControl K) : Option (List K) :=
  trajectory.segments.head?.map fun segment => segment.coefficients.map fun c => c.sample 0

/-- A motion starts where the other one ends. -/
def Follows (first second : TrajectoryControl K) : Prop :=
  ∃ positions, first.finalPositions = some positions ∧ second.startPositions = some positions

/-- One segment starts where and when the other one ends. -/
def Connected (first second : Segment K) : Prop :=
  second.start = first.start + first.duration ∧
    (second.coefficients.map fun c => c.sample 0) = first.coefficients.map fun c => c.sample 1

/-- The segments of a motion run from zero to the duration of its reference, without a gap, and the approach ends with
one of them. -/
structure Contiguous (trajectory : TrajectoryControl K) : Prop where
  joints : trajectory.joints ≠ []
  segments : trajectory.segments ≠ []
  shape : ∀ segment ∈ trajectory.segments, segment.coefficients.length = trajectory.joints.length
  start : trajectory.segments.head?.map Segment.start = some 0
  connected : trajectory.segments.IsChain Connected
  finish : (trajectory.segments.getLast?.map fun segment => segment.start + segment.duration) =
    some trajectory.referenceDuration
  few : trajectory.approachSegmentCount ≤ trajectory.segments.length
  approach : trajectory.approachDuration = approachEnd trajectory.segments trajectory.approachSegmentCount

variable {first second third : TrajectoryControl K}

theorem finalPositions_of_last {trajectory : TrajectoryControl K} {last : Segment K}
    (ends : trajectory.segments.getLast? = some last) (joints : trajectory.joints ≠ [])
    (shape : last.coefficients.length = trajectory.joints.length) :
    trajectory.finalPositions = some (last.coefficients.map fun c => c.sample 1) := by
  unfold TrajectoryControl.finalPositions TrajectoryControl.finalSample
  rw [ends]
  simp only
  rw [if_neg (not_or.mpr ⟨joints, not_not.mpr shape⟩)]
  rfl

theorem Contiguous.last {trajectory : TrajectoryControl K} (contiguous : Contiguous trajectory) :
    ∃ last, trajectory.segments.getLast? = some last ∧ last.coefficients.length = trajectory.joints.length := by
  obtain ⟨last, ends⟩ := Option.isSome_iff_exists.mp (List.getLast?_isSome.mpr contiguous.segments)
  exact ⟨last, ends, contiguous.shape last (List.mem_of_getLast? ends)⟩

theorem SamePlan.finalPositions (same : SamePlan first second) : second.finalPositions = first.finalPositions := by
  unfold TrajectoryControl.finalPositions TrajectoryControl.finalSample
  rw [same.segments, same.joints]
  split
  · rfl
  · split_ifs <;> rfl

theorem SamePlan.contiguous (same : SamePlan first second) (contiguous : Contiguous first) : Contiguous second := by
  obtain ⟨joints, segments, shape, start, connected, finish, few, approach⟩ := contiguous
  refine ⟨?_, ?_, ?_, ?_, ?_, ?_, ?_, ?_⟩
  · rwa [same.joints]
  · rwa [same.segments]
  · rwa [same.segments, same.joints]
  · rwa [same.segments]
  · rwa [same.segments]
  · rwa [same.segments, same.referenceDuration]
  · rwa [same.segments, same.approachSegmentCount]
  · rwa [same.approachDuration, same.segments, same.approachSegmentCount]

/-- The first of a row of motions may be changed, as long as it ends at the same positions. -/
theorem isChain_of_finalPositions {queue : List (TrajectoryControl K)} (chain : (first :: queue).IsChain Follows)
    (same : second.finalPositions = first.finalPositions) : (second :: queue).IsChain Follows := by
  cases queue with
  | nil => exact .singleton _
  | cons next rest =>
    obtain ⟨⟨positions, ends, starts⟩, later⟩ := List.isChain_cons_cons.mp chain
    exact List.isChain_cons_cons.mpr ⟨⟨positions, same.trans ends, starts⟩, later⟩

/-- A motion is taken out of a row, and the one behind it is tied to the one in front. -/
theorem isChain_remove {before after : List (TrajectoryControl K)}
    {front removed successor rebound : TrajectoryControl K}
    (chain : (before ++ front :: removed :: successor :: after).IsChain Follows) (tied : Follows front rebound)
    (same : rebound.finalPositions = successor.finalPositions) :
    (before ++ front :: rebound :: after).IsChain Follows := by
  obtain ⟨early, -, late⟩ := List.isChain_append_cons_cons.mp chain
  have behind := (List.isChain_cons_cons.mp late).2
  exact List.isChain_append_cons_cons.mpr ⟨early, tied, isChain_of_finalPositions behind same⟩

end Neighbours

/-! ## Planned motions -/

section Planned

variable {K : Type} [Field K] [LinearOrder K]

theorem map_range_getD {α : Type} {items : List α} {count : ℕ} (length : items.length = count) (default : α) :
    (List.range count).map (fun j => items.getD j default) = items := by
  refine List.ext_getElem (by rw [List.length_map, List.length_range, length]) fun j _ inside => ?_
  rw [List.getElem_map, List.getElem_range, List.getD_eq_getElem?_getD, List.getElem?_eq_getElem inside]
  rfl

/-- Every waypoint has a position for each joint. -/
theorem length_positions {request : Request K} {tracks : List (Track K)}
    (ok : checkWaypoints request = .ok tracks) {k : ℕ} {waypoint : Waypoint K}
    (found : request.waypoints[k]? = some waypoint) : waypoint.positions.length = request.joints.length := by
  obtain ⟨states, -, -, steps⟩ := foldlM_eq_ok ok
  have checked := steps k (waypoint, k) (by rw [List.getElem?_zipIdx, found, Option.map_some, Nat.zero_add])
  obtain ⟨-, rest⟩ := reject_bind_eq_ok checked
  obtain ⟨-, rest⟩ := reject_bind_eq_ok rest
  obtain ⟨lengths, -⟩ := reject_bind_eq_ok rest
  rw [not_or, not_not] at lengths
  exact lengths.1

variable {arms : List Motor} {request : Request K} {plan : Plan K}

/-- The waypoints at the ends of a segment. -/
theorem Planned.segment (planned : Planned arms request plan) {k : ℕ} {segment : Segment K}
    (found : plan.segments[k]? = some segment) :
    ∃ first second, request.preparedWaypoints[k]? = some first ∧ request.preparedWaypoints[k + 1]? = some second ∧
      Made request plan.recoveryDirections k first second segment := by
  have lt := (List.getElem?_eq_some_iff.mp found).1
  have count := planned.count
  have next : k + 1 < request.preparedWaypoints.length := by
    rw [length_preparedWaypoints]
    omega
  have at_k := List.getElem?_eq_getElem (Nat.lt_of_succ_lt next)
  have at_next := List.getElem?_eq_getElem next
  obtain ⟨segment', same, made⟩ := planned.made k _ _ at_k at_next
  cases found.symm.trans same
  exact ⟨_, _, at_k, at_next, made⟩

variable [IsStrictOrderedRing K]

/-- A segment has the positions of its waypoints at its ends. -/
theorem Planned.ends (planned : Planned arms request plan) {k : ℕ} {segment : Segment K} {first second : Waypoint K}
    (at_k : request.preparedWaypoints[k]? = some first) (at_next : request.preparedWaypoints[k + 1]? = some second)
    (made : Made request plan.recoveryDirections k first second segment) :
    (segment.coefficients.map fun c => c.sample 0) = first.positions ∧
      (segment.coefficients.map fun c => c.sample 1) = second.positions := by
  obtain ⟨tracks, checked, -⟩ := planned.tracks
  have later := (List.getElem?_eq_some_iff.mp at_next).1
  rw [length_preparedWaypoints] at later
  have given := List.getElem?_eq_getElem (Nat.lt_of_succ_lt later)
  have given' := List.getElem?_eq_getElem later
  obtain ⟨_, found, positions, -⟩ := preparedWaypoints_getElem? given
  obtain ⟨_, found', positions', -⟩ := preparedWaypoints_getElem? given'
  cases at_k.symm.trans found
  cases at_next.symm.trans found'
  have increasing := preparedWaypoints_increasing checked at_k at_next
  have ends (j : ℕ) :
      (segmentCoefficients request.execution (second.time - first.time) first second j).sample 0 =
          first.positions.getD j 0 ∧
        (segmentCoefficients request.execution (second.time - first.time) first second j).sample 1 =
          second.positions.getD j 0 := segmentCoefficients_ends (sub_pos.mpr increasing).ne' first second j
  have length := positions.symm ▸ length_positions checked given
  have length' := positions'.symm ▸ length_positions checked given'
  rw [made.coefficients, List.map_map, List.map_map]
  refine ⟨Eq.trans (List.map_congr_left fun j _ => (ends j).1) (map_range_getD length 0), ?_⟩
  exact Eq.trans (List.map_congr_left fun j _ => (ends j).2) (map_range_getD length' 0)

/-- The motion of a planned request. -/
theorem Planned.contiguous (planned : Planned arms request plan) (id : ℕ) :
    Contiguous (preparedTrajectory id request plan) := by
  have count := planned.count
  have several := planned.several
  have approach := planned.approach
  have occupied : 0 < plan.segments.length := by omega
  refine ⟨planned.joints, List.length_pos_iff.mp occupied, fun segment member => ?_, ?_, ?_, ?_, ?_, rfl⟩
  · obtain ⟨k, inside, rfl⟩ := List.getElem_of_mem member
    obtain ⟨first, second, -, -, made⟩ := planned.segment (List.getElem?_eq_getElem inside)
    rw [made.coefficients, List.length_map, List.length_range]
    rfl
  · obtain ⟨first, second, at_zero, -, made⟩ := planned.segment (List.getElem?_eq_getElem occupied)
    have inside : 0 < request.waypoints.length := by omega
    have given := List.getElem?_eq_getElem inside
    obtain ⟨_, found, -, time⟩ := preparedWaypoints_getElem? given
    cases at_zero.symm.trans found
    have origin : request.timeOrigin = request.waypoints[0].time := by
      rw [Request.timeOrigin, List.head?_eq_getElem?, given]
      rfl
    change plan.segments.head?.map Segment.start = some 0
    rw [List.head?_eq_getElem?, List.getElem?_eq_getElem occupied, Option.map_some, made.start, time, origin, sub_self]
  · refine List.isChain_iff_getElem.mpr fun k inside => ?_
    have next : k + 1 < plan.segments.length := inside
    obtain ⟨first, second, at_k, at_next, made⟩ :=
      planned.segment (List.getElem?_eq_getElem (Nat.lt_of_succ_lt next))
    obtain ⟨first', second', at_k', at_next', made'⟩ := planned.segment (List.getElem?_eq_getElem next)
    cases at_next.symm.trans at_k'
    refine ⟨?_, (planned.ends at_k' at_next' made').1.trans (planned.ends at_k at_next made).2.symm⟩
    change (plan.segments[k + 1]).start = (plan.segments[k]).start + (plan.segments[k]).duration
    rw [made.start, made.duration, made'.start, add_sub_cancel]
  · obtain ⟨last, ends⟩ : ∃ last, plan.segments.length = last + 1 := ⟨_, (Nat.succ_pred_eq_of_pos occupied).symm⟩
    have inside : last < plan.segments.length := by omega
    obtain ⟨first, second, -, at_next, made⟩ := planned.segment (List.getElem?_eq_getElem inside)
    change (plan.segments.getLast?.map fun segment => segment.start + segment.duration) = some plan.referenceDuration
    rw [planned.referenceDuration, List.getLast?_eq_getElem?, List.getLast?_eq_getElem?, length_preparedWaypoints,
      ← count, ends, Nat.add_sub_cancel, Nat.add_sub_cancel, at_next, List.getElem?_eq_getElem inside,
      Option.map_some, made.start, made.duration, add_sub_cancel]
    rfl
  · change request.approachSegmentCount ≤ plan.segments.length
    omega

/-- A planned motion starts at the first waypoint. -/
theorem Planned.startPositions (planned : Planned arms request plan) (id : ℕ) :
    (preparedTrajectory id request plan).startPositions = request.waypoints.head?.map Waypoint.positions := by
  have count := planned.count
  have several := planned.several
  have occupied : 0 < plan.segments.length := by omega
  obtain ⟨first, second, at_zero, at_one, made⟩ := planned.segment (List.getElem?_eq_getElem occupied)
  have ends := planned.ends at_zero at_one made
  have inside : 0 < request.waypoints.length := by omega
  have given := List.getElem?_eq_getElem inside
  obtain ⟨_, found, positions, -⟩ := preparedWaypoints_getElem? given
  cases at_zero.symm.trans found
  unfold TrajectoryControl.startPositions
  rw [List.head?_eq_getElem?, List.head?_eq_getElem?, given, Option.map_some, ← positions, ← ends.1]
  change (plan.segments[0]?.map _) = _
  rw [List.getElem?_eq_getElem occupied]
  rfl

/-- A planned motion ends at the last waypoint. -/
theorem Planned.finalPositions (planned : Planned arms request plan) (id : ℕ) :
    (preparedTrajectory id request plan).finalPositions = request.waypoints.getLast?.map Waypoint.positions := by
  have count := planned.count
  have several := planned.several
  obtain ⟨place, ends⟩ : ∃ place, plan.segments.length = place + 1 := ⟨plan.segments.length - 1, by omega⟩
  have inside : place < plan.segments.length := by omega
  obtain ⟨first, second, at_place, at_next, made⟩ := planned.segment (List.getElem?_eq_getElem inside)
  have positions' := planned.ends at_place at_next made
  have later : place + 1 < request.waypoints.length := by omega
  have given := List.getElem?_eq_getElem later
  obtain ⟨_, found, positions, -⟩ := preparedWaypoints_getElem? given
  cases at_next.symm.trans found
  obtain ⟨last, final, shape⟩ := (planned.contiguous id).last
  have same := finalPositions_of_last final planned.joints shape
  change plan.segments.getLast? = some last at final
  rw [List.getLast?_eq_getElem?, ends, Nat.add_sub_cancel, List.getElem?_eq_getElem inside] at final
  cases final
  rw [same, List.getLast?_eq_getElem?, ← count, ends, Nat.add_sub_cancel, given, Option.map_some, ← positions,
    ← positions'.2]

end Planned

/-! ## Detached motions -/

section Detached

variable {K : Type} [Field K] [LinearOrder K] {trajectory : TrajectoryControl K} {approach first : Segment K}
  {rest : List (Segment K)}

/-- A segment that is moved in time. -/
def Segment.shift (segment : Segment K) (delay : K) : Segment K := { segment with start := segment.start + delay }

omit [LinearOrder K] in
theorem connected_shift {earlier later : Segment K} (connected : Connected earlier later) (delay : K) :
    Connected (earlier.shift delay) (later.shift delay) := by
  refine ⟨?_, connected.2⟩
  change later.start + delay = earlier.start + delay + earlier.duration
  rw [connected.1]
  ring

omit [LinearOrder K] in
theorem approachEnd_rebind {segments : List (Segment K)} {count : ℕ} (few : count ≤ segments.length)
    (start : approach.start = 0) :
    approachEnd (approach :: segments.map fun segment => segment.shift approach.duration) (count + 1) =
      approachEnd segments count + approach.duration := by
  unfold approachEnd
  rw [if_neg (Nat.succ_ne_zero count), Nat.add_sub_cancel]
  cases count with
  | zero =>
    rw [if_pos rfl, zero_add]
    change approach.start + approach.duration = approach.duration
    rw [start, zero_add]
  | succ count =>
    have inside : count < segments.length := few
    rw [if_neg (Nat.succ_ne_zero count), Nat.add_sub_cancel, List.getElem?_cons_succ, List.getElem?_map,
      List.getElem?_eq_getElem inside]
    change segments[count].start + approach.duration + segments[count].duration =
      segments[count].start + segments[count].duration + approach.duration
    ring

/-- A contiguous motion stays contiguous behind a segment that leads to its start. -/
theorem Contiguous.rebind (contiguous : Contiguous trajectory) (segments : trajectory.segments = first :: rest)
    (start : approach.start = 0) (shape : approach.coefficients.length = trajectory.joints.length)
    (leads : (approach.coefficients.map fun c => c.sample 1) = first.coefficients.map fun c => c.sample 0) :
    Contiguous (trajectory.rebind approach) := by
  have begin : first.start = 0 := by
    have start := contiguous.start
    rw [segments] at start
    exact Option.some.inj start
  refine ⟨contiguous.joints, List.cons_ne_nil _ _, fun segment member => ?_, congrArg some start, ?_, ?_, ?_, ?_⟩
  · rcases List.mem_cons.mp member with rfl | member
    · exact shape
    · obtain ⟨original, known, rfl⟩ := List.mem_map.mp member
      exact contiguous.shape original known
  · have shifted : (trajectory.segments.map fun segment => segment.shift approach.duration).IsChain Connected :=
      (List.isChain_map _).mpr (contiguous.connected.imp fun earlier later connected =>
        connected_shift connected approach.duration)
    change (approach :: trajectory.segments.map fun segment => segment.shift approach.duration).IsChain Connected
    rw [segments] at shifted ⊢
    refine List.isChain_cons_cons.mpr ⟨⟨?_, leads.symm⟩, shifted⟩
    change first.start + approach.duration = approach.start + approach.duration
    rw [begin, start]
  · have finish := contiguous.finish
    change ((approach :: trajectory.segments.map fun segment => segment.shift approach.duration).getLast?.map
      fun segment => segment.start + segment.duration) = some (trajectory.referenceDuration + approach.duration)
    obtain ⟨last, ends, -⟩ := contiguous.last
    rw [ends, Option.map_some, Option.some.injEq] at finish
    rw [List.getLast?_cons, List.getLast?_map, ends, ← finish]
    change some (last.start + approach.duration + last.duration) = _
    congr 1
    ring
  · change trajectory.approachSegmentCount + 1 ≤ (trajectory.segments.map _).length + 1
    rw [List.length_map]
    exact Nat.succ_le_succ contiguous.few
  · change trajectory.approachDuration + approach.duration = _
    rw [contiguous.approach]
    exact (approachEnd_rebind contiguous.few start).symm

/-- A motion behind a new segment ends where it ended. -/
theorem finalPositions_rebind (contiguous : Contiguous trajectory) :
    (trajectory.rebind approach).finalPositions = trajectory.finalPositions := by
  obtain ⟨last, ends, shape⟩ := contiguous.last
  have later : (trajectory.rebind approach).segments.getLast? = some (last.shift approach.duration) := by
    change (approach :: trajectory.segments.map fun segment => segment.shift approach.duration).getLast? = _
    rw [List.getLast?_cons, List.getLast?_map, ends]
    rfl
  have moved := finalPositions_of_last later contiguous.joints shape
  rw [finalPositions_of_last ends contiguous.joints shape]
  exact moved

omit [LinearOrder K] in
theorem sampledPvCoefficients_ends (first second : K) : (sampledPvCoefficients first second).sample 0 = first ∧
    (sampledPvCoefficients first second).sample 1 = second := by
  constructor <;> simp [sampledPvCoefficients, Coefficients.sample, Coefficients.asPolynomial, evaluate]

variable [IsStrictOrderedRing K] {sqrt : K → K} {mode : ControlMode} {predecessor : List K}

omit [IsStrictOrderedRing K] in
theorem le_approachSegmentDuration :
    1 / 10 ≤ approachSegmentDuration sqrt mode predecessor trajectory first := by
  unfold approachSegmentDuration
  have grows (lengthen : K → TrajectoryJoint K × ℕ → K) (longer : ∀ duration item, duration ≤ lengthen duration item)
      (items : List (TrajectoryJoint K × ℕ)) (duration : K) : duration ≤ items.foldl lengthen duration := by
    induction items generalizing duration with
    | nil => exact le_rfl
    | cons item items ih => exact (longer duration item).trans (ih _)
  exact grows _ (fun duration item => (le_max_left _ _).trans (le_max_left _ _)) _ _

theorem approachSegmentDuration_pos : 0 < approachSegmentDuration sqrt mode predecessor trajectory first :=
  lt_of_lt_of_le (by norm_num) le_approachSegmentDuration

/-- The inserted segment leads from the predecessor to the start of the motion. -/
theorem approachSegment_ends (length : predecessor.length = trajectory.joints.length)
    (shape : first.coefficients.length = trajectory.joints.length) :
    ((approachSegment sqrt mode predecessor trajectory first).coefficients.map fun c => c.sample 0) = predecessor ∧
      ((approachSegment sqrt mode predecessor trajectory first).coefficients.map fun c => c.sample 1) =
        first.coefficients.map fun c => c.sample 0 := by
  have target : (List.range trajectory.joints.length).map (fun index => (first.joint index).sample 0) =
      first.coefficients.map fun c => c.sample 0 := by
    have joints := map_range_getD shape (⟨0, 0, 0, 0, 0, 0⟩ : Coefficients K)
    conv_rhs => rw [← joints]
    rw [List.map_map]
    rfl
  have source := map_range_getD length (0 : K)
  have positive : approachSegmentDuration sqrt mode predecessor trajectory first ≠ 0 := approachSegmentDuration_pos.ne'
  unfold approachSegment
  simp only [List.map_map]
  cases trajectory.execution with
  | quintic =>
    have ends (index : ℕ) := quinticCoefficients_reproduces positive two_ne_zero (predecessor.getD index 0) 0 0
      ((first.joint index).sample 0) ((first.joint index).sampleVelocity 0 first.duration)
      ((first.joint index).sampleAcceleration 0 first.duration)
    refine ⟨Eq.trans (List.map_congr_left fun index _ => (ends index).startPosition) source, ?_⟩
    exact Eq.trans (List.map_congr_left fun index _ => (ends index).endPosition) target
  | trajectoryPv =>
    refine ⟨Eq.trans (List.map_congr_left fun index _ => (sampledPvCoefficients_ends _ _).1) source, ?_⟩
    exact Eq.trans (List.map_congr_left fun index _ => (sampledPvCoefficients_ends _ _).2) target

end Detached

/-! ## The FIFO of an engine -/

section Linked

variable {K : Type} [Field K]

/-- Every queued motion is contiguous and starts where the motion in front of it ends, the active motion being in front
of the first. -/
structure Engine.Continuous (s : Engine K) : Prop where
  chain : (s.trajectoryControl :: s.trajectoryQueue).IsChain Follows
  queued : ∀ motion ∈ s.trajectoryQueue, Contiguous motion

/-- The FIFO is continuous, and nothing waits behind a motion that does not run. -/
structure Engine.Linked (s : Engine K) : Prop extends s.Continuous where
  running : s.trajectoryQueue ≠ [] → s.trajectoryControl.state = .running
  active : s.trajectoryControl.state = .running ∨ s.trajectoryControl.state = .completed →
    Contiguous s.trajectoryControl

/-- An engine without queued motions. -/
theorem linked_of_empty {s : Engine K} (empty : s.trajectoryQueue = [])
    (active : s.trajectoryControl.state = .running ∨ s.trajectoryControl.state = .completed →
      Contiguous s.trajectoryControl) : s.Linked := by
  refine ⟨⟨?_, fun motion member => ?_⟩, fun some => absurd empty some, active⟩
  · rw [empty]
    exact .singleton _
  · rw [empty] at member
    exact absurd member List.not_mem_nil

theorem linked_initial (mode : ControlMode) : (Engine.initial mode : Engine K).Linked :=
  linked_of_empty rfl (by rintro (running | completed) <;> contradiction)

variable {s : Engine K}

/-- A new state of the active motion. -/
theorem Engine.Linked.update (linked : s.Linked) {trajectory : TrajectoryControl K}
    (plan : SamePlan s.trajectoryControl trajectory) (state : s.trajectoryControl.state.Runs trajectory.state)
    (running : s.trajectoryQueue ≠ [] → trajectory.state = .running) :
    ({ s with trajectoryControl := trajectory } : Engine K).Linked := by
  refine ⟨⟨isChain_of_finalPositions linked.chain plan.finalPositions, linked.queued⟩, running, fun monitored => ?_⟩
  refine plan.contiguous (linked.active ?_)
  rcases state with same | ⟨before, -⟩
  · rwa [← same]
  · exact before

variable [LinearOrder K]

theorem linked_terminate (s : Engine K) (ending : Ending) (error : String) : (s.terminate ending error).Linked := by
  refine linked_of_empty rfl fun monitored => ?_
  rw [terminate_trajectoryControl] at monitored
  by_cases before : s.trajectoryControl.state = .running ∨ s.trajectoryControl.state = .completed
  · rw [terminate_state before] at monitored
    cases ending <;> rcases monitored with wrong | wrong <;> cases wrong
  · rw [TrajectoryControl.terminate, if_neg before] at monitored
    exact absurd monitored before

omit [LinearOrder K] in
/-- The motion that becomes active keeps its plan. -/
theorem samePlan_activate (s : Engine K) (trajectory : TrajectoryControl K) (now : K) :
    SamePlan trajectory (s.activate trajectory now).trajectoryControl := by
  constructor <;> rfl

omit [LinearOrder K] in
/-- A motion becomes active in front of a queue. -/
theorem linked_activate {trajectory : TrajectoryControl K} (contiguous : Contiguous trajectory)
    (chain : (trajectory :: s.trajectoryQueue).IsChain Follows)
    (queued : ∀ motion ∈ s.trajectoryQueue, Contiguous motion) (now : K) : (s.activate trajectory now).Linked := by
  have plan := samePlan_activate s trajectory now
  exact ⟨⟨isChain_of_finalPositions chain plan.finalPositions, queued⟩, fun _ => rfl, fun _ => plan.contiguous contiguous⟩

/-- The first queued motion takes over from a completed one. -/
theorem Engine.Linked.activateNext (linked : s.Linked) {trajectory : TrajectoryControl K}
    (plan : SamePlan s.trajectoryControl trajectory) (running : s.trajectoryControl.state = .running)
    (completed : trajectory.state = .completed) (now : K) :
    (({ s with trajectoryControl := trajectory } : Engine K).activateNext now).Linked := by
  unfold Engine.activateNext
  cases queue : s.trajectoryQueue with
  | nil =>
    have ended := linked.update plan (.inr ⟨.inl running, .inr completed⟩) fun some => absurd queue some
    rw [queue] at ended
    exact ended
  | cons next rest =>
    have chain := linked.chain
    have queued := linked.queued
    rw [queue] at chain queued
    obtain ⟨-, later⟩ := List.isChain_cons_cons.mp chain
    exact linked_activate (queued next List.mem_cons_self) later
      (fun motion member => queued motion (List.mem_cons_of_mem _ member)) now

/-- A running motion in front of a queue runs on, unless the cycle ends it together with the queue. -/
theorem running_settle (running : s.trajectoryControl.state = .running) (waiting : s.trajectoryQueue ≠ [])
    (seen : Seen K) (now : K) :
    (s.settle seen now).2.trajectoryQueue = [] ∨ (s.settle seen now).2.trajectoryControl.state = .running := by
  have settled := sameMotion_settled s seen now
  have done := settles s seen now
  generalize s.settle seen now = result at done
  cases done with
  | changed other => exact .inr running
  | watched hold completed same => exact absurd (running.symm.trans completed) nofun
  | approached hold running' same arrives approach => exact .inr (settled.state.trans running)
  | completed hold running' same arrives final =>
    obtain ⟨next, rest, queue⟩ := List.exists_cons_of_ne_nil waiting
    refine .inr ?_
    simp only [Engine.activateNext, queue]
    rfl
  | timedOut hold running' same waits late => exact .inl rfl
  | waits hold running' same waits inTime => exact .inr (settled.state.trans running)

theorem running_updateCompletion (roles : Motor → Option String) (running : s.trajectoryControl.state = .running)
    (waiting : s.trajectoryQueue ≠ []) (input : CycleInput K) :
    (s.updateCompletion roles input).2.trajectoryQueue = [] ∨
      (s.updateCompletion roles input).2.trajectoryControl.state = .running := by
  have done := updates roles s input
  generalize s.updateCompletion roles input = result at done
  cases done with
  | unmonitored => exact .inr running
  | handoff next rest queue running' handsOff =>
    refine .inr ?_
    simp only [Engine.activateNext, queue]
    rfl
  | interrupted ending => exact .inl rfl
  | settled =>
    have begun : (s.begun input.now).trajectoryControl.state = .running :=
      (sameMotion_beginSettling s.trajectoryControl input.now).state.trans running
    exact running_settle begun waiting _ _

theorem running_cycle (roles : Motor → Option String) (running : s.trajectoryControl.state = .running)
    (waiting : s.trajectoryQueue ≠ []) (input : CycleInput K) :
    (s.cycle roles input).2.trajectoryQueue = [] ∨ (s.cycle roles input).2.trajectoryControl.state = .running := by
  have done := cycles roles s input
  generalize s.cycle roles input = result at done
  cases done with
  | prepared trajectory same => exact .inr (same.state.trans running)
  | failed trajectory same error => exact .inl rfl
  | updated trajectory same =>
    have before : ({ s with trajectoryControl := trajectory } : Engine K).trajectoryControl.state = .running :=
      same.state.trans running
    exact running_updateCompletion roles before waiting input

/-- A control cycle keeps the FIFO. -/
theorem Engine.Linked.cycle (linked : s.Linked) (roles : Motor → Option String) (input : CycleInput K) :
    (s.cycle roles input).2.Linked := by
  have cycled := cycled_cycle roles s input
  have runs : s.trajectoryQueue ≠ [] → (s.cycle roles input).2.trajectoryQueue = [] ∨
      (s.cycle roles input).2.trajectoryControl.state = .running := fun waiting =>
    running_cycle roles (linked.running waiting) waiting input
  generalize (s.cycle roles input).2 = after at cycled runs
  cases cycled with
  | kept plan state => exact linked.update plan state fun waiting => (runs waiting).resolve_left waiting
  | terminated plan state ending error => exact linked_terminate _ ending error
  | completed plan running state => exact linked.activateNext plan running state input.now

omit [Field K] [LinearOrder K] in
theorem exists_split {queue : List (TrajectoryControl K)} {index : ℕ} {motion : TrajectoryControl K}
    (found : queue[index]? = some motion) :
    ∃ before after, queue = before ++ motion :: after ∧ before.length = index := by
  obtain ⟨inside, rfl⟩ := List.getElem?_eq_some_iff.mp found
  refine ⟨queue.take index, queue.drop (index + 1), ?_, List.length_take_of_le inside.le⟩
  rw [← List.drop_eq_getElem_cons inside, List.take_append_drop]

omit [Field K] [LinearOrder K] in
theorem getElem?_after (before after : List (TrajectoryControl K)) (queued : TrajectoryControl K) :
    (before ++ queued :: after)[before.length + 1]? = after.head? := by
  rw [List.getElem?_append_right (Nat.le_add_right _ _), Nat.add_sub_cancel_left, List.getElem?_cons_succ,
    List.head?_eq_getElem?]

omit [Field K] [LinearOrder K] in
theorem set_after (before rest : List (TrajectoryControl K)) (queued successor rebound : TrajectoryControl K) :
    (before ++ queued :: successor :: rest).set (before.length + 1) rebound = before ++ queued :: rebound :: rest := by
  rw [List.set_append, if_neg (Nat.not_lt.mpr (Nat.le_add_right _ _)), Nat.add_sub_cancel_left]
  rfl

/-- A motion leaves a row of motions that is continuous without it. -/
theorem Engine.Linked.dequeue (linked : s.Linked) {before after : List (TrajectoryControl K)}
    {queued : TrajectoryControl K} {queue : List (TrajectoryControl K)}
    (waiting : s.trajectoryQueue ≠ []) (split : queue = before ++ queued :: after)
    (chain : (s.trajectoryControl :: (before ++ after)).IsChain Follows)
    (contiguous : ∀ motion ∈ before ++ after, Contiguous motion) :
    (({ s with trajectoryQueue := queue } : Engine K).dequeue before.length queued).Linked := by
  have control : (({ s with trajectoryQueue := queue } : Engine K).dequeue before.length queued).trajectoryControl =
      s.trajectoryControl := archive_trajectoryControl _ _
  have erased : (({ s with trajectoryQueue := queue } : Engine K).dequeue before.length queued).trajectoryQueue =
      before ++ after := by
    change queue.eraseIdx before.length = _
    rw [split, List.eraseIdx_append_of_length_le le_rfl, Nat.sub_self]
    rfl
  refine ⟨⟨?_, ?_⟩, fun _ => ?_, fun monitored => ?_⟩
  · rwa [control, erased]
  · rwa [erased]
  · rw [control]
    exact linked.running waiting
  · rw [control] at monitored ⊢
    exact linked.active monitored

omit [LinearOrder K] in
/-- The sample of the motion in front of a queued one. -/
theorem predecessorSample_eq {before after : List (TrajectoryControl K)}
    (split : s.trajectoryQueue = before ++ after) :
    ∃ earlier front, s.trajectoryControl :: before = earlier ++ [front] ∧
      s.predecessorSample before.length = front.finalSample := by
  cases before using List.reverseRecOn with
  | nil => exact ⟨[], s.trajectoryControl, rfl, rfl⟩
  | append_singleton before front =>
    refine ⟨s.trajectoryControl :: before, front, rfl, ?_⟩
    have place : s.trajectoryQueue[before.length]? = some front := by
      rw [split, List.append_assoc, List.getElem?_append_right le_rfl, Nat.sub_self]
      rfl
    rw [Engine.predecessorSample, List.length_append, List.length_singleton, if_neg (Nat.succ_ne_zero _),
      Nat.add_sub_cancel, place]
    rfl

/-- What a successor that is detached from a cancelled motion is. -/
structure Detached (sqrt : K → K) (mode : ControlMode) (front successor rebound : TrajectoryControl K) : Prop where
  contiguous : Contiguous rebound
  follows : Follows front rebound
  same : rebound.finalPositions = successor.finalPositions

variable [IsStrictOrderedRing K] {sqrt : K → K} {mode : ControlMode}

theorem detached_of_ok {front successor rebound : TrajectoryControl K} (contiguous : Contiguous successor)
    (ok : detach sqrt mode front.finalSample successor = .ok rebound) : Detached sqrt mode front successor rebound := by
  obtain ⟨sample, first, rest, sampled, segments, length, -, rfl⟩ := detach_eq_ok ok
  have shape : first.coefficients.length = successor.joints.length :=
    contiguous.shape first (segments ▸ List.mem_cons_self)
  obtain ⟨starts, leads⟩ : ((approachSegment sqrt mode sample.positions successor first).coefficients.map
        fun c => c.sample 0) = sample.positions ∧
      ((approachSegment sqrt mode sample.positions successor first).coefficients.map fun c => c.sample 1) =
        first.coefficients.map fun c => c.sample 0 := approachSegment_ends length shape
  refine ⟨contiguous.rebind segments rfl ?_ leads, ⟨sample.positions, ?_, ?_⟩, finalPositions_rebind contiguous⟩
  · exact (List.length_map _).trans List.length_range
  · rw [TrajectoryControl.finalPositions, sampled]
    rfl
  · exact congrArg some starts

/-- `cancel_motion` keeps the FIFO. -/
theorem Engine.Linked.cancelMotion (linked : s.Linked) (id : ℕ) : (s.cancelMotion sqrt id).2.Linked := by
  have done := cancels sqrt s id
  generalize s.cancelMotion sqrt id = result at done
  cases done with
  | refused error => exact linked
  | ended => exact linked
  | active running same => exact linked_terminate s _ _
  | last index queued found last =>
    obtain ⟨before, after, split, rfl⟩ := exists_split found
    have waiting : s.trajectoryQueue ≠ [] := split ▸ by simp
    have chain := linked.chain
    have contiguous := linked.queued
    obtain rfl : after = [] := by
      rw [split, getElem?_after] at last
      exact List.head?_eq_none_iff.mp last
    rw [split] at chain contiguous
    refine linked.dequeue waiting split ?_ fun motion member => ?_
    · rw [List.append_nil]
      exact (List.isChain_append.mp (List.cons_append ▸ chain)).1
    · rw [List.append_nil] at member
      exact contiguous motion (List.mem_append_left _ member)
  | detached index queued successor rebound found next ok =>
    obtain ⟨before, after, split, rfl⟩ := exists_split found
    have waiting : s.trajectoryQueue ≠ [] := split ▸ by simp
    have chain := linked.chain
    have contiguous := linked.queued
    obtain ⟨rest, rfl⟩ : ∃ rest, after = successor :: rest := by
      rw [split, getElem?_after] at next
      exact List.head?_eq_some_iff.mp next
    obtain ⟨earlier, front, row, sampled⟩ := predecessorSample_eq split
    rw [split] at chain contiguous
    rw [sampled] at ok
    have detached := detached_of_ok (contiguous successor (by simp)) ok
    have replaced : s.trajectoryQueue.set (before.length + 1) rebound = before ++ queued :: rebound :: rest := by
      rw [split, set_after]
    refine linked.dequeue waiting replaced ?_ fun motion member => ?_
    · rw [← List.cons_append, row, List.append_assoc] at chain ⊢
      exact isChain_remove chain detached.follows detached.same
    · rcases List.mem_append.mp member with early | late
      · exact contiguous motion (List.mem_append_left _ early)
      · rcases List.mem_cons.mp late with rfl | later
        · exact detached.contiguous
        · exact contiguous motion (by simp [later])

/-! ### Starts -/

/-- An enqueued trajectory is planned to start at the sample of `planned_trajectory_tail_sample`, whatever
`planned_arm_sample` answers. -/
def Event.PlannedAtTail (s : Engine K) : Event K → Prop
  | .start request _ true _ _ => ∃ plannedArm : Option (Sample K),
      request.waypoints.head?.map Waypoint.positions =
        (s.plannedTrajectoryTailSample plannedArm).map Sample.positions
  | _ => True

/-- A trajectory that replaces the active one in front of a queue ends where that one ends. -/
def Event.KeepsEnd (s : Engine K) : Event K → Prop
  | .start request _ false _ _ => s.trajectoryQueue ≠ [] →
      request.waypoints.getLast?.map Waypoint.positions = s.trajectoryControl.finalPositions
  | _ => True

omit [LinearOrder K] [IsStrictOrderedRing K] in
/-- The last of the running and the queued motions, and the sample of its end. -/
theorem tailSample_eq (linked : s.Linked) (running : s.trajectoryControl.state = .running)
    (plannedArm : Option (Sample K)) :
    ∃ earlier tail, s.trajectoryControl :: s.trajectoryQueue = earlier ++ [tail] ∧
      (s.plannedTrajectoryTailSample plannedArm).map Sample.positions = tail.finalPositions := by
  unfold Engine.plannedTrajectoryTailSample
  cases queue : s.trajectoryQueue using List.reverseRecOn with
  | nil =>
    obtain ⟨last, ends, shape⟩ := (linked.active (.inl running)).last
    have final := finalPositions_of_last ends (linked.active (.inl running)).joints shape
    refine ⟨[], s.trajectoryControl, rfl, ?_⟩
    obtain ⟨sample, sampled, -⟩ := Option.map_eq_some_iff.mp final
    rw [List.getLast?_nil, Option.bind_none]
    simp only
    rw [if_pos (.inl running), TrajectoryControl.finalPositions, sampled]
  | append_singleton before tail =>
    have contiguous := linked.queued tail (by rw [queue]; exact List.mem_append_right _ List.mem_cons_self)
    obtain ⟨last, ends, shape⟩ := contiguous.last
    have final := finalPositions_of_last ends contiguous.joints shape
    refine ⟨s.trajectoryControl :: before, tail, rfl, ?_⟩
    obtain ⟨sample, sampled, -⟩ := Option.map_eq_some_iff.mp final
    rw [List.getLast?_concat, Option.bind_some, TrajectoryControl.finalPositions, sampled]

/-- A start keeps the FIFO if it is planned at the tail or ends where the replaced motion ends. -/
theorem Engine.Linked.start (linked : s.Linked) {arms : List Motor} {request : Request K} {replace : ℕ}
    {enqueue : Bool} {conditions : StartConditions K} {now : K}
    (atTail : (Event.start request replace enqueue conditions now).PlannedAtTail s)
    (keeps : (Event.start request replace enqueue conditions now).KeepsEnd s) :
    (s.startTrajectory arms request replace enqueue conditions now).2.Linked := by
  cases answer : s.startTrajectory arms request replace enqueue conditions now with
  | mk result after =>
  cases result with
  | error error =>
    rcases startTrajectory_error answer with rfl | rfl
    · exact linked
    · exact ⟨⟨linked.chain, linked.queued⟩, linked.running, linked.active⟩
  | ok id =>
    obtain ⟨plan, started⟩ := started_of_ok answer
    have planned := planned_of_ok started.planned
    have contiguous := planned.contiguous s.nextMotionId
    have starts := planned.startPositions s.nextMotionId
    have ends := planned.finalPositions s.nextMotionId
    rw [started.after]
    unfold Engine.install
    by_cases running : s.trajectoryControl.state = .running
    · cases enqueue with
      | true =>
        obtain ⟨plannedArm, atTail⟩ := atTail
        obtain ⟨earlier, tail, row, tailed⟩ := tailSample_eq linked running plannedArm
        rw [if_pos ⟨rfl, running⟩]
        have tailContiguous : Contiguous tail := by
          have member : tail ∈ s.trajectoryControl :: s.trajectoryQueue := row ▸ List.mem_append_right _ List.mem_cons_self
          rcases List.mem_cons.mp member with rfl | member
          · exact linked.active (.inl running)
          · exact linked.queued tail member
        obtain ⟨last, final, shape⟩ := tailContiguous.last
        have tailEnds := finalPositions_of_last final tailContiguous.joints shape
        have follows : Follows tail (preparedTrajectory s.nextMotionId request plan) :=
          ⟨_, tailEnds, by rw [starts, atTail, tailed, tailEnds]⟩
        refine ⟨⟨?_, fun motion member => ?_⟩, fun _ => running, linked.active⟩
        · have chain := linked.chain
          change ((s.trajectoryControl :: s.trajectoryQueue) ++ [preparedTrajectory s.nextMotionId request plan]).IsChain
            Follows
          rw [row] at chain ⊢
          rw [List.append_assoc]
          exact List.isChain_append_cons_cons.mpr ⟨chain, follows, .singleton _⟩
        · rcases List.mem_append.mp member with earlier | new
          · exact linked.queued motion earlier
          · rw [List.mem_singleton.mp new]
            exact contiguous
      | false =>
        rw [if_neg (fun both => absurd both.1 nofun), if_pos running]
        refine linked_activate (s := { s with nextMotionId := s.nextMotionId + 1 }) contiguous ?_ linked.queued now
        by_cases waiting : s.trajectoryQueue = []
        · change (preparedTrajectory s.nextMotionId request plan :: s.trajectoryQueue).IsChain Follows
          rw [waiting]
          exact .singleton _
        · exact isChain_of_finalPositions linked.chain (ends.trans (keeps waiting))
    · have empty : s.trajectoryQueue = [] := by
        by_contra waiting
        exact running (linked.running waiting)
      rw [if_neg (fun both => running both.2), if_neg running]
      have queue : (({ s with nextMotionId := s.nextMotionId + 1 } : Engine K).archive
          s.trajectoryControl).trajectoryQueue = [] := (archive_trajectoryQueue _ _).trans empty
      refine linked_activate contiguous ?_ (fun motion member => ?_) now
      · rw [queue]
        exact .singleton _
      · rw [queue] at member
        exact absurd member List.not_mem_nil

/-- An operation keeps the FIFO. -/
theorem linked_step (arms : List Motor) (roles : Motor → Option String) (linked : s.Linked) {event : Event K}
    (atTail : event.PlannedAtTail s) (keeps : event.KeepsEnd s) : (step arms roles sqrt s event).1.Linked := by
  cases event with
  | start request replace enqueue conditions now => exact linked.start atTail keeps
  | cancel id => exact linked.cancelMotion id
  | cancelAll => exact linked_terminate s _ _
  | terminate ending error => exact linked_terminate s ending error
  | power mode disabled =>
    have terminated := linked_terminate s .cancelled "trajectory cancelled by a motor power change"
    exact ⟨⟨terminated.chain, terminated.queued⟩, terminated.running, terminated.active⟩
  | cycle input => exact linked.cycle roles input

/-- A run keeps the FIFO. -/
theorem linked_run (arms : List Motor) (roles : Motor → Option String) (sqrt : K → K) (mode : ControlMode)
    (events : List (Event K)) (atTail : ∀ e ∈ run arms roles sqrt mode events, e.call.PlannedAtTail e.before)
    (keeps : ∀ e ∈ run arms roles sqrt mode events, e.call.KeepsEnd e.before) :
    (final arms roles sqrt mode events).Linked ∧ ∀ e ∈ run arms roles sqrt mode events, e.after.Linked := by
  revert atTail keeps
  refine History.history_induction (H := fun h m => (∀ e ∈ h, e.call.PlannedAtTail e.before) →
    (∀ e ∈ h, e.call.KeepsEnd e.before) → m.Linked ∧ ∀ e ∈ h, e.after.Linked) (step arms roles sqrt) ?_ ?_ events
  · exact fun _ _ => ⟨linked_initial mode, fun _ member => absurd member List.not_mem_nil⟩
  · intro h m event ih atTail keeps
    obtain ⟨linked, earlier⟩ := ih (fun e member => atTail e (List.mem_append_left _ member))
      (fun e member => keeps e (List.mem_append_left _ member))
    have next : (step arms roles sqrt m event).1.Linked := linked_step arms roles linked
      (atTail _ (List.mem_append_right _ List.mem_cons_self)) (keeps _ (List.mem_append_right _ List.mem_cons_self))
    refine ⟨next, fun e member => ?_⟩
    rcases List.mem_append.mp member with before | last
    · exact earlier e before
    · rw [List.mem_singleton.mp last]
      exact next

end Linked

/-! ## Runs -/

noncomputable section

/-- A segment of a joint respects its limits at every point, up to the tolerance of the tests and the error of the root
isolation. -/
structure Respects (joint : TrajectoryJoint ℝ) (duration : ℝ) (coefficients : Coefficients ℝ) : Prop where
  position : ∀ u, 0 ≤ u → u ≤ 1 →
    joint.lowerPosition - limitTolerance - isolationError coefficients.slope 5 ≤ coefficients.sample u ∧
      coefficients.sample u ≤ joint.upperPosition + limitTolerance + isolationError coefficients.slope 5
  velocity : ∀ u, 0 ≤ u → u ≤ 1 → |coefficients.sampleVelocity u duration| ≤
    joint.velocityLimit + limitTolerance + isolationError coefficients.slope 4 / duration
  acceleration : ∀ u, 0 ≤ u → u ≤ 1 → |coefficients.sampleAcceleration u duration| ≤
    joint.accelerationLimit + limitTolerance + isolationError coefficients.slope 3 / (duration * duration)

theorem Accepted.respects {joint : TrajectoryJoint ℝ} {duration : ℝ} {coefficients : Coefficients ℝ} {segment : ℕ}
    (accepted : Accepted duration segment joint coefficients .none true) (positive : 0 < duration) :
    Respects joint duration coefficients := by
  refine ⟨fun u above below => ?_, fun u above below => ?_, fun u above below => ?_⟩
  · exact accepted.position_bounds above below
  · exact velocity_bounds positive (fun r member => (accepted.velocity rfl r member).1) above below
  · exact acceleration_bounds positive (accepted.acceleration rfl) above below

/-- What `cancel_motion` promises: a throw changes no motion, and a segment that is inserted into a queued motion respects
the limits of the joints. -/
structure CancelKept (s s' : Engine ℝ) (result : Except (CancelError ℝ) Unit) : Prop where
  thrown : ∀ error, result = .error error → s'.trajectoryControl = s.trajectoryControl ∧
    s'.trajectoryQueue = s.trajectoryQueue ∧ s'.trajectoryHistory = s.trajectoryHistory
  inserted : ∀ motion ∈ s'.trajectoryQueue, motion ∈ s.trajectoryQueue ∨
    ∃ successor ∈ s.trajectoryQueue, ∃ approach, motion = successor.rebind approach ∧
      ∀ (j : ℕ) (joint : TrajectoryJoint ℝ) (c : Coefficients ℝ), successor.joints[j]? = some joint →
        approach.coefficients[j]? = some c → Respects joint approach.duration c

theorem cancelKept (sqrt : ℝ → ℝ) (s : Engine ℝ) (id : ℕ) :
    CancelKept s (s.cancelMotion sqrt id).2 (s.cancelMotion sqrt id).1 := by
  have done := cancels sqrt s id
  generalize s.cancelMotion sqrt id = result at done
  cases done with
  | refused error => exact ⟨fun _ _ => ⟨rfl, rfl, rfl⟩, fun motion member => .inl member⟩
  | ended => exact ⟨nofun, fun motion member => .inl member⟩
  | active running same => exact ⟨nofun, fun motion member => absurd member List.not_mem_nil⟩
  | last index queued found last => exact ⟨nofun, fun motion member => .inl (List.mem_of_mem_eraseIdx member)⟩
  | detached index queued successor rebound found next ok =>
    refine ⟨nofun, fun motion member => ?_⟩
    rcases List.mem_or_eq_of_mem_set (List.mem_of_mem_eraseIdx member) with old | rfl
    · exact .inl old
    obtain ⟨sample, first, rest, -, -, -, validated, rfl⟩ := detach_eq_ok ok
    refine .inr ⟨successor, List.mem_of_getElem? next, _, rfl, fun j joint c found found' => ?_⟩
    have entry : (joint, c, Recovery.none) ∈ successor.joints.zip ((approachSegment sqrt s.mode sample.positions
        successor first).coefficients.map fun c => (c, Recovery.none)) := by
      refine List.mem_of_getElem? (i := j) (List.getElem?_zip_eq_some.mpr ⟨found, ?_⟩)
      rw [List.getElem?_map, found', Option.map_some]
    exact (accepted_of_validated validated entry).respects approachSegmentDuration_pos

/-- In every run whose queued motions are planned at the tail, and whose replacing motions in front of a queue end where
the replaced ones end, the FIFO stays continuous, and every cancellation keeps its promises. -/
theorem fifo_continuous (arms : List Motor) (roles : Motor → Option String) (sqrt : ℝ → ℝ) (mode : ControlMode)
    (events : List (Event ℝ))
    (atTail : ∀ e ∈ run arms roles sqrt mode events, e.call.PlannedAtTail e.before)
    (keeps : ∀ e ∈ run arms roles sqrt mode events, e.call.KeepsEnd e.before) :
    (final arms roles sqrt mode events).Continuous ∧
      ∀ e ∈ run arms roles sqrt mode events, e.after.Continuous ∧
        ∀ id result, e.call = .cancel id → e.answer = .cancelled result → CancelKept e.before e.after result := by
  obtain ⟨linked, states⟩ := linked_run arms roles sqrt mode events atTail keeps
  refine ⟨linked.toContinuous, fun e member => ⟨(states e member).toContinuous, fun id result called answered => ?_⟩⟩
  obtain ⟨m, event, rfl⟩ := History.exists_entry_of_mem _ member
  obtain rfl : event = .cancel id := called
  cases answered
  exact cancelKept sqrt m id

/-- A motion to the upper limit, and a queued one back. -/
def thereAndBack : List (Event ℝ) :=
  [.start lineRequest 0 false lineConditions 0,
    .start { lineRequest with waypoints := [⟨0, [1], [0], [0], 0, 0⟩, ⟨1, [0], [0], [0], 0, 0⟩] } 0 true
      lineConditions 0]

theorem fifo_continuous_thereAndBack : (final [7] (fun _ => none) id .pv thereAndBack).Continuous := by
  refine (fifo_continuous [7] (fun _ => none) id .pv thereAndBack (fun e member => ?_) fun e member => ?_).1
  · obtain rfl | rfl : e = _ ∨ e = _ := by simpa [thereAndBack, run, History.run] using member
    · trivial
    · refine ⟨none, ?_⟩
      change some [1] = ((((Engine.initial .pv).startTrajectory [7] lineRequest 0 false lineConditions 0).2
        ).plannedTrajectoryTailSample none).map Sample.positions
      rw [startTrajectory_line]
      norm_num [Engine.install, Engine.initial, idleTrajectory, Engine.archive, Engine.activate,
        Engine.plannedTrajectoryTailSample, TrajectoryControl.finalSample, preparedTrajectory, linePlan, lineRequest,
        sampledPvCoefficients, Coefficients.sample, Coefficients.asPolynomial, evaluate]
  · obtain rfl | rfl : e = _ ∨ e = _ := by simpa [thereAndBack, run, History.run] using member
    · exact fun waiting => absurd rfl waiting
    · trivial

end

/-! ### A replacement that ends elsewhere -/

section Overtaken

/-- A motion of one joint between two positions. -/
def moveRequest (start finish : ℚ) : Request ℚ where
  mode := .pv
  operation := .moveLinear
  execution := .trajectoryPv
  pvReferenceVelocity := 1
  pvReferenceAcceleration := 1
  pvDriveVelocityLimit := 1
  allowOutOfLimitStartRecovery := false
  approachSegmentCount := 0
  approachDeadline := 0
  completionDeadline := 0
  cartesianTrackingJointMask := 0
  joints := [unitJoint]
  waypoints := [⟨0, [start], [0], [0], 0, 0⟩, ⟨1, [finish], [0], [0], 0, 0⟩]
  approachConvergenceCheck := false
  finalConvergenceCheck := false

/-- A motion, a queued one from its end, and a motion to another end that replaces the first. -/
def overtaken : List (Event ℚ) :=
  [.start (moveRequest 0 (1 / 2)) 0 false (ready 0 0) 0,
    .start (moveRequest (1 / 2) 0) 0 true { ready 0 0 with plannedReference := true } 0,
    .start (moveRequest 0 (-1 / 2)) 1 false (ready 0 0) 0]

/-- The queued motion is planned at the tail, and after the replacement it starts elsewhere than the active motion
ends. -/
theorem fifo_overtaken : (∀ e ∈ run [7] (fun _ => none) id .pv overtaken, e.call.PlannedAtTail e.before) ∧
    ¬ (final [7] (fun _ => none) id .pv overtaken).Continuous := by
  constructor
  · intro e member
    obtain rfl | rfl | rfl : e = _ ∨ e = _ ∨ e = _ := by simpa [overtaken, run, History.run] using member
    · trivial
    · exact ⟨none, by decide +kernel⟩
    · trivial
  · intro continuous
    have active : (final [7] (fun _ => none) id .pv overtaken).trajectoryControl.finalPositions = some [-1 / 2] := by
      decide +kernel
    have queued : ((final [7] (fun _ => none) id .pv overtaken).trajectoryQueue.map
        TrajectoryControl.startPositions) = [some [1 / 2]] := by decide +kernel
    obtain ⟨next, rest, queue, first, -⟩ := List.map_eq_cons_iff.mp queued
    have chain := continuous.chain
    rw [queue] at chain
    obtain ⟨⟨positions, ends, starts⟩, -⟩ := List.isChain_cons_cons.mp chain
    rw [active, Option.some.injEq] at ends
    rw [starts, ← ends] at first
    revert first
    decide +kernel

end Overtaken

end MotorDrive.Trajectory
