import MotorDrive.Trajectory.Limits
import MotorDrive.Trajectory.Plan

/-!
# What a plan consists of

A planned request has one segment between any two consecutive waypoints, validated and with the positions
of the waypoints at its ends (`Planned`), and the segments follow each other without a gap.
-/

namespace MotorDrive.Trajectory

open Validate

variable {K : Type} [Field K]

/-- The position of a joint at a waypoint. -/
def Request.position (request : Request K) (j k : ℕ) : K :=
  ((request.waypoints[k]?).map fun waypoint => waypoint.positions.getD j 0).getD 0

/-! ## Prepared waypoints -/

theorem length_preparedWaypoints (request : Request K) :
    request.preparedWaypoints.length = request.waypoints.length := by
  unfold Request.preparedWaypoints
  split_ifs <;> simp

/-- Preparing keeps the positions and shifts the time. -/
theorem preparedWaypoints_getElem? {request : Request K} {k : ℕ} {waypoint : Waypoint K}
    (found : request.waypoints[k]? = some waypoint) :
    ∃ prepared, request.preparedWaypoints[k]? = some prepared ∧ prepared.positions = waypoint.positions ∧
      prepared.time = waypoint.time - request.timeOrigin := by
  have shifted := congrArg (Option.map fun waypoint =>
    ({ waypoint with time := waypoint.time - request.timeOrigin } : Waypoint K)) found
  rw [← List.getElem?_map] at shifted
  unfold Request.preparedWaypoints
  split_ifs
  · exact ⟨_, shifted, rfl, rfl⟩
  · rw [List.getElem?_mapIdx, shifted]
    exact ⟨_, rfl, rfl, rfl⟩

theorem preparedWaypoints_position {request : Request K} {k : ℕ} {prepared : Waypoint K}
    (found : request.preparedWaypoints[k]? = some prepared) (j : ℕ) :
    prepared.positions.getD j 0 = request.position j k := by
  have lt := (List.getElem?_eq_some_iff.mp found).1
  rw [length_preparedWaypoints] at lt
  have at_k : request.waypoints[k]? = some request.waypoints[k] := List.getElem?_eq_getElem lt
  obtain ⟨same, at_k', positions, -⟩ := preparedWaypoints_getElem? at_k
  cases found.symm.trans at_k'
  simp [Request.position, at_k, positions]

variable [LinearOrder K]

theorem checkWaypoint_eq_ok {request : Request K} {tracks tracks' : List (Track K)} {waypoint : Waypoint K} {k : ℕ}
    (ok : checkWaypoint request tracks (waypoint, k) = .ok tracks') :
    (∀ previous, 0 < k → request.waypoints[k - 1]? = some previous → previous.time < waypoint.time) ∧
      ((request.joints.zip tracks).zipIdx.mapM fun ((joint, track), jointIndex) =>
        checkWaypointJoint request k waypoint jointIndex joint track) = .ok tracks' := by
  obtain ⟨increasing, rest⟩ := reject_bind_eq_ok ok
  obtain ⟨-, rest'⟩ := reject_bind_eq_ok rest
  obtain ⟨-, joints⟩ := reject_bind_eq_ok rest'
  refine ⟨fun previous later found => ?_, joints⟩
  rw [found] at increasing
  simpa [later] using increasing

/-- The times of the waypoints increase. -/
theorem preparedWaypoints_increasing [IsStrictOrderedRing K] {request : Request K} {tracks : List (Track K)}
    (ok : checkWaypoints request = .ok tracks) {k : ℕ} {first second : Waypoint K}
    (at_k : request.preparedWaypoints[k]? = some first)
    (at_next : request.preparedWaypoints[k + 1]? = some second) : first.time < second.time := by
  have lt := (List.getElem?_eq_some_iff.mp at_next).1
  rw [length_preparedWaypoints] at lt
  have given : request.waypoints[k]? = some request.waypoints[k] := List.getElem?_eq_getElem (Nat.lt_of_succ_lt lt)
  have given' : request.waypoints[k + 1]? = some request.waypoints[k + 1] := List.getElem?_eq_getElem lt
  obtain ⟨states, -, -, steps⟩ := foldlM_eq_ok ok
  have checked := steps (k + 1) (request.waypoints[k + 1], k + 1) (by simp [List.getElem?_zipIdx, given'])
  have increasing := (checkWaypoint_eq_ok checked).1 _ k.succ_pos given
  obtain ⟨same, found, -, time⟩ := preparedWaypoints_getElem? given
  obtain ⟨same', found', -, time'⟩ := preparedWaypoints_getElem? given'
  cases at_k.symm.trans found
  cases at_next.symm.trans found'
  linarith

/-! ## Segments -/

/-- A segment between two waypoints, after its validation. -/
structure Made (request : Request K) (directions : List Recovery) (k : ℕ) (first second : Waypoint K)
    (segment : Segment K) : Prop where
  start : segment.start = first.time
  duration : segment.duration = second.time - first.time
  coefficients : segment.coefficients = (List.range request.joints.length).map
    (segmentCoefficients request.execution (second.time - first.time) first second)
  validated : validateSegmentExtrema segment.duration
    (request.joints.zip (segment.coefficients.zip directions)) k (request.execution ≠ .trajectoryPv) = .ok ()

theorem made_of_ok {request : Request K} {directions : List Recovery} {k : ℕ} {first second : Waypoint K}
    {segment : Segment K} (ok : makeSegment request directions k first second = .ok segment) :
    Made request directions k first second segment := by
  unfold makeSegment at ok
  simp only at ok
  split at ok
  · cases ok
  · rename_i validated
    cases ok
    exact ⟨rfl, rfl, rfl, validated⟩

/-- What is known of a planned request. -/
structure Planned (arms : List Motor) (request : Request K) (plan : Plan K) : Prop where
  joints : request.joints ≠ []
  several : 2 ≤ request.waypoints.length
  approach : request.approachSegmentCount < request.waypoints.length
  tracks : ∃ tracks, checkWaypoints request = .ok tracks ∧
    plan.recoveryDirections = tracks.map Track.recoveryDirection
  referenceDuration : plan.referenceDuration = (request.preparedWaypoints.getLast?.map Waypoint.time).getD 0
  schedule : checkSchedule request plan.referenceDuration = .ok plan.duration
  count : plan.segments.length + 1 = request.waypoints.length
  made : ∀ k first second, request.preparedWaypoints[k]? = some first →
    request.preparedWaypoints[k + 1]? = some second → ∃ segment, plan.segments[k]? = some segment ∧
      Made request plan.recoveryDirections k first second segment

theorem planned_of_ok {arms : List Motor} {request : Request K} {plan : Plan K}
    (ok : planTrajectory arms request = .ok plan) : Planned arms request plan := by
  obtain ⟨_, checked, rest⟩ := bind_eq_ok ok
  obtain ⟨-, rest⟩ := reject_bind_eq_ok rest
  obtain ⟨tracks, tracked, rest⟩ := bind_eq_ok rest
  obtain ⟨duration, schedule, rest⟩ := bind_eq_ok rest
  obtain ⟨segments, made, result⟩ := bind_eq_ok rest
  cases result
  obtain ⟨-, checks⟩ := reject_bind_eq_ok checked
  obtain ⟨-, checks⟩ := reject_bind_eq_ok checks
  obtain ⟨jointCount, checks⟩ := reject_bind_eq_ok checks
  obtain ⟨waypointCount, checks⟩ := reject_bind_eq_ok checks
  obtain ⟨approach, -⟩ := reject_bind_eq_ok checks
  obtain ⟨same, each⟩ := mapM_eq_ok made
  rw [not_or] at jointCount
  refine ⟨jointCount.1, by omega, by omega, ⟨tracks, tracked, rfl⟩, rfl, schedule, ?_, ?_⟩
  · rw [List.length_zipIdx, List.length_zip, List.length_tail, length_preparedWaypoints] at same
    simp only
    omega
  · intro k first second at_k at_next
    obtain ⟨segment, found, ok⟩ := each k ((first, second), k)
      (by simp [List.getElem?_zipIdx, List.getElem?_zip_eq_some, at_k, at_next])
    exact ⟨segment, found, made_of_ok ok⟩

/-- The polynomial of a joint on a segment. -/
theorem Made.joint_eq {request : Request K} {directions : List Recovery} {k : ℕ} {first second : Waypoint K}
    {segment : Segment K} (made : Made request directions k first second segment) {j : ℕ}
    (lt : j < request.joints.length) :
    segment.coefficients[j]? =
      some (segmentCoefficients request.execution (second.time - first.time) first second j) := by
  rw [made.coefficients, List.getElem?_map, List.getElem?_range lt, Option.map_some]

/-- A segment has the positions of its waypoints at its ends. -/
theorem segmentCoefficients_ends [IsStrictOrderedRing K] {execution : Execution} {duration : K}
    (positive : duration ≠ 0) (first second : Waypoint K) (j : ℕ) :
    (segmentCoefficients execution duration first second j).sample 0 = first.positions.getD j 0 ∧
      (segmentCoefficients execution duration first second j).sample 1 = second.positions.getD j 0 := by
  cases execution with
  | quintic =>
    have reproduces := quinticCoefficients_reproduces positive two_ne_zero (first.positions.getD j 0)
      (first.velocities.getD j 0) (first.accelerations.getD j 0) (second.positions.getD j 0)
      (second.velocities.getD j 0) (second.accelerations.getD j 0)
    exact ⟨reproduces.startPosition, reproduces.endPosition⟩
  | trajectoryPv =>
    constructor <;>
      simp [segmentCoefficients, sampledPvCoefficients, Coefficients.sample, Coefficients.asPolynomial, evaluate]

end MotorDrive.Trajectory
