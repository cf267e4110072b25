import MotorDrive.Trajectory.Engine
import MotorDrive.Trajectory.Planned

/-!
# Recovery of out-of-limit starts

`start_trajectory` compares a waypoint with the one before it and a segment with its own start, each time up
to `kLimitTolerance`.  Over the waypoints the tolerances add up (`startTrajectory_recovers`), so a joint may
leave the interval that its start allows by more than any fixed multiple of the tolerance
(`startTrajectory_recovers_drift`).
-/

namespace MotorDrive.Trajectory

open Validate

section Waypoints

variable {K : Type} [LinearOrder K]

/-! ## Positions and limits -/

/-- The position lies within the limits of the joint. -/
def TrajectoryJoint.Inside (joint : TrajectoryJoint K) (x : K) : Prop :=
  joint.lowerPosition ≤ x ∧ x ≤ joint.upperPosition

instance (joint : TrajectoryJoint K) (x : K) : Decidable (joint.Inside x) := instDecidableAnd

/-- The direction in which a start position recovers. -/
def TrajectoryJoint.recoveryFrom (joint : TrajectoryJoint K) (x : K) : Recovery :=
  if x < joint.lowerPosition then .upward else if joint.upperPosition < x then .downward else .none

theorem TrajectoryJoint.inside_iff {joint : TrajectoryJoint K} {x : K} :
    joint.Inside x ↔ ¬ (x < joint.lowerPosition ∨ joint.upperPosition < x) := by
  rw [TrajectoryJoint.Inside, not_or, not_lt, not_lt]

theorem TrajectoryJoint.recoveryFrom_eq_none {joint : TrajectoryJoint K} {x : K} :
    joint.recoveryFrom x = .none ↔ joint.Inside x := by
  rw [inside_iff, recoveryFrom]
  split_ifs <;> simp_all

theorem TrajectoryJoint.recoveryFrom_upward {joint : TrajectoryJoint K} {x : K} (upward : joint.recoveryFrom x = .upward) :
    x < joint.lowerPosition := by
  unfold recoveryFrom at upward
  split_ifs at upward with below above
  exact below

theorem TrajectoryJoint.recoveryFrom_downward {joint : TrajectoryJoint K} {x : K} (downward : joint.recoveryFrom x = .downward) :
    joint.upperPosition < x := by
  unfold recoveryFrom at downward
  split_ifs at downward with below above
  exact above

variable [Field K]

/-- How far a position lies outside the limits. -/
def TrajectoryJoint.excess (joint : TrajectoryJoint K) (x : K) : K :=
  max 0 (max (joint.lowerPosition - x) (x - joint.upperPosition))

/-- The position of a joint on one of the segments. -/
def pointOn (segments : List (Segment K)) (j k : ℕ) (u : K) : K :=
  ((segments[k]?).map fun segment => (segment.joint j).sample u).getD 0

/-- The motion of one joint that does not move further outside its limits than it starts, up to a slack at
the waypoints and a slack on the segments. -/
structure Recovers (joint : TrajectoryJoint K) (count : ℕ) (position : ℕ → K) (point : ℕ → K → K)
    (waypointSlack segmentSlack : ℕ → K) : Prop where
  waypoints : ∀ k < count, joint.excess (position k) ≤ joint.excess (position 0) + waypointSlack k
  points : ∀ k, k + 1 < count → ∀ u, 0 ≤ u → u ≤ 1 →
    joint.excess (point k u) ≤ joint.excess (position 0) + segmentSlack k
  last : joint.Inside (position (count - 1))
  stays : ∀ i k, i ≤ k → k < count → joint.Inside (position i) → joint.Inside (position k)

theorem TrajectoryJoint.excess_le {joint : TrajectoryJoint K} {x bound : K} (nonneg : 0 ≤ bound)
    (low : joint.lowerPosition - x ≤ bound) (high : x - joint.upperPosition ≤ bound) : joint.excess x ≤ bound :=
  max_le nonneg (max_le low high)

theorem TrajectoryJoint.excess_nonneg (joint : TrajectoryJoint K) (x : K) : 0 ≤ joint.excess x := le_max_left _ _

theorem TrajectoryJoint.lower_le_excess (joint : TrajectoryJoint K) (x : K) :
    joint.lowerPosition - x ≤ joint.excess x :=
  (le_max_left _ _).trans (le_max_right _ _)

theorem TrajectoryJoint.upper_le_excess (joint : TrajectoryJoint K) (x : K) :
    x - joint.upperPosition ≤ joint.excess x :=
  (le_max_right _ _).trans (le_max_right _ _)

theorem TrajectoryJoint.Inside.excess_eq_zero [IsStrictOrderedRing K] {joint : TrajectoryJoint K} {x : K} (inside : joint.Inside x) :
    joint.excess x = 0 :=
  le_antisymm (excess_le le_rfl (by linarith [inside.1]) (by linarith [inside.2])) (joint.excess_nonneg x)

/-! ## One waypoint of one joint -/

/-- The first position fixes the direction. -/
theorem Track.checkLimits_first {request : Request K} {joint : TrajectoryJoint K} {x : K} {track : Track K}
    (ok : ({} : Track K).checkLimits request 0 joint x = .ok track) :
    track.recoveryDirection = joint.recoveryFrom x ∧ track.recovered = false := by
  unfold checkLimits at ok
  unfold TrajectoryJoint.recoveryFrom
  simp only [true_and, lt_irrefl, and_false, if_false] at ok
  split_ifs at ok with outside forbidden below
  · cases ok
    exact ⟨(if_pos below).symm, rfl⟩
  · cases ok
    have above := outside.resolve_left below
    rw [if_neg below, if_pos above]
    exact ⟨rfl, rfl⟩
  · cases ok
    obtain ⟨low, high⟩ := not_or.mp outside
    rw [if_neg low, if_neg high]
    exact ⟨rfl, rfl⟩

/-- A later position lies inside, or it is not the last one and moves inward before any has been inside. -/
theorem Track.checkLimits_later {request : Request K} {joint : TrajectoryJoint K} {x : K} {k : ℕ}
    {track track' : Track K} (later : 0 < k) (ok : track.checkLimits request k joint x = .ok track') :
    track'.recoveryDirection = track.recoveryDirection ∧
      (joint.Inside x ∧ (track.recoveryDirection ≠ .none → track'.recovered = true) ∨
        ¬ joint.Inside x ∧ track.recoveryDirection ≠ .none ∧ track.recovered = false ∧
          k + 1 ≠ request.waypoints.length ∧ track.movesInward x = true ∧ track' = track) := by
  unfold checkLimits at ok
  simp only [later.ne', false_and, if_false, later, and_true] at ok
  rw [TrajectoryJoint.inside_iff]
  split_ifs at ok with outside blocked recovering
  · cases ok
    obtain ⟨-, directed, fresh, notLast, inward⟩ := by
      simpa [not_or, and_assoc] using blocked
    exact ⟨rfl, .inr ⟨fun h => h outside, directed, fresh, notLast, inward, rfl⟩⟩
  · cases ok
    exact ⟨rfl, .inl ⟨outside, fun _ => rfl⟩⟩
  · cases ok
    exact ⟨rfl, .inl ⟨outside, fun directed => absurd directed recovering⟩⟩

theorem checkWaypointJoint_eq_ok {request : Request K} {k j : ℕ} {waypoint : Waypoint K}
    {joint : TrajectoryJoint K} {track track' : Track K}
    (ok : checkWaypointJoint request k waypoint j joint track = .ok track') :
    ∃ checked, track.checkLimits request k joint (waypoint.positions.getD j 0) = .ok checked ∧
      track' = { checked with previousPosition := some (waypoint.positions.getD j 0) } := by
  obtain ⟨checked, limits, rest⟩ := bind_eq_ok ok
  obtain ⟨-, rest'⟩ := reject_bind_eq_ok rest
  obtain ⟨-, result⟩ := reject_bind_eq_ok rest'
  cases result
  exact ⟨checked, limits, rfl⟩

/-! ## The waypoints of one joint -/

/-- What the loop over the waypoints knows of a joint after the waypoint `k`. -/
structure Progress (joint : TrajectoryJoint K) (position : ℕ → K) (k : ℕ) (track : Track K) : Prop where
  direction : track.recoveryDirection = joint.recoveryFrom (position 0)
  previous : track.previousPosition = some (position k)
  outside : track.recoveryDirection ≠ .none → track.recovered = false → ∀ i ≤ k, ¬ joint.Inside (position i)
  stays : ∀ i l, i ≤ l → l ≤ k → joint.Inside (position i) → joint.Inside (position l)
  upward : joint.recoveryFrom (position 0) = .upward → ∀ i ≤ k, position 0 - i * limitTolerance ≤ position i
  downward : joint.recoveryFrom (position 0) = .downward →
    ∀ i ≤ k, position i ≤ position 0 + i * limitTolerance

theorem Progress.first {request : Request K} {joint : TrajectoryJoint K} {position : ℕ → K} {track : Track K}
    (ok : ({} : Track K).checkLimits request 0 joint (position 0) = .ok track) :
    Progress joint position 0 { track with previousPosition := some (position 0) } := by
  obtain ⟨direction, fresh⟩ := Track.checkLimits_first ok
  refine ⟨direction, rfl, fun directed _ i le => ?_, fun i l le last inside => ?_, fun _ i le => ?_,
    fun _ i le => ?_⟩
  · obtain rfl := Nat.le_zero.mp le
    exact fun inside => directed (direction.trans (TrajectoryJoint.recoveryFrom_eq_none.mpr inside))
  · obtain rfl := Nat.le_zero.mp last
    obtain rfl := Nat.le_zero.mp le
    exact inside
  · obtain rfl := Nat.le_zero.mp le
    simp
  · obtain rfl := Nat.le_zero.mp le
    simp

variable [IsStrictOrderedRing K]

/-- One more waypoint. -/
theorem Progress.next {request : Request K} {joint : TrajectoryJoint K} {position : ℕ → K} {k : ℕ}
    {track track' : Track K} (progress : Progress joint position k track)
    (ok : track.checkLimits request (k + 1) joint (position (k + 1)) = .ok track') :
    Progress joint position (k + 1) { track' with previousPosition := some (position (k + 1)) } ∧
      (k + 1 + 1 = request.waypoints.length → joint.Inside (position (k + 1))) := by
  have tolerance : (0 : K) ≤ (k + 1 : ℕ) * limitTolerance := mul_nonneg (Nat.cast_nonneg _) limitTolerance_nonneg
  obtain ⟨kept, ⟨inside, recovered⟩ | ⟨outside, directed, fresh, notLast, inward, rfl⟩⟩ :=
    Track.checkLimits_later k.succ_pos ok
  · refine ⟨⟨kept.trans progress.direction, rfl, fun directed unrecovered => ?_, fun i l le last found => ?_,
      fun upward i le => ?_, fun downward i le => ?_⟩, fun _ => inside⟩
    · rw [recovered (kept ▸ directed)] at unrecovered
      cases unrecovered
    · rcases Nat.le_succ_iff.mp last with earlier | rfl
      · exact progress.stays i l le earlier found
      · exact inside
    · rcases Nat.le_succ_iff.mp le with earlier | rfl
      · exact progress.upward upward i earlier
      · linarith [TrajectoryJoint.recoveryFrom_upward upward, inside.1]
    · rcases Nat.le_succ_iff.mp le with earlier | rfl
      · exact progress.downward downward i earlier
      · linarith [TrajectoryJoint.recoveryFrom_downward downward, inside.2]
  · unfold Track.movesInward at inward
    rw [progress.previous] at inward
    have unrecovered : ∀ i ≤ k + 1, ¬ joint.Inside (position i) := by
      intro i le
      rcases Nat.le_succ_iff.mp le with earlier | rfl
      · exact progress.outside directed fresh i earlier
      · exact outside
    refine ⟨⟨progress.direction, rfl, fun _ _ => unrecovered, fun i l le last found => ?_,
      fun upward i le => ?_, fun downward i le => ?_⟩, fun last => absurd last notLast⟩
    · exact absurd found (unrecovered i (le.trans last))
    · rcases Nat.le_succ_iff.mp le with earlier | rfl
      · exact progress.upward upward i earlier
      · have step : position k - limitTolerance ≤ position (k + 1) := by
          simpa [progress.direction, upward] using inward
        have before := progress.upward upward k le_rfl
        push_cast
        linarith
    · rcases Nat.le_succ_iff.mp le with earlier | rfl
      · exact progress.downward downward i earlier
      · have step : position (k + 1) ≤ position k + limitTolerance := by
          simpa [progress.direction, downward] using inward
        have before := progress.downward downward k le_rfl
        push_cast
        linarith

omit [IsStrictOrderedRing K] in
/-- The loop takes every joint through the waypoints, one after the other. -/
theorem exists_tracks {request : Request K} {tracks : List (Track K)} (ok : checkWaypoints request = .ok tracks)
    {j : ℕ} {joint : TrajectoryJoint K} (found : request.joints[j]? = some joint) :
    ∃ t : ℕ → Track K, t 0 = {} ∧ tracks[j]? = some (t request.waypoints.length) ∧
      ∀ (k : ℕ) (waypoint : Waypoint K), request.waypoints[k]? = some waypoint →
        checkWaypointJoint request k waypoint j joint (t k) = .ok (t (k + 1)) := by
  obtain ⟨states, start, finish, steps⟩ := foldlM_eq_ok ok
  rw [List.length_zipIdx] at finish
  have step : ∀ (k : ℕ) (waypoint : Waypoint K) (track : Track K), request.waypoints[k]? = some waypoint →
      (states k)[j]? = some track → ∃ track', (states (k + 1))[j]? = some track' ∧
        checkWaypointJoint request k waypoint j joint track = .ok track' := by
    intro k waypoint track at_k tracked
    have checked := steps k (waypoint, k) (by simp [List.getElem?_zipIdx, at_k])
    obtain ⟨-, each⟩ := mapM_eq_ok (checkWaypoint_eq_ok checked).2
    exact each j ((joint, track), j) (by simp [List.getElem?_zipIdx, List.getElem?_zip_eq_some, found, tracked])
  have initial : (states 0)[j]? = some {} := by rw [start, List.getElem?_map, found, Option.map_some]
  have tracked : ∀ k ≤ request.waypoints.length, ∃ track, (states k)[j]? = some track := by
    intro k
    induction k with
    | zero =>
      intro _
      exact ⟨{}, initial⟩
    | succ k ih =>
      intro le
      obtain ⟨track, at_k⟩ := ih (Nat.le_of_succ_le le)
      obtain ⟨track', at_next, -⟩ := step k _ track (List.getElem?_eq_getElem le) at_k
      exact ⟨track', at_next⟩
  refine ⟨fun k => ((states k)[j]?).getD {}, by simp [initial], ?_, fun k waypoint at_k => ?_⟩
  · obtain ⟨track, at_end⟩ := tracked request.waypoints.length le_rfl
    rw [← finish]
    simp [at_end]
  · obtain ⟨track, before⟩ := tracked k (List.getElem?_eq_some_iff.mp at_k).1.le
    obtain ⟨track', after, checked⟩ := step k waypoint track at_k before
    simpa [before, after] using checked

/-- The positions of a joint of an accepted request: the progress after every waypoint, and the last waypoint
lies inside the limits. -/
theorem progress_of_checkWaypoints {request : Request K} {tracks : List (Track K)}
    (ok : checkWaypoints request = .ok tracks) (several : 2 ≤ request.waypoints.length) {j : ℕ}
    {joint : TrajectoryJoint K} (found : request.joints[j]? = some joint) :
    (∀ k < request.waypoints.length, ∃ track, Progress joint (request.position j) k track) ∧
      joint.Inside (request.position j (request.waypoints.length - 1)) ∧
      ∃ track, tracks[j]? = some track ∧ track.recoveryDirection = joint.recoveryFrom (request.position j 0) := by
  obtain ⟨t, start, finish, steps⟩ := exists_tracks ok found
  have limits : ∀ k < request.waypoints.length, ∃ checked,
      (t k).checkLimits request k joint (request.position j k) = .ok checked ∧
        t (k + 1) = { checked with previousPosition := some (request.position j k) } := by
    intro k lt
    have at_k : request.waypoints[k]? = some request.waypoints[k] := List.getElem?_eq_getElem lt
    have position : request.position j k = request.waypoints[k].positions.getD j 0 := by
      simp [Request.position, at_k]
    rw [position]
    exact checkWaypointJoint_eq_ok (steps k _ at_k)
  have progress : ∀ k < request.waypoints.length, Progress joint (request.position j) k (t (k + 1)) := by
    intro k
    induction k with
    | zero =>
      intro lt
      obtain ⟨checked, ok, after⟩ := limits 0 lt
      rw [after]
      exact Progress.first (start ▸ ok)
    | succ k ih =>
      intro lt
      obtain ⟨checked, ok, after⟩ := limits (k + 1) lt
      rw [after]
      exact ((ih (Nat.lt_of_succ_lt lt)).next ok).1
  refine ⟨fun k lt => ⟨_, progress k lt⟩, ?_, _, finish, ?_⟩
  · obtain ⟨k, last⟩ := Nat.exists_eq_add_of_le' several
    have lt : k + 1 < request.waypoints.length := by omega
    obtain ⟨checked, ok, -⟩ := limits (k + 1) lt
    have inside := ((progress k (Nat.lt_of_succ_lt lt)).next ok).2 last.symm
    rwa [last]
  · obtain ⟨k, last⟩ := Nat.exists_eq_add_of_le' several
    have direction := (progress (k + 1) (by omega)).direction
    rwa [last]

end Waypoints

noncomputable section

/-! ## The segments of one joint -/

section Points

variable {request : Request ℝ} {directions : List Recovery} {k j : ℕ} {first second : Waypoint ℝ}
  {segment : Segment ℝ} {joint : TrajectoryJoint ℝ} {direction : Recovery}

/-- The polynomial of a joint on an accepted segment, with its ends and its tests. -/
theorem Made.accepted (made : Made request directions k first second segment) (longer : first.time < second.time)
    (found : request.joints[j]? = some joint) (directed : directions[j]? = some direction) :
    (segment.joint j).sample 0 = first.positions.getD j 0 ∧
      (segment.joint j).sample 1 = second.positions.getD j 0 ∧
      Accepted segment.duration k joint (segment.joint j) direction (request.execution ≠ .trajectoryPv) := by
  have polynomial := made.joint_eq (List.getElem?_eq_some_iff.mp found).1
  have same : segment.joint j =
      segmentCoefficients request.execution (second.time - first.time) first second j := by
    rw [Segment.joint, List.getD_eq_getElem?_getD, polynomial, Option.getD_some]
  obtain ⟨start, finish⟩ := segmentCoefficients_ends (sub_pos.mpr longer).ne'
    first second j
  rw [← same] at start finish polynomial
  have member : (joint, segment.joint j, direction) ∈
      request.joints.zip (segment.coefficients.zip directions) := by
    refine List.mem_of_getElem? (i := j) ?_
    rw [List.getElem?_zip_eq_some, List.getElem?_zip_eq_some]
    exact ⟨found, polynomial, directed⟩
  exact ⟨start, finish, accepted_of_validated made.validated member⟩

/-- A segment opens the limits only as far as its start lies outside. -/
theorem lower_sub_allowedLower {coefficients : Coefficients ℝ} {bound : ℝ} (nonneg : 0 ≤ bound)
    (start : direction = .upward → joint.lowerPosition - coefficients.sample 0 ≤ bound) :
    joint.lowerPosition - allowedLower joint coefficients direction ≤ bound := by
  unfold allowedLower recoveringBelow
  split_ifs with below
  · exact start (of_decide_eq_true (Bool.and_eq_true_iff.mp below).1)
  · rwa [sub_self]

theorem allowedUpper_sub_upper {coefficients : Coefficients ℝ} {bound : ℝ} (nonneg : 0 ≤ bound)
    (start : direction = .downward → coefficients.sample 0 - joint.upperPosition ≤ bound) :
    allowedUpper joint coefficients direction - joint.upperPosition ≤ bound := by
  unfold allowedUpper recoveringAbove
  split_ifs with above
  · exact start (of_decide_eq_true (Bool.and_eq_true_iff.mp above).1)
  · rwa [sub_self]

/-- The excess on a segment, from the excess that its start may have. -/
theorem Accepted.excess_le {coefficients : Coefficients ℝ} {duration bound : ℝ} {check : Bool}
    (accepted : Accepted duration k joint coefficients direction check) (nonneg : 0 ≤ bound)
    (below : direction = .upward → joint.lowerPosition - coefficients.sample 0 ≤ bound)
    (above : direction = .downward → coefficients.sample 0 - joint.upperPosition ≤ bound) :
    joint.excess (coefficients.sample 1) ≤ bound + limitTolerance ∧
      ∀ u, 0 ≤ u → u ≤ 1 →
        joint.excess (coefficients.sample u) ≤ bound + (limitTolerance + isolationError coefficients.slope 5) := by
  have lower := lower_sub_allowedLower nonneg below
  have upper := allowedUpper_sub_upper nonneg above
  have tolerance : (0 : ℝ) ≤ limitTolerance := limitTolerance_nonneg
  have error : 0 ≤ isolationError coefficients.slope 5 :=
    le_trans (by positivity) (dropped_le_isolationError (slope_nonneg coefficients) 5)
  obtain ⟨endLow, endHigh⟩ := accepted.position 1 (by simp [candidates])
  refine ⟨TrajectoryJoint.excess_le (by linarith) (by linarith) (by linarith), fun u start finish => ?_⟩
  obtain ⟨low, high⟩ := accepted.position_bounds start finish
  exact TrajectoryJoint.excess_le (by linarith) (by linarith) (by linarith)

end Points

/-! ## Accepted trajectories -/

/-- What the tolerances of the waypoints add up to. -/
def drift (joint : TrajectoryJoint ℝ) (start : ℝ) (k : ℕ) : ℝ :=
  if joint.Inside start then 0 else k * limitTolerance

/-- What the test of a segment adds: the tolerance and the error of the root isolation. -/
def segmentError (segments : List (Segment ℝ)) (j k : ℕ) : ℝ :=
  limitTolerance + isolationError (((segments[k]?).map fun segment => (segment.joint j).slope).getD 0) 5

theorem drift_nonneg (joint : TrajectoryJoint ℝ) (start : ℝ) (k : ℕ) : 0 ≤ drift joint start k := by
  unfold drift
  split_ifs
  · exact le_rfl
  · exact mul_nonneg (Nat.cast_nonneg _) limitTolerance_nonneg

/-- The excess in the direction of the recovery, at the start of a segment. -/
theorem Progress.start_le {joint : TrajectoryJoint ℝ} {position : ℕ → ℝ} {k : ℕ} {track : Track ℝ}
    (progress : Progress joint position k track) :
    (joint.recoveryFrom (position 0) = .upward →
        joint.lowerPosition - position k ≤ joint.excess (position 0) + drift joint (position 0) k) ∧
      (joint.recoveryFrom (position 0) = .downward →
        position k - joint.upperPosition ≤ joint.excess (position 0) + drift joint (position 0) k) := by
  constructor
  · intro upward
    have outside : ¬ joint.Inside (position 0) := fun inside =>
      not_lt.mpr inside.1 (TrajectoryJoint.recoveryFrom_upward upward)
    rw [drift, if_neg outside]
    linarith [progress.upward upward k le_rfl, joint.lower_le_excess (position 0)]
  · intro downward
    have outside : ¬ joint.Inside (position 0) := fun inside =>
      not_lt.mpr inside.2 (TrajectoryJoint.recoveryFrom_downward downward)
    rw [drift, if_neg outside]
    linarith [progress.downward downward k le_rfl, joint.upper_le_excess (position 0)]

/-- Every joint recovers up to the drift of the waypoints and the errors of the segments, which are small for
coefficients up to 1000. -/
def RecoversWithDrift (request : Request ℝ) (segments : List (Segment ℝ)) : Prop :=
  ∀ j joint, request.joints[j]? = some joint →
    Recovers joint request.waypoints.length (request.position j) (pointOn segments j)
        (drift joint (request.position j 0))
        (fun k => drift joint (request.position j 0) k + segmentError segments j k) ∧
      ∀ (k : ℕ) (segment : Segment ℝ), segments[k]? = some segment →
        (∀ x ∈ (segment.joint j).asPolynomial, |x| ≤ 1000) → segmentError segments j k ≤ 2 * limitTolerance

theorem segmentError_small {segments : List (Segment ℝ)} {j k : ℕ} {segment : Segment ℝ}
    (at_k : segments[k]? = some segment) (bounded : ∀ x ∈ (segment.joint j).asPolynomial, |x| ≤ 1000) :
    segmentError segments j k ≤ 2 * limitTolerance := by
  have small := (isolationError_small (slope_le _ bounded)).1
  have tolerance : limitTolerance = (1 : ℝ) / 10 ^ 6 := rfl
  rw [segmentError, at_k, Option.map_some, Option.getD_some]
  linarith

/-- A planned joint does not move further outside its limits than its start, up to the tolerances. -/
theorem planTrajectory_recovers {arms : List Motor} {request : Request ℝ} {plan : Plan ℝ}
    (ok : planTrajectory arms request = .ok plan) {j : ℕ} {joint : TrajectoryJoint ℝ}
    (found : request.joints[j]? = some joint) :
    Recovers joint request.waypoints.length (request.position j) (pointOn plan.segments j)
      (drift joint (request.position j 0))
      fun k => drift joint (request.position j 0) k + segmentError plan.segments j k := by
  have planned := planned_of_ok ok
  obtain ⟨tracks, checked, directions⟩ := planned.tracks
  obtain ⟨progress, last, track, tracked, direction⟩ := progress_of_checkWaypoints checked planned.several found
  have directed : plan.recoveryDirections[j]? = some (joint.recoveryFrom (request.position j 0)) := by
    rw [directions, List.getElem?_map, tracked, Option.map_some, direction]
  have segments : ∀ k, k + 1 < request.waypoints.length → ∃ segment, plan.segments[k]? = some segment ∧
      joint.excess (request.position j (k + 1)) ≤
        joint.excess (request.position j 0) + drift joint (request.position j 0) k + limitTolerance ∧
      ∀ u, 0 ≤ u → u ≤ 1 → joint.excess ((segment.joint j).sample u) ≤
        joint.excess (request.position j 0) + drift joint (request.position j 0) k +
          (limitTolerance + isolationError (segment.joint j).slope 5) := by
    intro k lt
    rw [← length_preparedWaypoints] at lt
    have at_k := List.getElem?_eq_getElem (Nat.lt_of_succ_lt lt)
    have at_next := List.getElem?_eq_getElem lt
    obtain ⟨segment, at_segment, made⟩ := planned.made k _ _ at_k at_next
    obtain ⟨start, finish, accepted⟩ :=
      made.accepted (preparedWaypoints_increasing checked at_k at_next) found directed
    rw [preparedWaypoints_position at_k] at start
    rw [preparedWaypoints_position at_next] at finish
    rw [length_preparedWaypoints] at lt
    obtain ⟨track, progressed⟩ := progress k (Nat.lt_of_succ_lt lt)
    obtain ⟨below, above⟩ := progressed.start_le
    have bounds := accepted.excess_le
      (add_nonneg (joint.excess_nonneg (request.position j 0)) (drift_nonneg joint (request.position j 0) k))
      (start.symm ▸ below) (start.symm ▸ above)
    rw [finish] at bounds
    exact ⟨segment, at_segment, bounds⟩
  have stays : ∀ i k, i ≤ k → k < request.waypoints.length → joint.Inside (request.position j i) →
      joint.Inside (request.position j k) := by
    intro i k le lt inside
    obtain ⟨track, progressed⟩ := progress k lt
    exact progressed.stays i k le le_rfl inside
  refine ⟨fun k lt => ?_, fun k lt u start finish => ?_, last, stays⟩
  · by_cases inside : joint.Inside (request.position j 0)
    · rw [drift, if_pos inside, (stays 0 k k.zero_le lt inside).excess_eq_zero, add_zero]
      exact joint.excess_nonneg _
    · cases k with
      | zero => simp [drift]
      | succ k =>
        obtain ⟨segment, -, next, -⟩ := segments k lt
        rw [drift, if_neg inside] at next ⊢
        push_cast
        linarith
  · obtain ⟨segment, at_segment, -, bound⟩ := segments k lt
    have within := bound u start finish
    rw [add_assoc] at within
    simpa [pointOn, segmentError, at_segment] using within

/-- Every accepted motion recovers, up to the tolerances that add up over its waypoints. -/
theorem startTrajectory_recovers {arms : List Motor} {s s' : Engine ℝ} {request : Request ℝ} {replace : ℕ}
    {enqueue : Bool} {conditions : StartConditions ℝ} {now : ℝ} {id : ℕ}
    (started : s.startTrajectory arms request replace enqueue conditions now = (.ok id, s')) :
    ∃ trajectory, (trajectory = s'.trajectoryControl ∨ trajectory ∈ s'.trajectoryQueue) ∧ trajectory.id = id ∧
      trajectory.joints = request.joints ∧ RecoversWithDrift request trajectory.segments := by
  obtain ⟨plan, started⟩ := started_of_ok started
  have recovers : RecoversWithDrift request plan.segments := fun j joint found =>
    ⟨planTrajectory_recovers started.planned found, fun k segment => segmentError_small⟩
  rw [started.after, started.id_eq]
  unfold Engine.install
  split_ifs
  · exact ⟨_, .inr (List.mem_append_right _ (List.mem_singleton_self _)), rfl, rfl, recovers⟩
  · exact ⟨_, .inl rfl, rfl, rfl, recovers⟩
  · exact ⟨_, .inl rfl, rfl, rfl, recovers⟩

/-! ### A motion of one joint -/

/-- A joint with the limits `-1` and `1`. -/
def lineJoint : TrajectoryJoint ℝ := ⟨"joint1", 7, 1, 1, 1, 1, -1, 1, 1, 1, 1, 0, 0, 0, 1, 0⟩

/-- A motion from `0` to the upper limit. -/
def lineRequest : Request ℝ where
  mode := .pv
  operation := .moveLinear
  execution := .trajectoryPv
  pvReferenceVelocity := 1
  pvReferenceAcceleration := 1
  pvDriveVelocityLimit := 1
  allowOutOfLimitStartRecovery := true
  approachSegmentCount := 0
  approachDeadline := 0
  completionDeadline := 0
  cartesianTrackingJointMask := 0
  joints := [lineJoint]
  waypoints := [⟨0, [0], [0], [0], 0, 0⟩, ⟨1, [1], [0], [0], 0, 0⟩]
  approachConvergenceCheck := false
  finalConvergenceCheck := false

/-- Its plan. -/
def linePlan : Plan ℝ := ⟨[⟨0, 1, [sampledPvCoefficients 0 1]⟩], 1, 1, [.none]⟩

/-- A joint at rest may start it. -/
def lineConditions : StartConditions ℝ := ⟨.ok (), false, false, false, fun _ => ⟨true, 1, 1, 0, 0⟩⟩

theorem preparedWaypoints_line : lineRequest.preparedWaypoints = lineRequest.waypoints := by
  norm_num [Request.preparedWaypoints, lineRequest, Request.timeOrigin]

theorem planTrajectory_line : planTrajectory [7] lineRequest = .ok linePlan := by
  have request : checkRequest [7] lineRequest = .ok () := by
    norm_num [checkRequest, lineRequest, lineJoint, reject, checkJoint, nativeMaximumTrajectoryWaypoints,
      TrajectoryJoint.misconfigured]
  have bits : (0 : BitVec 32) &&& ~~~jointBits 1 = 0 := by decide
  have waypoints : checkWaypoints lineRequest = .ok [⟨.none, false, none, some 1⟩] := by
    norm_num [checkWaypoints, checkWaypoint, checkWaypointJoint, lineRequest, lineJoint, reject,
      Track.checkLimits, Track.movesInward, bits]
  have made : makeSegment lineRequest [.none] 0 ⟨0, [0], [0], [0], 0, 0⟩ ⟨1, [1], [0], [0], 0, 0⟩ =
      .ok ⟨0, 1, [sampledPvCoefficients 0 1]⟩ := by
    norm_num [makeSegment, segmentCoefficients, lineRequest, lineJoint, validateSegmentExtrema, validateJoint,
      candidates, checkPosition, allowedLower, allowedUpper, recoveringBelow, recoveringAbove, Coefficients.sample,
      evaluate, derivative, Coefficients.asPolynomial, sampledPvCoefficients, limitTolerance,
      rootsOnUnitInterval_of_flat]
  unfold planTrajectory
  rw [request, waypoints, preparedWaypoints_line]
  simp only [lineRequest] at made
  norm_num [reject, checkSchedule, lineRequest, linePlan, Request.timeOrigin, limitTolerance, made]

theorem startTrajectory_line :
    (Engine.initial .pv).startTrajectory [7] lineRequest 0 false lineConditions 0 =
      (.ok 1, ({ (Engine.initial .pv : Engine ℝ) with nextMotionId := 2 } : Engine ℝ).install
        (preparedTrajectory 1 lineRequest linePlan) false 0) := by
  refine startTrajectory_of_checks (by simp) planTrajectory_line ?_ ?_ ?_
  · simp [Engine.checkStart, Engine.initial, idleTrajectory, reject, lineRequest, lineConditions]
  · rw [preparedWaypoints_line]
    norm_num [checkStartFeedback, reject, lineRequest, lineJoint, lineConditions, startPositionTolerance,
      startVelocityTolerance, Engine.initial]
  · simp [checkPrepared, lineRequest, preparedTrajectory, reject]

/-! ### A motion back into the limits -/

/-- A motion from below the lower limit across it, in two segments. -/
def inwardRequest : Request ℝ :=
  { lineRequest with
    waypoints := [⟨0, [-2], [0], [0], 0, 0⟩, ⟨1, [-3 / 2], [0], [0], 0, 0⟩, ⟨2, [-1 / 2], [0], [0], 0, 0⟩] }

/-- Its plan. -/
def inwardPlan : Plan ℝ :=
  ⟨[⟨0, 1, [sampledPvCoefficients (-2) (-3 / 2)]⟩, ⟨1, 1, [sampledPvCoefficients (-3 / 2) (-1 / 2)]⟩], 2, 2, [.upward]⟩

/-- A joint at rest below its lower limit may start it. -/
def inwardConditions : StartConditions ℝ := { lineConditions with feedback := fun _ => ⟨true, 1, 1, -2, 0⟩ }

theorem preparedWaypoints_inward : inwardRequest.preparedWaypoints = inwardRequest.waypoints := by
  norm_num [Request.preparedWaypoints, inwardRequest, lineRequest, Request.timeOrigin]

/-- A segment that leads inward, from outside the limits. -/
theorem makeSegment_inward (startTime : ℝ) {start finish : ℝ} (outside : start < -1) (rises : start ≤ finish)
    (within : finish ≤ 1) (index : ℕ) :
    makeSegment inwardRequest [.upward] index ⟨startTime, [start], [0], [0], 0, 0⟩
      ⟨startTime + 1, [finish], [0], [0], 0, 0⟩ = .ok ⟨startTime, 1, [sampledPvCoefficients start finish]⟩ := by
  norm_num [makeSegment, segmentCoefficients, inwardRequest, lineRequest, lineJoint, validateSegmentExtrema, validateJoint,
      candidates, checkPosition, allowedLower, allowedUpper, recoveringBelow, recoveringAbove, Coefficients.sample,
      evaluate, derivative, Coefficients.asPolynomial, sampledPvCoefficients, limitTolerance,
      rootsOnUnitInterval_of_flat]
  have still : ¬ (start < start - 1000000⁻¹ ∨ 1 + 1000000⁻¹ < start) := by
    rintro (further | above) <;> linarith
  have inward : ¬ (finish < start - 1000000⁻¹ ∨ 1 + 1000000⁻¹ < finish) := by
    rintro (further | above) <;> linarith
  simp [outside, still, inward]

theorem planTrajectory_inward : planTrajectory [7] inwardRequest = .ok inwardPlan := by
  have request : checkRequest [7] inwardRequest = .ok () := by
    norm_num [checkRequest, inwardRequest, lineRequest, lineJoint, reject, checkJoint, nativeMaximumTrajectoryWaypoints,
      TrajectoryJoint.misconfigured]
  have bits : (0 : BitVec 32) &&& ~~~jointBits 1 = 0 := by decide
  have waypoints : checkWaypoints inwardRequest = .ok [⟨.upward, true, some (-2), some (-1 / 2)⟩] := by
    norm_num [checkWaypoints, checkWaypoint, checkWaypointJoint, inwardRequest, lineRequest, lineJoint, reject,
      Track.checkLimits, Track.movesInward, bits, limitTolerance]
    rfl
  unfold planTrajectory
  rw [request, waypoints, preparedWaypoints_inward]
  have first := makeSegment_inward 0 (show (-2 : ℝ) < -1 by norm_num) (show (-2 : ℝ) ≤ -3 / 2 by norm_num)
    (by norm_num)
  have second := makeSegment_inward 1 (show (-3 / 2 : ℝ) < -1 by norm_num) (show (-3 / 2 : ℝ) ≤ -1 / 2 by norm_num)
    (by norm_num)
  norm_num [inwardRequest, lineRequest] at first second
  norm_num [reject, checkSchedule, inwardRequest, lineRequest, inwardPlan, Request.timeOrigin, limitTolerance, first, second]

theorem startTrajectory_inward :
    (Engine.initial .pv).startTrajectory [7] inwardRequest 0 false inwardConditions 0 =
      (.ok 1, ({ (Engine.initial .pv : Engine ℝ) with nextMotionId := 2 } : Engine ℝ).install
        (preparedTrajectory 1 inwardRequest inwardPlan) false 0) := by
  refine startTrajectory_of_checks (by simp) planTrajectory_inward ?_ ?_ ?_
  · simp [Engine.checkStart, Engine.initial, idleTrajectory, reject, inwardRequest, lineRequest, inwardConditions,
      lineConditions]
  · rw [preparedWaypoints_inward]
    norm_num [checkStartFeedback, reject, inwardRequest, lineRequest, lineJoint, inwardConditions,
      startPositionTolerance, startVelocityTolerance, Engine.initial]
  · simp [checkPrepared, inwardRequest, lineRequest, preparedTrajectory, reject]

/-- The motion back into the limits recovers. -/
theorem startTrajectory_recovers_inward : ¬ lineJoint.Inside (inwardRequest.position 0 0) ∧
    ∃ trajectory : TrajectoryControl ℝ, trajectory.id = 1 ∧
      trajectory.joints = [lineJoint] ∧ RecoversWithDrift inwardRequest trajectory.segments := by
  have outside : ¬ lineJoint.Inside (inwardRequest.position 0 0) := by
    norm_num [TrajectoryJoint.Inside, Request.position, inwardRequest, lineRequest, lineJoint]
  obtain ⟨trajectory, -, rest⟩ := startTrajectory_recovers startTrajectory_inward
  exact ⟨outside, trajectory, rest⟩

end

/-! ## What the tests let pass -/

section Drift

/-- Conditions under which a joint at rest or in motion may start. -/
def ready (position velocity : ℚ) : StartConditions ℚ where
  commandAllowed := .ok ()
  bimanualFollow := false
  degraded := false
  plannedReference := false
  feedback := fun _ => ⟨true, 1, 1, position, velocity⟩

/-- A joint with the limits `-1` and `1`. -/
def unitJoint : TrajectoryJoint ℚ := ⟨"joint1", 7, 1, 1, 1, 1, -1, 1, 10, 10, 1, 0, 0, 0, 5, 0⟩

/-- A start below the lower limit, three waypoints that each lie further below by less than the tolerance,
and a target inside. -/
def driftingRequest : Request ℚ where
  mode := .pv
  operation := .moveLinear
  execution := .trajectoryPv
  pvReferenceVelocity := 1
  pvReferenceAcceleration := 1
  pvDriveVelocityLimit := 1
  allowOutOfLimitStartRecovery := true
  approachSegmentCount := 0
  approachDeadline := 0
  completionDeadline := 0
  cartesianTrackingJointMask := 0
  joints := [unitJoint]
  waypoints := [⟨0, [-9 / 8], [0], [0], 0, 0⟩, ⟨1, [-9 / 8 - 7 / 2 ^ 23], [0], [0], 0, 0⟩,
    ⟨2, [-9 / 8 - 14 / 2 ^ 23], [0], [0], 0, 0⟩, ⟨3, [-9 / 8 - 21 / 2 ^ 23], [0], [0], 0, 0⟩,
    ⟨4, [0], [0], [0], 0, 0⟩]
  approachConvergenceCheck := false
  finalConvergenceCheck := false

/-- A joint with wide limits. -/
def wideJoint : TrajectoryJoint ℚ :=
  ⟨"joint1", 7, 1, 1, 1, 1, 0, 2 ^ 96, 2 ^ 96, 2 ^ 99, 1, 0, 0, 0, 2 ^ 96, 0⟩

/-- The position `2 ^ 64 * u ^ 3 - 2 ^ 38 * u ^ 2 * (1 - u) ^ 3` for `u` from `0` to `1`.  Its velocity has two
roots closer than `append_unique` keeps them apart, the start and one at which the position is below `0`. -/
def dippingRequest : Request ℚ where
  mode := .pv
  operation := .moveLinear
  execution := .quintic
  pvReferenceVelocity := 1
  pvReferenceAcceleration := 1
  pvDriveVelocityLimit := 1
  allowOutOfLimitStartRecovery := true
  approachSegmentCount := 0
  approachDeadline := 0
  completionDeadline := 0
  cartesianTrackingJointMask := 0
  joints := [wideJoint]
  waypoints := [⟨0, [0], [0], [-2 ^ 39], 1, 1⟩, ⟨1, [2 ^ 64], [3 * 2 ^ 64], [6 * 2 ^ 64], 1, 1⟩]
  approachConvergenceCheck := false
  finalConvergenceCheck := false

/-- A start of the request as the first motion of a runtime. -/
def startedAlone (request : Request ℚ) : Except (StartError ℚ) ℕ × Engine ℚ :=
  (Engine.initial .pv).startTrajectory [7] request 0 false (ready (request.position 0 0) 0) 0

/-- The tolerances of the waypoints add up beyond twice the tolerance, and a joint that starts inside may
leave its limits between two roots that count as one. -/
theorem startTrajectory_recovers_drift :
    (∃ s', startedAlone driftingRequest = (.ok 1, s') ∧
        ¬ Recovers unitJoint 5 (driftingRequest.position 0) (pointOn s'.trajectoryControl.segments 0)
          (fun _ => 2 * limitTolerance) (fun _ => 2 * limitTolerance)) ∧
      ∃ s', startedAlone dippingRequest = (.ok 1, s') ∧
        wideJoint.Inside (dippingRequest.position 0 0) ∧
        ¬ Recovers wideJoint 2 (dippingRequest.position 0) (pointOn s'.trajectoryControl.segments 0)
          (fun _ => 2 * limitTolerance) (fun _ => 2 * limitTolerance) := by
  have accepted : ∀ {request : Request ℚ}, (startedAlone request).1.toOption = some 1 →
      startedAlone request = (.ok 1, (startedAlone request).2) := by
    intro request ok
    refine Prod.ext ?_ rfl
    cases answer : (startedAlone request).1 with
    | error error => simp [answer, Except.toOption] at ok
    | ok id => simpa [answer, Except.toOption] using ok
  refine ⟨⟨_, accepted (by decide +kernel), fun recovers => ?_⟩,
    ⟨_, accepted (by decide +kernel), by decide +kernel, fun recovers => ?_⟩⟩
  · exact absurd (recovers.waypoints 3 (by decide)) (by decide +kernel)
  · exact absurd (recovers.points 0 (by decide) (1 / (3 * 2 ^ 25)) (by norm_num) (by norm_num))
      (by decide +kernel)

end Drift

end MotorDrive.Trajectory
