import MotorDrive.Trajectory.Recovery

/-!
# Accepted requests

When `start_trajectory` accepts a request of sampled references: what its tests ask of the joints, of the waypoints
and of the schedule, together in one condition that is enough.
-/

namespace MotorDrive.Trajectory

open Validate

section Accepts

variable {K : Type} [Field K] [LinearOrder K]

/-- A joint that a request of sampled references may move. -/
structure Suited (request : Request K) (joint : TrajectoryJoint K) : Prop where
  configured : joint.misconfigured = false
  pv : 0 < joint.pvVelocityLimit ∧ joint.pvVelocityLimit ≤ joint.velocityLimit
  hold : 0 ≤ joint.pvHoldVelocityLimit ∧ joint.pvHoldVelocityLimit ≤ joint.pvVelocityLimit
  velocity : request.pvReferenceVelocity ≤ joint.velocityLimit
  acceleration : request.pvReferenceAcceleration ≤ joint.accelerationLimit
  drive : request.pvDriveVelocityLimit ≤ joint.velocityLimit

/-- A waypoint with values for every joint, whose derivatives lie within the limits where they count. -/
structure Complete (request : Request K) (waypoint : Waypoint K) : Prop where
  velocityMask : waypoint.velocityValidMask &&& ~~~jointBits request.joints.length = 0
  accelerationMask : waypoint.accelerationValidMask &&& ~~~jointBits request.joints.length = 0
  positions : waypoint.positions.length = request.joints.length
  velocities : waypoint.velocities.length = request.joints.length
  accelerations : waypoint.accelerations.length = request.joints.length
  velocity : ∀ (j : ℕ) (joint : TrajectoryJoint K), request.joints[j]? = some joint →
    waypoint.velocityValidMask.getLsbD j = true → |waypoint.velocities.getD j 0| ≤ joint.velocityLimit
  acceleration : ∀ (j : ℕ) (joint : TrajectoryJoint K), request.joints[j]? = some joint →
    waypoint.accelerationValidMask.getLsbD j = true → |waypoint.accelerations.getD j 0| ≤ joint.accelerationLimit

/-- A position outside the limits lies no further outside than the one before it. -/
def TrajectoryJoint.Inward (joint : TrajectoryJoint K) (before after : K) : Prop :=
  (after < joint.lowerPosition → before ≤ after) ∧ (joint.upperPosition < after → after ≤ before)

/-- What the tests of a request of sampled references ask for. -/
structure Acceptable (arms : List Motor) (request : Request K) : Prop where
  execution : request.execution = .trajectoryPv
  mode : request.mode = .pv
  limits : 0 < request.pvReferenceVelocity ∧ 0 < request.pvReferenceAcceleration ∧ 0 < request.pvDriveVelocityLimit
  count : request.joints ≠ [] ∧ request.joints.length ≤ 32 ∧ request.joints.length = arms.length
  motors : (request.joints.map TrajectoryJoint.motor).Nodup ∧ ∀ joint ∈ request.joints, joint.motor ∈ arms
  suited : ∀ joint ∈ request.joints, Suited request joint
  waypoints : 2 ≤ request.waypoints.length ∧ request.waypoints.length ≤ 30000 ∧
    request.approachSegmentCount < request.waypoints.length
  origin : request.timeOrigin = 0
  increasing : request.waypoints.IsChain fun first second => first.time < second.time
  complete : ∀ waypoint ∈ request.waypoints, Complete request waypoint
  recovery : request.allowOutOfLimitStartRecovery = true
  inward : ∀ (j : ℕ) (joint : TrajectoryJoint K), request.joints[j]? = some joint → ∀ k, k + 1 < request.waypoints.length →
    joint.Inward (request.position j k) (request.position j (k + 1))
  target : ∀ (j : ℕ) (joint : TrajectoryJoint K), request.joints[j]? = some joint →
    joint.Inside (request.position j (request.waypoints.length - 1))
  completion : ∀ waypoint ∈ request.waypoints.getLast?, request.completionDeadline = waypoint.time
  bounded : request.completionDeadline ≤ 3600
  approach : request.approachDeadline = 0 ∨
    0 < request.approachDeadline ∧ request.approachDeadline < request.completionDeadline

variable {arms : List Motor} {request : Request K}

/-! ## The joints -/

theorem Suited.ordered {joint : TrajectoryJoint K} (suited : Suited request joint) :
    joint.lowerPosition < joint.upperPosition := by
  have configured := suited.configured
  unfold TrajectoryJoint.misconfigured at configured
  simp only [Bool.or_eq_false_iff, decide_eq_false_iff_not, not_le] at configured
  exact configured.1.1.1.2

theorem checkRequest_accepts (acceptable : Acceptable arms request) : checkRequest arms request = .ok () := by
  obtain ⟨velocity, acceleration, drive⟩ := acceptable.limits
  obtain ⟨several, fits, approach⟩ := acceptable.waypoints
  obtain ⟨nonempty, few, covers⟩ := acceptable.count
  obtain ⟨distinct, known⟩ := acceptable.motors
  unfold checkRequest
  rw [reject_bind_of_not (by simp [acceptable.mode]), reject_bind_of_not (by simp [velocity, acceleration, drive]),
    reject_bind_of_not (by simp [nonempty, few]),
    reject_bind_of_not (by rw [nativeMaximumTrajectoryWaypoints]; omega),
    reject_bind_of_not (by simp [approach]), reject_bind_of_not (by simp [covers])]
  refine forM_ok fun entry member => ?_
  obtain ⟨joint, index⟩ := entry
  have found := List.mem_zipIdx_iff_getElem?.mp member
  have listed := List.mem_of_getElem? found
  obtain ⟨configured, pv, hold, velocity', acceleration', drive'⟩ := acceptable.suited joint listed
  have fresh : joint.motor ∉ (request.joints.take index).map TrajectoryJoint.motor := by
    intro earlier
    obtain ⟨other, member', same⟩ := List.mem_map.mp earlier
    obtain ⟨place, before, rfl⟩ := List.mem_take_iff_getElem.mp member'
    have inside : place < request.joints.length := by omega
    refine List.nodup_iff_getElem?_ne_getElem?.mp distinct place index (by omega) ?_ ?_
    · rw [List.length_map]
      exact (List.getElem?_eq_some_iff.mp found).1
    · rw [List.getElem?_map, List.getElem?_map, found, List.getElem?_eq_getElem inside, Option.map_some, same]
      rfl
  change checkJoint arms request (request.joints.take index) joint = .ok ()
  unfold checkJoint
  rw [reject_bind_of_not (not_or.mpr ⟨not_not.mpr (known joint listed), not_or.mpr ⟨fresh, by simp [configured]⟩⟩)]
  rw [acceptable.mode]
  simp only
  rw [reject_bind_of_not (by simp [pv]), reject_bind_of_not (by simp [hold]), reject_eq_ok]
  simp [velocity', acceleration', drive']

/-! ## The waypoints -/

/-- What the loop over the waypoints knows of a joint that moves inward. -/
structure Recovering (joint : TrajectoryJoint K) (position : ℕ → K) (k : ℕ) (track : Track K) : Prop where
  direction : track.recoveryDirection = joint.recoveryFrom (position 0)
  previous : track.previousPosition = some (position k)
  recovered : track.recovered = true → joint.Inside (position k)

section Joints

variable {joint : TrajectoryJoint K} {position : ℕ → K} {count : ℕ}

omit [Field K] in
/-- A position below the limits follows from a start below them. -/
theorem below_start (inward : ∀ k, k + 1 < count → joint.Inward (position k) (position (k + 1))) {k : ℕ}
    (inside : k < count) (below : position k < joint.lowerPosition) : position 0 < joint.lowerPosition := by
  induction k with
  | zero => exact below
  | succ k ih => exact ih (Nat.lt_of_succ_lt inside) (((inward k inside).1 below).trans_lt below)

omit [Field K] in
theorem above_start (inward : ∀ k, k + 1 < count → joint.Inward (position k) (position (k + 1))) {k : ℕ}
    (inside : k < count) (above : joint.upperPosition < position k) : joint.upperPosition < position 0 := by
  induction k with
  | zero => exact above
  | succ k ih => exact ih (Nat.lt_of_succ_lt inside) (above.trans_le ((inward k inside).2 above))

/-- The first waypoint. -/
theorem Recovering.first (recovery : request.allowOutOfLimitStartRecovery = true) : ∃ checked,
    ({} : Track K).checkLimits request 0 joint (position 0) = .ok checked ∧
      Recovering joint position 0 { checked with previousPosition := some (position 0) } := by
  unfold Track.checkLimits
  simp only [recovery, true_and, lt_irrefl, and_false, if_false, Bool.not_true, Bool.false_eq_true]
  split_ifs with outside below
  · exact ⟨_, rfl, (if_pos below).symm, rfl, fun recovered => absurd recovered Bool.false_ne_true⟩
  · refine ⟨_, rfl, ?_, rfl, fun recovered => absurd recovered Bool.false_ne_true⟩
    exact ((if_neg below).trans (if_pos (outside.resolve_left below))).symm
  · obtain ⟨low, high⟩ := not_or.mp outside
    exact ⟨_, rfl, ((if_neg low).trans (if_neg high)).symm, rfl, fun recovered => absurd recovered Bool.false_ne_true⟩

variable [IsStrictOrderedRing K]

/-- A later waypoint. -/
theorem Recovering.next {track : Track K} {k : ℕ} (recovery : request.allowOutOfLimitStartRecovery = true)
    (known : Recovering joint position k track) (inward : joint.Inward (position k) (position (k + 1)))
    (below : position (k + 1) < joint.lowerPosition → position 0 < joint.lowerPosition)
    (above : joint.upperPosition < position (k + 1) → joint.upperPosition < position 0)
    (ordered : joint.lowerPosition < joint.upperPosition)
    (target : k + 1 + 1 = request.waypoints.length → joint.Inside (position (k + 1))) : ∃ checked,
      track.checkLimits request (k + 1) joint (position (k + 1)) = .ok checked ∧
        Recovering joint position (k + 1) { checked with previousPosition := some (position (k + 1)) } := by
  have tolerance : (0 : K) ≤ limitTolerance := limitTolerance_nonneg
  unfold Track.checkLimits
  simp only [Nat.succ_ne_zero, false_and, if_false, Nat.succ_pos, and_true]
  by_cases outside : position (k + 1) < joint.lowerPosition ∨ joint.upperPosition < position (k + 1)
  · have last : ¬ k + 1 + 1 = request.waypoints.length := fun last =>
      TrajectoryJoint.inside_iff.mp (target last) outside
    have unrecovered : ¬ track.recovered = true := by
      intro recovered
      obtain ⟨low, high⟩ := known.recovered recovered
      rcases outside with low' | high'
      · exact absurd ((inward.1 low').trans_lt low') (not_lt.mpr low)
      · exact absurd (high'.trans_le (inward.2 high')) (not_lt.mpr high)
    have directed : track.recoveryDirection ≠ .none ∧ track.movesInward (position (k + 1)) = true := by
      unfold Track.movesInward
      rw [known.direction, known.previous, TrajectoryJoint.recoveryFrom]
      rcases outside with low | high
      · have le := inward.1 low
        rw [if_pos (below low)]
        exact ⟨by simp, by simpa using by linarith⟩
      · have le := inward.2 high
        have start := above high
        rw [if_neg (not_lt.mpr (ordered.trans start).le), if_pos start]
        exact ⟨by simp, by simpa using by linarith⟩
    have blocked : ¬ (¬ (request.allowOutOfLimitStartRecovery = true ∧ track.recoveryDirection ≠ .none ∧
        ¬ track.recovered = true ∧ ¬ k + 1 + 1 = request.waypoints.length) ∨
          ¬ track.movesInward (position (k + 1)) = true) :=
      not_or.mpr ⟨not_not.mpr ⟨recovery, directed.1, unrecovered, last⟩, not_not.mpr directed.2⟩
    rw [if_pos outside, if_neg blocked]
    exact ⟨_, rfl, known.direction, rfl, fun recovered => absurd recovered unrecovered⟩
  · have inside := TrajectoryJoint.inside_iff.mpr outside
    rw [if_neg outside]
    split_ifs
    · exact ⟨_, rfl, known.direction, rfl, fun _ => inside⟩
    · exact ⟨_, rfl, known.direction, rfl, fun _ => inside⟩

end Joints

/-- What the loop over the waypoints keeps before the waypoint of a number. -/
def Tracks (request : Request K) : ℕ → List (Track K) → Prop
  | 0, tracks => tracks = request.joints.map fun _ => {}
  | k + 1, tracks => tracks.length = request.joints.length ∧ ∀ (j : ℕ) (joint : TrajectoryJoint K) (track : Track K),
    request.joints[j]? = some joint → tracks[j]? = some track → Recovering joint (request.position j) k track

section Loop

omit [LinearOrder K] in
theorem position_of_found {k : ℕ} {waypoint : Waypoint K} (found : request.waypoints[k]? = some waypoint) (j : ℕ) :
    request.position j k = waypoint.positions.getD j 0 := by
  rw [Request.position, found]
  rfl

theorem Tracks.length {k : ℕ} {tracks : List (Track K)} (known : Tracks request k tracks) :
    tracks.length = request.joints.length := by
  cases k with
  | zero => rw [known, List.length_map]
  | succ k => exact known.1

variable [IsStrictOrderedRing K]

/-- One joint at one waypoint. -/
theorem checkWaypointJoint_accepts (acceptable : Acceptable arms request) {k j : ℕ} {waypoint : Waypoint K}
    {joint : TrajectoryJoint K} {tracks : List (Track K)} {track : Track K}
    (found : request.waypoints[k]? = some waypoint) (listed : request.joints[j]? = some joint)
    (known : Tracks request k tracks) (tracked : tracks[j]? = some track) : ∃ track',
      checkWaypointJoint request k waypoint j joint track = .ok track' ∧
        Recovering joint (request.position j) k track' := by
  have inside := (List.getElem?_eq_some_iff.mp found).1
  have complete := acceptable.complete waypoint (List.mem_of_getElem? found)
  have limits : ∃ checked, track.checkLimits request k joint (request.position j k) = .ok checked ∧
      Recovering joint (request.position j) k { checked with previousPosition := some (request.position j k) } := by
    cases k with
    | zero =>
      rw [known, List.getElem?_map, listed] at tracked
      cases tracked
      exact Recovering.first acceptable.recovery
    | succ k =>
      have inward := acceptable.inward j joint listed
      have ordered := (acceptable.suited joint (List.mem_of_getElem? listed)).ordered
      refine (known.2 j joint track listed tracked).next acceptable.recovery (inward k inside)
        (below_start inward inside) (above_start inward inside) ordered fun last => ?_
      have target := acceptable.target j joint listed
      rwa [← last, Nat.add_sub_cancel] at target
  obtain ⟨checked, passed, recovering⟩ := limits
  rw [position_of_found found] at passed
  refine ⟨_, ?_, recovering⟩
  unfold checkWaypointJoint
  simp only
  rw [passed, ok_bind, reject_bind_of_not, reject_bind_of_not, pure_eq_ok, position_of_found found]
  · rintro ⟨counts, fast⟩
    exact absurd (complete.acceleration j joint listed counts) (not_le.mpr fast)
  · rintro ⟨counts, fast⟩
    exact absurd (complete.velocity j joint listed counts) (not_le.mpr fast)

/-- One waypoint. -/
theorem checkWaypoint_accepts (acceptable : Acceptable arms request) {k : ℕ} {waypoint : Waypoint K}
    {tracks : List (Track K)} (found : request.waypoints[k]? = some waypoint) (known : Tracks request k tracks) :
    ∃ tracks', checkWaypoint request tracks (waypoint, k) = .ok tracks' ∧ Tracks request (k + 1) tracks' := by
  have complete := acceptable.complete waypoint (List.mem_of_getElem? found)
  have mapped : ∃ tracks', ((request.joints.zip tracks).zipIdx.mapM fun entry =>
      checkWaypointJoint request k waypoint entry.2 entry.1.1 entry.1.2) = .ok tracks' ∧
      tracks'.length = (request.joints.zip tracks).zipIdx.length ∧ ∀ (j : ℕ) (track' : Track K),
        tracks'[j]? = some track' → ∀ joint, request.joints[j]? = some joint →
          Recovering joint (request.position j) k track' := by
    refine exists_mapM _ ?_
    rintro j ⟨⟨joint, track⟩, place⟩ member
    rw [List.getElem?_zipIdx] at member
    obtain ⟨pair, paired, same⟩ := Option.map_eq_some_iff.mp member
    cases same
    obtain ⟨listed, tracked⟩ := List.getElem?_zip_eq_some.mp paired
    rw [Nat.zero_add]
    obtain ⟨track', passed, recovering⟩ := checkWaypointJoint_accepts acceptable found listed known tracked
    refine ⟨track', passed, fun other listed' => ?_⟩
    cases listed.symm.trans listed'
    exact recovering
  obtain ⟨tracks', checked, length, each⟩ := mapped
  refine ⟨tracks', ?_, ?_, fun j joint track listed tracked => each j track tracked joint listed⟩
  · unfold checkWaypoint
    simp only
    rw [reject_bind_of_not, reject_bind_of_not (by simp [complete.velocityMask, complete.accelerationMask]),
      reject_bind_of_not (by simp [complete.positions, complete.velocities, complete.accelerations])]
    · exact checked
    · rintro ⟨later, early⟩
      obtain ⟨previous, before, late⟩ := (Option.any_eq_true _ _).mp early
      obtain ⟨place, rfl⟩ := Nat.exists_eq_add_of_le' later
      obtain ⟨inside, rfl⟩ := List.getElem?_eq_some_iff.mp found
      obtain ⟨inside', rfl⟩ := List.getElem?_eq_some_iff.mp before
      have increasing := List.isChain_iff_getElem.mp acceptable.increasing place inside
      exact absurd (of_decide_eq_true late) (not_le.mpr increasing)
  · rw [length, List.length_zipIdx, List.length_zip, known.length, min_self]

/-- The loop over the waypoints. -/
theorem checkWaypoints_accepts (acceptable : Acceptable arms request) : ∃ tracks,
    checkWaypoints request = .ok tracks ∧ tracks.length = request.joints.length ∧
      ∀ (j : ℕ) (joint : TrajectoryJoint K) (track : Track K), request.joints[j]? = some joint →
        tracks[j]? = some track → track.recoveryDirection = joint.recoveryFrom (request.position j 0) := by
  have folding : ∃ tracks, checkWaypoints request = .ok tracks ∧
      Tracks request request.waypoints.zipIdx.length tracks := by
    refine exists_foldlM (Tracks request) rfl ?_
    rintro k ⟨waypoint, place⟩ tracks member known
    rw [List.getElem?_zipIdx] at member
    obtain ⟨other, found, same⟩ := Option.map_eq_some_iff.mp member
    cases same
    rw [Nat.zero_add]
    exact checkWaypoint_accepts acceptable found known
  obtain ⟨tracks, folded, known⟩ := folding
  obtain ⟨count, length⟩ := Nat.exists_eq_add_of_le' acceptable.waypoints.1
  rw [List.length_zipIdx, length] at known
  exact ⟨tracks, folded, known.1, fun j joint track listed tracked => (known.2 j joint track listed tracked).direction⟩

end Loop

/-! ## The segments -/

section Segments

variable {joint : TrajectoryJoint K} {coefficients : Coefficients K} {recovery : Recovery} {value : K}

theorem allowedLower_le (below : coefficients.sample 0 < joint.lowerPosition → recovery = .upward)
    (inward : value < joint.lowerPosition → coefficients.sample 0 ≤ value) :
    allowedLower joint coefficients recovery ≤ value := by
  unfold allowedLower
  rcases lt_or_ge value joint.lowerPosition with low | high
  · have le := inward low
    have recovering : recoveringBelow joint coefficients recovery = true := by
      simp [recoveringBelow, below (le.trans_lt low), le.trans_lt low]
    rw [if_pos recovering]
    exact le
  · split_ifs with recovering
    · unfold recoveringBelow at recovering
      simp only [Bool.and_eq_true, decide_eq_true_eq] at recovering
      exact (recovering.2.trans_le high).le
    · exact high

theorem le_allowedUpper (above : joint.upperPosition < coefficients.sample 0 → recovery = .downward)
    (inward : joint.upperPosition < value → value ≤ coefficients.sample 0) :
    value ≤ allowedUpper joint coefficients recovery := by
  unfold allowedUpper
  rcases lt_or_ge joint.upperPosition value with high | low
  · have le := inward high
    have recovering : recoveringAbove joint coefficients recovery = true := by
      simp [recoveringAbove, above (high.trans_le le), high.trans_le le]
    rw [if_pos recovering]
    exact le
  · split_ifs with recovering
    · unfold recoveringAbove at recovering
      simp only [Bool.and_eq_true, decide_eq_true_eq] at recovering
      exact (low.trans_lt recovering.2).le
    · exact low

variable [IsStrictOrderedRing K]

/-- A line has no candidates but its ends. -/
theorem candidates_line (first second : K) :
    candidates (derivative (sampledPvCoefficients first second).asPolynomial) = [0, 1] := by
  have flat : derivative (sampledPvCoefficients first second).asPolynomial = (second - first) :: [0, 0, 0, 0] := by
    simp [derivative, sampledPvCoefficients, Coefficients.asPolynomial]
  rw [candidates, flat, rootsOnUnitInterval_of_flat (by simp)]

/-- A line between two positions of which the later one lies inward. -/
theorem validateJoint_accepts {duration before after : K} {segment : ℕ}
    (below : before < joint.lowerPosition → recovery = .upward)
    (above : joint.upperPosition < before → recovery = .downward) (inward : joint.Inward before after) :
    validateJoint duration segment joint (sampledPvCoefficients before after) recovery false = .ok () := by
  have tolerance : (0 : K) ≤ limitTolerance := limitTolerance_nonneg
  have start : (sampledPvCoefficients before after).sample 0 = before := by
    simp [sampledPvCoefficients, Coefficients.sample, Coefficients.asPolynomial, evaluate]
  have finish : (sampledPvCoefficients before after).sample 1 = after := by
    simp [sampledPvCoefficients, Coefficients.sample, Coefficients.asPolynomial, evaluate]
  have each : ∀ u ∈ ([0, 1] : List K),
      checkPosition segment joint (sampledPvCoefficients before after) recovery u = .ok () := by
    intro u member
    have low : allowedLower joint (sampledPvCoefficients before after) recovery ≤
        (sampledPvCoefficients before after).sample u := by
      refine allowedLower_le (start.symm ▸ below) ?_
      rcases List.mem_pair.mp member with rfl | rfl
      · exact fun _ => le_rfl
      · rw [start, finish]
        exact inward.1
    have high : (sampledPvCoefficients before after).sample u ≤
        allowedUpper joint (sampledPvCoefficients before after) recovery := by
      refine le_allowedUpper (start.symm ▸ above) ?_
      rcases List.mem_pair.mp member with rfl | rfl
      · exact fun _ => le_rfl
      · rw [start, finish]
        exact inward.2
    unfold checkPosition
    simp only
    rw [if_neg]
    rw [not_or, not_lt, not_lt]
    constructor <;> linarith
  unfold validateJoint
  simp only [candidates_line]
  rw [forM_ok each]
  rfl

/-- The segment between two waypoints of an acceptable request. -/
theorem makeSegment_accepts (acceptable : Acceptable arms request) {directions : List Recovery} {k : ℕ}
    {first second : Waypoint K} (found : request.waypoints[k]? = some first)
    (found' : request.waypoints[k + 1]? = some second)
    (directed : ∀ (j : ℕ) (joint : TrajectoryJoint K) (direction : Recovery), request.joints[j]? = some joint →
      directions[j]? = some direction → direction = joint.recoveryFrom (request.position j 0)) :
    ∃ segment, makeSegment request directions k first second = .ok segment ∧
      segment.start + segment.duration = second.time := by
  have validated : validateSegmentExtrema (second.time - first.time) (request.joints.zip (((List.range
      request.joints.length).map (segmentCoefficients request.execution (second.time - first.time) first second)).zip
      directions)) k (decide (request.execution ≠ .trajectoryPv)) = .ok () := by
    refine forM_ok ?_
    rintro ⟨joint, coefficients, direction⟩ member
    obtain ⟨j, here⟩ := List.getElem?_of_mem member
    obtain ⟨listed, paired⟩ := List.getElem?_zip_eq_some.mp here
    obtain ⟨made, direct⟩ := List.getElem?_zip_eq_some.mp paired
    rw [List.getElem?_map] at made
    obtain ⟨place, ranged, rfl⟩ := Option.map_eq_some_iff.mp made
    obtain ⟨inside, rfl⟩ := List.getElem?_eq_some_iff.mp ranged
    rw [List.getElem_range]
    have inside' := (List.getElem?_eq_some_iff.mp found').1
    have inward := acceptable.inward j joint listed
    have last := inward k inside'
    have low := below_start inward (Nat.lt_of_succ_lt inside')
    have high := above_start inward (Nat.lt_of_succ_lt inside')
    rw [position_of_found found, position_of_found found'] at last
    rw [position_of_found found] at low high
    have start := directed j joint direction listed direct
    have ordered := (acceptable.suited joint (List.mem_of_getElem? listed)).ordered
    rw [acceptable.execution]
    refine validateJoint_accepts (fun below => ?_) (fun above => ?_) last
    · rw [start, TrajectoryJoint.recoveryFrom, if_pos (low below)]
    · rw [start, TrajectoryJoint.recoveryFrom, if_neg (not_lt.mpr (ordered.trans (high above)).le), if_pos (high above)]
  unfold makeSegment
  simp only
  rw [validated]
  exact ⟨_, rfl, add_sub_cancel _ _⟩

end Segments

/-! ## The request -/

section Requests

omit [LinearOrder K] in
theorem preparedWaypoints_sampled (execution : request.execution = .trajectoryPv) (origin : request.timeOrigin = 0) :
    request.preparedWaypoints = request.waypoints := by
  unfold Request.preparedWaypoints
  simp only
  rw [if_pos execution, origin]
  simp only [sub_zero]
  exact List.map_id _

/-- The last waypoint has a positive time. -/
theorem Acceptable.completion_pos (acceptable : Acceptable arms request) : ∃ last ∈ request.waypoints.getLast?,
    last.time = request.completionDeadline ∧ 0 < request.completionDeadline := by
  obtain ⟨count, length⟩ := Nat.exists_eq_add_of_le' acceptable.waypoints.1
  have ordered : (request.waypoints.map Waypoint.time).Pairwise (· < ·) :=
    List.isChain_iff_pairwise.mp ((List.isChain_map _).mpr acceptable.increasing)
  have later := List.pairwise_iff_getElem.mp ordered 0 (count + 1) (by simp [length]) (by simp [length])
    (Nat.succ_pos count)
  have start : request.waypoints[0].time = 0 := by
    have origin := acceptable.origin
    rw [Request.timeOrigin, List.head?_eq_getElem?, List.getElem?_eq_getElem (by omega)] at origin
    exact origin
  have last : request.waypoints.getLast? = some request.waypoints[count + 1] := by
    rw [List.getLast?_eq_getElem?, show request.waypoints.length - 1 = count + 1 by omega]
    exact List.getElem?_eq_getElem _
  have completion := acceptable.completion _ last
  rw [List.getElem_map, List.getElem_map, start, ← completion] at later
  exact ⟨_, last, completion.symm, later⟩

variable [IsStrictOrderedRing K]

theorem checkSchedule_accepts (acceptable : Acceptable arms request) :
    checkSchedule request request.completionDeadline = .ok request.completionDeadline := by
  obtain ⟨-, -, -, positive⟩ := acceptable.completion_pos
  have tolerance : (0 : K) ≤ limitTolerance := limitTolerance_nonneg
  have bounded := not_lt.mpr acceptable.bounded
  unfold checkSchedule
  rw [reject_bind_of_not (not_or.mpr ⟨not_le.mpr positive, bounded⟩)]
  simp only [if_pos positive]
  rw [reject_bind_of_not (not_or.mpr ⟨by linarith, bounded⟩), reject_bind_of_not]
  · rfl
  · rintro ⟨given, early⟩
    obtain none | ⟨after, before⟩ := acceptable.approach
    · exact given none
    · exact early.elim (fun le => absurd after (not_lt.mpr le)) fun le => absurd before (not_lt.mpr le)

/-- A segment ends at the time of the waypoint behind it. -/
def EndsAt (request : Request K) (k : ℕ) (segment : Segment K) : Prop :=
  ∃ waypoint, request.waypoints[k + 1]? = some waypoint ∧ segment.start + segment.duration = waypoint.time

/-- The first part of `start_trajectory` accepts an acceptable request, with a segment from each waypoint to the next
one. -/
theorem planTrajectory_accepts (acceptable : Acceptable arms request) : ∃ plan,
    planTrajectory arms request = .ok plan ∧ plan.duration = request.completionDeadline ∧
      plan.segments.length + 1 = request.waypoints.length ∧
      ∀ (k : ℕ) (segment : Segment K), plan.segments[k]? = some segment → EndsAt request k segment := by
  obtain ⟨tracks, checked, length, directed⟩ := checkWaypoints_accepts acceptable
  obtain ⟨last, ends, time, -⟩ := acceptable.completion_pos
  have prepared := preparedWaypoints_sampled acceptable.execution acceptable.origin
  have made : ∃ segments, ((request.waypoints.zip request.waypoints.tail).zipIdx.mapM fun entry =>
      makeSegment request (tracks.map Track.recoveryDirection) entry.2 entry.1.1 entry.1.2) = .ok segments ∧
      segments.length = (request.waypoints.zip request.waypoints.tail).zipIdx.length ∧
      ∀ (k : ℕ) (segment : Segment K), segments[k]? = some segment → EndsAt request k segment := by
    refine exists_mapM _ ?_
    rintro k ⟨⟨first, second⟩, place⟩ member
    rw [List.getElem?_zipIdx] at member
    obtain ⟨pair, paired, same⟩ := Option.map_eq_some_iff.mp member
    cases same
    obtain ⟨found, found'⟩ := List.getElem?_zip_eq_some.mp paired
    rw [List.getElem?_tail] at found'
    rw [Nat.zero_add]
    have accepted : ∃ segment, makeSegment request (tracks.map Track.recoveryDirection) k first second = .ok segment ∧
        segment.start + segment.duration = second.time := by
      refine makeSegment_accepts acceptable found found' fun j joint direction listed given => ?_
      rw [List.getElem?_map] at given
      obtain ⟨track, tracked, rfl⟩ := Option.map_eq_some_iff.mp given
      exact directed j joint track listed tracked
    obtain ⟨segment, ok, ends⟩ := accepted
    exact ⟨segment, ok, second, found', ends⟩
  obtain ⟨segments, mapped, count, ending⟩ := made
  have several := acceptable.waypoints.1
  refine ⟨⟨segments, request.completionDeadline, request.completionDeadline, tracks.map Track.recoveryDirection⟩,
    ?_, rfl, ?_, ending⟩
  · unfold planTrajectory
    rw [checkRequest_accepts acceptable, ok_bind, reject_bind_of_not (by rw [acceptable.origin]; exact lt_irrefl 0),
      checked, ok_bind]
    simp only [prepared, Option.mem_def.mp ends, Option.map_some, Option.getD_some, time]
    rw [checkSchedule_accepts acceptable, ok_bind]
    exact congrArg (· >>= _) mapped
  · rw [count, List.length_zipIdx, List.length_zip, List.length_tail]
    omega

/-- The last section of `start_trajectory` accepts a mask of the trajectory's joints and an approach that ends in
time. -/
theorem checkPrepared_accepts {plan : Plan K} (id : ℕ)
    (mask : request.cartesianTrackingJointMask &&& ~~~jointBits request.joints.length = 0)
    (approach : approachEnd plan.segments request.approachSegmentCount ≤ request.approachDeadline) :
    checkPrepared request (preparedTrajectory id request plan) = .ok () := by
  have tolerance : (0 : K) ≤ limitTolerance := limitTolerance_nonneg
  have inTime : approachEnd plan.segments request.approachSegmentCount ≤ request.approachDeadline + limitTolerance :=
    approach.trans (le_add_of_nonneg_right tolerance)
  unfold checkPrepared
  rw [reject_bind_of_not (not_not.mpr mask)]
  exact reject_eq_ok.mpr fun late => not_lt.mpr inTime late.2.2

end Requests

end Accepts

end MotorDrive.Trajectory
