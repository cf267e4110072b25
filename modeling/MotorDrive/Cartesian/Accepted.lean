import MotorDrive.Cartesian.Follow
import MotorDrive.Trajectory.Acceptance

/-!
# Plans that the Runtime accepts

The plans made for the product's joint table at its Cartesian speeds: the tests of `start_trajectory` on a request
accept each of them, from every reference whose other arm lies within the limits.
-/

namespace MotorDrive.Cartesian

open Validate

open Trajectory (Motor TrajectoryJoint Waypoint Request Engine StartConditions Plan Segment planTrajectory approachEnd
  checkPrepared preparedTrajectory checkStartFeedback)

noncomputable section

open Classical

/-! ## Inward along a path -/

section Inward

variable {start point : JointPoint} {rest : List JointPoint} {maximumVelocity position : ℝ} {first second : Knot}

/-- A point before the second one of the path lies on the first segment. -/
theorem onPolyline_first (joint : Fin 14) (on : OnPolyline (start :: rest) position point) (early : position < 1) :
    0 ≤ position ∧ rest.headD 0 ∈ rest ∧
      point joint = start joint + position * (rest.headD 0 joint - start joint) := by
  obtain ⟨lower, within, above, -, same⟩ := on
  obtain rfl : lower = 0 := by
    by_contra later
    have one_le : (1 : ℝ) ≤ lower := Nat.one_le_cast.mpr (Nat.one_le_iff_ne_zero.mpr later)
    linarith
  rw [Nat.cast_zero] at above
  have several : rest ≠ [] := List.ne_nil_of_length_pos (by simpa using within)
  obtain ⟨next, others, rfl⟩ := List.exists_cons_of_ne_nil several
  refine ⟨above, List.mem_cons_self, ?_⟩
  rw [same joint, Nat.cast_zero, sub_zero]
  rfl

/-- A point below a bound that only the start of the path may be below lies before the second one. -/
theorem onPolyline_below {sign bound : ℝ} {joint : Fin 14} (inside : ∀ later ∈ rest, bound ≤ sign * later joint)
    (on : OnPolyline (start :: rest) position point) (below : sign * point joint < bound) : position < 1 := by
  by_contra late
  obtain ⟨lower, within, above, under, same⟩ := on
  have later (k : ℕ) (within : k < rest.length) : bound ≤ sign * (start :: rest).getD (k + 1) 0 joint := by
    rw [List.getD_cons_succ, List.getD_eq_getElem _ _ within]
    exact inside _ (List.getElem_mem within)
  have within' : lower < rest.length := by simpa using within
  have finish := later lower within'
  refine absurd ?_ (not_le.mpr below)
  rw [same joint]
  cases lower with
  | zero =>
    rw [Nat.cast_zero] at under ⊢
    have whole : position - 0 = 1 := by linarith
    rwa [whole, one_mul, add_sub_cancel]
  | succ lower =>
    have begins := later lower (Nat.lt_of_succ_lt within')
    have part : 0 ≤ position - ((lower + 1 : ℕ) : ℝ) := sub_nonneg.mpr above
    have part' : 0 ≤ 1 - (position - ((lower + 1 : ℕ) : ℝ)) := by linarith
    have front := mul_le_mul_of_nonneg_left begins part'
    have back := mul_le_mul_of_nonneg_left finish part
    linarith

/-- The knot before such a point lies further below. -/
theorem KnotStep.sign_le (sign bound : ℝ) (joint : Fin 14)
    (next : KnotStep (start :: rest) maximumVelocity first second)
    (inside : ∀ later ∈ rest, bound ≤ sign * later joint) (below : sign * second.2 joint < bound) :
    sign * first.2 joint ≤ sign * second.2 joint := by
  obtain ⟨before, after, le, on, on'⟩ := next.along
  have early := onPolyline_below inside on' below
  obtain ⟨-, -, same⟩ := onPolyline_first joint on (le.trans_lt early)
  obtain ⟨nonneg, member, same'⟩ := onPolyline_first joint on' early
  have finish := inside _ member
  have rises : 0 ≤ sign * rest.headD 0 joint - sign * start joint := by
    by_contra falls
    rw [same'] at below
    have part := mul_le_mul_of_nonneg_right early.le (neg_nonneg.mpr (not_le.mp falls).le)
    linarith
  have further := mul_le_mul_of_nonneg_right le rises
  rw [same, same']
  linarith

/-- Along a path whose points after the start lie between two bounds, a point outside them lies no further outside than
the one before it. -/
theorem KnotStep.inward {lower upper : ℝ} {joint : Fin 14}
    (next : KnotStep (start :: rest) maximumVelocity first second)
    (inside : ∀ later ∈ rest, lower ≤ later joint ∧ later joint ≤ upper) :
    (second.2 joint < lower → first.2 joint ≤ second.2 joint) ∧
      (upper < second.2 joint → second.2 joint ≤ first.2 joint) := by
  constructor
  · intro below
    have le := next.sign_le 1 lower joint (fun later member => by linarith [(inside later member).1]) (by linarith)
    linarith
  · intro above
    have le := next.sign_le (-1) (-upper) joint (fun later member => by linarith [(inside later member).2])
      (by linarith)
    linarith

end Inward

/-! ## Requests of planned motions -/

section Requests

variable {product : Resources} {side : Side} {acceleration velocity maximumVelocity duration : ℝ}
  {reference : PlannedReference} {knots : List Knot} {request : Request ℝ} {path : List JointPoint}

/-- The times of a schedule increase. -/
theorem Schedule.times (schedule : Schedule path maximumVelocity duration knots) :
    (knots.map Prod.fst).Pairwise (· < ·) := by
  rw [← List.isChain_iff_pairwise, List.isChain_map]
  exact schedule.steps.imp fun _ _ next => next.lt

theorem Schedule.time_lt (schedule : Schedule path maximumVelocity duration knots) {k l : ℕ} {first second : Knot}
    (found : knots[k]? = some first) (found' : knots[l]? = some second) (before : k < l) : first.1 < second.1 := by
  obtain ⟨inside, rfl⟩ := List.getElem?_eq_some_iff.mp found
  obtain ⟨inside', rfl⟩ := List.getElem?_eq_some_iff.mp found'
  have less := List.pairwise_iff_getElem.mp schedule.times k l (by simpa using inside) (by simpa using inside') before
  rwa [List.getElem_map, List.getElem_map] at less

theorem Carries.position (carries : Carries product side acceleration velocity duration reference knots request)
    {k : ℕ} {knot : Knot} (found : knots[k]? = some knot) (joint : Fin 14) :
    request.position joint k = knot.2 joint := by
  obtain ⟨waypoint, found', known⟩ := forall₂_getElem? carries.waypoints found
  rw [Trajectory.position_of_found found', known.positions]
  exact congrFun jointPoint_valuesOf joint

theorem Carries.joint (carries : Carries product side acceleration velocity duration reference knots request) {j : ℕ}
    {joint : TrajectoryJoint ℝ} (listed : request.joints[j]? = some joint) :
    ∃ index : Fin 14, j = index ∧ joint = trajectoryJoint (product.joints index) index := by
  rw [carries.joints] at listed
  obtain ⟨inside, rfl⟩ := List.getElem?_eq_some_iff.mp listed
  rw [List.length_ofFn] at inside
  exact ⟨⟨j, inside⟩, rfl, List.getElem_ofFn _⟩

/-- What the tests ask of the derivatives of a reference. -/
structure SlowReference (product : Resources) (reference : PlannedReference) : Prop where
  velocity : ∀ joint, |jointPoint reference.velocities joint| ≤ (product.joints joint).velocityLimit
  acceleration : ∀ joint, |jointPoint reference.accelerations joint| ≤ (product.joints joint).accelerationLimit

/-- A joint of a request of the product. -/
theorem suited_trajectoryJoint (carries : Carries product side acceleration velocity duration reference knots request)
    (fast : velocity ≤ 3 ∧ acceleration ≤ 6) {index : Fin 14} (sound : (product.joints index).Sound) :
    Trajectory.Suited request (trajectoryJoint (product.joints index) index) := by
  have velocity_pos : 0 < (product.joints index).velocityLimit := by linarith [sound.velocity]
  have acceleration_pos : 0 < (product.joints index).accelerationLimit := by linarith [sound.acceleration]
  obtain ⟨command, feedback, torque⟩ := sound.scales
  have drive : min (product.joints index).velocityLimit 3 = 3 := min_eq_right sound.velocity
  refine ⟨?_, ⟨?_, min_le_left _ _⟩, ⟨?_, min_le_left _ _⟩, ?_, ?_, ?_⟩
  · unfold TrajectoryJoint.misconfigured
    simp only [Bool.or_eq_false_iff, decide_eq_false_iff_not, not_le, not_not]
    exact ⟨⟨⟨⟨⟨⟨⟨sound.direction, command⟩, feedback⟩, torque⟩, sound.ordered⟩, velocity_pos⟩, acceleration_pos⟩,
      sound.torque⟩
  · change 0 < min (product.joints index).velocityLimit 3
    rw [drive]
    norm_num
  · change 0 ≤ min (min (product.joints index).velocityLimit 3) 0
    rw [drive]
    norm_num
  · rw [carries.referenceVelocity.1]
    exact fast.1.trans sound.velocity
  · rw [carries.referenceAcceleration.1]
    exact fast.2.trans sound.acceleration
  · rw [carries.driveVelocity]
    exact sound.velocity

/-- A waypoint of a request of the product. -/
theorem complete_waypoint (carries : Carries product side acceleration velocity duration reference knots request)
    (sound : ∀ joint, (product.joints joint).Sound) (slow : SlowReference product reference)
    {waypoint : Waypoint ℝ} {knot : Knot} (known : IsKnot reference knot waypoint) :
    Trajectory.Complete request waypoint := by
  have length : request.joints.length = 14 := by rw [carries.joints, List.length_ofFn]
  have bits : allJoints &&& ~~~Trajectory.jointBits 14 = 0 ∧ (0 : BitVec 32) &&& ~~~Trajectory.jointBits 14 = 0 := by
    decide
  have values (point : JointPoint) : (valuesOf point).length = 14 := List.length_ofFn
  have zero : jointPoint (valuesOf 0) = 0 := jointPoint_valuesOf
  refine ⟨?_, ?_, ?_, ?_, ?_, fun j joint listed _ => ?_, fun j joint listed _ => ?_⟩
  · rw [length]
    rcases known.velocityMask with mask | mask
    · exact mask ▸ bits.1
    · exact mask ▸ bits.2
  · rw [length]
    rcases known.accelerationMask with mask | mask
    · exact mask ▸ bits.1
    · exact mask ▸ bits.2
  · rw [known.positions, values, length]
  · rcases known.velocities with same | same <;> rw [same, values, length]
  · rcases known.accelerations with same | same <;> rw [same, values, length]
  · obtain ⟨index, rfl, rfl⟩ := carries.joint listed
    rcases known.velocities with same | same
    · rw [same]
      exact (congrArg abs (congrFun jointPoint_valuesOf index)).trans_le (slow.velocity index)
    · rw [same]
      refine (congrArg abs (congrFun zero index)).trans_le ?_
      rw [Pi.zero_apply, abs_zero]
      exact le_trans (by norm_num) (sound index).velocity
  · obtain ⟨index, rfl, rfl⟩ := carries.joint listed
    rcases known.accelerations with same | same
    · rw [same]
      exact (congrArg abs (congrFun jointPoint_valuesOf index)).trans_le (slow.acceleration index)
    · rw [same]
      refine (congrArg abs (congrFun zero index)).trans_le ?_
      rw [Pi.zero_apply, abs_zero]
      exact le_trans (by norm_num) (sound index).acceleration

/-- The motors of a request are those of the product. -/
theorem Carries.motors {motors : Fin 14 → Motor}
    (carries : Carries product side acceleration velocity duration reference knots request)
    (owned : ∀ joint, (product.joints joint).motor = motors joint) :
    request.joints.map TrajectoryJoint.motor = List.ofFn motors := by
  rw [carries.joints, List.map_ofFn]
  exact congrArg List.ofFn (funext owned)

/-- A request begins at time zero. -/
theorem Carries.timeOrigin (carries : Carries product side acceleration velocity duration reference knots request)
    (schedule : Schedule path maximumVelocity duration knots) : request.timeOrigin = 0 := by
  obtain ⟨origin, -, first⟩ := schedule.first
  rw [List.head?_eq_getElem?] at first
  obtain ⟨waypoint, found, known⟩ := forall₂_getElem? carries.waypoints first
  rw [Request.timeOrigin, List.head?_eq_getElem?, found]
  exact known.time

/-- The approach of a request, if there is one, ends before the motion does. -/
theorem Carries.approachDeadline (carries : Carries product side acceleration velocity duration reference knots request)
    (schedule : Schedule path maximumVelocity duration knots) : request.approachDeadline = 0 ∨
      0 < request.approachDeadline ∧ request.approachDeadline < request.completionDeadline := by
  obtain ⟨approachEnd, point, approach⟩ := carries.approach
  obtain ⟨origin, -, first⟩ := schedule.first
  obtain ⟨finish, -, last⟩ := schedule.last
  rw [List.head?_eq_getElem?] at first
  rw [List.getLast?_eq_getElem?] at last
  rcases Nat.eq_zero_or_pos request.approachSegmentCount with none | some
  · rw [none, first] at approach
    exact .inl (congrArg Prod.fst (Option.some.inj approach)).symm
  · refine .inr ⟨schedule.time_lt first approach some, ?_⟩
    rw [carries.completion]
    exact schedule.time_lt approach last (by omega)

/-- A knot of a schedule comes at most 50 ms after the one before it. -/
theorem Schedule.time_le (schedule : Schedule path maximumVelocity duration knots) {k : ℕ} {knot : Knot}
    (found : knots[k]? = some knot) : knot.1 ≤ k * (0.050 + 1e-12) := by
  induction k generalizing knot with
  | zero =>
    obtain ⟨point, -, first⟩ := schedule.first
    rw [List.head?_eq_getElem?] at first
    cases first.symm.trans found
    rw [Nat.cast_zero, zero_mul]
  | succ k ih =>
    obtain ⟨inside, rfl⟩ := List.getElem?_eq_some_iff.mp found
    have before := ih (List.getElem?_eq_getElem (Nat.lt_of_succ_lt inside))
    have short := (List.isChain_iff_getElem.mp schedule.steps k inside).short
    rw [Nat.cast_succ, add_one_mul]
    linarith

/-- A schedule that fits into a request ends within an hour. -/
theorem Carries.bounded (carries : Carries product side acceleration velocity duration reference knots request)
    (schedule : Schedule path maximumVelocity duration knots) : duration ≤ 3600 := by
  obtain ⟨point, -, last⟩ := schedule.last
  rw [List.getLast?_eq_getElem?] at last
  have late := schedule.time_le last
  have count : ((knots.length - 1 : ℕ) : ℝ) ≤ 30000 := by
    have capacity := carries.capacity
    rw [← carries.waypoints.length_eq] at capacity
    exact_mod_cast (Nat.sub_le _ _).trans capacity
  have product := mul_le_mul_of_nonneg_right count (show (0 : ℝ) ≤ 0.050 + 1e-12 by norm_num)
  norm_num at late product ⊢
  linarith

/-- The joints whose tracking is checked are those of the arm. -/
theorem Carries.mask (carries : Carries product side acceleration velocity duration reference knots request) :
    request.cartesianTrackingJointMask &&& ~~~Trajectory.jointBits request.joints.length = 0 := by
  rw [carries.tracking, carries.joints, List.length_ofFn]
  cases side <;> decide

/-- The segments of the approach end with it. -/
theorem Carries.approachEnd_eq {segments : List (Segment ℝ)}
    (carries : Carries product side acceleration velocity duration reference knots request)
    (schedule : Schedule path maximumVelocity duration knots)
    (count : segments.length + 1 = request.waypoints.length)
    (ending : ∀ (k : ℕ) (segment : Segment ℝ), segments[k]? = some segment → Trajectory.EndsAt request k segment) :
    approachEnd segments request.approachSegmentCount = request.approachDeadline := by
  obtain ⟨approachEnd, point, approach⟩ := carries.approach
  unfold Trajectory.approachEnd
  split_ifs with none
  · obtain ⟨origin, -, first⟩ := schedule.first
    rw [List.head?_eq_getElem?] at first
    rw [none, first] at approach
    exact congrArg Prod.fst (Option.some.inj approach)
  · have length := carries.waypoints.length_eq
    have inside : request.approachSegmentCount - 1 < segments.length := by omega
    have place : request.approachSegmentCount - 1 + 1 = request.approachSegmentCount := by omega
    obtain ⟨waypoint, found, ends⟩ := ending _ _ (List.getElem?_eq_getElem inside)
    obtain ⟨other, found', known⟩ := forall₂_getElem? carries.waypoints approach
    rw [place] at found
    cases found.symm.trans found'
    rw [List.getElem?_eq_getElem inside]
    exact ends.trans known.time

/-- The request of a schedule along a path whose points after the start lie within the limits of the product. -/
theorem Carries.acceptable {motors : Fin 14 → Motor} {start : JointPoint} {rest : List JointPoint}
    (carries : Carries product side acceleration velocity duration reference knots request)
    (schedule : Schedule (start :: rest) maximumVelocity duration knots) (several : rest ≠ [])
    (inside : ∀ later ∈ rest, ∀ joint,
      (product.joints joint).lower ≤ later joint ∧ later joint ≤ (product.joints joint).upper)
    (sound : ∀ joint, (product.joints joint).Sound) (slow : SlowReference product reference)
    (fast : velocity ≤ 3 ∧ acceleration ≤ 6) (owned : ∀ joint, (product.joints joint).motor = motors joint)
    (distinct : Function.Injective motors) :
    Trajectory.Acceptable (List.ofFn motors) request := by
  have length := carries.waypoints.length_eq
  have motorsOf := carries.motors owned
  have listed {joint : TrajectoryJoint ℝ} (member : joint ∈ request.joints) :
      ∃ index : Fin 14, joint = trajectoryJoint (product.joints index) index := by
    obtain ⟨j, here⟩ := List.getElem?_of_mem member
    obtain ⟨index, -, same⟩ := carries.joint here
    exact ⟨index, same⟩
  obtain ⟨finish, ends, last⟩ := schedule.last
  refine {
    execution := carries.execution
    mode := carries.mode
    limits := ?_
    count := ?_
    motors := ?_
    suited := ?_
    waypoints := ?_
    origin := carries.timeOrigin schedule
    increasing := (carries.steps schedule).imp fun _ _ next => next.lt
    complete := ?_
    recovery := carries.recovery
    inward := ?_
    target := ?_
    completion := ?_
    bounded := carries.completion.trans_le (carries.bounded schedule)
    approach := carries.approachDeadline schedule }
  · rw [carries.referenceVelocity.1, carries.referenceAcceleration.1, carries.driveVelocity]
    exact ⟨carries.referenceVelocity.2, carries.referenceAcceleration.2, by norm_num⟩
  · rw [carries.joints]
    simp
  · refine ⟨motorsOf ▸ List.nodup_ofFn.mpr distinct, fun joint member => ?_⟩
    exact motorsOf ▸ List.mem_map_of_mem member
  · intro joint member
    obtain ⟨index, rfl⟩ := listed member
    exact suited_trajectoryJoint carries fast (sound index)
  · exact ⟨length ▸ schedule.several, carries.capacity, length ▸ Nat.lt_of_succ_lt carries.approach.1⟩
  · intro waypoint member
    obtain ⟨k, here⟩ := List.getElem?_of_mem member
    obtain ⟨knot, -, known⟩ := carries.knot here
    exact complete_waypoint carries sound slow known
  · intro j joint here k within
    obtain ⟨index, rfl, rfl⟩ := carries.joint here
    rw [← length] at within
    rw [carries.position (List.getElem?_eq_getElem (Nat.lt_of_succ_lt within)),
      carries.position (List.getElem?_eq_getElem within)]
    exact (List.isChain_iff_getElem.mp schedule.steps k within).inward fun later member => inside later member index
  · intro j joint here
    obtain ⟨index, rfl, rfl⟩ := carries.joint here
    rw [List.getLast?_eq_getElem?] at last
    rw [← length, carries.position last]
    have member : finish ∈ rest := by
      rw [List.getLast?_cons_of_ne_nil several] at ends
      exact List.mem_of_getLast? ends
    exact inside finish member index
  · intro waypoint final
    obtain ⟨other, found, known⟩ := forall₂_getLast? carries.waypoints last
    cases found.symm.trans final
    exact carries.completion.trans known.time.symm

end Requests

/-! ## Accepted plans -/

/-- The joints of the other arm lie within the limits of the product. -/
def OtherArmInside (product : Resources) (side : Side) (reference : PlannedReference) : Prop :=
  ∀ joint, sideOf joint ≠ side → (product.joints joint).lower ≤ jointPoint reference.positions joint ∧
    jointPoint reference.positions joint ≤ (product.joints joint).upper

theorem armJoint_placeOf (joint : Fin 14) : armJoint (sideOf joint) (placeOf joint) = joint := by
  refine Fin.ext ?_
  unfold armJoint sideOf placeOf
  split_ifs <;> simp only [Side.index] <;> omega

/-- The points of a planned path after its start lie within the limits of the product. -/
theorem Planned.points_inside {product : Resources} {motion : Motion} {side : Side} {acceleration velocity : ℝ}
    {reference : PlannedReference} {approach : Option Configuration} {poses : List Pose} {solved : List Configuration}
    {knots : List Knot} {plan : TrajectoryPlan}
    (planned : Planned product motion side acceleration velocity reference approach poses solved knots plan)
    (starts : Starts product motion side reference plan approach) (others : OtherArmInside product side reference) :
    ∀ later ∈ (approach.toList ++ solved).map (setArm side · (jointPoint reference.positions)), ∀ joint,
      (product.joints joint).lower ≤ later joint ∧ later joint ≤ (product.joints joint).upper := by
  intro later member joint
  obtain ⟨q, listed, rfl⟩ := List.mem_map.mp member
  unfold setArm
  split_ifs with own
  · have inside : ∀ index, (product.joints (armJoint side index)).lower ≤ q index ∧
        q index ≤ (product.joints (armJoint side index)).upper := by
      rcases List.mem_append.mp listed with ahead | along
      · rw [Option.mem_toList] at ahead
        subst ahead
        obtain ⟨_, -, -, -, inside⟩ := starts
        exact inside
      · exact planned.path.inside q along
    have here := inside (placeOf joint)
    rwa [← own, armJoint_placeOf] at here
  · exact others joint own

/-- What `start_trajectory` asks besides the request: the state of the motions and the feedback of the joints. -/
structure Admitted (s : Engine ℝ) (request : Request ℝ) (replace : ℕ) (enqueue : Bool)
    (conditions : StartConditions ℝ) : Prop where
  single : ¬ (enqueue = true ∧ replace ≠ 0)
  state : s.checkStart request replace enqueue conditions = .ok ()
  feedback : request.joints.zipIdx.forM (checkStartFeedback s.intentionallyDisabled replace conditions
    (request.preparedWaypoints.headD ⟨0, [], [], [], 0, 0⟩)) = .ok ()

/-- The tests on a request pass, whatever its motion id, so that it starts wherever the state and the feedback let a
motion start.  Its plan has a segment from each waypoint to the next one, and its approach ends in time. -/
structure Accepts (arms : List Motor) (request : Request ℝ) (accepted : Plan ℝ) : Prop where
  planned : planTrajectory arms request = .ok accepted
  duration : accepted.duration = request.completionDeadline
  count : accepted.segments.length + 1 = request.waypoints.length
  approach : approachEnd accepted.segments request.approachSegmentCount = request.approachDeadline
  prepared : ∀ id, checkPrepared request (preparedTrajectory id request accepted) = .ok ()
  starts : ∀ s replace enqueue conditions now, Admitted s request replace enqueue conditions →
    s.startTrajectory arms request replace enqueue conditions now =
      (.ok s.nextMotionId, ({ s with nextMotionId := s.nextMotionId + 1 } : Engine ℝ).install
        (preparedTrajectory s.nextMotionId request accepted) enqueue now)

/-- Every plan that is made for the product's joint table at one of its speeds is accepted, from every reference whose
other arm lies within the limits. -/
theorem Motion.build_accepted {product : Resources} {motion : Motion} {mode : Trajectory.ControlMode} {side : ℕ}
    {speedPercent : ℝ} {reference : PlannedReference} {plan : TrajectoryPlan} {motors : Fin 14 → Motor}
    (distinct : Function.Injective motors) (table : product.joints = configureJointTable motors)
    (percent : 1 ≤ speedPercent ∧ speedPercent ≤ 100)
    (others : ∀ arm, side = Side.index arm → OtherArmInside product arm reference)
    (slow : SlowReference product reference)
    (ok : motion.build product mode side (cartesianSpeedScale speedPercent).referenceAcceleration
      (cartesianSpeedScale speedPercent).referenceVelocity reference = .ok plan) (operation : Trajectory.Operation) :
    plan.trajectory.completionDeadline = plan.minimumDuration ∧
      ∃ accepted, Accepts (List.ofFn motors) { plan.trajectory with operation } accepted := by
  obtain ⟨arm, approach, poses, solved, knots, sided, planned, starts⟩ := Motion.build_ok ok
  have scale : 0 ≤ speedPercent / 100 ∧ speedPercent / 100 ≤ 1 :=
    ⟨div_nonneg (by linarith) (by norm_num), (div_le_one (by norm_num)).mpr percent.2⟩
  have fast : (cartesianSpeedScale speedPercent).referenceVelocity ≤ 3 ∧
      (cartesianSpeedScale speedPercent).referenceAcceleration ≤ 6 := by
    have square := mul_le_mul scale.2 scale.2 scale.1 zero_le_one
    simp only [cartesianSpeedScale]
    constructor <;> linarith
  have carries : Carries product arm _ _ plan.minimumDuration reference knots { plan.trajectory with operation } :=
    { planned.carries with }
  obtain ⟨last, member, -⟩ := planned.finish
  have several : (approach.toList ++ solved).map (setArm arm · (jointPoint reference.positions)) ≠ [] := by
    simpa using fun _ => List.ne_nil_of_mem (List.mem_of_getLast? member)
  have acceptable := carries.acceptable planned.schedule several (planned.points_inside starts (others arm sided))
    (fun joint => table ▸ configureJointTable_sound motors joint) slow fast (fun joint => by rw [table]; rfl) distinct
  obtain ⟨accepted, passes, duration, count, ending⟩ := Trajectory.planTrajectory_accepts acceptable
  have ends := carries.approachEnd_eq planned.schedule count ending
  have prepared (id : ℕ) := Trajectory.checkPrepared_accepts id carries.mask ends.le
  refine ⟨planned.carries.completion, accepted, passes, duration, count, ends, prepared, ?_⟩
  intro s replace enqueue conditions now admitted
  exact Trajectory.startTrajectory_of_checks admitted.single passes admitted.state admitted.feedback (prepared _)

/-- A motion of the left arm behind an approach, at full speed. -/
theorem Motion.build_accepted_approach : ∃ plan accepted,
    (Motion.linear (some (onAxis 0)) (onAxis 0.0008)).build (slidingProduct Fin.val) .pv Side.left.index
      (cartesianSpeedScale 100).referenceAcceleration (cartesianSpeedScale 100).referenceVelocity
      (slidingReference 0.006) = .ok plan ∧ plan.approachPose = some (robotPoseFromRpy (onAxis 0)) ∧
    plan.trajectory.completionDeadline = plan.minimumDuration ∧
    Accepts (List.ofFn (Fin.val : Fin 14 → Motor)) { plan.trajectory with operation := .moveLinear } accepted := by
  have rest : jointPoint (valuesOf 0) = 0 := jointPoint_valuesOf
  have sound := configureJointTable_sound (Fin.val : Fin 14 → Motor)
  obtain ⟨plan, built, pose⟩ := build_sliding Fin.val
    (show 1 ≤ (cartesianSpeedScale 100).referenceVelocity ∧ 6 ≤ (cartesianSpeedScale 100).referenceAcceleration by
      norm_num [cartesianSpeedScale])
  obtain ⟨duration, accepted, accepts⟩ := Motion.build_accepted Fin.val_injective rfl (by norm_num)
    (fun arm same joint other => by
      obtain rfl : Side.left = arm := Side.index_injective same
      rw [positions_sliding, setArm, if_neg other]
      exact configureJointTable_zero Fin.val joint)
    ⟨fun joint => by
      change |jointPoint (valuesOf 0) joint| ≤ _
      rw [rest, Pi.zero_apply, abs_zero]
      exact le_trans (by norm_num) (sound joint).velocity,
    fun joint => by
      change |jointPoint (valuesOf 0) joint| ≤ _
      rw [rest, Pi.zero_apply, abs_zero]
      exact le_trans (by norm_num) (sound joint).acceleration⟩
    built .moveLinear
  exact ⟨plan, accepted, built, pose, duration, accepts⟩

end

end MotorDrive.Cartesian
