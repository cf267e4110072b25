import MotorDrive.Cartesian.Short

/-!
# What the waypoints of a plan do

The plans of the Cartesian planner as the Runtime gets them: where their waypoints begin and end, how far a joint moves
from one to the next, and what the other arm does meanwhile.
-/

namespace MotorDrive.Cartesian

open Trajectory (Waypoint)

noncomputable section

/-- The pose where a motion ends. -/
def Motion.target : Motion → Option Pose
  | .linear _ endPose => some (robotPoseFromRpy endPose)
  | .linearPath poses => poses.getLast?.map robotPoseFromRpy
  | .circular _ _ endPose => some (robotPoseFromRpy endPose)

/-- The samples of a motion end there. -/
theorem Motion.Along.last {motion : Motion} {start : Pose} {poses : List Pose} (along : motion.Along start poses) :
    poses.getLast? = motion.target := by
  cases motion with
  | linear startPose endPose => exact PolylineSamples.last along
  | linearPath values =>
    obtain ⟨_, samples⟩ := along
    exact samples.last.trans List.getLast?_map
  | circular startPose viaPose endPose =>
    obtain ⟨_, samples⟩ := along
    exact samples.last

/-- From a waypoint to the next one. -/
structure WaypointStep (velocity : ℝ) (first second : Waypoint ℝ) : Prop where
  long : 0.004 - 1e-12 ≤ second.time - first.time
  short : second.time - first.time ≤ 0.050 + 1e-12
  step : ∀ joint, |jointPoint second.positions joint - jointPoint first.positions joint| ≤ 0.020 + 1e-12
  velocity : ∀ joint, |jointPoint second.positions joint - jointPoint first.positions joint| ≤
    1.0001 * velocity * (second.time - first.time)

/-- The times of the waypoints increase. -/
theorem WaypointStep.lt {velocity : ℝ} {first second : Waypoint ℝ} (next : WaypointStep velocity first second) :
    first.time < second.time := by
  have long := next.long
  norm_num at long
  linarith

/-- A plan that moves one arm from the reference to the end of a motion. -/
structure Follows (product : Resources) (motion : Motion) (side : Side) (velocity : ℝ) (reference : PlannedReference)
    (plan : TrajectoryPlan) : Prop where
  first : ∃ waypoint ∈ plan.trajectory.waypoints.head?, waypoint.time = 0 ∧
    jointPoint waypoint.positions = jointPoint reference.positions
  steps : plan.trajectory.waypoints.IsChain (WaypointStep velocity)
  others : ∀ waypoint ∈ plan.trajectory.waypoints, ∀ joint, sideOf joint ≠ side →
    jointPoint waypoint.positions joint = jointPoint reference.positions joint
  last : ∃ waypoint ∈ plan.trajectory.waypoints.getLast?, waypoint.time = plan.minimumDuration ∧ AtRest waypoint ∧
    ∃ target ∈ motion.target, (product.planningModel side).Reaches target (armOf side (jointPoint waypoint.positions))
  capacity : plan.trajectory.waypoints.length ≤ 30000

section Waypoints

variable {product : Resources} {motion : Motion} {side : Side} {acceleration velocity : ℝ}
  {reference : PlannedReference} {approach : Option Configuration} {poses : List Pose} {solved : List Configuration}
  {knots : List Knot} {plan : TrajectoryPlan} {path : List JointPoint} {maximumVelocity duration : ℝ}

/-- Every knot of a schedule lies on its path. -/
theorem Schedule.onPolyline (schedule : Schedule path maximumVelocity duration knots) {knot : Knot}
    (member : knot ∈ knots) : ∃ position, OnPolyline path position knot.2 := by
  have steps := List.isChain_iff_getElem.mp schedule.steps
  have several := schedule.several
  obtain ⟨k, inside, rfl⟩ := List.getElem_of_mem member
  cases k with
  | zero =>
    obtain ⟨before, -, -, on, -⟩ := (steps 0 several).along
    exact ⟨before, on⟩
  | succ k =>
    obtain ⟨-, after, -, -, on⟩ := (steps k inside).along
    exact ⟨after, on⟩

/-- A joint that has one value at all points of a path has it everywhere on the path. -/
theorem OnPolyline.constant {position value : ℝ} {point : JointPoint} {joint : Fin 14}
    (on : OnPolyline path position point) (same : ∀ p ∈ path, p joint = value) : point joint = value := by
  obtain ⟨lower, inside, -, -, sample⟩ := on
  have first : path.getD lower 0 joint = value := by
    rw [List.getD_eq_getElem _ _ (Nat.lt_of_succ_lt inside)]
    exact same _ (List.getElem_mem _)
  have second : path.getD (lower + 1) 0 joint = value := by
    rw [List.getD_eq_getElem _ _ inside]
    exact same _ (List.getElem_mem _)
  rw [sample joint, first, second, sub_self, mul_zero, add_zero]

/-- The knot of a waypoint. -/
theorem Carries.knot {request : Trajectory.Request ℝ}
    (carries : Carries product side acceleration velocity duration reference knots request) {k : ℕ}
    {waypoint : Waypoint ℝ} (found : request.waypoints[k]? = some waypoint) :
    ∃ knot, knots[k]? = some knot ∧ IsKnot reference knot waypoint :=
  forall₂_getElem? (R := fun w n => IsKnot reference n w) (List.Forall₂.flip carries.waypoints) found

theorem IsKnot.point {knot : Knot} {waypoint : Waypoint ℝ} (known : IsKnot reference knot waypoint) :
    jointPoint waypoint.positions = knot.2 := by
  rw [known.positions, jointPoint_valuesOf]

/-- The waypoints of two knots are as far apart as these. -/
theorem KnotStep.waypoints {first second : Knot} {waypoint waypoint' : Waypoint ℝ}
    (next : KnotStep path maximumVelocity first second) (known : IsKnot reference first waypoint)
    (known' : IsKnot reference second waypoint') : WaypointStep maximumVelocity waypoint waypoint' := by
  constructor
  · rw [known.time, known'.time]
    exact next.long
  · rw [known.time, known'.time]
    exact next.short
  · rw [known.point, known'.point]
    exact next.step
  · rw [known.point, known'.point, known.time, known'.time]
    exact next.velocity

/-- The waypoints go from one to the next as the knots do. -/
theorem Carries.steps {request : Trajectory.Request ℝ}
    (carries : Carries product side acceleration velocity duration reference knots request)
    (schedule : Schedule path maximumVelocity duration knots) :
    request.waypoints.IsChain (WaypointStep maximumVelocity) := by
  rw [List.isChain_iff_getElem]
  intro k inside
  obtain ⟨first, found, known⟩ := carries.knot (List.getElem?_eq_getElem (Nat.lt_of_succ_lt inside))
  obtain ⟨second, found', known'⟩ := carries.knot (List.getElem?_eq_getElem inside)
  obtain ⟨within, rfl⟩ := List.getElem?_eq_some_iff.mp found'
  obtain ⟨_, rfl⟩ := List.getElem?_eq_some_iff.mp found
  exact (List.isChain_iff_getElem.mp schedule.steps k within).waypoints known known'

/-- On a path of one arm, the other one stays where it is. -/
theorem jointPath_other {start point : JointPoint} {configurations : List Configuration} {joint : Fin 14}
    (other : sideOf joint ≠ side) (visited : point ∈ jointPath side start configurations) :
    point joint = start joint := by
  rcases List.mem_cons.mp visited with rfl | later
  · rfl
  · obtain ⟨q, -, rfl⟩ := List.mem_map.mp later
    exact if_neg other

/-- A path of one arm ends where its last configuration puts the arm. -/
theorem jointPath_last {start : JointPoint} {q : Configuration} (final : q ∈ solved.getLast?) :
    (jointPath side start (approach.toList ++ solved)).getLast? = some (setArm side q start) := by
  have last : (approach.toList ++ solved).getLast? = some q := by
    rw [List.getLast?_append, Option.mem_def.mp final]
    rfl
  rw [jointPath, List.getLast?_cons, List.getLast?_map, last]
  rfl

/-- The last of the poses after the first one. -/
theorem getLast?_of_tail {pose : Pose} (last : pose ∈ poses.tail.getLast?) : poses.getLast? = some pose := by
  have several : poses.tail ≠ [] := List.ne_nil_of_mem (List.mem_of_getLast? last)
  rw [List.getLast?_tail, if_neg] at last
  · exact last
  · intro short
    exact several (List.eq_nil_of_length_eq_zero (by rw [List.length_tail, short]))

/-- A planned motion moves its arm along it. -/
theorem Planned.follows
    (planned : Planned product motion side acceleration velocity reference approach poses solved knots plan) :
    Follows product motion side velocity reference plan where
  first := by
    obtain ⟨point, begins, first⟩ := planned.schedule.first
    obtain rfl : jointPoint reference.positions = point := Option.some.inj begins
    rw [List.head?_eq_getElem?] at first
    obtain ⟨waypoint, found, known⟩ := forall₂_getElem? planned.carries.waypoints first
    rw [List.head?_eq_getElem?]
    exact ⟨waypoint, found, known.time, known.point⟩
  steps := planned.carries.steps planned.schedule
  others := by
    intro waypoint member joint other
    obtain ⟨k, here⟩ := List.getElem?_of_mem member
    obtain ⟨knot, found, known⟩ := planned.carries.knot here
    obtain ⟨position, on⟩ := planned.schedule.onPolyline (List.mem_of_getElem? found)
    rw [known.point]
    exact on.constant fun point => jointPath_other other
  last := by
    obtain ⟨point, ends, last⟩ := planned.schedule.last
    obtain ⟨waypoint, found, known⟩ := forall₂_getLast? planned.carries.waypoints last
    obtain ⟨q, final, -⟩ := planned.finish
    obtain rfl : setArm side q (jointPoint reference.positions) = point :=
      Option.some.inj ((jointPath_last final).symm.trans ends)
    obtain ⟨target, aimed, reaches⟩ := forall₂_getLast? (R := fun q target =>
      (product.planningModel side).Reaches target q) (List.Forall₂.flip planned.path.reaches) final
    refine ⟨waypoint, found, known.time, planned.carries.rest waypoint found, target, ?_, ?_⟩
    · rw [← planned.along.last]
      exact getLast?_of_tail aimed
    · rw [known.point, armOf_setArm]
      exact reaches
  capacity := planned.carries.capacity

/-- Every plan that the planner returns leads an arm along the samples of its motion: its waypoints begin at the
reference, keep the largest steps and the velocity, leave the other arm where it is, and end at rest at the target.  An
arm that is not at the declared start is led there first, and rests there. -/
theorem Motion.follows_of_build {mode : Trajectory.ControlMode} {side : ℕ}
    (ok : motion.build product mode side acceleration velocity reference = .ok plan) :
    ∃ arm approach poses solved knots, side = Side.index arm ∧
      Planned product motion arm acceleration velocity reference approach poses solved knots plan ∧
      Starts product motion arm reference plan approach ∧ Follows product motion arm velocity reference plan := by
  obtain ⟨arm, approach, poses, solved, knots, sided, planned, starts⟩ := Motion.build_ok ok
  exact ⟨arm, approach, poses, solved, knots, sided, planned, starts, planned.follows⟩

/-- A motion of the left arm behind an approach, at full speed. -/
theorem Motion.follows_of_build_approach : ∃ plan q poses solved knots,
    Planned (slidingProduct Fin.val) (.linear (some (onAxis 0)) (onAxis 0.0008)) .left 6 1 (slidingReference 0.006)
      (some q) poses solved knots plan ∧
    Starts (slidingProduct Fin.val) (.linear (some (onAxis 0)) (onAxis 0.0008)) .left (slidingReference 0.006) plan
      (some q) ∧
    Follows (slidingProduct Fin.val) (.linear (some (onAxis 0)) (onAxis 0.0008)) .left 1 (slidingReference 0.006)
      plan := by
  obtain ⟨plan, built, -⟩ := build_sliding Fin.val ⟨le_refl (1 : ℝ), le_refl (6 : ℝ)⟩
  obtain ⟨arm, approach, poses, solved, knots, sided, planned, starts, follows⟩ := Motion.follows_of_build built
  obtain rfl : Side.left = arm := Side.index_injective sided
  cases approach with
  | some q => exact ⟨plan, q, poses, solved, knots, planned, starts, follows⟩
  | none =>
    have near := (starts _ rfl).position
    rw [positions_sliding, armOf_setArm] at near
    have far : ¬ |(0.006 : ℝ) - 0| ≤ 0.005 := by norm_num
    exact absurd ((distance_onAxis 0 0.006).symm.trans_le near) far

end Waypoints

end

end MotorDrive.Cartesian
