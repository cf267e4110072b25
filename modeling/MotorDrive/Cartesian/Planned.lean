import MotorDrive.Cartesian.Planner

/-!
# Planned motions

What a returned plan of the Cartesian planner is: the samples of the motion's geometry, configurations that meet them
one after the other, a schedule along these configurations, and a request whose waypoints are the knots of the
schedule, with the knots of an approach in front of them where the arm was not at the declared start.
-/

namespace MotorDrive.Cartesian

open Validate

open Trajectory (Motor TrajectoryJoint Waypoint Request)

noncomputable section

open Classical

/-! ## The two arms -/

section Arms

variable {side : Side} {q q' : Configuration} {point : JointPoint}

theorem sideOf_armJoint (side : Side) (joint : Fin 7) : sideOf (armJoint side joint) = side := by
  cases side with
  | left => exact if_pos (by simp [armJoint, Side.index])
  | right => exact if_neg (by simp [armJoint, Side.index])

theorem placeOf_armJoint (side : Side) (joint : Fin 7) : placeOf (armJoint side joint) = joint := by
  have place : (side.index * 7 + joint) % 7 = joint := by
    rw [Nat.mul_add_mod_self_right, Nat.mod_eq_of_lt joint.isLt]
  exact Fin.ext place

@[simp] theorem armOf_setArm : armOf side (setArm side q point) = q := by
  funext joint
  rw [armOf, setArm, if_pos (sideOf_armJoint side joint), placeOf_armJoint]

@[simp] theorem setArm_setArm : setArm side q (setArm side q' point) = setArm side q point := by
  funext joint
  unfold setArm
  split_ifs <;> rfl

@[simp] theorem jointPoint_valuesOf : jointPoint (valuesOf point) = point := by
  funext joint
  rw [jointPoint, valuesOf, List.getD_eq_getElem _ _ (by simp), List.getElem_ofFn]

end Arms

/-! ## The waypoints -/

/-- A waypoint at a knot.  Its derivatives are those of the reference or zero. -/
structure IsKnot (reference : PlannedReference) (knot : Knot) (waypoint : Waypoint ℝ) : Prop where
  time : waypoint.time = knot.1
  positions : waypoint.positions = valuesOf knot.2
  velocities : waypoint.velocities = valuesOf (jointPoint reference.velocities) ∨ waypoint.velocities = valuesOf 0
  accelerations :
    waypoint.accelerations = valuesOf (jointPoint reference.accelerations) ∨ waypoint.accelerations = valuesOf 0
  velocityMask : waypoint.velocityValidMask = allJoints ∨ waypoint.velocityValidMask = 0
  accelerationMask : waypoint.accelerationValidMask = allJoints ∨ waypoint.accelerationValidMask = 0

/-- The waypoint demands that the joints stand still. -/
structure AtRest (waypoint : Waypoint ℝ) : Prop where
  velocities : waypoint.velocities = valuesOf 0
  accelerations : waypoint.accelerations = valuesOf 0
  velocityMask : waypoint.velocityValidMask = allJoints
  accelerationMask : waypoint.accelerationValidMask = allJoints

/-- Where the approach of a request ends: it has none, or it ends at rest at a point. -/
def Approaches (request : Request ℝ) : Option JointPoint → Prop
  | none => request.approachSegmentCount = 0 ∧ request.approachDeadline = 0 ∧ request.approachConvergenceCheck = false
  | some point => 0 < request.approachSegmentCount ∧ request.approachConvergenceCheck = true ∧
    ∃ waypoint ∈ request.waypoints[request.approachSegmentCount]?, waypoint.time = request.approachDeadline ∧
      jointPoint waypoint.positions = point ∧ AtRest waypoint

/-- A request whose waypoints are some knots. -/
structure Carries (product : Resources) (side : Side) (acceleration velocity duration : ℝ)
    (reference : PlannedReference) (knots : List Knot) (trajectory : Request ℝ) : Prop where
  mode : trajectory.mode = .pv
  execution : trajectory.execution = .trajectoryPv
  referenceVelocity : trajectory.pvReferenceVelocity = velocity ∧ 0 < velocity
  referenceAcceleration : trajectory.pvReferenceAcceleration = acceleration ∧ 0 < acceleration
  driveVelocity : trajectory.pvDriveVelocityLimit = 3
  recovery : trajectory.allowOutOfLimitStartRecovery = true
  completion : trajectory.completionDeadline = duration
  tracking : trajectory.cartesianTrackingJointMask = (((1 : BitVec 32) <<< 7) - 1) <<< (side.index * 7)
  joints : trajectory.joints = List.ofFn fun index => trajectoryJoint (product.joints index) index
  waypoints : List.Forall₂ (IsKnot reference) knots trajectory.waypoints
  capacity : trajectory.waypoints.length ≤ 30000
  /-- The approach ends at a knot that is not the last one. -/
  approach : trajectory.approachSegmentCount + 1 < knots.length ∧
    ∃ point, knots[trajectory.approachSegmentCount]? = some (trajectory.approachDeadline, point)
  rest : ∀ waypoint ∈ trajectory.waypoints.getLast?, AtRest waypoint

section Requests

variable {product : Resources} {side : Side} {acceleration velocity : ℝ} {reference : PlannedReference}
  {plan : TrajectoryPlan} {path : List JointPoint} {mode : Trajectory.ControlMode}
  {operation : Trajectory.Operation}

theorem knots_eq_map {timed : TimedJointPath} (lengths : timed.timestamps.length = timed.points.length) :
    timed.knots = (List.range timed.points.length).map fun knot => (timed.time knot, timed.point knot) := by
  refine List.ext_getElem? fun knot => ?_
  rw [List.getElem?_map]
  by_cases inside : knot < timed.points.length
  · rw [knots_getElem? lengths inside, List.getElem?_range inside]
    rfl
  · rw [List.getElem?_eq_none (by rw [length_knots lengths]; omega), List.getElem?_eq_none (by simp; omega)]
    rfl

/-- The assembled plan of a timed path. -/
theorem assembleCartesianTrajectoryPlan_ok {timed : TimedJointPath} {duration : ℝ}
    (schedule : Schedule path velocity duration timed.knots) (capacity : timed.points.length ≤ 30000)
    (ok : assembleCartesianTrajectoryPlan product timed (jointPoint reference.velocities)
      (jointPoint reference.accelerations) mode operation side acceleration velocity = .ok plan) :
    plan.minimumDuration = duration ∧ Carries product side acceleration velocity duration reference timed.knots
      plan.trajectory ∧ Approaches plan.trajectory none ∧
      plan.finalPose = (product.poseModel side).fk (armOf side (path.getLastD 0)) := by
  obtain ⟨_, pv, rest⟩ := bind_eq_ok ok
  obtain ⟨acceleration_pos, rest⟩ := reject_bind_eq_ok rest
  obtain ⟨velocity_pos, rest⟩ := reject_bind_eq_ok rest
  obtain ⟨complete, rest⟩ := reject_bind_eq_ok rest
  have pv := not_not.mp (reject_eq_ok.mp pv)
  obtain ⟨several, lengths⟩ := not_or.mp complete
  have several := not_lt.mp several
  have lengths := not_not.mp lengths
  obtain ⟨point, ends, reached⟩ := schedule.last
  have last : timed.knots[timed.points.length - 1]? = some (duration, point) := by
    rw [List.getLast?_eq_getElem?, length_knots lengths] at reached
    exact reached
  obtain ⟨finish, same⟩ := Prod.ext_iff.mp
    (Option.some.inj ((knots_getElem? lengths (by omega)).symm.trans last))
  have completion : timed.time (timed.timestamps.length - 1) = duration := lengths ▸ finish
  have places : timed.knots = (List.range timed.points.length).map fun knot => (timed.time knot, timed.point knot) :=
    knots_eq_map lengths
  cases rest
  refine ⟨completion, ?_, ⟨rfl, rfl, rfl⟩, ?_⟩
  · refine {
      mode := pv
      execution := rfl
      referenceVelocity := ⟨rfl, not_le.mp velocity_pos⟩
      referenceAcceleration := ⟨rfl, not_le.mp acceleration_pos⟩
      driveVelocity := rfl
      recovery := rfl
      completion := completion
      tracking := rfl
      joints := rfl
      waypoints := ?_
      capacity := ?_
      approach := ?_
      rest := ?_ }
    · rw [places, List.forall₂_map_left_iff, List.forall₂_map_right_iff, List.forall₂_same]
      intro knot _
      refine ⟨rfl, rfl, ?_, ?_, ?_, ?_⟩ <;> simp only [assembledWaypoint] <;> split_ifs <;> simp
    · simp only [List.length_map, List.length_range]
      exact capacity
    · obtain ⟨point', -, left⟩ := schedule.first
      rw [List.head?_eq_getElem?] at left
      exact ⟨by rw [length_knots lengths]; exact several, point', left⟩
    · intro waypoint final
      have ended : (List.range timed.points.length).getLast? = some (timed.points.length - 1) := by
        rw [List.getLast?_eq_getElem?, List.length_range, List.getElem?_range (by omega)]
      simp only [List.getLast?_map, ended, Option.map_some, Option.mem_some_iff] at final
      have start : ¬ timed.points.length - 1 = 0 := by omega
      have complete : timed.points.length - 1 + 1 = timed.points.length := by omega
      refine final ▸ ⟨?_, ?_, ?_, ?_⟩ <;> simp [assembledWaypoint, start, complete]
  · have goal : path.getLastD 0 = timed.point (timed.points.length - 1) := by
      rw [List.getLastD_eq_getLast?, ends]
      exact same.symm
    rw [goal]

/-- What is related in two lists at a place. -/
theorem forall₂_getElem? {α β : Type} {R : α → β → Prop} {items : List α} {items' : List β}
    (all : List.Forall₂ R items items') {place : ℕ} {item : α} (found : items[place]? = some item) :
    ∃ item', items'[place]? = some item' ∧ R item item' := by
  obtain ⟨inside, rfl⟩ := List.getElem?_eq_some_iff.mp found
  have inside' : place < items'.length := all.length_eq ▸ inside
  exact ⟨_, List.getElem?_eq_getElem inside', all.get inside inside'⟩

theorem forall₂_getLast? {α β : Type} {R : α → β → Prop} {items : List α} {items' : List β}
    (all : List.Forall₂ R items items') {item : α} (found : items.getLast? = some item) :
    ∃ item', items'.getLast? = some item' ∧ R item item' := by
  rw [List.getLast?_eq_getElem?] at found
  obtain ⟨item', found', related⟩ := forall₂_getElem? all found
  rw [all.length_eq, ← List.getLast?_eq_getElem?] at found'
  exact ⟨item', found', related⟩

/-- A waypoint that is moved to a later time. -/
theorem IsKnot.later {atRest : PlannedReference} (velocities : atRest.velocities = valuesOf 0)
    (accelerations : atRest.accelerations = valuesOf 0) {knot : Knot} {waypoint : Waypoint ℝ}
    (known : IsKnot atRest knot waypoint) (reference : PlannedReference) (offset : ℝ) :
    IsKnot reference (later offset knot) { waypoint with time := waypoint.time + offset } where
  time := (congrArg (· + offset) known.time).trans (add_comm _ _)
  positions := known.positions
  velocities := .inr (by simpa [velocities] using known.velocities)
  accelerations := .inr (by simpa [accelerations] using known.accelerations)
  velocityMask := known.velocityMask
  accelerationMask := known.accelerationMask

theorem IsKnot.restAt {knot : Knot} {waypoint : Waypoint ℝ} (known : IsKnot reference knot waypoint) :
    IsKnot reference knot (restAt waypoint) where
  time := known.time
  positions := known.positions
  velocities := .inr rfl
  accelerations := .inr rfl
  velocityMask := .inl rfl
  accelerationMask := .inl rfl

/-- The waypoints of an approach, without the last one. -/
theorem approachWaypoints {approach : TimedJointPath} (lengths : approach.timestamps.length = approach.points.length)
    (several : 2 ≤ approach.points.length) : List.Forall₂ (IsKnot reference) approach.knots.dropLast
      ((List.range (approach.points.length - 1)).map (approachWaypoint approach)) := by
  obtain ⟨count, length⟩ : ∃ count, approach.points.length = count + 1 := ⟨_, (Nat.sub_add_cancel (by omega)).symm⟩
  rw [knots_eq_map lengths, length, Nat.add_sub_cancel, List.range_succ, List.map_append, List.map_singleton,
    List.dropLast_concat, List.forall₂_map_left_iff, List.forall₂_map_right_iff, List.forall₂_same]
  intro knot _
  refine ⟨rfl, rfl, .inr rfl, .inr rfl, ?_, ?_⟩ <;> simp only [approachWaypoint] <;> split_ifs <;> simp

/-- The waypoints behind an approach. -/
theorem shiftedWaypoints {atRest : PlannedReference} (velocities : atRest.velocities = valuesOf 0)
    (accelerations : atRest.accelerations = valuesOf 0) {knots : List Knot} {waypoints : List (Waypoint ℝ)}
    (known : List.Forall₂ (IsKnot atRest) knots waypoints) (reference : PlannedReference) (offset : ℝ) :
    List.Forall₂ (IsKnot reference) (knots.map (later offset))
      ((waypoints.map fun waypoint => { waypoint with time := waypoint.time + offset }).modifyHead restAt) := by
  cases known with
  | nil => exact .nil
  | cons head others =>
    refine .cons (head.later velocities accelerations reference offset).restAt ?_
    rw [List.forall₂_map_left_iff, List.forall₂_map_right_iff]
    exact others.imp fun _ _ known => known.later velocities accelerations reference offset

/-- The last one of them is still at rest. -/
theorem atRest_shiftedWaypoints {waypoints : List (Waypoint ℝ)} (rest : ∀ waypoint ∈ waypoints.getLast?, AtRest waypoint)
    (offset : ℝ) : ∀ waypoint ∈ ((waypoints.map fun waypoint =>
      { waypoint with time := waypoint.time + offset }).modifyHead restAt).getLast?, AtRest waypoint := by
  intro waypoint member
  match waypoints, rest, member with
  | [_], _, member =>
    cases member
    exact ⟨rfl, rfl, rfl, rfl⟩
  | _ :: second :: others, rest, member =>
    have later : waypoint ∈ ((second :: others).map fun waypoint =>
      { waypoint with time := waypoint.time + offset }).getLast? := member
    rw [List.getLast?_map] at later
    obtain ⟨last, ends, rfl⟩ := Option.map_eq_some_iff.mp later
    obtain ⟨velocities, accelerations, velocityMask, accelerationMask⟩ := rest last ends
    exact ⟨velocities, accelerations, velocityMask, accelerationMask⟩

/-- The plan behind an approach: it fits, takes a minute at most, and stands still where the two meet. -/
theorem prependCartesianApproach_ok {plan' : TrajectoryPlan} {atRest : PlannedReference} {duration : ℝ}
    {knots : List Knot} {target : JointPoint} {declaredStart : Pose} (velocities : atRest.velocities = valuesOf 0)
    (accelerations : atRest.accelerations = valuesOf 0) (starts : path.head? = some target)
    (schedule : Schedule path velocity duration knots)
    (carries : Carries product side acceleration velocity duration atRest knots plan.trajectory)
    (ok : prependCartesianApproach plan reference declaredStart = .ok plan') :
    ∃ knots', Schedule (jointPoint reference.positions :: path) velocity plan'.minimumDuration knots' ∧
      Carries product side acceleration velocity plan'.minimumDuration reference knots' plan'.trajectory ∧
      Approaches plan'.trajectory (some target) ∧ plan'.minimumDuration ≤ 60 ∧ plan'.finalPose = plan.finalPose ∧
      plan'.approachPose = some declaredStart := by
  have waypoints := carries.waypoints
  have capacity := carries.capacity
  have final := carries.rest
  obtain ⟨point, begins, left⟩ := schedule.first
  obtain rfl : target = point := Option.some.inj (starts.symm.trans begins)
  obtain ⟨following, rfl⟩ := List.head?_eq_some_iff.mp left
  unfold prependCartesianApproach at ok
  cases given : plan.trajectory.waypoints with
  | nil =>
    rw [given] at ok
    cases ok
  | cons first rest =>
    rw [given] at ok waypoints capacity final
    simp only at ok
    obtain ⟨-, ok⟩ := reject_bind_eq_ok ok
    obtain ⟨approach, timed, ok⟩ := bind_eq_ok ok
    obtain ⟨room, ok⟩ := reject_bind_eq_ok ok
    obtain ⟨short, ok⟩ := reject_bind_eq_ok ok
    obtain ⟨head, others⟩ := List.forall₂_cons.mp waypoints
    have timed := mapError_eq_ok.mp timed
    rw [head.positions, jointPoint_valuesOf, carries.referenceVelocity.1, carries.referenceAcceleration.1] at timed
    have promises := (timedPlan_of_ok timed).2.2
    have leads : approach.time (approach.timestamps.length - 1) = approach.time (approach.points.length - 1) := by
      rw [promises.lengths]
    have joined := promises.schedule.join schedule starts.symm
    rw [← leads] at joined
    obtain ⟨finish, stops, arrives⟩ := schedule.last
    obtain ⟨last, ends, ended⟩ := forall₂_getLast? waypoints arrives
    have pathDuration : ((first :: rest).getLastD first).time = duration := by
      rw [List.getLastD_eq_getLast?, ends]
      exact ended.time
    rw [pathDuration] at short ok
    have count : approach.knots.dropLast.length = approach.points.length - 1 := by
      rw [List.length_dropLast, length_knots promises.lengths]
    have leading : List.Forall₂ (IsKnot reference) approach.knots.dropLast
        ((List.range (approach.points.length - 1)).map (approachWaypoint approach)) :=
      approachWaypoints promises.lengths promises.several
    have behind := shiftedWaypoints velocities accelerations waypoints reference
      (approach.time (approach.timestamps.length - 1))
    have rested := atRest_shiftedWaypoints final (approach.time (approach.timestamps.length - 1))
    have leadingCount : ((List.range (approach.points.length - 1)).map (approachWaypoint approach)).length =
        approach.points.length - 1 := by simp
    have meets : ∃ waypoint ∈ (((List.range (approach.points.length - 1)).map (approachWaypoint approach)) ++
        ((first :: rest).map fun waypoint => { waypoint with
          time := waypoint.time + approach.time (approach.timestamps.length - 1) }).modifyHead restAt)[
            approach.points.length - 1]?, waypoint.time = approach.time (approach.timestamps.length - 1) ∧
          jointPoint waypoint.positions = target ∧ AtRest waypoint := by
      rw [List.getElem?_append_right leadingCount.le, leadingCount, Nat.sub_self]
      refine ⟨_, rfl, ?_, ?_, ⟨rfl, rfl, rfl, rfl⟩⟩
      · exact (congrArg (· + _) head.time).trans (zero_add _)
      · exact (congrArg jointPoint head.positions).trans jointPoint_valuesOf
    have several := promises.several
    cases ok
    refine ⟨_, joined, ?_, ⟨by simp only; omega, rfl, meets⟩, not_lt.mp short, rfl, rfl⟩
    refine { carries with
      completion := rfl
      waypoints := List.rel_append leading behind
      capacity := ?_
      approach := ⟨?_, target, ?_⟩
      rest := ?_ }
    · simp only [List.length_append, List.length_map, List.length_range, List.map_cons, List.modifyHead_cons,
        List.length_cons] at capacity ⊢
      omega
    · have several := schedule.several
      simp only [List.length_append, List.length_map, count]
      omega
    · rw [List.getElem?_append_right count.le, count, Nat.sub_self]
      exact congrArg some (Prod.ext (add_zero _) rfl)
    · intro waypoint member
      refine rested waypoint ?_
      rwa [← List.getLast?_append_of_ne_nil]
      exact List.cons_ne_nil _ _

end Requests

/-! ## Motions -/

/-- The Cartesian motions, with the values of their poses. -/
inductive Motion
  | linear (startPose : Option (Fin 6 → ℝ)) (endPose : Fin 6 → ℝ)
  | linearPath (poses : List (Fin 6 → ℝ))
  | circular (startPose : Option (Fin 6 → ℝ)) (viaPose endPose : Fin 6 → ℝ)

/-- The planner's function for a motion. -/
def Motion.build (motion : Motion) (product : Resources) (mode : Trajectory.ControlMode) (side : ℕ)
    (acceleration velocity : ℝ) (reference : PlannedReference) : Except BuildError TrajectoryPlan :=
  match motion with
  | .linear startPose endPose =>
    buildLinearTrajectoryPlan product mode side startPose endPose acceleration velocity reference
  | .linearPath poses => buildLinearPathTrajectoryPlan product mode side poses acceleration velocity reference
  | .circular startPose viaPose endPose =>
    buildCircularTrajectoryPlan product mode side startPose viaPose endPose acceleration velocity reference

/-- The pose where the caller says that the motion starts. -/
def Motion.declaredStart : Motion → Option Pose
  | .linear startPose _ => startPose.map robotPoseFromRpy
  | .linearPath poses => poses.head?.map robotPoseFromRpy
  | .circular startPose _ _ => startPose.map robotPoseFromRpy

/-- The poses are samples of the geometry of a motion from a start. -/
def Motion.Along (motion : Motion) (start : Pose) (poses : List Pose) : Prop :=
  match motion with
  | .linear _ endPose => PolylineSamples [start, robotPoseFromRpy endPose] ⟨poses, [0, poses.length - 1]⟩
  | .linearPath values => ∃ indices, PolylineSamples (values.map robotPoseFromRpy) ⟨poses, indices⟩
  | .circular _ viaPose endPose =>
    ∃ viaIndex, ArcSamples start (robotPoseFromRpy viaPose) (robotPoseFromRpy endPose) viaIndex poses

/-- A pose within the tolerances of a start. -/
structure NearStart (pose declared : Pose) : Prop where
  position : vectorNorm (pose.position - declared.position) ≤ 0.005
  orientation : ∃ value other, Converts pose.rotation value ∧ Converts declared.rotation other ∧
    angularDistance value other ≤ 0.035

/-- A plan of a motion, with the configuration where its approach ends, if it has one, and the configurations of the
motion itself. -/
structure Planned (product : Resources) (motion : Motion) (side : Side) (acceleration velocity : ℝ)
    (reference : PlannedReference) (approach : Option Configuration) (poses : List Pose)
    (solved : List Configuration) (knots : List Knot) (plan : TrajectoryPlan) : Prop where
  along : motion.Along (motion.declaredStart.getD
    ((product.planningModel side).fk (armOf side (jointPoint reference.positions)))) poses
  path : PlannedPath product side (approach.getD (armOf side (jointPoint reference.positions))) poses.tail solved
  schedule : Schedule (jointPath side (jointPoint reference.positions) (approach.toList ++ solved)) velocity
    plan.minimumDuration knots
  bounded : (approach ≠ none ∨ ∀ values, motion ≠ .linearPath values) → plan.minimumDuration ≤ 60
  carries : Carries product side acceleration velocity plan.minimumDuration reference knots plan.trajectory
  meets : Approaches plan.trajectory (approach.map (setArm side · (jointPoint reference.positions)))
  finish : ∃ q ∈ solved.getLast?, plan.finalPose = (product.poseModel side).fk q

section Motions

variable {product : Resources} {mode : Trajectory.ControlMode} {operation : Trajectory.Operation} {side : ℕ}
  {arm : Side} {acceleration velocity : ℝ} {reference : PlannedReference} {plan : TrajectoryPlan}

theorem requireSide_ok (ok : requireSide side = .ok arm) : side = arm.index := by
  unfold requireSide at ok
  split at ok <;> cases ok <;> rfl

theorem proper_rpy (values : List (Fin 6 → ℝ)) : ∀ pose ∈ values.map robotPoseFromRpy, pose.Proper := by
  intro pose member
  obtain ⟨value, -, rfl⟩ := List.mem_map.mp member
  exact proper_robotPoseFromRpy value

/-- The last configuration of a path. -/
theorem getLast_jointPath {start : JointPoint} {targets : List Pose} {solved : List Configuration}
    (path : PlannedPath product arm (armOf arm start) targets solved) (several : targets ≠ []) :
    ∃ q ∈ solved.getLast?, armOf arm ((jointPath arm start solved).getLastD 0) = q := by
  have nonempty : solved ≠ [] := by
    rintro rfl
    exact several (List.forall₂_nil_right_iff.mp path.reaches)
  refine ⟨solved.getLast nonempty, List.getLast?_eq_some_getLast nonempty, ?_⟩
  rw [jointPath, List.getLastD_eq_getLast?, List.getLast?_cons_of_ne_nil (by simpa using nonempty), List.getLast?_map,
    List.getLast?_eq_some_getLast nonempty]
  exact armOf_setArm

/-- The end of every motion without an approach. -/
theorem planned_of_finish (motion : Motion) {poses : List Pose} {solved : List Configuration}
    {timed : Except String TimedJointPath} {geometricStart : Pose}
    (starts : motion.declaredStart.getD ((product.planningModel arm).fk (armOf arm (jointPoint reference.positions))) =
      geometricStart)
    (along : motion.Along geometricStart poses) (several : poses.tail ≠ [])
    (path : PlannedPath product arm (armOf arm (jointPoint reference.positions)) poses.tail solved)
    (timing : ∀ law, timed = .ok law →
      Schedule (jointPath arm (jointPoint reference.positions) solved) velocity (law.time (law.points.length - 1))
        law.knots ∧ law.points.length ≤ 30000 ∧
      ((∀ values, motion ≠ .linearPath values) → law.time (law.points.length - 1) ≤ 60))
    (ok : finishPlan product mode operation arm reference timed acceleration velocity = .ok plan) :
    ∃ knots, Planned product motion arm acceleration velocity reference none poses solved knots plan := by
  obtain ⟨law, given, assembled⟩ := bind_eq_ok ok
  obtain ⟨schedule, capacity, bounded⟩ := timing law (mapError_eq_ok.mp given)
  obtain ⟨duration, carries, meets, finish⟩ := assembleCartesianTrajectoryPlan_ok schedule capacity assembled
  obtain ⟨q, last, same⟩ := getLast_jointPath path several
  refine ⟨law.knots, starts ▸ along, path, duration ▸ schedule, ?_, duration ▸ carries, meets, q, last, ?_⟩
  · rintro (approach | other)
    · exact absurd rfl approach
    · exact duration ▸ bounded other
  · rw [finish, same]

/-- A rigid placement is converted. -/
theorem converts_of_proper {pose : Pose} {value : Quaternion} (proper : pose.Proper)
    (ok : quaternionFromRotation pose.rotation = .ok value) : Converts pose.rotation value := by
  have converts := converts_of_minors (minors_of_proper proper)
  have same : (scaledQuaternion pose.rotation).2 = value := Except.ok.inj (converts.gives.symm.trans ok)
  exact same ▸ converts

/-- The samples of one edge. -/
theorem linear_samples {start finish : Pose} {poses : List Pose} (proper : start.Proper) (proper' : finish.Proper)
    (ok : appendLinearPoseSamples [start] start finish = .ok poses) :
    PolylineSamples [start, finish] ⟨poses, [0, poses.length - 1]⟩ := by
  have single : PolylineSamples ([] ++ [start]) ⟨[start], [0]⟩ := polylineSamples_single proper
  have edge : appendEdge ⟨[start], [0]⟩ (start, finish) = .ok ⟨poses, [0, poses.length - 1]⟩ := by
    rw [appendEdge, ok]
    rfl
  exact single.append proper proper' edge

theorem tail_ne_nil_of_edge {start finish : Pose} {poses : List Pose} {first last : ℕ}
    (edge : Edge start finish poses first last) : poses.tail ≠ [] := by
  have inside := (List.getElem?_eq_some_iff.mp edge.finishes).1
  have ordered := edge.ordered
  refine List.ne_nil_of_length_pos ?_
  rw [List.length_tail]
  omega

/-- A linear motion without an approach. -/
theorem buildLinearTrajectoryPlanCommon_ok (startPose : Option (Fin 6 → ℝ)) {endPose : Fin 6 → ℝ}
    (ok : buildLinearTrajectoryPlanCommon product mode side (startPose.map robotPoseFromRpy) endPose acceleration
      velocity reference = .ok plan) : ∃ arm poses solved knots, side = Side.index arm ∧
        Planned product (.linear startPose endPose) arm acceleration velocity reference none poses solved knots plan := by
  obtain ⟨_, -, ok⟩ := bind_eq_ok ok
  obtain ⟨arm, sided, ok⟩ := bind_eq_ok ok
  obtain ⟨_, -, ok⟩ := bind_eq_ok ok
  obtain ⟨_, -, ok⟩ := bind_eq_ok ok
  obtain ⟨posePath, appended, ok⟩ := bind_eq_ok ok
  obtain ⟨path, solvedPath, ok⟩ := bind_eq_ok ok
  have proper : ((startPose.map robotPoseFromRpy).getD
      ((product.planningModel arm).fk (armOf arm (jointPoint reference.positions)))).Proper := by
    cases startPose with
    | none => exact (product.planningModel arm).fk_proper _
    | some values => exact proper_robotPoseFromRpy values
  have samples := linear_samples proper (proper_robotPoseFromRpy endPose) (mapError_eq_ok.mp appended)
  obtain ⟨first, last, -, -, edge⟩ := samples.edges 0 _ _ rfl rfl
  obtain ⟨solved, rfl, planned⟩ := solvePath_ok (labelled_fst _ _ _) solvedPath
  obtain ⟨knots, all⟩ := planned_of_finish (.linear startPose endPose) rfl samples (tail_ne_nil_of_edge edge)
    planned (fun law given => by
      have promises := (timedPlan_of_ok given).2.2
      exact ⟨promises.schedule, (timeParameterize_length given).trans (by decide), fun _ => promises.duration_le⟩) ok
  exact ⟨arm, _, solved, knots, requireSide_ok sided, all⟩

/-- A piecewise linear motion without an approach. -/
theorem buildLinearPathTrajectoryPlanCommon_ok {values : List (Fin 6 → ℝ)}
    (ok : buildLinearPathTrajectoryPlanCommon product mode side (values.map robotPoseFromRpy) acceleration velocity
      reference = .ok plan) : ∃ arm poses solved knots, side = Side.index arm ∧
        Planned product (.linearPath values) arm acceleration velocity reference none poses solved knots plan := by
  obtain ⟨_, -, ok⟩ := bind_eq_ok ok
  obtain ⟨arm, sided, ok⟩ := bind_eq_ok ok
  obtain ⟨_, -, ok⟩ := bind_eq_ok ok
  obtain ⟨posePath, sampled, ok⟩ := bind_eq_ok ok
  obtain ⟨path, solvedPath, ok⟩ := bind_eq_ok ok
  have samples := piecewiseLinearPoseSamples_ok (proper_rpy values) (mapError_eq_ok.mp sampled)
  have several : posePath.poses.tail ≠ [] := by
    match values, samples, sampled with
    | first :: second :: rest, samples, _ =>
      obtain ⟨_, _, -, -, edge⟩ := samples.edges 0 _ _ rfl rfl
      exact tail_ne_nil_of_edge edge
  obtain ⟨solved, rfl, planned⟩ := solvePath_ok (labelled_fst _ _ _) solvedPath
  obtain ⟨knots, all⟩ := planned_of_finish (.linearPath values) rfl ⟨_, samples⟩ several planned
    (fun law given => ⟨schedule_of_pieces given, timeParameterizePiecewise_length given,
      fun other => absurd rfl (other values)⟩) ok
  exact ⟨arm, _, solved, knots, requireSide_ok sided, all⟩

/-- A circular motion without an approach. -/
theorem buildCircularTrajectoryPlanCommon_ok (startPose : Option (Fin 6 → ℝ)) {viaPose endPose : Fin 6 → ℝ}
    (ok : buildCircularTrajectoryPlanCommon product mode side (startPose.map robotPoseFromRpy) viaPose endPose
      acceleration velocity reference = .ok plan) : ∃ arm poses solved knots, side = Side.index arm ∧
        Planned product (.circular startPose viaPose endPose) arm acceleration velocity reference none poses solved knots
          plan := by
  obtain ⟨_, -, ok⟩ := bind_eq_ok ok
  obtain ⟨arm, sided, ok⟩ := bind_eq_ok ok
  obtain ⟨_, -, ok⟩ := bind_eq_ok ok
  obtain ⟨_, -, ok⟩ := bind_eq_ok ok
  obtain ⟨startOrientation, converted, ok⟩ := bind_eq_ok ok
  obtain ⟨arc, arced, ok⟩ := bind_eq_ok ok
  obtain ⟨viaOrientation, converted', ok⟩ := bind_eq_ok ok
  obtain ⟨endOrientation, converted'', ok⟩ := bind_eq_ok ok
  obtain ⟨-, ok⟩ := reject_bind_eq_ok ok
  obtain ⟨path, solvedPath, ok⟩ := bind_eq_ok ok
  have proper : ((startPose.map robotPoseFromRpy).getD
      ((product.planningModel arm).fk (armOf arm (jointPoint reference.positions)))).Proper := by
    cases startPose with
    | none => exact (product.planningModel arm).fk_proper _
    | some values => exact proper_robotPoseFromRpy values
  have through := through_of_ok (mapError_eq_ok.mp arced)
  obtain ⟨poses, targets, length, samples⟩ := circularTargets_ok through
    (converts_of_proper proper (mapError_eq_ok.mp converted))
    (converts_of_proper (proper_robotPoseFromRpy viaPose) (mapError_eq_ok.mp converted'))
    (converts_of_proper (proper_robotPoseFromRpy endPose) (mapError_eq_ok.mp converted'')) rfl rfl
  have several : poses ≠ [] := by
    refine List.ne_nil_of_length_pos ?_
    rw [length]
    exact Nat.add_pos_left (requiredSegments_pos _ _) _
  obtain ⟨solved, rfl, planned⟩ := solvePath_ok ((labelledArc_fst _ _).trans targets) solvedPath
  obtain ⟨knots, all⟩ := planned_of_finish (.circular startPose viaPose endPose) rfl ⟨_, samples⟩ several
    planned (fun law given => by
      have promises := (timedPlan_of_ok given).2.2
      exact ⟨promises.schedule, (timeParameterize_length given).trans (by decide), fun _ => promises.duration_le⟩) ok
  exact ⟨arm, _, solved, knots, requireSide_ok sided, all⟩

end Motions

/-! ## Motions with an approach -/

/-- Where a motion starts: at the reference, which is near the declared start, or at the end of an approach, which is
at the declared start. -/
def Starts (product : Resources) (motion : Motion) (side : Side) (reference : PlannedReference)
    (plan : TrajectoryPlan) : Option Configuration → Prop
  | none => ∀ declared ∈ motion.declaredStart,
    NearStart ((product.planningModel side).fk (armOf side (jointPoint reference.positions))) declared
  | some q => ∃ declared ∈ motion.declaredStart, plan.approachPose = some declared ∧
    (product.poseModel side).ReachesEndpoint declared q ∧ ∀ index,
      (product.joints (armJoint side index)).lower ≤ q index ∧ q index ≤ (product.joints (armJoint side index)).upper

section Approaches

variable {product : Resources} {mode : Trajectory.ControlMode} {side : ℕ} {arm : Side} {acceleration velocity : ℝ}
  {reference : PlannedReference} {plan : TrajectoryPlan} {declared : Pose} {motionName approachName : String}

/-- The reference is near an accepted start. -/
theorem validateCartesianStartPose_ok (proper : declared.Proper) (sided : side = Side.index arm)
    (ok : validateCartesianStartPose product side reference declared motionName = .ok ()) :
    NearStart ((product.planningModel arm).fk (armOf arm (jointPoint reference.positions))) declared := by
  subst sided
  have same : requireSide arm.index = .ok arm := by cases arm <;> rfl
  unfold validateCartesianStartPose at ok
  rw [same, ok_bind] at ok
  obtain ⟨-, ok⟩ := reject_bind_eq_ok ok
  obtain ⟨value, converted, ok⟩ := bind_eq_ok ok
  obtain ⟨other, converted', ok⟩ := bind_eq_ok ok
  obtain ⟨position, orientation⟩ := not_not.mp (reject_eq_ok.mp ok)
  exact ⟨position, value, other,
    converts_of_proper ((product.planningModel arm).fk_proper _) (mapError_eq_ok.mp converted),
    converts_of_proper proper (mapError_eq_ok.mp converted'), orientation⟩

/-- The targets of an approach. -/
theorem approachTargets_ok {targets : List JointPoint}
    (ok : solveCartesianTrajectoryApproachTargets product side reference declared motionName = .ok targets) :
    ∃ arm, side = Side.index arm ∧ ∀ target ∈ targets, ∃ q, target = setArm arm q (jointPoint reference.positions) ∧
      (product.poseModel arm).ReachesEndpoint declared q ∧ ∀ index,
        (product.joints (armJoint arm index)).lower ≤ q index ∧ q index ≤ (product.joints (armJoint arm index)).upper := by
  obtain ⟨arm, sided, ok⟩ := bind_eq_ok ok
  obtain ⟨_, -, ok⟩ := bind_eq_ok ok
  obtain ⟨best, called, ok⟩ := bind_eq_ok ok
  obtain ⟨-, ok⟩ := reject_bind_eq_ok ok
  obtain ⟨-, ok⟩ := reject_bind_eq_ok ok
  cases ok
  refine ⟨arm, requireSide_ok sided, fun target member => ?_⟩
  obtain ⟨q, found, rfl⟩ := List.mem_map.mp member
  obtain ⟨found, inside⟩ := List.mem_filter.mp found
  have meets := (ikImpl_ok (.endpointCandidatesUntil product.deadline) (mapError_eq_ok.mp called)).2 q found
  rw [meetsTolerance_iff rfl] at meets
  refine ⟨q, rfl, ?_, of_decide_eq_true inside⟩
  simpa [RobotModel.ReachesEndpoint, residualError, RobotModel.call, ikEndpointCandidatesUntil, IkOptions.resolve,
    productEndpointIkOptions, productPathIkOptions] using meets

theorem tryApproaches_ok {attempt : JointPoint → Except BuildError TrajectoryPlan} {count : ℕ}
    {targets : List JointPoint} {pathFailure : Option BuildError}
    (ok : tryApproaches attempt motionName count targets pathFailure = .ok plan) :
    ∃ target ∈ targets, attempt target = .ok plan := by
  induction targets generalizing pathFailure with
  | nil => cases ok
  | cons target rest ih =>
    unfold tryApproaches at ok
    cases attempted : attempt target with
    | ok plan' =>
      rw [attempted] at ok
      cases ok
      exact ⟨target, List.mem_cons_self, attempted⟩
    | error error =>
      rw [attempted] at ok
      simp only at ok
      split_ifs at ok
      obtain ⟨later, member, found⟩ := ih ok
      exact ⟨later, List.mem_cons_of_mem _ member, found⟩

/-- A plan with a declared start is built from the reference or behind an approach. -/
theorem planFromDeclaredStart_ok {build : PlannedReference → Except BuildError TrajectoryPlan}
    (ok : planFromDeclaredStart product side declared motionName approachName build reference = .ok plan) :
    (validateCartesianStartPose product side reference declared motionName = .ok () ∧ build reference = .ok plan) ∨
      ∃ arm q inner, side = Side.index arm ∧ (product.poseModel arm).ReachesEndpoint declared q ∧
        (∀ index, (product.joints (armJoint arm index)).lower ≤ q index ∧
          q index ≤ (product.joints (armJoint arm index)).upper) ∧
        build (atTarget reference (setArm arm q (jointPoint reference.positions))) = .ok inner ∧
        prependCartesianApproach inner reference declared = .ok plan := by
  unfold planFromDeclaredStart at ok
  simp only at ok
  split at ok
  · next plan' direct =>
    cases ok
    obtain ⟨_, validated, built⟩ := bind_eq_ok direct
    exact .inl ⟨validated, built⟩
  · next direct =>
    obtain ⟨targets, found, ok⟩ := bind_eq_ok ok
    obtain ⟨arm, sided, each⟩ := approachTargets_ok found
    obtain ⟨target, member, attempted⟩ := tryApproaches_ok ok
    obtain ⟨inner, built, prepended⟩ := bind_eq_ok attempted
    obtain ⟨q, rfl, reaches, inside⟩ := each target member
    exact .inr ⟨arm, q, inner, sided, reaches, inside, built, prepended⟩
  · cases ok

/-- The plan behind an approach is one of the motion with the approach. -/
theorem Planned.behind {motion : Motion} {q : Configuration} {inner : TrajectoryPlan} {poses : List Pose}
    {solved : List Configuration} {knots : List Knot} (given : motion.declaredStart = some declared)
    (planned : Planned product motion arm acceleration velocity
      (atTarget reference (setArm arm q (jointPoint reference.positions))) none poses solved knots inner)
    (prepended : prependCartesianApproach inner reference declared = .ok plan) :
    ∃ knots', Planned product motion arm acceleration velocity reference (some q) poses solved knots' plan ∧
      plan.approachPose = some declared := by
  have positions : jointPoint (atTarget reference (setArm arm q (jointPoint reference.positions))).positions =
      setArm arm q (jointPoint reference.positions) := jointPoint_valuesOf
  have along := planned.along
  have path := planned.path
  have schedule := planned.schedule
  rw [given, Option.getD_some] at along
  rw [Option.getD_none, positions, armOf_setArm] at path
  rw [positions] at schedule
  obtain ⟨knots', schedule', carries, meets, bounded, finish, approachPose⟩ :=
    prependCartesianApproach_ok rfl rfl rfl schedule planned.carries prepended
  have same : jointPoint reference.positions :: jointPath arm (setArm arm q (jointPoint reference.positions)) solved =
      jointPath arm (jointPoint reference.positions) (q :: solved) := by
    simp only [jointPath, List.map_cons, setArm_setArm]
  refine ⟨knots', ⟨?_, path, ?_, fun _ => bounded, carries, meets, ?_⟩, approachPose⟩
  · rw [given, Option.getD_some]
    exact along
  · exact same ▸ schedule'
  · exact finish ▸ planned.finish

theorem Side.index_injective : Function.Injective Side.index := by
  intro first second same
  cases first <;> cases second <;> first | rfl | cases same

/-- A motion with a declared start, from what its function without an approach builds. -/
theorem planned_of_declared {motion : Motion} {build : PlannedReference → Except BuildError TrajectoryPlan}
    (given : motion.declaredStart = some declared) (proper : declared.Proper)
    (builds : ∀ reference plan, build reference = .ok plan → ∃ arm poses solved knots, side = Side.index arm ∧
      Planned product motion arm acceleration velocity reference none poses solved knots plan)
    (ok : planFromDeclaredStart product side declared motionName approachName build reference = .ok plan) :
    ∃ arm approach poses solved knots, side = Side.index arm ∧
      Planned product motion arm acceleration velocity reference approach poses solved knots plan ∧
      Starts product motion arm reference plan approach := by
  obtain ⟨validated, built⟩ | ⟨arm, q, inner, sided, reaches, inside, built, prepended⟩ := planFromDeclaredStart_ok ok
  · obtain ⟨arm, poses, solved, knots, sided, planned⟩ := builds _ _ built
    refine ⟨arm, none, poses, solved, knots, sided, planned, fun other same => ?_⟩
    rw [given, Option.mem_some_iff] at same
    exact same ▸ validateCartesianStartPose_ok proper sided validated
  · obtain ⟨arm', poses, solved, knots, sided', planned⟩ := builds _ _ built
    obtain rfl : arm = arm' := Side.index_injective (sided.symm.trans sided')
    obtain ⟨knots', behind, approachPose⟩ := planned.behind given prepended
    exact ⟨arm, some q, poses, solved, knots', sided, behind, declared, given, approachPose, reaches, inside⟩

/-- Every plan that the planner returns leads an arm along the samples of its motion. -/
theorem Motion.build_ok {motion : Motion}
    (ok : motion.build product mode side acceleration velocity reference = .ok plan) :
    ∃ arm approach poses solved knots, side = Side.index arm ∧
      Planned product motion arm acceleration velocity reference approach poses solved knots plan ∧
      Starts product motion arm reference plan approach := by
  cases motion with
  | linear startPose endPose =>
    cases startPose with
    | none =>
      obtain ⟨arm, poses, solved, knots, sided, planned⟩ := buildLinearTrajectoryPlanCommon_ok none ok
      exact ⟨arm, none, poses, solved, knots, sided, planned, fun _ => nofun⟩
    | some values =>
      exact planned_of_declared rfl (proper_robotPoseFromRpy values)
        (fun _ _ => buildLinearTrajectoryPlanCommon_ok (some values)) ok
  | linearPath values =>
    obtain ⟨_, -, ok⟩ := bind_eq_ok ok
    obtain ⟨_, -, ok⟩ := bind_eq_ok ok
    match values, ok with
    | first :: second :: rest, ok =>
      obtain ⟨-, ok⟩ := reject_bind_eq_ok ok
      exact planned_of_declared rfl (proper_robotPoseFromRpy first)
        (fun _ _ => buildLinearPathTrajectoryPlanCommon_ok) ok
  | circular startPose viaPose endPose =>
    cases startPose with
    | none =>
      obtain ⟨arm, poses, solved, knots, sided, planned⟩ := buildCircularTrajectoryPlanCommon_ok none ok
      exact ⟨arm, none, poses, solved, knots, sided, planned, fun _ => nofun⟩
    | some values =>
      exact planned_of_declared rfl (proper_robotPoseFromRpy values)
        (fun _ _ => buildCircularTrajectoryPlanCommon_ok (some values)) ok

end Approaches

end

end MotorDrive.Cartesian
