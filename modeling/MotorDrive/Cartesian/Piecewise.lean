import MotorDrive.Cartesian.Timing

/-!
# Piecewise time laws

`time_parameterize_piecewise_cartesian_trajectory` of `product_cartesian.cpp` over the real numbers: every piece of a
joint path between two control points gets a time law of its own, and the plans are put one behind the other.
-/

namespace MotorDrive.Cartesian

open Validate

noncomputable section

/-- The geometry of a piece, from one control point to the next. -/
def piece (path : List JointPoint) (controlPointIndices : List ℕ) (segment : ℕ) : List JointPoint :=
  (path.drop (controlPointIndices.getD segment 0)).take
    (controlPointIndices.getD (segment + 1) 0 + 1 - controlPointIndices.getD segment 0)

/-- One turn of the loop over the pieces: the plan so far, and `time_offset`. -/
def appendPiece (path : List JointPoint) (controlPointIndices : List ℕ) (maximumVelocity maximumAcceleration : ℝ)
    (state : TimedJointPath × ℝ) (segment : ℕ) : Except String (TimedJointPath × ℝ) :=
  if controlPointIndices.getD (segment + 1) 0 ≤ controlPointIndices.getD segment 0 then
    .error "piecewise Cartesian path contains an empty segment"
  else do
    let timed ← timeParameterize (piece path controlPointIndices segment) maximumVelocity maximumAcceleration
    let start := if segment = 0 then 0 else 1
    let result : TimedJointPath := ⟨state.1.points ++ timed.points.drop start,
      state.1.timestamps ++ (timed.timestamps.drop start).map (state.2 + ·)⟩
    return (result, result.timestamps.getLastD 0)

/-- `time_parameterize_piecewise_cartesian_trajectory`. -/
def timeParameterizePiecewise (path : List JointPoint) (controlPointIndices : List ℕ)
    (maximumVelocity maximumAcceleration : ℝ) : Except String TimedJointPath :=
  if controlPointIndices.length < 2 ∨ controlPointIndices.headD 0 ≠ 0 ∨
      controlPointIndices.getLastD 0 + 1 ≠ path.length then
    .error "piecewise Cartesian path control-point indices are invalid"
  else do
    let (result, _) ← (List.range (controlPointIndices.length - 1)).foldlM
      (appendPiece path controlPointIndices maximumVelocity maximumAcceleration) (⟨[], []⟩, 0)
    if 30000 < result.points.length then
      .error "piecewise Cartesian automatic timing requires more than the native point capacity"
    else return result

/-! ## Plans one behind the other -/

/-- The knot of a plan of pieces at which a piece starts. -/
def visit (plans : ℕ → TimedJointPath) : ℕ → ℕ
  | 0 => 0
  | segment + 1 => visit plans segment + ((plans segment).points.length - 1)

/-- A plan goes through the knots of the plans of some pieces, one behind the other, with a single knot where two of
them meet. -/
structure Joined (plans : ℕ → TimedJointPath) (count : ℕ) (plan : TimedJointPath) : Prop where
  lengths : plan.timestamps.length = plan.points.length
  finish : visit plans count + 1 = plan.points.length
  points : ∀ segment < count, ∀ knot < (plans segment).points.length,
    plan.points[visit plans segment + knot]? = (plans segment).points[knot]?
  times : ∀ segment < count, ∀ knot < (plans segment).points.length,
    plan.time (visit plans segment + knot) = plan.time (visit plans segment) + (plans segment).time knot

/-- The acceleration at a control point: from the last interval of the piece before it to the first one after it. -/
def junctionAcceleration (before after : TimedJointPath) : JointPoint := fun joint =>
  (knotVelocity after 1 joint - knotVelocity before (before.points.length - 1) joint) /
    (0.5 * (after.time 1 - after.time 0 + before.time (before.points.length - 1) -
      before.time (before.points.length - 2)))

/-- A knot that is not the last one lies in a piece. -/
theorem exists_piece {plans : ℕ → TimedJointPath} {count knot : ℕ} (inside : knot < visit plans count) :
    ∃ segment < count, ∃ place, place + 1 < (plans segment).points.length ∧ knot = visit plans segment + place := by
  induction count with
  | zero => exact absurd inside (Nat.not_lt_zero _)
  | succ count ih =>
    by_cases earlier : knot < visit plans count
    · obtain ⟨segment, below, place, within, same⟩ := ih earlier
      exact ⟨segment, Nat.lt_succ_of_lt below, place, within, same⟩
    · rw [visit] at inside
      exact ⟨count, Nat.lt_succ_self _, knot - visit plans count, by omega, by omega⟩

/-- The starts of the pieces. -/
theorem visit_mono (plans : ℕ → TimedJointPath) : Monotone (visit plans) :=
  monotone_nat_of_le_succ fun _ => Nat.le_add_right _ _

theorem visit_lt {plans : ℕ → TimedJointPath} {segment count : ℕ} (below : segment < count)
    (two : 2 ≤ (plans segment).points.length) : visit plans segment < visit plans count := by
  have next := visit_mono plans below
  rw [visit] at next
  omega

section Joined

variable {plans : ℕ → TimedJointPath} {count segment knot : ℕ} {plan : TimedJointPath}

theorem Joined.point (joined : Joined plans count plan) (below : segment < count)
    (inside : knot < (plans segment).points.length) :
    plan.point (visit plans segment + knot) = (plans segment).point knot := by
  rw [TimedJointPath.point, TimedJointPath.point, List.getD_eq_getElem?_getD, List.getD_eq_getElem?_getD,
    joined.points segment below knot inside]

theorem Joined.interval (joined : Joined plans count plan) (below : segment < count)
    (inside : knot + 1 < (plans segment).points.length) :
    plan.time (visit plans segment + knot + 1) - plan.time (visit plans segment + knot) =
      (plans segment).time (knot + 1) - (plans segment).time knot := by
  rw [Nat.add_assoc, joined.times segment below (knot + 1) inside,
    joined.times segment below knot (Nat.lt_of_succ_lt inside), add_sub_add_left_eq_sub]

theorem Joined.velocity (joined : Joined plans count plan) (below : segment < count)
    (inside : knot + 1 < (plans segment).points.length) :
    knotVelocity plan (visit plans segment + knot + 1) = knotVelocity (plans segment) (knot + 1) := by
  funext joint
  rw [knotVelocity, knotVelocity, joined.interval below inside, Nat.add_assoc, joined.point below inside,
    joined.point below (Nat.lt_of_succ_lt inside)]

/-- Inside a piece the acceleration is the one of its plan. -/
theorem Joined.acceleration (joined : Joined plans count plan) (below : segment < count)
    (inside : knot + 2 < (plans segment).points.length) :
    knotAcceleration plan (visit plans segment + knot + 1) = knotAcceleration (plans segment) (knot + 1) := by
  have second := joined.interval below inside
  have first := joined.interval below (Nat.lt_of_succ_lt inside)
  funext joint
  rw [knotAcceleration, knotAcceleration, add_sub_assoc, add_sub_assoc]
  rw [← Nat.add_assoc] at second
  rw [first, second, joined.velocity below (Nat.lt_of_succ_lt inside)]
  exact congrArg (fun velocity : JointPoint => (velocity joint - _) / _) (joined.velocity below inside)

/-- Where two pieces meet, the acceleration is the one at the junction. -/
theorem Joined.junction (joined : Joined plans count plan) (below : segment + 1 < count)
    (before : 2 ≤ (plans segment).points.length) (after : 2 ≤ (plans (segment + 1)).points.length) :
    knotAcceleration plan (visit plans (segment + 1)) =
      junctionAcceleration (plans segment) (plans (segment + 1)) := by
  obtain ⟨last, length⟩ : ∃ last, (plans segment).points.length = last + 2 := ⟨_, (Nat.sub_add_cancel before).symm⟩
  have place : visit plans (segment + 1) = visit plans segment + last + 1 := by
    rw [visit, length]
    rfl
  have arrival : last + 1 < (plans segment).points.length := by omega
  have lastInterval := joined.interval (Nat.lt_of_succ_lt below) arrival
  have departure : 0 + 1 < (plans (segment + 1)).points.length := after
  have nextInterval := joined.interval below departure
  have lastVelocity := joined.velocity (Nat.lt_of_succ_lt below) arrival
  have nextVelocity := joined.velocity below departure
  rw [Nat.add_zero, place] at nextInterval nextVelocity
  funext joint
  rw [place, knotAcceleration, junctionAcceleration, length, add_sub_assoc, add_sub_assoc, lastInterval, lastVelocity]
  rw [nextInterval]
  exact congrArg (fun velocity : JointPoint => (velocity joint - _) / _) nextVelocity

theorem Joined.start (joined : Joined plans count plan) (pieces : 0 < count) (first : 2 ≤ (plans 0).points.length) :
    knotAcceleration plan 0 = knotAcceleration (plans 0) 0 := by
  have departure : 0 + 1 < (plans 0).points.length := first
  have interval := joined.interval pieces departure
  have velocity := joined.velocity pieces departure
  simp only [visit, Nat.zero_add] at interval velocity
  funext joint
  rw [knotAcceleration, knotAcceleration, interval, velocity]
  rfl

theorem Joined.stop (joined : Joined plans (count + 1) plan) (last : 2 ≤ (plans count).points.length)
    (same : (plans count).timestamps.length = (plans count).points.length) :
    stopAcceleration plan = stopAcceleration (plans count) := by
  obtain ⟨last, length⟩ : ∃ last, (plans count).points.length = last + 2 := ⟨_, (Nat.sub_add_cancel last).symm⟩
  have size : plan.points.length = visit plans count + last + 2 := by
    rw [← joined.finish, visit, length]
    rfl
  have arrival : last + 1 < (plans count).points.length := by omega
  have interval := joined.interval (Nat.lt_succ_self count) arrival
  have velocity := joined.velocity (Nat.lt_succ_self count) arrival
  funext joint
  rw [stopAcceleration, stopAcceleration, joined.lengths, same, size, length]
  exact congrArg₂ (fun (velocity : JointPoint) interval => velocity joint / interval) velocity interval

/-- What the plans of the pieces satisfy. -/
structure Piece (maximumVelocity maximumAcceleration factor : ℝ) (plan : TimedJointPath) : Prop where
  two : 2 ≤ plan.points.length
  lengths : plan.timestamps.length = plan.points.length
  increasing : ∀ knot, knot + 1 < plan.points.length → plan.time knot < plan.time (knot + 1)
  limits : WithinLimits plan maximumVelocity maximumAcceleration factor

theorem Joined.increasing (joined : Joined plans count plan)
    (increasing : ∀ segment < count, ∀ knot, knot + 1 < (plans segment).points.length →
      (plans segment).time knot < (plans segment).time (knot + 1))
    (inside : knot + 1 < plan.points.length) : plan.time knot < plan.time (knot + 1) := by
  rw [← joined.finish] at inside
  obtain ⟨segment, below, place, within, rfl⟩ := exists_piece (Nat.lt_of_succ_lt_succ inside)
  have interval := joined.interval below within
  have increases := increasing segment below place within
  linarith

/-- A plan of pieces within the limits keeps the limits if and only if the junctions do. -/
theorem Joined.withinLimits_iff {maximumVelocity maximumAcceleration factor : ℝ}
    (joined : Joined plans (count + 1) plan)
    (pieces : ∀ segment < count + 1, Piece maximumVelocity maximumAcceleration factor (plans segment)) :
    WithinLimits plan maximumVelocity maximumAcceleration factor ↔ ∀ segment < count, ∀ joint,
      |junctionAcceleration (plans segment) (plans (segment + 1)) joint| ≤ factor ^ 2 * maximumAcceleration := by
  constructor
  · intro within segment below joint
    have bound : segment + 1 < count + 1 := Nat.succ_lt_succ below
    have first := pieces segment (Nat.lt_of_succ_lt bound)
    have second := pieces (segment + 1) bound
    have inside : visit plans (segment + 1) + 1 < plan.points.length := by
      have later := visit_lt bound second.two
      rw [← joined.finish]
      omega
    have acceleration := within.acceleration _ inside joint
    rwa [joined.junction bound first.two second.two] at acceleration
  · intro junctions
    have last := pieces count (Nat.lt_succ_self count)
    refine ⟨fun knot inside joint => ?_, fun knot inside joint => ?_, fun joint => ?_⟩
    · rw [← joined.finish] at inside
      obtain ⟨segment, below, place, within, rfl⟩ := exists_piece (Nat.lt_of_succ_lt_succ inside)
      rw [joined.velocity below within]
      exact (pieces segment below).limits.velocity place within joint
    · rw [← joined.finish] at inside
      obtain ⟨segment, below, place, within, rfl⟩ := exists_piece (Nat.lt_of_succ_lt_succ inside)
      have limits := (pieces segment below).limits
      cases place with
      | succ place =>
        rw [← Nat.add_assoc, joined.acceleration below within]
        exact limits.acceleration (place + 1) within joint
      | zero =>
        cases segment with
        | zero =>
          rw [visit, joined.start below (pieces 0 below).two]
          exact limits.acceleration 0 within joint
        | succ segment =>
          have before := pieces segment (Nat.lt_of_succ_lt below)
          rw [Nat.add_zero, joined.junction below before.two (pieces (segment + 1) below).two]
          exact junctions segment (Nat.lt_of_succ_lt_succ below) joint
    · rw [joined.stop last.two last.lengths]
      exact last.limits.stop joint

/-- A single piece. -/
theorem joined_single (lengths : (plans 0).timestamps.length = (plans 0).points.length)
    (two : 2 ≤ (plans 0).points.length) (starts : (plans 0).time 0 = 0) : Joined plans 1 (plans 0) := by
  refine ⟨lengths, ?_, fun segment below knot _ => ?_, fun segment below knot _ => ?_⟩
  · rw [visit, visit]
    omega
  · rw [Nat.lt_one_iff.mp below, visit, Nat.zero_add]
  · rw [Nat.lt_one_iff.mp below, visit, Nat.zero_add, starts, zero_add]

/-- A piece behind a plan of pieces, without its first knot. -/
theorem Joined.append (joined : Joined plans count plan)
    (lengths : (plans count).timestamps.length = (plans count).points.length)
    (two : 2 ≤ (plans count).points.length) (starts : (plans count).time 0 = 0)
    (meets : (plans count).points.head? = plan.points.getLast?) :
    Joined plans (count + 1) ⟨plan.points ++ (plans count).points.drop 1,
      plan.timestamps ++ ((plans count).timestamps.drop 1).map (plan.timestamps.getLastD 0 + ·)⟩ := by
  have finish := joined.finish
  have offset : plan.timestamps.getLastD 0 = plan.time (visit plans count) := by
    rw [List.getLastD_eq_getLast?, List.getLast?_eq_getElem?, joined.lengths, ← finish]
    exact (List.getD_eq_getElem?_getD ..).symm
  have early {knot : ℕ} (inside : knot ≤ visit plans count) : TimedJointPath.time
      ⟨plan.points ++ (plans count).points.drop 1, plan.timestamps ++
        ((plans count).timestamps.drop 1).map (plan.timestamps.getLastD 0 + ·)⟩ knot = plan.time knot := by
    have within : knot < plan.timestamps.length := by
      rw [joined.lengths]
      omega
    exact List.getD_append _ _ _ _ within
  refine ⟨?_, ?_, fun segment below knot inside => ?_, fun segment below knot inside => ?_⟩
  · rw [List.length_append, List.length_append, List.length_map, List.length_drop, List.length_drop, joined.lengths,
      lengths]
  · rw [visit, List.length_append, List.length_drop]
    omega
  · rcases Nat.lt_succ_iff_lt_or_eq.mp below with earlier | rfl
    · have within : visit plans segment + knot < plan.points.length := by
        have later := visit_mono plans (Nat.succ_le_of_lt earlier)
        rw [Nat.succ_eq_add_one, visit] at later
        omega
      rw [List.getElem?_append_left within]
      exact joined.points segment earlier knot inside
    · cases knot with
      | zero =>
        rw [List.getElem?_append_left (by omega), ← List.head?_eq_getElem?, meets, List.getLast?_eq_getElem?, ← finish]
        rfl
      | succ knot =>
        rw [List.getElem?_append_right (by omega), List.getElem?_drop]
        congr 1
        omega
  · rcases Nat.lt_succ_iff_lt_or_eq.mp below with earlier | rfl
    · have later := visit_mono plans (Nat.succ_le_of_lt earlier)
      rw [Nat.succ_eq_add_one, visit] at later
      rw [early (by omega), early (by omega)]
      exact joined.times segment earlier knot inside
    · cases knot with
      | zero => rw [Nat.add_zero, starts, add_zero]
      | succ knot =>
        have behind : plan.timestamps.length ≤ visit plans segment + (knot + 1) := by
          rw [joined.lengths]
          omega
        have place : visit plans segment + (knot + 1) - plan.timestamps.length = knot := by
          rw [joined.lengths]
          omega
        have within : knot + 1 < (plans segment).timestamps.length := lengths ▸ inside
        rw [early le_rfl, ← offset]
        refine (List.getD_append_right _ _ _ _ behind).trans ?_
        rw [place, List.getD_eq_getElem?_getD, List.getElem?_map, List.getElem?_drop, Nat.add_comm 1 knot,
          List.getElem?_eq_getElem within, TimedJointPath.time, List.getD_eq_getElem _ _ within]
        rfl

theorem Joined.getLast (joined : Joined plans (count + 1) plan) (two : 2 ≤ (plans count).points.length) :
    plan.points.getLast? = (plans count).points.getLast? := by
  have last := joined.points count (Nat.lt_succ_self count) ((plans count).points.length - 1) (by omega)
  rw [List.getLast?_eq_getElem?, List.getLast?_eq_getElem?, ← last, ← joined.finish, visit]
  rfl

end Joined

/-! ## The plan of a path -/

section Pieces

variable {path : List JointPoint} {controlPointIndices : List ℕ} {maximumVelocity maximumAcceleration : ℝ}
  {segment : ℕ}

theorem piece_head (ordered : controlPointIndices.getD segment 0 < controlPointIndices.getD (segment + 1) 0) :
    (piece path controlPointIndices segment).head? = path[controlPointIndices.getD segment 0]? := by
  rw [piece, List.head?_take, if_neg (by omega), List.head?_drop]

theorem piece_getLast (ordered : controlPointIndices.getD segment 0 < controlPointIndices.getD (segment + 1) 0)
    (inside : controlPointIndices.getD (segment + 1) 0 < path.length) :
    (piece path controlPointIndices segment).getLast? = path[controlPointIndices.getD (segment + 1) 0]? := by
  have size : (piece path controlPointIndices segment).length =
      controlPointIndices.getD (segment + 1) 0 + 1 - controlPointIndices.getD segment 0 := by
    rw [piece, List.length_take, List.length_drop]
    omega
  rw [List.getLast?_eq_getElem?, size, piece, List.getElem?_take_of_lt (by omega), List.getElem?_drop]
  congr 1
  omega

/-- The plan of a piece. -/
def pieceTiming (path : List JointPoint) (controlPointIndices : List ℕ) (maximumVelocity maximumAcceleration : ℝ)
    (segment : ℕ) : TimedJointPath :=
  match timeParameterize (piece path controlPointIndices segment) maximumVelocity maximumAcceleration with
  | .ok timed => timed
  | .error _ => ⟨[], []⟩

/-- What a turn of the loop over the pieces does. -/
theorem appendPiece_ok {state state' : TimedJointPath × ℝ}
    (ok : appendPiece path controlPointIndices maximumVelocity maximumAcceleration state segment = .ok state') :
    controlPointIndices.getD segment 0 < controlPointIndices.getD (segment + 1) 0 ∧
      timeParameterize (piece path controlPointIndices segment) maximumVelocity maximumAcceleration =
        .ok (pieceTiming path controlPointIndices maximumVelocity maximumAcceleration segment) ∧
      state' = (⟨state.1.points ++ (pieceTiming path controlPointIndices maximumVelocity maximumAcceleration
            segment).points.drop (if segment = 0 then 0 else 1),
          state.1.timestamps ++ ((pieceTiming path controlPointIndices maximumVelocity maximumAcceleration
            segment).timestamps.drop (if segment = 0 then 0 else 1)).map (state.2 + ·)⟩,
        state'.1.timestamps.getLastD 0) := by
  unfold appendPiece at ok
  by_cases empty : controlPointIndices.getD (segment + 1) 0 ≤ controlPointIndices.getD segment 0
  · rw [if_pos empty] at ok
    cases ok
  rw [if_neg empty] at ok
  obtain ⟨timed, parameterized, rest⟩ := bind_eq_ok ok
  have same : pieceTiming path controlPointIndices maximumVelocity maximumAcceleration segment = timed := by
    rw [pieceTiming, parameterized]
  rw [same]
  cases rest
  exact ⟨not_le.mp empty, parameterized, rfl⟩

theorem TimedPlan.time_zero {plan : TimedJointPath}
    (promises : TimedPlan path maximumVelocity maximumAcceleration plan) : plan.time 0 = 0 := by
  rw [TimedJointPath.time, ← headD_eq_getD, List.headD_eq_head?_getD, promises.start]
  rfl

theorem TimedPlan.piece {plan : TimedJointPath}
    (promises : TimedPlan path maximumVelocity maximumAcceleration plan) :
    Piece maximumVelocity maximumAcceleration 1.0001 plan := by
  have increasing := (pairwise_iff_increasing plan.timestamps).mp promises.increasing
  rw [promises.lengths] at increasing
  exact ⟨promises.several, promises.lengths, increasing, promises.limits⟩

/-- A plan of several pieces, with what each of them is. -/
structure Assembled (path : List JointPoint) (controlPointIndices : List ℕ)
    (maximumVelocity maximumAcceleration : ℝ) (count : ℕ) (plan : TimedJointPath) : Prop where
  ordered : ∀ segment < count,
    controlPointIndices.getD segment 0 < controlPointIndices.getD (segment + 1) 0
  parameterized : ∀ segment < count,
    timeParameterize (piece path controlPointIndices segment) maximumVelocity maximumAcceleration =
      .ok (pieceTiming path controlPointIndices maximumVelocity maximumAcceleration segment)
  joined : Joined (pieceTiming path controlPointIndices maximumVelocity maximumAcceleration) count plan

theorem Assembled.timed {count : ℕ} {plan : TimedJointPath}
    (assembled : Assembled path controlPointIndices maximumVelocity maximumAcceleration count plan)
    (below : segment < count) :
    TimedPlan (piece path controlPointIndices segment) maximumVelocity maximumAcceleration
      (pieceTiming path controlPointIndices maximumVelocity maximumAcceleration segment) :=
  (timedPlan_of_ok (assembled.parameterized segment below)).2.2

/-- A turn of the loop behind a plan of pieces. -/
theorem Assembled.append {count : ℕ} {state state' : TimedJointPath × ℝ}
    (assembled : Assembled path controlPointIndices maximumVelocity maximumAcceleration (count + 1) state.1)
    (offset : state.2 = state.1.timestamps.getLastD 0)
    (inside : controlPointIndices.getD (count + 1) 0 < path.length)
    (ok : appendPiece path controlPointIndices maximumVelocity maximumAcceleration state (count + 1) = .ok state') :
    Assembled path controlPointIndices maximumVelocity maximumAcceleration (count + 2) state'.1 := by
  obtain ⟨ordered, parameterized, made⟩ := appendPiece_ok ok
  have timed := (timedPlan_of_ok parameterized).2.2
  have earlier := assembled.timed (Nat.lt_succ_self count)
  have meets : (pieceTiming path controlPointIndices maximumVelocity maximumAcceleration
      (count + 1)).points.head? = state.1.points.getLast? := by
    rw [timed.first, piece_head ordered, assembled.joined.getLast earlier.several, earlier.last,
      piece_getLast (assembled.ordered count (Nat.lt_succ_self count)) inside]
  refine ⟨fun segment below => ?_, fun segment below => ?_, ?_⟩
  · rcases Nat.lt_succ_iff_lt_or_eq.mp below with before | rfl
    · exact assembled.ordered segment before
    · exact ordered
  · rcases Nat.lt_succ_iff_lt_or_eq.mp below with before | rfl
    · exact assembled.parameterized segment before
    · exact parameterized
  · rw [made, if_neg (Nat.succ_ne_zero count), offset]
    exact assembled.joined.append timed.lengths timed.several timed.time_zero meets

/-- The first turn of the loop. -/
theorem assembled_single {state' : TimedJointPath × ℝ}
    (ok : appendPiece path controlPointIndices maximumVelocity maximumAcceleration (⟨[], []⟩, 0) 0 = .ok state') :
    Assembled path controlPointIndices maximumVelocity maximumAcceleration 1 state'.1 := by
  obtain ⟨ordered, parameterized, made⟩ := appendPiece_ok ok
  have timed := (timedPlan_of_ok parameterized).2.2
  have same : state'.1 = pieceTiming path controlPointIndices maximumVelocity maximumAcceleration 0 := by
    have zero : (fun timestamp : ℝ => 0 + timestamp) = id := funext zero_add
    rw [made, if_pos rfl, List.drop_zero, List.drop_zero, List.nil_append, List.nil_append, zero, List.map_id]
  refine ⟨fun segment below => ?_, fun segment below => ?_, ?_⟩
  · rwa [Nat.lt_one_iff.mp below]
  · rwa [Nat.lt_one_iff.mp below]
  · rw [same]
    exact joined_single timed.lengths timed.several timed.time_zero

/-- A returned plan is the plan of all the pieces. -/
theorem assembled_of_ok {plan : TimedJointPath}
    (ok : timeParameterizePiecewise path controlPointIndices maximumVelocity maximumAcceleration = .ok plan) :
    ∃ count, controlPointIndices.length = count + 2 ∧ controlPointIndices.getD 0 0 = 0 ∧
      controlPointIndices.getD (count + 1) 0 + 1 = path.length ∧
      Assembled path controlPointIndices maximumVelocity maximumAcceleration (count + 1) plan := by
  unfold timeParameterizePiecewise at ok
  by_cases wrong : controlPointIndices.length < 2 ∨ controlPointIndices.headD 0 ≠ 0 ∨
      controlPointIndices.getLastD 0 + 1 ≠ path.length
  · rw [if_pos wrong] at ok
    cases ok
  rw [if_neg wrong] at ok
  rw [not_or, not_or, not_not, not_not, headD_eq_getD, getLastD_eq_getD] at wrong
  obtain ⟨several, first, last⟩ := wrong
  obtain ⟨count, length⟩ : ∃ count, controlPointIndices.length = count + 2 :=
    ⟨_, (Nat.sub_add_cancel (not_lt.mp several)).symm⟩
  obtain ⟨⟨result, offset⟩, folded, rest⟩ := bind_eq_ok ok
  have same : result = plan := by
    by_cases many : 30000 < result.points.length
    · simp only [if_pos many] at rest
      cases rest
    · simp only [if_neg many] at rest
      exact Except.ok.inj rest
  rw [length] at folded last
  obtain ⟨states, start, finish, steps⟩ := foldlM_eq_ok folded
  rw [List.length_range] at finish
  have step (segment : ℕ) (below : segment < count + 1) : appendPiece path controlPointIndices maximumVelocity
      maximumAcceleration (states segment) segment = .ok (states (segment + 1)) :=
    steps segment segment (List.getElem?_range below)
  have increases (segment : ℕ) (below : segment < count + 1) :
      controlPointIndices.getD segment 0 < controlPointIndices.getD (segment + 1) 0 :=
    (appendPiece_ok (step segment below)).1
  have inside (segment : ℕ) (below : segment ≤ count + 1) : controlPointIndices.getD segment 0 < path.length := by
    induction below using Nat.decreasingInduction with
    | self => exact last ▸ Nat.lt_succ_self _
    | of_succ segment below ih => exact (increases segment below).trans ih
  have all (segment : ℕ) (below : segment < count + 1) :
      Assembled path controlPointIndices maximumVelocity maximumAcceleration (segment + 1)
        (states (segment + 1)).1 := by
    induction segment with
    | zero =>
      have first := step 0 below
      rw [start] at first
      exact assembled_single first
    | succ segment ih =>
      have offset := congrArg Prod.snd (appendPiece_ok (step segment (Nat.lt_of_succ_lt below))).2.2
      exact (ih (Nat.lt_of_succ_lt below)).append offset (inside (segment + 1) below.le) (step (segment + 1) below)
  have final := all count (Nat.lt_succ_self count)
  have ends : states (count + 1) = (result, offset) := finish
  rw [ends, same] at final
  exact ⟨count, length, first, last, final⟩

/-- The control points are knots of a plan, one after the other, with the knots of the pieces' own plans between them;
where two pieces meet there is a single knot. -/
structure Visits (path : List JointPoint) (controlPointIndices : List ℕ) (maximumVelocity maximumAcceleration : ℝ)
    (plan : TimedJointPath) (visit : ℕ → ℕ) : Prop where
  start : visit 0 = 0
  next : ∀ segment, segment + 1 < controlPointIndices.length → visit segment < visit (segment + 1)
  finish : visit (controlPointIndices.length - 1) + 1 = plan.points.length
  control : ∀ segment < controlPointIndices.length,
    plan.points[visit segment]? = path[controlPointIndices.getD segment 0]?
  knots : ∀ segment, segment + 1 < controlPointIndices.length → ∀ timed,
    timeParameterize (piece path controlPointIndices segment) maximumVelocity maximumAcceleration = .ok timed →
      visit (segment + 1) = visit segment + (timed.points.length - 1) ∧
        ∀ knot < timed.points.length, plan.points[visit segment + knot]? = timed.points[knot]?

/-- The promises of a plan of pieces: the limits of a single plan, also where two pieces meet, timestamps that increase,
and every control point once. -/
structure PiecewisePlan (path : List JointPoint) (controlPointIndices : List ℕ)
    (maximumVelocity maximumAcceleration : ℝ) (plan : TimedJointPath) : Prop where
  stretch : ∃ factor, stretchFactor plan maximumVelocity maximumAcceleration = .ok factor ∧ factor ≤ 1.0001
  increasing : plan.timestamps.Pairwise (· < ·)
  visits : ∃ visit, Visits path controlPointIndices maximumVelocity maximumAcceleration plan visit

/-- At every control point inside the path, the plans of the two pieces that meet there have velocities close enough for
the acceleration limit. -/
def SmoothJunctions (path : List JointPoint) (controlPointIndices : List ℕ)
    (maximumVelocity maximumAcceleration : ℝ) : Prop :=
  ∀ segment, segment + 2 < controlPointIndices.length → ∀ before after,
    timeParameterize (piece path controlPointIndices segment) maximumVelocity maximumAcceleration = .ok before →
    timeParameterize (piece path controlPointIndices (segment + 1)) maximumVelocity maximumAcceleration = .ok after →
    ∀ joint, |junctionAcceleration before after joint| ≤ 1.0001 ^ 2 * maximumAcceleration

section Assembled

variable {count : ℕ} {plan : TimedJointPath}

theorem Assembled.visits
    (assembled : Assembled path controlPointIndices maximumVelocity maximumAcceleration (count + 1) plan)
    (length : controlPointIndices.length = count + 2)
    (last : controlPointIndices.getD (count + 1) 0 + 1 = path.length) :
    Visits path controlPointIndices maximumVelocity maximumAcceleration plan
      (visit (pieceTiming path controlPointIndices maximumVelocity maximumAcceleration)) := by
  have joined := assembled.joined
  refine ⟨rfl, fun segment below => ?_, ?_, fun segment below => ?_, fun segment below timed parameterized => ?_⟩
  · exact visit_lt (Nat.lt_succ_self segment) (assembled.timed (by omega)).several
  · rw [length]
    exact joined.finish
  · rcases Nat.lt_or_ge segment (count + 1) with inside | beyond
    · have timed := assembled.timed inside
      have first := joined.points segment inside 0 (by have := timed.several; omega)
      rw [Nat.add_zero] at first
      rw [first, ← List.head?_eq_getElem?, timed.first, piece_head (assembled.ordered segment inside)]
    · obtain rfl : segment = count + 1 := by omega
      have final := assembled.timed (Nat.lt_succ_self count)
      have ends := joined.getLast final.several
      rw [final.last, piece_getLast (assembled.ordered count (Nat.lt_succ_self count)) (by omega),
        List.getLast?_eq_getElem?, ← joined.finish] at ends
      exact ends
  · have same := parameterized.symm.trans (assembled.parameterized segment (by omega))
    cases Except.ok.inj same
    exact ⟨rfl, joined.points segment (by omega)⟩

/-- The limits hold over the plan of the pieces if and only if they hold where two pieces meet. -/
theorem Assembled.withinLimits_iff
    (assembled : Assembled path controlPointIndices maximumVelocity maximumAcceleration (count + 1) plan)
    (length : controlPointIndices.length = count + 2) :
    WithinLimits plan maximumVelocity maximumAcceleration 1.0001 ↔
      SmoothJunctions path controlPointIndices maximumVelocity maximumAcceleration := by
  rw [assembled.joined.withinLimits_iff fun segment below => (assembled.timed below).piece]
  constructor
  · intro junctions segment below before after earlier later joint
    have first := earlier.symm.trans (assembled.parameterized segment (by omega))
    have second := later.symm.trans (assembled.parameterized (segment + 1) (by omega))
    cases Except.ok.inj first
    cases Except.ok.inj second
    exact junctions segment (by omega) joint
  · intro smooth segment below joint
    exact smooth segment (by omega) _ _ (assembled.parameterized segment (by omega))
      (assembled.parameterized (segment + 1) (by omega)) joint

theorem Assembled.increasing
    (assembled : Assembled path controlPointIndices maximumVelocity maximumAcceleration (count + 1) plan) :
    ∀ knot, knot + 1 < plan.points.length → plan.time knot < plan.time (knot + 1) := fun _ inside =>
  assembled.joined.increasing (fun _ below => (assembled.timed below).piece.increasing) inside

end Assembled

end Pieces

/-! ## A path with a junction that is too fast -/

/-- The same value for every joint. -/
def everyJoint (value : ℝ) : JointPoint := fun _ => value

section Half

theorem quinticProgress_below_half {width : ℝ} (nonneg : 0 ≤ width) (le : width ≤ 1 / 2) :
    quinticProgress (1 / 2 - width) = 1 / 2 - width * (15 / 8 - 5 * width ^ 2 + 6 * width ^ 4) := by
  unfold quinticProgress
  rw [clampUnit_of_mem (by linarith) (by linarith)]
  ring

theorem quinticProgress_lt_half {width : ℝ} (positive : 0 < width) (le : width ≤ 1 / 2) :
    quinticProgress (1 / 2 - width) < 1 / 2 := by
  rw [quinticProgress_below_half positive.le le]
  have slope : 0 < 15 / 8 - 5 * width ^ 2 + 6 * width ^ 4 := by nlinarith [sq_nonneg (width ^ 2 - 5 / 12)]
  have product := mul_pos positive slope
  linarith

/-- Every turn of the bisection for one half takes the lower half. -/
theorem iterate_bisect_half (turns : ℕ) {width : ℝ} (positive : 0 < width) (le : width ≤ 1 / 2) :
    (bisect (1 / 2))^[turns] (1 / 2 - width, 1 / 2) = (1 / 2 - width / 2 ^ turns, 1 / 2) := by
  induction turns generalizing width with
  | zero => rw [Function.iterate_zero_apply, pow_zero, div_one]
  | succ turns ih =>
    have middle : (0.5 : ℝ) * (1 / 2 - width + 1 / 2) = 1 / 2 - width / 2 := by ring
    have turn : bisect (1 / 2) (1 / 2 - width, 1 / 2) = (1 / 2 - width / 2, 1 / 2) := by
      unfold bisect
      simp only [middle]
      rw [if_pos (quinticProgress_lt_half (by linarith) (by linarith))]
    rw [Function.iterate_succ_apply, turn, ih (by linarith) (by linarith), div_div, pow_succ']

/-- The bisection for one half ends a little below it. -/
theorem inverseQuinticProgress_half : inverseQuinticProgress (1 / 2) = 1 / 2 - 1 / 2 ^ 61 := by
  have first : bisect (1 / 2) (0, 1) = (1 / 2 - 1 / 2, 1 / 2) := by
    have middle : quinticProgress (1 / 2) = 1 / 2 := by
      have value := quinticProgress_below_half le_rfl (by norm_num)
      rwa [sub_zero, zero_mul, sub_zero] at value
    unfold bisect
    have center : (0.5 : ℝ) * (0 + 1) = 1 / 2 := by norm_num
    simp only [center, middle]
    rw [if_neg (lt_irrefl _), sub_self]
  unfold inverseQuinticProgress
  simp only [clampUnit_of_mem (show (0 : ℝ) ≤ 1 / 2 by norm_num) (by norm_num)]
  rw [Function.iterate_succ_apply, first, iterate_bisect_half 59 (by norm_num) le_rfl]
  norm_num

end Half

section Three

/-- Two segments of a path with the same values for every joint. -/
theorem sample_three (first second third timeAmount : ℝ) :
    ∃ value, sampleJointPath [everyJoint first, everyJoint second, everyJoint third] timeAmount = everyJoint value ∧
      ((quinticProgress timeAmount * 2 ≤ 1 ∧ value = first + quinticProgress timeAmount * 2 * (second - first)) ∨
        (1 ≤ quinticProgress timeAmount * 2 ∧
          value = second + (quinticProgress timeAmount * 2 - 1) * (third - second))) := by
  have two : 2 ≤ [everyJoint first, everyJoint second, everyJoint third].length := Nat.le_succ 2
  obtain ⟨lower, inside, below, above, sample⟩ := onPolyline_sample two timeAmount
  have position : samplePosition [everyJoint first, everyJoint second, everyJoint third] timeAmount =
      quinticProgress timeAmount * 2 := rfl
  rw [position] at below above sample
  have bound : lower < 2 := Nat.lt_of_succ_lt_succ inside
  obtain rfl | rfl : lower = 0 ∨ lower = 1 := by omega
  · refine ⟨first + quinticProgress timeAmount * 2 * (second - first), funext fun joint => ?_, .inl ⟨?_, rfl⟩⟩
    · rw [sample joint, Nat.cast_zero, sub_zero]
      rfl
    · rwa [Nat.cast_zero, zero_add] at above
  · refine ⟨second + (quinticProgress timeAmount * 2 - 1) * (third - second), funext fun joint => ?_, .inr ⟨?_, rfl⟩⟩
    · rw [sample joint, Nat.cast_one]
      rfl
    · rwa [Nat.cast_one] at below

/-- The time amount of the point in the middle of a path of three points. -/
def middleAmount : ℝ := 1 / 2 - 1 / 2 ^ 61

theorem middleAmount_mem : 1 / 2 - 1e-18 ≤ middleAmount ∧ middleAmount ≤ 1 / 2 := by
  constructor <;> norm_num [middleAmount]

/-- The sample there falls short of the point by a small share of the segment. -/
def shortfall : ℝ := 1 - quinticProgress middleAmount * 2

theorem shortfall_mem : 0 ≤ shortfall ∧ shortfall ≤ 1e-16 := by
  unfold shortfall middleAmount
  rw [quinticProgress_below_half (by norm_num) (by norm_num)]
  constructor <;> norm_num

theorem abs_div_le {value width bound : ℝ} (wide : 0.049 ≤ width) (small : |value| ≤ bound * 0.049)
    (nonneg : 0 ≤ bound) : |value / width| ≤ bound := by
  rw [abs_div, abs_of_pos (lt_of_lt_of_le (by norm_num) wide), div_le_iff₀ (lt_of_lt_of_le (by norm_num) wide)]
  exact small.trans (mul_le_mul_of_nonneg_left wide nonneg)

/-- Three knots with a small way, a twentieth of a second apart, keep the limits. -/
theorem stretchFactor_three {first second third : ℝ} (way : |second - first| + |third - second| ≤ 0.002) :
    ∃ factor, stretchFactor ⟨[everyJoint first, everyJoint second, everyJoint third],
      [0, middleAmount * 0.10, 0.10]⟩ 1 1.4 = .ok factor ∧ factor ≤ 1.0001 := by
  obtain ⟨low, high⟩ := middleAmount_mem
  have firstWide : (0.049 : ℝ) ≤ middleAmount * 0.10 - 0 := by linarith
  have secondWide : (0.049 : ℝ) ≤ 0.10 - middleAmount * 0.10 := by linarith
  have firstSmall := abs_nonneg (second - first)
  have secondSmall := abs_nonneg (third - second)
  have firstVelocity : |(second - first) / (middleAmount * 0.10 - 0)| ≤ |second - first| * 21 :=
    abs_div_le firstWide (by linarith) (by positivity)
  have secondVelocity : |(third - second) / (0.10 - middleAmount * 0.10)| ≤ |third - second| * 21 :=
    abs_div_le secondWide (by linarith) (by positivity)
  refine (stretchFactor_le_iff one_pos (by norm_num) (by norm_num)).mpr ⟨fun knot inside => ?_, ⟨?_, ?_, ?_⟩⟩
  · obtain rfl | rfl : knot = 0 ∨ knot = 1 := by
      have bound : knot + 1 < 3 := inside
      omega
    · exact sub_pos.mp (lt_of_lt_of_le (by norm_num) firstWide)
    · exact sub_pos.mp (lt_of_lt_of_le (by norm_num) secondWide)
  · intro knot inside joint
    obtain rfl | rfl : knot = 0 ∨ knot = 1 := by
      have bound : knot + 1 < 3 := inside
      omega
    · exact firstVelocity.trans (by linarith)
    · exact secondVelocity.trans (by linarith)
  · intro knot inside joint
    obtain rfl | rfl : knot = 0 ∨ knot = 1 := by
      have bound : knot + 1 < 3 := inside
      omega
    · refine abs_div_le firstWide ?_ (by norm_num)
      rw [knotVelocity, Pi.zero_apply, sub_zero]
      exact firstVelocity.trans (by linarith)
    · refine abs_div_le ?_ ?_ (show (0 : ℝ) ≤ 1.0001 ^ 2 * 1.4 by norm_num)
      · change (0.049 : ℝ) ≤ 0.5 * (0.10 - middleAmount * 0.10 + middleAmount * 0.10 - 0)
        norm_num
      · exact (abs_sub _ _).trans ((add_le_add secondVelocity firstVelocity).trans (by linarith))
  · intro joint
    refine abs_div_le secondWide ?_ (by norm_num)
    exact secondVelocity.trans (by linarith)

theorem mandatoryAmounts_three (first second third : JointPoint) :
    mandatoryAmounts [first, second, third] = [0, middleAmount, 1] := by
  have half : ((1 : ℕ) : ℝ) / ((3 - 1 : ℕ) : ℝ) = 1 / 2 := by norm_num
  have middle : inverseQuinticProgress (((1 : ℕ) : ℝ) / ((3 - 1 : ℕ) : ℝ)) = middleAmount := by
    rw [half, inverseQuinticProgress_half]
    rfl
  exact congrArg (fun amount => [0, amount, 1]) middle

/-- A short way through three points, with knots at the points alone. -/
theorem timeParameterize_three {first second third value : ℝ} (way : |second - first| + |third - second| ≤ 0.002)
    (sample : sampleJointPath [everyJoint first, everyJoint second, everyJoint third] middleAmount =
      everyJoint value)
    (knots : |value - first| + |third - value| ≤ 0.002)
    (early : ∀ joint, |sampleJointPath [everyJoint first, everyJoint second, everyJoint third]
      (0.5 * (0 + middleAmount)) joint - 0.5 * (first + value)| ≤ 0.001 + 1e-12)
    (late : ∀ joint, |sampleJointPath [everyJoint first, everyJoint second, everyJoint third]
      (0.5 * (middleAmount + 1)) joint - 0.5 * (value + third)| ≤ 0.001 + 1e-12) :
    timeParameterize [everyJoint first, everyJoint second, everyJoint third] 1 1.4 =
      .ok ⟨[everyJoint first, everyJoint value, everyJoint third], [0, middleAmount * 0.10, 0.10]⟩ := by
  obtain ⟨low, high⟩ := middleAmount_mem
  have firstSmall := abs_nonneg (value - first)
  have secondSmall := abs_nonneg (third - value)
  have variation : largest (jointVariation [everyJoint first, everyJoint second, everyJoint third]) ≤ 0.002 := by
    refine largest_le (by norm_num) fun joint => ?_
    have sum : jointVariation [everyJoint first, everyJoint second, everyJoint third] joint =
        |second - first| + |third - second| := by
      simp [jointVariation, everyJoint]
    rw [sum, abs_of_nonneg (by positivity)]
    exact way
  have duration : max 0.10 (max (1.875 * largest (jointVariation [everyJoint first, everyJoint second,
      everyJoint third]) / 1) √(6 * largest (jointVariation [everyJoint first, everyJoint second,
        everyJoint third]) / 1.4)) = 0.10 := by
    refine max_eq_left (max_le (by linarith) (Real.sqrt_le_iff.mpr ⟨by norm_num, ?_⟩))
    rw [div_le_iff₀ (by norm_num)]
    linarith
  have firstSegment : appendSegment [everyJoint first, everyJoint second, everyJoint third] 0.10
      ⟨⟨[everyJoint first], [0]⟩, 1⟩ 0 =
        .ok ⟨⟨[everyJoint first, everyJoint value], [0, middleAmount * 0.10]⟩, 1⟩ := by
    unfold appendSegment
    simp only [mandatoryAmounts_three, if_true]
    rw [if_neg (by decide)]
    refine (congrArg (fun finish => appendInterval _ _ _ _ _ _ finish _) sample).trans ?_
    refine appendInterval_close (show 1 ≤ 30000 - 3 by norm_num) ?_ ?_ (fun joint => ?_) early
    · change (0.004 : ℝ) ≤ (middleAmount - 0) * 0.10
      linarith
    · change (middleAmount - 0) * 0.10 ≤ (0.050 + 1e-12 : ℝ)
      linarith
    · change |value - first| ≤ 0.020
      linarith
  have secondSegment : appendSegment [everyJoint first, everyJoint second, everyJoint third] 0.10
      ⟨⟨[everyJoint first, everyJoint value], [0, middleAmount * 0.10]⟩, 1⟩ 1 =
        .ok ⟨⟨[everyJoint first, everyJoint value, everyJoint third], [0, middleAmount * 0.10, 1 * 0.10]⟩, 1⟩ := by
    unfold appendSegment
    simp only [mandatoryAmounts_three]
    rw [if_neg one_ne_zero, if_pos (show 1 + 2 = [0, middleAmount, 1].length from rfl)]
    refine (congrArg (fun start => appendInterval _ _ _ _ start _ _ _) sample).trans ?_
    refine appendInterval_close (show 2 ≤ 30000 - 3 by norm_num) ?_ ?_ (fun joint => ?_) late
    · change (0.004 : ℝ) ≤ (1 - middleAmount) * 0.10
      linarith
    · change (1 - middleAmount) * 0.10 ≤ (0.050 + 1e-12 : ℝ)
      linarith
    · change |third - value| ≤ 0.020
      linarith
  obtain ⟨factor, stretched, slow⟩ := stretchFactor_three knots
  have attempted : attemptTiming [everyJoint first, everyJoint second, everyJoint third] 1 1.4 0.10 =
      .ok (⟨[everyJoint first, everyJoint value, everyJoint third], [0, middleAmount * 0.10, 0.10]⟩, 1) := by
    unfold attemptTiming
    rw [mandatoryAmounts_three]
    change (appendSegment _ _ ⟨⟨[everyJoint first], [0]⟩, 1⟩ 0 >>= fun state =>
      appendSegment _ _ state 1 >>= fun state => pure state) >>= _ = _
    rw [firstSegment, ok_bind, secondSegment, ok_bind, pure_eq_ok, ok_bind]
    change stretchFactor ⟨[everyJoint first, everyJoint value, everyJoint third], [0, middleAmount * 0.10, 0.10]⟩ 1 1.4
      >>= _ = _
    rw [stretched, ok_bind, if_neg (not_lt.mpr slow)]
    rfl
  unfold timeParameterize
  have several : ¬ [everyJoint first, everyJoint second, everyJoint third].length < 2 := Nat.not_lt.mpr (Nat.le_succ 2)
  rw [if_neg (by norm_num), if_neg several]
  simp only
  rw [duration]
  exact timingLoop_succ (by norm_num) (by norm_num) attempted

/-- A piece that moves in its second half. -/
theorem timeParameterize_rise : timeParameterize [everyJoint 0, everyJoint 0, everyJoint 0.002] 1 1.4 =
    .ok ⟨[everyJoint 0, everyJoint 0, everyJoint 0.002], [0, middleAmount * 0.10, 0.10]⟩ := by
  have small := shortfall_mem.1
  have center := middleAmount_mem
  unfold shortfall at small
  refine timeParameterize_three (by norm_num) ?_ (by norm_num) (fun joint => ?_) (fun joint => ?_)
  · obtain ⟨value, sample, ⟨-, same⟩ | ⟨beyond, same⟩⟩ := sample_three 0 0 0.002 middleAmount
    · rw [sample, same, sub_zero, mul_zero, add_zero]
    · have position : quinticProgress middleAmount * 2 = 1 := by linarith
      rw [sample, same, position, sub_self, zero_mul, add_zero]
  · obtain ⟨value, sample, place⟩ := sample_three 0 0 0.002 (0.5 * (0 + middleAmount))
    have before : quinticProgress (0.5 * (0 + middleAmount)) ≤ quinticProgress middleAmount :=
      quinticProgress_mono (by linarith)
    have still : value = 0 := by
      rcases place with ⟨-, same⟩ | ⟨beyond, same⟩
      · rw [same, sub_zero, mul_zero, add_zero]
      · have position : quinticProgress (0.5 * (0 + middleAmount)) * 2 = 1 := by linarith
        rw [same, position, sub_self, zero_mul, add_zero]
    rw [sample, still, everyJoint]
    norm_num
  · obtain ⟨value, sample, place⟩ := sample_three 0 0 0.002 (0.5 * (middleAmount + 1))
    have unit := quinticProgress_mem (0.5 * (middleAmount + 1))
    have within : 0 ≤ value ∧ value ≤ 0.002 := by
      rcases place with ⟨-, same⟩ | ⟨beyond, same⟩ <;> constructor <;> linarith
    rw [sample, everyJoint, abs_le]
    constructor <;> linarith

theorem timeParameterize_plan_rise : TimedPlan [everyJoint 0, everyJoint 0, everyJoint 0.002] 1 1.4
    ⟨[everyJoint 0, everyJoint 0, everyJoint 0.002], [0, middleAmount * 0.10, 0.10]⟩ :=
  timeParameterize_plan timeParameterize_rise

/-- A piece that moves in its first half. -/
theorem timeParameterize_fall : timeParameterize [everyJoint 0.002, everyJoint 0, everyJoint 0] 1 1.4 =
    .ok ⟨[everyJoint 0.002, everyJoint (shortfall * 0.002), everyJoint 0], [0, middleAmount * 0.10, 0.10]⟩ := by
  obtain ⟨nonneg, small⟩ := shortfall_mem
  have center := middleAmount_mem
  have position : quinticProgress middleAmount * 2 = 1 - shortfall := by
    rw [shortfall, sub_sub_cancel]
  refine timeParameterize_three (by norm_num) ?_ ?_ (fun joint => ?_) (fun joint => ?_)
  · obtain ⟨value, sample, ⟨-, same⟩ | ⟨beyond, same⟩⟩ := sample_three 0.002 0 0 middleAmount
    · rw [sample, same, position]
      exact congrArg everyJoint (by ring)
    · have none : shortfall = 0 := by linarith
      rw [sample, same, none, sub_zero, mul_zero, zero_mul, add_zero]
  · rw [abs_of_nonpos (by linarith), abs_of_nonpos (by linarith)]
    linarith
  · obtain ⟨value, sample, place⟩ := sample_three 0.002 0 0 (0.5 * (0 + middleAmount))
    have unit := quinticProgress_mem (0.5 * (0 + middleAmount))
    have within : 0 ≤ value ∧ value ≤ 0.002 := by
      rcases place with ⟨beyond, same⟩ | ⟨-, same⟩ <;> constructor <;> linarith
    rw [sample, everyJoint, abs_le]
    constructor <;> linarith
  · obtain ⟨value, sample, place⟩ := sample_three 0.002 0 0 (0.5 * (middleAmount + 1))
    have after : quinticProgress middleAmount ≤ quinticProgress (0.5 * (middleAmount + 1)) :=
      quinticProgress_mono (by linarith)
    have within : 0 ≤ value ∧ value ≤ shortfall * 0.002 := by
      rcases place with ⟨beyond, same⟩ | ⟨-, same⟩ <;> constructor <;> linarith
    rw [sample, everyJoint, abs_le]
    constructor <;> linarith

end Three

/-- Two pieces with knots at their points alone make a plan. -/
theorem timeParameterizePiecewise_two {a b c d e a' b' c' d' e' : JointPoint} {times times' : List ℝ}
    (first : timeParameterize [a, b, c] 1 1.4 = .ok ⟨[a', b', c'], times⟩)
    (second : timeParameterize [c, d, e] 1 1.4 = .ok ⟨[c', d', e'], times'⟩) :
    ∃ plan, timeParameterizePiecewise [a, b, c, d, e] [0, 2, 4] 1 1.4 = .ok plan := by
  have opened (state : TimedJointPath × ℝ) : ∃ state', state'.1.points.length = state.1.points.length + 3 ∧
      appendPiece [a, b, c, d, e] [0, 2, 4] 1 1.4 state 0 = .ok state' := by
    unfold appendPiece
    rw [if_neg (by decide)]
    change ∃ state', _ ∧ timeParameterize [a, b, c] 1 1.4 >>= _ = _
    rw [first]
    exact ⟨_, List.length_append, rfl⟩
  have closed (state : TimedJointPath × ℝ) : ∃ state', state'.1.points.length = state.1.points.length + 2 ∧
      appendPiece [a, b, c, d, e] [0, 2, 4] 1 1.4 state 1 = .ok state' := by
    unfold appendPiece
    rw [if_neg (by decide)]
    change ∃ state', _ ∧ timeParameterize [c, d, e] 1 1.4 >>= _ = _
    rw [second]
    exact ⟨_, List.length_append, rfl⟩
  obtain ⟨middle, before, forth⟩ := opened (⟨[], []⟩, 0)
  obtain ⟨final, after, back⟩ := closed middle
  have few : ¬ 30000 < final.1.points.length := by
    rw [after, before]
    decide
  unfold timeParameterizePiecewise
  rw [if_neg (by simp)]
  change ∃ plan, (appendPiece [a, b, c, d, e] [0, 2, 4] 1 1.4 (⟨[], []⟩, 0) 0 >>= fun state =>
    appendPiece [a, b, c, d, e] [0, 2, 4] 1 1.4 state 1 >>= fun state => pure state) >>= _ = Except.ok plan
  rw [forth, ok_bind, back, ok_bind, pure_eq_ok, ok_bind]
  simp only [if_neg few]
  exact ⟨_, rfl⟩

/-- All joints move two milliradians away and back, with a rest at both ends. -/
def thereAndBack : List JointPoint :=
  [everyJoint 0, everyJoint 0, everyJoint 0.002, everyJoint 0, everyJoint 0]

/-- All joints move two milliradians back and away, with a rest in between. -/
def backAndThere : List JointPoint :=
  [everyJoint 0.002, everyJoint 0, everyJoint 0, everyJoint 0, everyJoint 0.002]

theorem timeParameterizePiecewise_thereAndBack :
    ∃ plan, timeParameterizePiecewise thereAndBack [0, 2, 4] 1 1.4 = .ok plan :=
  timeParameterizePiecewise_two timeParameterize_rise timeParameterize_fall

theorem timeParameterizePiecewise_backAndThere :
    ∃ plan, timeParameterizePiecewise backAndThere [0, 2, 4] 1 1.4 = .ok plan :=
  timeParameterizePiecewise_two timeParameterize_fall timeParameterize_rise

/-- At the point where the joints rest, both velocities are nearly zero. -/
theorem smoothJunctions_backAndThere : SmoothJunctions backAndThere [0, 2, 4] 1 1.4 := by
  intro segment inside before after first second joint
  obtain rfl : segment = 0 := by
    have bound : segment + 2 < 3 := inside
    omega
  obtain rfl := Except.ok.inj (timeParameterize_fall.symm.trans first)
  obtain rfl := Except.ok.inj (timeParameterize_rise.symm.trans second)
  obtain ⟨low, high⟩ := middleAmount_mem
  obtain ⟨nonneg, small⟩ := shortfall_mem
  change |((0 - 0) / (middleAmount * 0.10 - 0) - (0 - shortfall * 0.002) / (0.10 - middleAmount * 0.10)) /
    (0.5 * (middleAmount * 0.10 - 0 + 0.10 - middleAmount * 0.10))| ≤ 1.0001 ^ 2 * 1.4
  have interval : (0.5 : ℝ) * (middleAmount * 0.10 - 0 + 0.10 - middleAmount * 0.10) = 0.05 := by ring
  have slow : |(0 - shortfall * 0.002) / (0.10 - middleAmount * 0.10)| ≤ 0.05 := by
    refine abs_div_le (by linarith) ?_ (by norm_num)
    rw [zero_sub, abs_neg, abs_of_nonneg (by linarith)]
    linarith
  rw [interval, sub_self, zero_div, zero_sub]
  refine abs_div_le (by norm_num) ?_ (by norm_num)
  rw [abs_neg]
  exact slow.trans (by norm_num)

/-- At the point where the way turns, the velocities differ by more than the acceleration limit allows. -/
theorem not_smoothJunctions_thereAndBack : ¬ SmoothJunctions thereAndBack [0, 2, 4] 1 1.4 := by
  intro smooth
  have turn := smooth 0 (by decide) _ _ timeParameterize_rise timeParameterize_fall 0
  obtain ⟨low, high⟩ := middleAmount_mem
  obtain ⟨nonneg, small⟩ := shortfall_mem
  change |((shortfall * 0.002 - 0.002) / (middleAmount * 0.10 - 0) - (0.002 - 0) / (0.10 - middleAmount * 0.10)) /
    (0.5 * (middleAmount * 0.10 - 0 + 0.10 - middleAmount * 0.10))| ≤ 1.0001 ^ 2 * 1.4 at turn
  have interval : (0.5 : ℝ) * (middleAmount * 0.10 - 0 + 0.10 - middleAmount * 0.10) = 0.05 := by ring
  have fall : (shortfall * 0.002 - 0.002) / (middleAmount * 0.10 - 0) ≤ -0.0399 := by
    rw [div_le_iff₀ (by linarith)]
    linarith
  have rise : 0.0399 ≤ (0.002 - 0) / (0.10 - middleAmount * 0.10) := by
    rw [le_div_iff₀ (by linarith)]
    linarith
  have bound := (abs_le.mp turn).1
  rw [interval, le_div_iff₀ (by norm_num)] at bound
  linarith

/-! ## The promises of a plan -/

/-- A returned plan of pieces keeps its promises if and only if the pieces meet smoothly. -/
theorem piecewisePlan_iff_smoothJunctions {path : List JointPoint} {controlPointIndices : List ℕ}
    {maximumVelocity maximumAcceleration : ℝ} {plan : TimedJointPath}
    (ok : timeParameterizePiecewise path controlPointIndices maximumVelocity maximumAcceleration = .ok plan) :
    PiecewisePlan path controlPointIndices maximumVelocity maximumAcceleration plan ↔
      SmoothJunctions path controlPointIndices maximumVelocity maximumAcceleration := by
  obtain ⟨count, length, -, last, assembled⟩ := assembled_of_ok ok
  have one_le : (1 : ℝ) ≤ 1.0001 := by norm_num
  obtain ⟨velocity_pos, acceleration_pos, -⟩ := timedPlan_of_ok (assembled.parameterized 0 (Nat.succ_pos count))
  rw [← assembled.withinLimits_iff length]
  constructor
  · intro promises
    exact ((stretchFactor_le_iff velocity_pos acceleration_pos one_le).mp promises.stretch).2
  · intro within
    refine ⟨?_, ?_, _, assembled.visits length last⟩
    · exact (stretchFactor_le_iff velocity_pos acceleration_pos one_le).mpr ⟨assembled.increasing, within⟩
    · exact (pairwise_iff_increasing plan.timestamps).mpr (assembled.joined.lengths.symm ▸ assembled.increasing)

/-- The plan of the way there and back turns too fast. -/
theorem thereAndBack_tooFast : ∃ plan, timeParameterizePiecewise thereAndBack [0, 2, 4] 1 1.4 = .ok plan ∧
    ¬ PiecewisePlan thereAndBack [0, 2, 4] 1 1.4 plan := by
  obtain ⟨plan, ok⟩ := timeParameterizePiecewise_thereAndBack
  refine ⟨plan, ok, fun promises => not_smoothJunctions_thereAndBack ?_⟩
  obtain ⟨count, length, -, -, assembled⟩ := assembled_of_ok ok
  rw [← assembled.withinLimits_iff length]
  exact ((stretchFactor_le_iff one_pos (by norm_num) (by norm_num)).mp promises.stretch).2

/-- The way back and there keeps its promises. -/
theorem piecewisePlan_thereAndBack :
    (∃ plan, timeParameterizePiecewise thereAndBack [0, 2, 4] 1 1.4 = .ok plan ∧
      (PiecewisePlan thereAndBack [0, 2, 4] 1 1.4 plan ↔ SmoothJunctions thereAndBack [0, 2, 4] 1 1.4)) ∧
    ∃ plan, timeParameterizePiecewise backAndThere [0, 2, 4] 1 1.4 = .ok plan ∧
      PiecewisePlan backAndThere [0, 2, 4] 1 1.4 plan := by
  obtain ⟨plan, ok⟩ := timeParameterizePiecewise_thereAndBack
  obtain ⟨smooth, ok'⟩ := timeParameterizePiecewise_backAndThere
  exact ⟨⟨plan, ok, piecewisePlan_iff_smoothJunctions ok⟩, smooth, ok',
    (piecewisePlan_iff_smoothJunctions ok').mpr smoothJunctions_backAndThere⟩

end

end MotorDrive.Cartesian
