import MotorDrive.Cartesian.Piecewise

/-!
# Schedules

What the time laws of the Cartesian planner have in common, whether a joint path is timed as one piece or as several,
and whether or not an approach precedes it: the knots lead along the path from its first point to its last one.
-/

namespace MotorDrive.Cartesian

open Validate

noncomputable section

/-- A time and the positions of the joints. -/
abbrev Knot := ℝ × JointPoint

def TimedJointPath.knots (timed : TimedJointPath) : List Knot := timed.timestamps.zip timed.points

/-- From a knot to the next one. -/
structure KnotStep (path : List JointPoint) (maximumVelocity : ℝ) (first second : Knot) : Prop where
  long : 0.004 - 1e-12 ≤ second.1 - first.1
  short : second.1 - first.1 ≤ 0.050 + 1e-12
  step : ∀ joint, |second.2 joint - first.2 joint| ≤ 0.020 + 1e-12
  velocity : ∀ joint, |second.2 joint - first.2 joint| ≤ 1.0001 * maximumVelocity * (second.1 - first.1)
  along : ∃ before after, before ≤ after ∧ OnPolyline path before first.2 ∧ OnPolyline path after second.2

/-- Knots along a path, from its first point at time zero to its last one. -/
structure Schedule (path : List JointPoint) (maximumVelocity duration : ℝ) (knots : List Knot) : Prop where
  first : ∃ point, path.head? = some point ∧ knots.head? = some (0, point)
  last : ∃ point, path.getLast? = some point ∧ knots.getLast? = some (duration, point)
  several : 2 ≤ knots.length
  steps : knots.IsChain (KnotStep path maximumVelocity)

/-! ## Longer paths -/

section Longer

variable {path : List JointPoint} {position maximumVelocity : ℝ} {point : JointPoint} {first second : Knot}

theorem OnPolyline.append (on : OnPolyline path position point) (more : List JointPoint) :
    OnPolyline (path ++ more) position point := by
  obtain ⟨lower, inside, above, below, same⟩ := on
  refine ⟨lower, ?_, above, below, fun joint => ?_⟩
  · rw [List.length_append]
    omega
  · rw [List.getD_append _ _ _ _ (Nat.lt_of_succ_lt inside), List.getD_append _ _ _ _ inside]
    exact same joint

theorem OnPolyline.prepend (on : OnPolyline path position point) (earlier : List JointPoint) :
    OnPolyline (earlier ++ path) (earlier.length + position) point := by
  obtain ⟨lower, inside, above, below, same⟩ := on
  refine ⟨earlier.length + lower, ?_, ?_, ?_, fun joint => ?_⟩
  · rw [List.length_append]
    omega
  · push_cast
    linarith
  · push_cast
    linarith
  · rw [Nat.add_assoc, List.getD_append_right _ _ _ _ (Nat.le_add_right _ _), Nat.add_sub_cancel_left,
      List.getD_append_right _ _ _ _ (Nat.le_add_right _ _), Nat.add_sub_cancel_left]
    push_cast
    rw [add_sub_add_left_eq_sub]
    exact same joint

theorem KnotStep.append (next : KnotStep path maximumVelocity first second) (more : List JointPoint) :
    KnotStep (path ++ more) maximumVelocity first second := by
  obtain ⟨before, after, le, on, on'⟩ := next.along
  exact { next with along := ⟨before, after, le, on.append more, on'.append more⟩ }

theorem KnotStep.prepend (next : KnotStep path maximumVelocity first second) (earlier : List JointPoint) :
    KnotStep (earlier ++ path) maximumVelocity first second := by
  obtain ⟨before, after, le, on, on'⟩ := next.along
  exact { next with
    along := ⟨_, _, add_le_add_right le earlier.length, on.prepend earlier, on'.prepend earlier⟩ }

/-- Later by the same time. -/
theorem KnotStep.shift (next : KnotStep path maximumVelocity first second) (offset : ℝ) :
    KnotStep path maximumVelocity (offset + first.1, first.2) (offset + second.1, second.2) where
  long := by rw [add_sub_add_left_eq_sub]; exact next.long
  short := by rw [add_sub_add_left_eq_sub]; exact next.short
  step := next.step
  velocity joint := by rw [add_sub_add_left_eq_sub]; exact next.velocity joint
  along := next.along

theorem KnotStep.lt (next : KnotStep path maximumVelocity first second) : first.1 < second.1 := by
  have long := next.long
  norm_num at long
  linarith

end Longer

/-! ## The number of knots -/

section Capacity

variable {path : List JointPoint} {maximumVelocity maximumAcceleration duration : ℝ} {plan : TimedJointPath}

/-- No interval takes more than the capacity. -/
theorem appendInterval_length {depthLeft : ℕ} {startAmount endAmount : ℝ} {start finish : JointPoint}
    {state state' : KnotState}
    (ok : appendInterval path duration depthLeft startAmount start endAmount finish state = .ok state') :
    state'.result.points.length ≤ 29998 := by
  induction depthLeft generalizing startAmount endAmount start finish state state' with
  | zero =>
    unfold appendInterval at ok
    simp only at ok
    split_ifs at ok with full split short <;> cases ok <;> simp [KnotState.push, KnotState.require] <;> omega
  | succ depthLeft ih =>
    unfold appendInterval at ok
    simp only at ok
    split_ifs at ok with full split short short
    · cases ok
      simp [KnotState.push, KnotState.require]
      omega
    · obtain ⟨middle, -, rest⟩ := bind_eq_ok ok
      exact ih rest
    · cases ok
      simp [KnotState.push, KnotState.require]
      omega
    · cases ok
      simp [KnotState.push]
      omega

theorem attemptTiming_length {scale : ℝ}
    (ok : attemptTiming path maximumVelocity maximumAcceleration duration = .ok (plan, scale)) :
    plan.points.length ≤ 29998 := by
  obtain ⟨state, folded, rest⟩ := bind_eq_ok ok
  obtain ⟨factor, -, returned⟩ := bind_eq_ok rest
  cases returned
  obtain ⟨states, -, finish, steps⟩ := foldlM_eq_ok folded
  rw [List.length_range, length_mandatoryAmounts] at finish
  rw [length_mandatoryAmounts] at steps
  have last := steps (path.length - 2) (path.length - 2) (List.getElem?_range (by omega))
  rw [List.length_set, List.length_set, ← finish]
  exact appendInterval_length last

theorem timingLoop_length {attempts : ℕ}
    (ok : timingLoop path maximumVelocity maximumAcceleration attempts duration = .ok plan) :
    plan.points.length ≤ 29998 := by
  induction attempts generalizing duration with
  | zero => cases ok
  | succ attempts ih =>
    unfold timingLoop at ok
    split_ifs at ok with long
    obtain ⟨⟨result, scale⟩, attempted, rest⟩ := bind_eq_ok ok
    simp only at rest
    split_ifs at rest
    · cases rest
      exact attemptTiming_length attempted
    · exact ih rest

/-- A plan of one piece fits into a request. -/
theorem timeParameterize_length (ok : timeParameterize path maximumVelocity maximumAcceleration = .ok plan) :
    plan.points.length ≤ 29998 := by
  unfold timeParameterize at ok
  split_ifs at ok
  exact timingLoop_length ok

/-- So does a plan of several pieces. -/
theorem timeParameterizePiecewise_length {controlPointIndices : List ℕ}
    (ok : timeParameterizePiecewise path controlPointIndices maximumVelocity maximumAcceleration = .ok plan) :
    plan.points.length ≤ 30000 := by
  unfold timeParameterizePiecewise at ok
  split_ifs at ok
  obtain ⟨⟨result, offset⟩, -, rest⟩ := bind_eq_ok ok
  simp only at rest
  split_ifs at rest with many
  cases rest
  exact not_lt.mp many

end Capacity

/-! ## One piece -/

section Piece

variable {path : List JointPoint} {maximumVelocity maximumAcceleration : ℝ} {plan : TimedJointPath}

theorem knots_getElem? (lengths : plan.timestamps.length = plan.points.length) {knot : ℕ}
    (inside : knot < plan.points.length) : plan.knots[knot]? = some (plan.time knot, plan.point knot) := by
  rw [TimedJointPath.knots, List.getElem?_zip_eq_some, TimedJointPath.time, TimedJointPath.point,
    List.getD_eq_getElem _ _ inside, List.getD_eq_getElem _ _ (lengths ▸ inside)]
  exact ⟨List.getElem?_eq_getElem _, List.getElem?_eq_getElem _⟩

theorem length_knots (lengths : plan.timestamps.length = plan.points.length) :
    plan.knots.length = plan.points.length := by
  rw [TimedJointPath.knots, List.length_zip, lengths, min_self]

/-- A schedule from what holds of each knot and the next one. -/
theorem schedule_of_steps (lengths : plan.timestamps.length = plan.points.length) (several : 2 ≤ plan.points.length)
    (zero : plan.time 0 = 0) (first : plan.points.head? = path.head?) (last : plan.points.getLast? = path.getLast?)
    (steps : ∀ knot, knot + 1 < plan.points.length → KnotStep path maximumVelocity
      (plan.time knot, plan.point knot) (plan.time (knot + 1), plan.point (knot + 1))) :
    Schedule path maximumVelocity (plan.time (plan.points.length - 1)) plan.knots where
  first := by
    refine ⟨plan.point 0, first.symm.trans ?_, ?_⟩
    · rw [List.head?_eq_getElem?, TimedJointPath.point, List.getD_eq_getElem _ _ (by omega)]
      exact List.getElem?_eq_getElem _
    · rw [List.head?_eq_getElem?, knots_getElem? lengths (by omega), zero]
  last := by
    refine ⟨plan.point (plan.points.length - 1), last.symm.trans ?_, ?_⟩
    · rw [List.getLast?_eq_getElem?, TimedJointPath.point, List.getD_eq_getElem _ _ (by omega)]
      exact List.getElem?_eq_getElem (by omega)
    · rw [List.getLast?_eq_getElem?, length_knots lengths, knots_getElem? lengths (by omega)]
  several := (length_knots lengths).symm ▸ several
  steps := by
    rw [List.isChain_iff_getElem]
    intro knot inside
    rw [length_knots lengths] at inside
    rw [(List.getElem?_eq_some_iff.mp (knots_getElem? lengths (Nat.lt_of_succ_lt inside))).2,
      (List.getElem?_eq_some_iff.mp (knots_getElem? lengths inside)).2]
    exact steps knot inside

/-- A knot of a plan and the next one. -/
theorem TimedPlan.step_knot (promises : TimedPlan path maximumVelocity maximumAcceleration plan) {knot : ℕ}
    (inside : knot + 1 < plan.points.length) : KnotStep path maximumVelocity
      (plan.time knot, plan.point knot) (plan.time (knot + 1), plan.point (knot + 1)) := by
  obtain ⟨position, on, ordered⟩ := promises.polyline
  obtain ⟨long, short⟩ := promises.interval knot inside
  have positive : 0 < plan.time (knot + 1) - plan.time knot := lt_of_lt_of_le (by norm_num) long
  refine ⟨long, short, promises.step knot inside, fun joint => ?_, position knot, position (knot + 1),
    ordered knot inside, on knot (Nat.lt_of_succ_lt inside), on (knot + 1) inside⟩
  have velocity := promises.limits.velocity knot inside joint
  rw [knotVelocity, abs_div, abs_of_pos positive, div_le_iff₀ positive] at velocity
  exact velocity

/-- The knots of a plan of one piece. -/
theorem TimedPlan.schedule (promises : TimedPlan path maximumVelocity maximumAcceleration plan) :
    Schedule path maximumVelocity (plan.time (plan.points.length - 1)) plan.knots :=
  schedule_of_steps promises.lengths promises.several promises.time_zero promises.first promises.last
    fun _ inside => promises.step_knot inside

/-- The duration of a plan of one piece. -/
theorem TimedPlan.duration_le (promises : TimedPlan path maximumVelocity maximumAcceleration plan) :
    plan.time (plan.points.length - 1) ≤ 60 := by
  have several := promises.several
  have inside : plan.points.length - 1 < plan.timestamps.length := by
    rw [promises.lengths]
    omega
  rw [TimedJointPath.time, List.getD_eq_getElem _ _ inside]
  exact promises.finish _ (List.getElem_mem inside)

end Piece

/-! ## Several pieces -/

section Pieces

variable {path : List JointPoint} {controlPointIndices : List ℕ} {maximumVelocity maximumAcceleration : ℝ}
  {plan : TimedJointPath}

/-- The step between two knots of a piece is one along the path. -/
theorem KnotStep.of_piece {segment : ℕ} {first second : Knot}
    (next : KnotStep (piece path controlPointIndices segment) maximumVelocity first second) :
    KnotStep path maximumVelocity first second := by
  have whole : path.take (controlPointIndices.getD segment 0) ++ (piece path controlPointIndices segment ++
      (path.drop (controlPointIndices.getD segment 0)).drop
        (controlPointIndices.getD (segment + 1) 0 + 1 - controlPointIndices.getD segment 0)) = path := by
    rw [piece, List.take_append_drop, List.take_append_drop]
  exact whole ▸ (next.append _).prepend _

/-- A plan of several pieces starts at time zero. -/
theorem time_zero_of_pieces
    (ok : timeParameterizePiecewise path controlPointIndices maximumVelocity maximumAcceleration = .ok plan) :
    plan.time 0 = 0 := by
  unfold timeParameterizePiecewise at ok
  split_ifs at ok with wrong
  obtain ⟨⟨result, offset⟩, folded, rest⟩ := bind_eq_ok ok
  obtain ⟨states, start, finish, steps⟩ := foldlM_eq_ok folded
  rw [List.length_range] at finish
  have turn (segment : ℕ) (below : segment < controlPointIndices.length - 1) :=
    appendPiece_ok (steps segment segment (List.getElem?_range below))
  have zero (segment : ℕ) (below : segment < controlPointIndices.length - 1) :
      (states (segment + 1)).1.timestamps.head? = some 0 := by
    induction segment with
    | zero =>
      obtain ⟨-, parameterized, made⟩ := turn 0 below
      have timed := (timedPlan_of_ok parameterized).2.2
      refine (congrArg (fun state : TimedJointPath × ℝ => state.1.timestamps.head?) made).trans ?_
      simp only [start, if_pos, List.drop_zero, List.nil_append, List.head?_map, timed.start, Option.map_some, zero_add]
    | succ segment ih =>
      have earlier := ih (Nat.lt_of_succ_lt below)
      obtain ⟨-, -, made⟩ := turn (segment + 1) below
      refine (congrArg (fun state : TimedJointPath × ℝ => state.1.timestamps.head?) made).trans ?_
      exact (List.head?_append_of_ne_nil _ (List.ne_nil_of_mem (List.mem_of_mem_head? earlier))).trans earlier
  have several : controlPointIndices.length - 1 = controlPointIndices.length - 2 + 1 := by omega
  have ends := zero (controlPointIndices.length - 2) (by omega)
  rw [← several, finish] at ends
  simp only at rest
  split_ifs at rest
  cases rest
  rw [TimedJointPath.time, ← headD_eq_getD, List.headD_eq_head?_getD, ends]
  rfl

/-- The knots of a plan of several pieces. -/
theorem schedule_of_pieces
    (ok : timeParameterizePiecewise path controlPointIndices maximumVelocity maximumAcceleration = .ok plan) :
    Schedule path maximumVelocity (plan.time (plan.points.length - 1)) plan.knots := by
  obtain ⟨count, length, first, last, assembled⟩ := assembled_of_ok ok
  have visits := assembled.visits length last
  have joined := assembled.joined
  have several : 2 ≤ plan.points.length := by
    have next := visit_lt (Nat.succ_pos count) (assembled.timed (Nat.succ_pos count)).several
    rw [← joined.finish]
    exact Nat.succ_le_succ (Nat.one_le_of_lt next)
  refine schedule_of_steps joined.lengths several ?_ ?_ ?_ fun knot inside => ?_
  · exact time_zero_of_pieces ok
  · have start := visits.control 0 (by omega)
    rw [visits.start, first] at start
    rw [List.head?_eq_getElem?, List.head?_eq_getElem?, start]
  · have finish := visits.control (controlPointIndices.length - 1) (by omega)
    rw [List.getLast?_eq_getElem?, List.getLast?_eq_getElem?, ← visits.finish, ← last, Nat.add_sub_cancel,
      Nat.add_sub_cancel, finish, length]
    rfl
  · rw [← joined.finish] at inside
    obtain ⟨segment, below, place, within, rfl⟩ := exists_piece (Nat.lt_of_succ_lt_succ inside)
    have earlier := Nat.lt_of_succ_lt within
    have next := ((assembled.timed below).step_knot within).of_piece.shift
      (plan.time (visit (pieceTiming path controlPointIndices maximumVelocity maximumAcceleration) segment))
    rw [← joined.times segment below place earlier, ← joined.times segment below (place + 1) within,
      ← joined.point below earlier, ← joined.point below within] at next
    exact next

end Pieces

/-! ## One path behind another -/

/-- A knot at a later time. -/
def later (offset : ℝ) (knot : Knot) : Knot := (offset + knot.1, knot.2)

/-- The knots of two schedules, of which the second one starts where the first one ends. -/
theorem Schedule.join {path path' : List JointPoint} {maximumVelocity duration duration' : ℝ} {knots knots' : List Knot}
    (schedule : Schedule path maximumVelocity duration knots)
    (schedule' : Schedule path' maximumVelocity duration' knots') (meets : path.getLast? = path'.head?) :
    Schedule (path.dropLast ++ path') maximumVelocity (duration + duration')
      (knots.dropLast ++ knots'.map (later duration)) := by
  obtain ⟨point, ends, reached⟩ := schedule.last
  obtain ⟨point', starts, left⟩ := schedule'.first
  obtain rfl : point = point' := Option.some.inj (ends.symm.trans (meets.trans starts))
  obtain ⟨earlier, rfl⟩ := List.getLast?_eq_some_iff.mp ends
  obtain ⟨leading, rfl⟩ := List.getLast?_eq_some_iff.mp reached
  obtain ⟨rest, rfl⟩ := List.head?_eq_some_iff.mp starts
  obtain ⟨following, rfl⟩ := List.head?_eq_some_iff.mp left
  obtain ⟨steps, -, boundary⟩ := List.isChain_append.mp schedule.steps
  have nonempty : leading ≠ [] := by
    rintro rfl
    exact absurd schedule.several (Nat.not_succ_le_self 1)
  have front {first second : Knot} (next : KnotStep (earlier ++ [point]) maximumVelocity first second) :
      KnotStep (earlier ++ point :: rest) maximumVelocity first second := by
    have longer := next.append rest
    rwa [List.append_assoc] at longer
  rw [List.dropLast_concat, List.dropLast_concat]
  refine ⟨?_, ?_, ?_, List.isChain_append.mpr ⟨steps.imp fun _ _ next => front next, ?_, ?_⟩⟩
  · obtain ⟨start, begins, departs⟩ := schedule.first
    rw [List.head?_append_of_ne_nil _ nonempty] at departs
    refine ⟨start, ?_, (List.head?_append_of_ne_nil _ nonempty).trans departs⟩
    cases earlier with
    | nil => exact begins
    | cons head tail => exact begins
  · obtain ⟨finish, stops, arrives⟩ := schedule'.last
    refine ⟨finish, ?_, ?_⟩
    · rw [List.getLast?_append_of_ne_nil _ (List.cons_ne_nil _ _)]
      exact stops
    · rw [List.getLast?_append_of_ne_nil _ (by simp), List.getLast?_map, arrives]
      rfl
  · have several := schedule'.several
    rw [List.length_append, List.length_map]
    omega
  · rw [List.isChain_map]
    exact schedule'.steps.imp fun _ _ next => (next.prepend earlier).shift duration
  · intro before last after first
    rw [List.map_cons, List.head?_cons, Option.mem_some_iff] at first
    have same : after = (duration, point) := first ▸ Prod.ext (add_zero duration) rfl
    exact same ▸ front (boundary before last _ rfl)

end

end MotorDrive.Cartesian
