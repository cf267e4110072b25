import MotorDrive.Cartesian.Planned
import MotorDrive.Cartesian.Product

/-!
# Short motions

A linear motion of one sample gets a plan: the inverse kinematics solves the sample in one step, the joints move at
most 6 mrad, and a tenth of a second is enough for them.  From a reference that is not at the declared start the plan
gets an approach of the same kind.
-/

namespace MotorDrive.Cartesian

open Validate

noncomputable section

open Classical

/-! ## The time law -/

section Timing

variable {start finish : JointPoint} {maximumVelocity maximumAcceleration : ℝ}

/-- No joint moves further than 6 mrad. -/
def Near (start finish : JointPoint) : Prop := ∀ joint, |finish joint - start joint| ≤ 0.006

theorem sampleJointPath_pair (start finish : JointPoint) (timeAmount : ℝ) (joint : Fin 14) :
    sampleJointPath [start, finish] timeAmount joint =
      start joint + quinticProgress timeAmount * (finish joint - start joint) := by
  obtain ⟨lower, inside, -, -, sample⟩ := onPolyline_sample (show 2 ≤ [start, finish].length from le_rfl) timeAmount
  obtain rfl : lower = 0 := Nat.lt_one_iff.mp (Nat.lt_of_succ_lt_succ inside)
  have position : samplePosition [start, finish] timeAmount - (0 : ℕ) = quinticProgress timeAmount := by
    simp [samplePosition]
  rw [sample joint, position]
  rfl

/-- Half of the way after half of the time. -/
theorem sampleJointPath_middle (start finish : JointPoint) (joint : Fin 14) :
    sampleJointPath [start, finish] (0.5 * (0 + 1)) joint = start joint + 0.5 * (finish joint - start joint) := by
  have half : quinticProgress (0.5 * (0 + 1)) = 0.5 := by norm_num [quinticProgress, clampUnit]
  rw [sampleJointPath_pair, half]

/-- Three knots between two points. -/
def shortKnots (start finish : JointPoint) : TimedJointPath :=
  ⟨[start, sampleJointPath [start, finish] (0.5 * (0 + 1)), finish], [0, 0.5 * (0 + 1) * 0.10, 0.10]⟩

theorem knotVelocity_short {knot : ℕ} (inside : knot + 1 < 3) (joint : Fin 14) :
    knotVelocity (shortKnots start finish) (knot + 1) joint = 10 * (finish joint - start joint) := by
  obtain rfl | rfl : knot = 0 ∨ knot = 1 := by omega
  · change (sampleJointPath [start, finish] (0.5 * (0 + 1)) joint - start joint) / (0.5 * (0 + 1) * 0.10 - 0) = _
    rw [sampleJointPath_middle]
    ring
  · change (finish joint - sampleJointPath [start, finish] (0.5 * (0 + 1)) joint) / (0.10 - 0.5 * (0 + 1) * 0.10) = _
    rw [sampleJointPath_middle]
    ring

theorem stretchFactor_short (near : Near start finish) (velocity : 1 ≤ maximumVelocity)
    (acceleration : 6 ≤ maximumAcceleration) : ∃ factor,
      stretchFactor (shortKnots start finish) maximumVelocity maximumAcceleration = .ok factor ∧ factor ≤ 1.0001 := by
  refine (stretchFactor_le_iff (by linarith) (by linarith) (by norm_num)).mpr ⟨fun knot inside => ?_, ?_, ?_, ?_⟩
  · obtain rfl | rfl : knot = 0 ∨ knot = 1 := by
      have bound : knot + 1 < 3 := inside
      omega
    · change (0 : ℝ) < 0.5 * (0 + 1) * 0.10
      norm_num
    · change (0.5 * (0 + 1) * 0.10 : ℝ) < 0.10
      norm_num
  · intro knot inside joint
    rw [knotVelocity_short inside, abs_mul, abs_of_pos (by norm_num : (0 : ℝ) < 10)]
    linarith [near joint]
  · intro knot inside joint
    cases knot with
    | zero =>
      have rises : knotAcceleration (shortKnots start finish) 0 joint = 200 * (finish joint - start joint) := by
        change (knotVelocity (shortKnots start finish) 1 joint - 0) / (0.5 * (0 + 1) * 0.10 - 0) = _
        rw [knotVelocity_short (by norm_num)]
        ring
      rw [rises, abs_mul, abs_of_pos (by norm_num : (0 : ℝ) < 200)]
      linarith [near joint]
    | succ knot =>
      have inside : knot + 1 + 1 < 3 := inside
      have steady : knotAcceleration (shortKnots start finish) (knot + 1) joint = 0 := by
        unfold knotAcceleration
        simp only [knotVelocity_short inside, knotVelocity_short (Nat.lt_of_succ_lt inside), sub_self, zero_div]
      rw [steady, abs_zero]
      linarith
  · intro joint
    have stops : stopAcceleration (shortKnots start finish) joint = 200 * (finish joint - start joint) := by
      change knotVelocity (shortKnots start finish) 2 joint / (0.10 - 0.5 * (0 + 1) * 0.10) = _
      rw [knotVelocity_short (by norm_num)]
      ring
    rw [stops, abs_mul, abs_of_pos (by norm_num : (0 : ℝ) < 200)]
    linarith [near joint]

/-- A short way takes the least duration, with a knot in the middle. -/
theorem timeParameterize_short (near : Near start finish) (velocity : 1 ≤ maximumVelocity)
    (acceleration : 6 ≤ maximumAcceleration) :
    timeParameterize [start, finish] maximumVelocity maximumAcceleration = .ok (shortKnots start finish) := by
  have velocity_pos : 0 < maximumVelocity := by linarith
  have acceleration_pos : 0 < maximumAcceleration := by linarith
  have variation : largest (jointVariation [start, finish]) ≤ 0.006 := by
    refine largest_le (by norm_num) fun joint => ?_
    have way : jointVariation [start, finish] joint = |finish joint - start joint| := by simp [jointVariation]
    rw [way, abs_abs]
    exact near joint
  have duration : max 0.10 (max (1.875 * largest (jointVariation [start, finish]) / maximumVelocity)
      √(6 * largest (jointVariation [start, finish]) / maximumAcceleration)) = (0.10 : ℝ) := by
    refine max_eq_left (max_le ?_ ?_)
    · rw [div_le_iff₀ velocity_pos]
      linarith
    · rw [Real.sqrt_le_left (by norm_num), div_le_iff₀ acceleration_pos]
      linarith
  have middle := sampleJointPath_middle start finish
  have early (joint : Fin 14) : |sampleJointPath [start, finish] (0.5 * (0 + 0.5 * (0 + 1))) joint -
      0.5 * (start joint + sampleJointPath [start, finish] (0.5 * (0 + 1)) joint)| ≤ 0.001 + 1e-12 := by
    have quarter : quinticProgress (0.5 * (0 + 0.5 * (0 + 1))) = 0.103515625 := by
      norm_num [quinticProgress, clampUnit]
    have bent : start joint + 0.103515625 * (finish joint - start joint) -
        0.5 * (start joint + (start joint + 0.5 * (finish joint - start joint))) =
          -0.146484375 * (finish joint - start joint) := by ring
    rw [sampleJointPath_pair, quarter, middle, bent, abs_mul, abs_of_neg (by norm_num : (-0.146484375 : ℝ) < 0)]
    linarith [near joint]
  have late (joint : Fin 14) : |sampleJointPath [start, finish] (0.5 * (0.5 * (0 + 1) + 1)) joint -
      0.5 * (sampleJointPath [start, finish] (0.5 * (0 + 1)) joint + finish joint)| ≤ 0.001 + 1e-12 := by
    have quarter : quinticProgress (0.5 * (0.5 * (0 + 1) + 1)) = 0.896484375 := by
      norm_num [quinticProgress, clampUnit]
    have bent : start joint + 0.896484375 * (finish joint - start joint) -
        0.5 * (start joint + 0.5 * (finish joint - start joint) + finish joint) =
          0.146484375 * (finish joint - start joint) := by ring
    rw [sampleJointPath_pair, quarter, middle, bent, abs_mul, abs_of_pos (by norm_num : (0 : ℝ) < 0.146484375)]
    linarith [near joint]
  have firstStep (joint : Fin 14) : |sampleJointPath [start, finish] (0.5 * (0 + 1)) joint - start joint| ≤ 0.020 := by
    rw [middle, add_sub_cancel_left, abs_mul, abs_of_pos (by norm_num : (0 : ℝ) < 0.5)]
    linarith [near joint]
  have secondStep (joint : Fin 14) : |finish joint - sampleJointPath [start, finish] (0.5 * (0 + 1)) joint| ≤ 0.020 := by
    have rest : finish joint - (start joint + 0.5 * (finish joint - start joint)) =
        0.5 * (finish joint - start joint) := by ring
    rw [middle, rest, abs_mul, abs_of_pos (by norm_num : (0 : ℝ) < 0.5)]
    linarith [near joint]
  have firstHalf : appendInterval [start, finish] 0.10 31 0 start (0.5 * (0 + 1))
      (sampleJointPath [start, finish] (0.5 * (0 + 1))) ⟨⟨[start], [0]⟩, 1⟩ =
        .ok ⟨⟨[start, sampleJointPath [start, finish] (0.5 * (0 + 1))], [0, 0.5 * (0 + 1) * 0.10]⟩, 1⟩ :=
    appendInterval_close (show 1 ≤ 30000 - 3 by norm_num) (by norm_num) (by norm_num) firstStep early
  have secondHalf : appendInterval [start, finish] 0.10 31 (0.5 * (0 + 1))
      (sampleJointPath [start, finish] (0.5 * (0 + 1))) 1 finish
      ⟨⟨[start, sampleJointPath [start, finish] (0.5 * (0 + 1))], [0, 0.5 * (0 + 1) * 0.10]⟩, 1⟩ =
        .ok ⟨⟨[start, sampleJointPath [start, finish] (0.5 * (0 + 1)), finish], [0, 0.5 * (0 + 1) * 0.10, 1 * 0.10]⟩,
          1⟩ :=
    appendInterval_close (show 2 ≤ 30000 - 3 by norm_num) (by norm_num) (by norm_num) secondStep late
  have halved : appendInterval [start, finish] 0.10 32 0 start 1 finish ⟨⟨[start], [0]⟩, 1⟩ =
      .ok ⟨⟨[start, sampleJointPath [start, finish] (0.5 * (0 + 1)), finish], [0, 0.5 * (0 + 1) * 0.10, 1 * 0.10]⟩,
        1⟩ := by
    unfold appendInterval
    simp only
    rw [if_neg (show ¬ 30000 - 3 < [start].length by norm_num), if_pos (.inl (by norm_num)), if_neg (by norm_num),
      firstHalf, ok_bind, secondHalf]
  obtain ⟨factor, stretched, slow⟩ := stretchFactor_short near velocity acceleration
  have attempted : attemptTiming [start, finish] maximumVelocity maximumAcceleration 0.10 =
      .ok (shortKnots start finish, 1) := by
    have segment : appendSegment [start, finish] 0.10 ⟨⟨[start], [0]⟩, 1⟩ 0 =
        .ok ⟨⟨[start, sampleJointPath [start, finish] (0.5 * (0 + 1)), finish],
          [0, 0.5 * (0 + 1) * 0.10, 1 * 0.10]⟩, 1⟩ := halved
    unfold attemptTiming
    change (appendSegment [start, finish] 0.10 ⟨⟨[start], [0]⟩, 1⟩ 0 >>= fun state => pure state) >>= _ = _
    rw [segment, ok_bind, pure_eq_ok, ok_bind]
    change stretchFactor (shortKnots start finish) _ _ >>= _ = _
    rw [stretched, ok_bind, if_neg (not_lt.mpr slow)]
    rfl
  unfold timeParameterize
  rw [if_neg (not_or.mpr ⟨not_le.mpr velocity_pos, not_le.mpr acceleration_pos⟩),
    if_neg (Nat.not_lt.mpr (show 2 ≤ [start, finish].length from le_rfl))]
  simp only
  rw [duration]
  exact timingLoop_succ (by norm_num) (by norm_num) attempted

end Timing

/-! ## The configurations -/

section Calls

variable {call : IkCall}

/-- `ik_from_seed` whose attempt succeeds returns its configuration. -/
theorem ikImpl_fromSeed (success : (solve call call.seed {}).1.success) (flags : call.flags = ikFromSeed)
    (options : call.options = some productPathIkOptions) :
    ∃ result, ikImpl call = .ok result ∧ result.success ∧ result.q = (solve call call.seed {}).1.q := by
  have resolved : (IkOptions.resolve call.options).maxIterations = 1000 ∧
      (IkOptions.resolve call.options).maxRetries = 8 := by
    rw [options]
    exact ⟨rfl, rfl⟩
  have selected : select call = seedSelection call := by
    unfold select
    simp only [flags, ikFromSeed, resolved.2]
    unfold randomLoop
    rw [if_neg]
    intro searches
    rw [flags] at searches
    exact Bool.false_ne_true searches.1
  have best : (select call).best.success ∧ (select call).best.q = (solve call call.seed {}).1.q := by
    rw [selected]
    exact ⟨success, rfl⟩
  unfold ikImpl
  simp only [resolved]
  rw [if_neg (by decide), if_neg fun late => late.2.1 best.1]
  exact ⟨_, rfl, best.1, best.2⟩

/-- Behind the deadline the fallback seeds change neither the best attempt nor the candidates. -/
theorem fallbackLoop_late {seeds : List Configuration} {selection : Selection}
    (late : (checkDeadline call selection.clock).deadlineExpired = true) (success : selection.best.success) :
    (fallbackLoop call seeds selection).best = selection.best ∧
      (fallbackLoop call seeds selection).candidates = selection.candidates := by
  induction seeds generalizing selection with
  | nil => exact ⟨rfl, rfl⟩
  | cons fallback rest ih =>
    have attempted : (attemptFrom call true fallback selection).best = selection.best ∧
        (attemptFrom call true fallback selection).candidates = selection.candidates ∧
        (attemptFrom call true fallback selection).clock = checkDeadline call selection.clock := by
      unfold attemptFrom
      simp only [solve_late late, recordCandidate, and_false, false_and, if_false, success, not_true, and_self]
    obtain ⟨best, candidates, clock⟩ := attempted
    unfold fallbackLoop
    split_ifs
    · exact ⟨rfl, rfl⟩
    · exact ih late success
    · have later := ih (clock ▸ checkDeadline_expired late) (best ▸ success)
      rwa [best, candidates] at later

/-- `ik_endpoint_candidates_until` whose time is up when the first attempt has succeeded collects this one. -/
theorem ikImpl_late {deadline : ℕ → Bool} (success : (solve call call.seed {}).1.success)
    (late : (checkDeadline call (solve call call.seed {}).2).deadlineExpired = true)
    (flags : call.flags = ikEndpointCandidatesUntil call.side deadline)
    (options : call.options = some productEndpointIkOptions) :
    ∃ result, ikImpl call = .ok result ∧ result.candidates = [(solve call call.seed {}).1.q] := by
  have resolved : (IkOptions.resolve call.options).maxIterations = 1000 ∧
      (IkOptions.resolve call.options).maxRetries = 1000 := by
    rw [options]
    exact ⟨rfl, rfl⟩
  have collects : call.flags.successfulCandidates = true := by rw [flags]; rfl
  have fallbacks : call.flags.fallbackSeeds = some (fallbackIkSeeds call.side) := by rw [flags]; rfl
  have first : (seedSelection call).candidates = [(solve call call.seed {}).1.q] := by
    change recordCandidate call (solve call call.seed {}).1 [] = _
    rw [recordCandidate, if_pos ⟨collects, success⟩]
    exact if_neg fun ⟨_, member, _⟩ => List.not_mem_nil member
  obtain ⟨best, candidates⟩ :
      (fallbackLoop call (fallbackIkSeeds call.side) (seedSelection call)).best = (seedSelection call).best ∧
        (fallbackLoop call (fallbackIkSeeds call.side) (seedSelection call)).candidates =
          (seedSelection call).candidates := fallbackLoop_late late success
  have second : (fallbackLoop call (fallbackIkSeeds call.side) (seedSelection call)).best.success := by
    rw [best]
    exact success
  have selected : select call = fallbackLoop call (fallbackIkSeeds call.side) (seedSelection call) := by
    have found : (decide ¬ (seedSelection call).best.success) = false := decide_eq_false (not_not.mpr success)
    unfold select
    simp only [fallbacks, collects, or_true, if_true, resolved.2, found, Bool.and_false]
    unfold randomLoop
    rw [if_neg]
    rintro ⟨-, -, failed | ⟨global, -⟩⟩
    · exact failed second
    · exact Bool.false_ne_true global
  unfold ikImpl
  simp only [resolved]
  rw [if_neg (by decide), if_neg fun expired => expired.2.1 (selected ▸ second)]
  refine ⟨_, rfl, ?_⟩
  simp only [collects, if_true]
  rw [selected, candidates, first]
  simp [sortCandidates]

end Calls

section Configurations

variable {product : Resources} {side : Side} {target : Pose} {seed q : Configuration}

/-- The call of `solve_path_ik`. -/
def pathCall (product : Resources) (side : Side) (target : Pose) (seed : Configuration) : IkCall :=
  (product.planningModel side).call target seed productPathIkOptions ikFromSeed

/-- The call of `solve_cartesian_trajectory_approach_targets`. -/
def endpointCall (product : Resources) (side : Side) (target : Pose) (seed : Configuration) : IkCall :=
  (product.poseModel side).call target seed productEndpointIkOptions (ikEndpointCandidatesUntil side product.deadline)

/-- A configuration that the attempt from the seed finds within the limits is the solution. -/
theorem solvePathIk_solved (success : (solve (pathCall product side target seed) seed {}).1.success)
    (found : (solve (pathCall product side target seed) seed {}).1.q = q)
    (inside : ∀ index, (product.joints (armJoint side index)).lower ≤ q index ∧
      q index ≤ (product.joints (armJoint side index)).upper) (context : String) :
    solvePathIk product side target seed context = .ok q := by
  obtain ⟨result, called, succeeded, same⟩ := ikImpl_fromSeed success rfl rfl
  have same : result.q = q := same.trans found
  have checked : ((List.finRange 7).forM fun index =>
      let joint := product.joints (armJoint side index)
      reject (q index < joint.lower ∨ joint.upper < q index)
        (BuildError.positionLimit context (jointRole (armJoint side index)) (q index) joint.lower joint.upper)) =
      .ok () :=
    forM_ok fun index _ =>
      reject_eq_ok.mpr (not_or.mpr ⟨not_lt.mpr (inside index).1, not_lt.mpr (inside index).2⟩)
  unfold solvePathIk
  rw [show ikImpl ((product.planningModel side).call target seed productPathIkOptions ikFromSeed) = .ok result from called]
  change (reject (¬ result.success) _ >>= fun _ => _) = _
  rw [reject_bind_of_not (not_not.mpr succeeded), same]
  exact (congrArg (· >>= fun _ => Except.ok q) checked).trans rfl

/-- One sample that is solved with a small step. -/
theorem solvePath_short {start : JointPoint} {context : String}
    (solved : solvePathIk product side target (armOf side start) context = .ok q)
    (small : ∀ joint, |q joint - armOf side start joint| < 0.001) :
    solvePath product side start [(.ok target, context)] = .ok [start, setArm side q start] := by
  have valid : side.index = 0 ∨ side.index = 1 := by cases side <;> decide
  have still (joint : Fin 7) : checkStep (q joint - armOf side start joint) (.fresh : JointContinuity ℝ) = .ok .fresh := by
    have little := small joint
    have narrow : |q joint - armOf side start joint| ≤ maximumIkJointStep :=
      little.le.trans (by norm_num [maximumIkJointStep])
    have deadband : |q joint - armOf side start joint| < ikDirectionDeadband :=
      little.trans_le (by norm_num [ikDirectionDeadband])
    unfold checkStep
    rw [if_neg (not_lt.mpr narrow), if_neg (not_le.mpr deadband)]
  have continues : requireCartesianIkContinuity side.index (armOf side start) q
      (fun _ => (.fresh : JointContinuity ℝ)) 1 = .ok fun _ => .fresh :=
    (requireCartesianIkContinuity_ok valid).mpr still
  have sampled : solveSample product side start ⟨armOf side start, fun _ => .fresh, [start]⟩ ((.ok target, context), 1) =
      .ok ⟨q, fun _ => .fresh, [start, setArm side q start]⟩ := by
    unfold solveSample
    simp only
    change (solvePathIk product side target (armOf side start) context >>= fun _ => _) = _
    rw [solved, ok_bind, continues]
    rfl
  unfold solvePath
  change (solveSample product side start _ ((.ok target, context), 1) >>= fun state => pure state) >>= _ = _
  rw [sampled]
  rfl

end Configurations

/-! ## The samples -/

theorem angularDistance_self {value : Quaternion} (unit : value.Unit) : angularDistance value value = 0 := by
  have self : value.dot value = 1 := (coordinates_dot value value).symm.trans ((unit_iff value).mp unit)
  rw [angularDistance_eq unit unit, self, abs_one, Real.arccos_one, mul_zero]

/-- A short edge without a rotation has one sample. -/
theorem appendLinearPoseSamples_short {start finish : Pose} (proper : start.Proper)
    (parallel : finish.rotation = start.rotation) (short : vectorNorm (finish.position - start.position) ≤ 0.002) :
    appendLinearPoseSamples [start] start finish = .ok [start, finish] := by
  have converts := converts_of_minors (minors_of_proper proper)
  have converts' : Converts finish.rotation (scaledQuaternion start.rotation).2 := parallel ▸ converts
  have segments : requiredSegments (vectorNorm (finish.position - start.position)) 0 = 1 := by
    have ceil : ⌈max (vectorNorm (finish.position - start.position) / 0.002) (0 / 0.1)⌉₊ ≤ 1 := by
      rw [Nat.ceil_le, Nat.cast_one]
      refine max_le ?_ (by norm_num)
      rw [div_le_one (by norm_num)]
      exact short
    exact max_eq_left ceil
  have whole : (((0 + 1 : ℕ) : ℝ) / ((1 : ℕ) : ℝ)) = 1 := by norm_num
  unfold appendLinearPoseSamples
  rw [converts.gives, ok_bind, converts'.gives, ok_bind]
  simp only [angularDistance_self converts.unit, segments]
  rw [if_neg (show ¬ 30000 - min [start].length 30000 < 1 by simp)]
  change Except.ok [start, linearPose start finish _ _ (((0 + 1 : ℕ) : ℝ) / ((1 : ℕ) : ℝ))] = _
  rw [whole, linearPose_one converts.unit converts']

/-! ## A product that slides -/

section Sliding

/-- The values of a pose on the first axis. -/
def onAxis (x : ℝ) : Fin 6 → ℝ := ![x, 0, 0, 0, 0, 0]

/-- The first joint at a position and the others at zero. -/
def slid (x : ℝ) : Configuration := ![x, 0, 0, 0, 0, 0, 0]

/-- A model whose first joint moves the hand along the first axis; a step makes up for the whole error. -/
def slidingModel (side : Side) : RobotModel side where
  fk q := robotPoseFromRpy (onAxis (Matrix.vecHead q))
  fk_proper _ := proper_robotPoseFromRpy _
  kinematics target :=
    { residual := fun q => onAxis (Matrix.vecHead target.position - Matrix.vecHead q)
      delta := fun _ _ _ q _ => slid (Matrix.vecHead target.position - Matrix.vecHead q)
      integrate := fun q delta => q + delta }
  randomQ _ := clampToLimits side 0
  randomQ_inLimits _ := clampToLimits_inLimits side 0

/-- The product with such models, and time for one attempt of the endpoint search. -/
def slidingProduct (motors : Fin 14 → Trajectory.Motor) : Resources where
  joints := configureJointTable motors
  planningModel := slidingModel
  poseModel := slidingModel
  deadline reading := decide (3 ≤ reading)

/-- The first joint of the left arm at a position, at rest. -/
def slidingReference (x : ℝ) : PlannedReference where
  active := false
  operation := .other
  positions := valuesOf (setArm .left (slid x) 0)
  velocities := valuesOf 0
  accelerations := valuesOf 0

variable {call : IkCall} {x y : ℝ}

theorem onAxis_eq (x : ℝ) : onAxis x = (Function.update 0 0 x : Fin 6 → ℝ) := by
  funext axis
  fin_cases axis <;> rfl

theorem slid_eq (x : ℝ) : slid x = (Function.update 0 0 x : Configuration) := by
  funext joint
  fin_cases joint <;> rfl

theorem slid_sub (joint : Fin 7) : |slid y joint - slid x joint| ≤ |y - x| := by
  simp only [slid_eq]
  by_cases first : joint = 0
  · rw [first, Function.update_self, Function.update_self]
  · rw [Function.update_of_ne first, Function.update_of_ne first, sub_self, abs_zero]
    exact abs_nonneg _

theorem slid_inLimits (small : |x| ≤ 1) : InLimits .left (slid x) := by
  obtain ⟨above, below⟩ := abs_le.mp small
  intro joint
  simp only [slid_eq]
  by_cases first : joint = 0
  · rw [first, Function.update_self]
    norm_num [lowerPositionLimit, upperPositionLimit]
    constructor <;> linarith
  · rw [Function.update_of_ne first]
    exact inLimits_zero joint

theorem position_onAxis (x : ℝ) : (robotPoseFromRpy (onAxis x)).position = (Function.update 0 0 x : Vector3) := by
  funext axis
  fin_cases axis <;> rfl

theorem distance_onAxis (x y : ℝ) :
    vectorNorm ((robotPoseFromRpy (onAxis y)).position - (robotPoseFromRpy (onAxis x)).position) = |y - x| := by
  refine vectorNorm_eq (abs_nonneg _) ?_
  rw [position_onAxis, position_onAxis, abs_mul_abs_self]
  simp [dotProduct, Fin.sum_univ_succ, Function.update]

theorem residualError_axis (x : ℝ) : residualError call (onAxis x) = |x| := by
  have position : positionError (onAxis x) = |x| := by
    simp [positionError, onAxis_eq, Function.update, Real.sqrt_sq_eq_abs]
  have orientation : orientationError (onAxis x) = 0 := by
    simp [orientationError, onAxis_eq, Function.update]
  have norm : √(∑ i, onAxis x i ^ 2) = |x| := by
    simp [onAxis_eq, Function.update, Real.sqrt_sq_eq_abs]
  unfold residualError
  split_ifs
  · rw [position, orientation, mul_zero, zero_pow two_ne_zero, add_zero, Real.sqrt_sq_eq_abs, abs_abs]
  · exact norm

theorem meets_axis (x : ℝ) : MeetsTolerance call (onAxis x) ↔
    if call.flags.regularizeToSeed then |x| ≤ 0.0005 else |x| < (IkOptions.resolve call.options).tolerance := by
  have position : positionError (onAxis x) = |x| := by
    simp [positionError, onAxis_eq, Function.update, Real.sqrt_sq_eq_abs]
  have orientation : orientationError (onAxis x) = 0 := by
    simp [orientationError, onAxis_eq, Function.update]
  unfold MeetsTolerance
  split_ifs
  · rw [position, orientation]
    exact and_iff_left (by norm_num)
  · rw [residualError_axis]

/-- An attempt that is not at its target gets there in one step. -/
theorem solve_slid {clock : Clock}
    (kinematics : call.kinematics = (slidingModel .left).kinematics (robotPoseFromRpy (onAxis y)))
    (left : call.side = .left) (small : |y| ≤ 1) (fails : ¬ MeetsTolerance call (onAxis (y - x)))
    (meets : MeetsTolerance call (onAxis 0)) (several : 2 ≤ (IkOptions.resolve call.options).maxIterations)
    (time : (checkDeadline call (checkDeadline call (checkDeadline call clock))).deadlineExpired = false) :
    (solve call (slid x) clock).1.success ∧ (solve call (slid x) clock).1.q = slid y ∧
      (solve call (slid x) clock).2 = checkDeadline call (checkDeadline call (checkDeadline call clock)) := by
  have residual (z : ℝ) : call.kinematics.residual (slid z) = onAxis (y - z) := by
    rw [kinematics]
    change onAxis ((robotPoseFromRpy (onAxis y)).position 0 - slid z 0) = _
    rw [position_onAxis]
    rfl
  have there : call.kinematics.residual (slid y) = onAxis 0 := by rw [residual, sub_self]
  have ne : y - x ≠ 0 := fun same => fails (same ▸ meets)
  have stepped : clampToLimits call.side (call.kinematics.integrate (slid x) ((1 : ℝ) • call.step (slid x))) =
      slid y := by
    have step : call.step (slid x) = slid (y - x) := by
      unfold IkCall.step
      rw [kinematics]
      change slid ((robotPoseFromRpy (onAxis y)).position 0 - slid x 0) = _
      rw [position_onAxis]
      rfl
    have sum : call.kinematics.integrate (slid x) ((1 : ℝ) • call.step (slid x)) = slid y := by
      rw [step, one_smul, kinematics]
      change slid x + slid (y - x) = slid y
      simp only [slid_eq]
      rw [← Function.update_add, add_zero, add_sub_cancel]
    rw [sum, left, clampToLimits_of_inLimits (slid_inLimits small)]
  have solved := solve_step (q := slid x) ((residual x).symm ▸ fails) stepped
    (by rw [there, residual x, residualError_axis, residualError_axis, abs_zero]; exact abs_pos.mpr ne)
    (there.symm ▸ meets) several time
  rw [solved]
  refine ⟨?_, rfl, rfl⟩
  change MeetsTolerance call (call.kinematics.residual (slid y))
  exact there.symm ▸ meets

variable {motors : Fin 14 → Trajectory.Motor}

theorem joints_slid (small : |x| ≤ 1) (index : Fin 7) :
    ((slidingProduct motors).joints (armJoint .left index)).lower ≤ slid x index ∧
      slid x index ≤ ((slidingProduct motors).joints (armJoint .left index)).upper := by
  have same : ((slidingProduct motors).joints (armJoint .left index)).lower = lowerPositionLimit .left index ∧
      ((slidingProduct motors).joints (armJoint .left index)).upper = upperPositionLimit .left index := by
    change kLower (sideOf _) (placeOf _) = _ ∧ kUpper (sideOf _) (placeOf _) = _
    rw [sideOf_armJoint, placeOf_armJoint]
    exact ⟨rfl, rfl⟩
  rw [same.1, same.2]
  exact slid_inLimits small index

theorem positions_sliding (x : ℝ) : jointPoint (slidingReference x).positions = setArm .left (slid x) 0 :=
  jointPoint_valuesOf

/-- One sample of a path. -/
theorem solvePathIk_sliding (small : |y| ≤ 1) (far : 0.0005 < |y - x|) (context : String) :
    solvePathIk (slidingProduct motors) .left (robotPoseFromRpy (onAxis y)) (slid x) context = .ok (slid y) := by
  obtain ⟨success, found, -⟩ : (solve (pathCall (slidingProduct motors) .left (robotPoseFromRpy (onAxis y)) (slid x))
      (slid x) {}).1.success ∧ (solve (pathCall (slidingProduct motors) .left (robotPoseFromRpy (onAxis y)) (slid x))
        (slid x) {}).1.q = slid y ∧ _ :=
    solve_slid rfl rfl small (by rw [meets_axis]; exact not_le.mpr far)
      (by rw [meets_axis]; norm_num [pathCall, RobotModel.call, ikFromSeed]) (show 2 ≤ 1000 by norm_num) rfl
  exact solvePathIk_solved success found (joints_slid small) context

theorem near_slid (small : |y - x| ≤ 0.006) : Near (setArm .left (slid x) 0) (setArm .left (slid y) 0) := by
  intro joint
  unfold setArm
  split_ifs
  · exact (slid_sub _).trans small
  · rw [sub_self, abs_zero]
    norm_num

/-- The target of an approach. -/
theorem approachTargets_sliding (small : |y| ≤ 1) (far : 1e-4 ≤ |y - x|) :
    solveCartesianTrajectoryApproachTargets (slidingProduct motors) 0 (slidingReference x)
      (robotPoseFromRpy (onAxis y)) "Linear" = .ok [setArm .left (slid y) 0] := by
  have start : armOf .left (jointPoint (slidingReference x).positions) = slid x := by
    rw [positions_sliding, armOf_setArm]
  have tolerance (z : ℝ) : MeetsTolerance (endpointCall (slidingProduct motors) .left (robotPoseFromRpy (onAxis y))
      (slid x)) (onAxis z) ↔ |z| < 1e-4 := by
    rw [meets_axis]
    norm_num [endpointCall, RobotModel.call, ikEndpointCandidatesUntil, IkOptions.resolve, productEndpointIkOptions,
      productPathIkOptions]
  obtain ⟨success, found, clock⟩ : (solve (endpointCall (slidingProduct motors) .left (robotPoseFromRpy (onAxis y))
      (slid x)) (slid x) {}).1.success ∧ (solve (endpointCall (slidingProduct motors) .left (robotPoseFromRpy (onAxis y))
      (slid x)) (slid x) {}).1.q = slid y ∧ (solve (endpointCall (slidingProduct motors) .left
        (robotPoseFromRpy (onAxis y)) (slid x)) (slid x) {}).2 = ⟨false, 3⟩ :=
    solve_slid rfl rfl small (by rw [tolerance]; exact not_lt.mpr far) (by rw [tolerance]; norm_num)
      (show 2 ≤ 1000 by norm_num) rfl
  obtain ⟨result, called, candidates⟩ := ikImpl_late success
    (show (checkDeadline _ (solve (endpointCall (slidingProduct motors) .left (robotPoseFromRpy (onAxis y)) (slid x))
      (slid x) {}).2).deadlineExpired = true by rw [clock]; rfl) rfl rfl
  have candidates : result.candidates = [slid y] := candidates.trans (congrArg (fun q => [q]) found)
  have referred : requireCartesianReference (slidingReference x) "trajectory approach" = .ok () := by
    unfold requireCartesianReference
    rw [reject_bind_of_not fun busy => Bool.false_ne_true busy.1]
    exact reject_eq_ok.mpr (by simp [slidingReference, valuesOf])
  unfold solveCartesianTrajectoryApproachTargets
  rw [show requireSide 0 = .ok .left from rfl, ok_bind, referred, ok_bind]
  simp only [start]
  change (Except.mapError _ (ikImpl (endpointCall (slidingProduct motors) .left (robotPoseFromRpy (onAxis y)) (slid x)))
    >>= fun _ => _) = _
  rw [called]
  change (reject (result.candidates = []) _ >>= fun _ => _) = _
  rw [reject_bind_of_not (by rw [candidates]; exact List.cons_ne_nil _ _), candidates]
  have kept : [slid y].filter (fun q => ∀ index : Fin 7,
      ((slidingProduct motors).joints (armJoint .left index)).lower ≤ q index ∧
        q index ≤ ((slidingProduct motors).joints (armJoint .left index)).upper) = [slid y] :=
    List.filter_eq_self.mpr fun q member => by
      rw [List.mem_singleton.mp member]
      exact decide_eq_true (joints_slid small)
  simp only [kept]
  rw [reject_bind_of_not (List.cons_ne_nil _ _), positions_sliding]
  simp only [List.map_cons, List.map_nil, setArm_setArm]
  rfl

/-- A start on the axis is accepted up to its tolerance. -/
theorem validateStart_sliding (x y : ℝ) (motionName : String) :
    validateCartesianStartPose (slidingProduct motors) 0 (slidingReference x) (robotPoseFromRpy (onAxis y)) motionName =
      if |x - y| ≤ 0.005 then .ok () else .error (.startMismatch motionName |x - y| 0) := by
  have proper : (robotPoseFromRpy (onAxis x)).Proper := proper_robotPoseFromRpy _
  have converts := converts_of_minors (minors_of_proper proper)
  have current : (slidingModel .left).fk (armOf .left (jointPoint (slidingReference x).positions)) =
      robotPoseFromRpy (onAxis x) := by
    rw [positions_sliding, armOf_setArm]
    rfl
  have level : (0 : ℝ) ≤ 0.035 := by norm_num
  unfold validateCartesianStartPose
  rw [show requireSide 0 = .ok .left from rfl, ok_bind, reject_bind_of_not (by simp [slidingReference, valuesOf])]
  change (Except.mapError _ (quaternionFromRotation ((slidingModel .left).fk _).rotation) >>= fun _ => _) = _
  simp only [show (slidingProduct motors).planningModel .left = slidingModel .left from rfl, current, distance_onAxis]
  rw [converts.gives, show (robotPoseFromRpy (onAxis y)).rotation = (robotPoseFromRpy (onAxis x)).rotation from rfl,
    converts.gives]
  change reject (¬ (|x - y| ≤ 0.005 ∧ angularDistance _ _ ≤ 0.035)) _ = _
  rw [angularDistance_self converts.unit]
  unfold reject
  by_cases near : |x - y| ≤ 0.005
  · rw [if_neg (not_not.mpr ⟨near, level⟩), if_pos near]
  · rw [if_pos fun both => near both.1, if_neg near]

variable {acceleration velocity : ℝ}

variable (motors) in
/-- A short motion from its declared start. -/
theorem buildLinear_sliding (small : |y| ≤ 1) (far : 0.0005 < |y - x|) (close : |y - x| < 0.001)
    (fast : 1 ≤ velocity ∧ 6 ≤ acceleration) : ∃ plan,
      buildLinearTrajectoryPlanCommon (slidingProduct motors) .pv 0 (some (robotPoseFromRpy (onAxis x))) (onAxis y)
        acceleration velocity (slidingReference x) = .ok plan ∧
      plan.trajectory.waypoints = (List.range 3).map (assembledWaypoint
        (shortKnots (setArm .left (slid x) 0) (setArm .left (slid y) 0)) (jointPoint (valuesOf 0))
        (jointPoint (valuesOf 0))) ∧
      plan.trajectory.pvReferenceVelocity = velocity ∧ plan.trajectory.pvReferenceAcceleration = acceleration := by
  have referred : requireCartesianReference (slidingReference x) "linear" = .ok () := by
    unfold requireCartesianReference
    rw [reject_bind_of_not fun busy => Bool.false_ne_true busy.1]
    exact reject_eq_ok.mpr (by simp [slidingReference, valuesOf])
  have declared : validateDeclaredStart (slidingProduct motors) 0 (slidingReference x)
      (some (robotPoseFromRpy (onAxis x))) "linear" = .ok () := by
    refine (validateStart_sliding x x "linear").trans (if_pos ?_)
    rw [sub_self, abs_zero]
    norm_num
  have sampled : appendLinearPoseSamples [robotPoseFromRpy (onAxis x)] (robotPoseFromRpy (onAxis x))
      (robotPoseFromRpy (onAxis y)) = .ok [robotPoseFromRpy (onAxis x), robotPoseFromRpy (onAxis y)] := by
    refine appendLinearPoseSamples_short (proper_robotPoseFromRpy _) rfl ?_
    rw [distance_onAxis]
    exact close.le.trans (by norm_num)
  have start : armOf .left (jointPoint (slidingReference x).positions) = slid x := by
    rw [positions_sliding, armOf_setArm]
  have solved (context : String) : solvePath (slidingProduct motors) .left (jointPoint (slidingReference x).positions)
      [(.ok (robotPoseFromRpy (onAxis y)), context)] =
        .ok [setArm .left (slid x) 0, setArm .left (slid y) 0] := by
    refine (solvePath_short (q := slid y) ?_ ?_).trans ?_
    · rw [start]
      exact solvePathIk_sliding small far context
    · intro joint
      rw [start]
      exact (slid_sub joint).trans_lt close
    · rw [positions_sliding, setArm_setArm]
  have timed := timeParameterize_short (near_slid (close.le.trans (by norm_num))) fast.1 fast.2
  unfold buildLinearTrajectoryPlanCommon
  rw [show requirePvMode .pv = .ok () from rfl, ok_bind, show requireSide 0 = .ok .left from rfl, ok_bind, referred,
    ok_bind, declared, ok_bind]
  simp only [Option.getD_some]
  rw [sampled]
  change ∃ plan, (solvePath (slidingProduct motors) .left (jointPoint (slidingReference x).positions)
    [(.ok (robotPoseFromRpy (onAxis y)), _)] >>= fun _ => _) = Except.ok plan ∧ _
  rw [solved, ok_bind, timed]
  unfold finishPlan
  change ∃ plan, (Except.ok (shortKnots _ _) >>= fun _ => _) = Except.ok plan ∧ _
  rw [ok_bind]
  unfold assembleCartesianTrajectoryPlan
  rw [show requirePvMode .pv = .ok () from rfl, ok_bind, reject_bind_of_not (by linarith),
    reject_bind_of_not (by linarith), reject_bind_of_not (by simp [shortKnots])]
  exact ⟨_, rfl, rfl, rfl, rfl⟩

/-- A short motion behind an approach. -/
theorem build_sliding (motors : Fin 14 → Trajectory.Motor) (fast : 1 ≤ velocity ∧ 6 ≤ acceleration) : ∃ plan,
    (Motion.linear (some (onAxis 0)) (onAxis 0.0008)).build (slidingProduct motors) .pv Side.left.index acceleration
      velocity (slidingReference 0.006) = .ok plan ∧ plan.approachPose = some (robotPoseFromRpy (onAxis 0)) := by
  obtain ⟨inner, built, waypoints, referenceVelocity, referenceAcceleration⟩ :=
    buildLinear_sliding motors (x := 0) (y := 0.0008) (by norm_num) (by norm_num) (by norm_num) fast
  have mismatch : validateCartesianStartPose (slidingProduct motors) 0 (slidingReference 0.006)
      (robotPoseFromRpy (onAxis 0)) "linear" = .error (.startMismatch "linear" |0.006 - 0| 0) :=
    (validateStart_sliding 0.006 0 "linear").trans (if_neg (by norm_num))
  have targets : solveCartesianTrajectoryApproachTargets (slidingProduct motors) 0 (slidingReference 0.006)
      (robotPoseFromRpy (onAxis 0)) "Linear" = .ok [setArm .left (slid 0) 0] :=
    approachTargets_sliding (by norm_num) (by norm_num)
  have timed : timeParameterize [jointPoint (slidingReference 0.006).positions, setArm .left (slid 0) 0]
      inner.trajectory.pvReferenceVelocity inner.trajectory.pvReferenceAcceleration =
        .ok (shortKnots (setArm .left (slid 0.006) 0) (setArm .left (slid 0) 0)) := by
    rw [positions_sliding, referenceVelocity, referenceAcceleration]
    exact timeParameterize_short (near_slid (by norm_num)) fast.1 fast.2
  have prepended : ∃ plan, prependCartesianApproach inner (slidingReference 0.006) (robotPoseFromRpy (onAxis 0)) =
      .ok plan ∧ plan.approachPose = some (robotPoseFromRpy (onAxis 0)) := by
    have knots : inner.trajectory.waypoints = assembledWaypoint
        (shortKnots (setArm .left (slid 0) 0) (setArm .left (slid 0.0008) 0)) (jointPoint (valuesOf 0))
          (jointPoint (valuesOf 0)) 0 :: ([1, 2].map (assembledWaypoint
        (shortKnots (setArm .left (slid 0) 0) (setArm .left (slid 0.0008) 0)) (jointPoint (valuesOf 0))
          (jointPoint (valuesOf 0)))) := waypoints
    unfold prependCartesianApproach
    rw [knots]
    simp only
    rw [reject_bind_of_not (by simp [slidingReference, valuesOf]),
      show jointPoint (assembledWaypoint (shortKnots (setArm .left (slid 0) 0) (setArm .left (slid 0.0008) 0))
        (jointPoint (valuesOf 0)) (jointPoint (valuesOf 0)) 0).positions = setArm .left (slid 0) 0 from
          jointPoint_valuesOf, timed]
    change ∃ plan, (reject (30000 - min 3 30000 < 2) (BuildError.invalidArgument
      "Cartesian approach and path require more than the native point capacity") >>= fun _ => _) = Except.ok plan ∧ _
    rw [reject_bind_of_not (by norm_num)]
    change ∃ plan, (reject ((60 : ℝ) < 0.10 + 0.10) (BuildError.invalidArgument
      "Cartesian approach requires an unsafe duration") >>= fun _ => _) = Except.ok plan ∧ _
    rw [reject_bind_of_not (by norm_num)]
    exact ⟨_, rfl, rfl⟩
  obtain ⟨plan, joined, pose⟩ := prepended
  refine ⟨plan, ?_, pose⟩
  have begins : atTarget (slidingReference 0.006) (setArm .left (slid 0) 0) = slidingReference 0 := rfl
  have direct : (validateCartesianStartPose (slidingProduct motors) 0 (slidingReference 0.006)
      (robotPoseFromRpy (onAxis 0)) "linear" >>= fun _ => buildLinearTrajectoryPlanCommon (slidingProduct motors) .pv 0
        (some (robotPoseFromRpy (onAxis 0))) (onAxis 0.0008) acceleration velocity (slidingReference 0.006)) =
      .error (.startMismatch "linear" |0.006 - 0| 0) := by
    rw [mismatch]
    rfl
  change planFromDeclaredStart (slidingProduct motors) 0 (robotPoseFromRpy (onAxis 0)) "linear" "Linear"
    (buildLinearTrajectoryPlanCommon (slidingProduct motors) .pv 0 (some (robotPoseFromRpy (onAxis 0))) (onAxis 0.0008)
      acceleration velocity) (slidingReference 0.006) = _
  unfold planFromDeclaredStart
  simp only [direct, targets, ok_bind]
  unfold tryApproaches
  simp only [begins, built, ok_bind, joined]

end Sliding

end

end MotorDrive.Cartesian
