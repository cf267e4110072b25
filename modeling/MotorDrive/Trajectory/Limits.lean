import MotorDrive.Library.Validate
import MotorDrive.Trajectory.Isolation

/-!
# What `validate_segment_extrema` guarantees

The tests look at finitely many points of a segment.  By `rootsOnUnitInterval_separates` they bound every
point, up to the error of the root isolation (`position_of_accepted`); for coefficients up to 1000 and
segments from 50 ms on that error is below `kLimitTolerance` (`validateSegmentExtrema_sound`).
-/

namespace MotorDrive.Trajectory

open Extrema Validate

/-! ## The recursion of `roots_on_unit_interval` -/

section Recursion

variable {K : Type} [Field K] [LinearOrder K]

/-- The recursive call that `roots_on_unit_interval` makes. -/
def RootCall (inner outer : Polynomial K) : Prop :=
  3 ≤ (trim outer).length ∧ inner = derivative (trim outer)

theorem length_trim (coefficients : Polynomial K) : (trim coefficients).length ≤ coefficients.length := by
  cases coefficients with
  | nil => exact le_rfl
  | cons c rest => exact Nat.succ_le_succ (List.rdropWhile_prefix _ _).length_le

theorem RootCall.shorter {inner outer : Polynomial K} (call : RootCall inner outer) :
    inner.length < outer.length := by
  obtain ⟨many, rfl⟩ := call
  have le := length_trim outer
  rw [derivative, if_neg (by omega)]
  simp only [List.length_mapIdx, List.length_tail]
  omega

theorem rootCall_wellFounded : WellFounded (RootCall (K := K)) :=
  Subrelation.wf RootCall.shorter (measure List.length).wf

theorem rootsBody_congr {f g : Polynomial K → List K} {coefficients : Polynomial K}
    (same : 3 ≤ (trim coefficients).length → f (derivative (trim coefficients)) = g (derivative (trim coefficients))) :
    rootsBody f coefficients = rootsBody g coefficients := by
  unfold rootsBody
  split
  · rfl
  · rfl
  · rfl
  · rename_i shape
    rw [shape] at same
    simp only [same (by simp)]

/-- A deeper bound on the recursion changes nothing. -/
theorem rootsWithin_stable (depth : ℕ) (coefficients : Polynomial K) (deep : coefficients.length ≤ depth) :
    rootsWithin (depth + 1) coefficients = rootsWithin depth coefficients := by
  induction depth generalizing coefficients with
  | zero =>
    obtain rfl := List.length_eq_zero_iff.mp (Nat.le_zero.mp deep)
    rfl
  | succ depth ih =>
    refine rootsBody_congr fun many => ih _ ?_
    exact Nat.le_of_lt_succ ((RootCall.shorter ⟨many, rfl⟩).trans_le deep)

/-- `roots_on_unit_interval` satisfies the equation of its source. -/
theorem rootsOnUnitInterval_eq (coefficients : Polynomial K) :
    rootsOnUnitInterval coefficients = rootsBody rootsOnUnitInterval coefficients := by
  have settled : ∀ (inner : Polynomial K) (more : ℕ),
      rootsWithin (inner.length + more) inner = rootsOnUnitInterval inner := by
    intro inner more
    induction more with
    | zero => rfl
    | succ more ih => exact (rootsWithin_stable (inner.length + more) inner (Nat.le_add_right _ _)).trans ih
  rw [← settled coefficients 1]
  refine rootsBody_congr fun many => ?_
  have call : RootCall (derivative (trim coefficients)) coefficients := ⟨many, rfl⟩
  have deeper := settled (derivative (trim coefficients))
    (coefficients.length - (derivative (trim coefficients)).length)
  rwa [Nat.add_sub_of_le call.shorter.le] at deeper

/-- A constant has no isolated root. -/
theorem rootsOnUnitInterval_of_flat [IsStrictOrderedRing K] {c : K} {rest : List K}
    (flat : ∀ x ∈ rest, x = 0) : rootsOnUnitInterval (c :: rest) = [] := by
  have small : rest.rdropWhile (fun x => |x| ≤ polynomialTolerance) = [] := by
    refine List.rdropWhile_eq_nil_iff.mpr fun x member => ?_
    rw [flat x member]
    simp [polynomialTolerance]
  rw [rootsOnUnitInterval_eq, rootsBody, trim, small]

end Recursion

/-! ## The ends of a quintic segment -/

section Quintic

variable {K : Type} [Field K]

/-- The boundary values that a segment takes over. -/
structure Reproduces (c : Coefficients K) (duration p₀ v₀ a₀ p₁ v₁ a₁ : K) : Prop where
  startPosition : c.sample 0 = p₀
  startVelocity : c.sampleVelocity 0 duration = v₀
  startAcceleration : c.sampleAcceleration 0 duration = a₀
  endPosition : c.sample 1 = p₁
  endVelocity : c.sampleVelocity 1 duration = v₁
  endAcceleration : c.sampleAcceleration 1 duration = a₁

/-- A quintic segment has the six boundary values it was made from. -/
theorem quinticCoefficients_reproduces {duration : K} (positive : duration ≠ 0) (two : (2 : K) ≠ 0)
    (p₀ v₀ a₀ p₁ v₁ a₁ : K) :
    Reproduces (quinticCoefficients p₀ v₀ a₀ p₁ v₁ a₁ duration) duration p₀ v₀ a₀ p₁ v₁ a₁ := by
  constructor <;>
    simp only [Coefficients.sample, Coefficients.sampleVelocity, Coefficients.sampleAcceleration,
      Coefficients.asPolynomial, quinticCoefficients, evaluate, derivative, List.foldr, List.mapIdx_cons,
      List.mapIdx_nil, List.tail_cons, List.length_cons, List.length_nil] <;>
    norm_num <;> field_simp <;> ring

end Quintic

/-! ## Accepted segments -/

theorem limitTolerance_nonneg {K : Type} [Field K] [LinearOrder K] [IsStrictOrderedRing K] :
    (0 : K) ≤ limitTolerance := by
  unfold limitTolerance
  positivity

noncomputable section

section Bounds

variable {duration : ℝ} {segment : ℕ} {joint : TrajectoryJoint ℝ} {coefficients : Coefficients ℝ}
  {recovery : Recovery} {check : Bool}

/-- A bound of the slopes of the velocity and its derivatives. -/
def Coefficients.slope (c : Coefficients ℝ) : ℝ := weight (derivative c.asPolynomial)

/-- What the tests of one joint accept. -/
structure Accepted (duration : ℝ) (segment : ℕ) (joint : TrajectoryJoint ℝ) (coefficients : Coefficients ℝ)
    (recovery : Recovery) (check : Bool) : Prop where
  position : ∀ u ∈ candidates (derivative coefficients.asPolynomial),
    allowedLower joint coefficients recovery - limitTolerance ≤ coefficients.sample u ∧
      coefficients.sample u ≤ allowedUpper joint coefficients recovery + limitTolerance
  velocity : check = true → ∀ u ∈ candidates (derivative (derivative coefficients.asPolynomial)),
    |coefficients.sampleVelocity u duration| ≤ joint.velocityLimit + limitTolerance ∧
      (0 < joint.pvVelocityLimit → |coefficients.sampleVelocity u duration| ≤ joint.pvVelocityLimit + limitTolerance)
  acceleration : check = true →
    ∀ u ∈ candidates (derivative (derivative (derivative coefficients.asPolynomial))),
      |coefficients.sampleAcceleration u duration| ≤ joint.accelerationLimit + limitTolerance

theorem position_of_ok {u : ℝ} (ok : checkPosition segment joint coefficients recovery u = .ok ()) :
    allowedLower joint coefficients recovery - limitTolerance ≤ coefficients.sample u ∧
      coefficients.sample u ≤ allowedUpper joint coefficients recovery + limitTolerance := by
  unfold checkPosition at ok
  simp only at ok
  split_ifs at ok with outside
  exact ⟨le_of_not_gt fun below => outside (.inl below), le_of_not_gt fun above => outside (.inr above)⟩

theorem velocity_of_ok {u : ℝ} (ok : checkVelocity duration segment joint coefficients u = .ok ()) :
    |coefficients.sampleVelocity u duration| ≤ joint.velocityLimit + limitTolerance ∧
      (0 < joint.pvVelocityLimit →
        |coefficients.sampleVelocity u duration| ≤ joint.pvVelocityLimit + limitTolerance) := by
  unfold checkVelocity at ok
  simp only at ok
  split_ifs at ok with fast pvFast
  exact ⟨le_of_not_gt fast, fun limited => le_of_not_gt fun above => pvFast ⟨limited, above⟩⟩

theorem acceleration_of_ok {u : ℝ} (ok : checkAcceleration duration segment joint coefficients u = .ok ()) :
    |coefficients.sampleAcceleration u duration| ≤ joint.accelerationLimit + limitTolerance := by
  unfold checkAcceleration at ok
  simp only at ok
  split_ifs at ok with fast
  exact le_of_not_gt fast

theorem accepted_of_ok (ok : validateJoint duration segment joint coefficients recovery check = .ok ()) :
    Accepted duration segment joint coefficients recovery check := by
  obtain ⟨_, positions, rest⟩ := bind_eq_ok ok
  refine ⟨fun u member => position_of_ok (forM_eq_ok positions u member), fun checked => ?_, fun checked => ?_⟩
  · rw [if_pos checked] at rest
    obtain ⟨_, velocities, -⟩ := bind_eq_ok rest
    exact fun u member => velocity_of_ok (forM_eq_ok velocities u member)
  · rw [if_pos checked] at rest
    obtain ⟨_, -, accelerations⟩ := bind_eq_ok rest
    exact fun u member => acceleration_of_ok (forM_eq_ok accelerations u member)

theorem accepted_of_validated {joints : List (TrajectoryJoint ℝ × Coefficients ℝ × Recovery)}
    (ok : validateSegmentExtrema duration joints segment check = .ok ())
    (member : (joint, coefficients, recovery) ∈ joints) :
    Accepted duration segment joint coefficients recovery check := by
  have each := forM_eq_ok ok (joint, coefficients, recovery) member
  exact accepted_of_ok each

/-! ### Every point of a segment -/

theorem length_derivatives (c : Coefficients ℝ) : (derivative c.asPolynomial).length = 5 ∧
    (derivative (derivative c.asPolynomial)).length = 4 ∧
    (derivative (derivative (derivative c.asPolynomial))).length = 3 := by
  simp [derivative, Coefficients.asPolynomial]

theorem slope_nonneg (c : Coefficients ℝ) : 0 ≤ c.slope := mul_nonneg (size_nonneg _) (Nat.cast_nonneg _)

/-- The position stays within the allowed interval, up to the tolerance and the isolation error. -/
theorem Accepted.position_bounds (accepted : Accepted duration segment joint coefficients recovery check) {u : ℝ}
    (nonneg : 0 ≤ u) (le_one : u ≤ 1) :
    allowedLower joint coefficients recovery - limitTolerance - isolationError coefficients.slope 5 ≤
        coefficients.sample u ∧
      coefficients.sample u ≤
        allowedUpper joint coefficients recovery + limitTolerance + isolationError coefficients.slope 5 := by
  obtain ⟨five, -, -⟩ := length_derivatives coefficients
  have separates := rootsOnUnitInterval_separates five.le le_rfl
    (hasDerivAt_evaluate coefficients.asPolynomial)
  rw [five] at separates
  exact separates.bounds accepted.position nonneg le_one

/-- A bound of a scaled polynomial at the candidates bounds it everywhere. -/
theorem scaled_bounds {polynomial : Polynomial ℝ} {slope limit factor : ℝ} {count : ℕ}
    (counted : (derivative polynomial).length = count) (few : count ≤ 5)
    (bounded : weight (derivative polynomial) ≤ slope) (positive : 0 < factor)
    (tested : ∀ u ∈ candidates (derivative polynomial), |evaluate polynomial u / factor| ≤ limit) {u : ℝ}
    (nonneg : 0 ≤ u) (le_one : u ≤ 1) :
    |evaluate polynomial u / factor| ≤ limit + isolationError slope count / factor := by
  have separates := rootsOnUnitInterval_separates (counted.trans_le few) bounded (hasDerivAt_evaluate polynomial)
  rw [counted] at separates
  have within : ∀ r ∈ candidates (derivative polynomial), -(limit * factor) ≤ evaluate polynomial r ∧
      evaluate polynomial r ≤ limit * factor := by
    intro r member
    have bound := tested r member
    rw [abs_div, abs_of_pos positive, div_le_iff₀ positive] at bound
    exact abs_le.mp bound
  obtain ⟨low, high⟩ := separates.bounds within nonneg le_one
  rw [abs_div, abs_of_pos positive, div_le_iff₀ positive, add_mul, div_mul_cancel₀ _ positive.ne']
  exact abs_le.mpr ⟨by linarith, by linarith⟩

theorem weights_le_slope (c : Coefficients ℝ) :
    weight (derivative (derivative c.asPolynomial)) ≤ c.slope ∧
      weight (derivative (derivative (derivative c.asPolynomial))) ≤ c.slope := by
  obtain ⟨five, four, -⟩ := length_derivatives c
  have first := weight_derivative_le (derivative c.asPolynomial) (by omega)
  exact ⟨first, (weight_derivative_le (derivative (derivative c.asPolynomial)) (by omega)).trans first⟩

theorem velocity_bounds {limit : ℝ} (positive : 0 < duration)
    (tested : ∀ u ∈ candidates (derivative (derivative coefficients.asPolynomial)),
      |coefficients.sampleVelocity u duration| ≤ limit) {u : ℝ} (nonneg : 0 ≤ u) (le_one : u ≤ 1) :
    |coefficients.sampleVelocity u duration| ≤ limit + isolationError coefficients.slope 4 / duration := by
  obtain ⟨-, four, -⟩ := length_derivatives coefficients
  exact scaled_bounds four (by norm_num) (weights_le_slope coefficients).1 positive tested nonneg le_one

theorem acceleration_bounds {limit : ℝ} (positive : 0 < duration)
    (tested : ∀ u ∈ candidates (derivative (derivative (derivative coefficients.asPolynomial))),
      |coefficients.sampleAcceleration u duration| ≤ limit) {u : ℝ} (nonneg : 0 ≤ u) (le_one : u ≤ 1) :
    |coefficients.sampleAcceleration u duration| ≤
      limit + isolationError coefficients.slope 3 / (duration * duration) := by
  obtain ⟨-, -, three⟩ := length_derivatives coefficients
  exact scaled_bounds three (by norm_num) (weights_le_slope coefficients).2 (mul_pos positive positive) tested
    nonneg le_one

/-! ### Coefficients up to 1000 -/

theorem slope_le (c : Coefficients ℝ) (bounded : ∀ x ∈ c.asPolynomial, |x| ≤ 1000) : c.slope ≤ 360000 := by
  simp only [Coefficients.asPolynomial, List.mem_cons, List.not_mem_nil, or_false, forall_eq_or_imp,
    forall_eq] at bounded
  obtain ⟨-, b₁, b₂, b₃, b₄, b₅⟩ := bounded
  have total : size (derivative c.asPolynomial) = |c.c₁| + 2 * |c.c₂| + 3 * |c.c₃| + 4 * |c.c₄| + 5 * |c.c₅| := by
    simp [derivative, Coefficients.asPolynomial, size, abs_mul]
    norm_num
    ring
  have fact : (((derivative c.asPolynomial).length - 1).factorial : ℝ) = 24 := by
    rw [(length_derivatives c).1]
    norm_num [Nat.factorial]
  rw [Coefficients.slope, weight, total, fact]
  linarith

theorem isolationError_small {slope : ℝ} (le : slope ≤ 360000) : isolationError slope 5 ≤ 1 / 10 ^ 6 ∧
    20 * isolationError slope 4 ≤ 1 / 10 ^ 6 ∧ 400 * isolationError slope 3 ≤ 1 / 10 ^ 6 := by
  unfold isolationError slack
  norm_num
  refine ⟨?_, ?_, ?_⟩ <;> linarith

/-- The limits that hold at every point of a segment. -/
structure WithinLimits (duration : ℝ) (joint : TrajectoryJoint ℝ) (coefficients : Coefficients ℝ)
    (recovery : Recovery) (check : Bool) : Prop where
  position : ∀ u, 0 ≤ u → u ≤ 1 →
    allowedLower joint coefficients recovery - 2 * limitTolerance ≤ coefficients.sample u ∧
      coefficients.sample u ≤ allowedUpper joint coefficients recovery + 2 * limitTolerance
  velocity : check = true → 1 / 20 ≤ duration → ∀ u, 0 ≤ u → u ≤ 1 →
    |coefficients.sampleVelocity u duration| ≤ joint.velocityLimit + 2 * limitTolerance ∧
      (0 < joint.pvVelocityLimit →
        |coefficients.sampleVelocity u duration| ≤ joint.pvVelocityLimit + 2 * limitTolerance)
  acceleration : check = true → 1 / 20 ≤ duration → ∀ u, 0 ≤ u → u ≤ 1 →
    |coefficients.sampleAcceleration u duration| ≤ joint.accelerationLimit + 2 * limitTolerance

theorem Accepted.withinLimits (accepted : Accepted duration segment joint coefficients recovery check)
    (bounded : ∀ x ∈ coefficients.asPolynomial, |x| ≤ 1000) :
    WithinLimits duration joint coefficients recovery check := by
  obtain ⟨position, velocity, acceleration⟩ := isolationError_small (slope_le coefficients bounded)
  have nonneg : ∀ count, 0 ≤ isolationError coefficients.slope count := fun count =>
    le_trans (by positivity) (dropped_le_isolationError (slope_nonneg coefficients) count)
  have tolerance : limitTolerance = (1 : ℝ) / 10 ^ 6 := rfl
  constructor
  · intro u above below
    obtain ⟨low, high⟩ := accepted.position_bounds above below
    constructor <;> linarith
  · intro checked long u above below
    have positive : 0 < duration := by linarith
    have error : isolationError coefficients.slope 4 / duration ≤ limitTolerance := by
      rw [div_le_iff₀ positive, tolerance]
      nlinarith [nonneg 4]
    constructor
    · have bound := velocity_bounds positive (fun r member => (accepted.velocity checked r member).1) above below
      linarith
    · intro limited
      have bound := velocity_bounds positive (fun r member => (accepted.velocity checked r member).2 limited)
        above below
      linarith
  · intro checked long u above below
    have positive : 0 < duration := by linarith
    have square : 1 / 400 ≤ duration * duration := by nlinarith
    have error : isolationError coefficients.slope 3 / (duration * duration) ≤ limitTolerance := by
      rw [div_le_iff₀ (by positivity), tolerance]
      nlinarith [nonneg 3]
    have bound := acceleration_bounds positive (accepted.acceleration checked) above below
    linarith

end Bounds

/-- `validate_segment_extrema` is sound for every point of the segments that it accepts, the quintic
segments have their boundary values, and the recursion of `roots_on_unit_interval` ends. -/
theorem validateSegmentExtrema_sound {duration : ℝ}
    {joints : List (TrajectoryJoint ℝ × Coefficients ℝ × Recovery)} {segment : ℕ} {check : Bool}
    (ok : validateSegmentExtrema duration joints segment check = .ok ())
    (bounded : ∀ entry ∈ joints, ∀ x ∈ entry.2.1.asPolynomial, |x| ≤ 1000) :
    (∀ entry ∈ joints, WithinLimits duration entry.1 entry.2.1 entry.2.2 check) ∧
      (∀ length p₀ v₀ a₀ p₁ v₁ a₁ : ℝ, 0 < length →
        Reproduces (quinticCoefficients p₀ v₀ a₀ p₁ v₁ a₁ length) length p₀ v₀ a₀ p₁ v₁ a₁) ∧
      WellFounded (RootCall (K := ℝ)) ∧
      ∀ coefficients : Polynomial ℝ,
        rootsOnUnitInterval coefficients = rootsBody rootsOnUnitInterval coefficients := by
  refine ⟨fun entry member => ?_, fun length p₀ v₀ a₀ p₁ v₁ a₁ positive => ?_, rootCall_wellFounded,
    rootsOnUnitInterval_eq⟩
  · exact (accepted_of_validated ok member).withinLimits (bounded entry member)
  · exact quinticCoefficients_reproduces positive.ne' two_ne_zero p₀ v₀ a₀ p₁ v₁ a₁

/-! ## A segment that turns around -/

section TurnAround

/-- The points where a polynomial is tested lie in the unit interval. -/
theorem unit_candidates {polynomial : Polynomial ℝ} {u : ℝ} (member : u ∈ candidates polynomial) : 0 ≤ u ∧ u ≤ 1 := by
  rcases List.mem_cons.mp member with rfl | member
  · exact ⟨le_rfl, zero_le_one⟩
  rcases List.mem_cons.mp member with rfl | root
  · exact ⟨zero_le_one, le_rfl⟩
  · exact unit_rootsWithin _ _ u root

def turningJoint : TrajectoryJoint ℝ := ⟨"joint1", 0, 1, 1, 1, 1, -1, 1, 1, 3.0, 1, 1, 1, 0, 0, 0⟩

/-- A segment that the joint enters at full speed and leaves at full speed backwards. -/
def turnAround : Coefficients ℝ := quinticCoefficients 0 1 0 0 (-1) 0 1

theorem turnAround_eq : turnAround = ⟨0, 1, 0, -2, 1, 0⟩ := by
  norm_num [turnAround, quinticCoefficients]

theorem sampleVelocity_turnAround (u : ℝ) : turnAround.sampleVelocity u 1 = 1 - 2 * (u ^ 2 * (3 - 2 * u)) := by
  rw [turnAround_eq]
  simp [Coefficients.sampleVelocity, Coefficients.asPolynomial, evaluate, derivative]
  ring

theorem bend_mem {u : ℝ} (above : 0 ≤ u) (below : u ≤ 1) : 0 ≤ u * (1 - u) ∧ u * (1 - u) ≤ 1 / 4 :=
  ⟨mul_nonneg above (sub_nonneg.mpr below), by linarith [sq_nonneg (u - 1 / 2), sq (u - 1 / 2)]⟩

theorem checkPosition_turnAround {u : ℝ} (above : 0 ≤ u) (below : u ≤ 1) :
    checkPosition 0 turningJoint turnAround .none u = .ok () := by
  obtain ⟨low, high⟩ := bend_mem above below
  have value : turnAround.sample u = u * (1 - u) * (1 + u * (1 - u)) := by
    rw [turnAround_eq]
    simp [Coefficients.sample, Coefficients.asPolynomial, evaluate]
    ring
  have positive : 0 ≤ u * (1 - u) * (1 + u * (1 - u)) := mul_nonneg low (by linarith)
  have small : u * (1 - u) * (1 + u * (1 - u)) ≤ 1 := by nlinarith
  have tolerance : (0 : ℝ) ≤ limitTolerance := limitTolerance_nonneg
  unfold checkPosition
  simp only [value]
  rw [if_neg]
  rw [show allowedLower turningJoint turnAround .none = -1 from rfl,
    show allowedUpper turningJoint turnAround .none = 1 from rfl, not_or, not_lt, not_lt]
  exact ⟨by linarith, by linarith⟩

theorem checkVelocity_turnAround {u : ℝ} (above : 0 ≤ u) (below : u ≤ 1) :
    checkVelocity 1 0 turningJoint turnAround u = .ok () := by
  have positive : 0 ≤ u ^ 2 * (3 - 2 * u) := mul_nonneg (sq_nonneg u) (by linarith)
  have rest : 1 - u ^ 2 * (3 - 2 * u) = (1 - u) ^ 2 * (1 + 2 * u) := by ring
  have small : 0 ≤ (1 - u) ^ 2 * (1 + 2 * u) := mul_nonneg (sq_nonneg _) (by linarith)
  have slow : |1 - 2 * (u ^ 2 * (3 - 2 * u))| ≤ turningJoint.velocityLimit := by
    change |_| ≤ (1 : ℝ)
    exact abs_le.mpr ⟨by linarith, by linarith⟩
  unfold checkVelocity
  simp only [sampleVelocity_turnAround]
  rw [if_neg (not_lt.mpr (slow.trans (le_add_of_nonneg_right limitTolerance_nonneg))),
    if_neg fun both => lt_irrefl _ both.1]

theorem checkAcceleration_turnAround {u : ℝ} (above : 0 ≤ u) (below : u ≤ 1) :
    checkAcceleration 1 0 turningJoint turnAround u = .ok () := by
  obtain ⟨low, high⟩ := bend_mem above below
  have value : turnAround.sampleAcceleration u 1 = -(12 * (u * (1 - u))) := by
    rw [turnAround_eq]
    simp [Coefficients.sampleAcceleration, Coefficients.asPolynomial, evaluate, derivative]
    ring
  have slow : |-(12 * (u * (1 - u)))| ≤ turningJoint.accelerationLimit := by
    rw [abs_neg, abs_of_nonneg (by linarith)]
    norm_num [turningJoint]
    linarith
  unfold checkAcceleration
  simp only [value]
  rw [if_neg (not_lt.mpr (slow.trans (le_add_of_nonneg_right limitTolerance_nonneg)))]

theorem validateJoint_turnAround : validateJoint 1 0 turningJoint turnAround .none true = .ok () := by
  have inside {check : ℝ → Except (SegmentError ℝ) Unit} (polynomial : Polynomial ℝ)
      (passes : ∀ {u}, 0 ≤ u → u ≤ 1 → check u = .ok ()) : (candidates polynomial).forM check = .ok () :=
    forM_ok fun u member => passes (unit_candidates member).1 (unit_candidates member).2
  unfold validateJoint
  simp only
  rw [inside _ checkPosition_turnAround, ok_bind, if_pos trivial, inside _ checkVelocity_turnAround, ok_bind,
    inside _ checkAcceleration_turnAround]

end TurnAround

/-- A joint that turns around in the middle of a segment. -/
theorem validateSegmentExtrema_sound_turnAround :
    turnAround.sampleVelocity (1 / 2) 1 = 0 ∧ WithinLimits 1 turningJoint turnAround .none true := by
  have ok : validateSegmentExtrema 1 [(turningJoint, turnAround, .none)] 0 true = .ok () := by
    refine forM_ok fun entry member => ?_
    obtain rfl := List.mem_singleton.mp member
    exact validateJoint_turnAround
  refine ⟨?_, (validateSegmentExtrema_sound ok ?_).1 _ (List.mem_singleton_self _)⟩
  · rw [sampleVelocity_turnAround]
    norm_num
  · norm_num [turnAround_eq, Coefficients.asPolynomial]

end

end MotorDrive.Trajectory
