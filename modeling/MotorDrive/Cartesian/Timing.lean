import MotorDrive.Library.Validate

/-!
# Time laws of joint paths

`time_parameterize_cartesian_trajectory` of `product_cartesian.cpp` over the real numbers: a joint path is sampled along
one quintic time law, at knots that are found by subdivision, and slowed down until the limits hold.
-/

namespace MotorDrive.Cartesian

open Validate

noncomputable section

/-- `CartesianJointPoint`: the joints of both arms. -/
abbrev JointPoint := Fin 14 → ℝ

/-- `TimedCartesianJointPath`. -/
structure TimedJointPath where
  points : List JointPoint
  timestamps : List ℝ

def TimedJointPath.point (path : TimedJointPath) (knot : ℕ) : JointPoint := path.points.getD knot 0

def TimedJointPath.time (path : TimedJointPath) (knot : ℕ) : ℝ := path.timestamps.getD knot 0

/-- `std::clamp` between zero and one. -/
def clampUnit (amount : ℝ) : ℝ := min (max amount 0) 1

/-- `quintic_progress`. -/
def quinticProgress (amount : ℝ) : ℝ :=
  let amount := clampUnit amount
  amount ^ 3 * (10 + amount * (-15 + 6 * amount))

/-- One turn of the bisection. -/
def bisect (progress : ℝ) (bounds : ℝ × ℝ) : ℝ × ℝ :=
  let middle := 0.5 * (bounds.1 + bounds.2)
  if quinticProgress middle < progress then (middle, bounds.2) else (bounds.1, middle)

/-- `inverse_quintic_progress`. -/
def inverseQuinticProgress (progress : ℝ) : ℝ :=
  let bounds := (bisect (clampUnit progress))^[60] (0, 1)
  0.5 * (bounds.1 + bounds.2)

/-- `sample_cartesian_joint_path`, for a path of at least two points. -/
def sampleJointPath (path : List JointPoint) (timeAmount : ℝ) : JointPoint :=
  let timeAmount := clampUnit timeAmount
  let pathPosition := quinticProgress timeAmount * (path.length - 1 : ℕ)
  let lower := min ⌊pathPosition⌋₊ (path.length - 2)
  let fraction := if 1 ≤ timeAmount then 1 else pathPosition - lower
  if 1 ≤ timeAmount then path.getLastD 0
  else if timeAmount ≤ 0 then path.headD 0
  else fun joint =>
    path.getD lower 0 joint + fraction * (path.getD (lower + 1) 0 joint - path.getD lower 0 joint)

/-! ## Limits -/

/-- One turn of the loop of `variable_path_stretch_factor`: the velocity up to a knot, and the factor so far. -/
def stretchKnot (path : TimedJointPath) (maximumVelocity maximumAcceleration : ℝ) (state : JointPoint × ℝ)
    (knot : ℕ) : Except String (JointPoint × ℝ) :=
  let interval := path.time knot - path.time (knot - 1)
  if interval ≤ 0 then .error "Cartesian adaptive knot timestamps are not strictly increasing"
  else
    let velocity : JointPoint := fun joint => (path.point knot joint - path.point (knot - 1) joint) / interval
    let accelerationInterval :=
      if knot = 1 then interval else 0.5 * (interval + path.time (knot - 1) - path.time (knot - 2))
    let acceleration : JointPoint := fun joint => (velocity joint - state.1 joint) / accelerationInterval
    .ok (velocity, (List.finRange 14).foldl (fun factor joint =>
      max (max factor (|velocity joint| / maximumVelocity)) (√(|acceleration joint| / maximumAcceleration))) state.2)

/-- `variable_path_stretch_factor`. -/
def stretchFactor (path : TimedJointPath) (maximumVelocity maximumAcceleration : ℝ) : Except String ℝ := do
  let (velocity, factor) ← (List.range' 1 (path.points.length - 1)).foldlM
    (stretchKnot path maximumVelocity maximumAcceleration) (0, 1)
  let finalInterval := path.time (path.timestamps.length - 1) - path.time (path.timestamps.length - 2)
  return (List.finRange 14).foldl
    (fun factor joint => max factor (√(|velocity joint / finalInterval| / maximumAcceleration))) factor

/-! ## Knots -/

/-- The knots so far, and `required_duration_scale`. -/
structure KnotState where
  result : TimedJointPath
  requiredDurationScale : ℝ

/-- A knot at the end of the list. -/
def KnotState.push (state : KnotState) (point : JointPoint) (timestamp : ℝ) : KnotState :=
  { state with result := ⟨state.result.points ++ [point], state.result.timestamps ++ [timestamp]⟩ }

/-- A scale that the duration is multiplied by at least. -/
def KnotState.require (state : KnotState) (scale : ℝ) : KnotState :=
  { state with requiredDurationScale := max state.requiredDurationScale scale }

/-- The largest absolute value of the joints. -/
def largest (value : JointPoint) : ℝ := (List.finRange 14).foldl (fun largest joint => max largest |value joint|) 0

/-- `append_interval`, with the depth that is left of 32. -/
def appendInterval (path : List JointPoint) (candidateDuration : ℝ) :
    ℕ → ℝ → JointPoint → ℝ → JointPoint → KnotState → Except String KnotState
  | depthLeft, startAmount, start, endAmount, finish, state =>
    if 30000 - 3 < state.result.points.length then
      .error "Cartesian automatic timing requires more than the native point capacity"
    else
      let interval := (endAmount - startAmount) * candidateDuration
      let maximumStep := largest (finish - start)
      let middleAmount := 0.5 * (startAmount + endAmount)
      let middle := sampleJointPath path middleAmount
      let maximumLinearizationError := largest fun joint => middle joint - 0.5 * (start joint + finish joint)
      if 0.050 + 1e-12 < interval ∨ 0.020 + 1e-12 < maximumStep ∨ 0.001 + 1e-12 < maximumLinearizationError then
        match depthLeft with
        | 0 => .error "Cartesian adaptive knot subdivision did not converge"
        | depthLeft + 1 =>
          if 0.5 * interval + 1e-12 < 0.004 then
            .ok ((state.require (2 * 0.004 / max interval 1e-12 * 1.01)).push finish (endAmount * candidateDuration))
          else do
            let state ← appendInterval path candidateDuration depthLeft startAmount start middleAmount middle state
            appendInterval path candidateDuration depthLeft middleAmount middle endAmount finish state
      else
        let state := if interval + 1e-12 < 0.004 then state.require (0.004 / max interval 1e-12 * 1.01) else state
        .ok (state.push finish (endAmount * candidateDuration))

/-- `mandatory_amounts`: the time amounts of the points of the path. -/
def mandatoryAmounts (path : List JointPoint) : List ℝ :=
  0 :: (List.range' 1 (path.length - 2)).map
    (fun sample => inverseQuinticProgress ((sample : ℝ) / (path.length - 1 : ℕ))) ++ [1]

/-- The knots of a segment between two mandatory amounts. -/
def appendSegment (path : List JointPoint) (candidateDuration : ℝ) (state : KnotState) (segment : ℕ) :
    Except String KnotState :=
  let amounts := mandatoryAmounts path
  let startAmount := amounts.getD segment 0
  let endAmount := amounts.getD (segment + 1) 0
  let start := if segment = 0 then path.headD 0 else sampleJointPath path startAmount
  let finish := if segment + 2 = amounts.length then path.getLastD 0 else sampleJointPath path endAmount
  appendInterval path candidateDuration 32 startAmount start endAmount finish state

/-- One attempt with a duration: the plan, and the scale that the duration requires. -/
def attemptTiming (path : List JointPoint) (maximumVelocity maximumAcceleration candidateDuration : ℝ) :
    Except String (TimedJointPath × ℝ) := do
  let state ← (List.range ((mandatoryAmounts path).length - 1)).foldlM (appendSegment path candidateDuration)
    ⟨⟨[path.headD 0], [0]⟩, 1⟩
  let points := (state.result.points.set 0 (path.headD 0)).set (state.result.points.length - 1) (path.getLastD 0)
  let timestamps := (state.result.timestamps.set 0 0).set (state.result.timestamps.length - 1) candidateDuration
  let result : TimedJointPath := ⟨points, timestamps⟩
  let limitFactor ← stretchFactor result maximumVelocity maximumAcceleration
  let state := if 1.0001 < limitFactor then state.require (limitFactor * 1.01) else state
  return (result, state.requiredDurationScale)

/-- The loop over the attempts, with a number of them left. -/
def timingLoop (path : List JointPoint) (maximumVelocity maximumAcceleration : ℝ) :
    ℕ → ℝ → Except String TimedJointPath
  | 0, _ => .error "Cartesian adaptive trajectory timing did not converge"
  | attempts + 1, candidateDuration =>
    if 60 < candidateDuration then
      .error "Cartesian trajectory cannot satisfy velocity and acceleration limits within 60 seconds"
    else do
      let (result, requiredDurationScale) ← attemptTiming path maximumVelocity maximumAcceleration candidateDuration
      if requiredDurationScale ≤ 1.0001 then return result
      else timingLoop path maximumVelocity maximumAcceleration attempts (candidateDuration * requiredDurationScale)

/-- The length of the way of a joint. -/
def jointVariation (path : List JointPoint) (joint : Fin 14) : ℝ :=
  ((path.zip path.tail).map fun (first, second) => |second joint - first joint|).sum

/-- `time_parameterize_cartesian_trajectory`. -/
def timeParameterize (path : List JointPoint) (maximumVelocity maximumAcceleration : ℝ) :
    Except String TimedJointPath :=
  if maximumVelocity ≤ 0 ∨ maximumAcceleration ≤ 0 then
    .error "Cartesian trajectory velocity and acceleration must be finite and positive"
  else if path.length < 2 then .error "Cartesian path requires at least two points"
  else
    let maximumJointVariation := largest (jointVariation path)
    timingLoop path maximumVelocity maximumAcceleration 20
      (max 0.10 (max (1.875 * maximumJointVariation / maximumVelocity)
        √(6 * maximumJointVariation / maximumAcceleration)))

/-! ## Largest values -/

theorem foldl_max_le_iff {ι : Type} {f : ι → ℝ} {items : List ι} {first bound : ℝ} :
    items.foldl (fun value item => max value (f item)) first ≤ bound ↔
      first ≤ bound ∧ ∀ item ∈ items, f item ≤ bound := by
  induction items generalizing first with
  | nil => exact ⟨fun le => ⟨le, fun _ member => absurd member List.not_mem_nil⟩, And.left⟩
  | cons head rest ih => rw [List.foldl_cons, ih, max_le_iff, List.forall_mem_cons, and_assoc]

theorem largest_le {value : JointPoint} {bound : ℝ} (nonneg : 0 ≤ bound) (each : ∀ joint, |value joint| ≤ bound) :
    largest value ≤ bound := foldl_max_le_iff.mpr ⟨nonneg, fun joint _ => each joint⟩

theorem abs_le_largest (value : JointPoint) (joint : Fin 14) : |value joint| ≤ largest value :=
  (foldl_max_le_iff.mp (le_refl (largest value))).2 joint (List.mem_finRange joint)

/-! ## Samples of a path -/

theorem clampUnit_mem (amount : ℝ) : 0 ≤ clampUnit amount ∧ clampUnit amount ≤ 1 :=
  ⟨le_min (le_max_right _ _) zero_le_one, min_le_right _ _⟩

theorem clampUnit_of_mem {amount : ℝ} (above : 0 ≤ amount) (below : amount ≤ 1) : clampUnit amount = amount := by
  rw [clampUnit, max_eq_left above, min_eq_left below]

theorem clampUnit_mono {first second : ℝ} (le : first ≤ second) : clampUnit first ≤ clampUnit second :=
  min_le_min_right 1 (max_le_max_right 0 le)

theorem quinticProgress_clampUnit (amount : ℝ) : quinticProgress (clampUnit amount) = quinticProgress amount := by
  unfold quinticProgress
  rw [clampUnit_of_mem (clampUnit_mem amount).1 (clampUnit_mem amount).2]

theorem monotoneOn_quintic : MonotoneOn (fun x : ℝ => x ^ 3 * (10 + x * (-15 + 6 * x))) (Set.Icc 0 1) := by
  refine monotoneOn_of_deriv_nonneg (convex_Icc 0 1) (by fun_prop) (by fun_prop) fun x _ => ?_
  have slope : HasDerivAt (fun x : ℝ => x ^ 3 * (10 + x * (-15 + 6 * x))) (30 * (x * (1 - x)) ^ 2) x := by
    have inner := (hasDerivAt_id x).mul (((hasDerivAt_id x).const_mul 6).const_add (-15))
    refine (((hasDerivAt_id x).pow 3).mul (inner.const_add 10)).congr_deriv ?_
    simp only [id, Pi.mul_apply, Pi.pow_apply]
    push_cast
    ring
  rw [slope.deriv]
  positivity

theorem quinticProgress_mono {first second : ℝ} (le : first ≤ second) :
    quinticProgress first ≤ quinticProgress second :=
  monotoneOn_quintic (clampUnit_mem first) (clampUnit_mem second) (clampUnit_mono le)

theorem quinticProgress_zero : quinticProgress 0 = 0 := by
  norm_num [quinticProgress, clampUnit]

theorem quinticProgress_one : quinticProgress 1 = 1 := by
  norm_num [quinticProgress, clampUnit]

theorem quinticProgress_mem (amount : ℝ) : 0 ≤ quinticProgress amount ∧ quinticProgress amount ≤ 1 := by
  rw [← quinticProgress_clampUnit]
  constructor
  · exact quinticProgress_zero ▸ quinticProgress_mono (clampUnit_mem amount).1
  · exact quinticProgress_one ▸ quinticProgress_mono (clampUnit_mem amount).2

/-- The point lies on a segment of the polyline of a path, at a position counted in segments. -/
def OnPolyline (path : List JointPoint) (position : ℝ) (point : JointPoint) : Prop :=
  ∃ lower : ℕ, lower + 1 < path.length ∧ lower ≤ position ∧ position ≤ lower + 1 ∧ ∀ joint,
    point joint = path.getD lower 0 joint +
      (position - lower) * (path.getD (lower + 1) 0 joint - path.getD lower 0 joint)

/-- The position of the sample at a time amount. -/
def samplePosition (path : List JointPoint) (timeAmount : ℝ) : ℝ :=
  quinticProgress timeAmount * (path.length - 1 : ℕ)

theorem samplePosition_mono (path : List JointPoint) {first second : ℝ} (le : first ≤ second) :
    samplePosition path first ≤ samplePosition path second :=
  mul_le_mul_of_nonneg_right (quinticProgress_mono le) (Nat.cast_nonneg _)

section Sample

variable {path : List JointPoint} {timeAmount : ℝ}

theorem sampleJointPath_of_le (start : timeAmount ≤ 0) : sampleJointPath path timeAmount = path.headD 0 := by
  have clamped : clampUnit timeAmount = 0 := by
    rw [clampUnit, max_eq_right start, min_eq_left zero_le_one]
  unfold sampleJointPath
  simp only [clamped]
  rw [if_neg (by norm_num), if_pos le_rfl]

theorem sampleJointPath_of_ge (finish : 1 ≤ timeAmount) : sampleJointPath path timeAmount = path.getLastD 0 := by
  have clamped : clampUnit timeAmount = 1 := by
    rw [clampUnit, max_eq_left (zero_le_one.trans finish), min_eq_right finish]
  unfold sampleJointPath
  simp only [clamped]
  rw [if_pos le_rfl]

theorem headD_eq_getD {α : Type} (items : List α) (default : α) : items.headD default = items.getD 0 default := by
  cases items <;> rfl

theorem getLastD_eq_getD {α : Type} (items : List α) (default : α) :
    items.getLastD default = items.getD (items.length - 1) default := by
  rw [List.getLastD_eq_getLast?, List.getLast?_eq_getElem?, List.getD_eq_getElem?_getD]

/-- A sample lies on the polyline of the path. -/
theorem onPolyline_sample (two : 2 ≤ path.length) (timeAmount : ℝ) :
    OnPolyline path (samplePosition path timeAmount) (sampleJointPath path timeAmount) := by
  obtain ⟨last, length⟩ : ∃ last, path.length = last + 2 := ⟨path.length - 2, by omega⟩
  have size : ((path.length - 1 : ℕ) : ℝ) = last + 1 := by
    rw [length]
    push_cast
    ring
  rcases le_or_gt timeAmount 0 with start | started
  · have position : samplePosition path timeAmount = 0 := by
      have zero : quinticProgress timeAmount = 0 :=
        le_antisymm (quinticProgress_zero ▸ quinticProgress_mono start) (quinticProgress_mem _).1
      rw [samplePosition, zero, zero_mul]
    refine ⟨0, by omega, by simp [position], by simp [position], fun joint => ?_⟩
    rw [sampleJointPath_of_le start, headD_eq_getD, position]
    simp
  rcases le_or_gt 1 timeAmount with finish | running
  · have position : samplePosition path timeAmount = last + 1 := by
      have one : quinticProgress timeAmount = 1 :=
        le_antisymm (quinticProgress_mem _).2 (quinticProgress_one ▸ quinticProgress_mono finish)
      rw [samplePosition, one, one_mul, size]
    refine ⟨last, by omega, by rw [position]; linarith, position.le, fun joint => ?_⟩
    rw [sampleJointPath_of_ge finish, getLastD_eq_getD, position, length]
    simp
  · have clamped : clampUnit timeAmount = timeAmount := clampUnit_of_mem started.le running.le
    have nonneg : 0 ≤ samplePosition path timeAmount :=
      mul_nonneg (quinticProgress_mem _).1 (Nat.cast_nonneg _)
    have below : samplePosition path timeAmount ≤ last + 1 := by
      rw [samplePosition, size]
      have unit := mul_le_mul_of_nonneg_right (quinticProgress_mem timeAmount).2 (by positivity : (0 : ℝ) ≤ last + 1)
      linarith
    refine ⟨min ⌊samplePosition path timeAmount⌋₊ (path.length - 2), by omega, ?_, ?_, fun joint => ?_⟩
    · exact (Nat.cast_le.mpr (min_le_left _ _)).trans (Nat.floor_le nonneg)
    · rcases le_total ⌊samplePosition path timeAmount⌋₊ (path.length - 2) with inside | beyond
      · rw [min_eq_left inside]
        exact (Nat.lt_floor_add_one _).le
      · rw [min_eq_right beyond, length]
        push_cast
        linarith
    · unfold sampleJointPath
      simp only [clamped]
      rw [if_neg (not_le.mpr running), if_neg (not_le.mpr running), if_neg (not_le.mpr started)]
      rfl

end Sample

/-! ## Velocities and accelerations at the knots -/

/-- The velocity up to a knot. -/
def knotVelocity (path : TimedJointPath) : ℕ → JointPoint
  | 0 => 0
  | knot + 1 => fun joint =>
    (path.point (knot + 1) joint - path.point knot joint) / (path.time (knot + 1) - path.time knot)

/-- The acceleration at a knot, with the start from rest. -/
def knotAcceleration (path : TimedJointPath) : ℕ → JointPoint
  | 0 => fun joint => (knotVelocity path 1 joint - knotVelocity path 0 joint) / (path.time 1 - path.time 0)
  | knot + 1 => fun joint => (knotVelocity path (knot + 2) joint - knotVelocity path (knot + 1) joint) /
      (0.5 * (path.time (knot + 2) - path.time (knot + 1) + path.time (knot + 1) - path.time knot))

/-- The acceleration of the stop at the last knot. -/
def stopAcceleration (path : TimedJointPath) : JointPoint := fun joint =>
  knotVelocity path (path.points.length - 1) joint /
    (path.time (path.timestamps.length - 1) - path.time (path.timestamps.length - 2))

/-- The velocities and the accelerations at the knots, with the start from rest and the stop, up to a factor of the
limits. -/
structure WithinLimits (path : TimedJointPath) (maximumVelocity maximumAcceleration factor : ℝ) : Prop where
  velocity : ∀ knot, knot + 1 < path.points.length → ∀ joint,
    |knotVelocity path (knot + 1) joint| ≤ factor * maximumVelocity
  acceleration : ∀ knot, knot + 1 < path.points.length → ∀ joint,
    |knotAcceleration path knot joint| ≤ factor ^ 2 * maximumAcceleration
  stop : ∀ joint, |stopAcceleration path joint| ≤ factor ^ 2 * maximumAcceleration

section Stretch

variable {path : TimedJointPath} {maximumVelocity maximumAcceleration : ℝ}

/-- One turn of the loop over the knots. -/
theorem stretchKnot_eq {knot : ℕ} {factor : ℝ} (increases : path.time knot < path.time (knot + 1)) :
    stretchKnot path maximumVelocity maximumAcceleration (knotVelocity path knot, factor) (1 + knot) =
      .ok (knotVelocity path (knot + 1), (List.finRange 14).foldl (fun factor joint =>
        max factor (max (|knotVelocity path (knot + 1) joint| / maximumVelocity)
          (√(|knotAcceleration path knot joint| / maximumAcceleration)))) factor) := by
  unfold stretchKnot
  simp only [Nat.add_comm 1 knot, Nat.add_sub_cancel]
  rw [if_neg (not_le.mpr (sub_pos.mpr increases))]
  simp only [max_assoc]
  cases knot with
  | zero => rfl
  | succ knot => rfl

/-- The loop over the knots gives the last velocity and the largest factor. -/
theorem stretchKnots_ok {count : ℕ} {state : JointPoint × ℝ}
    (ok : (List.range' 1 count).foldlM (stretchKnot path maximumVelocity maximumAcceleration) (0, 1) = .ok state) :
    state.1 = knotVelocity path count ∧ (∀ knot < count, path.time knot < path.time (knot + 1)) ∧
      ∀ bound, state.2 ≤ bound ↔ 1 ≤ bound ∧ ∀ knot < count, ∀ joint,
        max (|knotVelocity path (knot + 1) joint| / maximumVelocity)
          (√(|knotAcceleration path knot joint| / maximumAcceleration)) ≤ bound := by
  induction count generalizing state with
  | zero =>
    cases ok
    exact ⟨rfl, fun _ none => absurd none (Nat.not_lt_zero _),
      fun bound => ⟨fun le => ⟨le, fun _ none => absurd none (Nat.not_lt_zero _)⟩, And.left⟩⟩
  | succ count ih =>
    rw [List.range'_1_concat, List.foldlM_append] at ok
    obtain ⟨before, earlier, last⟩ := bind_eq_ok ok
    obtain ⟨velocity, increasing, bounded⟩ := ih earlier
    simp only [List.foldlM_cons, List.foldlM_nil, bind_pure] at last
    have increases : path.time count < path.time (count + 1) := by
      by_contra still
      have wrong : path.time (1 + count) - path.time (1 + count - 1) ≤ 0 := by
        rw [Nat.add_comm, Nat.add_sub_cancel]
        exact sub_nonpos.mpr (not_lt.mp still)
      unfold stretchKnot at last
      rw [if_pos wrong] at last
      cases last
    have pair : before = (knotVelocity path count, before.2) := Prod.ext velocity rfl
    rw [pair, stretchKnot_eq increases] at last
    cases last
    refine ⟨rfl, fun knot below => ?_, fun bound => ?_⟩
    · rcases Nat.lt_succ_iff_lt_or_eq.mp below with earlier | rfl
      · exact increasing knot earlier
      · exact increases
    · rw [foldl_max_le_iff, bounded bound, and_assoc]
      refine and_congr_right fun _ => ⟨fun ⟨earlier, last⟩ knot below joint => ?_, fun all => ⟨?_, ?_⟩⟩
      · rcases Nat.lt_succ_iff_lt_or_eq.mp below with before | rfl
        · exact earlier knot before joint
        · exact last joint (List.mem_finRange joint)
      · exact fun knot below joint => all knot (Nat.lt_succ_of_lt below) joint
      · exact fun joint _ => all count (Nat.lt_succ_self _) joint

/-- The loop over the knots ends if the timestamps increase. -/
theorem exists_stretchKnots (path : TimedJointPath) (maximumVelocity maximumAcceleration : ℝ) {count : ℕ}
    (increasing : ∀ knot < count, path.time knot < path.time (knot + 1)) :
    ∃ state, (List.range' 1 count).foldlM (stretchKnot path maximumVelocity maximumAcceleration) (0, 1) =
      .ok state := by
  induction count with
  | zero => exact ⟨_, rfl⟩
  | succ count ih =>
    obtain ⟨before, earlier⟩ := ih fun knot below => increasing knot (Nat.lt_succ_of_lt below)
    have pair : before = (knotVelocity path count, before.2) := Prod.ext (stretchKnots_ok earlier).1 rfl
    rw [List.range'_1_concat, List.foldlM_append, earlier, ok_bind]
    simp only [List.foldlM_cons, List.foldlM_nil, bind_pure]
    rw [pair, stretchKnot_eq (increasing count (Nat.lt_succ_self _))]
    exact ⟨_, rfl⟩

theorem ratio_le_iff {value limit bound : ℝ} (limit_pos : 0 < limit) :
    |value| / limit ≤ bound ↔ |value| ≤ bound * limit := div_le_iff₀ limit_pos

theorem root_ratio_le_iff {value limit bound : ℝ} (limit_pos : 0 < limit) (one_le : 1 ≤ bound) :
    √(|value| / limit) ≤ bound ↔ |value| ≤ bound ^ 2 * limit := by
  rw [Real.sqrt_le_left (zero_le_one.trans one_le), div_le_iff₀ limit_pos]

/-- `variable_path_stretch_factor` ends if and only if the timestamps increase, with a factor that is at most a bound
if and only if the limits hold with it. -/
theorem stretchFactor_le_iff (velocity_pos : 0 < maximumVelocity) (acceleration_pos : 0 < maximumAcceleration)
    {bound : ℝ} (one_le : 1 ≤ bound) :
    (∃ factor, stretchFactor path maximumVelocity maximumAcceleration = .ok factor ∧ factor ≤ bound) ↔
      (∀ knot, knot + 1 < path.points.length → path.time knot < path.time (knot + 1)) ∧
        WithinLimits path maximumVelocity maximumAcceleration bound := by
  have stop (velocity : JointPoint) (same : velocity = knotVelocity path (path.points.length - 1)) (factor : ℝ) :
      (List.finRange 14).foldl (fun factor joint => max factor (√(|velocity joint /
        (path.time (path.timestamps.length - 1) - path.time (path.timestamps.length - 2))| /
          maximumAcceleration))) factor ≤ bound ↔
      factor ≤ bound ∧ ∀ joint, |stopAcceleration path joint| ≤ bound ^ 2 * maximumAcceleration := by
    rw [foldl_max_le_iff]
    refine and_congr_right fun _ => ⟨fun all joint => ?_, fun all joint _ => ?_⟩
    · have root := all joint (List.mem_finRange joint)
      rwa [root_ratio_le_iff acceleration_pos one_le, same] at root
    · rw [root_ratio_le_iff acceleration_pos one_le, same]
      exact all joint
  have limits (knot : ℕ) (joint : Fin 14) : max (|knotVelocity path (knot + 1) joint| / maximumVelocity)
      (√(|knotAcceleration path knot joint| / maximumAcceleration)) ≤ bound ↔
        |knotVelocity path (knot + 1) joint| ≤ bound * maximumVelocity ∧
          |knotAcceleration path knot joint| ≤ bound ^ 2 * maximumAcceleration := by
    rw [max_le_iff, ratio_le_iff velocity_pos, root_ratio_le_iff acceleration_pos one_le]
  constructor
  · rintro ⟨factor, ok, le⟩
    obtain ⟨state, folded, last⟩ := bind_eq_ok ok
    obtain ⟨velocity, increasing, bounded⟩ := stretchKnots_ok folded
    cases Except.ok.inj last
    obtain ⟨le, stops⟩ := (stop _ velocity _).mp le
    have each := ((bounded bound).mp le).2
    refine ⟨fun knot below => increasing knot (by omega), fun knot below joint => ?_, fun knot below joint => ?_, stops⟩
    · exact ((limits knot joint).mp (each knot (by omega) joint)).1
    · exact ((limits knot joint).mp (each knot (by omega) joint)).2
  · rintro ⟨increasing, within⟩
    obtain ⟨state, folded⟩ := exists_stretchKnots path maximumVelocity maximumAcceleration
      fun knot (below : knot < path.points.length - 1) => increasing knot (by omega)
    obtain ⟨velocity, -, bounded⟩ := stretchKnots_ok folded
    unfold stretchFactor
    rw [folded, ok_bind]
    refine ⟨_, rfl, (stop _ velocity _).mpr ⟨(bounded bound).mpr ⟨one_le, fun knot below joint => ?_⟩, within.stop⟩⟩
    exact (limits knot joint).mpr
      ⟨within.velocity knot (by omega) joint, within.acceleration knot (by omega) joint⟩

end Stretch

/-! ## The knots of an attempt -/

/-- Two neighbouring time amounts whose knots are as close as `append_interval` asks. -/
structure Fine (path : List JointPoint) (duration first second : ℝ) : Prop where
  long : 0.004 ≤ (second - first) * duration + 1e-12
  short : (second - first) * duration ≤ 0.050 + 1e-12
  step : ∀ joint, |sampleJointPath path second joint - sampleJointPath path first joint| ≤ 0.020 + 1e-12
  straight : ∀ joint, |sampleJointPath path (0.5 * (first + second)) joint -
    0.5 * (sampleJointPath path first joint + sampleJointPath path second joint)| ≤ 0.001 + 1e-12

/-- The knots so far are the samples at some time amounts; they are fine, unless a larger duration is required. -/
structure Knots (path : List JointPoint) (duration : ℝ) (amounts : List ℝ) (state : KnotState) : Prop where
  points : state.result.points = amounts.map (sampleJointPath path)
  timestamps : state.result.timestamps = amounts.map (· * duration)
  fine : state.requiredDurationScale ≤ 1.0001 → amounts.IsChain (Fine path duration)

section Knots

variable {path : List JointPoint} {duration : ℝ} {state state' : KnotState} {before : List ℝ} {first second : ℝ}

theorem Knots.require (knots : Knots path duration before state) (scale : ℝ) :
    Knots path duration before (state.require scale) where
  points := knots.points
  timestamps := knots.timestamps
  fine small := knots.fine ((le_max_left _ _).trans small)

/-- A knot at the next time amount. -/
theorem Knots.push (knots : Knots path duration (before ++ [first]) state)
    (fine : state.requiredDurationScale ≤ 1.0001 → Fine path duration first second) :
    Knots path duration (before ++ [first] ++ [second])
      (state.push (sampleJointPath path second) (second * duration)) where
  points := by
    rw [List.map_append]
    exact congrArg (· ++ _) knots.points
  timestamps := by
    rw [List.map_append]
    exact congrArg (· ++ _) knots.timestamps
  fine small := by
    rw [List.append_assoc, List.singleton_append, List.isChain_append_cons_cons]
    exact ⟨knots.fine small, fine small, .singleton _⟩

/-- A short interval requires a larger duration. -/
theorem lt_scale {interval minimum : ℝ} (minimum_gt : 1e-12 < minimum) (short : interval < minimum) :
    1.0001 < minimum / max interval 1e-12 * 1.01 := by
  have width : 0 < max interval 1e-12 := lt_of_lt_of_le (by norm_num) (le_max_right _ _)
  have ratio : 1 < minimum / max interval 1e-12 := (one_lt_div width).mpr (max_lt short minimum_gt)
  linarith

/-- What `append_interval` can do: a knot at the end of a close interval, a knot that requires a larger duration, or two
halves. -/
theorem appendInterval_cases {depthLeft : ℕ} {start finish : JointPoint}
    (ok : appendInterval path duration depthLeft first start second finish state = .ok state') :
    ((second - first) * duration ≤ 0.050 + 1e-12 ∧ largest (finish - start) ≤ 0.020 + 1e-12 ∧
        largest (fun joint => sampleJointPath path (0.5 * (first + second)) joint -
          0.5 * (start joint + finish joint)) ≤ 0.001 + 1e-12 ∧
        state' = (if (second - first) * duration + 1e-12 < 0.004 then
            state.require (0.004 / max ((second - first) * duration) 1e-12 * 1.01)
          else state).push finish (second * duration)) ∨
      (0.5 * ((second - first) * duration) + 1e-12 < 0.004 ∧
        state' = (state.require (2 * 0.004 / max ((second - first) * duration) 1e-12 * 1.01)).push finish
          (second * duration)) ∨
      ∃ less between, depthLeft = less + 1 ∧
        appendInterval path duration less first start (0.5 * (first + second))
          (sampleJointPath path (0.5 * (first + second))) state = .ok between ∧
        appendInterval path duration less (0.5 * (first + second))
          (sampleJointPath path (0.5 * (first + second))) second finish between = .ok state' := by
  unfold appendInterval at ok
  simp only at ok
  by_cases full : 30000 - 3 < state.result.points.length
  · rw [if_pos full] at ok
    cases ok
  rw [if_neg full] at ok
  by_cases apart : 0.050 + 1e-12 < (second - first) * duration ∨ 0.020 + 1e-12 < largest (finish - start) ∨
      0.001 + 1e-12 < largest fun joint =>
        sampleJointPath path (0.5 * (first + second)) joint - 0.5 * (start joint + finish joint)
  · rw [if_pos apart] at ok
    cases depthLeft with
    | zero => cases ok
    | succ less =>
      by_cases tight : 0.5 * ((second - first) * duration) + 1e-12 < 0.004
      · simp only [if_pos tight] at ok
        exact .inr (.inl ⟨tight, (Except.ok.inj ok).symm⟩)
      · simp only [if_neg tight] at ok
        obtain ⟨between, left, right⟩ := bind_eq_ok ok
        exact .inr (.inr ⟨less, between, rfl, left, right⟩)
  · rw [if_neg apart] at ok
    rw [not_or, not_or, not_lt, not_lt, not_lt] at apart
    exact .inl ⟨apart.1, apart.2.1, apart.2.2, (Except.ok.inj ok).symm⟩

/-- `append_interval` at the end of a close interval that is long enough. -/
theorem appendInterval_close {depthLeft : ℕ} {start finish : JointPoint}
    (room : state.result.points.length ≤ 30000 - 3) (long : 0.004 ≤ (second - first) * duration)
    (short : (second - first) * duration ≤ 0.050 + 1e-12) (step : ∀ joint, |finish joint - start joint| ≤ 0.020)
    (straight : ∀ joint, |sampleJointPath path (0.5 * (first + second)) joint -
      0.5 * (start joint + finish joint)| ≤ 0.001 + 1e-12) :
    appendInterval path duration depthLeft first start second finish state =
      .ok (state.push finish (second * duration)) := by
  have steps : largest (finish - start) ≤ 0.020 + 1e-12 :=
    largest_le (by norm_num) fun joint => (step joint).trans (by norm_num)
  have middle : largest (fun joint => sampleJointPath path (0.5 * (first + second)) joint -
      0.5 * (start joint + finish joint)) ≤ 0.001 + 1e-12 := largest_le (by norm_num) straight
  unfold appendInterval
  simp only
  rw [if_neg (not_lt.mpr room), if_neg, if_neg (not_lt.mpr (long.trans (by norm_num)))]
  rw [not_or, not_or, not_lt, not_lt, not_lt]
  exact ⟨short, steps, middle⟩

/-- A knot with a larger duration that is required. -/
theorem Knots.pushShort (knots : Knots path duration (before ++ [first]) state) {interval minimum : ℝ}
    (minimum_gt : 1e-12 < minimum) (short : interval < minimum) :
    Knots path duration (before ++ [first] ++ [second])
      ((state.require (minimum / max interval 1e-12 * 1.01)).push (sampleJointPath path second)
        (second * duration)) := by
  refine (knots.require _).push fun small => ?_
  exact absurd ((le_max_right _ _).trans small) (not_le.mpr (lt_scale minimum_gt short))

/-- A knot at the end of a close interval. -/
theorem Knots.pushClose (knots : Knots path duration (before ++ [first]) state)
    (short : (second - first) * duration ≤ 0.050 + 1e-12)
    (step : largest (sampleJointPath path second - sampleJointPath path first) ≤ 0.020 + 1e-12)
    (straight : largest (fun joint => sampleJointPath path (0.5 * (first + second)) joint -
      0.5 * (sampleJointPath path first joint + sampleJointPath path second joint)) ≤ 0.001 + 1e-12) :
    Knots path duration (before ++ [first] ++ [second])
      ((if (second - first) * duration + 1e-12 < 0.004 then
          state.require (0.004 / max ((second - first) * duration) 1e-12 * 1.01)
        else state).push (sampleJointPath path second) (second * duration)) := by
  split_ifs with tiny
  · exact knots.pushShort (by norm_num) (by linarith)
  · refine knots.push fun _ => ⟨not_lt.mp tiny, short, fun joint => ?_, fun joint => ?_⟩
    · exact (abs_le_largest (sampleJointPath path second - sampleJointPath path first) joint).trans step
    · exact (abs_le_largest _ joint).trans straight

/-- `append_interval` goes on with knots at time amounts, up to the end of the interval. -/
theorem appendInterval_knots {depthLeft : ℕ} (knots : Knots path duration (before ++ [first]) state)
    (ok : appendInterval path duration depthLeft first (sampleJointPath path first) second
      (sampleJointPath path second) state = .ok state') :
    ∃ more, Knots path duration (before ++ [first] ++ more ++ [second]) state' := by
  induction depthLeft generalizing before first second state state' with
  | zero =>
    rcases appendInterval_cases ok with ⟨short, step, straight, rfl⟩ | ⟨tight, rfl⟩ | ⟨less, between, none, -, -⟩
    · exact ⟨[], by simpa only [List.append_nil] using knots.pushClose short step straight⟩
    · exact ⟨[], by simpa only [List.append_nil] using knots.pushShort (by norm_num) (by linarith)⟩
    · cases none
  | succ depthLeft ih =>
    rcases appendInterval_cases ok with ⟨short, step, straight, rfl⟩ | ⟨tight, rfl⟩ | ⟨less, between, same, left, right⟩
    · exact ⟨[], by simpa only [List.append_nil] using knots.pushClose short step straight⟩
    · exact ⟨[], by simpa only [List.append_nil] using knots.pushShort (by norm_num) (by linarith)⟩
    · cases Nat.succ.inj same
      obtain ⟨more, knots⟩ := ih knots left
      obtain ⟨more', knots⟩ := ih knots right
      refine ⟨more ++ [0.5 * (first + second)] ++ more', ?_⟩
      simpa only [List.append_assoc] using knots

theorem mandatoryAmounts_zero (path : List JointPoint) : (mandatoryAmounts path).getD 0 0 = 0 := rfl

theorem length_mandatoryAmounts (path : List JointPoint) : (mandatoryAmounts path).length = path.length - 2 + 2 := by
  simp [mandatoryAmounts]

theorem mandatoryAmounts_last (path : List JointPoint) : (mandatoryAmounts path).getD (path.length - 2 + 1) 0 = 1 := by
  have last : path.length - 2 + 1 = (0 :: (List.range' 1 (path.length - 2)).map
      (fun sample => inverseQuinticProgress ((sample : ℝ) / (path.length - 1 : ℕ)))).length := by
    simp
  rw [mandatoryAmounts, last, List.getD_eq_getElem?_getD, List.getElem?_concat_length]
  rfl

/-- A segment between two mandatory amounts. -/
theorem appendSegment_knots {segment : ℕ}
    (knots : Knots path duration (before ++ [(mandatoryAmounts path).getD segment 0]) state)
    (ok : appendSegment path duration state segment = .ok state') :
    ∃ more, Knots path duration (before ++ [(mandatoryAmounts path).getD segment 0] ++ more ++
      [(mandatoryAmounts path).getD (segment + 1) 0]) state' := by
  unfold appendSegment at ok
  simp only [length_mandatoryAmounts] at ok
  have start : (if segment = 0 then path.headD 0
      else sampleJointPath path ((mandatoryAmounts path).getD segment 0)) =
        sampleJointPath path ((mandatoryAmounts path).getD segment 0) := by
    split_ifs with zero
    · rw [zero, mandatoryAmounts_zero, sampleJointPath_of_le le_rfl]
    · rfl
  have finish : (if segment + 2 = path.length - 2 + 2 then path.getLastD 0
      else sampleJointPath path ((mandatoryAmounts path).getD (segment + 1) 0)) =
        sampleJointPath path ((mandatoryAmounts path).getD (segment + 1) 0) := by
    split_ifs with last
    · have same : segment + 1 = path.length - 2 + 1 := by omega
      rw [same, mandatoryAmounts_last, sampleJointPath_of_ge le_rfl]
    · rfl
  rw [start, finish] at ok
  exact appendInterval_knots knots ok

/-- The knots of an attempt begin at time amount zero and end at one. -/
theorem segments_knots
    (ok : (List.range ((mandatoryAmounts path).length - 1)).foldlM (appendSegment path duration)
      ⟨⟨[path.headD 0], [0]⟩, 1⟩ = .ok state) :
    ∃ more, Knots path duration ([0] ++ more ++ [1]) state := by
  have size : (mandatoryAmounts path).length - 1 = path.length - 2 + 1 := by
    rw [length_mandatoryAmounts, Nat.add_sub_assoc (by omega)]
  rw [size] at ok
  obtain ⟨states, start, finish, steps⟩ := foldlM_eq_ok ok
  rw [List.length_range] at finish
  have first : Knots path duration ([] ++ [(mandatoryAmounts path).getD 0 0]) (states 0) := by
    rw [start, mandatoryAmounts_zero]
    refine ⟨?_, ?_, fun _ => .singleton _⟩
    · exact congrArg (fun point => [point]) (sampleJointPath_of_le le_rfl).symm
    · exact congrArg (fun time => [time]) (zero_mul duration).symm
  have all (segment : ℕ) (inside : segment < path.length - 2 + 1) : ∃ more, Knots path duration
      ([0] ++ more ++ [(mandatoryAmounts path).getD (segment + 1) 0]) (states (segment + 1)) := by
    induction segment with
    | zero =>
      have step := steps 0 0 (List.getElem?_range inside)
      exact appendSegment_knots first step
    | succ segment ih =>
      obtain ⟨more, knots⟩ := ih (by omega)
      have step := steps (segment + 1) (segment + 1) (List.getElem?_range inside)
      obtain ⟨more', knots⟩ := appendSegment_knots knots step
      exact ⟨more ++ [(mandatoryAmounts path).getD (segment + 1) 0] ++ more',
        by simpa only [List.append_assoc] using knots⟩
  obtain ⟨more, knots⟩ := all (path.length - 2) (Nat.lt_succ_self _)
  rw [mandatoryAmounts_last, finish] at knots
  exact ⟨more, knots⟩

end Knots

/-! ## Plans -/

/-- A plan is the list of the samples at some time amounts. -/
structure Sampled (path : List JointPoint) (duration : ℝ) (amounts : List ℝ) (plan : TimedJointPath) : Prop where
  points : plan.points = amounts.map (sampleJointPath path)
  timestamps : plan.timestamps = amounts.map (· * duration)

section Sampled

variable {path : List JointPoint} {duration : ℝ} {amounts : List ℝ} {plan : TimedJointPath} {knot : ℕ}

theorem Sampled.length_points (sampled : Sampled path duration amounts plan) :
    plan.points.length = amounts.length := by
  rw [sampled.points, List.length_map]

theorem Sampled.length_timestamps (sampled : Sampled path duration amounts plan) :
    plan.timestamps.length = amounts.length := by
  rw [sampled.timestamps, List.length_map]

theorem Sampled.point (sampled : Sampled path duration amounts plan) (inside : knot < amounts.length) :
    plan.point knot = sampleJointPath path amounts[knot] := by
  rw [TimedJointPath.point, sampled.points, List.getD_eq_getElem?_getD, List.getElem?_map,
    List.getElem?_eq_getElem inside]
  rfl

theorem Sampled.time (sampled : Sampled path duration amounts plan) (inside : knot < amounts.length) :
    plan.time knot = amounts[knot] * duration := by
  rw [TimedJointPath.time, sampled.timestamps, List.getD_eq_getElem?_getD, List.getElem?_map,
    List.getElem?_eq_getElem inside]
  rfl

end Sampled

theorem set_of_getElem? {α : Type} {items : List α} {place : ℕ} {item : α} (found : items[place]? = some item) :
    items.set place item = items := by
  obtain ⟨inside, rfl⟩ := List.getElem?_eq_some_iff.mp found
  exact List.set_getElem_self inside

/-- The list of the values at time amounts from zero to one has the values at zero and one at its ends already. -/
theorem set_ends {α : Type} (f : ℝ → α) (more : List ℝ) :
    (((([0] ++ more ++ [1]).map f).set 0 (f 0)).set ((([0] ++ more ++ [1]).map f).length - 1) (f 1)) =
      ([0] ++ more ++ [1]).map f := by
  have start : (([0] ++ more ++ [1]).map f)[0]? = some (f 0) := rfl
  have finish : (([0] ++ more ++ [1]).map f)[(([0] ++ more ++ [1]).map f).length - 1]? = some (f 1) := by
    rw [← List.getLast?_eq_getElem?, List.map_append]
    exact List.getLast?_concat
  rw [set_of_getElem? start, set_of_getElem? finish]

/-- The plan of an attempt is sampled at time amounts from zero to one. If it requires no larger duration, then the
knots are fine and the limits hold. -/
theorem attemptTiming_ok {path : List JointPoint} {maximumVelocity maximumAcceleration duration scale : ℝ}
    {plan : TimedJointPath}
    (ok : attemptTiming path maximumVelocity maximumAcceleration duration = .ok (plan, scale)) :
    ∃ more : List ℝ, Sampled path duration ([0] ++ more ++ [1]) plan ∧
      (scale ≤ 1.0001 → ([0] ++ more ++ [1]).IsChain (Fine path duration) ∧
        ∃ factor, stretchFactor plan maximumVelocity maximumAcceleration = .ok factor ∧ factor ≤ 1.0001) := by
  obtain ⟨state, folded, rest⟩ := bind_eq_ok ok
  obtain ⟨factor, stretched, last⟩ := bind_eq_ok rest
  obtain ⟨more, knots⟩ := segments_knots folded
  have points : (state.result.points.set 0 (path.headD 0)).set (state.result.points.length - 1) (path.getLastD 0) =
      ([0] ++ more ++ [1]).map (sampleJointPath path) := by
    have start : sampleJointPath path 0 = path.headD 0 := sampleJointPath_of_le le_rfl
    have finish : sampleJointPath path 1 = path.getLastD 0 := sampleJointPath_of_ge le_rfl
    rw [knots.points, ← start, ← finish]
    exact set_ends (sampleJointPath path) more
  have timestamps : (state.result.timestamps.set 0 0).set (state.result.timestamps.length - 1) duration =
      ([0] ++ more ++ [1]).map (· * duration) := by
    have ends := set_ends (· * duration) more
    rw [zero_mul, one_mul] at ends
    rw [knots.timestamps]
    exact ends
  cases last
  refine ⟨more, ⟨points, timestamps⟩, fun small => ?_⟩
  by_cases fast : 1.0001 < factor
  · rw [if_pos fast] at small
    have required := (le_max_right state.requiredDurationScale (factor * 1.01)).trans small
    linarith
  · rw [if_neg fast] at small
    exact ⟨knots.fine small, factor, stretched, not_lt.mp fast⟩

/-- An attempt that requires no larger duration ends the loop. -/
theorem timingLoop_succ {path : List JointPoint} {maximumVelocity maximumAcceleration duration scale : ℝ}
    {attempts : ℕ} {plan : TimedJointPath} (below : duration ≤ 60) (small : scale ≤ 1.0001)
    (attempted : attemptTiming path maximumVelocity maximumAcceleration duration = .ok (plan, scale)) :
    timingLoop path maximumVelocity maximumAcceleration (attempts + 1) duration = .ok plan := by
  unfold timingLoop
  rw [if_neg (not_lt.mpr below), attempted, ok_bind]
  simp only [if_pos small]
  rfl

/-- A plan that the loop returns is the plan of an attempt that requires no larger duration. -/
theorem timingLoop_ok {path : List JointPoint} {maximumVelocity maximumAcceleration duration : ℝ} {attempts : ℕ}
    {plan : TimedJointPath} (positive : 0 < duration)
    (ok : timingLoop path maximumVelocity maximumAcceleration attempts duration = .ok plan) :
    ∃ duration, 0 < duration ∧ duration ≤ 60 ∧ ∃ scale ≤ 1.0001,
      attemptTiming path maximumVelocity maximumAcceleration duration = .ok (plan, scale) := by
  induction attempts generalizing duration with
  | zero => cases ok
  | succ attempts ih =>
    unfold timingLoop at ok
    by_cases long : 60 < duration
    · rw [if_pos long] at ok
      cases ok
    rw [if_neg long] at ok
    obtain ⟨⟨result, scale⟩, attempted, rest⟩ := bind_eq_ok ok
    by_cases small : scale ≤ 1.0001
    · simp only [if_pos small] at rest
      cases rest
      exact ⟨duration, positive, not_lt.mp long, scale, small, attempted⟩
    · simp only [if_neg small] at rest
      have larger : 0 < scale := by linarith
      exact ih (mul_pos positive larger) rest

/-- Timestamps increase from each to the next one. -/
theorem pairwise_iff_increasing (timestamps : List ℝ) : timestamps.Pairwise (· < ·) ↔
    ∀ knot, knot + 1 < timestamps.length → timestamps.getD knot 0 < timestamps.getD (knot + 1) 0 := by
  rw [← List.isChain_iff_pairwise, List.isChain_iff_getElem]
  refine forall_congr' fun knot => forall_congr' fun inside => ?_
  rw [List.getD_eq_getElem _ _ inside, List.getD_eq_getElem _ _ (Nat.lt_of_succ_lt inside)]

/-- What a plan of a path promises. -/
structure TimedPlan (path : List JointPoint) (maximumVelocity maximumAcceleration : ℝ) (plan : TimedJointPath) :
    Prop where
  lengths : plan.timestamps.length = plan.points.length
  several : 2 ≤ plan.points.length
  first : plan.points.head? = path.head?
  last : plan.points.getLast? = path.getLast?
  start : plan.timestamps.head? = some 0
  finish : ∀ timestamp ∈ plan.timestamps, timestamp ≤ 60
  increasing : plan.timestamps.Pairwise (· < ·)
  interval : ∀ knot, knot + 1 < plan.points.length →
    0.004 - 1e-12 ≤ plan.time (knot + 1) - plan.time knot ∧ plan.time (knot + 1) - plan.time knot ≤ 0.050 + 1e-12
  step : ∀ knot, knot + 1 < plan.points.length → ∀ joint,
    |plan.point (knot + 1) joint - plan.point knot joint| ≤ 0.020 + 1e-12
  /-- The middle of two neighbours, against the sample at the middle of their times. -/
  straight : ∀ knot, knot + 1 < plan.points.length → ∀ joint,
    |sampleJointPath path (0.5 * (plan.time knot + plan.time (knot + 1)) / plan.time (plan.points.length - 1)) joint -
      0.5 * (plan.point knot joint + plan.point (knot + 1) joint)| ≤ 0.001 + 1e-12
  /-- Every knot lies on the polyline of the path, and no knot lies before the one that it follows. -/
  polyline : ∃ position : ℕ → ℝ, (∀ knot < plan.points.length, OnPolyline path (position knot) (plan.point knot)) ∧
    ∀ knot, knot + 1 < plan.points.length → position knot ≤ position (knot + 1)
  limits : WithinLimits plan maximumVelocity maximumAcceleration 1.0001

section Promises

variable {path : List JointPoint} {maximumVelocity maximumAcceleration duration : ℝ} {more : List ℝ}
  {plan : TimedJointPath} {knot : ℕ}

/-- Fine knots of a plan, by their places. -/
theorem Sampled.fine (sampled : Sampled path duration ([0] ++ more ++ [1]) plan)
    (chain : ([0] ++ more ++ [1]).IsChain (Fine path duration)) (inside : knot + 1 < plan.points.length) :
    ∃ first second, Fine path duration first second ∧ plan.time knot = first * duration ∧
      plan.time (knot + 1) = second * duration ∧ plan.point knot = sampleJointPath path first ∧
      plan.point (knot + 1) = sampleJointPath path second := by
  rw [sampled.length_points] at inside
  have earlier := Nat.lt_of_succ_lt inside
  exact ⟨_, _, List.isChain_iff_getElem.mp chain knot inside, sampled.time earlier, sampled.time inside,
    sampled.point earlier, sampled.point inside⟩

theorem Sampled.time_last (sampled : Sampled path duration ([0] ++ more ++ [1]) plan) :
    plan.time (plan.points.length - 1) = duration := by
  have last : ([0] ++ more ++ [1]).length - 1 < ([0] ++ more ++ [1]).length := by
    rw [List.length_append, List.length_singleton]
    omega
  rw [sampled.length_points, sampled.time last, ← List.getLast_eq_getElem (by simp), List.getLast_append_singleton,
    one_mul]

/-- The plan of an attempt that requires no larger duration. -/
theorem TimedPlan.of_sampled (two : 2 ≤ path.length) (velocity_pos : 0 < maximumVelocity)
    (acceleration_pos : 0 < maximumAcceleration) (positive : 0 < duration) (below : duration ≤ 60)
    (sampled : Sampled path duration ([0] ++ more ++ [1]) plan)
    (chain : ([0] ++ more ++ [1]).IsChain (Fine path duration))
    (stretched : ∃ factor, stretchFactor plan maximumVelocity maximumAcceleration = .ok factor ∧ factor ≤ 1.0001) :
    TimedPlan path maximumVelocity maximumAcceleration plan := by
  have one_le : (1 : ℝ) ≤ 1.0001 := by norm_num
  obtain ⟨increasing, within⟩ := (stretchFactor_le_iff velocity_pos acceleration_pos one_le).mp stretched
  have lengths : plan.timestamps.length = plan.points.length :=
    sampled.length_timestamps.trans sampled.length_points.symm
  obtain ⟨head, next, rest, rfl⟩ : ∃ head next rest, path = head :: next :: rest := by
    match path, two with
    | head :: next :: rest, _ => exact ⟨head, next, rest, rfl⟩
  have ordered : plan.timestamps.Pairwise (· < ·) :=
    (pairwise_iff_increasing plan.timestamps).mpr (lengths.symm ▸ increasing)
  have several : 2 ≤ plan.points.length := by
    rw [sampled.length_points, List.length_append, List.length_append, List.length_singleton, List.length_singleton]
    omega
  refine ⟨lengths, several, ?_, ?_, ?_, ?_, ordered, fun knot inside => ?_, fun knot inside joint => ?_,
    fun knot inside joint => ?_, ?_, within⟩
  · rw [sampled.points]
    exact congrArg some (sampleJointPath_of_le le_rfl)
  · rw [sampled.points, List.map_append]
    refine List.getLast?_concat.trans ?_
    rw [sampleJointPath_of_ge le_rfl, List.getLastD_eq_getLast?]
    rfl
  · rw [sampled.timestamps]
    exact congrArg some (zero_mul duration)
  · rw [sampled.timestamps, List.map_append] at ordered ⊢
    intro timestamp member
    rcases List.mem_append.mp member with earlier | last
    · have before := (List.pairwise_append.mp ordered).2.2 timestamp earlier (1 * duration) List.mem_cons_self
      linarith
    · rw [List.mem_singleton.mp last]
      exact (one_mul duration).trans_le below
  · obtain ⟨first, second, fine, before, after, -, -⟩ := sampled.fine chain inside
    have long := fine.long
    have short := fine.short
    rw [before, after, ← sub_mul]
    exact ⟨by linarith, short⟩
  · obtain ⟨first, second, fine, -, -, before, after⟩ := sampled.fine chain inside
    rw [before, after]
    exact fine.step joint
  · obtain ⟨first, second, fine, before, after, start, finish⟩ := sampled.fine chain inside
    have middle : 0.5 * (first * duration + second * duration) / duration = 0.5 * (first + second) := by
      rw [← add_mul, ← mul_assoc, mul_div_assoc, div_self positive.ne', mul_one]
    rw [sampled.time_last, before, after, start, finish, middle]
    exact fine.straight joint
  · refine ⟨fun knot => samplePosition (head :: next :: rest) (plan.time knot / duration), fun knot inside => ?_,
        fun knot inside => ?_⟩
    · rw [sampled.length_points] at inside
      have amount : plan.time knot / duration = ([0] ++ more ++ [1])[knot] := by
        rw [sampled.time inside, mul_div_assoc, div_self positive.ne', mul_one]
      simp only [amount]
      rw [sampled.point inside]
      exact onPolyline_sample two _
    · exact samplePosition_mono _ (div_le_div_of_nonneg_right (increasing knot inside).le positive.le)

end Promises

/-- A returned plan keeps every promise, and the limits are positive. -/
theorem timedPlan_of_ok {path : List JointPoint} {maximumVelocity maximumAcceleration : ℝ} {plan : TimedJointPath}
    (ok : timeParameterize path maximumVelocity maximumAcceleration = .ok plan) :
    0 < maximumVelocity ∧ 0 < maximumAcceleration ∧ TimedPlan path maximumVelocity maximumAcceleration plan := by
  unfold timeParameterize at ok
  by_cases wrong : maximumVelocity ≤ 0 ∨ maximumAcceleration ≤ 0
  · rw [if_pos wrong] at ok
    cases ok
  rw [if_neg wrong] at ok
  by_cases few : path.length < 2
  · rw [if_pos few] at ok
    cases ok
  rw [if_neg few] at ok
  rw [not_or, not_le, not_le] at wrong
  obtain ⟨duration, positive, below, scale, small, attempted⟩ :=
    timingLoop_ok (lt_of_lt_of_le (by norm_num) (le_max_left _ _)) ok
  obtain ⟨more, sampled, promised⟩ := attemptTiming_ok attempted
  obtain ⟨chain, stretched⟩ := promised small
  exact ⟨wrong.1, wrong.2, .of_sampled (not_lt.mp few) wrong.1 wrong.2 positive below sampled chain stretched⟩

/-- Every plan that `time_parameterize_cartesian_trajectory` returns keeps every promise. -/
theorem timeParameterize_plan {path : List JointPoint} {maximumVelocity maximumAcceleration : ℝ} {plan : TimedJointPath}
    (ok : timeParameterize path maximumVelocity maximumAcceleration = .ok plan) :
    TimedPlan path maximumVelocity maximumAcceleration plan := (timedPlan_of_ok ok).2.2

end

end MotorDrive.Cartesian
