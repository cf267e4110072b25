import MotorDrive.Library.Geodesic
import MotorDrive.Library.Validate
import MotorDrive.Cartesian.Arc
import MotorDrive.Cartesian.Rotation
import MotorDrive.Cartesian.Timing

/-!
# Poses along a path

The geometry of the Cartesian motions: the poses of the robot, the interpolation of orientations with `slerp`, and
the samples of a polyline and of a circular arc between two poses, over the real numbers.
-/

namespace MotorDrive.Cartesian

open Matrix Geodesic Validate

noncomputable section

/-- `ArticoreRobotPose`. -/
@[ext]
structure Pose where
  position : Vector3
  rotation : Rotation

/-- A pose is given by six values. -/
local instance sixValues : NeZero 6 := ⟨by decide⟩

/-- `robot_pose_from_rpy`, with the position before roll, pitch and yaw. -/
def robotPoseFromRpy (values : Fin 6 → ℝ) : Pose :=
  let sr := Real.sin (values 3)
  let cr := Real.cos (values 3)
  let sp := Real.sin (values 4)
  let cp := Real.cos (values 4)
  let sy := Real.sin (values 5)
  let cy := Real.cos (values 5)
  { position := fun axis => values (axis.castAdd 3)
    rotation := fun entry => match entry with
      | 0 => cy * cp
      | 1 => cy * sp * sr - sy * cr
      | 2 => cy * sp * cr + sy * sr
      | 3 => sy * cp
      | 4 => sy * sp * sr + cy * cr
      | 5 => sy * sp * cr - cy * sr
      | 6 => -sp
      | 7 => cp * sr
      | 8 => cp * cr }

/-- `dot` of two quaternions. -/
def Quaternion.dot (lhs rhs : Quaternion) : ℝ :=
  lhs.w * rhs.w + lhs.x * rhs.x + lhs.y * rhs.y + lhs.z * rhs.z

/-- `angular_distance`. -/
def angularDistance (start finish : Quaternion) : ℝ := 2 * Real.arccos (clampUnit |start.dot finish|)

/-- `slerp`: along the chord for a small angle, along the arc otherwise. -/
def slerp (start finish : Quaternion) (amount : ℝ) : Quaternion :=
  let dot := start.dot finish
  let finish := if dot < 0 then finish.neg else finish
  let cosine := min (max (if dot < 0 then -dot else dot) (-1)) 1
  if 0.9995 < cosine then
    let result : Quaternion :=
      { w := start.w + amount * (finish.w - start.w)
        x := start.x + amount * (finish.x - start.x)
        y := start.y + amount * (finish.y - start.y)
        z := start.z + amount * (finish.z - start.z) }
    let norm := result.norm
    { w := result.w / norm, x := result.x / norm, y := result.y / norm, z := result.z / norm }
  else
    let angle := Real.arccos cosine
    let denominator := Real.sin angle
    let startWeight := Real.sin ((1 - amount) * angle) / denominator
    let endWeight := Real.sin (amount * angle) / denominator
    { w := startWeight * start.w + endWeight * finish.w
      x := startWeight * start.x + endWeight * finish.x
      y := startWeight * start.y + endWeight * finish.y
      z := startWeight * start.z + endWeight * finish.z }

/-- `circular_slerp_through_via`. -/
def circularSlerpThroughVia (start via finish : Quaternion) (viaAmount amount : ℝ) : Except String Quaternion :=
  if viaAmount ≤ 0 ∨ 1 ≤ viaAmount then .error "circular orientation progress is invalid"
  else
    let bounded := clampUnit amount
    .ok (if bounded ≤ viaAmount then slerp start via (bounded / viaAmount)
      else slerp via finish ((bounded - viaAmount) / (1 - viaAmount)))

/-- `lerp_position`. -/
def lerpPosition (start finish : Vector3) (amount : ℝ) : Vector3 := start + amount • (finish - start)

/-- `cartesian_pose`. -/
def cartesianPose (position : Vector3) (orientation : Quaternion) : Pose :=
  { position, rotation := rotationFromQuaternion orientation }

/-- A pose between two poses, as `append_linear_pose_samples` interpolates. -/
def linearPose (start finish : Pose) (startOrientation endOrientation : Quaternion) (amount : ℝ) : Pose :=
  cartesianPose (lerpPosition start.position finish.position amount) (slerp startOrientation endOrientation amount)

/-- The number of segments for a translation and a rotation, at least one. -/
def requiredSegments (translation orientation : ℝ) : ℕ := max 1 ⌈max (translation / 0.002) (orientation / 0.1)⌉₊

/-- `append_linear_pose_samples`. -/
def appendLinearPoseSamples (output : List Pose) (start finish : Pose) : Except String (List Pose) := do
  let startOrientation ← quaternionFromRotation start.rotation
  let endOrientation ← quaternionFromRotation finish.rotation
  let segments := requiredSegments (vectorNorm (finish.position - start.position))
    (angularDistance startOrientation endOrientation)
  if 30000 - min output.length 30000 < segments then
    .error "Cartesian linear geometry requires more than the native point capacity"
  else return output ++ (List.range segments).map fun sample =>
    linearPose start finish startOrientation endOrientation ((sample + 1 : ℕ) / segments)

/-- `PiecewiseLinearPosePath`. -/
structure PiecewiseLinearPosePath where
  poses : List Pose
  controlPointIndices : List ℕ

/-- One turn of the loop over the edges. -/
def appendEdge (result : PiecewiseLinearPosePath) (edge : Pose × Pose) : Except String PiecewiseLinearPosePath := do
  let poses ← appendLinearPoseSamples result.poses edge.1 edge.2
  return ⟨poses, result.controlPointIndices ++ [poses.length - 1]⟩

/-- `piecewise_linear_pose_samples`. -/
def piecewiseLinearPoseSamples : List Pose → Except String PiecewiseLinearPosePath
  | first :: second :: rest => do
    let result ← (List.zip (first :: second :: rest) (second :: rest)).foldlM appendEdge ⟨[first], [0]⟩
    return { result with
      poses := (result.poses.set 0 first).set (result.poses.length - 1) ((second :: rest).getLastD first) }
  | _ => .error "linear path requires at least two poses"

/-- The pose on a circular arc at an angle. -/
def circularPose (arc : CircularArc) (start via finish : Quaternion) (angle : ℝ) : Except String Pose := do
  let orientation ← circularSlerpThroughVia start via finish (arc.viaAngle / arc.endAngle) (angle / arc.endAngle)
  return cartesianPose (arc.position angle) orientation

/-- The angles of the samples up to the via pose. -/
def firstAngles (arc : CircularArc) (segments : ℕ) : List ℝ :=
  (List.range segments).map fun sample => (sample + 1 : ℕ) / segments * arc.viaAngle

/-- The angles of the samples from the via pose on. -/
def secondAngles (arc : CircularArc) (segments : ℕ) : List ℝ :=
  (List.range segments).map fun sample =>
    arc.viaAngle + (sample + 1 : ℕ) / segments * (arc.endAngle - arc.viaAngle)

/-! ## Proper rotations -/

/-- A pose is a rigid placement. -/
def Pose.Proper (pose : Pose) : Prop := pose.rotation.Proper

theorem proper_iff (rotation : Rotation) : rotation.Proper ↔
    Rotation.matrix rotation * (Rotation.matrix rotation)ᵀ = 1 ∧ (Rotation.matrix rotation).det = 1 := by
  rw [Rotation.Proper, mem_specialOrthogonalGroup_iff, mem_orthogonalGroup_iff]

/-- `robot_pose_from_rpy` makes a rigid placement of every six values. -/
theorem proper_robotPoseFromRpy (values : Fin 6 → ℝ) : (robotPoseFromRpy values).Proper := by
  have roll := Real.sin_sq_add_cos_sq (values 3)
  have pitch := Real.sin_sq_add_cos_sq (values 4)
  have yaw := Real.sin_sq_add_cos_sq (values 5)
  refine (proper_iff _).mpr ⟨?_, ?_⟩
  · ext i j
    fin_cases i <;> fin_cases j <;>
      simp [Rotation.matrix, robotPoseFromRpy, mul_apply, Fin.sum_univ_succ] <;> grind
  · simp [Rotation.matrix, robotPoseFromRpy, det_fin_three]
    grind

theorem proper_rotationFromQuaternion {value : Quaternion} (unit : value.Unit) :
    (rotationFromQuaternion value).Proper := by
  rw [Quaternion.Unit] at unit
  refine (proper_iff _).mpr ⟨?_, ?_⟩
  · ext i j
    fin_cases i <;> fin_cases j <;>
      simp [Rotation.matrix, rotationFromQuaternion, mul_apply, Fin.sum_univ_succ] <;> grind
  · simp [Rotation.matrix, rotationFromQuaternion, det_fin_three]
    grind

/-! ## Interpolated orientations -/

section Slerp

variable {value other start finish : Quaternion} {s t : ℝ}

theorem coordinates_dot (value other : Quaternion) : value.coordinates ⬝ᵥ other.coordinates = value.dot other := by
  simp only [dotProduct, Fin.sum_univ_four, Quaternion.coordinates, Quaternion.dot]
  rfl

theorem unit_iff (value : Quaternion) : value.Unit ↔ value.coordinates ⬝ᵥ value.coordinates = 1 := by
  rw [coordinates_dot]
  rfl

theorem ext_coordinates (same : value.coordinates = other.coordinates) : value = other :=
  Quaternion.ext (congrFun same 0) (congrFun same 1) (congrFun same 2) (congrFun same 3)

theorem neg_dot (value other : Quaternion) : value.neg.dot other = -value.dot other := by
  simp only [Quaternion.dot, Quaternion.neg]
  ring

theorem dot_comm (value other : Quaternion) : value.dot other = other.dot value := by
  simp only [Quaternion.dot]
  ring

theorem Quaternion.Unit.neg (unit : value.Unit) : value.neg.Unit := by
  simp only [Quaternion.Unit, Quaternion.neg, neg_mul_neg]
  exact unit

theorem rotationFromQuaternion_neg (value : Quaternion) :
    rotationFromQuaternion value.neg = rotationFromQuaternion value := by
  simp only [rotationFromQuaternion, Quaternion.neg, neg_mul_neg]

/-- The end of a `slerp`, with the sign that is closer to its start. -/
def closer (start finish : Quaternion) : Quaternion := if start.dot finish < 0 then finish.neg else finish

theorem closer_eq (start finish : Quaternion) : closer start finish = finish ∨ closer start finish = finish.neg := by
  unfold closer
  split_ifs
  · exact .inr rfl
  · exact .inl rfl

theorem dot_closer (start finish : Quaternion) : start.dot (closer start finish) = |start.dot finish| := by
  unfold closer
  split_ifs with negative
  · rw [dot_comm, neg_dot, dot_comm, abs_of_neg negative]
  · rw [abs_of_nonneg (not_lt.mp negative)]

theorem Quaternion.Unit.closer (unit : finish.Unit) (start : Quaternion) : (closer start finish).Unit := by
  obtain same | same := closer_eq start finish
  · rw [same]
    exact unit
  · rw [same]
    exact unit.neg

theorem abs_dot_le (unit : value.Unit) (unit' : other.Unit) : |value.dot other| ≤ 1 := by
  rw [← coordinates_dot]
  exact abs_le.mpr (dot_mem ((unit_iff _).mp unit) ((unit_iff _).mp unit'))

theorem angularDistance_eq (unit : value.Unit) (unit' : other.Unit) :
    angularDistance value other = 2 * Real.arccos |value.dot other| := by
  rw [angularDistance, clampUnit_of_mem (abs_nonneg _) (abs_dot_le unit unit')]

theorem norm_eq (value : Quaternion) : value.norm = √(value.coordinates ⬝ᵥ value.coordinates) := by
  rw [coordinates_dot]
  rfl

theorem coordinates_div_norm (value : Quaternion) : Quaternion.coordinates
    { w := value.w / value.norm, x := value.x / value.norm, y := value.y / value.norm, z := value.z / value.norm } =
      (1 / √(value.coordinates ⬝ᵥ value.coordinates)) • value.coordinates := by
  rw [← norm_eq]
  funext i
  fin_cases i <;> exact div_eq_inv_mul _ _ |>.trans (by rw [one_div]; rfl)

/-- `slerp` as an arc between unit vectors. -/
theorem coordinates_slerp (unit : start.Unit) (unit' : finish.Unit) (amount : ℝ) :
    (slerp start finish amount).coordinates =
      if 0.9995 < |start.dot finish| then chord start.coordinates (closer start finish).coordinates amount
      else arc start.coordinates (closer start finish).coordinates amount := by
  have cosine : (if start.dot finish < 0 then -start.dot finish else start.dot finish) = |start.dot finish| := by
    split_ifs with negative
    · exact (abs_of_neg negative).symm
    · exact (abs_of_nonneg (not_lt.mp negative)).symm
  have clamped : min (max |start.dot finish| (-1)) 1 = |start.dot finish| := by
    rw [max_eq_left ((neg_nonpos.mpr zero_le_one).trans (abs_nonneg _)), min_eq_left (abs_dot_le unit unit')]
  have dot : start.coordinates ⬝ᵥ (closer start finish).coordinates = |start.dot finish| := by
    rw [coordinates_dot, dot_closer]
  have same : (if start.dot finish < 0 then finish.neg else finish) = closer start finish := rfl
  simp only [slerp, cosine, clamped, same]
  split_ifs with near
  · have chordal : Quaternion.coordinates
        { w := start.w + amount * ((closer start finish).w - start.w)
          x := start.x + amount * ((closer start finish).x - start.x)
          y := start.y + amount * ((closer start finish).y - start.y)
          z := start.z + amount * ((closer start finish).z - start.z) } =
        onChord start.coordinates (closer start finish).coordinates amount := by
      funext i
      fin_cases i <;> simp [Quaternion.coordinates, onChord] <;> ring
    refine (coordinates_div_norm ⟨_, _, _, _⟩).trans ?_
    rw [chordal, chord]
  · rw [arc, dot]
    funext i
    fin_cases i <;> rfl

/-- The angle between unit vectors whose product is not nearly one. -/
theorem sin_arccos_ne_zero {cosine : ℝ} (nonneg : 0 ≤ cosine) (far : ¬ 0.9995 < cosine) :
    Real.sin (Real.arccos cosine) ≠ 0 := by
  rw [Real.sin_arccos]
  refine (Real.sqrt_pos.mpr ?_).ne'
  nlinarith [not_lt.mp far]

section Between

variable (unit : start.Unit) (unit' : finish.Unit)
include unit unit'

theorem slerp_unit (inside : 0 ≤ t ∧ t ≤ 1) : (slerp start finish t).Unit := by
  have first := (unit_iff _).mp unit
  have second := (unit_iff _).mp (unit'.closer start)
  have dot : start.coordinates ⬝ᵥ (closer start finish).coordinates = |start.dot finish| := by
    rw [coordinates_dot, dot_closer]
  rw [unit_iff, coordinates_slerp unit unit']
  split_ifs with near
  · exact chord_unit first second (by rw [dot]; linarith) inside
  · have apart := sin_arccos_ne_zero (abs_nonneg _) near
    rw [← dot] at apart
    rw [arc_dot_arc first second apart, sub_self, zero_mul, Real.cos_zero]

theorem slerp_zero : slerp start finish 0 = start := by
  have first := (unit_iff _).mp unit
  have dot : start.coordinates ⬝ᵥ (closer start finish).coordinates = |start.dot finish| := by
    rw [coordinates_dot, dot_closer]
  refine ext_coordinates ?_
  rw [coordinates_slerp unit unit']
  split_ifs with near
  · exact chord_zero first
  · have apart := sin_arccos_ne_zero (abs_nonneg _) near
    rw [← dot] at apart
    exact arc_zero apart

theorem slerp_one : slerp start finish 1 = closer start finish := by
  have second := (unit_iff _).mp (unit'.closer start)
  have dot : start.coordinates ⬝ᵥ (closer start finish).coordinates = |start.dot finish| := by
    rw [coordinates_dot, dot_closer]
  refine ext_coordinates ?_
  rw [coordinates_slerp unit unit']
  split_ifs with near
  · exact chord_one second
  · have apart := sin_arccos_ne_zero (abs_nonneg _) near
    rw [← dot] at apart
    exact arc_one apart

/-- The end of a `slerp` is the rotation of its end. -/
theorem rotation_slerp_one : rotationFromQuaternion (slerp start finish 1) = rotationFromQuaternion finish := by
  rw [slerp_one unit unit']
  obtain same | same := closer_eq start finish
  · rw [same]
  · rw [same, rotationFromQuaternion_neg]

/-- Between two rotations that are not nearly the same, `slerp` turns at a constant speed. -/
theorem angularDistance_arc (far : ¬ 0.9995 < |start.dot finish|) (inside : 0 ≤ s ∧ s ≤ 1) (inside' : 0 ≤ t ∧ t ≤ 1) :
    angularDistance (slerp start finish s) (slerp start finish t) = |t - s| * angularDistance start finish := by
  have first := (unit_iff _).mp unit
  have second := (unit_iff _).mp (unit'.closer start)
  have dot : start.coordinates ⬝ᵥ (closer start finish).coordinates = |start.dot finish| := by
    rw [coordinates_dot, dot_closer]
  have apart := sin_arccos_ne_zero (abs_nonneg _) far
  rw [← dot] at apart
  have angle_nonneg : 0 ≤ Real.arccos |start.dot finish| := Real.arccos_nonneg _
  have angle_le : Real.arccos |start.dot finish| ≤ Real.pi / 2 := Real.arccos_le_pi_div_two.mpr (abs_nonneg _)
  have width : |t - s| ≤ 1 := abs_le.mpr ⟨by linarith, by linarith⟩
  have small : |t - s| * Real.arccos |start.dot finish| ≤ Real.pi / 2 :=
    (mul_le_of_le_one_left angle_nonneg width).trans angle_le
  have cosine : (slerp start finish s).dot (slerp start finish t) =
      Real.cos (|t - s| * Real.arccos |start.dot finish|) := by
    rw [← coordinates_dot, coordinates_slerp unit unit', coordinates_slerp unit unit', if_neg far, if_neg far,
      arc_dot_arc first second apart, dot, ← Real.cos_abs, abs_mul, abs_of_nonneg angle_nonneg]
  have wide : 0 ≤ |t - s| * Real.arccos |start.dot finish| := mul_nonneg (abs_nonneg _) angle_nonneg
  rw [angularDistance_eq (slerp_unit unit unit' inside) (slerp_unit unit unit' inside'), angularDistance_eq unit unit',
    cosine, abs_of_nonneg (Real.cos_nonneg_of_mem_Icc ⟨by linarith, small⟩), Real.arccos_cos wide (by linarith)]
  ring

/-- Between two rotations that are nearly the same, no two interpolated ones are further apart than these. -/
theorem angularDistance_chord (near : 0.9995 < |start.dot finish|) (inside : 0 ≤ s ∧ s ≤ 1)
    (inside' : 0 ≤ t ∧ t ≤ 1) :
    angularDistance (slerp start finish s) (slerp start finish t) ≤ angularDistance start finish := by
  have first := (unit_iff _).mp unit
  have second := (unit_iff _).mp (unit'.closer start)
  have dot : start.coordinates ⬝ᵥ (closer start finish).coordinates = |start.dot finish| := by
    rw [coordinates_dot, dot_closer]
  have product : |start.dot finish| ≤ (slerp start finish s).dot (slerp start finish t) := by
    rw [← coordinates_dot (slerp start finish s), coordinates_slerp unit unit', coordinates_slerp unit unit', if_pos near,
      if_pos near, ← dot]
    exact dot_le_chord_dot_chord first second (by rw [dot]; linarith) inside inside'
  rw [angularDistance_eq (slerp_unit unit unit' inside) (slerp_unit unit unit' inside'), angularDistance_eq unit unit']
  have larger : |start.dot finish| ≤ |(slerp start finish s).dot (slerp start finish t)| :=
    product.trans (le_abs_self _)
  linarith [Real.arccos_le_arccos larger]

/-- Two rotations that are nearly the same are less than a tenth of a radian apart. -/
theorem angularDistance_near (near : 0.9995 < |start.dot finish|) : angularDistance start finish ≤ 0.1 := by
  have bound := (abs_le.mp (Real.cos_bound (show |(0.05 : ℝ)| ≤ 1 by rw [abs_of_pos] <;> norm_num))).2
  have cosine : Real.cos 0.05 ≤ |start.dot finish| := by
    rw [abs_of_pos (by norm_num)] at bound
    norm_num at bound near ⊢
    linarith
  have angle := Real.arccos_le_arccos cosine
  rw [Real.arccos_cos (by norm_num) (by linarith [Real.pi_gt_three])] at angle
  rw [angularDistance_eq unit unit']
  linarith

end Between

end Slerp

/-! ## Neighbouring samples -/

/-- Two poses are within two millimetres and a tenth of a radian of each other. -/
structure Close (first second : Pose) : Prop where
  translation : vectorNorm (second.position - first.position) ≤ 0.002
  orientation : ∃ value other, quaternionFromRotation first.rotation = .ok value ∧
    quaternionFromRotation second.rotation = .ok other ∧ angularDistance value other ≤ 0.1

theorem vectorNorm_smul {factor : ℝ} (nonneg : 0 ≤ factor) (value : Vector3) :
    vectorNorm (factor • value) = factor * vectorNorm value := by
  rw [vectorNorm, smul_dotProduct, dotProduct_smul, smul_eq_mul, smul_eq_mul, ← mul_assoc,
    Real.sqrt_mul (mul_self_nonneg _), Real.sqrt_mul_self nonneg]
  rfl

/-- A unit quaternion is found again in its rotation, up to its sign. -/
theorem quaternionFromRotation_rotation {value : Quaternion} (unit : value.Unit) :
    ∃ same, quaternionFromRotation (rotationFromQuaternion value) = .ok same ∧ (same = value ∨ same = value.neg) := by
  have converts := converts_of_minors (minors_of_mul (products_rotationFromQuaternion unit))
  exact ⟨_, converts.gives, eq_or_neg_of_rotation unit converts.unit converts.inverse⟩

theorem angularDistance_of_sign {value other same same' : Quaternion} (sign : same = value ∨ same = value.neg)
    (sign' : same' = other ∨ same' = other.neg) : angularDistance same same' = angularDistance value other := by
  have products : |same.dot same'| = |value.dot other| := by
    obtain rfl | rfl := sign <;> obtain rfl | rfl := sign'
    · rfl
    · rw [dot_comm, neg_dot, abs_neg, dot_comm]
    · rw [neg_dot, abs_neg]
    · rw [neg_dot, abs_neg, dot_comm, neg_dot, abs_neg, dot_comm]
  rw [angularDistance, angularDistance, products]

theorem close_of_units {value other : Quaternion} {first second : Vector3} (unit : value.Unit) (unit' : other.Unit)
    (translation : vectorNorm (second - first) ≤ 0.002) (orientation : angularDistance value other ≤ 0.1) :
    Close (cartesianPose first value) (cartesianPose second other) := by
  obtain ⟨same, found, sign⟩ := quaternionFromRotation_rotation unit
  obtain ⟨same', found', sign'⟩ := quaternionFromRotation_rotation unit'
  refine ⟨translation, same, same', found, found', ?_⟩
  rw [angularDistance_of_sign sign sign']
  exact orientation

theorem requiredSegments_pos (translation orientation : ℝ) : 0 < requiredSegments translation orientation :=
  lt_max_of_lt_left one_pos

/-- Enough segments for steps of two millimetres and a tenth of a radian. -/
theorem requiredSegments_le (translation orientation : ℝ) :
    translation / requiredSegments translation orientation ≤ 0.002 ∧
      orientation / requiredSegments translation orientation ≤ 0.1 := by
  have positive : (0 : ℝ) < requiredSegments translation orientation :=
    Nat.cast_pos.mpr (requiredSegments_pos translation orientation)
  have enough : max (translation / 0.002) (orientation / 0.1) ≤ requiredSegments translation orientation :=
    (Nat.le_ceil _).trans (Nat.cast_le.mpr (le_max_right _ _))
  obtain ⟨first, second⟩ := max_le_iff.mp enough
  rw [div_le_iff₀ (by norm_num)] at first second
  constructor
  · rw [div_le_iff₀ positive]
    linarith
  · rw [div_le_iff₀ positive]
    linarith

/-- A place among `n` segments. -/
theorem fraction_mem {k n : ℕ} (inside : k ≤ n) : 0 ≤ (k : ℝ) / n ∧ (k : ℝ) / n ≤ 1 :=
  ⟨by positivity, div_le_one_of_le₀ (Nat.cast_le.mpr inside) (Nat.cast_nonneg _)⟩

theorem fraction_succ_sub (k n : ℕ) : ((k + 1 : ℕ) : ℝ) / n - (k : ℝ) / n = 1 / n := by
  rw [← sub_div]
  push_cast
  ring

/-- Neighbouring places of a `slerp` with enough segments. -/
theorem angularDistance_step {start finish : Quaternion} (unit : start.Unit) (unit' : finish.Unit) {k n : ℕ}
    (below : k < n) (enough : angularDistance start finish / n ≤ 0.1) :
    angularDistance (slerp start finish ((k : ℝ) / n)) (slerp start finish (((k + 1 : ℕ) : ℝ) / n)) ≤ 0.1 := by
  have inside := fraction_mem below.le
  have inside' := fraction_mem below
  by_cases near : 0.9995 < |start.dot finish|
  · exact (angularDistance_chord unit unit' near inside inside').trans (angularDistance_near unit unit' near)
  · rw [angularDistance_arc unit unit' near inside inside', fraction_succ_sub, abs_of_nonneg (by positivity),
      one_div_mul_eq_div]
    exact enough

/-! ## Edges -/

section Edges

variable {start finish : Pose} {startOrientation endOrientation : Quaternion}

theorem close_linearPose (unit : startOrientation.Unit) (unit' : endOrientation.Unit) {k : ℕ}
    (below : k < requiredSegments (vectorNorm (finish.position - start.position))
      (angularDistance startOrientation endOrientation)) :
    Close (linearPose start finish startOrientation endOrientation ((k : ℝ) /
        requiredSegments (vectorNorm (finish.position - start.position))
          (angularDistance startOrientation endOrientation)))
      (linearPose start finish startOrientation endOrientation (((k + 1 : ℕ) : ℝ) /
        requiredSegments (vectorNorm (finish.position - start.position))
          (angularDistance startOrientation endOrientation))) := by
  obtain ⟨translation, orientation⟩ := requiredSegments_le (vectorNorm (finish.position - start.position))
    (angularDistance startOrientation endOrientation)
  generalize requiredSegments (vectorNorm (finish.position - start.position))
    (angularDistance startOrientation endOrientation) = n at below translation orientation ⊢
  refine close_of_units (slerp_unit unit unit' (fraction_mem below.le)) (slerp_unit unit unit' (fraction_mem below))
    ?_ (angularDistance_step unit unit' below orientation)
  have step : lerpPosition start.position finish.position (((k + 1 : ℕ) : ℝ) / n) -
      lerpPosition start.position finish.position ((k : ℝ) / n) = (1 / (n : ℝ)) • (finish.position - start.position) := by
    rw [lerpPosition, lerpPosition, add_sub_add_left_eq_sub, ← sub_smul, fraction_succ_sub]
  rw [step, vectorNorm_smul (by positivity), one_div_mul_eq_div]
  exact translation

theorem linearPose_zero (converts : Converts start.rotation startOrientation) (unit' : endOrientation.Unit) :
    linearPose start finish startOrientation endOrientation 0 = start := by
  refine Pose.ext ?_ ?_
  · exact (congrArg (start.position + ·) (zero_smul ℝ _)).trans (add_zero _)
  · exact (congrArg rotationFromQuaternion (slerp_zero converts.unit unit')).trans converts.inverse

theorem linearPose_one (unit : startOrientation.Unit) (converts' : Converts finish.rotation endOrientation) :
    linearPose start finish startOrientation endOrientation 1 = finish := by
  refine Pose.ext ?_ ?_
  · exact (congrArg (start.position + ·) (one_smul ℝ _)).trans (add_sub_cancel _ _)
  · exact (rotation_slerp_one unit converts'.unit).trans converts'.inverse

theorem proper_linearPose (unit : startOrientation.Unit) (unit' : endOrientation.Unit) {amount : ℝ}
    (inside : 0 ≤ amount ∧ amount ≤ 1) :
    (linearPose start finish startOrientation endOrientation amount).Proper :=
  proper_rotationFromQuaternion (slerp_unit unit unit' inside)

/-- The samples that `append_linear_pose_samples` adds. -/
def edgeSamples (start finish : Pose) (startOrientation endOrientation : Quaternion) (segments : ℕ) : List Pose :=
  (List.range segments).map fun sample =>
    linearPose start finish startOrientation endOrientation ((sample + 1 : ℕ) / segments)

/-- What `append_linear_pose_samples` does between two rigid placements. -/
theorem appendLinearPoseSamples_ok {output poses : List Pose} (proper : start.Proper) (proper' : finish.Proper)
    (ok : appendLinearPoseSamples output start finish = .ok poses) : ∃ startOrientation endOrientation segments,
      Converts start.rotation startOrientation ∧ Converts finish.rotation endOrientation ∧
      segments = requiredSegments (vectorNorm (finish.position - start.position))
        (angularDistance startOrientation endOrientation) ∧ output.length + segments ≤ 30000 ∧
      poses = output ++ edgeSamples start finish startOrientation endOrientation segments := by
  have converts := converts_of_minors (minors_of_proper proper)
  have converts' := converts_of_minors (minors_of_proper proper')
  unfold appendLinearPoseSamples at ok
  rw [converts.gives, converts'.gives] at ok
  simp only [ok_bind] at ok
  split_ifs at ok with many
  cases ok
  refine ⟨_, _, _, converts, converts', rfl, ?_, rfl⟩
  have positive := requiredSegments_pos (vectorNorm (finish.position - start.position))
    (angularDistance (scaledQuaternion start.rotation).2 (scaledQuaternion finish.rotation).2)
  omega

end Edges

/-! ## Polylines -/

/-- The samples of an edge from one control pose to the next: on the straight line at equal distances, with the
orientation on the shortest arc. -/
structure Edge (start finish : Pose) (poses : List Pose) (first last : ℕ) : Prop where
  ordered : first < last
  starts : poses[first]? = some start
  finishes : poses[last]? = some finish
  between : ∃ startOrientation endOrientation, Converts start.rotation startOrientation ∧
    Converts finish.rotation endOrientation ∧ ∀ k, 0 < k → k ≤ last - first → poses[first + k]? =
      some (linearPose start finish startOrientation endOrientation ((k : ℝ) / (last - first : ℕ)))

/-- What the samples of a polyline are. -/
structure PolylineSamples (controls : List Pose) (path : PiecewiseLinearPosePath) : Prop where
  first : path.poses.head? = controls.head?
  last : path.poses.getLast? = controls.getLast?
  capacity : path.poses.length ≤ 30000
  proper : ∀ pose ∈ path.poses, pose.Proper
  close : path.poses.IsChain Close
  count : path.controlPointIndices.length = controls.length
  zero : path.controlPointIndices.head? = some 0
  finish : path.controlPointIndices.getLast? = some (path.poses.length - 1)
  edges : ∀ k start finish, controls[k]? = some start → controls[k + 1]? = some finish →
    ∃ first last, path.controlPointIndices[k]? = some first ∧ path.controlPointIndices[k + 1]? = some last ∧
      Edge start finish path.poses first last

theorem polylineSamples_single {pose : Pose} (proper : pose.Proper) : PolylineSamples [pose] ⟨[pose], [0]⟩ where
  first := rfl
  last := rfl
  capacity := by norm_num
  proper other found := by
    obtain rfl := List.mem_singleton.mp found
    exact proper
  close := .singleton _
  count := rfl
  zero := rfl
  finish := rfl
  edges k start finish _ next := by simp at next

section Polyline

variable {start finish : Pose} {startOrientation endOrientation : Quaternion} {segments : ℕ}

theorem edgeSamples_getElem? (k : ℕ) (below : k < segments) :
    (edgeSamples start finish startOrientation endOrientation segments)[k]? =
      some (linearPose start finish startOrientation endOrientation ((k + 1 : ℕ) / segments)) := by
  rw [edgeSamples, List.getElem?_map, List.getElem?_range below]
  rfl

theorem length_edgeSamples (start finish : Pose) (startOrientation endOrientation : Quaternion) (segments : ℕ) :
    (edgeSamples start finish startOrientation endOrientation segments).length = segments := by
  rw [edgeSamples, List.length_map, List.length_range]

/-- The last sample of an edge is its end. -/
theorem edgeSamples_last (converts : Converts start.rotation startOrientation)
    (converts' : Converts finish.rotation endOrientation) (positive : 0 < segments) :
    (edgeSamples start finish startOrientation endOrientation segments)[segments - 1]? = some finish := by
  rw [edgeSamples_getElem? (segments - 1) (Nat.sub_lt positive one_pos), Nat.sub_one_add_one positive.ne',
    div_self (Nat.cast_ne_zero.mpr positive.ne'), linearPose_one converts.unit converts']

/-- The samples of an edge are close to each other and to its start. -/
theorem edgeSamples_close (converts : Converts start.rotation startOrientation)
    (converts' : Converts finish.rotation endOrientation)
    (enough : segments = requiredSegments (vectorNorm (finish.position - start.position))
      (angularDistance startOrientation endOrientation)) :
    (start :: edgeSamples start finish startOrientation endOrientation segments).IsChain Close := by
  rw [List.isChain_iff_getElem]
  intro k inside
  rw [List.length_cons, length_edgeSamples] at inside
  have below : k < segments := by omega
  have close := close_linearPose converts.unit converts'.unit (enough ▸ below)
  rw [← enough] at close
  have next : (start :: edgeSamples start finish startOrientation endOrientation segments)[k + 1]? =
      some (linearPose start finish startOrientation endOrientation ((k + 1 : ℕ) / segments)) :=
    edgeSamples_getElem? k below
  have here : (start :: edgeSamples start finish startOrientation endOrientation segments)[k]? =
      some (linearPose start finish startOrientation endOrientation ((k : ℕ) / segments)) := by
    cases k with
    | zero => rw [Nat.cast_zero, zero_div, linearPose_zero converts converts'.unit]; rfl
    | succ k => exact edgeSamples_getElem? k (Nat.lt_of_succ_lt below)
  rw [(List.getElem?_eq_some_iff.mp here).2, (List.getElem?_eq_some_iff.mp next).2]
  exact close

theorem proper_edgeSamples (converts : Converts start.rotation startOrientation)
    (converts' : Converts finish.rotation endOrientation) :
    ∀ pose ∈ edgeSamples start finish startOrientation endOrientation segments, pose.Proper := by
  intro pose found
  obtain ⟨sample, inside, rfl⟩ := List.mem_map.mp found
  exact proper_linearPose converts.unit converts'.unit (fraction_mem (List.mem_range.mp inside))

/-- An edge stays where it is when samples are added. -/
theorem Edge.append {poses : List Pose} {first last : ℕ} (edge : Edge start finish poses first last)
    (more : List Pose) : Edge start finish (poses ++ more) first last := by
  have stays {index : ℕ} {pose : Pose} (found : poses[index]? = some pose) : (poses ++ more)[index]? = some pose := by
    rw [List.getElem?_append_left (List.getElem?_eq_some_iff.mp found).1]
    exact found
  obtain ⟨startOrientation, endOrientation, converts, converts', between⟩ := edge.between
  exact ⟨edge.ordered, stays edge.starts, stays edge.finishes, startOrientation, endOrientation, converts, converts',
    fun k positive inside => stays (between k positive inside)⟩

/-- Close samples that begin where others end. -/
theorem isChain_append_of_last {poses more : List Pose} {pose : Pose} (chain : poses.IsChain Close)
    (last : poses.getLast? = some pose) (chain' : (pose :: more).IsChain Close) : (poses ++ more).IsChain Close := by
  refine List.isChain_append.mpr ⟨chain, chain'.tail, fun before found after next => ?_⟩
  obtain rfl : pose = before := Option.some.inj (last.symm.trans found)
  exact (List.isChain_cons.mp chain').1 after next

/-- The samples of an edge, after poses that end where it starts. -/
theorem edge_edgeSamples {poses : List Pose} (last : poses.getLast? = some start)
    (converts : Converts start.rotation startOrientation) (converts' : Converts finish.rotation endOrientation)
    (positive : 0 < segments) :
    Edge start finish (poses ++ edgeSamples start finish startOrientation endOrientation segments)
      (poses.length - 1) (poses.length - 1 + segments) := by
  have nonempty : 0 < poses.length := List.length_pos_of_ne_nil (List.ne_nil_of_mem (List.mem_of_getLast? last))
  refine ⟨by omega, ?_, ?_, startOrientation, endOrientation, converts, converts', fun k above inside => ?_⟩
  · rw [List.getElem?_append_left (by omega), ← List.getLast?_eq_getElem?]
    exact last
  · rw [List.getElem?_append_right (by omega)]
    rw [show poses.length - 1 + segments - poses.length = segments - 1 by omega]
    exact edgeSamples_last converts converts' positive
  · rw [Nat.add_sub_cancel_left] at inside ⊢
    rw [List.getElem?_append_right (by omega)]
    rw [show poses.length - 1 + k - poses.length = k - 1 by omega]
    rw [edgeSamples_getElem? (k - 1) (by omega), Nat.sub_one_add_one above.ne']

/-- One more edge of a polyline. -/
theorem PolylineSamples.append {controls : List Pose} {result result' : PiecewiseLinearPosePath}
    (samples : PolylineSamples (controls ++ [start]) result) (proper : start.Proper) (proper' : finish.Proper)
    (ok : appendEdge result (start, finish) = .ok result') :
    PolylineSamples (controls ++ [start] ++ [finish]) result' := by
  obtain ⟨poses, appended, returned⟩ := bind_eq_ok ok
  cases returned
  obtain ⟨startOrientation, endOrientation, segments, converts, converts', enough, capacity, rfl⟩ :=
    appendLinearPoseSamples_ok proper proper' appended
  have positive : 0 < segments := enough ▸ requiredSegments_pos _ _
  have last : result.poses.getLast? = some start := samples.last.trans List.getLast?_concat
  have nonempty : 0 < result.poses.length := by
    refine List.length_pos_of_ne_nil fun empty => ?_
    rw [empty] at last
    cases last
  have length := length_edgeSamples start finish startOrientation endOrientation segments
  have edge := edge_edgeSamples last converts converts' positive
  have total : (result.poses ++ edgeSamples start finish startOrientation endOrientation segments).length - 1 =
      result.poses.length - 1 + segments := by
    rw [List.length_append, length]
    omega
  refine {
    first := ?_
    last := ?_
    capacity := ?_
    proper := ?_
    close := ?_
    count := ?_
    zero := ?_
    finish := ?_
    edges := ?_ }
  · rw [List.head?_append_of_ne_nil _ (List.ne_nil_of_length_pos nonempty), samples.first]
    exact (List.head?_append_of_ne_nil _ (List.concat_ne_nil start controls)).symm
  · rw [List.getLast?_concat, List.getLast?_eq_getElem?, total]
    exact edge.finishes
  · rw [List.length_append, length]
    exact capacity
  · intro pose found
    obtain found | found := List.mem_append.mp found
    · exact samples.proper pose found
    · exact proper_edgeSamples converts converts' pose found
  · exact isChain_append_of_last samples.close last (edgeSamples_close converts converts' enough)
  · simp only [List.length_append, List.length_singleton, samples.count]
  · refine (List.head?_append_of_ne_nil _ fun empty => ?_).trans samples.zero
    have zero := samples.zero
    rw [empty] at zero
    cases zero
  · exact List.getLast?_concat
  · intro k before after found next
    have count : result.controlPointIndices.length = controls.length + 1 := by
      rw [samples.count, List.length_append, List.length_singleton]
    by_cases earlier : k + 1 < (controls ++ [start]).length
    · rw [List.getElem?_append_left (Nat.lt_of_succ_lt earlier)] at found
      rw [List.getElem?_append_left earlier] at next
      obtain ⟨first, last, place, place', same⟩ := samples.edges k before after found next
      rw [List.length_append, List.length_singleton, ← count] at earlier
      refine ⟨first, last, ?_, ?_, same.append _⟩
      · rw [List.getElem?_append_left (Nat.lt_of_succ_lt earlier)]
        exact place
      · rw [List.getElem?_append_left earlier]
        exact place'
    · have bound := (List.getElem?_eq_some_iff.mp next).1
      rw [List.length_append, List.length_singleton] at bound
      obtain rfl : k = controls.length := by
        rw [List.length_append, List.length_singleton] at bound earlier
        omega
      have length : (controls ++ [start]).length = controls.length + 1 := by rw [List.length_append]; rfl
      rw [List.getElem?_append_left (by omega), List.getElem?_concat_length] at found
      rw [← length, List.getElem?_concat_length] at next
      cases found
      cases next
      refine ⟨_, _, ?_, ?_, edge⟩
      · rw [List.getElem?_append_left (by omega), ← Nat.add_sub_cancel (n := controls.length) (m := 1), ← count,
          ← List.getLast?_eq_getElem?]
        exact samples.finish
      · rw [← count, List.getElem?_concat_length, total]

/-- The loop over the edges. -/
theorem polylineSamples_edges (rest : List Pose) {controls : List Pose} {start : Pose}
    {result path : PiecewiseLinearPosePath} (samples : PolylineSamples (controls ++ [start]) result)
    (proper : ∀ pose ∈ start :: rest, pose.Proper)
    (ok : (List.zip (start :: rest) rest).foldlM appendEdge result = .ok path) :
    PolylineSamples (controls ++ start :: rest) path := by
  induction rest generalizing controls start result with
  | nil =>
    cases ok
    exact samples
  | cons finish rest ih =>
    obtain ⟨result', appended, later⟩ := bind_eq_ok ok
    have next := samples.append (proper start List.mem_cons_self)
      (proper finish (List.mem_cons_of_mem _ List.mem_cons_self)) appended
    have all := ih next (fun pose found => proper pose (List.mem_cons_of_mem _ found)) later
    rwa [List.append_assoc] at all

end Polyline

/-- Putting the end of a list back changes nothing. -/
theorem set_getLast {α : Type} {items : List α} {item : α} (last : items.getLast? = some item) :
    items.set (items.length - 1) item = items := by
  rw [List.getLast?_eq_getElem?] at last
  exact set_of_getElem? last

/-- The samples of a polyline of rigid placements: at least every two millimetres and every tenth of a radian, on the
straight lines and the shortest arcs between the control poses, with every control pose at its index. -/
theorem piecewiseLinearPoseSamples_ok {controls : List Pose} {path : PiecewiseLinearPosePath}
    (proper : ∀ pose ∈ controls, pose.Proper) (ok : piecewiseLinearPoseSamples controls = .ok path) :
    PolylineSamples controls path := by
  match controls, proper, ok with
  | first :: second :: rest, proper, ok =>
    obtain ⟨result, folded, returned⟩ := bind_eq_ok ok
    have start : PolylineSamples ([] ++ [first]) ⟨[first], [0]⟩ :=
      polylineSamples_single (proper first List.mem_cons_self)
    have samples : PolylineSamples (first :: second :: rest) result :=
      polylineSamples_edges (second :: rest) start proper folded
    have front : result.poses.set 0 first = result.poses := by
      refine set_of_getElem? ?_
      rw [← List.head?_eq_getElem?]
      exact samples.first
    have back : result.poses.set (result.poses.length - 1) ((second :: rest).getLastD first) = result.poses := by
      refine set_getLast (samples.last.trans ?_)
      simp [List.getLast?_cons]
    cases returned
    rw [front, back]
    exact samples

/-- The number of samples that an edge adds. -/
def edgeSegments (edge : Pose × Pose) : ℕ :=
  requiredSegments (vectorNorm (edge.2.position - edge.1.position))
    (angularDistance (scaledQuaternion edge.1.rotation).2 (scaledQuaternion edge.2.rotation).2)

section Capacity

variable {start finish : Pose} {result : PiecewiseLinearPosePath}

/-- An edge that is added brings its samples, and there was room for them. -/
theorem length_appendEdge {result' : PiecewiseLinearPosePath} (proper : start.Proper) (proper' : finish.Proper)
    (few : result.poses.length ≤ 30000) (ok : appendEdge result (start, finish) = .ok result') :
    result'.poses.length = result.poses.length + edgeSegments (start, finish) ∧ result'.poses.length ≤ 30000 := by
  obtain ⟨poses, appended, returned⟩ := bind_eq_ok ok
  have converts := converts_of_minors (minors_of_proper proper)
  have converts' := converts_of_minors (minors_of_proper proper')
  unfold appendLinearPoseSamples at appended
  rw [converts.gives, converts'.gives] at appended
  simp only [ok_bind] at appended
  split_ifs at appended with many
  cases appended
  cases returned
  have count : (result.poses ++ (List.range (edgeSegments (start, finish))).map fun sample =>
      linearPose start finish (scaledQuaternion start.rotation).2 (scaledQuaternion finish.rotation).2
        ((sample + 1 : ℕ) / (edgeSegments (start, finish) : ℕ))).length =
      result.poses.length + edgeSegments (start, finish) := by
    rw [List.length_append, List.length_map, List.length_range]
  refine ⟨count, count.trans_le ?_⟩
  have room : ¬ 30000 - min result.poses.length 30000 < edgeSegments (start, finish) := many
  omega

/-- An edge with room for its samples is added. -/
theorem appendEdge_of_room (proper : start.Proper) (proper' : finish.Proper)
    (room : result.poses.length + edgeSegments (start, finish) ≤ 30000) :
    ∃ result', appendEdge result (start, finish) = .ok result' := by
  have converts := converts_of_minors (minors_of_proper proper)
  have converts' := converts_of_minors (minors_of_proper proper')
  have fits : ¬ 30000 - min result.poses.length 30000 < edgeSegments (start, finish) := by omega
  have appended : ∃ poses, appendLinearPoseSamples result.poses start finish = .ok poses := by
    unfold appendLinearPoseSamples
    rw [converts.gives, converts'.gives]
    simp only [ok_bind]
    exact ⟨_, if_neg fits⟩
  obtain ⟨poses, appended⟩ := appended
  unfold appendEdge
  rw [appended]
  exact ⟨_, rfl⟩

/-- The edges are added if and only if there is room for all of their samples. -/
theorem edges_iff (rest : List Pose) (proper : ∀ pose ∈ start :: rest, pose.Proper)
    (few : result.poses.length ≤ 30000) :
    (∃ path, (List.zip (start :: rest) rest).foldlM appendEdge result = .ok path) ↔
      result.poses.length + ((List.zip (start :: rest) rest).map edgeSegments).sum ≤ 30000 := by
  induction rest generalizing start result with
  | nil => exact ⟨fun _ => few, fun _ => ⟨result, rfl⟩⟩
  | cons finish rest ih =>
    have first := proper start List.mem_cons_self
    have others : ∀ pose ∈ finish :: rest, pose.Proper := fun pose member =>
      proper pose (List.mem_cons_of_mem _ member)
    have second := others finish List.mem_cons_self
    rw [List.zip_cons_cons, List.map_cons, List.sum_cons, ← Nat.add_assoc]
    constructor
    · rintro ⟨path, ok⟩
      obtain ⟨result', appended, later⟩ := bind_eq_ok ok
      obtain ⟨count, few'⟩ := length_appendEdge first second few appended
      rw [← count]
      exact (ih others few').mp ⟨path, later⟩
    · intro room
      obtain ⟨result', appended⟩ := appendEdge_of_room first second (Nat.le_trans (Nat.le_add_right _ _) room)
      obtain ⟨count, few'⟩ := length_appendEdge first second few appended
      obtain ⟨path, later⟩ := (ih others few').mpr (count ▸ room)
      refine ⟨path, ?_⟩
      rw [List.foldlM_cons, appended]
      exact later

end Capacity

/-- A polyline is sampled if and only if it has an edge and there is room for the samples of its edges; its samples
keep every promise. -/
theorem polyline_sampled_iff (values : List (Fin 6 → ℝ)) :
    ((∃ path, piecewiseLinearPoseSamples (values.map robotPoseFromRpy) = .ok path) ↔
      2 ≤ values.length ∧ 1 + ((List.zip (values.map robotPoseFromRpy) (values.map robotPoseFromRpy).tail).map
        edgeSegments).sum ≤ 30000) ∧
      ∀ path, piecewiseLinearPoseSamples (values.map robotPoseFromRpy) = .ok path →
        PolylineSamples (values.map robotPoseFromRpy) path := by
  have proper : ∀ pose ∈ values.map robotPoseFromRpy, pose.Proper := by
    intro pose member
    obtain ⟨value, -, rfl⟩ := List.mem_map.mp member
    exact proper_robotPoseFromRpy value
  refine ⟨?_, fun path ok => piecewiseLinearPoseSamples_ok proper ok⟩
  rcases values with - | ⟨first, - | ⟨second, rest⟩⟩
  · simp [piecewiseLinearPoseSamples]
  · simp [piecewiseLinearPoseSamples]
  · have edges := edges_iff (List.map robotPoseFromRpy (second :: rest))
      (show ∀ pose ∈ robotPoseFromRpy first :: List.map robotPoseFromRpy (second :: rest), pose.Proper from proper)
      (show (⟨[robotPoseFromRpy first], [0]⟩ : PiecewiseLinearPosePath).poses.length ≤ 30000 by simp)
    simp only [List.map_cons, List.tail_cons, List.length_singleton] at edges ⊢
    rw [← edges]
    constructor
    · rintro ⟨path, ok⟩
      obtain ⟨result, folded, -⟩ := bind_eq_ok ok
      exact ⟨by simp, result, folded⟩
    · rintro ⟨-, result, folded⟩
      exact ⟨_, congrArg (· >>= _) folded⟩

/-! ## Arcs -/

section Arcs

variable {arc : CircularArc} {start via finish : Vector3}

/-- A chord of an arc is no longer than the arc. -/
theorem CircularArc.Through.chord (through : arc.Through start via finish) {first second : ℝ} (ordered : first ≤ second) :
    vectorNorm (arc.position second - arc.position first) ≤ arc.radius * (second - first) := by
  have radius_nonneg : 0 ≤ arc.radius := through.start_distance ▸ vectorNorm_nonneg _
  have difference : arc.position second - arc.position first = arc.radius •
      ((Real.cos second - Real.cos first) • arc.radialAxis + (Real.sin second - Real.sin first) • arc.tangentAxis) := by
    rw [CircularArc.position, CircularArc.position, add_sub_add_left_eq_sub, ← smul_sub]
    congr 1
    module
  have square : ((Real.cos second - Real.cos first) • arc.radialAxis +
      (Real.sin second - Real.sin first) • arc.tangentAxis) ⬝ᵥ ((Real.cos second - Real.cos first) • arc.radialAxis +
      (Real.sin second - Real.sin first) • arc.tangentAxis) = 2 - 2 * Real.cos (second - first) := by
    rw [dot_combine, through.orthonormal.radial_self, through.orthonormal.tangent_self,
      through.orthonormal.radial_tangent, Real.cos_sub]
    linear_combination Real.sin_sq_add_cos_sq first + Real.sin_sq_add_cos_sq second
  have cosine := Real.one_sub_sq_div_two_le_cos (x := second - first)
  rw [difference, vectorNorm_smul radius_nonneg, vectorNorm, square]
  refine mul_le_mul_of_nonneg_left ?_ radius_nonneg
  rw [Real.sqrt_le_left (sub_nonneg.mpr ordered)]
  linarith

/-- The pose up to the via pose, with the orientation on the shortest arc. -/
theorem circularPose_first (through : arc.Through start via finish) {first second third : Quaternion} {amount : ℝ}
    (inside : 0 ≤ amount ∧ amount ≤ 1) : circularPose arc first second third (amount * arc.viaAngle) =
      .ok (cartesianPose (arc.position (amount * arc.viaAngle)) (slerp first second amount)) := by
  have via_pos := through.viaAngle_pos
  have end_pos := via_pos.trans through.viaAngle_lt
  have valid : ¬ (arc.viaAngle / arc.endAngle ≤ 0 ∨ 1 ≤ arc.viaAngle / arc.endAngle) :=
    not_or.mpr ⟨not_le.mpr (div_pos via_pos end_pos), not_le.mpr ((div_lt_one end_pos).mpr through.viaAngle_lt)⟩
  have before : amount * arc.viaAngle / arc.endAngle ≤ arc.viaAngle / arc.endAngle :=
    div_le_div_of_nonneg_right (mul_le_of_le_one_left via_pos.le inside.2) end_pos.le
  have bounded : clampUnit (amount * arc.viaAngle / arc.endAngle) = amount * arc.viaAngle / arc.endAngle :=
    clampUnit_of_mem (div_nonneg (mul_nonneg inside.1 via_pos.le) end_pos.le)
      (before.trans ((div_lt_one end_pos).mpr through.viaAngle_lt).le)
  have part : amount * arc.viaAngle / arc.endAngle / (arc.viaAngle / arc.endAngle) = amount := by
    field_simp
  rw [circularPose, circularSlerpThroughVia, if_neg valid]
  simp only [bounded, if_pos before, part]
  rfl

/-- The pose after the via pose. -/
theorem circularPose_second (through : arc.Through start via finish) {first second third : Quaternion} {amount : ℝ}
    (inside : 0 < amount ∧ amount ≤ 1) :
    circularPose arc first second third (arc.viaAngle + amount * (arc.endAngle - arc.viaAngle)) =
      .ok (cartesianPose (arc.position (arc.viaAngle + amount * (arc.endAngle - arc.viaAngle)))
        (slerp second third amount)) := by
  have via_pos := through.viaAngle_pos
  have end_pos := via_pos.trans through.viaAngle_lt
  have rest_pos : 0 < arc.endAngle - arc.viaAngle := sub_pos.mpr through.viaAngle_lt
  have valid : ¬ (arc.viaAngle / arc.endAngle ≤ 0 ∨ 1 ≤ arc.viaAngle / arc.endAngle) :=
    not_or.mpr ⟨not_le.mpr (div_pos via_pos end_pos), not_le.mpr ((div_lt_one end_pos).mpr through.viaAngle_lt)⟩
  have turned : 0 < amount * (arc.endAngle - arc.viaAngle) := mul_pos inside.1 rest_pos
  have whole : amount * (arc.endAngle - arc.viaAngle) ≤ arc.endAngle - arc.viaAngle :=
    mul_le_of_le_one_left rest_pos.le inside.2
  have bounded : clampUnit ((arc.viaAngle + amount * (arc.endAngle - arc.viaAngle)) / arc.endAngle) =
      (arc.viaAngle + amount * (arc.endAngle - arc.viaAngle)) / arc.endAngle :=
    clampUnit_of_mem (div_nonneg (by linarith) end_pos.le) ((div_le_one end_pos).mpr (by linarith))
  have after : ¬ (arc.viaAngle + amount * (arc.endAngle - arc.viaAngle)) / arc.endAngle ≤
      arc.viaAngle / arc.endAngle := by
    rw [not_le, div_lt_div_iff_of_pos_right end_pos]
    linarith
  have part : ((arc.viaAngle + amount * (arc.endAngle - arc.viaAngle)) / arc.endAngle - arc.viaAngle / arc.endAngle) /
      (1 - arc.viaAngle / arc.endAngle) = amount := by
    rw [← sub_div, add_sub_cancel_left, one_sub_div end_pos.ne', div_div_div_cancel_right₀ end_pos.ne',
      mul_div_cancel_right₀ _ rest_pos.ne']
  rw [circularPose, circularSlerpThroughVia, if_neg valid]
  simp only [bounded, if_neg after, part]
  rfl

end Arcs

/-- The poses that `build_circular_trajectory_plan_common` solves for, in their order. -/
def circularTargets (arc : CircularArc) (start via finish : Quaternion) (firstSegments secondSegments : ℕ) :
    List (Except String Pose) :=
  (firstAngles arc firstSegments).map (circularPose arc start via finish) ++
    (secondAngles arc secondSegments).map (circularPose arc start via finish)

/-- What the samples of a circular arc are. -/
structure ArcSamples (start via finish : Pose) (viaIndex : ℕ) (poses : List Pose) : Prop where
  first : poses.head? = some start
  passes : poses[viaIndex]? = some via
  last : poses.getLast? = some finish
  proper : ∀ pose ∈ poses, pose.Proper
  close : poses.IsChain Close
  circle : ∃ arc : CircularArc, arc.Through start.position via.position finish.position ∧ ∀ pose ∈ poses,
    ∃ angle, 0 ≤ angle ∧ angle ≤ arc.endAngle ∧ pose.position = arc.position angle

section ArcTargets

variable {arc : CircularArc} {start via finish : Pose} {first second third : Quaternion}

/-- The samples of one of the two parts of an arc, with its start. -/
def partSamples (arc : CircularArc) (angle turn : ℝ) (start finish : Quaternion) (segments : ℕ) : List Pose :=
  (List.range (segments + 1)).map fun sample =>
    cartesianPose (arc.position (angle + (sample : ℕ) / segments * turn)) (slerp start finish ((sample : ℕ) / segments))

theorem partSamples_close {center via finish : Vector3} (through : arc.Through center via finish) {angle turn : ℝ}
    (turns : 0 ≤ turn) (unit : first.Unit) (unit' : second.Unit) {segments : ℕ}
    (enough : segments = requiredSegments (arc.radius * turn) (angularDistance first second)) :
    (partSamples arc angle turn first second segments).IsChain Close := by
  obtain ⟨translation, orientation⟩ := requiredSegments_le (arc.radius * turn) (angularDistance first second)
  rw [← enough] at translation orientation
  rw [List.isChain_iff_getElem]
  intro k inside
  rw [partSamples, List.length_map, List.length_range] at inside
  have below : k < segments := Nat.lt_of_succ_lt_succ inside
  simp only [partSamples, List.getElem_map, List.getElem_range]
  refine close_of_units (slerp_unit unit unit' (fraction_mem below.le)) (slerp_unit unit unit' (fraction_mem below))
    ?_ (angularDistance_step unit unit' below orientation)
  have step : angle + ((k + 1 : ℕ) : ℝ) / segments * turn - (angle + (k : ℝ) / segments * turn) = turn / segments := by
    rw [add_sub_add_left_eq_sub, ← sub_mul, fraction_succ_sub, one_div_mul_eq_div]
  refine (through.chord ?_).trans ?_
  · rw [← sub_nonneg, step]
    exact div_nonneg turns (Nat.cast_nonneg _)
  · rw [step, ← mul_div_assoc]
    exact translation

theorem partSamples_getElem? {angle turn : ℝ} {segments k : ℕ} (inside : k ≤ segments) :
    (partSamples arc angle turn first second segments)[k]? =
      some (cartesianPose (arc.position (angle + (k : ℝ) / segments * turn)) (slerp first second ((k : ℝ) / segments))) := by
  rw [partSamples, List.getElem?_map, List.getElem?_range (Nat.lt_succ_of_le inside)]
  rfl

/-- The samples of a part after its start. -/
def laterSamples (arc : CircularArc) (angle turn : ℝ) (start finish : Quaternion) (segments : ℕ) : List Pose :=
  (List.range segments).map fun sample =>
    cartesianPose (arc.position (angle + ((sample + 1 : ℕ) : ℝ) / segments * turn))
      (slerp start finish (((sample + 1 : ℕ) : ℝ) / segments))

theorem length_laterSamples (arc : CircularArc) (angle turn : ℝ) (first second : Quaternion) (segments : ℕ) :
    (laterSamples arc angle turn first second segments).length = segments := by
  rw [laterSamples, List.length_map, List.length_range]

theorem partSamples_cons (arc : CircularArc) (angle turn : ℝ) (first second : Quaternion) (segments : ℕ) :
    ∃ pose, partSamples arc angle turn first second segments =
      pose :: laterSamples arc angle turn first second segments := by
  rw [partSamples, List.range_succ_eq_map, List.map_cons, List.map_map]
  exact ⟨_, rfl⟩

theorem proper_partSamples {angle turn : ℝ} (unit : first.Unit) (unit' : second.Unit) {segments : ℕ} :
    ∀ pose ∈ partSamples arc angle turn first second segments, pose.Proper := by
  intro pose found
  obtain ⟨sample, inside, rfl⟩ := List.mem_map.mp found
  exact proper_rotationFromQuaternion
    (slerp_unit unit unit' (fraction_mem (Nat.le_of_lt_succ (List.mem_range.mp inside))))

theorem partSamples_angle {angle turn : ℝ} (turns : 0 ≤ turn) {segments : ℕ} :
    ∀ pose ∈ partSamples arc angle turn first second segments,
      ∃ place, angle ≤ place ∧ place ≤ angle + turn ∧ pose.position = arc.position place := by
  intro pose found
  obtain ⟨sample, inside, rfl⟩ := List.mem_map.mp found
  obtain ⟨above, below⟩ := fraction_mem (Nat.le_of_lt_succ (List.mem_range.mp inside))
  exact ⟨_, le_add_of_nonneg_right (mul_nonneg above turns),
    add_le_add_right (mul_le_of_le_one_left turns below) angle, rfl⟩

/-- A part of an arc from one pose to another. -/
theorem partSamples_ends {angle turn : ℝ} (converts : Converts start.rotation first)
    (converts' : Converts finish.rotation second) (starts : arc.position angle = start.position)
    (finishes : arc.position (angle + turn) = finish.position) {segments : ℕ} (positive : 0 < segments) :
    (partSamples arc angle turn first second segments)[0]? = some start ∧
      (partSamples arc angle turn first second segments)[segments]? = some finish := by
  constructor
  · rw [partSamples_getElem? (Nat.zero_le _), Nat.cast_zero, zero_div, zero_mul, add_zero, starts,
      slerp_zero converts.unit converts'.unit, cartesianPose, converts.inverse]
  · rw [partSamples_getElem? le_rfl, div_self (Nat.cast_ne_zero.mpr positive.ne'), one_mul, finishes, cartesianPose,
      rotation_slerp_one converts.unit converts'.unit, converts'.inverse]

/-- The targets of a circular arc are the samples of its two parts. -/
theorem circularTargets_eq (through : arc.Through start.position via.position finish.position)
    {firstSegments secondSegments : ℕ} (positive : 0 < secondSegments) :
    circularTargets arc first second third firstSegments secondSegments =
      (laterSamples arc 0 arc.viaAngle first second firstSegments ++
        laterSamples arc arc.viaAngle (arc.endAngle - arc.viaAngle) second third secondSegments).map .ok := by
  rw [circularTargets, firstAngles, secondAngles, laterSamples, laterSamples, List.map_append, List.map_map,
    List.map_map, List.map_map, List.map_map]
  refine congrArg₂ _ (List.map_congr_left fun sample inside => ?_) (List.map_congr_left fun sample inside => ?_)
  · simp only [Function.comp_apply, zero_add]
    exact circularPose_first through (fraction_mem (List.mem_range.mp inside))
  · exact circularPose_second through ⟨by positivity, (fraction_mem (List.mem_range.mp inside)).2⟩

/-- The samples of a circular arc through three rigid placements: at least every two millimetres and every tenth of a
radian, on the circle, with the via pose where the parts meet. -/
theorem circularTargets_ok (through : arc.Through start.position via.position finish.position)
    (converts : Converts start.rotation first) (converts' : Converts via.rotation second)
    (converts'' : Converts finish.rotation third) {firstSegments secondSegments : ℕ}
    (enough : firstSegments = requiredSegments (arc.radius * arc.viaAngle) (angularDistance first second))
    (enough' : secondSegments =
      requiredSegments (arc.radius * (arc.endAngle - arc.viaAngle)) (angularDistance second third)) :
    ∃ poses, circularTargets arc first second third firstSegments secondSegments = poses.map .ok ∧
      poses.length = firstSegments + secondSegments ∧
      ArcSamples start via finish firstSegments (start :: poses) := by
  have positive : 0 < firstSegments := enough ▸ requiredSegments_pos _ _
  have positive' : 0 < secondSegments := enough' ▸ requiredSegments_pos _ _
  have rest_pos : 0 < arc.endAngle - arc.viaAngle := sub_pos.mpr through.viaAngle_lt
  have starts : arc.position 0 = start.position := through.start_position
  obtain ⟨front, reached⟩ := partSamples_ends converts converts' starts
    ((congrArg arc.position (zero_add arc.viaAngle)).trans through.via_position) positive
  obtain ⟨front', reached'⟩ := partSamples_ends converts' converts'' through.via_position
    ((congrArg arc.position (add_sub_cancel _ _)).trans through.end_position) positive'
  have close : (partSamples arc 0 arc.viaAngle first second firstSegments).IsChain Close :=
    partSamples_close through through.viaAngle_pos.le converts.unit converts'.unit enough
  have close' : (partSamples arc arc.viaAngle (arc.endAngle - arc.viaAngle) second third secondSegments).IsChain Close :=
    partSamples_close through rest_pos.le converts'.unit converts''.unit enough'
  have proper : ∀ pose ∈ partSamples arc 0 arc.viaAngle first second firstSegments, pose.Proper :=
    proper_partSamples converts.unit converts'.unit
  have proper' : ∀ pose ∈ partSamples arc arc.viaAngle (arc.endAngle - arc.viaAngle) second third secondSegments,
      pose.Proper := proper_partSamples converts'.unit converts''.unit
  have places : ∀ pose ∈ partSamples arc 0 arc.viaAngle first second firstSegments, ∃ place, 0 ≤ place ∧
      place ≤ 0 + arc.viaAngle ∧ pose.position = arc.position place := partSamples_angle through.viaAngle_pos.le
  have places' : ∀ pose ∈ partSamples arc arc.viaAngle (arc.endAngle - arc.viaAngle) second third secondSegments,
      ∃ place, arc.viaAngle ≤ place ∧ place ≤ arc.viaAngle + (arc.endAngle - arc.viaAngle) ∧
        pose.position = arc.position place := partSamples_angle rest_pos.le
  obtain ⟨head, part⟩ := partSamples_cons arc 0 arc.viaAngle first second firstSegments
  obtain ⟨head', part'⟩ := partSamples_cons arc arc.viaAngle (arc.endAngle - arc.viaAngle) second third secondSegments
  rw [part] at front reached close proper places
  rw [part'] at front' reached' close' proper' places'
  obtain rfl : head = start := Option.some.inj front
  obtain rfl : head' = via := Option.some.inj front'
  have last : (head :: laterSamples arc 0 arc.viaAngle first second firstSegments).getLast? = some head' := by
    rw [List.getLast?_eq_getElem?, List.length_cons, length_laterSamples]
    exact reached
  have last' : (laterSamples arc arc.viaAngle (arc.endAngle - arc.viaAngle) second third
      secondSegments).getLast? = some finish := by
    rw [List.getLast?_eq_getElem?, length_laterSamples, ← List.getElem?_cons_succ (a := head'),
      Nat.sub_one_add_one positive'.ne']
    exact reached'
  refine ⟨laterSamples arc 0 arc.viaAngle first second firstSegments ++
    laterSamples arc arc.viaAngle (arc.endAngle - arc.viaAngle) second third secondSegments,
    circularTargets_eq through positive', ?_, ?_⟩
  · rw [List.length_append, length_laterSamples, length_laterSamples]
  · rw [← List.cons_append]
    refine {
      first := rfl
      passes := ?_
      last := ?_
      proper := fun pose found => ?_
      close := ?_
      circle := ⟨arc, through, fun pose found => ?_⟩ }
    · rw [List.getElem?_append_left (by rw [List.length_cons, length_laterSamples]; exact Nat.lt_succ_self _)]
      exact reached
    · rw [List.getLast?_append, last']
      rfl
    · obtain found | found := List.mem_append.mp found
      · exact proper pose found
      · exact proper' pose (List.mem_cons_of_mem _ found)
    · exact isChain_append_of_last close last close'
    · obtain found | found := List.mem_append.mp found
      · obtain ⟨place, above, below, same⟩ := places pose found
        have inside := through.viaAngle_lt
        exact ⟨place, above, by linarith, same⟩
      · obtain ⟨place, above, below, same⟩ := places' pose (List.mem_cons_of_mem _ found)
        have inside := through.viaAngle_pos
        exact ⟨place, by linarith, by linarith, same⟩

end ArcTargets

end

end MotorDrive.Cartesian
