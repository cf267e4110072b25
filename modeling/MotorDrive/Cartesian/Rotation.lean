import MotorDrive.Library.Plane

/-!
# Rotations and quaternions

`quaternion_from_rotation` and `rotation_from_quaternion` of `cartesian_math.hpp` over the real numbers.  The
products of the coordinates of a quaternion are linear in the entries of its rotation, and each branch of the first
function reads one row of them.
-/

namespace MotorDrive.Cartesian

open Plane Matrix

noncomputable section

/-- The nine entries of a rotation, row by row. -/
abbrev Rotation := Fin 9 → ℝ

/-- `Quaternion`. -/
@[ext]
structure Quaternion where
  w : ℝ
  x : ℝ
  y : ℝ
  z : ℝ

/-- The norm that the conversion divides by. -/
def Quaternion.norm (value : Quaternion) : ℝ :=
  √(value.w * value.w + value.x * value.x + value.y * value.y + value.z * value.z)

/-- The four branches of `quaternion_from_rotation`: the divisor `scale`, and the quaternion before it is divided by
its norm. -/
def scaledQuaternion (rotation : Rotation) : ℝ × Quaternion :=
  let trace := rotation 0 + rotation 4 + rotation 8
  if 0 < trace then
    let scale := √(trace + 1) * 2
    (scale,
      { w := 1 / 4 * scale
        x := (rotation 7 - rotation 5) / scale
        y := (rotation 2 - rotation 6) / scale
        z := (rotation 3 - rotation 1) / scale })
  else if rotation 4 < rotation 0 ∧ rotation 8 < rotation 0 then
    let scale := √(1 + rotation 0 - rotation 4 - rotation 8) * 2
    (scale,
      { w := (rotation 7 - rotation 5) / scale
        x := 1 / 4 * scale
        y := (rotation 1 + rotation 3) / scale
        z := (rotation 2 + rotation 6) / scale })
  else if rotation 8 < rotation 4 then
    let scale := √(1 + rotation 4 - rotation 0 - rotation 8) * 2
    (scale,
      { w := (rotation 2 - rotation 6) / scale
        x := (rotation 1 + rotation 3) / scale
        y := 1 / 4 * scale
        z := (rotation 5 + rotation 7) / scale })
  else
    let scale := √(1 + rotation 8 - rotation 0 - rotation 4) * 2
    (scale,
      { w := (rotation 3 - rotation 1) / scale
        x := (rotation 2 + rotation 6) / scale
        y := (rotation 5 + rotation 7) / scale
        z := 1 / 4 * scale })

/-- `quaternion_from_rotation`. -/
def quaternionFromRotation (rotation : Rotation) : Except String Quaternion :=
  let result := (scaledQuaternion rotation).2
  let norm := result.norm
  if norm ≤ 1 / 2 ^ 52 then .error "Cartesian orientation is invalid"
  else .ok { w := result.w / norm, x := result.x / norm, y := result.y / norm, z := result.z / norm }

/-- `rotation_from_quaternion`. -/
def rotationFromQuaternion (value : Quaternion) : Rotation :=
  let xx := value.x * value.x
  let yy := value.y * value.y
  let zz := value.z * value.z
  let xy := value.x * value.y
  let xz := value.x * value.z
  let yz := value.y * value.z
  let wx := value.w * value.x
  let wy := value.w * value.y
  let wz := value.w * value.z
  ![1 - 2 * (yy + zz), 2 * (xy - wz), 2 * (xz + wy),
    2 * (xy + wz), 1 - 2 * (xx + zz), 2 * (yz - wx),
    2 * (xz - wy), 2 * (yz + wx), 1 - 2 * (xx + yy)]

/-! ## Products of coordinates -/

def Quaternion.coordinates (value : Quaternion) : Fin 4 → ℝ := ![value.w, value.x, value.y, value.z]

/-- Four times the products of the coordinates, from the entries of a rotation. -/
def products (rotation : Rotation) : Fin 4 → Fin 4 → ℝ :=
  ![![rotation 0 + rotation 4 + rotation 8 + 1, rotation 7 - rotation 5, rotation 2 - rotation 6,
      rotation 3 - rotation 1],
    ![rotation 7 - rotation 5, 1 + rotation 0 - rotation 4 - rotation 8, rotation 1 + rotation 3,
      rotation 2 + rotation 6],
    ![rotation 2 - rotation 6, rotation 1 + rotation 3, 1 + rotation 4 - rotation 0 - rotation 8,
      rotation 5 + rotation 7],
    ![rotation 3 - rotation 1, rotation 2 + rotation 6, rotation 5 + rotation 7,
      1 + rotation 8 - rotation 0 - rotation 4]]

/-- The products of the coordinates are of rank one. -/
def Minors (rotation : Rotation) : Prop :=
  ∀ i j k, products rotation i j * products rotation i k = products rotation i i * products rotation j k

/-- `Quaternion` of unit length. -/
def Quaternion.Unit (value : Quaternion) : Prop :=
  value.w * value.w + value.x * value.x + value.y * value.y + value.z * value.z = 1

variable {rotation : Rotation} {value other : Quaternion}

theorem quarter_mul_root {a : ℝ} (positive : 0 < a) : 1 / 4 * (√a * 2) = a / (√a * 2) := by
  have root := Real.mul_self_sqrt positive.le
  have divisor : √a ≠ 0 := (Real.sqrt_pos.mpr positive).ne'
  field_simp
  linear_combination 4 * root

/-- Each branch reads a row of products with a positive diagonal entry, for every array of entries. -/
theorem scaledQuaternion_row (rotation : Rotation) : ∃ i, 0 < products rotation i i ∧
    (scaledQuaternion rotation).1 = √(products rotation i i) * 2 ∧
      ∀ j, (scaledQuaternion rotation).2.coordinates j =
        products rotation i j / (√(products rotation i i) * 2) := by
  unfold scaledQuaternion
  simp only
  split_ifs with first second third
  · have positive : 0 < rotation 0 + rotation 4 + rotation 8 + 1 := by linarith
    refine ⟨0, positive, rfl, fun j => ?_⟩
    fin_cases j
    · exact quarter_mul_root positive
    all_goals rfl
  · have positive : 0 < 1 + rotation 0 - rotation 4 - rotation 8 := by linarith [second.1, second.2]
    refine ⟨1, positive, rfl, fun j => ?_⟩
    fin_cases j
    on_goal 2 => exact quarter_mul_root positive
    all_goals rfl
  · have positive : 0 < 1 + rotation 4 - rotation 0 - rotation 8 := by
      by_contra small
      exact second ⟨by linarith, by linarith⟩
    refine ⟨2, positive, rfl, fun j => ?_⟩
    fin_cases j
    on_goal 3 => exact quarter_mul_root positive
    all_goals rfl
  · have positive : 0 < 1 + rotation 8 - rotation 0 - rotation 4 := by
      by_contra small
      exact second ⟨by linarith, by linarith⟩
    refine ⟨3, positive, rfl, fun j => ?_⟩
    fin_cases j
    on_goal 4 => exact quarter_mul_root positive
    all_goals rfl

/-- With products of rank one, four times the products of the coordinates of a branch's quaternion are the row's. -/
theorem mul_scaledQuaternion (minors : Minors rotation) (j k : Fin 4) :
    (scaledQuaternion rotation).2.coordinates j * (scaledQuaternion rotation).2.coordinates k =
      products rotation j k / 4 := by
  obtain ⟨i, positive, -, row⟩ := scaledQuaternion_row rotation
  rw [row j, row k]
  exact mul_of_minors positive (minors i) j k

/-- A quaternion whose products are the ones of the entries is of unit length, and its rotation has the entries. -/
theorem unit_of_products (square : ∀ j k, value.coordinates j * value.coordinates k = products rotation j k / 4) :
    value.Unit ∧ rotationFromQuaternion value = rotation := by
  have ww : value.w * value.w = (rotation 0 + rotation 4 + rotation 8 + 1) / 4 := square 0 0
  have xx : value.x * value.x = (1 + rotation 0 - rotation 4 - rotation 8) / 4 := square 1 1
  have yy : value.y * value.y = (1 + rotation 4 - rotation 0 - rotation 8) / 4 := square 2 2
  have zz : value.z * value.z = (1 + rotation 8 - rotation 0 - rotation 4) / 4 := square 3 3
  have wx : value.w * value.x = (rotation 7 - rotation 5) / 4 := square 0 1
  have wy : value.w * value.y = (rotation 2 - rotation 6) / 4 := square 0 2
  have wz : value.w * value.z = (rotation 3 - rotation 1) / 4 := square 0 3
  have xy : value.x * value.y = (rotation 1 + rotation 3) / 4 := square 1 2
  have xz : value.x * value.z = (rotation 2 + rotation 6) / 4 := square 1 3
  have yz : value.y * value.z = (rotation 5 + rotation 7) / 4 := square 2 3
  refine ⟨?_, ?_⟩
  · rw [Quaternion.Unit, ww, xx, yy, zz]
    ring
  · unfold rotationFromQuaternion
    simp only [xx, yy, zz, wx, wy, wz, xy, xz, yz]
    ext i
    fin_cases i <;> simp only [Fin.reduceFinMk, Matrix.cons_val] <;> ring

/-- The products of a unit quaternion are the ones of its rotation. -/
theorem products_rotationFromQuaternion (unit : value.Unit) (j k : Fin 4) :
    value.coordinates j * value.coordinates k = products (rotationFromQuaternion value) j k / 4 := by
  unfold Quaternion.Unit at unit
  fin_cases j <;> fin_cases k <;>
    simp only [Quaternion.coordinates, products, rotationFromQuaternion, Fin.reduceFinMk, Matrix.cons_val] <;>
    linarith

theorem minors_of_mul (square : ∀ j k, value.coordinates j * value.coordinates k = products rotation j k / 4) :
    Minors rotation := by
  intro i j k
  have entry := fun j k => eq_div_iff (four_ne_zero (α := ℝ)) |>.mp (square j k)
  rw [← entry i j, ← entry i k, ← entry i i, ← entry j k]
  ring

/-- With products of rank one, the conversion gives the quaternion of its branch. -/
theorem quaternionFromRotation_eq (minors : Minors rotation) :
    quaternionFromRotation rotation = .ok (scaledQuaternion rotation).2 ∧ (scaledQuaternion rotation).2.norm = 1 := by
  have unit := (unit_of_products (mul_scaledQuaternion minors)).1
  have norm : (scaledQuaternion rotation).2.norm = 1 := by
    rw [Quaternion.norm, unit, Real.sqrt_one]
  refine ⟨?_, norm⟩
  rw [quaternionFromRotation, norm, if_neg (by norm_num)]
  simp only [div_one]

/-! ## Proper rotations -/

/-- The rotation as a matrix. -/
def Rotation.matrix (rotation : Rotation) : Matrix (Fin 3) (Fin 3) ℝ :=
  !![rotation 0, rotation 1, rotation 2; rotation 3, rotation 4, rotation 5; rotation 6, rotation 7, rotation 8]

/-- A proper rotation: its transpose is its inverse, and its determinant is one. -/
def Rotation.Proper (rotation : Rotation) : Prop :=
  Rotation.matrix rotation ∈ specialOrthogonalGroup (Fin 3) ℝ

/-- The cofactors of a proper rotation are its entries. -/
theorem Rotation.Proper.adjugate (proper : Rotation.Proper rotation) :
    (Rotation.matrix rotation).adjugate = (Rotation.matrix rotation)ᵀ := by
  obtain ⟨orthogonal, determinant⟩ := mem_specialOrthogonalGroup_iff.mp proper
  have inverse : (Rotation.matrix rotation)ᵀ * Rotation.matrix rotation = 1 :=
    (mem_orthogonalGroup_iff' (Fin 3) ℝ).mp orthogonal
  calc (Rotation.matrix rotation).adjugate
      = (Rotation.matrix rotation)ᵀ * Rotation.matrix rotation * (Rotation.matrix rotation).adjugate := by
        rw [inverse, one_mul]
    _ = (Rotation.matrix rotation)ᵀ := by
        rw [mul_assoc, mul_adjugate, determinant, one_smul, mul_one]

/-- The products of a proper rotation are of rank one. -/
theorem minors_of_proper (proper : Rotation.Proper rotation) : Minors rotation := by
  have orthogonal := (mem_specialOrthogonalGroup_iff.mp proper).1
  have rows := fun i j => congrFun (congrFun ((mem_orthogonalGroup_iff (Fin 3) ℝ).mp orthogonal) i) j
  have columns := fun i j => congrFun (congrFun ((mem_orthogonalGroup_iff' (Fin 3) ℝ).mp orthogonal) i) j
  have cofactors := fun i j => congrFun (congrFun proper.adjugate i) j
  simp [Rotation.matrix, adjugate_fin_three, Fin.forall_fin_succ, mul_apply, Fin.sum_univ_succ]
    at rows columns cofactors
  intro i j k
  fin_cases i <;> fin_cases j <;> fin_cases k <;>
    simp only [products, Fin.reduceFinMk, Matrix.cons_val] <;> grind

/-! ## The conversions are inverse -/

/-- The conversion of a rotation succeeds without a division by zero, in a unit quaternion of the same rotation. -/
structure Converts (rotation : Rotation) (value : Quaternion) : Prop where
  gives : quaternionFromRotation rotation = .ok value
  scale_pos : 0 < (scaledQuaternion rotation).1
  norm_pos : 0 < (scaledQuaternion rotation).2.norm
  unit : value.Unit
  inverse : rotationFromQuaternion value = rotation

theorem converts_of_minors (minors : Minors rotation) : Converts rotation (scaledQuaternion rotation).2 where
  gives := (quaternionFromRotation_eq minors).1
  scale_pos := by
    obtain ⟨i, positive, divisor, -⟩ := scaledQuaternion_row rotation
    rw [divisor]
    exact mul_pos (Real.sqrt_pos.mpr positive) two_pos
  norm_pos := by
    rw [(quaternionFromRotation_eq minors).2]
    exact one_pos
  unit := (unit_of_products (mul_scaledQuaternion minors)).1
  inverse := (unit_of_products (mul_scaledQuaternion minors)).2

/-- `-q`. -/
def Quaternion.neg (value : Quaternion) : Quaternion :=
  { w := -value.w, x := -value.x, y := -value.y, z := -value.z }

/-- Unit quaternions with one rotation are equal or opposite. -/
theorem eq_or_neg_of_rotation (unit : value.Unit) (unit' : other.Unit)
    (same : rotationFromQuaternion other = rotationFromQuaternion value) : other = value ∨ other = value.neg := by
  have coordinates : other.coordinates = value.coordinates ∨ other.coordinates = -value.coordinates := by
    refine eq_or_eq_neg_of_mul fun j k => ?_
    rw [products_rotationFromQuaternion unit' j k, products_rotationFromQuaternion unit j k, same]
  refine coordinates.imp (fun equal => ?_) (fun opposite => ?_)
  · exact Quaternion.ext (congrFun equal 0) (congrFun equal 1) (congrFun equal 2) (congrFun equal 3)
  · exact Quaternion.ext (congrFun opposite 0) (congrFun opposite 1) (congrFun opposite 2) (congrFun opposite 3)

/-- Every proper rotation is converted to a unit quaternion and back, and every unit quaternion up to its sign. -/
theorem conversions_inverse :
    (∀ rotation : Rotation, rotation.Proper → ∃ value, Converts rotation value) ∧
      ∀ value : Quaternion, value.Unit →
        quaternionFromRotation (rotationFromQuaternion value) = .ok value ∨
          quaternionFromRotation (rotationFromQuaternion value) = .ok value.neg := by
  refine ⟨fun rotation proper => ⟨_, converts_of_minors (minors_of_proper proper)⟩, fun value unit => ?_⟩
  have minors := minors_of_mul (products_rotationFromQuaternion unit)
  have converts := converts_of_minors minors
  rw [converts.gives]
  rcases eq_or_neg_of_rotation unit converts.unit converts.inverse with same | opposite
  · exact .inl (congrArg Except.ok same)
  · exact .inr (congrArg Except.ok opposite)

theorem proper_half_turn : Rotation.Proper ![1, 0, 0, 0, -1, 0, 0, 0, -1] := by
  refine mem_specialOrthogonalGroup_iff.mpr ⟨(mem_orthogonalGroup_iff (Fin 3) ℝ).mpr ?_, ?_⟩
  · ext i j
    fin_cases i <;> fin_cases j <;> simp [Rotation.matrix, mul_apply, Fin.sum_univ_succ]
  · simp [Rotation.matrix, det_fin_three]

theorem conversions_inverse_half_turn :
    (∃ value, Converts ![1, 0, 0, 0, -1, 0, 0, 0, -1] value) ∧
      (quaternionFromRotation (rotationFromQuaternion ⟨0, 1, 0, 0⟩) = .ok ⟨0, 1, 0, 0⟩ ∨
        quaternionFromRotation (rotationFromQuaternion ⟨0, 1, 0, 0⟩) = .ok (Quaternion.neg ⟨0, 1, 0, 0⟩)) :=
  ⟨conversions_inverse.1 _ proper_half_turn, conversions_inverse.2 _ (by norm_num [Quaternion.Unit])⟩

end

end MotorDrive.Cartesian
