import MotorDrive.Library.Numerals

/-!
# Circles in space

A plane of `ℝ³` with two axes, the angle of a vector in it, the centre of the circle through the origin and two
points, and vectors that are known by the products of their coordinates.
-/

namespace Plane

open Matrix

/-! ## Axes -/

/-- Three vectors of unit length, each two of them orthogonal. -/
structure Orthonormal (radial tangent normal : Fin 3 → ℝ) : Prop where
  radial_self : radial ⬝ᵥ radial = 1
  tangent_self : tangent ⬝ᵥ tangent = 1
  normal_self : normal ⬝ᵥ normal = 1
  radial_tangent : radial ⬝ᵥ tangent = 0
  radial_normal : radial ⬝ᵥ normal = 0
  tangent_normal : tangent ⬝ᵥ normal = 0

section Axes

variable {radial tangent normal point : Fin 3 → ℝ}

/-- A normal and an axis in its plane have a second axis. -/
theorem orthonormal_cross (unit : radial ⬝ᵥ radial = 1) (unitNormal : normal ⬝ᵥ normal = 1)
    (orthogonal : radial ⬝ᵥ normal = 0) : Orthonormal radial (normal ⨯₃ radial) normal where
  radial_self := unit
  tangent_self := by
    rw [cross_dot_cross, unit, unitNormal, dotProduct_comm normal radial, orthogonal]
    norm_num
  normal_self := unitNormal
  radial_tangent := dot_cross_self normal radial
  radial_normal := orthogonal
  tangent_normal := by
    rw [dotProduct_comm]
    exact dot_self_cross normal radial

/-- The axes that turn the other way. -/
theorem Orthonormal.neg (frame : Orthonormal radial tangent normal) : Orthonormal radial (-tangent) (-normal) where
  radial_self := frame.radial_self
  tangent_self := by rw [neg_dotProduct_neg, frame.tangent_self]
  normal_self := by rw [neg_dotProduct_neg, frame.normal_self]
  radial_tangent := by rw [dotProduct_neg, frame.radial_tangent, neg_zero]
  radial_normal := by rw [dotProduct_neg, frame.radial_normal, neg_zero]
  tangent_normal := by rw [neg_dotProduct_neg, frame.tangent_normal]

/-- A vector by its products with the cross products of three others. -/
theorem triple_smul (a b c p : Fin 3 → ℝ) : (a ⬝ᵥ b ⨯₃ c) • p =
    (p ⬝ᵥ b ⨯₃ c) • a + (p ⬝ᵥ c ⨯₃ a) • b + (p ⬝ᵥ a ⨯₃ b) • c := by
  ext i
  fin_cases i <;> simp [cross_apply, dotProduct, Fin.sum_univ_three] <;> ring

/-- A vector of the plane is the sum of its coordinates. -/
theorem Orthonormal.eq_coordinates (frame : Orthonormal radial tangent normal) (turns : normal ⨯₃ radial = tangent)
    (inPlane : point ⬝ᵥ normal = 0) :
    point = (point ⬝ᵥ radial) • radial + (point ⬝ᵥ tangent) • tangent := by
  have along : tangent ⨯₃ normal = radial := by
    rw [← turns, cross_cross_eq_smul_sub_smul, frame.normal_self, frame.radial_normal, one_smul, zero_smul, sub_zero]
  have up : radial ⨯₃ tangent = normal := by
    rw [← turns, cross_cross_eq_smul_sub_smul', frame.radial_self, dotProduct_comm normal, frame.radial_normal,
      one_smul, zero_smul, sub_zero]
  have coordinates := triple_smul radial tangent normal point
  rwa [along, turns, up, frame.radial_self, inPlane, one_smul, zero_smul, add_zero] at coordinates

end Axes

/-! ## Angles -/

/-- The angle of a vector by its coordinates, at least zero and less than a full turn. -/
noncomputable def turn (x y : ℝ) : ℝ :=
  if Complex.arg ⟨x, y⟩ < 0 then Complex.arg ⟨x, y⟩ + 2 * Real.pi else Complex.arg ⟨x, y⟩

theorem turn_mem (x y : ℝ) : 0 ≤ turn x y ∧ turn x y < 2 * Real.pi := by
  obtain ⟨above, below⟩ := Complex.arg_mem_Ioc ⟨x, y⟩
  have positive := Real.pi_pos
  unfold turn
  split_ifs with negative
  · exact ⟨by linarith, by linarith⟩
  · exact ⟨not_lt.mp negative, by linarith⟩

theorem cos_turn (x y : ℝ) : Real.cos (turn x y) = Real.cos (Complex.arg ⟨x, y⟩) := by
  unfold turn
  split_ifs
  · exact Real.cos_add_two_pi _
  · rfl

theorem sin_turn (x y : ℝ) : Real.sin (turn x y) = Real.sin (Complex.arg ⟨x, y⟩) := by
  unfold turn
  split_ifs
  · exact Real.sin_add_two_pi _
  · rfl

/-- A vector of length `r` has the coordinates of its angle. -/
theorem coordinates_turn {x y r : ℝ} (positive : 0 ≤ r) (length : x * x + y * y = r * r) :
    r * Real.cos (turn x y) = x ∧ r * Real.sin (turn x y) = y := by
  have norm : ‖(⟨x, y⟩ : ℂ)‖ = r := by
    rw [Complex.norm_def, Complex.normSq_mk, length, Real.sqrt_mul_self positive]
  rw [cos_turn, sin_turn, ← norm]
  exact ⟨Complex.norm_mul_cos_arg _, Complex.norm_mul_sin_arg _⟩

/-! ## Centres -/

/-- The centre of the circle through the origin and two points. -/
def circumcenter {K : Type*} [Field K] (u v : Fin 3 → K) : Fin 3 → K :=
  (1 / (2 * (u ⨯₃ v ⬝ᵥ u ⨯₃ v))) • ((u ⬝ᵥ u) • (v ⨯₃ (u ⨯₃ v)) + (v ⬝ᵥ v) • ((u ⨯₃ v) ⨯₃ u))

section Centre

variable {u v : Fin 3 → ℝ}

theorem circumcenter_dot_left (spread : u ⨯₃ v ⬝ᵥ u ⨯₃ v ≠ 0) : circumcenter u v ⬝ᵥ u = u ⬝ᵥ u / 2 := by
  have first : v ⨯₃ (u ⨯₃ v) ⬝ᵥ u = u ⨯₃ v ⬝ᵥ u ⨯₃ v := by
    rw [dotProduct_comm, triple_product_permutation, triple_product_permutation]
  have second : (u ⨯₃ v) ⨯₃ u ⬝ᵥ u = 0 := by
    rw [dotProduct_comm]
    exact dot_cross_self _ _
  unfold circumcenter
  rw [smul_dotProduct, add_dotProduct, smul_dotProduct, smul_dotProduct, first, second]
  simp only [smul_eq_mul]
  field_simp
  ring

theorem circumcenter_dot_right (spread : u ⨯₃ v ⬝ᵥ u ⨯₃ v ≠ 0) : circumcenter u v ⬝ᵥ v = v ⬝ᵥ v / 2 := by
  have first : v ⨯₃ (u ⨯₃ v) ⬝ᵥ v = 0 := by
    rw [dotProduct_comm]
    exact dot_self_cross _ _
  have second : (u ⨯₃ v) ⨯₃ u ⬝ᵥ v = u ⨯₃ v ⬝ᵥ u ⨯₃ v := by
    rw [dotProduct_comm, triple_product_permutation]
  unfold circumcenter
  rw [smul_dotProduct, add_dotProduct, smul_dotProduct, smul_dotProduct, first, second]
  simp only [smul_eq_mul]
  field_simp
  ring

theorem circumcenter_dot_normal (u v : Fin 3 → ℝ) : circumcenter u v ⬝ᵥ u ⨯₃ v = 0 := by
  have first : v ⨯₃ (u ⨯₃ v) ⬝ᵥ u ⨯₃ v = 0 := by
    rw [dotProduct_comm]
    exact dot_cross_self _ _
  have second : (u ⨯₃ v) ⨯₃ u ⬝ᵥ u ⨯₃ v = 0 := by
    rw [dotProduct_comm]
    exact dot_self_cross _ _
  unfold circumcenter
  rw [smul_dotProduct, add_dotProduct, smul_dotProduct, smul_dotProduct, first, second]
  simp

/-- A point whose product with the centre is half its square is as far from the centre as the origin. -/
theorem dot_sub_self {c p : Fin 3 → ℝ} (half : c ⬝ᵥ p = p ⬝ᵥ p / 2) : (p - c) ⬝ᵥ (p - c) = c ⬝ᵥ c := by
  rw [sub_dotProduct, dotProduct_sub, dotProduct_sub, dotProduct_comm p c, half]
  ring

end Centre

/-! ## Products -/

section Products

variable {ι : Type*}

/-- A row of products by one positive diagonal entry gives every product of the coordinates. -/
theorem mul_of_minors {products : ι → ι → ℝ} {i : ι} (positive : 0 < products i i)
    (minors : ∀ j k, products i j * products i k = products i i * products j k) (j k : ι) :
    products i j / (√(products i i) * 2) * (products i k / (√(products i i) * 2)) = products j k / 4 := by
  have root := Real.mul_self_sqrt positive.le
  have divisor : √(products i i) ≠ 0 := (Real.sqrt_pos.mpr positive).ne'
  rw [div_mul_div_comm, minors j k, mul_mul_mul_comm, root]
  field_simp
  norm_num

/-- Two vectors with the same products of coordinates are equal or opposite. -/
theorem eq_or_eq_neg_of_mul {p q : ι → ℝ} (products : ∀ j k, p j * p k = q j * q k) : p = q ∨ p = -q := by
  by_cases zero : q = 0
  · refine .inl (funext fun j => ?_)
    have square := products j j
    rw [zero, Pi.zero_apply, mul_zero] at square
    rw [zero, mul_self_eq_zero.mp square, Pi.zero_apply]
  · obtain ⟨i, nonzero⟩ := Function.ne_iff.mp zero
    rcases mul_self_eq_mul_self_iff.mp (products i i) with same | opposite
    · refine .inl (funext fun j => mul_left_cancel₀ nonzero ?_)
      rw [← products i j, same]
    · refine .inr (funext fun j => mul_left_cancel₀ nonzero ?_)
      rw [Pi.neg_apply, mul_neg, ← products i j, opposite, neg_mul, neg_neg]

end Products

end Plane
