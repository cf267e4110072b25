import MotorDrive.Library.Plane

/-!
# Circular arcs

`circular_arc_from_three_points` of `cartesian_math.hpp` over the real numbers.  The literal of the circle constant
stands for `π`.
-/

namespace MotorDrive.Cartesian

open Plane Matrix

noncomputable section

/-- `Vector3`. -/
abbrev Vector3 := Fin 3 → ℝ

/-- `norm`. -/
def vectorNorm (value : Vector3) : ℝ := √(value ⬝ᵥ value)

structure CircularArc where
  center : Vector3
  radialAxis : Vector3
  tangentAxis : Vector3
  normal : Vector3
  radius : ℝ
  viaAngle : ℝ
  endAngle : ℝ

/-- `CircularArc::position`. -/
def CircularArc.position (arc : CircularArc) (angle : ℝ) : Vector3 :=
  arc.center + arc.radius • (Real.cos angle • arc.radialAxis + Real.sin angle • arc.tangentAxis)

/-- `angle_of`: `atan2` of the coordinates of a point, at least zero. -/
def CircularArc.angleOf (arc : CircularArc) (point : Vector3) : ℝ :=
  turn ((point - arc.center) ⬝ᵥ arc.radialAxis) ((point - arc.center) ⬝ᵥ arc.tangentAxis)

/-- The arc with the angles of two points. -/
def CircularArc.withAngles (arc : CircularArc) (via finish : Vector3) : CircularArc :=
  { arc with viaAngle := arc.angleOf via, endAngle := arc.angleOf finish }

/-- The arc that turns the other way. -/
def CircularArc.reversed (arc : CircularArc) : CircularArc :=
  { arc with normal := (-1 : ℝ) • arc.normal, tangentAxis := (-1 : ℝ) • arc.tangentAxis }

/-- The circle before the angles: its centre, and its axes at the start. -/
def circleAt (start startToVia startToEnd : Vector3) : CircularArc :=
  let plane := startToVia ⨯₃ startToEnd
  let centerOffset := (1 / (2 * (plane ⬝ᵥ plane))) •
    ((startToVia ⬝ᵥ startToVia) • (startToEnd ⨯₃ plane) + (startToEnd ⬝ᵥ startToEnd) • (plane ⨯₃ startToVia))
  let center := start + centerOffset
  let startRadius := start - center
  let radius := vectorNorm startRadius
  let radialAxis := (1 / radius) • startRadius
  let normal := (1 / vectorNorm plane) • plane
  { center, radialAxis, tangentAxis := normal ⨯₃ radialAxis, normal, radius, viaAngle := 0, endAngle := 0 }

/-- `circular_arc_from_three_points`. -/
def circularArcFromThreePoints (start via finish : Vector3) : Except String CircularArc :=
  let startToVia := via - start
  let startToEnd := finish - start
  let viaDistance := vectorNorm startToVia
  let endDistance := vectorNorm startToEnd
  if viaDistance ≤ 1 / 10 ^ 6 ∨ endDistance ≤ 1 / 10 ^ 6 ∨ vectorNorm (finish - via) ≤ 1 / 10 ^ 6 then
    .error "circular start, via and end positions must be distinct"
  else if vectorNorm (startToVia ⨯₃ startToEnd) ≤ 1 / 10 ^ 8 * viaDistance * endDistance then
    .error "circular start, via and end positions must not be collinear"
  else
    let circle := circleAt start startToVia startToEnd
    if circle.radius ≤ 1 / 10 ^ 6 ∨ 100 < circle.radius then .error "circular path radius is invalid"
    else
      let forward := circle.withAngles via finish
      let result := if forward.endAngle ≤ forward.viaAngle then forward.reversed.withAngles via finish else forward
      if result.viaAngle ≤ 1 / 10 ^ 9 ∨ result.endAngle - result.viaAngle ≤ 1 / 10 ^ 9 ∨
          2 * Real.pi + 1 / 10 ^ 9 < result.endAngle then
        .error "circular arc angles are degenerate"
      else .ok result

/-! ## Circles -/

theorem vectorNorm_nonneg (value : Vector3) : 0 ≤ vectorNorm value := Real.sqrt_nonneg _

theorem dotProduct_self_nonneg' (value : Vector3) : 0 ≤ value ⬝ᵥ value :=
  Finset.sum_nonneg fun i _ => mul_self_nonneg (value i)

theorem vectorNorm_mul_self (value : Vector3) : vectorNorm value * vectorNorm value = value ⬝ᵥ value :=
  Real.mul_self_sqrt (dotProduct_self_nonneg' value)

theorem vectorNorm_eq {value : Vector3} {r : ℝ} (positive : 0 ≤ r) (square : value ⬝ᵥ value = r * r) :
    vectorNorm value = r := by
  rw [vectorNorm, square, Real.sqrt_mul_self positive]

/-- The axes of an arc are orthonormal and right-handed, and its radius is positive. -/
structure CircularArc.Framed (arc : CircularArc) : Prop where
  orthonormal : Orthonormal arc.radialAxis arc.tangentAxis arc.normal
  turns : arc.normal ⨯₃ arc.radialAxis = arc.tangentAxis
  radius_pos : 0 < arc.radius

/-- The point lies on the circle of the arc. -/
structure CircularArc.Contains (arc : CircularArc) (point : Vector3) : Prop where
  inPlane : (point - arc.center) ⬝ᵥ arc.normal = 0
  distance : (point - arc.center) ⬝ᵥ (point - arc.center) = arc.radius * arc.radius

section Circle

variable {arc : CircularArc} {point via finish : Vector3}

theorem CircularArc.Framed.reversed (framed : arc.Framed) : arc.reversed.Framed where
  orthonormal := by
    simpa only [CircularArc.reversed, neg_one_smul] using framed.orthonormal.neg
  turns := by
    simp only [CircularArc.reversed, neg_one_smul, LinearMap.map_neg₂, framed.turns]
  radius_pos := framed.radius_pos

theorem CircularArc.Contains.reversed (contains : arc.Contains point) : arc.reversed.Contains point where
  inPlane := by
    simp only [CircularArc.reversed, dotProduct_smul, contains.inPlane, smul_zero]
  distance := contains.distance

theorem CircularArc.Framed.withAngles (framed : arc.Framed) : (arc.withAngles via finish).Framed :=
  ⟨framed.orthonormal, framed.turns, framed.radius_pos⟩

theorem CircularArc.Contains.withAngles (contains : arc.Contains point) :
    (arc.withAngles via finish).Contains point :=
  ⟨contains.inPlane, contains.distance⟩

/-- A point of the circle is where its angle says. -/
theorem position_angleOf (framed : arc.Framed) (contains : arc.Contains point) :
    arc.position (arc.angleOf point) = point := by
  have coordinates := framed.orthonormal.eq_coordinates framed.turns contains.inPlane
  have length : ((point - arc.center) ⬝ᵥ arc.radialAxis) * ((point - arc.center) ⬝ᵥ arc.radialAxis) +
      ((point - arc.center) ⬝ᵥ arc.tangentAxis) * ((point - arc.center) ⬝ᵥ arc.tangentAxis) =
        arc.radius * arc.radius := by
    rw [← contains.distance]
    conv_rhs => rw [coordinates]
    simp only [add_dotProduct, dotProduct_add, smul_dotProduct, dotProduct_smul, smul_eq_mul,
      framed.orthonormal.radial_self, framed.orthonormal.tangent_self, framed.orthonormal.radial_tangent,
      dotProduct_comm arc.tangentAxis arc.radialAxis]
    ring
  obtain ⟨cosine, sine⟩ := coordinates_turn framed.radius_pos.le length
  rw [CircularArc.position, CircularArc.angleOf, smul_add, smul_smul, smul_smul, cosine, sine, ← coordinates]
  exact add_sub_cancel _ _

/-- Every position lies at the radius from the centre. -/
theorem vectorNorm_position (framed : arc.Framed) (angle : ℝ) :
    vectorNorm (arc.position angle - arc.center) = arc.radius := by
  refine vectorNorm_eq framed.radius_pos.le ?_
  rw [CircularArc.position, add_sub_cancel_left]
  simp only [add_dotProduct, dotProduct_add, smul_dotProduct, dotProduct_smul, smul_eq_mul,
    framed.orthonormal.radial_self, framed.orthonormal.tangent_self, framed.orthonormal.radial_tangent,
    dotProduct_comm arc.tangentAxis arc.radialAxis]
  have unit := Real.sin_sq_add_cos_sq angle
  linear_combination arc.radius * arc.radius * unit

end Circle

/-! ## The circle through three points -/

section Construction

variable {start : Vector3}

theorem center_circleAt (start u v : Vector3) : start - (circleAt start u v).center = -circumcenter u v := by
  rw [circleAt]
  exact sub_add_cancel_left _ _

theorem radius_mul_self (start u v : Vector3) :
    (circleAt start u v).radius * (circleAt start u v).radius = circumcenter u v ⬝ᵥ circumcenter u v := by
  have radius : (circleAt start u v).radius = vectorNorm (start - (circleAt start u v).center) := rfl
  rw [radius, vectorNorm_mul_self, center_circleAt, neg_dotProduct_neg]

/-- The axes of the circle. -/
theorem framed_circleAt {u v : Vector3} (spread : 0 < vectorNorm (u ⨯₃ v)) (wide : 0 < (circleAt start u v).radius) :
    (circleAt start u v).Framed where
  orthonormal := by
    refine orthonormal_cross ?_ ?_ ?_
    · have radial : (circleAt start u v).radialAxis =
          (1 / (circleAt start u v).radius) • (start - (circleAt start u v).center) := rfl
      rw [radial, center_circleAt, smul_dotProduct, dotProduct_smul, neg_dotProduct_neg, ← radius_mul_self]
      simp only [smul_eq_mul]
      field_simp
    · have square := vectorNorm_mul_self (u ⨯₃ v)
      rw [smul_dotProduct, dotProduct_smul, ← square]
      simp only [smul_eq_mul]
      field_simp
    · have radial : (circleAt start u v).radialAxis =
          (1 / (circleAt start u v).radius) • (start - (circleAt start u v).center) := rfl
      have normal : (circleAt start u v).normal = (1 / vectorNorm (u ⨯₃ v)) • (u ⨯₃ v) := rfl
      rw [radial, center_circleAt]
      simp only [smul_dotProduct, dotProduct_smul, neg_dotProduct, circumcenter_dot_normal, neg_zero, smul_zero]
  turns := rfl
  radius_pos := wide

/-- A point lies on the circle if it is orthogonal to the plane's normal from the start and half its square is its
product with the offset of the centre. -/
theorem contains_circleAt {u v point : Vector3} (inPlane : (point - start) ⬝ᵥ u ⨯₃ v = 0)
    (half : circumcenter u v ⬝ᵥ (point - start) = (point - start) ⬝ᵥ (point - start) / 2) :
    (circleAt start u v).Contains point := by
  have offset : point - (circleAt start u v).center = (point - start) - circumcenter u v := by
    rw [← neg_inj, sub_eq_add_neg (point - start), ← center_circleAt start]
    abel
  refine ⟨?_, ?_⟩
  · have normal : (circleAt start u v).normal = (1 / vectorNorm (u ⨯₃ v)) • (u ⨯₃ v) := rfl
    rw [offset, normal, dotProduct_smul, sub_dotProduct, inPlane, circumcenter_dot_normal, sub_zero, smul_zero]
  · rw [offset, dot_sub_self half, radius_mul_self]

theorem position_zero (arc : CircularArc) : arc.position 0 = arc.center + arc.radius • arc.radialAxis := by
  rw [CircularArc.position, Real.cos_zero, Real.sin_zero, one_smul, zero_smul, add_zero]

/-- The start lies at angle zero. -/
theorem position_zero_circleAt {u v : Vector3} (wide : 0 < (circleAt start u v).radius) :
    (circleAt start u v).center + (circleAt start u v).radius • (circleAt start u v).radialAxis = start := by
  have radial : (circleAt start u v).radialAxis =
      (1 / (circleAt start u v).radius) • (start - (circleAt start u v).center) := rfl
  rw [radial, smul_smul, mul_one_div_cancel wide.ne', one_smul]
  exact add_sub_cancel _ _

end Construction

/-- What an arc from one point through another to a third one is. -/
structure CircularArc.Through (arc : CircularArc) (start via finish : Vector3) : Prop where
  start_distance : vectorNorm (start - arc.center) = arc.radius
  via_distance : vectorNorm (via - arc.center) = arc.radius
  end_distance : vectorNorm (finish - arc.center) = arc.radius
  start_position : arc.position 0 = start
  via_position : arc.position arc.viaAngle = via
  end_position : arc.position arc.endAngle = finish
  viaAngle_pos : 0 < arc.viaAngle
  viaAngle_lt : arc.viaAngle < arc.endAngle
  endAngle_lt : arc.endAngle < 2 * Real.pi
  orthonormal : Orthonormal arc.radialAxis arc.tangentAxis arc.normal
  circle : ∀ angle, vectorNorm (arc.position angle - arc.center) = arc.radius

/-- An arc with angles of points that it contains, in order, goes through them. -/
theorem through_withAngles {arc : CircularArc} {start via finish : Vector3} (framed : arc.Framed)
    (starts : arc.position 0 = start) (contains : arc.Contains via) (contains' : arc.Contains finish)
    (positive : 0 < (arc.withAngles via finish).viaAngle)
    (ordered : (arc.withAngles via finish).viaAngle < (arc.withAngles via finish).endAngle) :
    (arc.withAngles via finish).Through start via finish := by
  have at_via := position_angleOf framed contains
  have at_end := position_angleOf framed contains'
  have circle := vectorNorm_position framed
  refine ⟨?_, ?_, ?_, starts, at_via, at_end, positive, ordered, (turn_mem _ _).2, framed.orthonormal, circle⟩
  · exact starts ▸ circle 0
  · exact at_via ▸ circle (arc.angleOf via)
  · exact at_end ▸ circle (arc.angleOf finish)

/-- The circle of three points that are not collinear. -/
theorem circleAt_contains {start via finish : Vector3}
    (spread : 0 < vectorNorm ((via - start) ⨯₃ (finish - start)))
    (wide : 0 < (circleAt start (via - start) (finish - start)).radius) :
    (circleAt start (via - start) (finish - start)).position 0 = start ∧
      (circleAt start (via - start) (finish - start)).Contains via ∧
        (circleAt start (via - start) (finish - start)).Contains finish := by
  have spread' : (via - start) ⨯₃ (finish - start) ⬝ᵥ (via - start) ⨯₃ (finish - start) ≠ 0 := by
    rw [← vectorNorm_mul_self]
    exact (mul_pos spread spread).ne'
  refine ⟨(position_zero _).trans (position_zero_circleAt wide), ?_, ?_⟩
  · exact contains_circleAt (dot_self_cross _ _) (circumcenter_dot_left spread')
  · exact contains_circleAt (dot_cross_self _ _) (circumcenter_dot_right spread')

/-- An accepted arc turns from one point through another to a third one. -/
theorem through_of_ok {start via finish : Vector3} {arc : CircularArc}
    (accepted : circularArcFromThreePoints start via finish = .ok arc) : arc.Through start via finish := by
  have tiny : (0 : ℝ) < 1 / 10 ^ 9 := by norm_num
  unfold circularArcFromThreePoints at accepted
  simp only at accepted
  by_cases distinct : vectorNorm (via - start) ≤ 1 / 10 ^ 6 ∨ vectorNorm (finish - start) ≤ 1 / 10 ^ 6 ∨
      vectorNorm (finish - via) ≤ 1 / 10 ^ 6
  · rw [if_pos distinct] at accepted
    cases accepted
  rw [if_neg distinct] at accepted
  by_cases collinear : vectorNorm ((via - start) ⨯₃ (finish - start)) ≤
      1 / 10 ^ 8 * vectorNorm (via - start) * vectorNorm (finish - start)
  · rw [if_pos collinear] at accepted
    cases accepted
  rw [if_neg collinear] at accepted
  have spread : 0 < vectorNorm ((via - start) ⨯₃ (finish - start)) := by
    refine lt_of_le_of_lt ?_ (not_le.mp collinear)
    exact mul_nonneg (mul_nonneg (by norm_num) (vectorNorm_nonneg _)) (vectorNorm_nonneg _)
  by_cases radius : (circleAt start (via - start) (finish - start)).radius ≤ 1 / 10 ^ 6 ∨
      100 < (circleAt start (via - start) (finish - start)).radius
  · rw [if_pos radius] at accepted
    cases accepted
  rw [if_neg radius] at accepted
  have wide : 0 < (circleAt start (via - start) (finish - start)).radius :=
    lt_trans (by norm_num) (not_le.mp (not_or.mp radius).1)
  have framed := framed_circleAt spread wide
  obtain ⟨starts, contains, contains'⟩ := circleAt_contains spread wide
  split_ifs at accepted with backward degenerate degenerate
  · cases accepted
    rw [not_or, not_or, not_le, not_le] at degenerate
    have turned : ((circleAt start (via - start) (finish - start)).withAngles via finish).reversed.position 0 =
        (circleAt start (via - start) (finish - start)).position 0 := by
      rw [position_zero, position_zero]
      rfl
    exact through_withAngles framed.withAngles.reversed (turned.trans starts) contains.withAngles.reversed
      contains'.withAngles.reversed (tiny.trans degenerate.1) (sub_pos.mp (tiny.trans degenerate.2.1))
  · cases accepted
    rw [not_or, not_or, not_le, not_le] at degenerate
    exact through_withAngles framed starts contains contains'
      (tiny.trans degenerate.1) (sub_pos.mp (tiny.trans degenerate.2.1))

/-- For every triple of points that is accepted, the arc goes from the first through the second to the third. -/
theorem circular_arc_through (start via finish : Vector3) (arc : CircularArc)
    (accepted : circularArcFromThreePoints start via finish = .ok arc) : arc.Through start via finish :=
  through_of_ok accepted

/-! ## A half circle -/

/-- The half circle of radius one. -/
def halfCircle : CircularArc where
  center := ![0, 0, 0]
  radialAxis := ![1, 0, 0]
  tangentAxis := ![0, 1, 0]
  normal := ![0, 0, 1]
  radius := 1
  viaAngle := Real.pi / 2
  endAngle := Real.pi

theorem vectorNorm_up : vectorNorm ![0, 0, 2] = 2 :=
  vectorNorm_eq (by norm_num) (by simp [dotProduct, Fin.sum_univ_three])

theorem cross_half : (![-1, 1, 0] : Vector3) ⨯₃ ![-2, 0, 0] = ![0, 0, 2] := by
  simp [cross_apply]

theorem circleAt_half : circleAt ![1, 0, 0] ![-1, 1, 0] ![-2, 0, 0] =
    { halfCircle with viaAngle := 0, endAngle := 0 } := by
  have one : vectorNorm ![1, 0, 0] = 1 :=
    vectorNorm_eq (by norm_num) (by simp [dotProduct, Fin.sum_univ_three])
  have offset : (1 / (2 * ((![0, 0, 2] : Vector3) ⬝ᵥ ![0, 0, 2]))) •
      (((![-1, 1, 0] : Vector3) ⬝ᵥ ![-1, 1, 0]) • (![-2, 0, 0] ⨯₃ ![0, 0, 2]) +
        ((![-2, 0, 0] : Vector3) ⬝ᵥ ![-2, 0, 0]) • ((![0, 0, 2] : Vector3) ⨯₃ ![-1, 1, 0])) = ![-1, 0, 0] := by
    ext i
    fin_cases i <;> simp [cross_apply, dotProduct, Fin.sum_univ_three] <;> norm_num
  have center : (![1, 0, 0] : Vector3) + ![-1, 0, 0] = ![0, 0, 0] := by
    simp
  have start : (![1, 0, 0] : Vector3) - ![0, 0, 0] = ![1, 0, 0] := by
    ext i
    fin_cases i <;> simp
  have normal : (1 / (2 : ℝ)) • (![0, 0, 2] : Vector3) = ![0, 0, 1] := by
    simp
  have tangent : (![0, 0, 1] : Vector3) ⨯₃ ![1, 0, 0] = ![0, 1, 0] := by
    simp [cross_apply]
  rw [circleAt]
  simp only [cross_half, offset, center, start, one, vectorNorm_up, normal, tangent, div_one, one_smul]
  rfl

theorem withAngles_half : ({ halfCircle with viaAngle := 0, endAngle := 0 } : CircularArc).withAngles
    ![0, 1, 0] ![-1, 0, 0] = halfCircle := by
  have quarter : turn 0 1 = Real.pi / 2 := by
    have arg : Complex.arg ⟨0, 1⟩ = Real.pi / 2 := Complex.arg_I
    rw [turn, arg, if_neg (not_lt.mpr (by positivity))]
  have half : turn (-1) 0 = Real.pi := by
    have arg : Complex.arg ⟨-1, 0⟩ = Real.pi := by
      have value : (⟨-1, 0⟩ : ℂ) = -1 := by
        apply Complex.ext <;> simp
      rw [value, Complex.arg_neg_one]
    rw [turn, arg, if_neg (not_lt.mpr Real.pi_pos.le)]
  simp [CircularArc.withAngles, CircularArc.angleOf, halfCircle, dotProduct, Fin.sum_univ_three, quarter, half]

theorem circularArcFromThreePoints_half : circularArcFromThreePoints ![1, 0, 0] ![0, 1, 0] ![-1, 0, 0] = .ok halfCircle := by
  have toVia : (![0, 1, 0] : Vector3) - ![1, 0, 0] = ![-1, 1, 0] := by
    ext i
    fin_cases i <;> norm_num
  have toEnd : (![-1, 0, 0] : Vector3) - ![1, 0, 0] = ![-2, 0, 0] := by
    ext i
    fin_cases i <;> norm_num
  have between : (![-1, 0, 0] : Vector3) - ![0, 1, 0] = ![-1, -1, 0] := by
    ext i
    fin_cases i <;> norm_num
  have long : vectorNorm ![-2, 0, 0] = 2 :=
    vectorNorm_eq (by norm_num) (by simp [dotProduct, Fin.sum_univ_three])
  have short : vectorNorm ![-1, 1, 0] = √2 := by
    simp only [vectorNorm, dotProduct, Fin.sum_univ_three, Matrix.cons_val]
    norm_num
  have short' : vectorNorm ![-1, -1, 0] = √2 := by
    simp only [vectorNorm, dotProduct, Fin.sum_univ_three, Matrix.cons_val]
    norm_num
  have root : (1 : ℝ) < √2 := by
    rw [Real.lt_sqrt] <;> norm_num
  have root' : √2 < (2 : ℝ) := by
    rw [Real.sqrt_lt'] <;> norm_num
  have quarter := Real.one_le_pi_div_two
  have later : Real.pi / 2 < Real.pi := half_lt_self Real.pi_pos
  have forward : ¬halfCircle.endAngle ≤ halfCircle.viaAngle := not_le.mpr later
  unfold circularArcFromThreePoints
  simp only [toVia, toEnd, between, long, short, short', cross_half, vectorNorm_up, circleAt_half, withAngles_half,
    if_neg forward]
  rw [if_neg, if_neg, if_neg, if_neg]
  all_goals simp only [halfCircle, not_or, not_le, not_lt]
  · exact ⟨by linarith, by linarith, by linarith⟩
  · norm_num
  · linarith
  · exact ⟨by linarith, by linarith, by linarith⟩

theorem circular_arc_half : halfCircle.Through ![1, 0, 0] ![0, 1, 0] ![-1, 0, 0] :=
  circular_arc_through _ _ _ _ circularArcFromThreePoints_half

end

end MotorDrive.Cartesian
