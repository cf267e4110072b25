import Mathlib

/-!
# Arcs between unit vectors

The two ways to interpolate between unit vectors: along the arc of the great circle at a constant speed, and along
the chord with the length put right.  Both stay on the sphere.  On the arc the angle between two points is the
difference of their amounts times the whole angle (`arc_dot_arc`), on the chord no two points are further apart than
the ends (`dot_le_chord_dot_chord`).
-/

namespace Geodesic

open Real

variable {ι : Type} [Fintype ι] {a b : ι → ℝ} {s t : ℝ}

theorem dot_combine (a b : ι → ℝ) (x y z w : ℝ) : (x • a + y • b) ⬝ᵥ (z • a + w • b) =
    x * z * (a ⬝ᵥ a) + (x * w + y * z) * (a ⬝ᵥ b) + y * w * (b ⬝ᵥ b) := by
  simp only [add_dotProduct, dotProduct_add, smul_dotProduct, dotProduct_smul, smul_eq_mul]
  rw [dotProduct_comm b a]
  ring

/-- The products of unit vectors are cosines. -/
theorem dot_mem (unit : a ⬝ᵥ a = 1) (unit' : b ⬝ᵥ b = 1) : -1 ≤ a ⬝ᵥ b ∧ a ⬝ᵥ b ≤ 1 := by
  have square (x : ℝ) : 0 ≤ ((1 : ℝ) • a + x • b) ⬝ᵥ ((1 : ℝ) • a + x • b) :=
    Finset.sum_nonneg fun i _ => mul_self_nonneg _
  have above := square 1
  have below := square (-1)
  rw [dot_combine, unit, unit'] at above below
  constructor <;> linarith

/-! ## Along the arc -/

/-- The point of the arc from one unit vector to another. -/
noncomputable def arc (a b : ι → ℝ) (s : ℝ) : ι → ℝ :=
  (sin ((1 - s) * arccos (a ⬝ᵥ b)) / sin (arccos (a ⬝ᵥ b))) • a +
    (sin (s * arccos (a ⬝ᵥ b)) / sin (arccos (a ⬝ᵥ b))) • b

/-- The weights of two points of an arc. -/
theorem weights (θ s t : ℝ) : sin ((1 - s) * θ) * sin ((1 - t) * θ) +
    (sin ((1 - s) * θ) * sin (t * θ) + sin (s * θ) * sin ((1 - t) * θ)) * cos θ + sin (s * θ) * sin (t * θ) =
      sin θ ^ 2 * cos ((t - s) * θ) := by
  have first : (1 - s) * θ = θ - s * θ := by ring
  have second : (1 - t) * θ = θ - t * θ := by ring
  have difference : (t - s) * θ = t * θ - s * θ := by ring
  rw [first, second, difference, sin_sub, sin_sub, cos_sub]
  linear_combination (-(sin (s * θ) * sin (t * θ))) * sin_sq_add_cos_sq θ

/-- The angle between two points of an arc. -/
theorem arc_dot_arc (unit : a ⬝ᵥ a = 1) (unit' : b ⬝ᵥ b = 1) (apart : sin (arccos (a ⬝ᵥ b)) ≠ 0) :
    arc a b s ⬝ᵥ arc a b t = cos ((t - s) * arccos (a ⬝ᵥ b)) := by
  obtain ⟨above, below⟩ := dot_mem unit unit'
  have cosine : cos (arccos (a ⬝ᵥ b)) = a ⬝ᵥ b := cos_arccos above below
  have weights := weights (arccos (a ⬝ᵥ b)) s t
  rw [cosine] at weights
  rw [arc, arc, dot_combine, unit, unit', ← mul_div_cancel_left₀ (cos _) (pow_ne_zero 2 apart), ← weights]
  generalize sin (arccos (a ⬝ᵥ b)) = divisor
  ring

theorem arc_zero (apart : sin (arccos (a ⬝ᵥ b)) ≠ 0) : arc a b 0 = a := by
  rw [arc, sub_zero, one_mul, zero_mul, sin_zero, div_self apart, one_smul, zero_div, zero_smul, add_zero]

theorem arc_one (apart : sin (arccos (a ⬝ᵥ b)) ≠ 0) : arc a b 1 = b := by
  rw [arc, sub_self, zero_mul, sin_zero, zero_div, zero_smul, one_mul, div_self apart, one_smul, zero_add]

/-! ## Along the chord -/

/-- The point of the chord from one vector to another. -/
def onChord (a b : ι → ℝ) (s : ℝ) : ι → ℝ := (1 - s) • a + s • b

/-- The point of the sphere over a point of the chord. -/
noncomputable def chord (a b : ι → ℝ) (s : ℝ) : ι → ℝ :=
  (1 / √(onChord a b s ⬝ᵥ onChord a b s)) • onChord a b s

section Chord

variable (unit : a ⬝ᵥ a = 1) (unit' : b ⬝ᵥ b = 1) (acute : 0 < a ⬝ᵥ b)
include unit unit'

/-- No two points of the chord have a smaller product than its ends. -/
theorem dot_le_onChord (one_le : 0 ≤ s ∧ s ≤ 1) (one_le' : 0 ≤ t ∧ t ≤ 1) :
    a ⬝ᵥ b ≤ onChord a b s ⬝ᵥ onChord a b t := by
  obtain ⟨-, below⟩ := dot_mem unit unit'
  have first : 0 ≤ (1 - s) * (1 - t) := mul_nonneg (by linarith) (by linarith)
  have last : 0 ≤ s * t := mul_nonneg one_le.1 one_le'.1
  rw [onChord, onChord, dot_combine, unit, unit']
  nlinarith

theorem onChord_dot_self_le (one_le : 0 ≤ s ∧ s ≤ 1) : onChord a b s ⬝ᵥ onChord a b s ≤ 1 := by
  obtain ⟨-, below⟩ := dot_mem unit unit'
  have mixed : 0 ≤ s * (1 - s) := mul_nonneg one_le.1 (by linarith)
  rw [onChord, dot_combine, unit, unit']
  nlinarith

include acute

theorem onChord_dot_self_pos (one_le : 0 ≤ s ∧ s ≤ 1) : 0 < onChord a b s ⬝ᵥ onChord a b s :=
  acute.trans_le (dot_le_onChord unit unit' one_le one_le)

theorem chord_unit (one_le : 0 ≤ s ∧ s ≤ 1) : chord a b s ⬝ᵥ chord a b s = 1 := by
  have positive := onChord_dot_self_pos unit unit' acute one_le
  rw [chord, smul_dotProduct, dotProduct_smul, smul_eq_mul, smul_eq_mul, ← mul_assoc, div_mul_div_comm, one_mul,
    mul_self_sqrt positive.le, one_div, inv_mul_cancel₀ positive.ne']

/-- No two points over the chord are further apart than its ends. -/
theorem dot_le_chord_dot_chord (one_le : 0 ≤ s ∧ s ≤ 1) (one_le' : 0 ≤ t ∧ t ≤ 1) :
    a ⬝ᵥ b ≤ chord a b s ⬝ᵥ chord a b t := by
  have positive := onChord_dot_self_pos unit unit' acute one_le
  have positive' := onChord_dot_self_pos unit unit' acute one_le'
  have root : √(onChord a b s ⬝ᵥ onChord a b s) ≤ 1 := sqrt_le_one.mpr (onChord_dot_self_le unit unit' one_le)
  have root' : √(onChord a b t ⬝ᵥ onChord a b t) ≤ 1 := sqrt_le_one.mpr (onChord_dot_self_le unit unit' one_le')
  have scale : 1 ≤ 1 / √(onChord a b s ⬝ᵥ onChord a b s) := (one_le_div (sqrt_pos.mpr positive)).mpr root
  have scale' : 1 ≤ 1 / √(onChord a b t ⬝ᵥ onChord a b t) := (one_le_div (sqrt_pos.mpr positive')).mpr root'
  have dot := dot_le_onChord unit unit' one_le one_le'
  rw [chord, chord, smul_dotProduct, dotProduct_smul, smul_eq_mul, smul_eq_mul, ← mul_assoc]
  calc a ⬝ᵥ b ≤ onChord a b s ⬝ᵥ onChord a b t := dot
    _ = 1 * (onChord a b s ⬝ᵥ onChord a b t) := (one_mul _).symm
    _ ≤ _ := mul_le_mul_of_nonneg_right (one_le_mul_of_one_le_of_one_le scale scale') (acute.le.trans dot)

omit acute unit' in
theorem chord_zero : chord a b 0 = a := by
  have start : onChord a b 0 = a := by rw [onChord, sub_zero, one_smul, zero_smul, add_zero]
  rw [chord, start, unit, sqrt_one, div_one, one_smul]

omit acute unit in
theorem chord_one : chord a b 1 = b := by
  have finish : onChord a b 1 = b := by rw [onChord, sub_self, zero_smul, one_smul, zero_add]
  rw [chord, finish, unit', sqrt_one, div_one, one_smul]

end Chord

end Geodesic
