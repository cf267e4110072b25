import MotorDrive.Library.Extrema
import MotorDrive.Trajectory.Segment

/-!
# The roots that `roots_on_unit_interval` isolates

Over the reals the roots that the recursion returns separate every function whose derivative is the
polynomial (`rootsOnUnitInterval_separates`).  The error grows by `slack` with every level of the
recursion: it pays for the leading coefficients that are dropped, for the roots merged within `1e-8`, for
the boundaries taken as roots and for the bisection that stops early.
-/

namespace MotorDrive.Trajectory

open Extrema

noncomputable section

/-! ## Evaluation and its derivative -/

/-- The terms of the derivative, with the first exponent given. -/
private def scaled (k : ℕ) (coefficients : Polynomial ℝ) : Polynomial ℝ :=
  coefficients.mapIdx fun i c => (i + k : ℕ) * c

@[simp] theorem evaluate_nil (x : ℝ) : evaluate ([] : Polynomial ℝ) x = 0 := rfl

theorem evaluate_cons (c : ℝ) (rest : Polynomial ℝ) (x : ℝ) :
    evaluate (c :: rest) x = evaluate rest x * x + c := rfl

theorem scaled_cons (k : ℕ) (c : ℝ) (rest : Polynomial ℝ) :
    scaled k (c :: rest) = k * c :: scaled (k + 1) rest := by
  simp only [scaled, List.mapIdx_cons, zero_add, List.cons.injEq, true_and]
  congr 1
  funext i c
  congr 2
  omega

theorem evaluate_scaled_succ (k : ℕ) (coefficients : Polynomial ℝ) (x : ℝ) :
    evaluate (scaled (k + 1) coefficients) x = evaluate (scaled k coefficients) x + evaluate coefficients x := by
  induction coefficients generalizing k with
  | nil => simp [scaled]
  | cons c rest ih =>
    rw [scaled_cons, scaled_cons, evaluate_cons, evaluate_cons, evaluate_cons, ih (k + 1)]
    push_cast
    ring

theorem derivative_cons (c : ℝ) (rest : Polynomial ℝ) (x : ℝ) :
    evaluate (derivative (c :: rest)) x = evaluate (scaled 1 rest) x := by
  cases rest with
  | nil => simp [derivative, scaled, evaluate_cons]
  | cons d tail => simp [derivative, scaled]

/-- `derivative` is the derivative. -/
theorem hasDerivAt_evaluate (coefficients : Polynomial ℝ) (x : ℝ) :
    HasDerivAt (evaluate coefficients) (evaluate (derivative coefficients) x) x := by
  induction coefficients with
  | nil =>
    have zero : evaluate (derivative ([] : Polynomial ℝ)) x = 0 := by simp [derivative, evaluate_cons]
    rw [zero]
    exact hasDerivAt_const x 0
  | cons c rest ih =>
    have inner : evaluate (derivative (c :: rest)) x = evaluate (derivative rest) x * x + evaluate rest x * 1 := by
      rw [derivative_cons]
      cases rest with
      | nil => simp [derivative, scaled, evaluate_cons]
      | cons d tail =>
        rw [scaled_cons, evaluate_cons, derivative_cons, evaluate_cons, evaluate_scaled_succ 1 tail]
        push_cast
        ring
    rw [inner]
    exact (ih.mul (hasDerivAt_id x)).add_const c

theorem evaluate_append (first second : Polynomial ℝ) (x : ℝ) :
    evaluate (first ++ second) x = evaluate first x + x ^ first.length * evaluate second x := by
  induction first with
  | nil => simp
  | cons c rest ih =>
    rw [List.cons_append, evaluate_cons, evaluate_cons, ih, List.length_cons, pow_succ]
    ring

/-! ## The size of a polynomial -/

/-- The sum of the magnitudes of the coefficients. -/
def size (coefficients : Polynomial ℝ) : ℝ := (coefficients.map fun c => |c|).sum

/-- A bound of the size of every derivative. -/
def weight (coefficients : Polynomial ℝ) : ℝ := size coefficients * (coefficients.length - 1).factorial

@[simp] theorem size_cons (c : ℝ) (rest : Polynomial ℝ) : size (c :: rest) = |c| + size rest := by
  simp [size]

theorem size_nonneg (coefficients : Polynomial ℝ) : 0 ≤ size coefficients := by
  induction coefficients with
  | nil => simp [size]
  | cons c rest ih =>
    rw [size_cons]
    positivity

theorem size_append (first second : Polynomial ℝ) : size (first ++ second) = size first + size second := by
  simp [size]

theorem abs_evaluate_le (coefficients : Polynomial ℝ) {x : ℝ} (nonneg : 0 ≤ x) (le_one : x ≤ 1) :
    |evaluate coefficients x| ≤ size coefficients := by
  induction coefficients with
  | nil => simp [size]
  | cons c rest ih =>
    rw [evaluate_cons, size_cons]
    have shrink : |evaluate rest x * x| ≤ size rest := by
      rw [abs_mul, abs_of_nonneg nonneg]
      calc |evaluate rest x| * x ≤ |evaluate rest x| * 1 := by gcongr
        _ ≤ size rest := by rwa [mul_one]
    linarith [abs_add_le (evaluate rest x * x) c]

theorem size_scaled_le (k : ℕ) (coefficients : Polynomial ℝ) :
    size (scaled k coefficients) ≤ (k + coefficients.length - 1 : ℕ) * size coefficients := by
  induction coefficients generalizing k with
  | nil => simp [scaled, size]
  | cons c rest ih =>
    rw [scaled_cons, size_cons, size_cons, abs_mul, Nat.abs_cast, List.length_cons]
    have step := ih (k + 1)
    have same : k + 1 + rest.length - 1 = k + (rest.length + 1) - 1 := by omega
    rw [same] at step
    have le : (k : ℝ) ≤ (k + (rest.length + 1) - 1 : ℕ) := by
      exact_mod_cast (by omega : k ≤ k + (rest.length + 1) - 1)
    have scaledHead : (k : ℝ) * |c| ≤ (k + (rest.length + 1) - 1 : ℕ) * |c| := by gcongr
    linarith

theorem length_derivative (coefficients : Polynomial ℝ) (nontrivial : 2 ≤ coefficients.length) :
    (derivative coefficients).length = coefficients.length - 1 := by
  rw [derivative, if_neg (by omega)]
  simp

theorem size_derivative_le (coefficients : Polynomial ℝ) :
    size (derivative coefficients) ≤ (coefficients.length - 1 : ℕ) * size coefficients := by
  cases coefficients with
  | nil => simp [derivative, size]
  | cons c rest =>
    cases rest with
    | nil => simp [derivative, size]
    | cons d tail =>
      have same : derivative (c :: d :: tail) = scaled 1 (d :: tail) := by simp [derivative, scaled]
      rw [same, size_cons]
      have le := size_scaled_le 1 (d :: tail)
      have grow : (1 + (d :: tail).length - 1 : ℕ) * size (d :: tail) ≤
          (1 + (d :: tail).length - 1 : ℕ) * (|c| + size (d :: tail)) := by
        gcongr
        linarith [abs_nonneg c]
      have count : 1 + (d :: tail).length - 1 = (c :: d :: tail).length - 1 := by simp
      rw [count] at le grow
      exact le.trans grow

theorem size_derivative_le_weight (coefficients : Polynomial ℝ) :
    size (derivative coefficients) ≤ weight coefficients := by
  refine (size_derivative_le coefficients).trans ?_
  rw [weight, mul_comm]
  exact mul_le_mul_of_nonneg_left (by exact_mod_cast Nat.self_le_factorial _) (size_nonneg _)

theorem weight_derivative_le (coefficients : Polynomial ℝ) (nontrivial : 2 ≤ coefficients.length) :
    weight (derivative coefficients) ≤ weight coefficients := by
  obtain ⟨n, count⟩ : ∃ n, coefficients.length = n + 2 := ⟨coefficients.length - 2, by omega⟩
  have le := size_derivative_le coefficients
  rw [weight, weight, length_derivative coefficients nontrivial, count] at *
  have expand : ((n + 2 - 1).factorial : ℝ) = (n + 2 - 1 : ℕ) * (n + 2 - 1 - 1).factorial := by
    exact_mod_cast Nat.factorial_succ n
  rw [expand]
  calc size (derivative coefficients) * ((n + 2 - 1 - 1).factorial : ℝ)
      ≤ (n + 2 - 1 : ℕ) * size coefficients * (n + 2 - 1 - 1).factorial := by gcongr
    _ = size coefficients * ((n + 2 - 1 : ℕ) * (n + 2 - 1 - 1).factorial) := by ring

/-- The slope of a polynomial on the unit interval. -/
theorem evaluate_lipschitz (coefficients : Polynomial ℝ) {x y : ℝ} (nonneg : 0 ≤ x) (le_one : x ≤ 1)
    (nonneg' : 0 ≤ y) (le_one' : y ≤ 1) :
    |evaluate coefficients x - evaluate coefficients y| ≤ weight coefficients * |x - y| := by
  have steep : 0 ≤ weight coefficients := by
    have := size_nonneg coefficients
    unfold weight
    positivity
  have bounded : ∀ z, 0 ≤ z → z ≤ 1 → |evaluate (derivative coefficients) z| ≤ weight coefficients :=
    fun z above below => (abs_evaluate_le _ above below).trans (size_derivative_le_weight coefficients)
  have close : ∀ x y, 0 ≤ x → x ≤ y → y ≤ 1 →
      |evaluate coefficients x - evaluate coefficients y| ≤ weight coefficients * (y - x) := by
    intro x y above order below
    obtain ⟨falls, rises⟩ := falls_of_small (hasDerivAt_evaluate coefficients) steep le_rfl
      (sub_nonneg.mpr order) (.inr fun z left right => bounded z (above.trans left) (right.trans below))
    have up := falls x y le_rfl order le_rfl
    have down := rises x y le_rfl order le_rfl
    exact abs_le.mpr ⟨by linarith, by linarith⟩
  rcases le_total x y with order | order
  · have := close x y nonneg order le_one'
    rwa [abs_of_nonpos (sub_nonpos.mpr order), neg_sub]
  · have := close y x nonneg' order le_one
    rwa [abs_sub_comm, abs_of_nonneg (sub_nonneg.mpr order)]

/-! ## Dropped coefficients -/

/-- What `trim` drops is small. -/
theorem exists_trim (coefficients : Polynomial ℝ) : ∃ dropped,
    coefficients = trim coefficients ++ dropped ∧ ∀ c ∈ dropped, |c| ≤ polynomialTolerance := by
  cases coefficients with
  | nil => exact ⟨[], rfl, nofun⟩
  | cons c rest =>
    refine ⟨rest.rtakeWhile fun c => |c| ≤ polynomialTolerance, ?_, fun d member => ?_⟩
    · rw [trim, List.cons_append, List.rdropWhile_append_rtakeWhile]
    · simpa using List.mem_rtakeWhile_imp member

theorem length_trim_le (coefficients : Polynomial ℝ) : (trim coefficients).length ≤ coefficients.length := by
  obtain ⟨dropped, same, -⟩ := exists_trim coefficients
  have := congrArg List.length same
  rw [List.length_append] at this
  omega

theorem weight_trim_le (coefficients : Polynomial ℝ) : weight (trim coefficients) ≤ weight coefficients := by
  obtain ⟨dropped, same, -⟩ := exists_trim coefficients
  have smaller : size (trim coefficients) ≤ size coefficients := by
    have := congrArg size same
    rw [size_append] at this
    linarith [size_nonneg dropped]
  have shorter : ((trim coefficients).length - 1).factorial ≤ (coefficients.length - 1).factorial :=
    Nat.factorial_le (Nat.sub_le_sub_right (length_trim_le coefficients) 1)
  unfold weight
  gcongr
  exact size_nonneg coefficients

theorem evaluate_trim_near (coefficients : Polynomial ℝ) {x : ℝ} (nonneg : 0 ≤ x) (le_one : x ≤ 1) :
    |evaluate coefficients x - evaluate (trim coefficients) x| ≤ coefficients.length * (1 / 10 ^ 10) := by
  obtain ⟨dropped, same, small⟩ := exists_trim coefficients
  have total : size dropped ≤ dropped.length * (1 / 10 ^ 10) := by
    clear same
    induction dropped with
    | nil => simp [size]
    | cons c rest ih =>
      have head := small c List.mem_cons_self
      have tail := ih fun d member => small d (List.mem_cons_of_mem _ member)
      rw [polynomialTolerance] at head
      rw [size_cons, List.length_cons]
      push_cast
      linarith
  have fewer : (dropped.length : ℝ) ≤ coefficients.length := by
    have := congrArg List.length same
    rw [List.length_append] at this
    exact_mod_cast (by omega : dropped.length ≤ coefficients.length)
  have rest : evaluate coefficients x - evaluate (trim coefficients) x =
      x ^ (trim coefficients).length * evaluate dropped x := by
    have := congrArg (fun c => evaluate c x) same
    simp only [evaluate_append] at this
    linarith
  rw [rest, abs_mul, abs_of_nonneg (pow_nonneg nonneg _)]
  calc x ^ (trim coefficients).length * |evaluate dropped x|
      ≤ 1 * |evaluate dropped x| := by
        gcongr
        exact pow_le_one₀ nonneg le_one
    _ ≤ dropped.length * (1 / 10 ^ 10) := by
        rw [one_mul]
        exact (abs_evaluate_le dropped nonneg le_one).trans total
    _ ≤ coefficients.length * (1 / 10 ^ 10) := by gcongr

/-- The leading coefficient that is left does not vanish. -/
theorem trim_leading {coefficients : Polynomial ℝ} {c₀ c₁ : ℝ} (shape : trim coefficients = [c₀, c₁]) :
    c₁ ≠ 0 := by
  cases coefficients with
  | nil => cases shape
  | cons c rest =>
    obtain ⟨-, tail⟩ := List.cons.inj shape
    have large := List.rdropWhile_last_not (fun c => decide (|c| ≤ polynomialTolerance)) rest (by simp [tail])
    simp only [tail, List.getLast_singleton, decide_eq_true_eq, not_le] at large
    rintro rfl
    rw [abs_zero] at large
    norm_num [polynomialTolerance] at large

/-! ## The list of roots -/

/-- A root of the list is near the point. -/
def Near (roots : List ℝ) (v : ℝ) : Prop := ∃ r ∈ roots, |r - v| ≤ 1 / 10 ^ 8

theorem Near.mono {roots roots' : List ℝ} {v : ℝ} (near : Near roots v) (more : roots ⊆ roots') :
    Near roots' v := by
  obtain ⟨r, member, close⟩ := near
  exact ⟨r, more member, close⟩

theorem subset_appendUnique (roots : List ℝ) (value : ℝ) : roots ⊆ appendUnique roots value := by
  unfold appendUnique
  split_ifs
  · exact List.Subset.refl _
  · exact List.Subset.refl _
  · exact List.subset_append_left _ _

/-- A value of the unit interval is near a root once it was appended. -/
theorem near_appendUnique (roots : List ℝ) {value : ℝ} (nonneg : 0 ≤ value) (le_one : value ≤ 1) :
    Near (appendUnique roots value) value := by
  have clamped : max 0 (min value 1) = value := by rw [min_eq_left le_one, max_eq_right nonneg]
  have inside : ¬ (value < -polynomialTolerance ∨ 1 + polynomialTolerance < value) := by
    norm_num [polynomialTolerance]
    constructor <;> linarith
  unfold appendUnique
  rw [if_neg inside, clamped]
  split_ifs with known
  · obtain ⟨r, member, close⟩ := List.any_eq_true.mp known
    exact ⟨r, member, of_decide_eq_true close⟩
  · exact ⟨value, by simp, by simp⟩

theorem unit_appendUnique {roots : List ℝ} (value : ℝ) (unit : ∀ r ∈ roots, 0 ≤ r ∧ r ≤ 1) :
    ∀ r ∈ appendUnique roots value, 0 ≤ r ∧ r ≤ 1 := by
  intro r member
  unfold appendUnique at member
  split_ifs at member
  · exact unit r member
  · exact unit r member
  · rcases List.mem_append.mp member with member | member
    · exact unit r member
    · obtain rfl := List.mem_singleton.mp member
      exact ⟨le_max_left _ _, max_le zero_le_one (min_le_right _ _)⟩

section Roots

variable (coefficients : Polynomial ℝ)

theorem boundaryRoots_append (boundaries : List ℝ) (point : ℝ) :
    boundaryRoots coefficients (boundaries ++ [point]) =
      if |evaluate coefficients point| ≤ 1 / 10 ^ 9 then
        appendUnique (boundaryRoots coefficients boundaries) point
      else boundaryRoots coefficients boundaries := by
  simp [boundaryRoots]

theorem near_boundaryRoots {boundaries : List ℝ} (unit : ∀ b ∈ boundaries, 0 ≤ b ∧ b ≤ 1) :
    ∀ b ∈ boundaries, |evaluate coefficients b| ≤ 1 / 10 ^ 9 → Near (boundaryRoots coefficients boundaries) b := by
  induction boundaries using List.reverseRecOn with
  | nil => nofun
  | append_singleton boundaries point ih =>
    intro b member vanishes
    have earlier := ih fun b member => unit b (List.mem_append_left _ member)
    rw [boundaryRoots_append]
    rcases List.mem_append.mp member with member | member
    · split_ifs
      · exact (earlier b member vanishes).mono (subset_appendUnique _ _)
      · exact earlier b member vanishes
    · obtain rfl := List.mem_singleton.mp member
      rw [if_pos vanishes]
      obtain ⟨nonneg, le_one⟩ := unit b (by simp)
      exact near_appendUnique _ nonneg le_one

theorem unit_boundaryRoots (boundaries : List ℝ) :
    ∀ r ∈ boundaryRoots coefficients boundaries, 0 ≤ r ∧ r ≤ 1 := by
  induction boundaries using List.reverseRecOn with
  | nil => nofun
  | append_singleton boundaries point ih =>
    rw [boundaryRoots_append]
    split_ifs
    · exact unit_appendUnique point ih
    · exact ih

theorem subset_bracketRoot (roots : List ℝ) (lower upper : ℝ) :
    roots ⊆ bracketRoot coefficients roots lower upper := by
  unfold bracketRoot
  simp only
  split_ifs
  · exact List.Subset.refl _
  · exact subset_appendUnique _ _

theorem subset_bracketRoots (roots boundaries : List ℝ) :
    roots ⊆ bracketRoots coefficients roots boundaries := by
  fun_induction bracketRoots coefficients roots boundaries with
  | case1 roots lower upper boundaries ih => exact List.Subset.trans (subset_bracketRoot coefficients roots lower upper) ih
  | case2 => exact List.Subset.refl _

theorem unit_bracketRoots {roots : List ℝ} (boundaries : List ℝ) (unit : ∀ r ∈ roots, 0 ≤ r ∧ r ≤ 1) :
    ∀ r ∈ bracketRoots coefficients roots boundaries, 0 ≤ r ∧ r ≤ 1 := by
  fun_induction bracketRoots coefficients roots boundaries with
  | case1 roots lower upper boundaries ih =>
    refine ih ?_
    unfold bracketRoot
    simp only
    split_ifs
    · exact unit
    · exact unit_appendUnique _ unit
  | case2 => exact unit

/-! ## Bisection -/

/-- The error of a root found by bisection. -/
def bisectionError (slope : ℝ) : ℝ := 1 / 10 ^ 13 + slope / 2 ^ 80

/-- Bisection of a change of the sign ends in a bracket whose middle is almost a zero. -/
theorem bisect_spec {slope : ℝ} (steep : 0 ≤ slope)
    (lipschitz : ∀ x y, 0 ≤ x → x ≤ 1 → 0 ≤ y → y ≤ 1 →
      |evaluate coefficients x - evaluate coefficients y| ≤ slope * |x - y|)
    (rounds : ℕ) {lower upper : ℝ} (nonneg : 0 ≤ lower) (order : lower ≤ upper) (le_one : upper ≤ 1)
    (change : Opposite (evaluate coefficients) lower upper) :
    let bracket := bisect coefficients rounds lower upper (evaluate coefficients lower)
    lower ≤ (bracket.1 + bracket.2) / 2 ∧ (bracket.1 + bracket.2) / 2 ≤ upper ∧
      |evaluate coefficients ((bracket.1 + bracket.2) / 2)| ≤
        1 / 10 ^ 13 + slope * (upper - lower) / 2 ^ rounds := by
  induction rounds generalizing lower upper with
  | zero =>
    have low : 0 ≤ (lower + upper) / 2 := by linarith
    have high : (lower + upper) / 2 ≤ 1 := by linarith
    refine ⟨by simp only [bisect]; linarith, by simp only [bisect]; linarith, ?_⟩
    have left := lipschitz ((lower + upper) / 2) lower low high nonneg (order.trans le_one)
    have right := lipschitz ((lower + upper) / 2) upper low high (nonneg.trans order) le_one
    have half : |(lower + upper) / 2 - lower| = (upper - lower) / 2 := by
      rw [abs_of_nonneg (by linarith)]
      ring
    have half' : |(lower + upper) / 2 - upper| = (upper - lower) / 2 := by
      rw [abs_of_nonpos (by linarith)]
      ring
    rw [half] at left
    rw [half'] at right
    have wide : 0 ≤ slope * (upper - lower) := mul_nonneg steep (by linarith)
    simp only [bisect, pow_zero, div_one]
    obtain ⟨lowLeft, highLeft⟩ := abs_le.mp left
    obtain ⟨lowRight, highRight⟩ := abs_le.mp right
    rcases change with ⟨first, second⟩ | ⟨first, second⟩ <;>
      exact abs_le.mpr ⟨by norm_num; linarith, by norm_num; linarith⟩
  | succ rounds ih =>
    have low : lower ≤ (lower + upper) / 2 := by linarith
    have high : (lower + upper) / 2 ≤ upper := by linarith
    have halved : ∀ width : ℝ, width = (upper - lower) / 2 →
        1 / 10 ^ 13 + slope * width / 2 ^ rounds = 1 / 10 ^ 13 + slope * (upper - lower) / 2 ^ (rounds + 1) := by
      rintro width rfl
      rw [pow_succ (2 : ℝ) rounds]
      field_simp
    have wide : 0 ≤ slope * (upper - lower) / 2 ^ (rounds + 1) :=
      div_nonneg (mul_nonneg steep (by linarith)) (by positivity)
    simp only [bisect]
    split_ifs with almost same
    · rw [add_self_div_two]
      exact ⟨low, high, almost.trans (by linarith)⟩
    · have change' : Opposite (evaluate coefficients) ((lower + upper) / 2) upper := by
        rcases change with ⟨first, second⟩ | ⟨first, second⟩
        · exact .inl ⟨by simpa [first] using same, second⟩
        · refine .inr ⟨?_, second⟩
          have : ¬ evaluate coefficients ((lower + upper) / 2) < 0 := by simpa [first.not_gt] using same
          rcases (le_of_not_gt this).lt_or_eq with positive | zero
          · exact positive
          · exact absurd (by rw [← zero, abs_zero]; positivity) almost
      obtain ⟨above, below, error⟩ := ih (nonneg.trans low) high le_one change'
      rw [halved _ (by ring)] at error
      exact ⟨low.trans above, below, error⟩
    · have change' : Opposite (evaluate coefficients) lower ((lower + upper) / 2) := by
        rcases change with ⟨first, second⟩ | ⟨first, second⟩
        · refine .inl ⟨first, ?_⟩
          have : ¬ evaluate coefficients ((lower + upper) / 2) < 0 := by simpa [first] using same
          rcases (le_of_not_gt this).lt_or_eq with positive | zero
          · exact positive
          · exact absurd (by rw [← zero, abs_zero]; positivity) almost
        · exact .inr ⟨first, by simpa [first.not_gt] using same⟩
      obtain ⟨above, below, error⟩ := ih nonneg low (high.trans le_one) change'
      rw [halved _ (by ring)] at error
      exact ⟨above, below.trans high, error⟩

/-- A change of the sign between two boundaries is near a root. -/
theorem exists_bracketRoot {slope : ℝ} (steep : 0 ≤ slope)
    (lipschitz : ∀ x y, 0 ≤ x → x ≤ 1 → 0 ≤ y → y ≤ 1 →
      |evaluate coefficients x - evaluate coefficients y| ≤ slope * |x - y|)
    (roots : List ℝ) {lower upper : ℝ} (nonneg : 0 ≤ lower) (order : lower ≤ upper) (le_one : upper ≤ 1)
    (change : Opposite (evaluate coefficients) lower upper) : ∃ v, lower ≤ v ∧ v ≤ upper ∧
      |evaluate coefficients v| ≤ bisectionError slope ∧ Near (bracketRoot coefficients roots lower upper) v := by
  obtain ⟨above, below, error⟩ := bisect_spec coefficients steep lipschitz 80 nonneg order le_one change
  refine ⟨_, above, below, error.trans ?_, ?_⟩
  · have : slope * (upper - lower) ≤ slope * 1 := mul_le_mul_of_nonneg_left (by linarith) steep
    unfold bisectionError
    gcongr
    linarith
  · unfold bracketRoot
    rw [if_neg ?_]
    · exact near_appendUnique _ (nonneg.trans above) (below.trans le_one)
    · rcases change with ⟨first, second⟩ | ⟨first, second⟩
      · simp [first.ne, second.ne', first, second.not_gt]
      · simp [first.ne', second.ne, second, first.not_gt]

/-- Every change of the sign between consecutive boundaries is near a root. -/
theorem isChain_bracketRoots {slope : ℝ} (steep : 0 ≤ slope)
    (lipschitz : ∀ x y, 0 ≤ x → x ≤ 1 → 0 ≤ y → y ≤ 1 →
      |evaluate coefficients x - evaluate coefficients y| ≤ slope * |x - y|)
    (roots : List ℝ) {boundaries : List ℝ} (sorted : boundaries.Pairwise (· ≤ ·))
    (unit : ∀ b ∈ boundaries, 0 ≤ b ∧ b ≤ 1) :
    boundaries.IsChain fun lower upper => Opposite (evaluate coefficients) lower upper →
      ∃ v, lower ≤ v ∧ v ≤ upper ∧ |evaluate coefficients v| ≤ bisectionError slope ∧
        Near (bracketRoots coefficients roots boundaries) v := by
  fun_induction bracketRoots coefficients roots boundaries with
  | case1 roots lower upper boundaries ih =>
    obtain ⟨least, later⟩ := List.pairwise_cons.mp sorted
    refine List.isChain_cons_cons.mpr ⟨fun change => ?_, ih later fun b member =>
      unit b (List.mem_cons_of_mem _ member)⟩
    obtain ⟨v, above, below, almost, near⟩ := exists_bracketRoot coefficients steep lipschitz roots
      (unit lower List.mem_cons_self).1 (least upper List.mem_cons_self)
      (unit upper (List.mem_cons_of_mem _ List.mem_cons_self)).2 change
    exact ⟨v, above, below, almost, near.mono (subset_bracketRoots coefficients _ _)⟩
  | case2 boundaries roots short =>
    match boundaries, short with
    | [], _ => exact .nil
    | [_], _ => exact .singleton _
    | lower :: upper :: rest, short => exact absurd rfl (short lower upper rest)

end Roots

/-! ## The recursion -/

theorem unit_rootsWithin (depth : ℕ) (coefficients : Polynomial ℝ) :
    ∀ r ∈ rootsWithin depth coefficients, 0 ≤ r ∧ r ≤ 1 := by
  cases depth with
  | zero => nofun
  | succ depth =>
    unfold rootsWithin rootsBody
    split
    · nofun
    · nofun
    · exact unit_appendUnique _ nofun
    · simp only
      intro r member
      exact unit_bracketRoots _ _ (unit_boundaryRoots _ _) r ((List.mem_insertionSort _).mp member)

/-- What one level of the recursion adds to the error. -/
def slack (slope : ℝ) : ℝ := 16 / 10 ^ 10 + slope * 3 / 10 ^ 16

/-- The error for polynomials with a number of coefficients. -/
def isolationError (slope : ℝ) (count : ℕ) : ℝ := 2 / 10 ^ 10 + (count - 2 : ℕ) * slack slope

theorem isolationError_mono {slope : ℝ} (steep : 0 ≤ slope) {count count' : ℕ} (le : count ≤ count') :
    isolationError slope count ≤ isolationError slope count' := by
  have fewer : ((count - 2 : ℕ) : ℝ) ≤ (count' - 2 : ℕ) := by exact_mod_cast Nat.sub_le_sub_right le 2
  have nonneg : 0 ≤ slack slope := by
    unfold slack
    positivity
  unfold isolationError
  gcongr

/-- The dropped coefficients are below the error. -/
theorem dropped_le_isolationError {slope : ℝ} (steep : 0 ≤ slope) (count : ℕ) :
    (count : ℝ) * (1 / 10 ^ 10) ≤ isolationError slope count := by
  have split : (count : ℝ) ≤ 2 + (count - 2 : ℕ) := by exact_mod_cast (by omega : count ≤ 2 + (count - 2))
  have nonneg : (0 : ℝ) ≤ (count - 2 : ℕ) := Nat.cast_nonneg _
  have each : (1 : ℝ) / 10 ^ 10 ≤ slack slope := by
    unfold slack
    have : 0 ≤ slope * 3 / 10 ^ 16 := by positivity
    norm_num at *
    linarith
  have := mul_le_mul_of_nonneg_left each nonneg
  unfold isolationError
  norm_num at *
  linarith

/-- One more level of the recursion fits into the slack. -/
theorem level_le_isolationError {slope : ℝ} (steep : 0 ≤ slope) {count : ℕ} (many : 3 ≤ count) (few : count ≤ 5) :
    isolationError slope (count - 1) + bisectionError slope + 1 / 10 ^ 9 + count * (1 / 10 ^ 10) +
        2 * ((bisectionError slope + 1 / 10 ^ 9 + slope * (1 / 10 ^ 8) + count * (1 / 10 ^ 10)) * (1 / 10 ^ 8)) ≤
      isolationError slope count := by
  have counted : (count : ℝ) ≤ 5 := by exact_mod_cast few
  have levels : ((count - 2 : ℕ) : ℝ) = (count - 1 - 2 : ℕ) + 1 := by
    exact_mod_cast (by omega : count - 2 = count - 1 - 2 + 1)
  have bits : slope / 2 ^ 80 ≤ slope / 10 ^ 20 := by
    gcongr
    norm_num
  unfold isolationError bisectionError
  rw [levels, add_one_mul]
  generalize ((count - 1 - 2 : ℕ) : ℝ) * slack slope = earlier
  unfold slack
  norm_num at bits ⊢
  linarith

/-- Consecutive elements of a sorted list have none of its elements between them. -/
theorem isChain_neighbours {boundaries : List ℝ} (sorted : boundaries.Pairwise (· ≤ ·)) :
    boundaries.IsChain fun x y => x ≤ y ∧ ∀ r ∈ boundaries, ¬ (x < r ∧ r < y) := by
  rw [List.isChain_iff_forall_rel_of_append_cons_cons]
  rintro x y before after rfl
  obtain ⟨-, later, earlier⟩ := List.pairwise_append.mp sorted
  obtain ⟨least, rest⟩ := List.pairwise_cons.mp later
  refine ⟨least y List.mem_cons_self, ?_⟩
  rintro r member ⟨above, below⟩
  rcases List.mem_append.mp member with member | member
  · exact absurd (earlier r member x List.mem_cons_self) (not_le.mpr above)
  rcases List.mem_cons.mp member with rfl | member
  · exact lt_irrefl r above
  rcases List.mem_cons.mp member with rfl | member
  · exact lt_irrefl r below
  · exact absurd ((List.pairwise_cons.mp rest).1 r member) (not_le.mpr below)

/-- The boundaries of one level of the recursion. -/
def boundariesOf (critical : List ℝ) : List ℝ := 0 :: (critical.insertionSort (· ≤ ·) ++ [1])

theorem mem_boundariesOf {critical : List ℝ} {b : ℝ} (member : b ∈ boundariesOf critical) :
    b = 0 ∨ b ∈ critical ∨ b = 1 := by
  rcases List.mem_cons.mp member with zero | member
  · exact .inl zero
  rcases List.mem_append.mp member with member | member
  · exact .inr (.inl ((List.mem_insertionSort _).mp member))
  · exact .inr (.inr (List.mem_singleton.mp member))

theorem unit_boundariesOf {critical : List ℝ} (unit : ∀ r ∈ critical, 0 ≤ r ∧ r ≤ 1) :
    ∀ b ∈ boundariesOf critical, 0 ≤ b ∧ b ≤ 1 := by
  intro b member
  rcases mem_boundariesOf member with rfl | inside | rfl
  · exact ⟨le_rfl, zero_le_one⟩
  · exact unit b inside
  · exact ⟨zero_le_one, le_rfl⟩

theorem sorted_boundariesOf {critical : List ℝ} (unit : ∀ r ∈ critical, 0 ≤ r ∧ r ≤ 1) :
    (boundariesOf critical).Pairwise (· ≤ ·) := by
  refine List.pairwise_cons.mpr ⟨fun b member => ?_, List.pairwise_append.mpr
    ⟨List.pairwise_insertionSort _ _, List.pairwise_singleton _ _, fun r member one last => ?_⟩⟩
  · exact (unit_boundariesOf unit b (List.mem_cons_of_mem _ member)).1
  · obtain rfl := List.mem_singleton.mp last
    exact (unit r ((List.mem_insertionSort _).mp member)).2

/-- With separating points as boundaries, every change of the sign of a polynomial is near a root. -/
theorem signs_near_roots {slope e : ℝ} {coefficients : Polynomial ℝ} {critical : List ℝ}
    (bounded : weight coefficients ≤ slope) (nonneg : 0 ≤ e) (unit : ∀ r ∈ critical, 0 ≤ r ∧ r ≤ 1)
    (separates : Separates critical (evaluate coefficients) e) {u w : ℝ} (left : 0 ≤ u) (order : u ≤ w)
    (right : w ≤ 1) (change : e + bisectionError slope < evaluate coefficients u ∧
        evaluate coefficients w < -(e + bisectionError slope) ∨
      evaluate coefficients u < -(e + bisectionError slope) ∧
        e + bisectionError slope < evaluate coefficients w) :
    ∃ v, u ≤ v ∧ v ≤ w ∧ |evaluate coefficients v| ≤ max (bisectionError slope) (1 / 10 ^ 9) ∧
      Near (bracketRoots coefficients (boundaryRoots coefficients (boundariesOf critical))
        (boundariesOf critical)) v := by
  have steep : 0 ≤ slope := le_trans (mul_nonneg (size_nonneg _) (Nat.cast_nonneg _)) bounded
  have lipschitz : ∀ x y, 0 ≤ x → x ≤ 1 → 0 ≤ y → y ≤ 1 →
      |evaluate coefficients x - evaluate coefficients y| ≤ slope * |x - y| := by
    intro x y nonneg le_one nonneg' le_one'
    exact (evaluate_lipschitz coefficients nonneg le_one nonneg' le_one').trans
      (mul_le_mul_of_nonneg_right bounded (abs_nonneg _))
  have sorted := sorted_boundariesOf unit
  have inUnit := unit_boundariesOf unit
  have neighbours := List.isChain_iff_forall_rel_of_append_cons_cons.mp (isChain_neighbours sorted)
  have rooted := List.isChain_iff_forall_rel_of_append_cons_cons.mp (isChain_bracketRoots coefficients steep
    lipschitz (boundaryRoots coefficients (boundariesOf critical)) sorted inUnit)
  have chain : (boundariesOf critical).IsChain (Bracketed (evaluate coefficients)
      (Near (bracketRoots coefficients (boundaryRoots coefficients (boundariesOf critical))
        (boundariesOf critical))) e (bisectionError slope)) := by
    refine List.isChain_iff_forall_rel_of_append_cons_cons.mpr fun x y before after same => ?_
    have here : x ∈ boundariesOf critical ∧ y ∈ boundariesOf critical := by
      constructor <;> simp [same]
    obtain ⟨least, between⟩ := neighbours same
    refine ⟨least, separates x y (inUnit x here.1).1 least (inUnit y here.2).2 fun r member => ?_, rooted same⟩
    exact between r (List.mem_cons_of_mem _ (List.mem_append_left _ ((List.mem_insertionSort _).mpr member)))
  have bisected : 0 ≤ bisectionError slope := by
    unfold bisectionError
    positivity
  exact exists_found (z := 1 / 10 ^ 9) chain (fun b member vanishes =>
    (near_boundaryRoots coefficients inUnit b member vanishes).mono (subset_bracketRoots coefficients _ _))
    le_rfl nonneg bisected (by norm_num) left order (by simpa using right) change

/-- Beside its root a linear polynomial keeps its sign. -/
theorem linear_sign {coefficients : Polynomial ℝ} {c₀ c₁ a b : ℝ} (shape : trim coefficients = [c₀, c₁])
    (left : 0 ≤ a) (right : b ≤ 1) (between : ∀ r ∈ appendUnique [] (-c₀ / c₁), ¬ (a < r ∧ r < b)) :
    (∀ x, a ≤ x → x ≤ b → 0 ≤ evaluate (trim coefficients) x) ∨
      ∀ x, a ≤ x → x ≤ b → evaluate (trim coefficients) x ≤ 0 := by
  have nonzero := trim_leading shape
  have value : ∀ x, evaluate (trim coefficients) x = c₁ * (x - -c₀ / c₁) := by
    intro x
    rw [shape, evaluate_cons, evaluate_cons, evaluate_nil]
    field_simp
    ring
  have sided : (∀ x, a ≤ x → x ≤ b → 0 ≤ x - -c₀ / c₁) ∨ ∀ x, a ≤ x → x ≤ b → x - -c₀ / c₁ ≤ 0 := by
    by_cases low : -c₀ / c₁ < 0
    · exact .inl fun x above _ => by linarith
    by_cases high : 1 < -c₀ / c₁
    · exact .inr fun x _ below => by linarith
    have member : -c₀ / c₁ ∈ appendUnique [] (-c₀ / c₁) := by
      have inside : ¬ (-c₀ / c₁ < -polynomialTolerance ∨ 1 + polynomialTolerance < -c₀ / c₁) := by
        norm_num [polynomialTolerance]
        constructor <;> linarith
      rw [appendUnique, if_neg inside, min_eq_left (le_of_not_gt high), max_eq_right (le_of_not_gt low)]
      simp
    by_cases before : -c₀ / c₁ ≤ a
    · exact .inl fun x above _ => by linarith
    · have after : b ≤ -c₀ / c₁ := by
        by_contra inside
        exact between _ member ⟨lt_of_not_ge before, lt_of_not_ge inside⟩
      exact .inr fun x _ below => by linarith
  rcases lt_or_gt_of_ne nonzero with negative | positive
  · rcases sided with above | below
    · exact .inr fun x left right => value x ▸ mul_nonpos_of_nonpos_of_nonneg negative.le (above x left right)
    · exact .inl fun x left right => value x ▸ mul_nonneg_of_nonpos_of_nonpos negative.le (below x left right)
  · rcases sided with above | below
    · exact .inl fun x left right => value x ▸ mul_nonneg positive.le (above x left right)
    · exact .inr fun x left right => value x ▸ mul_nonpos_of_nonneg_of_nonpos positive.le (below x left right)

/-- The roots that the recursion returns separate every function with this derivative. -/
theorem rootsWithin_separates {slope : ℝ} (depth : ℕ) {coefficients : Polynomial ℝ}
    (deep : coefficients.length ≤ depth) (few : coefficients.length ≤ 5) (bounded : weight coefficients ≤ slope)
    {f : ℝ → ℝ} (deriv : ∀ x, HasDerivAt f (evaluate coefficients x) x) :
    Separates (rootsWithin depth coefficients) f (isolationError slope coefficients.length) := by
  induction depth generalizing coefficients f with
  | zero =>
    obtain rfl := List.length_eq_zero_iff.mp (Nat.le_zero.mp deep)
    intro a b left order right between
    refine steady_of_sign (q := fun _ => 0) deriv (by norm_num [isolationError]) (by linarith) ?_
      (.inl fun _ _ _ => le_rfl)
    intro x _ _
    norm_num [isolationError]
  | succ depth ih =>
    have steep : 0 ≤ slope := le_trans (mul_nonneg (size_nonneg _) (Nat.cast_nonneg _)) bounded
    have near : ∀ x, 0 ≤ x → x ≤ 1 → |evaluate coefficients x - evaluate (trim coefficients) x| ≤
        coefficients.length * (1 / 10 ^ 10) := fun x nonneg le_one => evaluate_trim_near coefficients nonneg le_one
    have constant : ∀ a b, 0 ≤ a → b ≤ 1 →
        ((∀ x, a ≤ x → x ≤ b → 0 ≤ evaluate (trim coefficients) x) ∨
          ∀ x, a ≤ x → x ≤ b → evaluate (trim coefficients) x ≤ 0) →
        Steady f a b (isolationError slope coefficients.length) := by
      intro a b left right sign
      exact (steady_of_sign deriv (by positivity) (by linarith)
        (fun x above below => near x (left.trans above) (below.trans right)) sign).mono
        (dropped_le_isolationError steep _)
    unfold rootsWithin rootsBody
    split
    · rename_i shape
      exact fun a b left _ right _ => constant a b left right (.inl fun x _ _ => by rw [shape]; simp)
    · rename_i c shape
      refine fun a b left _ right _ => constant a b left right ?_
      rcases le_total 0 c with positive | negative
      · exact .inl fun x _ _ => by rw [shape]; simpa [evaluate_cons] using positive
      · exact .inr fun x _ _ => by rw [shape]; simpa [evaluate_cons] using negative
    · rename_i c₀ c₁ shape
      exact fun a b left _ right between => constant a b left right (linear_sign shape left right between)
    · rename_i c₀ c₁ c₂ rest shape
      rw [← shape]
      have shorter := length_trim_le coefficients
      have lighter := (weight_trim_le coefficients).trans bounded
      have many : 3 ≤ (trim coefficients).length := by simp [shape]
      have length := length_derivative (trim coefficients) (by omega)
      have level := ih (by omega) (by omega)
        ((weight_derivative_le _ (by omega)).trans lighter) (hasDerivAt_evaluate (trim coefficients))
      rw [length] at level
      have wider := level.mono (isolationError_mono steep (show _ ≤ coefficients.length - 1 by omega))
      have unit := unit_rootsWithin depth (derivative (trim coefficients))
      have positive : 0 ≤ isolationError slope (coefficients.length - 1) :=
        le_trans (by positivity) (dropped_le_isolationError steep _)
      have bisected : 0 ≤ bisectionError slope := by
        unfold bisectionError
        positivity
      refine (separates_of_signs (h := isolationError slope (coefficients.length - 1) + bisectionError slope +
          1 / 10 ^ 9) (z := bisectionError slope + 1 / 10 ^ 9) (L := slope) (δ := 1 / 10 ^ 8) deriv near
        (fun x y nonneg le_one nonneg' le_one' =>
          (evaluate_lipschitz _ nonneg le_one nonneg' le_one').trans
            (mul_le_mul_of_nonneg_right lighter (abs_nonneg _))) ?_ (by positivity) (by positivity)
        (by linarith) steep (by norm_num)).mono (level_le_isolationError steep (by omega) few)
      intro u w left order right change
      obtain ⟨v, above, below, almost, r, member, close⟩ :=
        signs_near_roots lighter positive unit wider left order right
          (change.imp (fun both => ⟨by linarith [both.1], by linarith [both.2]⟩)
            fun both => ⟨by linarith [both.1], by linarith [both.2]⟩)
      exact ⟨v, above, below, almost.trans (max_le (by norm_num) (by linarith)), r,
        (List.mem_insertionSort _).mpr member, close⟩

/-- The roots of the unit interval separate every function with this derivative. -/
theorem rootsOnUnitInterval_separates {slope : ℝ} {coefficients : Polynomial ℝ}
    (few : coefficients.length ≤ 5) (bounded : weight coefficients ≤ slope) {f : ℝ → ℝ}
    (deriv : ∀ x, HasDerivAt f (evaluate coefficients x) x) :
    Separates (rootsOnUnitInterval coefficients) f (isolationError slope coefficients.length) :=
  rootsWithin_separates _ le_rfl few bounded deriv

end

end MotorDrive.Trajectory
