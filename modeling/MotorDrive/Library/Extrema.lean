import MotorDrive.Library.Numerals

/-!
# Extrema of a function between candidate points

A function is `Steady` on an interval up to an error when it does not rise there by more than the error,
or does not fall.  Points separate the function (`Separates`) when it is steady on every part of the unit
interval that has none of them inside.  Then the values at the points and at the ends bound all values
(`Separates.bounds`).

`separates_of_signs` is the rule for points that were found as approximate zeros of the derivative: it
is enough that every change of the sign of the derivative is near one of the points.
`exists_found` finds such a change between the boundaries of a list.
-/

namespace Extrema

variable {f g q : ℝ → ℝ} {a b c e e' : ℝ} {points : List ℝ}

/-- The function does not rise on the interval by more than the error. -/
def Falls (f : ℝ → ℝ) (a b e : ℝ) : Prop :=
  ∀ x y, a ≤ x → x ≤ y → y ≤ b → f y ≤ f x + e

/-- The function does not rise on the interval by more than the error, or does not fall. -/
def Steady (f : ℝ → ℝ) (a b e : ℝ) : Prop := Falls f a b e ∨ Falls (fun x => -f x) a b e

/-- The function is steady between neighbouring points. -/
def Separates (points : List ℝ) (f : ℝ → ℝ) (e : ℝ) : Prop :=
  ∀ a b, 0 ≤ a → a ≤ b → b ≤ 1 → (∀ r ∈ points, ¬ (a < r ∧ r < b)) → Steady f a b e

/-! ## Functions that fall -/

theorem Falls.mono (falls : Falls f a b e) (le : e ≤ e') : Falls f a b e' := by
  intro x y left order right
  have := falls x y left order right
  linarith

theorem Falls.append (nonneg : 0 ≤ e) (nonneg' : 0 ≤ e') (first : Falls f a c e)
    (second : Falls f c b e') : Falls f a b (e + e') := by
  intro x y left order right
  by_cases before : y ≤ c
  · have := first x y left order before
    linarith
  by_cases after : c ≤ x
  · have := second x y after order right
    linarith
  have low := first x c left (le_of_not_ge after) le_rfl
  have high := second c y le_rfl (le_of_not_ge before) right
  linarith

/-- A bound of the derivative bounds the rise. -/
theorem falls_of_deriv (deriv : ∀ x, HasDerivAt f (g x) x) (nonneg : 0 ≤ c)
    (le : ∀ x, a ≤ x → x ≤ b → g x ≤ c) : Falls f a b (c * (b - a)) := by
  intro x y left order right
  have rise : f y - f x ≤ c * (y - x) := by
    refine Convex.image_sub_le_mul_sub_of_deriv_le (convex_Icc x y)
      (fun z _ => (deriv z).continuousAt.continuousWithinAt)
      (fun z _ => (deriv z).differentiableAt.differentiableWithinAt) ?_ x (Set.left_mem_Icc.mpr order) y
      (Set.right_mem_Icc.mpr order) order
    intro z inside
    obtain ⟨above, below⟩ := interior_subset inside
    rw [(deriv z).deriv]
    exact le z (left.trans above) (below.trans right)
  have := mul_le_mul_of_nonneg_left (show y - x ≤ b - a by linarith) nonneg
  linarith

theorem Steady.mono (steady : Steady f a b e) (le : e ≤ e') : Steady f a b e' :=
  steady.imp (fun falls => falls.mono le) fun falls => falls.mono le

theorem Separates.mono (separates : Separates points f e) (le : e ≤ e') : Separates points f e' :=
  fun a b left order right between => (separates a b left order right between).mono le

/-! ## Bounds from candidates -/

/-- The last point up to `u`. -/
theorem exists_last_le (points : List ℝ) {u : ℝ} (nonneg : 0 ≤ u) :
    ∃ a ∈ 0 :: points, a ≤ u ∧ 0 ≤ a ∧ ∀ r ∈ points, r ≤ u → r ≤ a := by
  induction points with
  | nil => exact ⟨0, List.mem_singleton.mpr rfl, nonneg, le_rfl, nofun⟩
  | cons head rest ih =>
    obtain ⟨a, member, below, positive, last⟩ := ih
    have kept : a ∈ 0 :: head :: rest := by
      rcases List.mem_cons.mp member with rfl | member
      · exact List.mem_cons_self
      · exact List.mem_cons_of_mem _ (List.mem_cons_of_mem _ member)
    by_cases better : head ≤ u ∧ a ≤ head
    · refine ⟨head, List.mem_cons_of_mem _ List.mem_cons_self, better.1, positive.trans better.2, ?_⟩
      intro r member up
      rcases List.mem_cons.mp member with rfl | member
      · exact le_rfl
      · exact (last r member up).trans better.2
    · refine ⟨a, kept, below, positive, ?_⟩
      intro r member up
      rcases List.mem_cons.mp member with rfl | member
      · by_contra beyond
        exact better ⟨up, (lt_of_not_ge beyond).le⟩
      · exact last r member up

/-- The first point from `u` on. -/
theorem exists_first_ge (points : List ℝ) {u : ℝ} (le_one : u ≤ 1) :
    ∃ b ∈ 1 :: points, u ≤ b ∧ b ≤ 1 ∧ ∀ r ∈ points, u ≤ r → b ≤ r := by
  obtain ⟨a, member, below, positive, last⟩ :=
    exists_last_le (points.map fun r => 1 - r) (u := 1 - u) (by linarith)
  refine ⟨1 - a, ?_, by linarith, by linarith, ?_⟩
  · rcases List.mem_cons.mp member with rfl | member
    · simp
    · obtain ⟨r, inside, rfl⟩ := List.mem_map.mp member
      exact List.mem_cons_of_mem _ (by simpa using inside)
  · intro r inside above
    have := last (1 - r) (List.mem_map.mpr ⟨r, inside, rfl⟩) (by linarith)
    linarith

/-- Bounds of the values at the points and the ends are bounds of all values, up to the error. -/
theorem Separates.bounds (separates : Separates points f e) {low high : ℝ}
    (bounded : ∀ r ∈ 0 :: 1 :: points, low ≤ f r ∧ f r ≤ high) {u : ℝ} (nonneg : 0 ≤ u) (le_one : u ≤ 1) :
    low - e ≤ f u ∧ f u ≤ high + e := by
  obtain ⟨a, memberA, belowA, positive, last⟩ := exists_last_le points nonneg
  obtain ⟨b, memberB, aboveB, unit, first⟩ := exists_first_ge points le_one
  have between : ∀ r ∈ points, ¬ (a < r ∧ r < b) := by
    rintro r member ⟨after, before⟩
    rcases le_total r u with up | down
    · exact absurd (last r member up) (not_le.mpr after)
    · exact absurd (first r member down) (not_le.mpr before)
  have atA : low ≤ f a ∧ f a ≤ high := bounded a <| by
    rcases List.mem_cons.mp memberA with rfl | member <;> simp [*]
  have atB : low ≤ f b ∧ f b ≤ high := bounded b <| by
    rcases List.mem_cons.mp memberB with rfl | member <;> simp [*]
  rcases separates a b positive (belowA.trans aboveB) unit between with falls | rises
  · have left := falls a u le_rfl belowA aboveB
    have right := falls u b belowA aboveB le_rfl
    constructor <;> linarith [atA.2, atB.1]
  · have left := rises a u le_rfl belowA aboveB
    have right := rises u b belowA aboveB le_rfl
    constructor <;> linarith [atA.1, atB.2]

/-! ## Changes of the sign -/

/-- The function changes its sign from one end of the interval to the other. -/
def Opposite (q : ℝ → ℝ) (x y : ℝ) : Prop := q x < 0 ∧ 0 < q y ∨ 0 < q x ∧ q y < 0

/-- Between consecutive boundaries the function is steady, and a change of its sign is found. -/
structure Bracketed (q : ℝ → ℝ) (found : ℝ → Prop) (e t x y : ℝ) : Prop where
  order : x ≤ y
  steady : Steady q x y e
  root : Opposite q x y → ∃ v, x ≤ v ∧ v ≤ y ∧ |q v| ≤ t ∧ found v

variable {found : ℝ → Prop} {t h : ℝ}

theorem Bracketed.neg {x y : ℝ} (bracketed : Bracketed q found e t x y) :
    Bracketed (fun x => -q x) found e t x y where
  order := bracketed.order
  steady := by
    rcases bracketed.steady with falls | rises
    · exact .inr (by simpa only [neg_neg] using falls)
    · exact .inl rises
  root opposite := by
    simp only [abs_neg]
    refine bracketed.root ?_
    rcases opposite with ⟨first, second⟩ | ⟨first, second⟩
    · exact .inr ⟨neg_lt_zero.mp first, neg_pos.mp second⟩
    · exact .inl ⟨neg_pos.mp first, neg_lt_zero.mp second⟩

/-- A change from positive to negative inside one interval is found there. -/
theorem Bracketed.exists_found {x y u w : ℝ} (bracketed : Bracketed q found e t x y) (small : e + t ≤ h)
    (nonneg : 0 ≤ e) (nonneg' : 0 ≤ t) (left : x ≤ u) (order : u ≤ w) (right : w ≤ y)
    (positive : h < q u ∨ u = x ∧ 0 < q u) (negative : q w < -h ∨ w = y ∧ q w < 0) :
    ∃ v, u ≤ v ∧ v ≤ w ∧ |q v| ≤ t ∧ found v := by
  have above : 0 < q u := positive.elim (fun much => by linarith) fun at_end => at_end.2
  have below : q w < 0 := negative.elim (fun much => by linarith) fun at_end => at_end.2
  have start : 0 < q x := by
    rcases positive with much | ⟨rfl, more⟩
    · rcases bracketed.steady with falls | rises
      · have := falls x u le_rfl left (order.trans right)
        linarith
      · have := rises u w left order right
        simp only at this
        linarith
    · exact more
  have finish : q y < 0 := by
    rcases negative with much | ⟨rfl, less⟩
    · rcases bracketed.steady with falls | rises
      · have := falls w y (left.trans order) right le_rfl
        linarith
      · have := rises u w left order right
        simp only at this
        linarith
    · exact less
  obtain ⟨v, afterX, beforeY, almost, isFound⟩ := bracketed.root (.inr ⟨start, finish⟩)
  obtain ⟨low, high⟩ := abs_le.mp almost
  refine ⟨v, ?_, ?_, almost, isFound⟩
  · by_contra early
    rcases positive with much | ⟨rfl, -⟩
    · rcases bracketed.steady with falls | rises
      · have := falls v u afterX (lt_of_not_ge early).le (order.trans right)
        linarith
      · have := rises u w left order right
        simp only at this
        linarith
    · exact early afterX
  · by_contra late
    rcases negative with much | ⟨rfl, -⟩
    · rcases bracketed.steady with falls | rises
      · have := falls w v (left.trans order) (lt_of_not_ge late).le beforeY
        linarith
      · have := rises u w left order right
        simp only at this
        linarith
    · exact late beforeY

/-- A change from positive to negative between boundaries is found. -/
theorem exists_found_of_falls {first z : ℝ} {rest : List ℝ}
    (bracketed : List.IsChain (Bracketed q found e t) (first :: rest))
    (zeros : ∀ x ∈ first :: rest, |q x| ≤ z → found x) (small : e + t ≤ h) (nonneg : 0 ≤ e) (nonneg' : 0 ≤ t)
    (nonneg'' : 0 ≤ z) {u w : ℝ} (left : first ≤ u) (order : u ≤ w) (right : w ≤ (first :: rest).getLast nofun)
    (positive : h < q u ∨ u = first ∧ 0 < q u) (negative : q w < -h) :
    ∃ v, u ≤ v ∧ v ≤ w ∧ |q v| ≤ max t z ∧ found v := by
  induction rest generalizing first u with
  | nil =>
    have same : u = w := le_antisymm order (right.trans left)
    subst same
    rcases positive with much | ⟨-, more⟩ <;> linarith
  | cons second rest ih =>
    obtain ⟨here, later⟩ := List.isChain_cons_cons.mp bracketed
    by_cases inside : w ≤ second
    · obtain ⟨v, after, before, almost, isFound⟩ :=
        here.exists_found small nonneg nonneg' left order inside positive (.inl negative)
      exact ⟨v, after, before, almost.trans (le_max_left t z), isFound⟩
    have beyond : second ≤ w := (lt_of_not_ge inside).le
    by_cases passed : second < u
    · have much : h < q u := by
        rcases positive with much | ⟨rfl, -⟩
        · exact much
        · exact absurd here.order (not_le.mpr passed)
      exact ih later (fun x member => zeros x (List.mem_cons_of_mem _ member)) passed.le order right (.inl much)
    have ahead : u ≤ second := le_of_not_gt passed
    by_cases zero : |q second| ≤ z
    · exact ⟨second, ahead, beyond, zero.trans (le_max_right t z),
        zeros second (List.mem_cons_of_mem _ List.mem_cons_self) zero⟩
    rcases lt_trichotomy (q second) 0 with below | vanishes | above
    · obtain ⟨v, after, before, almost, isFound⟩ :=
        here.exists_found small nonneg nonneg' left ahead le_rfl positive (.inr ⟨rfl, below⟩)
      exact ⟨v, after, before.trans beyond, almost.trans (le_max_left t z), isFound⟩
    · exact absurd (by rw [vanishes, abs_zero]; exact nonneg'') zero
    · obtain ⟨v, after, rest⟩ := ih later (fun x member => zeros x (List.mem_cons_of_mem _ member)) le_rfl beyond
        right (.inr ⟨rfl, above⟩)
      exact ⟨v, ahead.trans after, rest⟩

/-- A change of the sign between boundaries is found. -/
theorem exists_found {first z : ℝ} {rest : List ℝ}
    (bracketed : List.IsChain (Bracketed q found e t) (first :: rest))
    (zeros : ∀ x ∈ first :: rest, |q x| ≤ z → found x) (small : e + t ≤ h) (nonneg : 0 ≤ e) (nonneg' : 0 ≤ t)
    (nonneg'' : 0 ≤ z) {u w : ℝ} (left : first ≤ u) (order : u ≤ w) (right : w ≤ (first :: rest).getLast nofun)
    (change : h < q u ∧ q w < -h ∨ q u < -h ∧ h < q w) :
    ∃ v, u ≤ v ∧ v ≤ w ∧ |q v| ≤ max t z ∧ found v := by
  rcases change with ⟨positive, negative⟩ | ⟨negative, positive⟩
  · exact exists_found_of_falls bracketed zeros small nonneg nonneg' nonneg'' left order right (.inl positive)
      negative
  · have mirrored := exists_found_of_falls (q := fun x => -q x) (bracketed.imp fun _ _ => Bracketed.neg)
      (fun x member vanishes => zeros x member (by simpa only [abs_neg] using vanishes)) small nonneg nonneg'
      nonneg'' left order right (.inl (by linarith)) (by linarith)
    simpa only [abs_neg] using mirrored

/-! ## Points near the changes of the sign -/

section Signs

variable {d z L δ : ℝ}

/-- Where the approximate derivative keeps its sign the function is steady. -/
theorem steady_of_sign (deriv : ∀ x, HasDerivAt f (g x) x) (nonneg : 0 ≤ d) (short : b ≤ a + 1)
    (near : ∀ x, a ≤ x → x ≤ b → |g x - q x| ≤ d)
    (sign : (∀ x, a ≤ x → x ≤ b → 0 ≤ q x) ∨ ∀ x, a ≤ x → x ≤ b → q x ≤ 0) : Steady f a b d := by
  have within : d * (b - a) ≤ d := by
    have := mul_le_mul_of_nonneg_left (show b - a ≤ 1 by linarith) nonneg
    rwa [mul_one] at this
  rcases sign with positive | negative
  · refine .inr ((falls_of_deriv (fun x => (deriv x).neg) nonneg fun x left right => ?_).mono within)
    linarith [(abs_le.mp (near x left right)).1, positive x left right]
  · refine .inl ((falls_of_deriv deriv nonneg fun x left right => ?_).mono within)
    linarith [(abs_le.mp (near x left right)).2, negative x left right]

/-- A small derivative keeps the function almost constant on a short interval. -/
theorem falls_of_small (deriv : ∀ x, HasDerivAt f (g x) x) (nonneg : 0 ≤ e) (short : b - a ≤ δ)
    (close : 0 ≤ δ) (small : b = a ∨ ∀ x, a ≤ x → x ≤ b → |g x| ≤ e) :
    Falls f a b (e * δ) ∧ Falls (fun x => -f x) a b (e * δ) := by
  have nonneg' := mul_nonneg nonneg close
  rcases small with rfl | small
  · constructor <;> intro x y left order right
    · obtain rfl : x = y := le_antisymm order (right.trans left)
      linarith
    · obtain rfl : x = y := le_antisymm order (right.trans left)
      linarith
  · have within : e * (b - a) ≤ e * δ := mul_le_mul_of_nonneg_left short nonneg
    constructor
    · exact (falls_of_deriv deriv nonneg fun x left right => (abs_le.mp (small x left right)).2).mono within
    · refine (falls_of_deriv (fun x => (deriv x).neg) nonneg fun x left right => ?_).mono within
      linarith [(abs_le.mp (small x left right)).1]

/-- Where an interval begins once the part near an approximate zero at its start is cut off. -/
theorem exists_left_cut (near : ∀ x, a ≤ x → x ≤ b → |g x - q x| ≤ d)
    (lipschitz : ∀ x y, a ≤ x → x ≤ b → a ≤ y → y ≤ b → |q x - q y| ≤ L * |x - y|) (order : a ≤ b)
    (steep : 0 ≤ L) (close : 0 ≤ δ) : ∃ cut, a ≤ cut ∧ cut ≤ b ∧ cut - a ≤ δ ∧
      (cut = a ∨ ∀ x, a ≤ x → x ≤ cut → |g x| ≤ z + L * δ + d) ∧
      ∀ v, a ≤ v → v ≤ b → |q v| ≤ z → v ≤ a + δ → v ≤ cut := by
  by_cases zero : ∃ v, a ≤ v ∧ v ≤ b ∧ |q v| ≤ z ∧ v ≤ a + δ
  · obtain ⟨v, above, below, vanishes, early⟩ := zero
    refine ⟨min b (a + δ), le_min order (by linarith), min_le_left _ _, ?_, .inr ?_, ?_⟩
    · linarith [min_le_right b (a + δ)]
    · intro x left right
      have inside : x ≤ b := right.trans (min_le_left _ _)
      have soon : x ≤ a + δ := right.trans (min_le_right _ _)
      have distance : |x - v| ≤ δ := abs_le.mpr ⟨by linarith, by linarith⟩
      have slope := lipschitz x v left inside above below
      have scaled := mul_le_mul_of_nonneg_left distance steep
      have apart := near x left inside
      have split : g x = g x - q x + (q x - q v) + q v := by ring
      calc |g x| = |g x - q x + (q x - q v) + q v| := congrArg _ split
        _ ≤ |g x - q x| + |q x - q v| + |q v| := abs_add_three _ _ _
        _ ≤ z + L * δ + d := by linarith
    · exact fun w _ inside _ soon => le_min inside soon
  · exact ⟨a, le_rfl, order, by linarith, .inl rfl, fun v above below vanishes early =>
      absurd ⟨v, above, below, vanishes, early⟩ zero⟩

/-- Where an interval ends once the part near an approximate zero at its end is cut off. -/
theorem exists_right_cut (near : ∀ x, a ≤ x → x ≤ b → |g x - q x| ≤ d)
    (lipschitz : ∀ x y, a ≤ x → x ≤ b → a ≤ y → y ≤ b → |q x - q y| ≤ L * |x - y|) (order : a ≤ b)
    (steep : 0 ≤ L) (close : 0 ≤ δ) : ∃ cut, a ≤ cut ∧ cut ≤ b ∧ b - cut ≤ δ ∧
      (b = cut ∨ ∀ x, cut ≤ x → x ≤ b → |g x| ≤ z + L * δ + d) ∧
      ∀ v, a ≤ v → v ≤ b → |q v| ≤ z → b - δ ≤ v → cut ≤ v := by
  obtain ⟨cut, above, below, short, small, beyond⟩ := exists_left_cut (g := fun x => g (-x))
    (q := fun x => q (-x)) (a := -b) (b := -a) (z := z) (δ := δ) (d := d)
    (fun x left right => near (-x) (by linarith) (by linarith))
    (fun x y leftX rightX leftY rightY => by
      have slope := lipschitz (-x) (-y) (by linarith) (by linarith) (by linarith) (by linarith)
      rwa [neg_sub_neg, abs_sub_comm y x] at slope)
    (by linarith) steep close
  refine ⟨-cut, by linarith, by linarith, by linarith, ?_, ?_⟩
  · rcases small with at_end | small
    · exact .inl (by linarith)
    · refine .inr fun x left right => ?_
      simpa only [neg_neg] using small (-x) (by linarith) (by linarith)
  · intro v left right vanishes late
    have := beyond (-v) (by linarith) (by linarith) (by simpa only [neg_neg] using vanishes) (by linarith)
    linarith

/-- Points separate a function if every change of the sign of its approximate derivative is within `δ` of
a point. -/
theorem separates_of_signs {h : ℝ} (deriv : ∀ x, HasDerivAt f (g x) x)
    (near : ∀ x, 0 ≤ x → x ≤ 1 → |g x - q x| ≤ d)
    (lipschitz : ∀ x y, 0 ≤ x → x ≤ 1 → 0 ≤ y → y ≤ 1 → |q x - q y| ≤ L * |x - y|)
    (signs : ∀ u w, 0 ≤ u → u ≤ w → w ≤ 1 → (h < q u ∧ q w < -h ∨ q u < -h ∧ h < q w) →
      ∃ v, u ≤ v ∧ v ≤ w ∧ |q v| ≤ z ∧ ∃ r ∈ points, |r - v| ≤ δ)
    (nonneg : 0 ≤ d) (positive : 0 ≤ z) (small : z ≤ h) (steep : 0 ≤ L) (close : 0 ≤ δ) :
    Separates points f (h + d + 2 * ((z + L * δ + d) * δ)) := by
  intro a b left order right between
  have bound : 0 ≤ z + L * δ + d := by positivity
  have margin : 0 ≤ (z + L * δ + d) * δ := mul_nonneg bound close
  obtain ⟨start, afterA, beforeB, shortA, flatA, earlyA⟩ := exists_left_cut (z := z)
    (fun x above below => near x (left.trans above) (below.trans right))
    (fun x y aboveX belowX aboveY belowY => lipschitz x y (left.trans aboveX) (belowX.trans right)
      (left.trans aboveY) (belowY.trans right)) order steep close
  obtain ⟨finish, afterA', beforeB', shortB, flatB, lateB⟩ := exists_right_cut (z := z)
    (fun x above below => near x (left.trans above) (below.trans right))
    (fun x y aboveX belowX aboveY belowY => lipschitz x y (left.trans aboveX) (belowX.trans right)
      (left.trans aboveY) (belowY.trans right)) order steep close
  obtain ⟨fallsA, risesA⟩ := falls_of_small deriv bound shortA close flatA
  obtain ⟨fallsB, risesB⟩ := falls_of_small deriv bound shortB close flatB
  by_cases cross : finish < start
  · refine .inl ((fallsA.append margin margin ?_).mono (by linarith))
    exact fun x y above order' below => fallsB x y (cross.le.trans above) order' below
  have middle : start ≤ finish := le_of_not_gt cross
  -- a change of the sign is near a point, so it lies in one of the parts cut off
  have steady : ∀ u w, start ≤ u → u ≤ w → w ≤ finish →
      ¬ (h < q u ∧ q w < -h ∨ q u < -h ∧ h < q w) := by
    intro u w above order' below change
    obtain ⟨v, afterU, beforeW, vanishes, r, member, distance⟩ :=
      signs u w (by linarith) order' (by linarith) change
    obtain ⟨low, high⟩ := abs_le.mp distance
    have much : h < |q u| ∧ h < |q w| := by
      rcases change with ⟨up, down⟩ | ⟨down, up⟩
      · exact ⟨up.trans_le (le_abs_self _), by linarith [neg_le_abs (q w)]⟩
      · exact ⟨by linarith [neg_le_abs (q u)], up.trans_le (le_abs_self _)⟩
    by_cases before : r ≤ a
    · have early := earlyA v (by linarith) (by linarith) vanishes (by linarith)
      obtain rfl : v = u := le_antisymm (early.trans above) afterU
      linarith [much.1]
    · have after : b ≤ r := by
        by_contra inside
        exact between r member ⟨lt_of_not_ge before, lt_of_not_ge inside⟩
      have late := lateB v (by linarith) (by linarith) vanishes (by linarith)
      obtain rfl : v = w := le_antisymm beforeW (below.trans late)
      linarith [much.2]
  have scaled : (h + d) * (finish - start) ≤ h + d := by
    have := mul_le_mul_of_nonneg_left (show finish - start ≤ 1 by linarith)
      (show 0 ≤ h + d by linarith)
    linarith
  by_cases up : ∃ u, start ≤ u ∧ u ≤ finish ∧ h < q u
  · obtain ⟨u, aboveU, belowU, positiveU⟩ := up
    have rises : Falls (fun x => -f x) start finish (h + d) := by
      refine (falls_of_deriv (fun x => (deriv x).neg) (by linarith) fun x above below => ?_).mono scaled
      have apart := abs_le.mp (near x (by linarith) (by linarith))
      by_contra down
      rcases le_total u x with order' | order'
      · exact steady u x aboveU order' below (.inl ⟨positiveU, by linarith [apart.1]⟩)
      · exact steady x u above order' belowU (.inr ⟨by linarith [apart.1], positiveU⟩)
    refine .inr ((risesA.append margin (by linarith) (rises.append (by linarith) margin risesB)).mono ?_)
    linarith
  · have falls : Falls f start finish (h + d) := by
      refine (falls_of_deriv deriv (by linarith) fun x above below => ?_).mono scaled
      have apart := abs_le.mp (near x (by linarith) (by linarith))
      by_contra down
      exact up ⟨x, above, below, by linarith [apart.2]⟩
    refine .inl ((fallsA.append margin (by linarith) (falls.append (by linarith) margin fallsB)).mono ?_)
    linarith

end Signs

end Extrema
