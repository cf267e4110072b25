import MotorDrive.Control.Cycle

/-!
# The acceleration-limited reference

One step of `advance_acceleration_limited_pv_reference` changes the velocity of a reference by at most the acceleration
of a period (`Slewed`).  The step that snaps to its target ends there with velocity zero: the target is closer than a
free step would go, and the velocity that is left can be removed within the period.
-/

namespace MotorDrive.Control

open Trajectory (Motor)

/-! ## One step -/

section Step

variable {K : Type} [Field K] [LinearOrder K]

/-- The distance at which a reference counts as arrived. -/
def snapDistance : K := 1 / 10 ^ 7

/-- A step keeps to the acceleration in its velocity, and to a speed in its position unless it has arrived. -/
structure Slewed (speed acceleration period : K) (first second : K × K) : Prop where
  velocity : |second.2 - first.2| ≤ acceleration * period
  position : |second.1 - first.1| ≤ max (speed * period) snapDistance

/-- The velocity from which the reference can still brake at its target, towards it. -/
def desiredVelocity (sqrt : K → K) (limit acceleration error : K) : K :=
  if error < 0 then -|min limit (sqrt (max 0 (2 * acceleration * |error|)))|
  else |min limit (sqrt (max 0 (2 * acceleration * |error|)))|

/-- The velocity towards a desired one that a change of velocity reaches. -/
def towards (velocity desired change : K) : K := max (velocity - change) (min desired (velocity + change))

/-- Where a step goes without the snap. -/
def freeStep (position velocity next period : K) : K := position + 1 / 2 * (velocity + next) * period

variable [IsStrictOrderedRing K] {velocity desired change : K}

theorem abs_towards_sub_le (nonneg : 0 ≤ change) : |towards velocity desired change - velocity| ≤ change := by
  unfold towards
  rw [abs_le]
  constructor
  · rw [neg_le_sub_iff_le_add, ← sub_le_iff_le_add]
    exact le_max_left _ _
  · rw [sub_le_iff_le_add']
    exact max_le (by linarith) (min_le_right _ _)

theorem abs_towards_le (nonneg : 0 ≤ change) : |towards velocity desired change| ≤ max |velocity| |desired| := by
  have low := neg_abs_le velocity
  have high := le_abs_self velocity
  unfold towards
  rw [abs_le]
  constructor
  · refine le_trans ?_ (le_max_right _ _)
    refine le_min ((neg_le_neg (le_max_right _ _)).trans (neg_abs_le desired)) ?_
    have least := neg_le_neg (le_max_left |velocity| |desired|)
    linarith
  · refine max_le ?_ ((min_le_left _ _).trans ((le_abs_self desired).trans (le_max_right _ _)))
    have most := le_max_left |velocity| |desired|
    linarith

variable {sqrt : K → K} {position target limit acceleration period : K}

/-- A desired velocity keeps to the limit. -/
theorem abs_desiredVelocity_le (nonneg : ∀ x, 0 ≤ sqrt x) (positive : 0 ≤ limit) (error : K) :
    |desiredVelocity sqrt limit acceleration error| ≤ limit := by
  have bounded (distance : K) : |min limit (sqrt distance)| ≤ limit := by
    rw [abs_of_nonneg (le_min positive (nonneg distance))]
    exact min_le_left _ _
  unfold desiredVelocity
  split_ifs
  · rw [abs_neg, abs_abs]
    exact bounded _
  · rw [abs_abs]
    exact bounded _

theorem abs_freeStep_sub_le {next speed : K} (forward : 0 ≤ period) (bounded : |velocity| ≤ speed)
    (bounded' : |next| ≤ speed) : |freeStep position velocity next period - position| ≤ speed * period := by
  have mean : |1 / 2 * (velocity + next)| ≤ speed := by
    rw [abs_mul, abs_of_pos one_half_pos]
    have sum := (abs_add_le velocity next).trans (add_le_add bounded bounded')
    linarith
  rw [freeStep, add_sub_cancel_left, abs_mul, abs_of_nonneg forward]
  exact mul_le_mul_of_nonneg_right mean forward

/-- A step that crosses its target would have gone at least as far. -/
theorem abs_error_le_of_crossed {next : K} (crossed : (0 < target - position ∧ target ≤ next) ∨
    (target - position < 0 ∧ next ≤ target)) : |target - position| ≤ |next - position| := by
  obtain ⟨ahead, beyond⟩ | ⟨behind, beyond⟩ := crossed
  · rw [abs_of_pos ahead]
    exact (sub_le_sub_right beyond position).trans (le_abs_self _)
  · rw [abs_of_neg behind]
    exact (neg_le_neg (sub_le_sub_right beyond position)).trans (neg_le_abs _)

/-- The velocity of a step without the snap. -/
def freeVelocity (sqrt : K → K) (position velocity target limit acceleration period : K) : K :=
  towards velocity (desiredVelocity sqrt limit acceleration (target - position)) (acceleration * period)

omit [IsStrictOrderedRing K] in
theorem advance_reference_eq (sqrt : K → K) (position velocity target limit acceleration period : K) :
    advanceAccelerationLimitedPvReference sqrt position velocity target limit acceleration period =
      (let next := freeVelocity sqrt position velocity target limit acceleration period
      if (|target - position| ≤ snapDistance ∨
          (0 < target - position ∧ target ≤ freeStep position velocity next period) ∨
            (target - position < 0 ∧ freeStep position velocity next period ≤ target)) ∧
          |velocity| ≤ acceleration * period then (target, 0)
      else (freeStep position velocity next period, next)) := rfl

variable (position target) in
/-- A step, from a velocity within a speed that is not below the limit. -/
theorem slewed_advance {speed : K} (sqrt_nonneg : ∀ x, 0 ≤ sqrt x) (limit_nonneg : 0 ≤ limit)
    (acceleration_nonneg : 0 ≤ acceleration) (forward : 0 ≤ period) (bounded : |velocity| ≤ speed)
    (limit_le : limit ≤ speed) :
    Slewed speed acceleration period (position, velocity)
        (advanceAccelerationLimitedPvReference sqrt position velocity target limit acceleration period) ∧
      |(advanceAccelerationLimitedPvReference sqrt position velocity target limit acceleration period).2| ≤ speed := by
  have change := mul_nonneg acceleration_nonneg forward
  have desired : |desiredVelocity sqrt limit acceleration (target - position)| ≤ speed :=
    (abs_desiredVelocity_le sqrt_nonneg limit_nonneg (target - position)).trans limit_le
  have next : |freeVelocity sqrt position velocity target limit acceleration period| ≤ speed :=
    (abs_towards_le change).trans (max_le bounded desired)
  have free : |freeStep position velocity (freeVelocity sqrt position velocity target limit acceleration period) period -
      position| ≤ speed * period := abs_freeStep_sub_le forward bounded next
  rw [advance_reference_eq]
  simp only
  split_ifs with snaps
  · obtain ⟨near, slow⟩ := snaps
    refine ⟨⟨?_, ?_⟩, ?_⟩
    · rwa [zero_sub, abs_neg]
    · rcases near with arrived | crossed
      · exact arrived.trans (le_max_right _ _)
      · exact ((abs_error_le_of_crossed crossed).trans free).trans (le_max_left _ _)
    · rw [abs_zero]
      exact limit_nonneg.trans limit_le
  · exact ⟨⟨abs_towards_sub_le change, free.trans (le_max_left _ _)⟩, next⟩

/-- The reference of a follower joint without a profile takes one step a cycle. -/
theorem followJoint_slewed {config : Config K} {follow : BimanualFollow K} {degraded : Bool}
    {feedback : Motor → MotorState K} {joint : Fin armDof} {s s' : Following K} {bounds : K × K}
    (sqrt_nonneg : ∀ x, 0 ≤ sqrt x) (ok : follow.followJoint sqrt config degraded feedback joint s = .ok s')
    (shaped : s.mailbox.perJointProfile = false)
    (limits : s.mailbox.followerLimits degraded (layoutIndex follow.leaderSide.other joint) = bounds)
    (nonneg : 0 ≤ bounds.1) (nonneg' : 0 ≤ bounds.2) (bounded : |s.followerReferenceVelocity joint| ≤ bounds.1) :
    Slewed bounds.1 bounds.2 config.period (s.followerReference joint, s.followerReferenceVelocity joint)
        (s'.followerReference joint, s'.followerReferenceVelocity joint) ∧
      |s'.followerReferenceVelocity joint| ≤ bounds.1 := by
  unfold BimanualFollow.followJoint at ok
  simp only at ok
  split at ok
  · split at ok
    · cases ok
    · rename_i leading found
      split at ok
      · cases ok
      · split_ifs at ok
        cases ok
        have step := slewed_advance (s.followerReference joint)
          (follow.desired config leading.command.targetPosition joint) sqrt_nonneg nonneg nonneg' config.period_pos.le
          bounded le_rfl
        simp only [Function.update_self, limits, Following.reference, shaped, Bool.false_eq_true, if_false]
        exact step
  · cases ok

end Step

/-! ## A row of targets -/

/-- The references of a row of targets, the first one in front. -/
def references {K : Type} [Field K] [LinearOrder K] (sqrt : K → K) (limit acceleration period : K) :
    K × K → List K → List (K × K)
  | reference, [] => [reference]
  | reference, target :: targets => reference :: references sqrt limit acceleration period
      (advanceAccelerationLimitedPvReference sqrt reference.1 reference.2 target limit acceleration period) targets

theorem head?_references {K : Type} [Field K] [LinearOrder K] (sqrt : K → K) (limit acceleration period : K)
    (start : K × K) (targets : List K) :
    (references sqrt limit acceleration period start targets).head? = some start := by
  cases targets <;> rfl

noncomputable section

/-- Whatever the targets are, the velocity of the references keeps to its limit, and every step keeps to the limits in
its velocity and in its position. -/
theorem references_slewed (limit acceleration period : ℝ) (limit_pos : 0 < limit) (acceleration_pos : 0 < acceleration)
    (period_pos : 0 < period) (start : ℝ × ℝ) (bounded : |start.2| ≤ limit) (targets : List ℝ) :
    (∀ reference ∈ references Real.sqrt limit acceleration period start targets, |reference.2| ≤ limit) ∧
      (references Real.sqrt limit acceleration period start targets).IsChain (Slewed limit acceleration period) := by
  induction targets generalizing start with
  | nil => exact ⟨fun reference member => List.mem_singleton.mp member ▸ bounded, .singleton _⟩
  | cons target targets ih =>
    obtain ⟨slewed, kept⟩ := slewed_advance start.1 target Real.sqrt_nonneg limit_pos.le acceleration_pos.le
      period_pos.le bounded le_rfl
    obtain ⟨within, chain⟩ := ih _ kept
    refine ⟨fun reference member => ?_, ?_⟩
    · rcases List.mem_cons.mp member with rfl | later
      · exact bounded
      · exact within reference later
    · rw [references]
      refine List.isChain_cons.mpr ⟨fun reference found => ?_, chain⟩
      rw [head?_references] at found
      exact Option.some.inj found ▸ slewed

/-- The limits of the ordinary reference at 500 Hz: it turns round while it brakes. -/
theorem references_slewed_turning :
    (references Real.sqrt 2 4 (1 / 500) (1 / 2, 2) [10, -1, 3]).IsChain (Slewed 2 4 (1 / 500)) :=
  (references_slewed 2 4 (1 / 500) two_pos four_pos (by norm_num) (1 / 2, 2) (abs_of_pos two_pos).le [10, -1, 3]).2

end

end MotorDrive.Control
