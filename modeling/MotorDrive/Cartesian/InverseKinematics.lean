import MotorDrive.Library.Search

/-!
# Inverse kinematics

`RobotModel::ik_impl` of `robot_model.cpp` over the real numbers: the iterative solution from one seed, the attempts
from the caller's seed, from the fallback seeds and from random ones, and the choice among them.  The kinematics, the
linear solver and the clock are parameters.
-/

namespace MotorDrive.Cartesian

open Search

noncomputable section

open Classical

/-- The positions of the seven joints. -/
abbrev Configuration := Fin 7 → ℝ

inductive Side
  | left | right
  deriving DecidableEq, Repr

/-- The lower limits of `kLeft` and `kRight`. -/
def lowerPositionLimit : Side → Configuration
  | .left => ![-2.745, -0.3489, -2.5294, -0.1744, -2.0933, -0.785, -1.3956]
  | .right => ![-2.745, -2.2678, -2.5294, -0.1744, -2.0933, -0.785, -1.3956]

/-- The upper limits of `kLeft` and `kRight`. -/
def upperPositionLimit : Side → Configuration
  | .left => ![2.745, 2.2678, 2.5294, 2.2678, 2.0933, 0.785, 1.3956]
  | .right => ![2.745, 0.3489, 2.5294, 2.2678, 2.0933, 0.785, 1.3956]

/-- Each joint lies between its limits. -/
def InLimits (side : Side) (q : Configuration) : Prop :=
  ∀ joint, lowerPositionLimit side joint ≤ q joint ∧ q joint ≤ upperPositionLimit side joint

/-- `cwiseMax` of the lower limits and `cwiseMin` of the upper ones, as `bounded` with `std::clamp`. -/
def clampToLimits (side : Side) (q : Configuration) : Configuration := fun joint =>
  min (max (q joint) (lowerPositionLimit side joint)) (upperPositionLimit side joint)

/-! ## Fallback seeds -/

/-- `radical_inverse`: the digits of the index, the lowest one first. -/
def radicalInverse (index base : ℕ) : ℝ :=
  ((base.digits index).foldl (fun (state : ℝ × ℝ) (digit : ℕ) =>
    (state.1 + digit * state.2, state.2 / base)) (0, 1 / base)).1

/-- A sample of the low-discrepancy configurations. -/
def distributed (side : Side) (sample : ℕ) : Configuration := fun joint =>
  let fraction := radicalInverse sample (![2, 3, 5, 7, 11, 13, 17] joint)
  let fraction := if side = .right ∧ joint = 1 then 1 - fraction else fraction
  lowerPositionLimit side joint + fraction * (upperPositionLimit side joint - lowerPositionLimit side joint)

/-- `yunyi_ptp_fallback_ik_seeds`, for the limits of the model. -/
def fallbackIkSeeds (side : Side) : List Configuration :=
  clampToLimits side (Function.update 0 3 1.57079632679489661923) :: clampToLimits side 0 ::
    (fun joint => 0.5 * (lowerPositionLimit side joint + upperPositionLimit side joint)) ::
      [1, 2, 3, 4, 5].map (distributed side)

/-! ## One attempt -/

/-- A twist: the translation and the rotation of a placement error. -/
abbrev Twist := Fin 6 → ℝ

/-- What the solver takes from the kinematics library, for the placement that is asked for. -/
structure Kinematics where
  /-- `log6` of the error of the placement of joint seven. -/
  residual : Configuration → Twist
  /-- The damped step from a configuration with an error, with the pull to the preferred one if it is asked for. -/
  delta : (stepSize damping : ℝ) → (preferred : Option Configuration) → Configuration → (error : ℝ) → Configuration
  /-- `pinocchio::integrate`. -/
  integrate : Configuration → Configuration → Configuration

/-- `ArticoreIkOptions`, less the seed of the random numbers. -/
structure IkOptions where
  maxIterations : ℕ
  maxRetries : ℕ
  tolerance : ℝ
  stepSize : ℝ
  damping : ℝ

/-- The options with the defaults for values that are not set. -/
def IkOptions.resolve (options : Option IkOptions) : IkOptions where
  maxIterations := match options with
    | some options => if options.maxIterations ≠ 0 then options.maxIterations else 1000
    | none => 1000
  maxRetries := match options with
    | some options => if options.maxRetries ≠ 0 then options.maxRetries else 8
    | none => 8
  tolerance := match options with
    | some options => if 0 < options.tolerance then options.tolerance else 1e-4
    | none => 1e-4
  stepSize := match options with
    | some options => if 0 < options.stepSize then options.stepSize else 0.5
    | none => 0.5
  damping := match options with
    | some options => if 0 < options.damping then options.damping else 1e-6
    | none => 1e-6

/-- The parameters of `ik_impl` that its callers choose.  The clock answers each reading with whether the deadline has
come, and the candidates start as an empty list. -/
structure IkFlags where
  preferNearestSuccess : Bool
  deadline : Option (ℕ → Bool) := none
  fallbackSeeds : Option (List Configuration) := none
  allowRandomRetries : Bool := true
  regularizeToSeed : Bool := false
  successfulCandidates : Bool := false

/-- A call of `ik_impl`.  The random configurations are drawn between the limits. -/
structure IkCall where
  kinematics : Kinematics
  side : Side
  seed : Configuration
  options : Option IkOptions
  flags : IkFlags
  randomQ : ℕ → Configuration
  randomQ_inLimits : ∀ retry, InLimits side (randomQ retry)

/-- The clock of a call: whether the deadline was seen to have come, and how often it was read. -/
structure Clock where
  deadlineExpired : Bool := false
  readings : ℕ := 0

/-- `Attempt`. -/
structure Attempt where
  q : Configuration
  error : WithTop ℝ
  iterations : ℕ
  success : Prop

def positionError (residual : Twist) : ℝ := √(residual 0 ^ 2 + residual 1 ^ 2 + residual 2 ^ 2)

def orientationError (residual : Twist) : ℝ := √(residual 3 ^ 2 + residual 4 ^ 2 + residual 5 ^ 2)

section Call

variable (call : IkCall)

/-- `check_deadline`. -/
def checkDeadline (clock : Clock) : Clock :=
  match call.flags.deadline with
  | some late => ⟨clock.deadlineExpired || late clock.readings, clock.readings + 1⟩
  | none => clock

/-- The error of a residual. -/
def residualError (residual : Twist) : ℝ :=
  if call.flags.regularizeToSeed then √(positionError residual ^ 2 + (0.20 * orientationError residual) ^ 2)
  else √(∑ i, residual i ^ 2)

/-- The test of `update_error`: whether a residual meets the tolerance. -/
def MeetsTolerance (residual : Twist) : Prop :=
  if call.flags.regularizeToSeed then positionError residual ≤ 0.0005 ∧ orientationError residual ≤ 0.035
  else residualError call residual < (IkOptions.resolve call.options).tolerance

/-- `update_error` of the residual where the attempt stands. -/
def updateError (attempt : Attempt) : Attempt :=
  { attempt with
    error := residualError call (call.kinematics.residual attempt.q)
    success := MeetsTolerance call (call.kinematics.residual attempt.q) }

/-- The line search along a step, with a number of turns left. -/
def lineSearch (q delta : Configuration) (error : WithTop ℝ) : ℕ → ℝ → Clock → Option Configuration × Clock
  | 0, _, clock => (none, clock)
  | lines + 1, alpha, clock =>
    let clock := checkDeadline call clock
    if clock.deadlineExpired then (none, clock)
    else
      let candidate := clampToLimits call.side (call.kinematics.integrate q (alpha • delta))
      if (residualError call (call.kinematics.residual candidate) : WithTop ℝ) < error then (some candidate, clock)
      else lineSearch q delta error lines (alpha * 0.5) clock

/-- The iterations, with a number of them left: the attempt, the clock, and whether the attempt is returned at once. -/
def iterate : ℕ → ℕ → Attempt → Clock → Attempt × Clock × Bool
  | 0, _, attempt, clock => (attempt, clock, false)
  | left + 1, iteration, attempt, clock =>
    let clock := checkDeadline call clock
    if clock.deadlineExpired then (attempt, clock, false)
    else
      let attempt := updateError call { attempt with iterations := iteration }
      if attempt.success then (attempt, clock, true)
      else
        let options := IkOptions.resolve call.options
        let preferred := if call.flags.regularizeToSeed then some call.seed else none
        let error := residualError call (call.kinematics.residual attempt.q)
        let delta := call.kinematics.delta options.stepSize options.damping preferred attempt.q error
        match lineSearch call attempt.q delta attempt.error 4 1 clock with
        | (some candidate, clock) => iterate left (iteration + 1) { attempt with q := candidate } clock
        | (none, clock) => (attempt, clock, false)

/-- `solve`. -/
def solve (q : Configuration) (clock : Clock) : Attempt × Clock :=
  let maxIterations := (IkOptions.resolve call.options).maxIterations
  let (attempt, clock, done) := iterate call maxIterations 0 ⟨q, ⊤, 0, False⟩ clock
  if done then (attempt, clock)
  else if clock.deadlineExpired then (attempt, clock)
  else (updateError call { attempt with iterations := maxIterations }, clock)

/-! ## The choice -/

/-- `squaredNorm` of a difference. -/
def squaredDistance (a b : Configuration) : ℝ := ∑ joint, (a joint - b joint) ^ 2

/-- Two candidates that count as one. -/
def Duplicate (a b : Configuration) : Prop := squaredDistance a b ≤ 1e-10

/-- The variables of `ik_impl` between two attempts.  The attempts made are kept for the specification. -/
structure Selection where
  best : Attempt
  bestSeedDistance : WithTop ℝ
  candidates : List Configuration
  clock : Clock
  made : List Attempt

/-- `record_candidate`. -/
def recordCandidate (attempt : Attempt) (candidates : List Configuration) : List Configuration :=
  if call.flags.successfulCandidates ∧ attempt.success then keepApart Duplicate candidates attempt.q else candidates

/-- The distances are within the tolerance of a tie. -/
def Tie (distance : ℝ) (known : WithTop ℝ) : Prop := ∃ value : ℝ, known = value ∧ |distance - value| < 1e-12

/-- A candidate that is preferred to the best attempt, by its distance from the seed. -/
def Preferred (best : Attempt) (bestSeedDistance : WithTop ℝ) (candidate : Attempt) : Prop :=
  let distance := squaredDistance candidate.q call.seed
  ¬best.success ∨ (distance : WithTop ℝ) < bestSeedDistance ∨
    (Tie distance bestSeedDistance ∧ candidate.error < best.error)

/-- The selection after an attempt from a seed, with the rule that replaces the best one: a success is compared by its
distance if `nearest` says so, and everything else by the error, while nothing has succeeded. -/
def attemptFrom (nearest : Bool) (q : Configuration) (selection : Selection) : Selection :=
  let (candidate, clock) := solve call q selection.clock
  let selection : Selection :=
    { selection with
      candidates := recordCandidate call candidate selection.candidates
      clock
      made := selection.made ++ [candidate] }
  if candidate.success ∧ nearest then
    if Preferred call selection.best selection.bestSeedDistance candidate then
      { selection with best := candidate, bestSeedDistance := squaredDistance candidate.q call.seed }
    else selection
  else if ¬selection.best.success ∧ candidate.error < selection.best.error then
    { selection with best := candidate }
  else selection

/-- The loop over the fallback seeds. -/
def fallbackLoop : List Configuration → Selection → Selection
  | [], selection => selection
  | fallback :: rest, selection =>
    if selection.clock.deadlineExpired then selection
    else if squaredDistance fallback call.seed ≤ 1e-24 then fallbackLoop rest selection
    else fallbackLoop rest (attemptFrom call true fallback selection)

/-- The loop over the random seeds, with a number of retries left. -/
def randomLoop (runGlobalNearestSearch : Bool) (deterministicSuccess : Prop) : ℕ → ℕ → Selection → Selection
  | 0, _, selection => selection
  | left + 1, retry, selection =>
    if call.flags.allowRandomRetries ∧ ¬selection.clock.deadlineExpired ∧
        (¬selection.best.success ∨ (runGlobalNearestSearch ∧ ¬deterministicSuccess)) then
      randomLoop runGlobalNearestSearch deterministicSuccess left (retry + 1)
        (attemptFrom call call.flags.preferNearestSuccess (call.randomQ retry) selection)
    else selection

/-- The selection after the attempt from the caller's seed. -/
def seedSelection : Selection :=
  let (best, clock) := solve call call.seed {}
  { best
    bestSeedDistance := if best.success then squaredDistance best.q call.seed else ⊤
    candidates := recordCandidate call best []
    clock
    made := [best] }

/-- The attempts of `ik_impl`. -/
def select : Selection :=
  let first := seedSelection call
  let runGlobalNearestSearch :=
    call.flags.allowRandomRetries && call.flags.preferNearestSuccess && decide ¬first.best.success
  let second := match call.flags.fallbackSeeds with
    | some seeds =>
      if ¬first.best.success ∨ call.flags.successfulCandidates then fallbackLoop call seeds first else first
    | none => first
  randomLoop call runGlobalNearestSearch second.best.success (IkOptions.resolve call.options).maxRetries 0 second

/-- `ArticoreIkResult`, with the candidates of the caller's list. -/
structure IkResult where
  success : Prop
  iterations : ℕ
  errorNorm : WithTop ℝ
  q : Configuration
  candidates : List Configuration

/-- The candidates in the order of their distances to the seed. -/
def sortCandidates (candidates : List Configuration) : List Configuration :=
  candidates.mergeSort fun a b => squaredDistance a call.seed ≤ squaredDistance b call.seed

/-- `ik_impl` after the checks of its pointers and of the target. -/
def ikImpl : Except String IkResult :=
  let options := IkOptions.resolve call.options
  if 1000000 < options.maxIterations ∨ 1000 < options.maxRetries then
    .error "IK iteration or retry count is unreasonably large"
  else
    let selection := select call
    if selection.clock.deadlineExpired ∧ ¬selection.best.success ∧ ¬call.flags.successfulCandidates then
      .error "IK time budget exceeded without a converged solution"
    else
      .ok
        { success := selection.best.success
          iterations := selection.best.iterations
          errorNorm := selection.best.error
          q := selection.best.q
          candidates := if call.flags.successfulCandidates then sortCandidates call selection.candidates else [] }

end Call

/-! ## The entry points -/

section Entries

/-- `ik`. -/
def ik : IkFlags := { preferNearestSuccess := false }

/-- `ik_from_seed`. -/
def ikFromSeed : IkFlags := { preferNearestSuccess := false, allowRandomRetries := false, regularizeToSeed := true }

/-- `ik_nearest`. -/
def ikNearest (side : Side) : IkFlags :=
  { preferNearestSuccess := true, fallbackSeeds := some (fallbackIkSeeds side) }

/-- `ik_nearest_until`. -/
def ikNearestUntil (side : Side) (deadline : ℕ → Bool) : IkFlags :=
  { preferNearestSuccess := true, deadline := some deadline, fallbackSeeds := some (fallbackIkSeeds side) }

/-- `ik_endpoint_candidates_until`. -/
def ikEndpointCandidatesUntil (side : Side) (deadline : ℕ → Bool) : IkFlags :=
  { preferNearestSuccess := true
    deadline := some deadline
    fallbackSeeds := some (fallbackIkSeeds side)
    successfulCandidates := true }

/-- The flags of the public entry points. -/
inductive IkFlags.Public (side : Side) : IkFlags → Prop
  | ik : Public side ik
  | fromSeed : Public side ikFromSeed
  | nearest : Public side (ikNearest side)
  | nearestUntil (deadline : ℕ → Bool) : Public side (ikNearestUntil side deadline)
  | endpointCandidatesUntil (deadline : ℕ → Bool) : Public side (ikEndpointCandidatesUntil side deadline)

end Entries

/-! ## Limits -/

theorem lowerPositionLimit_le (side : Side) (joint : Fin 7) :
    lowerPositionLimit side joint ≤ upperPositionLimit side joint := by
  cases side <;> fin_cases joint <;> norm_num [lowerPositionLimit, upperPositionLimit]

theorem clampToLimits_inLimits (side : Side) (q : Configuration) : InLimits side (clampToLimits side q) :=
  fun joint => ⟨le_min (le_max_right _ _) (lowerPositionLimit_le side joint), min_le_right _ _⟩

/-- A part of the way from the lower limits to the upper ones. -/
theorem inLimits_of_fraction {side : Side} {fraction : Fin 7 → ℝ}
    (unit : ∀ joint, 0 ≤ fraction joint ∧ fraction joint ≤ 1) : InLimits side fun joint =>
      lowerPositionLimit side joint +
        fraction joint * (upperPositionLimit side joint - lowerPositionLimit side joint) := by
  intro joint
  have range : 0 ≤ upperPositionLimit side joint - lowerPositionLimit side joint :=
    sub_nonneg.mpr (lowerPositionLimit_le side joint)
  have above := mul_nonneg (unit joint).1 range
  have below := mul_le_mul_of_nonneg_right (unit joint).2 range
  exact ⟨by linarith, by linarith⟩

/-- What is left of the unit interval after some digits holds the ones that follow. -/
theorem radicalInverse_fold {base : ℕ} (base_pos : 0 < base) {digits : List ℕ} (small : ∀ d ∈ digits, d < base) :
    ∀ {result fraction : ℝ}, 0 ≤ result → 0 ≤ fraction → result + base * fraction ≤ 1 →
      0 ≤ (digits.foldl (fun (state : ℝ × ℝ) (digit : ℕ) =>
        (state.1 + digit * state.2, state.2 / base)) (result, fraction)).1 ∧
      (digits.foldl (fun (state : ℝ × ℝ) (digit : ℕ) =>
        (state.1 + digit * state.2, state.2 / base)) (result, fraction)).1 ≤ 1 := by
  induction digits with
  | nil =>
    intro result fraction above positive room
    have part : (0 : ℝ) ≤ base * fraction := mul_nonneg (Nat.cast_nonneg _) positive
    exact ⟨above, by simpa using by linarith⟩
  | cons digit rest ih =>
    intro result fraction above positive room
    have base_pos' : (0 : ℝ) < base := Nat.cast_pos.mpr base_pos
    have digit_le : (digit : ℝ) + 1 ≤ base := by
      exact_mod_cast small digit List.mem_cons_self
    refine ih (fun d member => small d (List.mem_cons_of_mem _ member)) ?_ ?_ ?_
    · exact add_nonneg above (mul_nonneg (Nat.cast_nonneg _) positive)
    · exact div_nonneg positive base_pos'.le
    · rw [mul_div_cancel₀ _ base_pos'.ne']
      have step := mul_le_mul_of_nonneg_right digit_le positive
      linarith

theorem radicalInverse_mem {index base : ℕ} (base_gt : 1 < base) :
    0 ≤ radicalInverse index base ∧ radicalInverse index base ≤ 1 := by
  have base_pos : (0 : ℝ) < base := Nat.cast_pos.mpr (by omega)
  unfold radicalInverse
  refine radicalInverse_fold (by omega) (fun d member => Nat.digits_lt_base base_gt member) le_rfl ?_ ?_
  · exact div_nonneg zero_le_one base_pos.le
  · rw [zero_add, mul_one_div_cancel base_pos.ne']

/-- The fallback seeds lie between the limits. -/
theorem fallbackIkSeeds_inLimits {side : Side} {fallback : Configuration}
    (member : fallback ∈ fallbackIkSeeds side) : InLimits side fallback := by
  rcases List.mem_cons.mp member with rfl | member
  · exact clampToLimits_inLimits _ _
  rcases List.mem_cons.mp member with rfl | member
  · exact clampToLimits_inLimits _ _
  rcases List.mem_cons.mp member with rfl | member
  · intro joint
    have ordered := lowerPositionLimit_le side joint
    exact ⟨by linarith, by linarith⟩
  · obtain ⟨sample, -, rfl⟩ := List.mem_map.mp member
    refine inLimits_of_fraction fun joint => ?_
    obtain ⟨above, below⟩ : 0 ≤ radicalInverse sample (![2, 3, 5, 7, 11, 13, 17] joint) ∧
        radicalInverse sample (![2, 3, 5, 7, 11, 13, 17] joint) ≤ 1 := by
      refine radicalInverse_mem ?_
      fin_cases joint <;> decide
    split_ifs
    · exact ⟨by linarith, by linarith⟩
    · exact ⟨above, below⟩

/-! ## What an attempt gives -/

section Attempts

variable {call : IkCall} {start q : Configuration} {attempt : Attempt} {clock : Clock}

/-- An attempt from a start: what its success says, where it stands, and how its error compares to the tolerance. -/
structure Sound (call : IkCall) (start : Configuration) (attempt : Attempt) : Prop where
  meets : attempt.success → MeetsTolerance call (call.kinematics.residual attempt.q)
  place : attempt.q = start ∨ InLimits call.side attempt.q
  below : call.flags.regularizeToSeed = false → attempt.success →
    attempt.error < (IkOptions.resolve call.options).tolerance
  above : call.flags.regularizeToSeed = false → ¬attempt.success →
    (IkOptions.resolve call.options).tolerance ≤ attempt.error

theorem meetsTolerance_iff {residual : Twist} (regular : call.flags.regularizeToSeed = false) :
    MeetsTolerance call residual ↔ residualError call residual < (IkOptions.resolve call.options).tolerance := by
  rw [MeetsTolerance, regular, if_neg Bool.false_ne_true]

/-- The error and the success are updated together. -/
theorem updateError_sound (place : attempt.q = start ∨ InLimits call.side attempt.q) :
    Sound call start (updateError call attempt) where
  meets := id
  place := place
  below regular success := WithTop.coe_lt_coe.mpr ((meetsTolerance_iff regular).mp success)
  above regular failed := WithTop.coe_le_coe.mpr (not_lt.mp fun less => failed ((meetsTolerance_iff regular).mpr less))

/-- A failed attempt that moves keeps what is known of its error. -/
theorem Sound.move (sound : Sound call start attempt) (failed : ¬attempt.success) {candidate : Configuration}
    (inside : InLimits call.side candidate) : Sound call start { attempt with q := candidate } where
  meets success := absurd success failed
  place := .inr inside
  below _ success := absurd success failed
  above := sound.above

/-- The line search ends at a configuration between the limits. -/
theorem lineSearch_inLimits {delta candidate : Configuration} {error : WithTop ℝ} {lines : ℕ} {alpha : ℝ}
    {clock' : Clock} (found : lineSearch call q delta error lines alpha clock = (some candidate, clock')) :
    InLimits call.side candidate := by
  induction lines generalizing alpha clock with
  | zero => cases found
  | succ lines ih =>
    unfold lineSearch at found
    simp only at found
    split_ifs at found
    · cases found
    · cases found
      exact clampToLimits_inLimits _ _
    · exact ih found

/-- The iterations of a failed attempt, and that only a success is returned at once. -/
theorem iterate_sound (left iteration : ℕ) (clock : Clock) (sound : Sound call start attempt) (failed : ¬attempt.success) :
    Sound call start (iterate call left iteration attempt clock).1 ∧
      ((iterate call left iteration attempt clock).2.2 = false →
        ¬(iterate call left iteration attempt clock).1.success) := by
  induction left generalizing iteration attempt clock with
  | zero => exact ⟨sound, fun _ => failed⟩
  | succ left ih =>
    have sound' : Sound call start (updateError call { attempt with iterations := iteration }) :=
      updateError_sound sound.place
    unfold iterate
    simp only
    by_cases expired : (checkDeadline call clock).deadlineExpired
    · rw [if_pos expired]
      exact ⟨sound, fun _ => failed⟩
    rw [if_neg expired]
    by_cases success : (updateError call { attempt with iterations := iteration }).success
    · rw [if_pos success]
      exact ⟨sound', nofun⟩
    rw [if_neg success]
    split
    · next candidate clock' found => exact ih _ _ (sound'.move success (lineSearch_inLimits found)) success
    · exact ⟨sound', fun _ => success⟩

/-- Every attempt of `solve` is sound. -/
theorem solve_sound (call : IkCall) (q : Configuration) (clock : Clock) : Sound call q (solve call q clock).1 := by
  have initial : Sound call q ⟨q, ⊤, 0, False⟩ := ⟨False.elim, .inl rfl, fun _ => False.elim, fun _ _ => le_top⟩
  have iterated := iterate_sound (IkOptions.resolve call.options).maxIterations 0 clock initial id
  unfold solve
  simp only
  split_ifs
  · exact iterated.1
  · exact iterated.1
  · exact updateError_sound iterated.1.place

theorem resolve_maxIterations_ne_zero (options : Option IkOptions) : (IkOptions.resolve options).maxIterations ≠ 0 := by
  unfold IkOptions.resolve
  cases options with
  | none => norm_num
  | some options =>
    simp only
    split_ifs with given
    · exact given
    · norm_num

/-- An attempt from a configuration that meets the tolerance succeeds there at once. -/
theorem solve_met (meets : MeetsTolerance call (call.kinematics.residual q))
    (time : (checkDeadline call clock).deadlineExpired = false) :
    solve call q clock = (updateError call ⟨q, ⊤, 0, False⟩, checkDeadline call clock) := by
  obtain ⟨left, count⟩ := Nat.exists_eq_succ_of_ne_zero (resolve_maxIterations_ne_zero call.options)
  have iterated : iterate call (left + 1) 0 ⟨q, ⊤, 0, False⟩ clock =
      (updateError call ⟨q, ⊤, 0, False⟩, checkDeadline call clock, true) := by
    unfold iterate
    simp only
    rw [if_neg (by rw [time]; exact Bool.false_ne_true),
      if_pos (show (updateError call ⟨q, ⊤, 0, False⟩).success from meets)]
  unfold solve
  simp only [count, Nat.succ_eq_add_one, iterated, if_true]

/-- The step of an iteration. -/
def IkCall.step (call : IkCall) (q : Configuration) : Configuration :=
  call.kinematics.delta (IkOptions.resolve call.options).stepSize (IkOptions.resolve call.options).damping
    (if call.flags.regularizeToSeed then some call.seed else none) q
    (residualError call (call.kinematics.residual q))

/-- A clock whose deadline has come stays so. -/
theorem checkDeadline_expired (expired : clock.deadlineExpired = true) :
    (checkDeadline call clock).deadlineExpired = true := by
  unfold checkDeadline
  split
  · exact Bool.or_eq_true_iff.mpr (.inl expired)
  · exact expired

theorem open_of_checkDeadline (time : (checkDeadline call clock).deadlineExpired = false) :
    clock.deadlineExpired = false :=
  Bool.eq_false_iff.mpr fun expired => Bool.false_ne_true (time.symm.trans (checkDeadline_expired expired))

/-- An attempt whose first step meets the tolerance succeeds there. -/
theorem solve_step {candidate : Configuration} (failed : ¬ MeetsTolerance call (call.kinematics.residual q))
    (stepped : clampToLimits call.side (call.kinematics.integrate q ((1 : ℝ) • call.step q)) = candidate)
    (closer : residualError call (call.kinematics.residual candidate) < residualError call (call.kinematics.residual q))
    (meets : MeetsTolerance call (call.kinematics.residual candidate))
    (several : 2 ≤ (IkOptions.resolve call.options).maxIterations)
    (time : (checkDeadline call (checkDeadline call (checkDeadline call clock))).deadlineExpired = false) :
    solve call q clock = (updateError call ⟨candidate, residualError call (call.kinematics.residual q), 1, False⟩,
      checkDeadline call (checkDeadline call (checkDeadline call clock))) := by
  obtain ⟨left, count⟩ : ∃ left, (IkOptions.resolve call.options).maxIterations = left + 2 :=
    ⟨_, (Nat.sub_add_cancel several).symm⟩
  have second := open_of_checkDeadline time
  have first := open_of_checkDeadline second
  have searched : lineSearch call q (call.step q) (residualError call (call.kinematics.residual q)) 4 1
      (checkDeadline call clock) = (some candidate, checkDeadline call (checkDeadline call clock)) := by
    unfold lineSearch
    simp only
    rw [if_neg (by rw [second]; exact Bool.false_ne_true), stepped, if_pos (WithTop.coe_lt_coe.mpr closer)]
  have moved : iterate call (left + 1 + 1) 0 ⟨q, ⊤, 0, False⟩ clock = iterate call (left + 1) 1
      ⟨candidate, residualError call (call.kinematics.residual q), 0, MeetsTolerance call (call.kinematics.residual q)⟩
        (checkDeadline call (checkDeadline call clock)) := by
    rw [iterate]
    simp only
    rw [if_neg (by rw [first]; exact Bool.false_ne_true), if_neg (show ¬ (updateError call ⟨q, ⊤, 0, False⟩).success
      from failed)]
    split
    · next other clock' found =>
      cases searched.symm.trans found
      rfl
    · next clock' found => cases searched.symm.trans found
  have iterated : iterate call (left + 2) 0 ⟨q, ⊤, 0, False⟩ clock =
      (updateError call ⟨candidate, residualError call (call.kinematics.residual q), 1, False⟩,
        checkDeadline call (checkDeadline call (checkDeadline call clock)), true) := by
    rw [moved, iterate]
    simp only
    rw [if_neg (by rw [time]; exact Bool.false_ne_true), if_pos]
    · rfl
    · exact meets
  unfold solve
  simp only [count, iterated, if_true]

/-- An attempt behind the deadline does nothing. -/
theorem solve_late (late : (checkDeadline call clock).deadlineExpired = true) :
    solve call q clock = (⟨q, ⊤, 0, False⟩, checkDeadline call clock) := by
  obtain ⟨left, count⟩ := Nat.exists_eq_succ_of_ne_zero (resolve_maxIterations_ne_zero call.options)
  have iterated : iterate call (left + 1) 0 ⟨q, ⊤, 0, False⟩ clock =
      (⟨q, ⊤, 0, False⟩, checkDeadline call clock, false) := by
    unfold iterate
    simp only
    rw [if_pos late]
  unfold solve
  simp only [count, Nat.succ_eq_add_one, iterated, late, if_true, if_neg Bool.false_ne_true]

/-- A line search whose candidates are no better finds none. -/
theorem lineSearch_stuck {delta : Configuration}
    (stays : ∀ alpha : ℝ, clampToLimits call.side (call.kinematics.integrate q (alpha • delta)) = q) (lines : ℕ) (alpha : ℝ)
    (clock : Clock) : ∃ clock', lineSearch call q delta (residualError call (call.kinematics.residual q)) lines alpha clock =
      (none, clock') := by
  induction lines generalizing alpha clock with
  | zero => exact ⟨clock, rfl⟩
  | succ lines ih =>
    unfold lineSearch
    simp only
    split_ifs with late better
    · exact ⟨_, rfl⟩
    · rw [stays alpha] at better
      exact absurd better (lt_irrefl _)
    · exact ih _ _

/-- An attempt whose steps lead nowhere stays where it is. -/
theorem iterate_stuck (stays : ∀ alpha : ℝ, clampToLimits call.side
      (call.kinematics.integrate attempt.q (alpha • call.step attempt.q)) = attempt.q) (left iteration : ℕ) (clock : Clock) :
    (iterate call left iteration attempt clock).1.q = attempt.q := by
  cases left with
  | zero => rfl
  | succ left =>
    unfold iterate
    simp only
    by_cases expired : (checkDeadline call clock).deadlineExpired
    · rw [if_pos expired]
    rw [if_neg expired]
    by_cases success : (updateError call { attempt with iterations := iteration }).success
    · rw [if_pos success]
      rfl
    rw [if_neg success]
    obtain ⟨clock', found⟩ := lineSearch_stuck stays 4 1 (checkDeadline call clock)
    split
    · next candidate clock'' other => cases found.symm.trans other
    · rfl

theorem solve_stuck (stays : ∀ alpha : ℝ, clampToLimits call.side (call.kinematics.integrate q (alpha • call.step q)) = q)
    (clock : Clock) : (solve call q clock).1.q = q := by
  have iterated : (iterate call (IkOptions.resolve call.options).maxIterations 0 ⟨q, ⊤, 0, False⟩ clock).1.q = q :=
    iterate_stuck stays _ 0 clock
  unfold solve
  simp only
  split_ifs
  · exact iterated
  · exact iterated
  · exact iterated

end Attempts

/-! ## The public entry points -/

/-- An entry point that goes on with random seeds tests the error itself. -/
theorem IkFlags.Public.regular {side : Side} {flags : IkFlags} (entry : flags.Public side)
    (random : flags.allowRandomRetries) : flags.regularizeToSeed = false := by
  cases entry with
  | fromSeed => cases random
  | ik | nearest | nearestUntil | endpointCandidatesUntil => rfl

/-- An entry point with fallback seeds looks for the nearest success. -/
theorem IkFlags.Public.fallback {side : Side} {flags : IkFlags} {seeds : List Configuration}
    (entry : flags.Public side) (given : flags.fallbackSeeds = some seeds) :
    flags.preferNearestSuccess = true ∧ flags.regularizeToSeed = false ∧ seeds = fallbackIkSeeds side := by
  cases entry with
  | ik | fromSeed => cases given
  | nearest | nearestUntil | endpointCandidatesUntil => exact ⟨rfl, rfl, (Option.some.inj given).symm⟩

/-! ## What the selection keeps -/

section Selections

variable {call : IkCall} {q : Configuration} {best candidate : Attempt} {bestSeedDistance : WithTop ℝ}
  {candidates : List Configuration} {made : List Attempt} {selection : Selection}

theorem squaredDistance_comm (a b : Configuration) : squaredDistance a b = squaredDistance b a :=
  Finset.sum_congr rfl fun joint _ => by ring

theorem duplicate_refl (a : Configuration) : Duplicate a a := by
  have zero : squaredDistance a a = 0 := Finset.sum_eq_zero fun joint _ => by ring
  rw [Duplicate, zero]
  norm_num

/-- The candidates are the configurations of the successful attempts, up to duplicates. -/
structure Recorded (call : IkCall) (candidates : List Configuration) (made : List Attempt) : Prop where
  apart : candidates.Pairwise fun a b => ¬Duplicate a b
  covered : call.flags.successfulCandidates → ∀ attempt ∈ made, attempt.success →
    ∃ candidate ∈ candidates, Duplicate candidate attempt.q
  none : (∀ attempt ∈ made, ¬attempt.success) → candidates = []

theorem Recorded.nil : Recorded call [] [] where
  apart := .nil
  covered _ _ member := absurd member List.not_mem_nil
  none _ := rfl

theorem Recorded.append (recorded : Recorded call candidates made) (candidate : Attempt) :
    Recorded call (recordCandidate call candidate candidates) (made ++ [candidate]) := by
  unfold recordCandidate
  split_ifs with added
  · refine ⟨pairwise_keepApart recorded.apart, fun collect attempt member success => ?_, fun none => ?_⟩
    · rcases List.mem_append.mp member with member | last
      · obtain ⟨known, kept, near⟩ := recorded.covered collect attempt member success
        exact ⟨known, mem_keepApart_of_mem kept, near⟩
      · rw [List.mem_singleton.mp last]
        exact exists_keepApart (duplicate_refl _)
    · exact absurd added.2 (none candidate (List.mem_append_right _ List.mem_cons_self))
  · refine ⟨recorded.apart, fun collect attempt member success => ?_, fun none => ?_⟩
    · rcases List.mem_append.mp member with member | last
      · exact recorded.covered collect attempt member success
      · rw [List.mem_singleton.mp last] at success
        exact absurd ⟨collect, success⟩ added
    · exact recorded.none fun attempt member => none attempt (List.mem_append_left _ member)

/-- The best attempt is one that was made, succeeds if one does, and is the nearest one if the nearest is wanted. -/
structure Chosen (call : IkCall) (best : Attempt) (bestSeedDistance : WithTop ℝ) (made : List Attempt) : Prop where
  mem : best ∈ made
  reported : ∀ attempt ∈ made, attempt.success → best.success
  distance : call.flags.preferNearestSuccess → best.success →
    bestSeedDistance = squaredDistance best.q call.seed
  nearest : call.flags.preferNearestSuccess → best.success →
    Cheapest (fun attempt => squaredDistance attempt.q call.seed) 1e-12 Attempt.success made best

theorem slack_nonneg : (0 : ℝ) ≤ 1e-12 := by norm_num

/-- A successful attempt that is preferred. -/
theorem Chosen.replace (chosen : Chosen call best bestSeedDistance made) (success : candidate.success)
    (nearest : call.flags.preferNearestSuccess) (preferred : Preferred call best bestSeedDistance candidate) :
    Chosen call candidate (squaredDistance candidate.q call.seed) (made ++ [candidate]) where
  mem := List.mem_append_right _ List.mem_cons_self
  reported _ _ _ := success
  distance _ _ := rfl
  nearest _ _ := by
    by_cases known : best.success
    · refine (chosen.nearest nearest known).replace slack_nonneg ?_
      have distance := chosen.distance nearest known
      rcases preferred with failed | nearer | ⟨⟨value, same, tie⟩, -⟩
      · exact absurd known failed
      · rw [distance, WithTop.coe_lt_coe] at nearer
        linarith [slack_nonneg]
      · rw [distance, WithTop.coe_inj] at same
        rw [same]
        linarith [(abs_lt.mp tie).2]
    · exact .first (fun attempt member succeeded => known (chosen.reported attempt member succeeded)) slack_nonneg

/-- A successful attempt that is not preferred. -/
theorem Chosen.keep (chosen : Chosen call best bestSeedDistance made) (nearest : call.flags.preferNearestSuccess)
    (kept : ¬Preferred call best bestSeedDistance candidate) :
    Chosen call best bestSeedDistance (made ++ [candidate]) := by
  obtain ⟨known, others⟩ := not_or.mp kept
  have known := not_not.mp known
  refine ⟨List.mem_append_left _ chosen.mem, fun _ _ _ => known, chosen.distance, fun _ _ => ?_⟩
  refine (chosen.nearest nearest known).keep slack_nonneg fun _ => ?_
  have further := (not_or.mp others).1
  rw [chosen.distance nearest known, WithTop.coe_lt_coe] at further
  exact not_lt.mp further

/-- An attempt with a smaller error, while nothing has succeeded. -/
theorem Chosen.replaceFailed (chosen : Chosen call best bestSeedDistance made) (failed : ¬best.success)
    (uncompared : ¬(candidate.success ∧ call.flags.preferNearestSuccess)) :
    Chosen call candidate bestSeedDistance (made ++ [candidate]) where
  mem := List.mem_append_right _ List.mem_cons_self
  reported attempt member success := by
    rcases List.mem_append.mp member with member | last
    · exact absurd (chosen.reported attempt member success) failed
    · rwa [List.mem_singleton.mp last] at success
  distance nearest success := absurd ⟨success, nearest⟩ uncompared
  nearest nearest success := absurd ⟨success, nearest⟩ uncompared

/-- An attempt that changes nothing: a success has a smaller error than every failure. -/
theorem Chosen.keepFailed (chosen : Chosen call best bestSeedDistance made)
    (uncompared : ¬(candidate.success ∧ call.flags.preferNearestSuccess))
    (smaller : candidate.success → ¬best.success → candidate.error < best.error)
    (kept : ¬(¬best.success ∧ candidate.error < best.error)) :
    Chosen call best bestSeedDistance (made ++ [candidate]) where
  mem := List.mem_append_left _ chosen.mem
  reported attempt member success := by
    rcases List.mem_append.mp member with member | last
    · exact chosen.reported attempt member success
    · rw [List.mem_singleton.mp last] at success
      by_contra failed
      exact kept ⟨failed, smaller success failed⟩
  distance := chosen.distance
  nearest nearest known :=
    (chosen.nearest nearest known).keep slack_nonneg fun success => absurd ⟨success, nearest⟩ uncompared

/-- What holds of the selection between two attempts. -/
structure Selection.Valid (call : IkCall) (selection : Selection) : Prop where
  sound : ∀ attempt ∈ selection.made, ∃ start, (start = call.seed ∨ InLimits call.side start) ∧ Sound call start attempt
  recorded : Recorded call selection.candidates selection.made
  chosen : Chosen call selection.best selection.bestSeedDistance selection.made

/-- An attempt keeps the selection valid. -/
theorem attemptFrom_valid (regular : call.flags.regularizeToSeed = false) (inside : InLimits call.side q)
    (valid : selection.Valid call) :
    (attemptFrom call call.flags.preferNearestSuccess q selection).Valid call := by
  have sound := solve_sound call q selection.clock
  have smaller : (solve call q selection.clock).1.success → ¬selection.best.success →
      (solve call q selection.clock).1.error < selection.best.error := by
    intro success failed
    obtain ⟨start, -, known⟩ := valid.sound _ valid.chosen.mem
    exact (sound.below regular success).trans_le (known.above regular failed)
  have sounds : ∀ attempt ∈ selection.made ++ [(solve call q selection.clock).1],
      ∃ start, (start = call.seed ∨ InLimits call.side start) ∧ Sound call start attempt := by
    intro attempt member
    rcases List.mem_append.mp member with member | last
    · exact valid.sound attempt member
    · rw [List.mem_singleton.mp last]
      exact ⟨q, .inr inside, sound⟩
  have recorded := valid.recorded.append (solve call q selection.clock).1
  unfold attemptFrom
  simp only
  split_ifs with compared preferred better
  · exact ⟨sounds, recorded, valid.chosen.replace compared.1 compared.2 preferred⟩
  · exact ⟨sounds, recorded, valid.chosen.keep compared.2 preferred⟩
  · exact ⟨sounds, recorded, valid.chosen.replaceFailed better.1 compared⟩
  · exact ⟨sounds, recorded, valid.chosen.keepFailed compared smaller better⟩

theorem fallbackLoop_valid (regular : call.flags.regularizeToSeed = false)
    (nearest : call.flags.preferNearestSuccess = true) {seeds : List Configuration}
    (inside : ∀ fallback ∈ seeds, InLimits call.side fallback) (valid : selection.Valid call) :
    (fallbackLoop call seeds selection).Valid call := by
  induction seeds generalizing selection with
  | nil => exact valid
  | cons fallback rest ih =>
    have rest_inside := fun other member => inside other (List.mem_cons_of_mem _ member)
    unfold fallbackLoop
    split_ifs
    · exact valid
    · exact ih rest_inside valid
    · refine ih rest_inside ?_
      rw [← nearest]
      exact attemptFrom_valid regular (inside fallback List.mem_cons_self) valid

theorem randomLoop_valid (regular : call.flags.allowRandomRetries → call.flags.regularizeToSeed = false)
    {global : Bool} {deterministic : Prop} {left retry : ℕ} (valid : selection.Valid call) :
    (randomLoop call global deterministic left retry selection).Valid call := by
  induction left generalizing retry selection with
  | zero => exact valid
  | succ left ih =>
    unfold randomLoop
    split_ifs with goes
    · exact ih (attemptFrom_valid (regular goes.1) (call.randomQ_inLimits retry) valid)
    · exact valid

theorem seedSelection_valid : (seedSelection call).Valid call := by
  have sound := solve_sound call call.seed {}
  refine ⟨fun attempt member => ?_, Recorded.nil.append _, ?_⟩
  · rw [List.mem_singleton.mp member]
    exact ⟨call.seed, .inl rfl, sound⟩
  · refine ⟨List.mem_cons_self, fun attempt member success => ?_, fun _ success => if_pos success, fun _ _ => ?_⟩
    · rwa [List.mem_singleton.mp member] at success
    · have none : ∀ attempt ∈ ([] : List Attempt), ¬attempt.success := fun _ member => absurd member List.not_mem_nil
      exact Cheapest.first none slack_nonneg

/-- The selection of a call of a public entry point. -/
theorem select_valid (entry : call.flags.Public call.side) : (select call).Valid call := by
  unfold select
  simp only
  refine randomLoop_valid entry.regular ?_
  split
  · next seeds given =>
    obtain ⟨nearest, regular, rfl⟩ := entry.fallback given
    split_ifs
    · exact fallbackLoop_valid regular nearest (fun _ => fallbackIkSeeds_inLimits) seedSelection_valid
    · exact seedSelection_valid
  · exact seedSelection_valid

/-! ## The result -/

/-- What a result says of the attempts that were made. -/
structure Selected (call : IkCall) (made : List Attempt) (result : IkResult) : Prop where
  meets : result.success → MeetsTolerance call (call.kinematics.residual result.q)
  place : result.success → result.q = call.seed ∨ InLimits call.side result.q
  chosen : ∃ attempt ∈ made, attempt.q = result.q ∧ (attempt.success ↔ result.success)
  reported : (∃ attempt ∈ made, attempt.success) → result.success
  nearest : call.flags.preferNearestSuccess → result.success → ∀ attempt ∈ made, attempt.success →
    squaredDistance result.q call.seed ≤ squaredDistance attempt.q call.seed + made.length * 1e-12
  sorted : result.candidates.Pairwise fun a b => squaredDistance a call.seed ≤ squaredDistance b call.seed
  apart : result.candidates.Pairwise fun a b => 1e-10 < squaredDistance a b
  covered : call.flags.successfulCandidates → ∀ attempt ∈ made, attempt.success →
    ∃ candidate ∈ result.candidates, squaredDistance candidate attempt.q ≤ 1e-10
  nonempty : call.flags.successfulCandidates → (result.candidates ≠ [] ↔ result.success)

theorem sortCandidates_perm (candidates : List Configuration) : (sortCandidates call candidates).Perm candidates :=
  List.mergeSort_perm _ _

theorem sortCandidates_sorted (candidates : List Configuration) : (sortCandidates call candidates).Pairwise
    fun a b => squaredDistance a call.seed ≤ squaredDistance b call.seed := by
  have sorted : (sortCandidates call candidates).Pairwise fun a b =>
      decide (squaredDistance a call.seed ≤ squaredDistance b call.seed) = true :=
    List.pairwise_mergeSort
      (fun _ _ _ first second => decide_eq_true ((of_decide_eq_true first).trans (of_decide_eq_true second)))
      (fun _ _ => by simpa using le_total _ _) candidates
  exact sorted.imp of_decide_eq_true

/-- The candidates of a valid selection, sorted. -/
theorem Selection.Valid.selected (valid : selection.Valid call) : Selected call selection.made
    { success := selection.best.success
      iterations := selection.best.iterations
      errorNorm := selection.best.error
      q := selection.best.q
      candidates :=
        if call.flags.successfulCandidates then sortCandidates call selection.candidates else [] } := by
  obtain ⟨start, inside, sound⟩ := valid.sound _ valid.chosen.mem
  have apart : (sortCandidates call selection.candidates).Pairwise fun a b => ¬Duplicate a b := by
    refine (sortCandidates_perm _).symm.pairwise valid.recorded.apart fun different near => different ?_
    rwa [Duplicate, squaredDistance_comm]
  refine ⟨sound.meets, fun _ => ?_, ⟨_, valid.chosen.mem, rfl, Iff.rfl⟩, ?_, valid.chosen.nearest, ?_, ?_,
    fun collect => ?_, fun collect => ?_⟩
  · rcases sound.place with same | between
    · rw [same]
      exact inside
    · exact .inr between
  · rintro ⟨attempt, member, success⟩
    exact valid.chosen.reported attempt member success
  · split_ifs
    · exact sortCandidates_sorted _
    · exact .nil
  · split_ifs
    · exact apart.imp not_le.mp
    · exact .nil
  · rw [if_pos collect]
    intro attempt member success
    obtain ⟨candidate, kept, near⟩ := valid.recorded.covered collect attempt member success
    exact ⟨candidate, (sortCandidates_perm _).mem_iff.mpr kept, near⟩
  · rw [if_pos collect]
    constructor
    · intro nonempty
      by_contra failed
      have empty := valid.recorded.none fun attempt member success =>
        failed (valid.chosen.reported attempt member success)
      rw [empty] at nonempty
      exact nonempty (sortCandidates_perm []).eq_nil
    · intro success
      obtain ⟨candidate, kept, -⟩ := valid.recorded.covered collect _ valid.chosen.mem success
      exact List.ne_nil_of_mem ((sortCandidates_perm _).mem_iff.mpr kept)

/-- Every result of a public entry point is selected from its attempts, and a call that runs out of time has made no
successful one. -/
theorem ik_selection (call : IkCall) (entry : call.flags.Public call.side) :
    (∀ result, ikImpl call = .ok result → Selected call (select call).made result) ∧
      (ikImpl call = .error "IK time budget exceeded without a converged solution" →
        ∀ attempt ∈ (select call).made, ¬attempt.success) := by
  have valid := select_valid entry
  unfold ikImpl
  simp only
  by_cases large : 1000000 < (IkOptions.resolve call.options).maxIterations ∨
      1000 < (IkOptions.resolve call.options).maxRetries
  · rw [if_pos large]
    exact ⟨nofun, fun other => absurd (Except.error.inj other) (by decide)⟩
  rw [if_neg large]
  by_cases late : (select call).clock.deadlineExpired ∧ ¬(select call).best.success ∧
      ¬call.flags.successfulCandidates
  · rw [if_pos late]
    refine ⟨nofun, fun _ attempt member success => ?_⟩
    exact late.2.1 (valid.chosen.reported attempt member success)
  · rw [if_neg late]
    refine ⟨fun result returned => ?_, nofun⟩
    cases returned
    exact valid.selected

end Selections

/-! ## The attempts of a call in time -/

section InTime

variable {call : IkCall} {q : Configuration} {selection : Selection} {seeds : List Configuration}

/-- No reading of the clock finds the deadline. -/
def IkCall.InTime (call : IkCall) : Prop := ∀ late ∈ call.flags.deadline, ∀ reading, late reading = false

theorem checkDeadline_inTime (inTime : call.InTime) (clock : Clock) :
    (checkDeadline call clock).deadlineExpired = clock.deadlineExpired := by
  unfold checkDeadline
  split
  · next late given => simp [inTime late given]
  · rfl

theorem lineSearch_inTime (inTime : call.InTime) {delta : Configuration} {error : WithTop ℝ} (lines : ℕ) (alpha : ℝ)
    (clock : Clock) : (lineSearch call q delta error lines alpha clock).2.deadlineExpired = clock.deadlineExpired := by
  induction lines generalizing alpha clock with
  | zero => rfl
  | succ lines ih =>
    unfold lineSearch
    simp only
    split_ifs
    · exact checkDeadline_inTime inTime clock
    · exact checkDeadline_inTime inTime clock
    · exact (ih _ _).trans (checkDeadline_inTime inTime clock)

theorem iterate_inTime (inTime : call.InTime) (left iteration : ℕ) (attempt : Attempt) (clock : Clock) :
    (iterate call left iteration attempt clock).2.1.deadlineExpired = clock.deadlineExpired := by
  induction left generalizing iteration attempt clock with
  | zero => rfl
  | succ left ih =>
    have checked := checkDeadline_inTime inTime clock
    unfold iterate
    simp only
    by_cases expired : (checkDeadline call clock).deadlineExpired
    · rw [if_pos expired]
      exact checked
    rw [if_neg expired]
    by_cases success : (updateError call { attempt with iterations := iteration }).success
    · rw [if_pos success]
      exact checked
    rw [if_neg success]
    split
    · next candidate clock' found =>
      have searched := congrArg (fun result => result.2.deadlineExpired) found
      exact (ih _ _ _).trans (searched.symm.trans ((lineSearch_inTime inTime _ _ _).trans checked))
    · next clock' found =>
      have searched := congrArg (fun result => result.2.deadlineExpired) found
      exact searched.symm.trans ((lineSearch_inTime inTime _ _ _).trans checked)

theorem solve_inTime (inTime : call.InTime) (q : Configuration) (clock : Clock) :
    (solve call q clock).2.deadlineExpired = clock.deadlineExpired := by
  have iterated := iterate_inTime inTime (IkOptions.resolve call.options).maxIterations 0 ⟨q, ⊤, 0, False⟩ clock
  unfold solve
  simp only
  split_ifs
  · exact iterated
  · exact iterated
  · exact iterated

theorem attemptFrom_made (nearest : Bool) (q : Configuration) (selection : Selection) :
    (attemptFrom call nearest q selection).made = selection.made ++ [(solve call q selection.clock).1] ∧
      (attemptFrom call nearest q selection).clock = (solve call q selection.clock).2 := by
  unfold attemptFrom
  simp only
  split_ifs <;> exact ⟨rfl, rfl⟩

theorem fallbackLoop_subset (seeds : List Configuration) (selection : Selection) :
    selection.made ⊆ (fallbackLoop call seeds selection).made := by
  induction seeds generalizing selection with
  | nil => exact List.Subset.refl _
  | cons fallback rest ih =>
    unfold fallbackLoop
    split_ifs
    · exact List.Subset.refl _
    · exact ih _
    · refine List.Subset.trans ?_ (ih _)
      rw [(attemptFrom_made true fallback selection).1]
      exact List.subset_append_left _ _

theorem randomLoop_subset (global : Bool) (deterministic : Prop) (left retry : ℕ) (selection : Selection) :
    selection.made ⊆ (randomLoop call global deterministic left retry selection).made := by
  induction left generalizing retry selection with
  | zero => exact List.Subset.refl _
  | succ left ih =>
    unfold randomLoop
    split_ifs
    · refine List.Subset.trans ?_ (ih _ _)
      rw [(attemptFrom_made call.flags.preferNearestSuccess (call.randomQ retry) selection).1]
      exact List.subset_append_left _ _
    · exact List.Subset.refl _

/-- Every fallback seed apart from the caller's seed is tried. -/
theorem fallbackLoop_mem (inTime : call.InTime) (open' : selection.clock.deadlineExpired = false)
    {fallback : Configuration} (member : fallback ∈ seeds) (apart : ¬squaredDistance fallback call.seed ≤ 1e-24) :
    ∃ clock, clock.deadlineExpired = false ∧ (solve call fallback clock).1 ∈ (fallbackLoop call seeds selection).made := by
  induction seeds generalizing selection with
  | nil => cases member
  | cons first rest ih =>
    unfold fallbackLoop
    rw [if_neg (by rw [open']; exact Bool.false_ne_true)]
    rcases List.mem_cons.mp member with rfl | later
    · rw [if_neg apart]
      refine ⟨selection.clock, open', fallbackLoop_subset rest _ ?_⟩
      rw [(attemptFrom_made true fallback selection).1]
      exact List.mem_append_right _ (List.mem_singleton_self _)
    · split_ifs
      · exact ih open' later
      · refine ih ?_ later
        rw [(attemptFrom_made true first selection).2, solve_inTime inTime, open']

/-- A call whose seed fails tries every fallback seed apart from it. -/
theorem select_mem (inTime : call.InTime) (failed : ¬(solve call call.seed {}).1.success)
    (given : call.flags.fallbackSeeds = some seeds) {fallback : Configuration} (member : fallback ∈ seeds)
    (apart : ¬squaredDistance fallback call.seed ≤ 1e-24) :
    ∃ clock, clock.deadlineExpired = false ∧ (solve call fallback clock).1 ∈ (select call).made := by
  have open' : (seedSelection call).clock.deadlineExpired = false := solve_inTime inTime call.seed {}
  obtain ⟨clock, time, tried⟩ := fallbackLoop_mem inTime open' member apart
  refine ⟨clock, time, ?_⟩
  unfold select
  simp only [given]
  rw [if_pos (.inl failed)]
  exact randomLoop_subset _ _ _ _ _ tried

theorem seed_mem (call : IkCall) : (solve call call.seed {}).1 ∈ (select call).made := by
  have first : (solve call call.seed {}).1 ∈ (seedSelection call).made := List.mem_singleton_self _
  unfold select
  simp only
  refine randomLoop_subset _ _ _ _ _ ?_
  split
  · split_ifs
    · exact fallbackLoop_subset _ _ first
    · exact first
  · exact first

end InTime

/-! ## A call with fallbacks -/

/-- An error that depends on the elbow, with its damped step.  There is no step where the elbow is straight. -/
def elbowKinematics : Kinematics where
  residual q := Function.update 0 0 (1.75 - q 3 ^ 2)
  delta stepSize damping _ q error := Function.update 0 3
    (stepSize * (2 * q 3 / ((2 * q 3) ^ 2 + damping * max 1 (error * 10))) * (1.75 - q 3 ^ 2))
  integrate q delta := q + delta

/-- A call with a straight elbow. -/
def callStraight : IkCall where
  kinematics := elbowKinematics
  side := .left
  seed := 0
  options := some ⟨100, 4, 1, 0, 0⟩
  flags := ikEndpointCandidatesUntil .left fun _ => false
  randomQ _ := clampToLimits .left 0
  randomQ_inLimits _ := clampToLimits_inLimits _ _

theorem inTime_straight : callStraight.InTime := by
  rintro late given reading
  cases given
  rfl

theorem clampToLimits_of_inLimits {side : Side} {q : Configuration} (inside : InLimits side q) :
    clampToLimits side q = q :=
  funext fun joint => (congrArg (min · _) (max_eq_left (inside joint).1)).trans (min_eq_left (inside joint).2)

theorem inLimits_zero : InLimits .left 0 := by
  intro joint
  fin_cases joint <;> norm_num [lowerPositionLimit, upperPositionLimit]

/-- The first fallback seed: the elbow is bent. -/
def bentElbow : Configuration := Function.update 0 3 1.57079632679489661923

theorem bentElbow_elbow : bentElbow 3 = 1.57079632679489661923 := Function.update_self ..

theorem bentElbow_mem : bentElbow ∈ fallbackIkSeeds .left := by
  have inside : InLimits .left bentElbow := by
    intro joint
    by_cases elbow : joint = 3
    · subst elbow
      rw [bentElbow_elbow, show lowerPositionLimit .left 3 = -0.1744 from rfl,
        show upperPositionLimit .left 3 = 2.2678 from rfl]
      norm_num
    · rw [bentElbow, Function.update_of_ne elbow]
      exact inLimits_zero joint
  have first : clampToLimits .left bentElbow ∈ fallbackIkSeeds .left := List.mem_cons_self ..
  rwa [clampToLimits_of_inLimits inside] at first

/-- The third fallback seed: the middle of the limits. -/
def middleOfLimits : Configuration := fun joint =>
  0.5 * (lowerPositionLimit .left joint + upperPositionLimit .left joint)

theorem middleOfLimits_elbow : middleOfLimits 3 = 1.0467 := by
  rw [middleOfLimits, show lowerPositionLimit .left 3 = -0.1744 from rfl, show upperPositionLimit .left 3 = 2.2678 from rfl]
  norm_num

theorem middleOfLimits_mem : middleOfLimits ∈ fallbackIkSeeds .left :=
  List.mem_cons_of_mem _ (List.mem_cons_of_mem _ List.mem_cons_self)

theorem meets_straight (q : Configuration) :
    MeetsTolerance callStraight (callStraight.kinematics.residual q) ↔ |1.75 - q 3 ^ 2| < 1 := by
  have error : residualError callStraight (callStraight.kinematics.residual q) = |1.75 - q 3 ^ 2| := by
    rw [← Real.sqrt_sq_eq_abs]
    simp [residualError, callStraight, ikEndpointCandidatesUntil, elbowKinematics, Function.update]
  have tolerance : (IkOptions.resolve callStraight.options).tolerance = 1 := by
    norm_num [callStraight, IkOptions.resolve]
  rw [meetsTolerance_iff rfl, error, tolerance]

/-- The attempt from the seed fails. -/
theorem solve_straight : ¬(solve callStraight callStraight.seed {}).1.success := by
  intro success
  have stays (alpha : ℝ) : clampToLimits callStraight.side (callStraight.kinematics.integrate callStraight.seed
      (alpha • callStraight.step callStraight.seed)) = callStraight.seed := by
    have still : callStraight.step callStraight.seed = 0 := by
      simp [IkCall.step, callStraight, elbowKinematics]
    rw [still, smul_zero]
    exact (congrArg (clampToLimits .left) (add_zero 0)).trans (clampToLimits_of_inLimits inLimits_zero)
  have meets := (solve_sound callStraight callStraight.seed {}).meets success
  rw [solve_stuck stays, meets_straight] at meets
  norm_num [callStraight] at meets

/-- A fallback seed that meets the tolerance is tried and succeeds. -/
theorem tried_straight {fallback : Configuration} (member : fallback ∈ fallbackIkSeeds .left) (bent : 1 ≤ fallback 3)
    (near : |1.75 - fallback 3 ^ 2| < 1) :
    ∃ attempt ∈ (select callStraight).made, attempt.success ∧ attempt.q = fallback := by
  have apart : ¬squaredDistance fallback callStraight.seed ≤ 1e-24 := by
    have elbow : (fallback 3 - callStraight.seed 3) ^ 2 ≤ squaredDistance fallback callStraight.seed :=
      Finset.single_le_sum (f := fun joint => (fallback joint - callStraight.seed joint) ^ 2) (fun _ _ => sq_nonneg _)
        (Finset.mem_univ 3)
    have far : 1 ≤ (fallback 3 - callStraight.seed 3) ^ 2 := by
      rw [show callStraight.seed 3 = 0 from rfl, sub_zero]
      nlinarith
    norm_num
    linarith
  obtain ⟨clock, time, tried⟩ := select_mem inTime_straight solve_straight rfl member apart
  have meets := (meets_straight fallback).mpr near
  rw [solve_met meets ((checkDeadline_inTime inTime_straight clock).trans time)] at tried
  exact ⟨_, tried, meets, rfl⟩

theorem squaredDistance_middle_lt : squaredDistance middleOfLimits 0 < squaredDistance bentElbow 0 := by
  have bent : (2.4 : ℝ) < squaredDistance bentElbow 0 := by
    have elbow : (bentElbow 3 - 0) ^ 2 ≤ squaredDistance bentElbow 0 :=
      Finset.single_le_sum (f := fun joint => (bentElbow joint - 0) ^ 2) (fun _ _ => sq_nonneg _) (Finset.mem_univ 3)
    rw [bentElbow_elbow] at elbow
    norm_num at elbow ⊢
    linarith
  have middle : squaredDistance middleOfLimits 0 = 0.95945 ^ 2 + 1.0467 ^ 2 := by
    norm_num [squaredDistance, Fin.sum_univ_succ, middleOfLimits, lowerPositionLimit, upperPositionLimit]
  rw [middle]
  norm_num at bent ⊢
  linarith

/-- The seed fails, and of the fallback seeds the bent elbow and the middle of the limits succeed, the middle nearer to
the seed. -/
theorem ik_selection_straight : ∃ result, ikImpl callStraight = .ok result ∧ result.success ∧
    Selected callStraight (select callStraight).made result ∧
    ∃ first ∈ (select callStraight).made, ∃ bent ∈ (select callStraight).made, ∃ middle ∈ (select callStraight).made,
      ¬first.success ∧ bent.success ∧ middle.success ∧
        squaredDistance middle.q callStraight.seed < squaredDistance bent.q callStraight.seed := by
  obtain ⟨bent, triedBent, bentMeets, atBent⟩ := tried_straight bentElbow_mem
    (by rw [bentElbow_elbow]; norm_num) (by rw [bentElbow_elbow, abs_lt]; norm_num)
  obtain ⟨middle, triedMiddle, middleMeets, atMiddle⟩ := tried_straight middleOfLimits_mem
    (by rw [middleOfLimits_elbow]; norm_num) (by rw [middleOfLimits_elbow, abs_lt]; norm_num)
  have returned : ∃ result, ikImpl callStraight = .ok result := by
    have counts : ¬(1000000 < (IkOptions.resolve callStraight.options).maxIterations ∨
        1000 < (IkOptions.resolve callStraight.options).maxRetries) := by
      norm_num [callStraight, IkOptions.resolve]
    unfold ikImpl
    simp only
    rw [if_neg counts, if_neg fun late => late.2.2 rfl]
    exact ⟨_, rfl⟩
  obtain ⟨result, returned⟩ := returned
  have selected := (ik_selection callStraight (.endpointCandidatesUntil _)).1 result returned
  refine ⟨result, returned, selected.reported ⟨bent, triedBent, bentMeets⟩, selected, _, seed_mem callStraight, bent,
    triedBent, middle, triedMiddle, solve_straight, bentMeets, middleMeets, ?_⟩
  rw [atBent, atMiddle]
  exact squaredDistance_middle_lt

end

end MotorDrive.Cartesian
