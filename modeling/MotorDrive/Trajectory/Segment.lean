import MotorDrive.Library.Numerals

/-!
# Segments of a trajectory

`runtime_trajectory.cpp`: the polynomial segments, the root isolation and `validate_segment_extrema`.
Numbers are those of an ordered field, so every input is finite and arithmetic is exact.

A segment is rejected when a candidate point of the position, the velocity or the acceleration lies
outside the limits of a joint: the ends of the segment and the roots of the derivative.
-/

namespace MotorDrive.Trajectory

/-- A motor of the backend. -/
abbrev Motor := ℕ

variable {K : Type} [Field K] [LinearOrder K]

/-- `kPolynomialTolerance`. -/
def polynomialTolerance : K := 1 / 10 ^ 10

/-- `kLimitTolerance`. -/
def limitTolerance : K := 1 / 10 ^ 6

/-! ## Polynomials -/

/-- The coefficients of a polynomial, constant term first. -/
abbrev Polynomial (K : Type) := List K

/-- `evaluate`, by the scheme of Horner. -/
def evaluate (coefficients : Polynomial K) (x : K) : K :=
  coefficients.foldr (fun c result => result * x + c) 0

/-- `derivative`. -/
def derivative (coefficients : Polynomial K) : Polynomial K :=
  if coefficients.length ≤ 1 then [0]
  else coefficients.tail.mapIdx fun i c => (i + 1 : ℕ) * c

/-- `append_unique`: a root of the unit interval that is not within `1e-8` of a known one. -/
def appendUnique (roots : List K) (value : K) : List K :=
  if value < -polynomialTolerance ∨ 1 + polynomialTolerance < value then roots
  else if roots.any fun existing => |existing - max 0 (min value 1)| ≤ 1 / 10 ^ 8 then roots
  else roots ++ [max 0 (min value 1)]

/-- The coefficients without the small leading ones; the constant term always stays. -/
def trim (coefficients : Polynomial K) : Polynomial K :=
  match coefficients with
  | [] => []
  | c :: rest => c :: rest.rdropWhile fun c => |c| ≤ polynomialTolerance

/-- The bisection of `roots_on_unit_interval`: the bracket that is left after some rounds. -/
def bisect (coefficients : Polynomial K) : ℕ → K → K → K → K × K
  | 0, lower, upper, _ => (lower, upper)
  | rounds + 1, lower, upper, lowerValue =>
    let middle := (lower + upper) / 2
    let middleValue := evaluate coefficients middle
    if |middleValue| ≤ 1 / 10 ^ 13 then (middle, middle)
    else if (lowerValue < 0) = (middleValue < 0) then bisect coefficients rounds middle upper middleValue
    else bisect coefficients rounds lower middle lowerValue

/-- The boundaries at which the polynomial almost vanishes. -/
def boundaryRoots (coefficients : Polynomial K) (boundaries : List K) : List K :=
  boundaries.foldl (fun roots point =>
    if |evaluate coefficients point| ≤ 1 / 10 ^ 9 then appendUnique roots point else roots) []

/-- The root between two boundaries at which the polynomial has opposite signs. -/
def bracketRoot (coefficients : Polynomial K) (roots : List K) (lower upper : K) : List K :=
  let lowerValue := evaluate coefficients lower
  let upperValue := evaluate coefficients upper
  if lowerValue = 0 ∨ upperValue = 0 ∨ (lowerValue < 0) = (upperValue < 0) then roots
  else
    let bracket := bisect coefficients 80 lower upper lowerValue
    appendUnique roots ((bracket.1 + bracket.2) / 2)

/-- The roots between consecutive boundaries. -/
def bracketRoots (coefficients : Polynomial K) : List K → List K → List K
  | roots, lower :: upper :: boundaries =>
    bracketRoots coefficients (bracketRoot coefficients roots lower upper) (upper :: boundaries)
  | roots, _ => roots

/-- One call of `roots_on_unit_interval`, with what its recursive call answers.  An empty list, which no caller passes,
has no roots here. -/
def rootsBody (recurse : Polynomial K → List K) (coefficients : Polynomial K) : List K :=
  match trim coefficients with
  | [] => []
  | [_] => []
  | [c₀, c₁] => appendUnique [] (-c₀ / c₁)
  | c₀ :: c₁ :: c₂ :: rest =>
    let trimmed := c₀ :: c₁ :: c₂ :: rest
    let critical := (recurse (derivative trimmed)).insertionSort (· ≤ ·)
    let boundaries := 0 :: (critical ++ [1])
    (bracketRoots trimmed (boundaryRoots trimmed boundaries) boundaries).insertionSort (· ≤ ·)

/-- `roots_on_unit_interval` with a bound on the depth of its recursion. -/
def rootsWithin : ℕ → Polynomial K → List K
  | 0, _ => []
  | depth + 1, coefficients => rootsBody (rootsWithin depth) coefficients

/-- `roots_on_unit_interval`: every level of the recursion has fewer coefficients. -/
def rootsOnUnitInterval (coefficients : Polynomial K) : List K :=
  rootsWithin coefficients.length coefficients

/-! ## Segments -/

/-- What the plan knows of a joint. -/
structure TrajectoryJoint (K : Type) where
  role : String
  motor : Motor
  direction : K
  velocityCommandScale : K
  velocityFeedbackScale : K
  torqueCommandScale : K
  lowerPosition : K
  upperPosition : K
  velocityLimit : K
  accelerationLimit : K
  torqueLimit : K
  mitKp : K
  mitKd : K
  mitFeedforwardTorque : K
  pvVelocityLimit : K
  pvHoldVelocityLimit : K

/-- `joint_role`. -/
def TrajectoryJoint.label (joint : TrajectoryJoint K) : String :=
  if joint.role = "" then "unknown product joint" else joint.role

/-- The six coefficients of one joint on a segment. -/
structure Coefficients (K : Type) where
  c₀ : K
  c₁ : K
  c₂ : K
  c₃ : K
  c₄ : K
  c₅ : K
  deriving DecidableEq, Repr

/-- `as_polynomial`. -/
def Coefficients.asPolynomial (c : Coefficients K) : Polynomial K := [c.c₀, c.c₁, c.c₂, c.c₃, c.c₄, c.c₅]

/-- `quintic_coefficients`. -/
def quinticCoefficients (p₀ v₀ a₀ p₁ v₁ a₁ duration : K) : Coefficients K :=
  let c₀ := p₀
  let c₁ := v₀ * duration
  let c₂ := 1 / 2 * a₀ * duration * duration
  let deltaPosition := p₁ - (c₀ + c₁ + c₂)
  let deltaVelocity := v₁ * duration - (c₁ + 2 * c₂)
  let deltaAcceleration := a₁ * duration * duration - 2 * c₂
  ⟨c₀, c₁, c₂,
    10 * deltaPosition - 4 * deltaVelocity + 1 / 2 * deltaAcceleration,
    -15 * deltaPosition + 7 * deltaVelocity - deltaAcceleration,
    6 * deltaPosition - 3 * deltaVelocity + 1 / 2 * deltaAcceleration⟩

/-- `sampled_pv_coefficients`. -/
def sampledPvCoefficients (p₀ p₁ : K) : Coefficients K := ⟨p₀, p₁ - p₀, 0, 0, 0, 0⟩

/-- `sample_polynomial`. -/
def Coefficients.sample (c : Coefficients K) (u : K) : K := evaluate c.asPolynomial u

/-- `sample_velocity`. -/
def Coefficients.sampleVelocity (c : Coefficients K) (u duration : K) : K :=
  evaluate (derivative c.asPolynomial) u / duration

/-- `sample_acceleration`. -/
def Coefficients.sampleAcceleration (c : Coefficients K) (u duration : K) : K :=
  evaluate (derivative (derivative c.asPolynomial)) u / (duration * duration)

/-- The direction in which an out-of-limit start recovers. -/
inductive Recovery
  | none | upward | downward
  deriving DecidableEq, Repr

/-- Why a segment is rejected. -/
inductive SegmentError (K : Type)
  | expandsRecovery (segment : ℕ) (role : String) (position lower upper : K)
  | position (segment : ℕ) (role : String) (position lower upper : K)
  | velocity (segment : ℕ) (role : String) (velocity limit : K)
  | pvVelocity (segment : ℕ) (role : String) (velocity limit : K)
  | acceleration (segment : ℕ) (role : String) (acceleration limit : K)
  deriving DecidableEq, Repr

/-- The ends of a segment and the roots of the derivative. -/
def candidates (derivative : Polynomial K) : List K := 0 :: 1 :: rootsOnUnitInterval derivative

section Validate

variable (duration : K) (segment : ℕ) (joint : TrajectoryJoint K) (coefficients : Coefficients K)
  (recovery : Recovery)

def recoveringBelow : Bool := recovery = .upward && coefficients.sample 0 < joint.lowerPosition

def recoveringAbove : Bool := recovery = .downward && joint.upperPosition < coefficients.sample 0

def allowedLower : K :=
  if recoveringBelow joint coefficients recovery then coefficients.sample 0 else joint.lowerPosition

def allowedUpper : K :=
  if recoveringAbove joint coefficients recovery then coefficients.sample 0 else joint.upperPosition

/-- The position test at one candidate. -/
def checkPosition (u : K) : Except (SegmentError K) Unit :=
  let value := coefficients.sample u
  let lower := allowedLower joint coefficients recovery
  let upper := allowedUpper joint coefficients recovery
  if value < lower - limitTolerance ∨ upper + limitTolerance < value then
    if recoveringBelow joint coefficients recovery || recoveringAbove joint coefficients recovery then
      .error (.expandsRecovery (segment + 1) joint.label value lower upper)
    else .error (.position (segment + 1) joint.label value lower upper)
  else .ok ()

/-- The velocity test at one candidate. -/
def checkVelocity (u : K) : Except (SegmentError K) Unit :=
  let value := coefficients.sampleVelocity u duration
  if joint.velocityLimit + limitTolerance < |value| then
    .error (.velocity (segment + 1) joint.label value joint.velocityLimit)
  else if 0 < joint.pvVelocityLimit ∧ joint.pvVelocityLimit + limitTolerance < |value| then
    .error (.pvVelocity (segment + 1) joint.label value joint.pvVelocityLimit)
  else .ok ()

/-- The acceleration test at one candidate. -/
def checkAcceleration (u : K) : Except (SegmentError K) Unit :=
  let value := coefficients.sampleAcceleration u duration
  if joint.accelerationLimit + limitTolerance < |value| then
    .error (.acceleration (segment + 1) joint.label value joint.accelerationLimit)
  else .ok ()

/-- The tests of one joint. -/
def validateJoint (validateVelocityAndAcceleration : Bool) : Except (SegmentError K) Unit := do
  let velocity := derivative coefficients.asPolynomial
  let acceleration := derivative velocity
  (candidates velocity).forM (checkPosition segment joint coefficients recovery)
  if validateVelocityAndAcceleration then
    (candidates acceleration).forM (checkVelocity duration segment joint coefficients)
    (candidates (derivative acceleration)).forM (checkAcceleration duration segment joint coefficients)

end Validate

/-- `validate_segment_extrema`, over the joints with their polynomials and recovery directions. -/
def validateSegmentExtrema (duration : K) (joints : List (TrajectoryJoint K × Coefficients K × Recovery))
    (segment : ℕ) (validateVelocityAndAcceleration : Bool) : Except (SegmentError K) Unit :=
  joints.forM fun (joint, coefficients, recovery) =>
    validateJoint duration segment joint coefficients recovery validateVelocityAndAcceleration

end MotorDrive.Trajectory
