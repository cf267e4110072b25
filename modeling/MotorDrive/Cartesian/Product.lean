import MotorDrive.Cartesian.Planner

/-!
# The product

The joint table of `configure_joint_table` in `yunyi_runtime.cpp` and the Cartesian speeds of the product.
-/

namespace MotorDrive.Cartesian

open Trajectory (Motor)

noncomputable section

/-- `kLower`. -/
def kLower : Side → Fin 7 → ℝ
  | .left => ![-2.745, -0.3489, -2.5294, -0.1744, -2.0933, -0.785, -1.3956]
  | .right => ![-2.745, -2.2678, -2.5294, -0.1744, -2.0933, -0.785, -1.3956]

/-- `kUpper`. -/
def kUpper : Side → Fin 7 → ℝ
  | .left => ![2.745, 2.2678, 2.5294, 2.2678, 2.0933, 0.785, 1.3956]
  | .right => ![2.745, 0.3489, 2.5294, 2.2678, 2.0933, 0.785, 1.3956]

/-- `kVelocityLimit`. -/
def kVelocityLimit : Fin 7 → ℝ := ![5.0, 5.0, 5.0, 5.0, 5.0, 5.0, 5.0]

/-- `kAccelerationLimit`. -/
def kAccelerationLimit : Fin 7 → ℝ := ![10.0, 10.0, 8.0, 8.0, 20.0, 20.0, 20.0]

/-- `kLogicalVelocityRange`. -/
def kLogicalVelocityRange : Side → Fin 7 → ℝ
  | .left => ![20.0, 20.0, 10.0, 10.0, 10.0, 10.0, 10.0]
  | .right => ![10.0, 10.0, 10.0, 10.0, 10.0, 10.0, 10.0]

/-- `kNativeVelocityRange`. -/
def kNativeVelocityRange : Fin 7 → ℝ := ![45.0, 45.0, 10.0, 10.0, 30.0, 30.0, 30.0]

/-- `kYunyiJointDirection`. -/
def yunyiJointDirection : Side → Fin 7 → ℝ
  | .left => ![1.0, 1.0, 1.0, -1.0, -1.0, 1.0, 1.0]
  | .right => ![-1.0, 1.0, 1.0, 1.0, -1.0, -1.0, 1.0]

/-- `kYunyiLogicalTorqueRange`. -/
def yunyiLogicalTorqueRange : Fin 7 → ℝ := ![40.0, 40.0, 27.0, 27.0, 7.0, 7.0, 7.0]

/-- `kYunyiNativeTorqueRange`. -/
def yunyiNativeTorqueRange : Fin 7 → ℝ := ![54.0, 54.0, 28.0, 28.0, 10.0, 10.0, 10.0]

/-- `kYunyiMitDirectKp`. -/
def yunyiMitDirectKp : Fin 7 → ℝ := ![15.0, 15.0, 12.0, 12.0, 8.0, 7.0, 6.0]

/-- `kYunyiMitDirectKd`. -/
def yunyiMitDirectKd : Fin 7 → ℝ := ![0.8, 0.8, 0.7, 0.7, 0.5, 0.5, 0.4]

/-- The product joints of `configure_joint_table`. -/
def configureJointTable (armMotors : Fin 14 → Motor) (joint : Fin 14) : ProductJoint :=
  let side := sideOf joint
  let index := placeOf joint
  { motor := armMotors joint
    direction := yunyiJointDirection side index
    lower := kLower side index
    upper := kUpper side index
    velocityLimit := kVelocityLimit index
    accelerationLimit := kAccelerationLimit index
    torqueLimit := yunyiLogicalTorqueRange index
    velocityCommandScale := kNativeVelocityRange index / kLogicalVelocityRange side index
    velocityFeedbackScale := kLogicalVelocityRange side index / kNativeVelocityRange index
    torqueCommandScale := yunyiNativeTorqueRange index / yunyiLogicalTorqueRange index
    kp := yunyiMitDirectKp index
    kd := yunyiMitDirectKd index }

/-- `CartesianSpeedScale`. -/
structure CartesianSpeedScale where
  referenceVelocity : ℝ
  referenceAcceleration : ℝ

/-- `cartesian_speed_scale`, for a `product_speed_percent`. -/
def cartesianSpeedScale (speedPercent : ℝ) : CartesianSpeedScale :=
  let scale := speedPercent / 100
  ⟨1 * scale, 6 * scale * scale⟩

/-- What the tests of `start_trajectory` ask of a joint of the product. -/
structure ProductJoint.Sound (joint : ProductJoint) : Prop where
  direction : |joint.direction| = 1
  scales : 0 < joint.velocityCommandScale ∧ 0 < joint.velocityFeedbackScale ∧ 0 < joint.torqueCommandScale
  ordered : joint.lower < joint.upper
  velocity : 3 ≤ joint.velocityLimit
  acceleration : 6 ≤ joint.accelerationLimit
  torque : 0 < joint.torqueLimit

/-- Every joint of the table passes them. -/
theorem configureJointTable_sound (armMotors : Fin 14 → Motor) (joint : Fin 14) :
    (configureJointTable armMotors joint).Sound := by
  have each : ∀ (side : Side) (index : Fin 7), |yunyiJointDirection side index| = 1 ∧
      0 < kLogicalVelocityRange side index ∧ kLower side index < kUpper side index := by
    intro side index
    cases side <;> fin_cases index <;> norm_num [yunyiJointDirection, kLogicalVelocityRange, kLower, kUpper]
  have common : ∀ index : Fin 7, 0 < kNativeVelocityRange index ∧ 0 < yunyiNativeTorqueRange index ∧
      0 < yunyiLogicalTorqueRange index ∧ 3 ≤ kVelocityLimit index ∧ 6 ≤ kAccelerationLimit index := by
    intro index
    fin_cases index <;> norm_num [kNativeVelocityRange, yunyiNativeTorqueRange, yunyiLogicalTorqueRange,
      kVelocityLimit, kAccelerationLimit]
  obtain ⟨direction, logical, ordered⟩ := each (sideOf joint) (placeOf joint)
  obtain ⟨native, nativeTorque, logicalTorque, velocity, acceleration⟩ := common (placeOf joint)
  exact ⟨direction, ⟨div_pos native logical, div_pos logical native, div_pos nativeTorque logicalTorque⟩, ordered,
    velocity, acceleration, logicalTorque⟩

/-- Zero lies between the limits of every joint. -/
theorem configureJointTable_zero (armMotors : Fin 14 → Motor) (joint : Fin 14) :
    (configureJointTable armMotors joint).lower ≤ 0 ∧ 0 ≤ (configureJointTable armMotors joint).upper := by
  have each : ∀ (side : Side) (index : Fin 7), kLower side index ≤ 0 ∧ 0 ≤ kUpper side index := by
    intro side index
    cases side <;> fin_cases index <;> norm_num [kLower, kUpper]
  exact each _ _

end

end MotorDrive.Cartesian
