import MotorDrive.Control.Run
import MotorDrive.Library.Guarded

/-!
# The motion limits of the product

The ordinary PV settings of `yunyi_runtime_core.cpp`: the percentages of speed, maximum speed and maximum
acceleration, the functions that change them and the joint command that uses them.  `product_pv_limits_mutex` is a
`Lock` of the shared state; the command mutex of `SafetyRuntime` is held within one section.
-/

namespace MotorDrive.Control

open Trajectory (Motor)
open Threads Validate Proc

/-! ## Limits -/

/-- `ARTICORE_PRODUCT_DUAL_ARM_DOF`. -/
abbrev productDof : ℕ := 2 * armDof

section Limits

variable {K : Type} [Field K]

/-- `kRadiansPerDegree`. -/
def radiansPerDegree : K := 314159265358979323846 / 10 ^ 20 / 180

/-- `kYunyiOrdinaryPvJointMaximumVelocities`. -/
def jointMaximumVelocities : List K :=
  [180, 180, 180, 225, 225, 225, 225].map (· * radiansPerDegree)

/-- `kYunyiOrdinaryPvJointMaximumAccelerations`. -/
def jointMaximumAccelerations : List K :=
  [450, 450, 900, 900, 900, 900, 900].map (· * radiansPerDegree)

/-- `yunyi_ordinary_pv_velocity_limit`. -/
def ordinaryPvVelocityLimit (index : ℕ) (speedPercent maximumVelocityPercent : K) : K :=
  let baseLimit := jointMaximumVelocities.getD (index % armDof) 0 * maximumVelocityPercent / 100
  baseLimit * speedPercent / 100

/-- `yunyi_ordinary_pv_acceleration_limit`. -/
def ordinaryPvAccelerationLimit (index : ℕ) (speedPercent maximumAccelerationPercent : K) : K :=
  let commandScale := speedPercent / 100
  let baseLimit := jointMaximumAccelerations.getD (index % armDof) 0 * maximumAccelerationPercent / 100
  baseLimit * commandScale

/-- The percentages of `YunyiRuntimeCoreState`. -/
structure PvSettings (K : Type) where
  speedPercent : K
  maxVelocityPercent : K
  maxAccelerationPercent : K

/-- `effective_product_pv_limits`: the velocities and the accelerations. -/
def effectiveProductPvLimits (settings : PvSettings K) : List K × List K :=
  ((List.range productDof).map fun index =>
      ordinaryPvVelocityLimit index settings.speedPercent settings.maxVelocityPercent,
    (List.range productDof).map fun index =>
      ordinaryPvAccelerationLimit index settings.speedPercent settings.maxAccelerationPercent)

end Limits

variable {θ K : Type} [Field K] [LinearOrder K]

/-! ## State -/

/-- What the members of `YunyiRuntimeResources::Joint` a joint command reads. -/
structure ProductJoint (K : Type) where
  motor : Motor
  direction : K
  lower : K
  upper : K
  velocityLimit : K

/-- The settings, the holder of `product_pv_limits_mutex`, and the arm control of `SafetyRuntime`. -/
structure ProductState (θ K : Type) where
  settings : PvSettings K
  pvLimitsMutex : Option θ
  arm : ArmControl K

/-- `product_pv_limits_mutex`. -/
def productPvLimitsMutex : Lock θ (ProductState θ K) where
  holder := ProductState.pvLimitsMutex
  take t s := { s with pvLimitsMutex := some t }
  free s := { s with pvLimitsMutex := none }
  holder_take _ _ := rfl
  holder_free _ := rfl

/-- What a section is given: what `checked_yunyi` says, whether the product is in PV mode, what the lifecycle
state, the mode and the transports allow, and what the motors report. -/
structure ProductInput (K : Type) where
  checked : Except String Unit
  pvMode : Bool
  allowed : Except String Unit
  feedback : Motor → MotorState K

inductive ProductSite
  | available
  | acquire
  | release
  | readSettings
  | updateLimits
  | install
  | store
  | other
  deriving DecidableEq

/-- A program over the product state. -/
abbrev ProductProgram (θ K α : Type) : Type := Proc (ProductState θ K) (ProductInput K) ProductSite String α

/-! ## Changing the settings -/

/-- `checked_yunyi`, and the test of the mode. -/
def requirePvMode (what : String) : ProductProgram θ K Unit :=
  await .available (fun _ => true) fun i s =>
    (i.checked.bind fun _ => reject (i.pvMode = false) what, s)

/-- The test of a percentage; a value that is not finite is `none`. -/
def requirePercent (what : String) (percent : Option K) : Except String K :=
  match percent with
  | none => .error what
  | some percent => if percent < 1 ∨ 100 < percent then .error what else .ok percent

def readSettings : ProductProgram θ K (PvSettings K) := atomic .readSettings fun _ s => (s.settings, s)

/-- Store a changed setting. -/
def storeSetting (change : PvSettings K → PvSettings K) : ProductProgram θ K Unit :=
  atomic .store fun _ s => ((), { s with settings := change s.settings })

/-- `update_joint_pv_profile_limits` with the limits of the settings that are to be. -/
def updateLimits (config : Config K) (settings : PvSettings K) : ProductProgram θ K Unit :=
  await .updateLimits (fun _ => true) fun _ s =>
    let limits := effectiveProductPvLimits settings
    let updated := s.arm.updateProfileLimits config limits.1 limits.2
    (updated.1, { s with arm := updated.2 })

/-- What the three functions do under the mutex: update the command, then store the setting. -/
def changeSetting (config : Config K) (change : PvSettings K → PvSettings K) : ProductProgram θ K Unit := do
  let settings ← readSettings
  let _ ← updateLimits config (change settings)
  storeSetting change

/-- `native_runtime_set_speed_percent`. -/
def setSpeedPercent (config : Config K) (t : θ) (speedPercent : Option K) : ProductProgram θ K Unit := do
  let percent ← ofExcept (requirePercent "speed_percent must be finite and within 1..100" speedPercent)
  let _ ← requirePvMode "speed percentage setting is available only in product PV mode"
  productPvLimitsMutex.locked .acquire .release t
    (changeSetting config fun settings => { settings with speedPercent := percent })

/-- `native_runtime_set_max_speed`. -/
def setMaxSpeed (config : Config K) (t : θ) (percent : Option K) : ProductProgram θ K Unit := do
  let validated ← ofExcept (requirePercent
    "ordinary PV maximum speed percentage must be finite and within 1..100 percent" percent)
  let _ ← requirePvMode "maximum speed setting is available only in product PV mode"
  productPvLimitsMutex.locked .acquire .release t
    (changeSetting config fun settings => { settings with maxVelocityPercent := validated })

/-- `native_runtime_set_max_acceleration`. -/
def setMaxAcceleration (config : Config K) (t : θ) (percent : Option K) : ProductProgram θ K Unit := do
  let validated ← ofExcept (requirePercent
    "ordinary PV maximum acceleration percentage must be finite and within 1..100 percent" percent)
  let _ ← requirePvMode "maximum acceleration setting is available only in product PV mode"
  productPvLimitsMutex.locked .acquire .release t
    (changeSetting config fun settings => { settings with maxAccelerationPercent := validated })

/-! ## Joint commands -/

/-- The loop over the joints of a command: its targets. -/
def productTargets : List (ProductJoint K × K) → Except String (List (Motor × K))
  | [] => .ok []
  | (joint, position) :: rest => do
    reject (position < joint.lower ∨ joint.upper < position) "joint position exceeds product limits"
    reject (joint.velocityLimit < 0) "reference velocity exceeds product joint limit"
    let targets ← productTargets rest
    return (joint.motor, joint.direction * position) :: targets

/-- `set_joint_pv_profile`. -/
def ArmControl.setJointPvProfile (config : Config K) (c : ArmControl K) (targets : List (Motor × K))
    (maximumVelocities maximumAccelerations : List K) (allowed : Except String Unit)
    (feedback : Motor → MotorState K) : Except String Unit × ArmControl K :=
  if targets = [] then (.error "ordinary PV position target is empty", c)
  else if maximumVelocities.length ≠ targets.length ∨ maximumAccelerations.length ≠ targets.length then
    (.error "ordinary PV per-joint limits must match the target count", c)
  else
    let sharedVelocity := greatest maximumVelocities
    let sharedAcceleration := greatest maximumAccelerations
    c.installJointPosition config
      { targets
        maxReferenceVelocity := sharedVelocity
        maxReferenceAcceleration := sharedAcceleration
        pvVelocityLimit := sharedVelocity
        profile := some (maximumVelocities, maximumAccelerations) } allowed feedback

/-- `set_joint_pv_profile` as a section. -/
def installTargets (config : Config K) (targets : List (Motor × K)) (limits : List K × List K) :
    ProductProgram θ K Unit :=
  await .install (fun _ => true) fun i s =>
    let installed := s.arm.setJointPvProfile config targets limits.1 limits.2 i.allowed i.feedback
    (installed.1, { s with arm := installed.2 })

/-- The part of a joint command under the mutex. -/
def installPositions (config : Config K) (joints : List (ProductJoint K)) (positions : List K) (speedPercent : K) :
    ProductProgram θ K Unit := do
  let settings ← readSettings
  let limits := effectiveProductPvLimits { settings with speedPercent := speedPercent }
  let targets ← ofExcept (productTargets (joints.zip positions))
  let _ ← installTargets config targets limits
  storeSetting fun settings => { settings with speedPercent := speedPercent }

/-- The positions of a command, if all are finite. -/
def requireFinite (what : String) (values : List (Option K)) : Except String (List K) :=
  match values.mapM id with
  | none => .error what
  | some values => .ok values

/-- `install_product_joint_positions` in PV mode. -/
def installProductJointPositions (config : Config K) (joints : List (ProductJoint K)) (t : θ)
    (positions : List (Option K)) (speedPercent : K) : ProductProgram θ K Unit := do
  let _ ← ofExcept (reject (positions.length ≠ productDof) "yunyi_v1_0 command must contain exactly 14 joints")
  let positions ← ofExcept (requireFinite "positions contains NaN or Inf" positions)
  let speedPercent ← ofExcept (requirePercent "ordinary PV speed must be finite and within 1..100" (some speedPercent))
  productPvLimitsMutex.locked .acquire .release t (installPositions config joints positions speedPercent)

/-- `native_runtime_set_joint_pv`. -/
def setJointPv (config : Config K) (joints : List (ProductJoint K)) (t : θ) (positions : List (Option K))
    (speedPercent : Option K) : ProductProgram θ K Unit :=
  tryCatch
    (do
      let percent ← ofExcept (requirePercent "PV command speed must be finite and within 1..100" speedPercent)
      let _ ← requirePvMode "PV joint command requires product PV mode"
      installProductJointPositions config joints t positions percent)
    fun error => throw ("PV joint command: " ++ error)

/-! ## The system -/

/-- A call of one of the four functions. -/
inductive ProductCall (K : Type)
  | setSpeedPercent (speedPercent : Option K)
  | setMaxSpeed (percent : Option K)
  | setMaxAcceleration (percent : Option K)
  | setJointPv (positions : List (Option K)) (speedPercent : Option K)

/-- The program of a call. -/
def ProductCall.body (config : Config K) (joints : List (ProductJoint K)) (t : θ) :
    ProductCall K → ProductProgram θ K Unit
  | .setSpeedPercent speedPercent => Control.setSpeedPercent config t speedPercent
  | .setMaxSpeed percent => Control.setMaxSpeed config t percent
  | .setMaxAcceleration percent => Control.setMaxAcceleration config t percent
  | .setJointPv positions speedPercent => Control.setJointPv config joints t positions speedPercent

/-- An operation of the arm control that neither installs a per-joint profile nor updates its limits.  Only the four
calls do that. -/
def Event.Other : Event K → Prop
  | .install request _ _ => request.profile = none
  | .profileLimits _ _ => False
  | _ => True

/-- Another operation of the arm control, such as a control cycle, at any time. -/
def otherOperation (sqrt : K → K) (config : Config K) (event : Event K) : ProductProgram θ K Unit :=
  await .other (fun _ => true) fun _ s => (.ok (), { s with arm := (step sqrt config s.arm event).1 })

/-- What a thread may run. -/
inductive ProductOperation (K : Type)
  | call (call : ProductCall K)
  | other (event : Event K) (other : event.Other)

/-- Any number of threads, each of which runs calls and other operations. -/
def productMachine (θ : Type) (sqrt : K → K) (config : Config K) (joints : List (ProductJoint K)) :
    Machine θ (ProductState θ K) (ProductInput K) ProductSite String (θ × ProductOperation K) where
  thread operation := operation.1
  body operation :=
    match operation.2 with
    | .call call => call.body config joints operation.1
    | .other event _ => otherOperation sqrt config event
  start := ⟨⟨100, 100, 100⟩, none, ⟨.empty, none⟩⟩

end MotorDrive.Control
