import MotorDrive.Control.Mailbox

/-!
# The torque ceiling of MIT commands

`prepare_mit_torque_limited_commands` and the MIT part of `run_arm_control_cycle`.  The limiter scales the gains
and the feedforward torque of a command whose resultant torque is beyond the limit of its joint, and records for
each place of the batch what it did.
-/

namespace MotorDrive.Control

open Trajectory (Motor)
open Validate

/-! ## Commands and configuration -/

/-- `ArticoreMitCommand`. -/
structure MitCommand (K : Type) where
  motor : Motor
  targetPosition : K
  targetVelocity : K
  stiffness : K
  damping : K
  feedforwardTorque : K
  deriving DecidableEq, Repr

/-- The members of `JointControlConfig` that MIT commands need. -/
structure MitJointConfig (K : Type) [Zero K] [LT K] where
  torqueLimit : K
  mitKp : K
  mitKd : K
  torqueLimit_pos : 0 < torqueLimit

/-- `joint_configs_`; it is empty only with the callback backend of unit tests. -/
abbrev MitConfigs (K : Type) [Zero K] [LT K] := List (Motor × MitJointConfig K)

/-- `ARTICORE_PRODUCT_DUAL_ARM_DOF`. -/
abbrev dualArmDof : ℕ := 14

/-- `ArticoreMitTorqueLimitStats`. -/
structure TorqueStats (K : Type) where
  activationCount : ℕ
  limitedJointMask : BitVec 64
  jointCount : ℕ
  requestedResultantTorque : Fin dualArmDof → K
  appliedScale : Fin dualArmDof → K
  appliedResultantTorque : Fin dualArmDof → K

variable {K : Type} [Field K] [LinearOrder K]

/-! ## The limiter -/

/-- The resultant torque of a command. -/
def MitCommand.resultant (command : MitCommand K) (reading : Reading K) : K :=
  command.stiffness * (command.targetPosition - reading.position) +
    command.damping * (command.targetVelocity - reading.velocity) + command.feedforwardTorque

/-- A command with smaller gains and a smaller feedforward torque. -/
def MitCommand.scaled (command : MitCommand K) (scale : K) : MitCommand K :=
  { command with
    stiffness := command.stiffness * scale
    damping := command.damping * scale
    feedforwardTorque := command.feedforwardTorque * scale }

/-- What the limiter does at one place of the batch. -/
structure LimitedJoint (K : Type) where
  command : MitCommand K
  limited : Bool
  requested : K
  scale : K

/-- The limit of one command. -/
def limitJoint (limit : K) (command : MitCommand K) (reading : Reading K) : LimitedJoint K :=
  let requested := command.resultant reading
  if limit < |requested| then ⟨command.scaled (limit / |requested|), true, requested, limit / |requested|⟩
  else ⟨command, false, requested, 1⟩

/-- The enabled feedback that the limiter requires: the limit of the joint and what it reports. -/
def torqueFeedback (configs : MitConfigs K) (feedback : Motor → MotorState K) (command : MitCommand K) :
    Except String (K × Reading K) :=
  match configs.lookup command.motor with
  | none => .error "MIT torque limit configuration is unavailable"
  | some config =>
    let state := feedback command.motor
    match state.hasValue, state.position, state.velocity with
    | true, some position, some velocity =>
      if state.statusCode ≠ 1 then .error "MIT torque limit requires enabled feedback"
      else .ok (config.torqueLimit, ⟨position, velocity⟩)
    | _, _, _ => .error "MIT torque limit requires finite position/velocity feedback"

/-- The mask of the places that were limited. -/
def limitedMask (joints : List (LimitedJoint K)) : BitVec 64 :=
  joints.zipIdx.foldl (fun mask (joint, index) => if joint.limited then mask ||| BitVec.twoPow 64 index else mask) 0

/-- The statistics of a batch. -/
def torqueStats (joints : List (LimitedJoint K)) : TorqueStats K where
  activationCount := 0
  limitedJointMask := limitedMask joints
  jointCount := joints.length
  requestedResultantTorque := fun i => (joints[i.val]?.map LimitedJoint.requested).getD 0
  appliedScale := fun i => (joints[i.val]?.map LimitedJoint.scale).getD 1
  appliedResultantTorque := fun i => (joints[i.val]?.map fun joint => joint.requested * joint.scale).getD 0

/-- `prepare_mit_torque_limited_commands`: the applied commands and the statistics of the batch. -/
def prepareMitTorqueLimitedCommands (configs : MitConfigs K) (feedback : Motor → MotorState K)
    (requested : List (MitCommand K)) (scale : K) : Except String (List (MitCommand K) × TorqueStats K) := do
  reject (dualArmDof < requested.length) "MIT torque limiter received too many arm joints"
  if configs = [] then return (requested, { torqueStats [] with jointCount := requested.length })
  let readings ← requested.mapM (torqueFeedback configs feedback)
  let joints := List.zipWith (fun command (limit, reading) => limitJoint (limit * scale) command reading)
    requested readings
  return (joints.map LimitedJoint.command, torqueStats joints)

/-! ## The cycle -/

/-- What a cycle does: nothing is sent, or a batch is handed to the backend. -/
inductive MitOutcome (K : Type)
  | failed (error : String)
  | sendFailed (batch : List (MitCommand K))
  | sent (batch : List (MitCommand K))

/-- The members of `SafetyRuntime` that record MIT batches. -/
structure MitRecord (K : Type) where
  lastSentMit : List (MitCommand K)
  stats : TorqueStats K
  consecutiveSendFailures : ℕ

/-- `mit_torque_limit_stats_` after a batch was sent. -/
def TorqueStats.record (before cycle : TorqueStats K) : TorqueStats K :=
  { cycle with activationCount := before.activationCount + if cycle.limitedJointMask ≠ 0 then 1 else 0 }

/-- The limiter, the grippers in front of the arms, the send and its record. -/
def MitRecord.dispatch (record : MitRecord K) (configs : MitConfigs K) (feedback : Motor → MotorState K)
    (requested : List (MitCommand K)) (degraded : Bool) (grippers : Except String (List (MitCommand K)))
    (sends : Bool) : MitOutcome K × MitRecord K :=
  match prepareMitTorqueLimitedCommands configs feedback requested (commandScale degraded) with
  | .error error => (.failed error, record)
  | .ok (applied, cycle) =>
    match grippers with
    | .error error => (.failed error, record)
    | .ok grippers =>
      if sends then (.sent (grippers ++ applied), ⟨applied, record.stats.record cycle, 0⟩)
      else (.sendFailed (grippers ++ applied),
        { record with consecutiveSendFailures := record.consecutiveSendFailures + 1 })

/-- What `run_arm_control_cycle` asks the limiter for in MIT mode. -/
def armRequest (mailbox : List (MitCommand K)) (disabled : List Motor) (degraded : Bool) : List (MitCommand K) :=
  (if degraded then mailbox.map fun command => { command with targetVelocity := command.targetVelocity * (1 / 4) }
    else mailbox).filter fun command => command.motor ∉ disabled

/-- `run_arm_control_cycle` in MIT mode, from the commands that its references lead to.  An empty batch is not
handed to the backend. -/
def MitRecord.runArmControlCycle (record : MitRecord K) (configs : MitConfigs K) (feedback : Motor → MotorState K)
    (mailbox : List (MitCommand K)) (disabled : List Motor) (degraded : Bool)
    (grippers : Except String (List (MitCommand K))) (sends : Bool) : MitOutcome K × MitRecord K :=
  let requested := armRequest mailbox disabled degraded
  let nothing : Bool := requested.isEmpty && match grippers with
    | .ok grippers => grippers.isEmpty
    | .error _ => false
  record.dispatch configs feedback requested degraded grippers (nothing || sends)

/-! ## What the limiter guarantees -/

section Limiter

variable {limit : K} {command : MitCommand K} {reading : Reading K}

omit [LinearOrder K] in
@[simp] theorem resultant_scaled (scale : K) :
    (command.scaled scale).resultant reading = command.resultant reading * scale := by
  simp only [MitCommand.resultant, MitCommand.scaled]
  ring

/-- A limited command keeps its targets, stays within the limit and changes only if it has to. -/
structure LimitedJoint.Sound (joint : LimitedJoint K) (limit : K) (command : MitCommand K) (reading : Reading K) :
    Prop where
  motor : joint.command.motor = command.motor
  targetPosition : joint.command.targetPosition = command.targetPosition
  targetVelocity : joint.command.targetVelocity = command.targetVelocity
  within : |joint.command.resultant reading| ≤ limit
  unchanged : |command.resultant reading| ≤ limit → joint.command = command
  limited : joint.limited = true ↔ limit < |command.resultant reading|
  scale : joint.command = command.scaled joint.scale
  requested : joint.requested = command.resultant reading
  applied : joint.requested * joint.scale = joint.command.resultant reading

theorem limitJoint_sound [IsStrictOrderedRing K] (limit_nonneg : 0 ≤ limit) (command : MitCommand K)
    (reading : Reading K) : (limitJoint limit command reading).Sound limit command reading := by
  unfold limitJoint
  by_cases beyond : limit < |command.resultant reading|
  · have torque_pos := limit_nonneg.trans_lt beyond
    simp only [if_pos beyond]
    refine ⟨rfl, rfl, rfl, ?_, fun within => absurd within (not_le.mpr beyond), iff_of_true rfl beyond, rfl, rfl, ?_⟩
    · rw [resultant_scaled, abs_mul, abs_of_nonneg (div_nonneg limit_nonneg torque_pos.le),
        mul_div_cancel₀ _ torque_pos.ne']
    · rw [resultant_scaled]
  · simp only [if_neg beyond]
    refine ⟨rfl, rfl, rfl, not_lt.mp beyond, fun _ => rfl, iff_of_false nofun beyond, ?_, rfl, mul_one _⟩
    simp [MitCommand.scaled]

end Limiter

section Mask

omit [Field K] [LinearOrder K]

theorem getLsbD_foldl (joints : List (LimitedJoint K)) (n : ℕ) (mask : BitVec 64) {i : ℕ} (lt : i < 64) :
    ((joints.zipIdx n).foldl (fun mask (joint, index) =>
        if joint.limited then mask ||| BitVec.twoPow 64 index else mask) mask).getLsbD i =
      (mask.getLsbD i || (decide (n ≤ i) && joints[i - n]?.any LimitedJoint.limited)) := by
  induction joints generalizing n mask with
  | nil => simp
  | cons joint joints ih =>
    rw [List.zipIdx_cons, List.foldl_cons, ih]
    rcases Nat.lt_trichotomy i n with before | rfl | behind
    · have bit : (if joint.limited then mask ||| BitVec.twoPow 64 n else mask).getLsbD i = mask.getLsbD i := by
        split_ifs
        · simp [BitVec.getLsbD_twoPow, before.ne']
        · rfl
      simp [bit, Nat.not_le.mpr before, Nat.not_le.mpr (before.trans (Nat.lt_succ_self n))]
    · cases limited : joint.limited <;> simp [lt, limited]
    · have bit : (if joint.limited then mask ||| BitVec.twoPow 64 n else mask).getLsbD i = mask.getLsbD i := by
        split_ifs
        · simp [BitVec.getLsbD_twoPow, behind.ne]
        · rfl
      obtain ⟨k, rfl⟩ : ∃ k, i = n + 1 + k := ⟨i - (n + 1), by omega⟩
      have place : n + 1 + k - n = k + 1 := by omega
      simp [bit, place, behind.le]

/-- The mask has the places that were limited. -/
theorem getLsbD_limitedMask (joints : List (LimitedJoint K)) {i : ℕ} (lt : i < 64) :
    (limitedMask joints).getLsbD i = joints[i]?.any LimitedJoint.limited := by
  rw [limitedMask, getLsbD_foldl joints 0 0 lt]
  simp

end Mask

/-- What the limiter reads of a joint: its torque limit and its enabled finite feedback. -/
structure Admitted (configs : MitConfigs K) (feedback : Motor → MotorState K) (command : MitCommand K)
    (torqueLimit : K) (reading : Reading K) : Prop where
  configured : ∃ config, configs.lookup command.motor = some config ∧ config.torqueLimit = torqueLimit
  hasValue : (feedback command.motor).hasValue = true
  enabled : (feedback command.motor).statusCode = 1
  position : (feedback command.motor).position = some reading.position
  velocity : (feedback command.motor).velocity = some reading.velocity

theorem Admitted.limit_pos {configs : MitConfigs K} {feedback : Motor → MotorState K} {command : MitCommand K}
    {torqueLimit : K} {reading : Reading K} (admitted : Admitted configs feedback command torqueLimit reading) :
    0 < torqueLimit := by
  obtain ⟨config, -, rfl⟩ := admitted.configured
  exact config.torqueLimit_pos

theorem admitted_of_torqueFeedback {configs : MitConfigs K} {feedback : Motor → MotorState K}
    {command : MitCommand K} {torqueLimit : K} {reading : Reading K}
    (ok : torqueFeedback configs feedback command = .ok (torqueLimit, reading)) :
    Admitted configs feedback command torqueLimit reading := by
  unfold torqueFeedback at ok
  split at ok
  · cases ok
  · rename_i config found
    simp only at ok
    split at ok
    · rename_i hasValue position velocity
      split_ifs at ok with status
      cases ok
      exact ⟨⟨config, found, rfl⟩, hasValue, not_not.mp status, position, velocity⟩
    · cases ok

theorem torqueFeedback_of_admitted {configs : MitConfigs K} {feedback : Motor → MotorState K}
    {command : MitCommand K} {torqueLimit : K} {reading : Reading K}
    (admitted : Admitted configs feedback command torqueLimit reading) :
    torqueFeedback configs feedback command = .ok (torqueLimit, reading) := by
  obtain ⟨config, found, rfl⟩ := admitted.configured
  unfold torqueFeedback
  simp [found, admitted.hasValue, admitted.position, admitted.velocity, admitted.enabled]

/-! ## What the limiter prepares -/

/-- The output for a command, at the feedback that the limiter read. -/
structure Obeys (ceiling : K) (reading : Reading K) (command output : MitCommand K) : Prop where
  motor : output.motor = command.motor
  targetPosition : output.targetPosition = command.targetPosition
  targetVelocity : output.targetVelocity = command.targetVelocity
  within : |output.resultant reading| ≤ ceiling
  unchanged : |command.resultant reading| ≤ ceiling → output = command

/-- What the statistics say about a place of the batch. -/
structure Describes (stats : TorqueStats K) (i : Fin dualArmDof) (ceiling : K) (reading : Reading K)
    (command output : MitCommand K) : Prop where
  masked : stats.limitedJointMask.getLsbD i = true ↔ ceiling < |command.resultant reading|
  scale : output = command.scaled (stats.appliedScale i)
  requested : stats.requestedResultantTorque i = command.resultant reading
  applied : stats.appliedResultantTorque i = output.resultant reading

/-- The statistics of a place that the batch does not have. -/
structure Vacant (stats : TorqueStats K) (i : Fin dualArmDof) : Prop where
  masked : stats.limitedJointMask.getLsbD i = false
  scale : stats.appliedScale i = 1
  requested : stats.requestedResultantTorque i = 0
  applied : stats.appliedResultantTorque i = 0

/-- A batch that was prepared from what was asked for, place by place, with its statistics. -/
structure Prepared (configs : MitConfigs K) (feedback : Motor → MotorState K) (requested : List (MitCommand K))
    (scale : K) (applied : List (MitCommand K)) (stats : TorqueStats K) : Prop where
  few : requested.length ≤ dualArmDof
  length : applied.length = requested.length
  count : stats.jointCount = applied.length
  place : ∀ (i : Fin dualArmDof) (command : MitCommand K), requested[i.val]? = some command →
    ∃ output torqueLimit reading, applied[i.val]? = some output ∧
      Admitted configs feedback command torqueLimit reading ∧
      Obeys (torqueLimit * scale) reading command output ∧
      Describes stats i (torqueLimit * scale) reading command output
  vacant : ∀ i : Fin dualArmDof, requested.length ≤ i → Vacant stats i

theorem torqueStats_describes {joints : List (LimitedJoint K)} {i : Fin dualArmDof} {joint : LimitedJoint K}
    {ceiling : K} {command : MitCommand K} {reading : Reading K} (found : joints[i.val]? = some joint)
    (sound : joint.Sound ceiling command reading) :
    Describes (torqueStats joints) i ceiling reading command joint.command := by
  have bound : i.val < 64 := lt_trans i.isLt (by decide)
  refine ⟨?_, ?_, ?_, ?_⟩
  · rw [torqueStats, getLsbD_limitedMask joints bound, found]
    exact sound.limited
  · simpa [torqueStats, found] using sound.scale
  · simpa [torqueStats, found] using sound.requested
  · simpa [torqueStats, found] using sound.applied

omit [LinearOrder K] in
theorem torqueStats_vacant {joints : List (LimitedJoint K)} {i : Fin dualArmDof} (past : joints.length ≤ i) :
    Vacant (torqueStats joints) i := by
  have bound : i.val < 64 := lt_trans i.isLt (by decide)
  have missing : joints[i.val]? = none := List.getElem?_eq_none past
  refine ⟨?_, ?_, ?_, ?_⟩
  · rw [torqueStats, getLsbD_limitedMask joints bound, missing]
    rfl
  all_goals simp [torqueStats, missing]

/-- A request that the limiter accepts, with joint limits configured. -/
theorem prepared_of_ok [IsStrictOrderedRing K] {configs : MitConfigs K} {feedback : Motor → MotorState K}
    {requested applied : List (MitCommand K)} {scale : K} {stats : TorqueStats K} (configured : configs ≠ [])
    (scale_nonneg : 0 ≤ scale)
    (ok : prepareMitTorqueLimitedCommands configs feedback requested scale = .ok (applied, stats)) :
    Prepared configs feedback requested scale applied stats := by
  unfold prepareMitTorqueLimitedCommands at ok
  obtain ⟨few, ok⟩ := reject_bind_eq_ok ok
  rw [if_neg configured] at ok
  obtain ⟨readings, read, ok⟩ := bind_eq_ok ok
  obtain ⟨same, each⟩ := mapM_eq_ok read
  cases ok
  set joints := List.zipWith
    (fun command (limit, reading) => limitJoint (limit * scale) command reading) requested readings with made
  have length : joints.length = requested.length := by simp [made, same]
  refine ⟨not_lt.mp few, by simpa using length, by simp [torqueStats], fun i command found => ?_, fun i past => ?_⟩
  · obtain ⟨⟨torqueLimit, reading⟩, place, fed⟩ := each i command found
    have admitted := admitted_of_torqueFeedback fed
    have sound := limitJoint_sound (mul_nonneg admitted.limit_pos.le scale_nonneg) command reading
    have at_i : joints[i.val]? = some (limitJoint (torqueLimit * scale) command reading) := by
      rw [made, List.getElem?_zipWith, found, place]
    refine ⟨_, torqueLimit, reading, by rw [List.getElem?_map, at_i, Option.map_some], admitted, ?_,
      torqueStats_describes at_i sound⟩
    exact ⟨sound.motor, sound.targetPosition, sound.targetVelocity, sound.within, sound.unchanged⟩
  · exact torqueStats_vacant (length ▸ past)

/-! ## What a cycle hands to the backend -/

/-- The batch that a cycle hands to the backend. -/
def MitOutcome.batch : MitOutcome K → Option (List (MitCommand K))
  | .failed _ => none
  | .sendFailed batch => some batch
  | .sent batch => some batch

/-- The torque ceiling of one cycle: what it hands to the backend, with its grippers, for what its arms ask for, when
the backend sends it, and what the cycle records. -/
structure Ceiling (configs : MitConfigs K) (feedback : Motor → MotorState K) (requested : List (MitCommand K))
    (degraded : Bool) (grippers : Except String (List (MitCommand K))) (sends : Bool) (record : MitRecord K)
    (outcome : MitOutcome K) (after : MitRecord K) : Prop where
  unavailable : (∃ command ∈ requested, ∀ torqueLimit reading,
      ¬ Admitted configs feedback command torqueLimit reading) → outcome.batch = none
  limited : ∀ batch, outcome.batch = some batch → ∃ own applied cycle, grippers = .ok own ∧ batch = own ++ applied ∧
    Prepared configs feedback requested (commandScale degraded) applied cycle ∧
    (outcome = .sent batch → after.lastSentMit = applied ∧ after.stats = record.stats.record cycle)
  available : requested.length ≤ dualArmDof → (∀ command ∈ requested, ∃ torqueLimit reading,
      Admitted configs feedback command torqueLimit reading) → ∀ own, grippers = .ok own →
    ∃ batch, outcome.batch = some batch ∧ (sends = true → outcome = .sent batch)
  unsent : (∀ batch, outcome ≠ .sent batch) → after.lastSentMit = record.lastSentMit ∧ after.stats = record.stats

/-- A joint without a limit or without enabled finite feedback is not part of a prepared batch. -/
theorem Prepared.admitted {configs : MitConfigs K} {feedback : Motor → MotorState K}
    {requested applied : List (MitCommand K)} {scale : K} {stats : TorqueStats K}
    (prepared : Prepared configs feedback requested scale applied stats) {command : MitCommand K}
    (member : command ∈ requested) : ∃ torqueLimit reading, Admitted configs feedback command torqueLimit reading := by
  obtain ⟨i, bound, rfl⟩ := List.getElem_of_mem member
  obtain ⟨-, torqueLimit, reading, -, admitted, -, -⟩ :=
    prepared.place ⟨i, bound.trans_le prepared.few⟩ _ (List.getElem?_eq_getElem bound)
  exact ⟨torqueLimit, reading, admitted⟩

/-- The limiter accepts a request of joints with limits and enabled finite feedback. -/
theorem prepare_of_admitted {configs : MitConfigs K} {feedback : Motor → MotorState K}
    {requested : List (MitCommand K)} (scale : K) (few : requested.length ≤ dualArmDof)
    (admitted : ∀ command ∈ requested, ∃ torqueLimit reading, Admitted configs feedback command torqueLimit reading) :
    ∃ prepared, prepareMitTorqueLimitedCommands configs feedback requested scale = .ok prepared := by
  have each : ∀ (k : ℕ) (command : MitCommand K), requested[k]? = some command →
      ∃ fed, torqueFeedback configs feedback command = .ok fed ∧ True := by
    intro k command found
    obtain ⟨torqueLimit, reading, known⟩ := admitted command (List.mem_of_getElem? found)
    exact ⟨_, torqueFeedback_of_admitted known, trivial⟩
  obtain ⟨readings, read, -⟩ := exists_mapM (fun _ _ => True) each
  unfold prepareMitTorqueLimitedCommands
  rw [reject_bind_of_not (not_lt.mpr few)]
  split_ifs
  · exact ⟨_, rfl⟩
  · rw [read]
    exact ⟨_, rfl⟩

theorem dispatch_ceiling [IsStrictOrderedRing K] {configs : MitConfigs K} (configured : configs ≠ [])
    (record : MitRecord K) (feedback : Motor → MotorState K) (requested : List (MitCommand K)) (degraded : Bool)
    (grippers : Except String (List (MitCommand K))) (sends : Bool) :
    Ceiling configs feedback requested degraded grippers sends record
      (record.dispatch configs feedback requested degraded grippers sends).1
      (record.dispatch configs feedback requested degraded grippers sends).2 := by
  have scale_nonneg : (0 : K) ≤ commandScale degraded := (commandScale_pos degraded).le
  unfold MitRecord.dispatch
  cases prepare : prepareMitTorqueLimitedCommands configs feedback requested (commandScale degraded) with
  | error error =>
    refine ⟨fun _ => rfl, fun _ handed => (by cases handed), fun few admitted => ?_, fun _ => ⟨rfl, rfl⟩⟩
    obtain ⟨prepared, ok⟩ := prepare_of_admitted (commandScale degraded) few admitted
    cases prepare.symm.trans ok
  | ok prepared =>
    obtain ⟨applied, cycle⟩ := prepared
    have prepared := prepared_of_ok configured scale_nonneg prepare
    have available : ¬ ∃ command ∈ requested, ∀ torqueLimit reading,
        ¬ Admitted configs feedback command torqueLimit reading := by
      rintro ⟨command, member, unavailable⟩
      obtain ⟨torqueLimit, reading, admitted⟩ := prepared.admitted member
      exact unavailable torqueLimit reading admitted
    cases grippers with
    | error error =>
      refine ⟨fun _ => rfl, fun _ handed => (by cases handed), fun _ _ own given => (by cases given),
        fun _ => ⟨rfl, rfl⟩⟩
    | ok own =>
      cases sends with
      | true =>
        refine ⟨fun missing => absurd missing available, fun batch handed => ?_, fun _ _ _ _ => ⟨_, rfl, fun _ => rfl⟩,
          fun unsent => absurd rfl (unsent _)⟩
        cases handed
        exact ⟨own, applied, cycle, rfl, rfl, prepared, fun _ => ⟨rfl, rfl⟩⟩
      | false =>
        refine ⟨fun missing => absurd missing available, fun batch handed => ?_,
          fun _ _ _ _ => ⟨_, rfl, fun sends => (by cases sends)⟩, fun _ => ⟨rfl, rfl⟩⟩
        cases handed
        exact ⟨own, applied, cycle, rfl, rfl, prepared, fun sent => (by cases sent)⟩

/-- What a backend that sends more makes of a cycle. -/
theorem Ceiling.mono {configs : MitConfigs K} {feedback : Motor → MotorState K} {requested : List (MitCommand K)}
    {degraded : Bool} {grippers : Except String (List (MitCommand K))} {sends sends' : Bool} {record after : MitRecord K}
    {outcome : MitOutcome K} (more : sends = true → sends' = true)
    (ceiling : Ceiling configs feedback requested degraded grippers sends' record outcome after) :
    Ceiling configs feedback requested degraded grippers sends record outcome after where
  unavailable := ceiling.unavailable
  limited := ceiling.limited
  available few admitted own given := by
    obtain ⟨batch, handed, sent⟩ := ceiling.available few admitted own given
    exact ⟨batch, handed, fun sends => sent (more sends)⟩
  unsent := ceiling.unsent

end MotorDrive.Control
