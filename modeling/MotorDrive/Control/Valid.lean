import MotorDrive.Control.Joints

/-!
# The mailboxes of a run

Every ordinary mailbox of a run has consistent shared limits, one joint for each motor and, in a per-joint profile,
positive limits and holds of a size.
-/

namespace MotorDrive.Control

open Trajectory (Motor)
open History Validate

variable {K : Type} [Field K] [LinearOrder K]

/-- What holds of every ordinary mailbox. -/
structure Ordinary.Valid (mailbox : Ordinary K) : Prop where
  consistent : mailbox.consistent = true
  motors : (mailbox.joints.map fun joint => joint.command.motor).Nodup
  velocityLimits : mailbox.perJointProfile = true →
    ∀ limit ∈ mailbox.joints.map PvJoint.referenceVelocityLimit, 0 < limit
  accelerationLimits : mailbox.perJointProfile = true →
    ∀ limit ∈ mailbox.joints.map PvJoint.referenceAccelerationLimit, 0 < limit
  holdsSized : mailbox.perJointProfile = true → mailbox.holdsSized = true

/-- The mailbox, if it is an ordinary one, is valid. -/
def ArmControl.Valid (c : ArmControl K) : Prop := ∀ mailbox, c.mailbox = .ordinary mailbox → mailbox.Valid

theorem ArmControl.Valid.motors_nodup {c : ArmControl K} (valid : c.Valid) :
    (c.mailbox.joints.map fun joint => joint.command.motor).Nodup := by
  cases ordinary : c.mailbox with
  | ordinary mailbox => exact (valid mailbox ordinary).motors
  | _ => exact List.nodup_nil

theorem SameLimits.valid {mailbox mailbox' : Ordinary K} (same : SameLimits mailbox mailbox')
    (valid : mailbox.Valid) : mailbox'.Valid := by
  refine ⟨?_, same.motors ▸ valid.motors, fun profile => ?_, fun profile => ?_,
    fun profile => same.holdsSized (valid.holdsSized (same.perJointProfile ▸ profile))⟩
  · have consistent := valid.consistent
    rwa [Ordinary.consistent, ← same.maxReferenceVelocity, ← same.maxReferenceAcceleration,
      ← same.pvVelocityLimit] at consistent
  · exact same.velocityLimits ▸ valid.velocityLimits (same.perJointProfile ▸ profile)
  · exact same.accelerationLimits ▸ valid.accelerationLimits (same.perJointProfile ▸ profile)

theorem consistent_iff {mailbox : Ordinary K} : mailbox.consistent = true ↔
    0 ≤ mailbox.maxReferenceVelocity ∧ 0 < mailbox.maxReferenceAcceleration ∧ 0 ≤ mailbox.pvVelocityLimit := by
  simp [Ordinary.consistent, and_assoc]

section Commands

variable {config : Config K} {c : ArmControl K}

/-- The targets of a position command are distinct motors. -/
theorem nodup_targets {request : JointPosition K}
    (checked : ∀ entry ∈ request.targets.zipIdx, request.checkTarget config entry = .ok ()) :
    (request.targets.map Prod.fst).Nodup := by
  refine List.pairwise_iff_getElem.mpr fun i j first second before same => ?_
  rw [List.length_map] at first second
  have entry := checked (request.targets[j], j) (List.mk_mem_zipIdx_iff_getElem?.mpr (List.getElem?_eq_getElem second))
  obtain ⟨-, entry⟩ := reject_bind_eq_ok entry
  obtain ⟨other, -⟩ := reject_bind_eq_ok entry
  refine other (List.mem_map.mpr ⟨request.targets[i], ?_, ?_⟩)
  · exact List.mem_take_iff_getElem.mpr ⟨i, by omega, rfl⟩
  · simpa using same

/-- The limits of a per-joint profile are positive. -/
theorem profile_pos {request : JointPosition K} {velocities accelerations : List K}
    (profile : request.profile = some (velocities, accelerations)) {entry : (Motor × K) × ℕ}
    (checked : request.checkTarget config entry = .ok ()) :
    0 < velocities.getD entry.2 0 ∧ 0 < accelerations.getD entry.2 0 := by
  obtain ⟨-, checked⟩ := reject_bind_eq_ok checked
  obtain ⟨-, checked⟩ := reject_bind_eq_ok checked
  split at checked
  · cases checked
  · obtain ⟨-, checked⟩ := reject_bind_eq_ok checked
    obtain ⟨-, checked⟩ := reject_bind_eq_ok checked
    rw [profile] at checked
    obtain ⟨positive, -⟩ := reject_bind_eq_ok checked
    rw [not_or, not_or, not_le, not_le] at positive
    exact ⟨positive.1, positive.2.2⟩

theorem installJoint_limits {mailbox : ArmMailbox K} {feedback : Motor → MotorState K}
    {request : JointPosition K} {entry : (Motor × K) × ℕ} {joint : PvJoint K}
    (installed : request.installJoint mailbox feedback entry = .ok joint) :
    joint.referenceVelocityLimit = (request.profile.map fun profile => profile.1.getD entry.2 0).getD 0 ∧
      joint.referenceAccelerationLimit = (request.profile.map fun profile => profile.2.getD entry.2 0).getD 0 := by
  unfold JointPosition.installJoint at installed
  simp only at installed
  split at installed
  · cases installed
  · split at installed
    · split at installed
      · cases installed
      · cases installed
        exact ⟨rfl, rfl⟩
    · cases installed
      exact ⟨rfl, rfl⟩

theorem valid_installJointPosition (valid : c.Valid) (request : JointPosition K) (allowed : Except String Unit)
    (feedback : Motor → MotorState K) :
    (c.installJointPosition config request allowed feedback).2.Valid := by
  unfold ArmControl.installJointPosition
  simp only
  split
  · exact valid
  rename_i joints installed
  obtain ⟨_, checked, rest⟩ := bind_eq_ok installed
  obtain ⟨_, -, rest⟩ := bind_eq_ok rest
  rintro _ ⟨⟩
  unfold JointPosition.check at checked
  obtain ⟨velocity, checked⟩ := reject_bind_eq_ok checked
  obtain ⟨limit, checked⟩ := reject_bind_eq_ok checked
  obtain ⟨acceleration, checked⟩ := reject_bind_eq_ok checked
  obtain ⟨-, checked⟩ := reject_bind_eq_ok checked
  obtain ⟨-, each⟩ := reject_bind_eq_ok checked
  have each := forM_eq_ok each
  have profiled : request.profile.isSome = true → ∀ joint ∈ joints,
      0 < joint.referenceVelocityLimit ∧ 0 < joint.referenceAccelerationLimit := by
    intro some joint member
    obtain ⟨⟨velocities, accelerations⟩, profile⟩ := Option.isSome_iff_exists.mp some
    obtain ⟨entry, listed, made⟩ := mem_of_mapM_eq_ok rest joint member
    have limits := installJoint_limits made
    rw [profile] at limits
    rw [limits.1, limits.2]
    exact profile_pos profile (each entry listed)
  refine ⟨consistent_iff.mpr ⟨not_lt.mp velocity, not_le.mp acceleration, not_lt.mp limit⟩, ?_, ?_, ?_,
    fun _ => rfl⟩
  · have motors : joints.map (fun joint => joint.command.motor) = request.targets.map Prod.fst := by
      obtain ⟨same, made⟩ := mapM_eq_ok rest
      refine List.ext_getElem? fun n => ?_
      rw [List.getElem?_map, List.getElem?_map]
      cases found : request.targets[n]? with
      | none =>
        have beyond := List.getElem?_eq_none_iff.mp found
        rw [List.getElem?_eq_none (by rw [same, List.length_zipIdx]; exact beyond)]
        rfl
      | some target =>
        have entry : request.targets.zipIdx[n]? = some (target, n) := by
          rw [List.getElem?_zipIdx, found]
          simp
        obtain ⟨joint, place, installed⟩ := made n _ entry
        rw [place, Option.map_some, Option.map_some, (carried_installJoint installed).2]
    rw [motors]
    exact nodup_targets each
  · rintro some limit member
    obtain ⟨joint, listed, rfl⟩ := List.mem_map.mp member
    exact (profiled some joint listed).1
  · rintro some limit member
    obtain ⟨joint, listed, rfl⟩ := List.mem_map.mp member
    exact (profiled some joint listed).2

theorem valid_updateMotionLimits (valid : c.Valid) (maxReferenceVelocity maxReferenceAcceleration
    pvVelocityLimit : K) : (c.updateMotionLimits config maxReferenceVelocity maxReferenceAcceleration
      pvVelocityLimit).2.Valid := by
  unfold ArmControl.updateMotionLimits
  simp only
  split
  · rename_i mailbox ordinary
    split
    · exact valid
    · rename_i accepted
      rintro _ ⟨⟩
      obtain ⟨_, checked, -⟩ := bind_eq_ok accepted
      obtain ⟨velocity, checked⟩ := reject_bind_eq_ok checked
      obtain ⟨limit, checked⟩ := reject_bind_eq_ok checked
      have acceleration := reject_eq_ok.mp checked
      obtain ⟨-, motors, velocities, accelerations, sized⟩ := valid mailbox ordinary
      refine ⟨consistent_iff.mpr ⟨not_lt.mp velocity, not_le.mp acceleration, not_lt.mp limit⟩, ?_, ?_, ?_, sized⟩
      · rw [List.map_map]
        exact motors
      · rw [List.map_map]
        exact velocities
      · rw [List.map_map]
        exact accelerations
  · exact valid

omit [LinearOrder K] in
theorem headD_eq_getD (limits : List K) : limits.getD 0 0 = limits.headD 0 := by
  cases limits <;> rfl

theorem headD_le_greatest (limits : List K) : limits.headD 0 ≤ greatest limits := by
  have grows : ∀ (rest : List K) (start : K), start ≤ rest.foldl max start := by
    intro rest
    induction rest with
    | nil => exact fun start => le_rfl
    | cons first rest ih => exact fun start => (le_max_left _ _).trans (ih _)
  exact grows _ _

theorem valid_updateProfileLimits (valid : c.Valid) (velocities accelerations : List K) :
    (c.updateProfileLimits config velocities accelerations).2.Valid := by
  unfold ArmControl.updateProfileLimits
  simp only
  split
  · rename_i mailbox ordinary
    split_ifs with inactive
    · exact valid
    · split
      · exact valid
      · rename_i accepted
        rintro _ ⟨⟩
        obtain ⟨_, sizes, within⟩ := bind_eq_ok accepted
        have some := (not_or.mp (reject_eq_ok.mp sizes))
        obtain ⟨-, each⟩ := reject_bind_eq_ok within
        have positive : ∀ index < mailbox.joints.length,
            0 < velocities.getD index 0 ∧ 0 < accelerations.getD index 0 := by
          intro index bound
          have checked := forM_eq_ok each (mailbox.joints[index], index)
            (List.mk_mem_zipIdx_iff_getElem?.mpr (List.getElem?_eq_getElem bound))
          obtain ⟨limits, -, checked⟩ := bind_eq_ok checked
          have within := reject_eq_ok.mp checked
          rw [not_or, not_or, not_le, not_le] at within
          exact ⟨within.1, within.2.2⟩
        have first := positive 0 (List.length_pos_iff.mpr fun none => inactive (by simp [none]))
        obtain ⟨consistent, motors, -, -, sized⟩ := valid mailbox ordinary
        refine ⟨consistent_iff.mpr ⟨?_, ?_, (consistent_iff.mp consistent).2.2⟩, ?_, fun _ => ?_, fun _ => ?_,
          sized⟩
        · exact (headD_eq_getD velocities ▸ first.1).le.trans (headD_le_greatest velocities)
        · exact (headD_eq_getD accelerations ▸ first.2).trans_le (headD_le_greatest accelerations)
        · have kept : ((mailbox.joints.mapIdx fun index joint => { joint with
                referenceVelocityLimit := velocities.getD index 0
                referenceAccelerationLimit := accelerations.getD index 0 }).map
              fun joint => joint.command.motor) = mailbox.joints.map fun joint => joint.command.motor :=
            List.ext_getElem? fun n => by simp [Function.comp_def]
          exact kept ▸ motors
        · intro limit member
          obtain ⟨joint, listed, rfl⟩ := List.mem_map.mp member
          obtain ⟨index, bound, rfl⟩ := List.mem_mapIdx.mp listed
          exact (positive index bound).1
        · intro limit member
          obtain ⟨joint, listed, rfl⟩ := List.mem_map.mp member
          obtain ⟨index, bound, rfl⟩ := List.mem_mapIdx.mp listed
          exact (positive index bound).2
  · exact valid

variable (config) in
theorem sameLimits_stopFollowJoints (feedback : Motor → MotorState K) (arms : List (Side × Fin armDof))
    (mailbox : Ordinary K) : SameLimits mailbox (stopFollowJoints config feedback arms mailbox).2 := by
  induction arms generalizing mailbox with
  | nil => rfl
  | cons first rest ih =>
    obtain ⟨side, arm⟩ := first
    unfold stopFollowJoints
    simp only
    split_ifs
    · rfl
    · refine SameLimits.trans ?_ (ih _)
      refine ⟨rfl, rfl, rfl, rfl, rfl, ?_, ?_, ?_, id⟩
      · exact map_setJoint (by exact fun _ => rfl) _ _
      · exact map_setJoint (by exact fun _ => rfl) _ _
      · exact map_setJoint (by exact fun _ => rfl) _ _

theorem valid_stopBimanualFollow (valid : c.Valid) (feedback : Motor → MotorState K) :
    (c.stopBimanualFollow config feedback).2.Valid := by
  unfold ArmControl.stopBimanualFollow
  split
  · exact valid
  · split_ifs
    · exact valid
    · split
      · rename_i mailbox ordinary
        have stopped := sameLimits_stopFollowJoints config feedback armJoints mailbox
        split
        · rename_i ended
          rw [ended] at stopped
          rintro _ ⟨⟩
          exact stopped.valid (valid mailbox ordinary)
        · rename_i ended
          rw [ended] at stopped
          rintro _ ⟨⟩
          exact stopped.valid (valid mailbox ordinary)
      · exact valid

variable [IsStrictOrderedRing K]

theorem valid_initializeArmMailbox (valid : c.Valid) (requireEnabled : Bool) (feedback : Motor → MotorState K) :
    (c.initializeArmMailbox config requireEnabled feedback).2.Valid := by
  unfold ArmControl.initializeArmMailbox
  simp only
  split
  · exact valid
  · rename_i joints initialized
    obtain ⟨made, all, rest⟩ := bind_eq_ok initialized
    obtain ⟨-, rest⟩ := reject_bind_eq_ok rest
    cases rest
    rintro _ ⟨⟩
    refine ⟨consistent_iff.mpr ⟨le_rfl, ?_, config.safePvVelocityLimit_pos.le⟩, ?_, by rintro ⟨⟩, by rintro ⟨⟩,
      by rintro ⟨⟩⟩
    · exact (by norm_num : (0 : K) < 6)
    · have motors : joints.map (fun joint => joint.command.motor) = config.armMotors := by
        obtain ⟨same, held⟩ := mapM_eq_ok all
        refine List.ext_getElem? fun n => ?_
        rw [List.getElem?_map]
        cases found : config.armMotors[n]? with
        | none =>
          rw [List.getElem?_eq_none (by rw [same]; exact List.getElem?_eq_none_iff.mp found)]
          rfl
        | some motor =>
          obtain ⟨joint, place, held⟩ := held n motor found
          rw [place, Option.map_some]
          split at held
          · split_ifs at held
            cases held
            rfl
          · cases held
      simp only [motors]
      exact config.armMotors_nodup

/-- Every operation keeps the mailbox valid. -/
theorem valid_step (sqrt : K → K) (valid : c.Valid) (event : Event K) : (step sqrt config c event).1.Valid := by
  cases event with
  | install request allowed feedback => exact valid_installJointPosition valid request allowed feedback
  | motionLimits velocity acceleration limit => exact valid_updateMotionLimits valid velocity acceleration limit
  | profileLimits velocities accelerations => exact valid_updateProfileLimits valid velocities accelerations
  | fromFeedback requireEnabled feedback => exact valid_initializeArmMailbox valid requireEnabled feedback
  | startFollow leaderSide allowed feedback =>
    simp only [step, ArmControl.startBimanualFollow]
    split <;> exact valid
  | stopFollow feedback => exact valid_stopBimanualFollow valid feedback
  | resetFollow => exact valid
  | replace pv => cases pv <;> rintro _ ⟨⟩
  | cycle input =>
    intro mailbox' ordinary'
    cases ordinary : c.mailbox with
    | empty => simp [step, ArmControl.cycle, ordinary] at ordinary'
    | commands pv =>
      simp only [step, ArmControl.cycle, ordinary] at ordinary'
      split at ordinary' <;> simp [ordinary] at ordinary'
    | ordinary mailbox =>
      obtain ⟨after, afterEq, same⟩ := sameLimits_cycle sqrt config ordinary input
      cases afterEq.symm.trans ordinary'
      exact same.valid (valid mailbox ordinary)

end Commands

/-- The mailbox of a run is valid. -/
theorem valid_final [IsStrictOrderedRing K] (sqrt : K → K) (config : Config K) (events : List (Event K)) :
    (final sqrt config events).Valid :=
  history_induction (step sqrt config) (H := fun _ c => c.Valid) (by rintro _ ⟨⟩)
    (fun _ _ event valid => valid_step sqrt valid event) events

end MotorDrive.Control
