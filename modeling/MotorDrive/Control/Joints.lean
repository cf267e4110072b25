import MotorDrive.Control.Run

/-!
# What an operation does to a joint

A joint of the mailbox is the joint of the same motor before the operation, with its hold kept or started over
(`Carried`), or it is new.  A control cycle advances every joint and lets the follower joints follow once
(`Advanced`).
-/

namespace MotorDrive.Control

open Trajectory (Motor)
open Validate

variable {K : Type}

/-- The joints of an ordinary command. -/
def ArmMailbox.joints : ArmMailbox K → List (PvJoint K)
  | .ordinary mailbox => mailbox.joints
  | _ => []

/-- A joint without a hold. -/
def PvJoint.Unheld (joint : PvJoint K) : Prop := joint.holdConfirmationCycles = 0 ∧ joint.stationaryHold = false

/-- The joints are held alike. -/
def PvJoint.HeldLike (joint previous : PvJoint K) : Prop :=
  joint.holdConfirmationCycles = previous.holdConfirmationCycles ∧
    joint.stationaryHold = previous.stationaryHold ∧ joint.holdTargetPosition = previous.holdTargetPosition

variable [Field K] [LinearOrder K]

/-- A joint that an operation other than a control cycle leaves. -/
inductive Carried (joints : List (PvJoint K)) (joint : PvJoint K) : Prop
  | fresh (unheld : joint.Unheld) (drive : joint.driveVelocityCommand = 0)
  | previous (previous : PvJoint K) (member : previous ∈ joints)
      (motor : joint.command.motor = previous.command.motor)
      (drive : joint.driveVelocityCommand = previous.driveVelocityCommand)
      (hold : joint.Unheld ∨ joint.HeldLike previous)

omit [Field K] [LinearOrder K] in
theorem heldLike_refl (joint : PvJoint K) : joint.HeldLike joint := ⟨rfl, rfl, rfl⟩

omit [LinearOrder K] in
theorem Carried.trans {joints joints' : List (PvJoint K)} {joint : PvJoint K}
    (before : ∀ joint ∈ joints', Carried joints joint) (carried : Carried joints' joint) : Carried joints joint := by
  cases carried with
  | fresh unheld drive => exact .fresh unheld drive
  | previous middle member motor drive hold =>
    cases before middle member with
    | fresh unheld none =>
      refine .fresh ?_ (drive.trans none)
      exact hold.elim id fun like => ⟨like.1.trans unheld.1, like.2.1.trans unheld.2⟩
    | previous first member' motor' drive' hold' =>
      refine .previous first member' (motor.trans motor') (drive.trans drive') ?_
      rcases hold with unheld | like
      · exact .inl unheld
      · exact hold'.imp (fun unheld => ⟨like.1.trans unheld.1, like.2.1.trans unheld.2⟩) fun like' =>
          ⟨like.1.trans like'.1, like.2.1.trans like'.2.1, like.2.2.trans like'.2.2⟩

omit [LinearOrder K] in
theorem carried_self {joints : List (PvJoint K)} {joint : PvJoint K} (member : joint ∈ joints) :
    Carried joints joint := .previous joint member rfl rfl (.inr (heldLike_refl joint))

/-! ## Commands -/

omit [Field K] [LinearOrder K] in
theorem setJoint_cons (joint : PvJoint K) (rest : List (PvJoint K)) (motor : Motor)
    (change : PvJoint K → PvJoint K) : setJoint (joint :: rest) motor change =
      if joint.command.motor = motor then change joint :: rest else joint :: setJoint rest motor change := by
  unfold setJoint
  rw [List.findIdx_cons]
  by_cases same : joint.command.motor = motor <;> simp [same]

omit [Field K] [LinearOrder K] in
/-- A joint of a changed mailbox; where every motor has one joint, the others are not of the changed motor. -/
theorem mem_setJoint {joints : List (PvJoint K)} {motor : Motor} {change : PvJoint K → PvJoint K}
    {joint : PvJoint K} (member : joint ∈ setJoint joints motor change) :
    (joint ∈ joints ∧ ((joints.map fun joint => joint.command.motor).Nodup → joint.command.motor ≠ motor)) ∨
      ∃ previous ∈ joints, previous.command.motor = motor ∧ joint = change previous := by
  induction joints with
  | nil => exact absurd member List.not_mem_nil
  | cons first rest ih =>
    rw [setJoint_cons] at member
    split_ifs at member with same
    · rcases List.mem_cons.mp member with rfl | later
      · exact .inr ⟨first, List.mem_cons_self .., same, rfl⟩
      · refine .inl ⟨List.mem_cons_of_mem _ later, fun once matching => ?_⟩
        exact (List.nodup_cons.mp once).1 (List.mem_map.mpr ⟨joint, later, matching.trans same.symm⟩)
    · rcases List.mem_cons.mp member with rfl | later
      · exact .inl ⟨List.mem_cons_self .., fun _ => same⟩
      · rcases ih later with ⟨before, other⟩ | ⟨previous, before, motor, rfl⟩
        · exact .inl ⟨List.mem_cons_of_mem _ before, fun once => other (List.nodup_cons.mp once).2⟩
        · exact .inr ⟨previous, List.mem_cons_of_mem _ before, motor, rfl⟩

omit [Field K] [LinearOrder K] in
theorem mem_setJoint_of_ne {joints : List (PvJoint K)} {motor : Motor} {change : PvJoint K → PvJoint K}
    {joint : PvJoint K} (member : joint ∈ joints) (other : joint.command.motor ≠ motor) :
    joint ∈ setJoint joints motor change := by
  induction joints with
  | nil => exact member
  | cons first rest ih =>
    rw [setJoint_cons]
    split_ifs with same
    · rcases List.mem_cons.mp member with rfl | later
      · exact absurd same other
      · exact List.mem_cons_of_mem _ later
    · rcases List.mem_cons.mp member with rfl | later
      · exact List.mem_cons_self ..
      · exact List.mem_cons_of_mem _ (ih later)

omit [Field K] [LinearOrder K] in
/-- Where every motor has one joint, a joint is found by its motor. -/
theorem find?_motor {joints : List (PvJoint K)}
    (distinct : (joints.map fun joint => joint.command.motor).Nodup) {joint : PvJoint K} (member : joint ∈ joints) :
    joints.find? (fun other => other.command.motor = joint.command.motor) = some joint := by
  cases found : joints.find? fun other => other.command.motor = joint.command.motor with
  | none => exact absurd (List.find?_eq_none.mp found joint member) (by simp)
  | some other =>
    have motor := List.find?_some found
    rw [decide_eq_true_eq] at motor
    rw [List.inj_on_of_nodup_map distinct (List.mem_of_find?_eq_some found) member motor]

omit [Field K] [LinearOrder K] in
/-- What a change keeps of each joint it keeps of the mailbox. -/
theorem map_setJoint {β : Type} {f : PvJoint K → β} {change : PvJoint K → PvJoint K}
    (kept : ∀ joint, f (change joint) = f joint) (joints : List (PvJoint K)) (motor : Motor) :
    (setJoint joints motor change).map f = joints.map f := by
  induction joints with
  | nil => rfl
  | cons first rest ih =>
    rw [setJoint_cons]
    split_ifs
    · rw [List.map_cons, List.map_cons, kept]
    · rw [List.map_cons, List.map_cons, ih]

theorem carried_installJoint {mailbox : ArmMailbox K} {feedback : Motor → MotorState K}
    {request : JointPosition K} {entry : (Motor × K) × ℕ} {joint : PvJoint K}
    (installed : request.installJoint mailbox feedback entry = .ok joint) :
    Carried mailbox.joints joint ∧ joint.command.motor = entry.1.1 := by
  obtain ⟨⟨motor, final⟩, index⟩ := entry
  unfold JointPosition.installJoint at installed
  simp only at installed
  split at installed
  · cases installed
  · split at installed
    · rename_i previous
      split at installed
      · cases installed
      · rename_i joint found
        cases installed
        have same : joint.command.motor = motor := by simpa using List.find?_some found
        refine ⟨.previous joint (List.mem_of_find?_eq_some found) rfl rfl ?_, same⟩
        unfold PvJoint.continue
        simp only
        split_ifs
        · exact .inr ⟨rfl, rfl, rfl⟩
        · exact .inl ⟨rfl, rfl⟩
    · cases installed
      exact ⟨.fresh ⟨rfl, rfl⟩ rfl, rfl⟩

section Commands

variable {config : Config K} {c : ArmControl K}

theorem carried_installJointPosition (request : JointPosition K) (allowed : Except String Unit)
    (feedback : Motor → MotorState K) {joint : PvJoint K}
    (member : joint ∈ (c.installJointPosition config request allowed feedback).2.mailbox.joints) :
    Carried c.mailbox.joints joint := by
  unfold ArmControl.installJointPosition at member
  simp only at member
  split at member
  · exact carried_self member
  · rename_i joints installed
    obtain ⟨_, -, rest⟩ := bind_eq_ok installed
    obtain ⟨_, -, rest⟩ := bind_eq_ok rest
    obtain ⟨entry, -, made⟩ := mem_of_mapM_eq_ok rest joint member
    exact (carried_installJoint made).1

theorem carried_updateMotionLimits (maxReferenceVelocity maxReferenceAcceleration pvVelocityLimit : K)
    {joint : PvJoint K} (member : joint ∈ (c.updateMotionLimits config maxReferenceVelocity
      maxReferenceAcceleration pvVelocityLimit).2.mailbox.joints) : Carried c.mailbox.joints joint := by
  unfold ArmControl.updateMotionLimits at member
  simp only at member
  split at member
  · rename_i mailbox ordinary
    split at member
    · exact carried_self member
    · obtain ⟨previous, before, rfl⟩ := List.mem_map.mp member
      rw [ordinary]
      exact .previous previous before rfl rfl (.inr ⟨rfl, rfl, rfl⟩)
  · exact carried_self member

theorem carried_updateProfileLimits (velocities accelerations : List K) {joint : PvJoint K}
    (member : joint ∈ (c.updateProfileLimits config velocities accelerations).2.mailbox.joints) :
    Carried c.mailbox.joints joint := by
  unfold ArmControl.updateProfileLimits at member
  simp only at member
  split at member
  · rename_i mailbox ordinary
    split_ifs at member
    · exact carried_self member
    · split at member
      · exact carried_self member
      · obtain ⟨index, bound, rfl⟩ := List.mem_mapIdx.mp member
        rw [ordinary]
        exact .previous _ (List.getElem_mem bound) rfl rfl (.inr ⟨rfl, rfl, rfl⟩)
  · exact carried_self member

theorem carried_initializeArmMailbox (requireEnabled : Bool) (feedback : Motor → MotorState K)
    {joint : PvJoint K}
    (member : joint ∈ (c.initializeArmMailbox config requireEnabled feedback).2.mailbox.joints) :
    Carried c.mailbox.joints joint := by
  unfold ArmControl.initializeArmMailbox at member
  simp only at member
  split at member
  · exact carried_self member
  · rename_i joints initialized
    obtain ⟨made, all, rest⟩ := bind_eq_ok initialized
    obtain ⟨-, rest⟩ := reject_bind_eq_ok rest
    cases rest
    obtain ⟨motor, -, held⟩ := mem_of_mapM_eq_ok all joint member
    split at held
    · split_ifs at held
      cases held
      exact .fresh ⟨rfl, rfl⟩ rfl
    · cases held

theorem carried_stopFollowJoints (feedback : Motor → MotorState K) (arms : List (Side × Fin armDof))
    {mailbox : Ordinary K} {joint : PvJoint K}
    (member : joint ∈ (stopFollowJoints config feedback arms mailbox).2.joints) :
    Carried mailbox.joints joint := by
  induction arms generalizing mailbox with
  | nil => exact carried_self member
  | cons first rest ih =>
    obtain ⟨side, arm⟩ := first
    unfold stopFollowJoints at member
    simp only at member
    split_ifs at member
    · exact carried_self member
    · refine .trans (fun changed before => ?_) (ih member)
      rcases mem_setJoint before with ⟨kept, -⟩ | ⟨previous, kept, -, rfl⟩
      · exact carried_self kept
      · exact .previous previous kept rfl rfl (.inl ⟨rfl, rfl⟩)

theorem carried_stopBimanualFollow (feedback : Motor → MotorState K) {joint : PvJoint K}
    (member : joint ∈ (c.stopBimanualFollow config feedback).2.mailbox.joints) :
    Carried c.mailbox.joints joint := by
  unfold ArmControl.stopBimanualFollow at member
  split at member
  · exact carried_self member
  · split_ifs at member
    · exact carried_self member
    · split at member
      · rename_i mailbox ordinary
        rw [ordinary]
        split at member
        · rename_i error stopped ended
          have stoppedMember : joint ∈ (stopFollowJoints config feedback armJoints mailbox).2.joints := by
            rw [ended]
            exact member
          exact carried_stopFollowJoints feedback armJoints stoppedMember
        · rename_i stopped ended
          have stoppedMember : joint ∈ (stopFollowJoints config feedback armJoints mailbox).2.joints := by
            rw [ended]
            exact member
          exact carried_stopFollowJoints feedback armJoints stoppedMember
      · exact carried_self member

/-- Every operation but a control cycle carries its joints over. -/
theorem carried_step (sqrt : K → K) {event : Event K} (other : ∀ input, event ≠ .cycle input) {joint : PvJoint K}
    (member : joint ∈ (step sqrt config c event).1.mailbox.joints) : Carried c.mailbox.joints joint := by
  cases event with
  | install request allowed feedback => exact carried_installJointPosition request allowed feedback member
  | motionLimits velocity acceleration limit => exact carried_updateMotionLimits velocity acceleration limit member
  | profileLimits velocities accelerations => exact carried_updateProfileLimits velocities accelerations member
  | fromFeedback requireEnabled feedback => exact carried_initializeArmMailbox requireEnabled feedback member
  | startFollow leaderSide allowed feedback =>
    have same : (step sqrt config c (.startFollow leaderSide allowed feedback)).1.mailbox = c.mailbox := by
      simp only [step, ArmControl.startBimanualFollow]
      split <;> rfl
    rw [same] at member
    exact carried_self member
  | stopFollow feedback => exact carried_stopBimanualFollow feedback member
  | resetFollow => exact carried_self member
  | replace pv =>
    cases pv with
    | none => exact absurd member List.not_mem_nil
    | some pv => exact absurd member List.not_mem_nil
  | cycle input => exact absurd rfl (other input)

end Commands

/-! ## The control cycle -/

section Cycle

variable (sqrt : K → K) (config : Config K) (follow : BimanualFollow K) (degraded : Bool)
  (feedback : Motor → MotorState K)

/-- The motor of a leader joint. -/
def BimanualFollow.leader (joint : Fin armDof) : Motor := (config.arms follow.leaderSide joint).motor

/-- The motor of a follower joint. -/
def BimanualFollow.follower (joint : Fin armDof) : Motor := (config.arms follow.leaderSide.other joint).motor

/-- The joint follows: what the loop body makes of a joint with the motor of a follower joint. -/
structure Follows (mailbox : Ordinary K) (joint : Fin armDof) (before after : PvJoint K) : Prop where
  motor : before.command.motor = follow.follower config joint
  after : ∃ leading ∈ mailbox.joints, leading.command.motor = follow.leader config joint ∧
    ∃ reading limits reference velocity, (feedback before.command.motor).reading = some reading ∧
      config.joint before.command.motor = some limits ∧
      (mailbox.perJointProfile = true → reference = follow.desired config leading.command.targetPosition joint) ∧
      after = before.follow mailbox.perJointProfile (follow.desired config leading.command.targetPosition joint)
        reference velocity (mailbox.followerVelocity sqrt config
          (mailbox.followerLimits degraded (layoutIndex follow.leaderSide.other joint))
          limits.velocityFeedbackScale reference reading before)

/-- What the loop over the follower joints leaves of a mailbox. -/
structure SameLimits (mailbox mailbox' : Ordinary K) : Prop where
  userCommand : mailbox'.userCommand = mailbox.userCommand
  perJointProfile : mailbox'.perJointProfile = mailbox.perJointProfile
  maxReferenceVelocity : mailbox'.maxReferenceVelocity = mailbox.maxReferenceVelocity
  maxReferenceAcceleration : mailbox'.maxReferenceAcceleration = mailbox.maxReferenceAcceleration
  pvVelocityLimit : mailbox'.pvVelocityLimit = mailbox.pvVelocityLimit
  velocityLimits : mailbox'.joints.map PvJoint.referenceVelocityLimit =
    mailbox.joints.map PvJoint.referenceVelocityLimit
  accelerationLimits : mailbox'.joints.map PvJoint.referenceAccelerationLimit =
    mailbox.joints.map PvJoint.referenceAccelerationLimit
  motors : (mailbox'.joints.map fun joint => joint.command.motor) = mailbox.joints.map fun joint => joint.command.motor
  holdsSized : mailbox.holdsSized = true → mailbox'.holdsSized = true

variable {sqrt config follow degraded feedback}

omit [LinearOrder K] [Field K] in
@[refl] theorem SameLimits.refl (mailbox : Ordinary K) : SameLimits mailbox mailbox :=
  ⟨rfl, rfl, rfl, rfl, rfl, rfl, rfl, rfl, id⟩

omit [LinearOrder K] [Field K] in
theorem SameLimits.trans {first second third : Ordinary K} (h : SameLimits first second)
    (h' : SameLimits second third) : SameLimits first third :=
  ⟨h'.userCommand.trans h.userCommand, h'.perJointProfile.trans h.perJointProfile,
    h'.maxReferenceVelocity.trans h.maxReferenceVelocity,
    h'.maxReferenceAcceleration.trans h.maxReferenceAcceleration, h'.pvVelocityLimit.trans h.pvVelocityLimit,
    h'.velocityLimits.trans h.velocityLimits, h'.accelerationLimits.trans h.accelerationLimits,
    h'.motors.trans h.motors, h'.holdsSized ∘ h.holdsSized⟩

omit [LinearOrder K] in
theorem SameLimits.followerLimits {mailbox mailbox' : Ordinary K} (same : SameLimits mailbox mailbox') (index : ℕ) :
    mailbox'.followerLimits degraded index = mailbox.followerLimits degraded index := by
  unfold Ordinary.followerLimits
  simp only
  have velocities := congrArg (·[index]?) same.velocityLimits
  have accelerations := congrArg (·[index]?) same.accelerationLimits
  simp only [List.getElem?_map] at velocities accelerations
  rw [velocities, accelerations, same.perJointProfile, same.maxReferenceVelocity, same.maxReferenceAcceleration]

/-- The leader joints do not follow. -/
theorem leader_ne_follower (joint joint' : Fin armDof) : follow.leader config joint ≠ follow.follower config joint' := by
  intro same
  have sides := (config.arms_distinct _ _ _ _ same).1
  generalize follow.leaderSide = side at sides
  cases side <;> cases sides

/-- What one joint of the loop sees of the leader joints and of the limits is there before the loop. -/
theorem Follows.of_same {mailbox mailbox' : Ordinary K} (same : SameLimits mailbox mailbox') {joint : Fin armDof}
    (leaders : ∀ leading ∈ mailbox'.joints, leading.command.motor = follow.leader config joint →
      leading ∈ mailbox.joints) {before after : PvJoint K}
    (follows : Follows sqrt config follow degraded feedback mailbox' joint before after) :
    Follows sqrt config follow degraded feedback mailbox joint before after := by
  obtain ⟨motor, leading, held, leads, reading, limits, reference, velocity, fresh, configured, profile, rfl⟩ := follows
  rw [same.perJointProfile] at profile
  refine ⟨motor, leading, leaders leading held leads, leads, reading, limits, reference, velocity, fresh, configured,
    profile, ?_⟩
  unfold Ordinary.followerVelocity
  rw [same.followerLimits, same.perJointProfile, same.pvVelocityLimit]

theorem Follows.after_motor {mailbox : Ordinary K} {joint : Fin armDof} {before after : PvJoint K}
    (follows : Follows sqrt config follow degraded feedback mailbox joint before after) :
    after.command.motor = before.command.motor := by
  obtain ⟨-, _, -, -, _, _, _, _, -, -, -, rfl⟩ := follows
  rfl

theorem followJoint_eq_ok {joint : Fin armDof} {s s' : Following K}
    (ok : follow.followJoint sqrt config degraded feedback joint s = .ok s') :
    SameLimits s.mailbox s'.mailbox ∧ ∀ after ∈ s'.mailbox.joints,
      (after ∈ s.mailbox.joints ∧ ((s.mailbox.joints.map fun joint => joint.command.motor).Nodup →
        after.command.motor ≠ follow.follower config joint)) ∨ ∃ before ∈ s.mailbox.joints,
        Follows sqrt config follow degraded feedback s.mailbox joint before after := by
  unfold BimanualFollow.followJoint at ok
  simp only at ok
  split at ok
  · rename_i leaderReading reading leaderFresh followerFresh
    split at ok
    · cases ok
    · rename_i leading found
      split at ok
      · cases ok
      · rename_i limits configured
        split_ifs at ok
        cases ok
        refine ⟨⟨rfl, rfl, rfl, rfl, rfl, ?_, ?_, ?_, id⟩, fun after member => ?_⟩
        · exact map_setJoint (by exact fun _ => rfl) _ _
        · exact map_setJoint (by exact fun _ => rfl) _ _
        · exact map_setJoint (by exact fun _ => rfl) _ _
        rcases mem_setJoint member with kept | ⟨before, kept, motor, rfl⟩
        · exact .inl kept
        · have leads := List.find?_some found
          rw [decide_eq_true_eq] at leads
          refine .inr ⟨before, kept, motor, leading, List.mem_of_find?_eq_some found, leads, reading, limits, _, _,
            motor ▸ followerFresh, motor ▸ configured, fun profile => ?_, rfl⟩
          rw [Following.reference, if_pos profile]
  · cases ok

/-- The loop leaves the leader joints. -/
theorem mem_of_followJoint {joint : Fin armDof} {s s' : Following K}
    (ok : follow.followJoint sqrt config degraded feedback joint s = .ok s') {joint' : Fin armDof}
    {leading : PvJoint K} (member : leading ∈ s'.mailbox.joints)
    (leads : leading.command.motor = follow.leader config joint') : leading ∈ s.mailbox.joints := by
  rcases (followJoint_eq_ok ok).2 leading member with ⟨kept, -⟩ | ⟨before, -, follows⟩
  · exact kept
  · exact absurd (leads.symm.trans (follows.after_motor.trans follows.motor)) (leader_ne_follower joint' joint)

variable (sqrt config follow degraded feedback) in
theorem sameLimits_followJoints (joints : List (Fin armDof)) (s : Following K) :
    SameLimits s.mailbox (follow.followJoints sqrt config degraded feedback joints s).2.mailbox := by
  induction joints generalizing s with
  | nil => rfl
  | cons joint rest ih =>
    unfold BimanualFollow.followJoints
    split
    · rfl
    · rename_i s' ok
      exact (followJoint_eq_ok ok).1.trans (ih s')

/-- A joint after the loop follows at most once, and just once at the end of the loop if it is a follower joint. -/
theorem mem_followJoints {joints : List (Fin armDof)} (once : joints.Nodup) {s : Following K} {after : PvJoint K}
    (member : after ∈ (follow.followJoints sqrt config degraded feedback joints s).2.mailbox.joints) :
    (after ∈ s.mailbox.joints ∧ ((follow.followJoints sqrt config degraded feedback joints s).1 = .ok () →
      (s.mailbox.joints.map fun joint => joint.command.motor).Nodup →
      ∀ joint ∈ joints, after.command.motor ≠ follow.follower config joint)) ∨
      ∃ joint ∈ joints, ∃ before ∈ s.mailbox.joints,
        Follows sqrt config follow degraded feedback s.mailbox joint before after := by
  induction joints generalizing s with
  | nil => exact .inl ⟨member, fun _ _ _ none => absurd none List.not_mem_nil⟩
  | cons joint rest ih =>
    unfold BimanualFollow.followJoints at member ⊢
    cases ok : follow.followJoint sqrt config degraded feedback joint s with
    | error error =>
      simp only [ok] at member ⊢
      exact .inl ⟨member, nofun⟩
    | ok s' =>
      simp only [ok] at member ⊢
      obtain ⟨same, stepped⟩ := followJoint_eq_ok ok
      obtain ⟨fresh, once⟩ := List.nodup_cons.mp once
      rcases ih once member with ⟨kept, others⟩ | ⟨joint', later, middle, kept, follows'⟩
      · rcases stepped after kept with ⟨before, other⟩ | ⟨before, first, follows⟩
        · refine .inl ⟨before, fun complete distinct j listed => ?_⟩
          rcases List.mem_cons.mp listed with rfl | later
          · exact other distinct
          · exact others complete (same.motors ▸ distinct) j later
        · exact .inr ⟨joint, List.mem_cons_self .., before, first, follows⟩
      · rcases stepped middle kept with ⟨before, -⟩ | ⟨before, first, follows⟩
        · exact .inr ⟨joint', List.mem_cons_of_mem _ later, middle, before,
            follows'.of_same same fun _ => mem_of_followJoint ok⟩
        · have both := follows'.motor.symm.trans (follows.after_motor.trans follows.motor)
          exact absurd ((config.arms_distinct _ _ _ _ both).2 ▸ later) fresh

omit [LinearOrder K] [Field K] in
theorem sameLimits_sizeHolds (mailbox : Ordinary K) : SameLimits mailbox mailbox.sizeHolds := by
  unfold Ordinary.sizeHolds
  split_ifs
  · rfl
  · refine ⟨rfl, rfl, rfl, rfl, rfl, ?_, ?_, ?_, fun _ => rfl⟩ <;> rw [List.map_map] <;> rfl

theorem updateHold_frame (config : Config K) (joint : PvJoint K) (reading : Option (Reading K)) :
    ∃ confirmations held target, joint.updateHold config reading = { joint with
      holdConfirmationCycles := confirmations, stationaryHold := held, holdTargetPosition := target } := by
  unfold PvJoint.updateHold
  split <;> split_ifs <;> exact ⟨_, _, _, rfl⟩

theorem sameLimits_advance (mailbox : Ordinary K) :
    SameLimits mailbox (mailbox.advance sqrt config degraded feedback) := by
  have sized := sameLimits_sizeHolds mailbox
  refine sized.trans ⟨rfl, rfl, rfl, rfl, rfl, ?_, ?_, ?_, id⟩ <;>
  · simp only [Ordinary.advance, List.map_map]
    refine List.map_congr_left fun joint _ => ?_
    obtain ⟨_, _, _, held⟩ := updateHold_frame config joint (feedback joint.command.motor).reading
    simp only [Function.comp_apply, Ordinary.advanceJoint, held]

/-- The loop over the follower joints of a cycle reaches its end. -/
def ArmControl.Completes (sqrt : K → K) (config : Config K) (c : ArmControl K) (input : CycleInput K) : Prop :=
  ∀ mailbox follow, c.mailbox = .ordinary mailbox → c.follow = some follow →
    (follow.followJoints sqrt config input.degraded input.followFeedback (List.finRange armDof)
      ⟨mailbox.advance sqrt config input.degraded input.feedback, follow.followerReference,
        follow.followerReferenceVelocity⟩).1 = .ok ()

/-- A joint after a control cycle. -/
inductive Cycled (sqrt : K → K) (config : Config K) (c : ArmControl K) (mailbox : Ordinary K) (input : CycleInput K)
    (before after : PvJoint K) : Prop
  | advanced (after_eq : after = mailbox.advanceJoint sqrt config input.degraded
        (input.feedback before.command.motor) before)
      (unfollowed : c.Completes sqrt config input → (mailbox.joints.map fun joint => joint.command.motor).Nodup →
        ∀ follow, c.follow = some follow → ∀ joint, before.command.motor ≠ follow.follower config joint)
  | followed (follow : BimanualFollow K) (active : c.follow = some follow) (joint : Fin armDof)
      (follows : Follows sqrt config follow input.degraded input.followFeedback
        (mailbox.advance sqrt config input.degraded input.feedback) joint
        (mailbox.advanceJoint sqrt config input.degraded (input.feedback before.command.motor) before) after)

variable (sqrt config) in
/-- A control cycle leaves the limits of a mailbox. -/
theorem sameLimits_cycle {c : ArmControl K} {mailbox : Ordinary K} (ordinary : c.mailbox = .ordinary mailbox)
    (input : CycleInput K) : ∃ mailbox', (c.cycle sqrt config input).2.mailbox = .ordinary mailbox' ∧
      SameLimits mailbox mailbox' := by
  have advanced : SameLimits mailbox (mailbox.advance sqrt config input.degraded input.feedback) :=
    sameLimits_advance mailbox
  unfold ArmControl.cycle
  rw [ordinary]
  simp only
  cases mailbox.consistent with
  | false => exact ⟨mailbox, ordinary, .refl mailbox⟩
  | true =>
    rw [Bool.not_true, if_neg Bool.false_ne_true]
    split
    · exact ⟨_, rfl, advanced⟩
    · rename_i follow active
      have followed := sameLimits_followJoints sqrt config follow input.degraded input.followFeedback
        (List.finRange armDof) ⟨mailbox.advance sqrt config input.degraded input.feedback,
          follow.followerReference, follow.followerReferenceVelocity⟩
      split
      · rename_i looped
        rw [looped] at followed
        exact ⟨_, rfl, advanced.trans followed⟩
      · rename_i looped
        rw [looped] at followed
        exact ⟨_, rfl, advanced.trans followed⟩

theorem mem_cycle {c : ArmControl K} {input : CycleInput K} {after : PvJoint K}
    (member : after ∈ (c.cycle sqrt config input).2.mailbox.joints) :
    ∃ mailbox, c.mailbox = .ordinary mailbox ∧ (mailbox.consistent = true →
      ∃ before ∈ mailbox.sizeHolds.joints, Cycled sqrt config c mailbox input before after) := by
  unfold ArmControl.cycle at member
  split at member
  · rename_i none
    rw [none] at member
    exact absurd member List.not_mem_nil
  · rename_i pv commands
    split at member
    · rw [commands] at member
      exact absurd member List.not_mem_nil
    · rw [commands] at member
      exact absurd member List.not_mem_nil
  · rename_i mailbox ordinary
    refine ⟨mailbox, ordinary, fun consistent => ?_⟩
    have each : ∀ joint ∈ (mailbox.advance sqrt config input.degraded input.feedback).joints,
        ∃ before ∈ mailbox.sizeHolds.joints, joint = mailbox.advanceJoint sqrt config input.degraded
          (input.feedback before.command.motor) before := by
      intro joint advanced
      obtain ⟨before, held, rfl⟩ := List.mem_map.mp advanced
      exact ⟨before, held, rfl⟩
    simp only [consistent, Bool.not_true, Bool.false_eq_true, if_false] at member
    split at member
    · rename_i inactive
      obtain ⟨before, held, rfl⟩ := each after member
      refine ⟨before, held, .advanced rfl fun _ _ follow active => ?_⟩
      exact absurd (inactive.symm.trans active) nofun
    · rename_i follow active
      have followed : after ∈ (follow.followJoints sqrt config input.degraded input.followFeedback
          (List.finRange armDof) ⟨mailbox.advance sqrt config input.degraded input.feedback,
            follow.followerReference, follow.followerReferenceVelocity⟩).2.mailbox.joints := by
        split at member
        · rename_i looped
          rw [looped]
          exact member
        · rename_i looped
          rw [looped]
          exact member
      rcases mem_followJoints (List.nodup_finRange _) followed with
        ⟨kept, unfollowed⟩ | ⟨joint, -, middle, kept, follows⟩
      · obtain ⟨before, held, rfl⟩ := each after kept
        refine ⟨before, held, .advanced rfl fun complete distinct follow' active' joint => ?_⟩
        cases active.symm.trans active'
        have same : SameLimits mailbox (mailbox.advance sqrt config input.degraded input.feedback) :=
          sameLimits_advance mailbox
        exact unfollowed (complete mailbox follow ordinary active) (same.motors ▸ distinct) joint
          (List.mem_finRange joint)
      · obtain ⟨before, held, rfl⟩ := each middle kept
        exact ⟨before, held, .followed follow active joint follows⟩

/-- The batch that a cycle sends is the one of the mailbox that it leaves. -/
theorem cycle_sent {c : ArmControl K} {input : CycleInput K} {batch : List (PvCommand K)}
    (sent : (c.cycle sqrt config input).1 = .sent batch) : batch = filteredBatch input.disabled
      (degradedBatch input.degraded (c.cycle sqrt config input).2.mailbox.pv) := by
  have sends : ∀ pv, input.send pv = .sent batch →
      batch = filteredBatch input.disabled (degradedBatch input.degraded pv) := by
    intro pv sent
    unfold CycleInput.send at sent
    split_ifs at sent
    cases sent
    rfl
  revert sent
  unfold ArmControl.cycle
  split
  · exact nofun
  · rename_i pv commands
    split
    · exact nofun
    · rw [commands]
      exact sends pv
  · rename_i mailbox ordinary
    cases mailbox.consistent with
    | false => exact nofun
    | true =>
      simp only [Bool.not_true, Bool.false_eq_true, if_false]
      split
      · exact sends _
      · split
        · exact nofun
        · exact sends _

/-- A command that a cycle sends is the one of a joint that it leaves, with the scale of `DEGRADED`. -/
theorem mem_sent {c : ArmControl K} {input : CycleInput K} {batch : List (PvCommand K)} {mailbox : Ordinary K}
    (sent : (c.cycle sqrt config input).1 = .sent batch)
    (after : (c.cycle sqrt config input).2.mailbox = .ordinary mailbox) {command : PvCommand K}
    (member : command ∈ batch) : ∃ joint ∈ mailbox.joints, command = { joint.command with
      velocityLimit := joint.command.velocityLimit * commandScale input.degraded } := by
  rw [cycle_sent sent, after] at member
  have scaled := (List.mem_filter.mp member).1
  unfold degradedBatch at scaled
  split_ifs at scaled with degraded
  · obtain ⟨command, listed, rfl⟩ := List.mem_map.mp scaled
    obtain ⟨joint, held, rfl⟩ := List.mem_map.mp listed
    refine ⟨joint, held, ?_⟩
    rw [degraded, commandScale, if_pos rfl]
  · obtain ⟨joint, held, rfl⟩ := List.mem_map.mp scaled
    refine ⟨joint, held, ?_⟩
    rw [Bool.eq_false_iff.mpr degraded, commandScale, if_neg Bool.false_ne_true, mul_one]

/-- A cycle sends every joint that it leaves and that is not disabled on purpose. -/
theorem mem_batch {c : ArmControl K} {input : CycleInput K} {batch : List (PvCommand K)} {mailbox : Ordinary K}
    (sent : (c.cycle sqrt config input).1 = .sent batch)
    (after : (c.cycle sqrt config input).2.mailbox = .ordinary mailbox) {joint : PvJoint K}
    (member : joint ∈ mailbox.joints) (enabled : joint.command.motor ∉ input.disabled) : { joint.command with
      velocityLimit := joint.command.velocityLimit * commandScale input.degraded } ∈ batch := by
  have listed : joint.command ∈ ArmMailbox.pv (.ordinary mailbox) := List.mem_map_of_mem member
  rw [cycle_sent sent, after]
  refine List.mem_filter.mpr ⟨?_, decide_eq_true enabled⟩
  unfold degradedBatch commandScale
  split_ifs
  · exact List.mem_map.mpr ⟨joint.command, listed, rfl⟩
  · rw [mul_one]
    exact listed

end Cycle

end MotorDrive.Control
