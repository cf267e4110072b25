import MotorDrive.Control.Envelope
import MotorDrive.Runtime.State

/-!
# The speed scale of the degraded state

The velocity limits that a control cycle can put on the wire for a motor (`wire`), over all that the motors can
report, and the greatest of them in `RUNNING` and in `DEGRADED`.
-/

namespace MotorDrive.Control

open Trajectory (Motor)
open History

/-- The `command_scale` that `health` reports. -/
def healthCommandScale {K : Type} [Field K] : Runtime.SafetyState → K
  | .degraded => 1 / 4
  | .safeStop => 0
  | _ => 1

section Wire

variable {K : Type} [Field K] [LinearOrder K]

/-- The velocity limits that a cycle can send to a motor. -/
def ArmControl.wire (sqrt : K → K) (config : Config K) (c : ArmControl K) (degraded : Bool) (motor : Motor) :
    Set K :=
  {limit | ∃ input batch command, input.degraded = degraded ∧ (c.cycle sqrt config input).1 = .sent batch ∧
    command ∈ batch ∧ command.motor = motor ∧ command.velocityLimit = limit}

/-- The bimanual follow does not refuse every cycle of a mailbox. -/
def ArmControl.Sendable (config : Config K) (c : ArmControl K) (mailbox : Ordinary K) : Prop :=
  ∀ follow, c.follow = some follow → ∀ joint, follow.Ready config PvJoint.finalPosition mailbox.joints joint

/-- The follower joint of a motor in the bimanual follow. -/
def ArmControl.followerOf (config : Config K) (c : ArmControl K) (motor : Motor) :
    Option (BimanualFollow K × Fin armDof) :=
  c.follow.bind fun follow =>
    ((List.finRange armDof).find? fun joint => follow.follower config joint = motor).map fun joint => (follow, joint)

/-- The limit that the last pass of a cycle over a joint goes up to. -/
def ArmControl.lastLimit (config : Config K) (c : ArmControl K) (mailbox : Ordinary K) (degraded : Bool)
    (joint : PvJoint K) : K :=
  match c.followerOf config joint.command.motor with
  | some (follow, place) => if mailbox.perJointProfile then
      (mailbox.followerLimits degraded (layoutIndex follow.leaderSide.other place)).1 /
        config.velocityFeedbackScale joint.command.motor
      else max config.safePvVelocityLimit mailbox.pvVelocityLimit
  | none => mailbox.maximumVelocity config degraded joint

/-- The speed scale reaches the limit of a motor once: the mailbox is not an ordinary command, or it cannot be sent,
or the joint follows with shared limits, or its limit is zero. -/
def ArmControl.ScaledOnce (config : Config K) (c : ArmControl K) (motor : Motor) : Prop :=
  ∀ mailbox, c.mailbox = .ordinary mailbox → c.Sendable config mailbox →
    ∀ joint ∈ mailbox.joints, joint.command.motor = motor →
      (c.followerOf config motor).isSome = true ∧ mailbox.perJointProfile = false ∨
        c.lastLimit config mailbox false joint = 0

variable {sqrt : K → K} {config : Config K} {c : ArmControl K} {mailbox : Ordinary K} {input : CycleInput K}

theorem followerOf_eq_some {follow : BimanualFollow K} (active : c.follow = some follow) {j : Fin armDof}
    {motor : Motor} (follower : motor = follow.follower config j) :
    c.followerOf config motor = some (follow, j) := by
  have found : (List.finRange armDof).find? (fun joint => follow.follower config joint = motor) = some j := by
    cases found : (List.finRange armDof).find? fun joint => follow.follower config joint = motor with
    | none => exact absurd (List.find?_eq_none.mp found j (List.mem_finRange j)) (by simp [follower])
    | some j' =>
      have same := List.find?_some found
      rw [decide_eq_true_eq] at same
      rw [(config.arms_distinct _ _ _ _ (same.trans follower)).2]
  rw [ArmControl.followerOf, active, Option.bind_some, found]
  rfl

theorem followerOf_eq_none {motor : Motor}
    (others : ∀ follow, c.follow = some follow → ∀ joint, motor ≠ follow.follower config joint) :
    c.followerOf config motor = none := by
  unfold ArmControl.followerOf
  cases active : c.follow with
  | none => rfl
  | some follow =>
    rw [Option.bind_some, Option.map_eq_none_iff, List.find?_eq_none]
    intro joint _ same
    rw [decide_eq_true_eq] at same
    exact others follow active joint same.symm

theorem active_of_followerOf {follow : BimanualFollow K} {j : Fin armDof} {motor : Motor}
    (found : c.followerOf config motor = some (follow, j)) : c.follow = some follow := by
  obtain ⟨_, active, mapped⟩ := Option.bind_eq_some_iff.mp found
  obtain ⟨_, -, same⟩ := Option.map_eq_some_iff.mp mapped
  cases same
  exact active

/-- A cycle that sends has completed the bimanual follow. -/
theorem completes_of_sent {batch : List (PvCommand K)} (sent : (c.cycle sqrt config input).1 = .sent batch) :
    c.Completes sqrt config input := by
  intro mailbox follow ordinary active
  unfold ArmControl.cycle at sent
  rw [ordinary, active] at sent
  cases consistent : mailbox.consistent with
  | false =>
    simp only [consistent, Bool.not_false, if_true] at sent
    cases sent
  | true =>
    simp only [consistent, Bool.not_true, Bool.false_eq_true, if_false] at sent
    split at sent
    · cases sent
    · rename_i looped
      rw [looped]

/-- A cycle that completes the bimanual follow sends. -/
theorem exists_sent (ordinary : c.mailbox = .ordinary mailbox) (consistent : mailbox.consistent = true)
    (complete : c.Completes sqrt config input) (sends : input.sends = true) :
    ∃ batch, (c.cycle sqrt config input).1 = .sent batch := by
  have sent : ∀ pv, ∃ batch, input.send pv = .sent batch := fun pv => ⟨_, CycleInput.send_of_sends sends pv⟩
  unfold ArmControl.cycle
  rw [ordinary]
  simp only [consistent, Bool.not_true, Bool.false_eq_true, if_false]
  split
  · exact sent _
  · rename_i follow active
    have ok := complete mailbox follow ordinary active
    split
    · rename_i looped
      rw [looped] at ok
      cases ok
    · exact sent _

omit [Field K] [LinearOrder K] in
/-- A joint with a hold of a size. -/
theorem eq_of_mem_sizeHolds (distinct : (mailbox.joints.map fun joint => joint.command.motor).Nodup)
    {joint before : PvJoint K} (member : joint ∈ mailbox.joints) (sized : before ∈ mailbox.sizeHolds.joints)
    (motor : before.command.motor = joint.command.motor) : before = joint ∨ before = joint.resetHold := by
  rcases mem_sizeHolds sized with held | ⟨previous, held, rfl⟩
  · exact .inl (List.inj_on_of_nodup_map distinct held member motor)
  · exact .inr (congrArg PvJoint.resetHold (List.inj_on_of_nodup_map distinct held member motor))

end Wire

/-! ## The last pass over a joint -/

section Pass

variable {K : Type} [Field K] [LinearOrder K] [IsStrictOrderedRing K] {sqrt : K → K} {config : Config K}
  {c : ArmControl K} {mailbox : Ordinary K} {input : CycleInput K} {joint : PvJoint K}

variable (config) in
/-- The limits of a joint of a valid mailbox. -/
theorem Ordinary.Valid.maximum_nonneg (valid : mailbox.Valid) (member : joint ∈ mailbox.joints) (degraded : Bool) :
    0 ≤ mailbox.maximumVelocity config degraded joint ∧ 0 < mailbox.maximumAcceleration config degraded joint := by
  cases profile : mailbox.perJointProfile with
  | true =>
    have positive : 0 < mailbox.maximumVelocity config degraded joint ∧
        0 < mailbox.maximumAcceleration config degraded joint :=
      valid.maximum_pos profile (List.mem_map_of_mem member) (List.mem_map_of_mem member)
    exact ⟨positive.1.le, positive.2⟩
  | false =>
    obtain ⟨-, acceleration, limit⟩ := consistent_iff.mp valid.consistent
    have scale := commandScale_pos (K := K) degraded
    have feedbackScale := velocityFeedbackScale_pos config joint.command.motor
    unfold Ordinary.maximumVelocity Ordinary.maximumAcceleration
    rw [profile, if_neg Bool.false_ne_true, if_neg Bool.false_ne_true]
    exact ⟨div_nonneg (mul_nonneg limit scale.le) feedbackScale.le,
      div_pos (mul_pos (mul_pos acceleration scale) scale) feedbackScale⟩

/-- The limits of a place of the product layout in a profile: those of a joint, or none. -/
theorem Ordinary.Valid.followerLimits_pos (valid : mailbox.Valid) (profile : mailbox.perJointProfile = true)
    (degraded : Bool) (index : ℕ) : (mailbox.followerLimits degraded index).1 = 0 ∨
      0 < (mailbox.followerLimits degraded index).1 ∧ 0 < (mailbox.followerLimits degraded index).2 := by
  have scale := commandScale_pos (K := K) degraded
  unfold Ordinary.followerLimits
  rw [if_pos profile]
  cases place : mailbox.joints[index]? with
  | none => exact .inl (zero_mul _)
  | some entry =>
    have member := List.mem_of_getElem? place
    exact .inr ⟨mul_pos (valid.velocityLimits profile _ (List.mem_map_of_mem member)) scale,
      mul_pos (valid.accelerationLimits profile _ (List.mem_map_of_mem member)) (mul_pos scale scale)⟩

omit [IsStrictOrderedRing K] in
/-- What a joint is sent in a cycle that completes: the limit of its only pass, the limit of its second pass in a
profile, or the shared limit of the follower joints. -/
theorem cycle_lastLimit (valid : mailbox.Valid) (ordinary : c.mailbox = .ordinary mailbox)
    (complete : c.Completes sqrt config input) (member : joint ∈ mailbox.joints) {after : PvJoint K}
    (afterMember : after ∈ (c.cycle sqrt config input).2.mailbox.joints)
    (motor : after.command.motor = joint.command.motor) :
    ∃ before, (before = joint ∨ before = joint.resetHold) ∧
      ((c.followerOf config joint.command.motor = none ∧ after.command.velocityLimit = (mailbox.advanceJoint sqrt
          config input.degraded (input.feedback joint.command.motor) before).command.velocityLimit) ∨
      ∃ follow place leading reading limits, c.followerOf config joint.command.motor = some (follow, place) ∧
        leading ∈ mailbox.joints ∧ leading.command.motor = follow.leader config place ∧
        (input.followFeedback joint.command.motor).reading = some reading ∧
        config.joint joint.command.motor = some limits ∧ ∃ reference,
          (mailbox.perJointProfile = true → reference = follow.desired config leading.finalPosition place) ∧
          after.command.velocityLimit = mailbox.followerVelocity sqrt config
            (mailbox.followerLimits input.degraded (layoutIndex follow.leaderSide.other place))
            limits.velocityFeedbackScale reference reading (mailbox.advanceJoint sqrt config input.degraded
              (input.feedback joint.command.motor) before)) := by
  obtain ⟨_, ordinary', consistent⟩ := mem_cycle afterMember
  cases ordinary.symm.trans ordinary'
  obtain ⟨before, sized, cycled⟩ := consistent valid.consistent
  have same : SameLimits mailbox (mailbox.advance sqrt config input.degraded input.feedback) :=
    sameLimits_advance mailbox
  cases cycled with
  | advanced after_eq unfollowed =>
    subst after_eq
    have beforeMotor : before.command.motor = joint.command.motor := motor
    have others := unfollowed complete valid.motors
    rw [beforeMotor] at others
    refine ⟨before, eq_of_mem_sizeHolds valid.motors member sized motor, .inl ⟨followerOf_eq_none others, ?_⟩⟩
    rw [beforeMotor]
  | followed follow active place follows =>
    have beforeMotor : before.command.motor = joint.command.motor := follows.after_motor.symm.trans motor
    refine ⟨before, eq_of_mem_sizeHolds valid.motors member sized beforeMotor, .inr ?_⟩
    obtain ⟨follower, _, leads, leader, reading, limits, reference, velocity, fresh, configured, aims, rfl⟩ := follows
    obtain ⟨leading, kept, rfl⟩ := List.mem_map.mp leads
    have follower : joint.command.motor = follow.follower config place := beforeMotor.symm.trans follower
    rw [← beforeMotor] at follower ⊢
    rcases mem_sizeHolds kept with origin | ⟨origin, held, rfl⟩
    · refine ⟨follow, place, leading, reading, limits, followerOf_eq_some active follower, origin, leader, fresh,
        configured, reference, fun profile => aims (same.perJointProfile.trans profile), ?_⟩
      rw [PvJoint.follow, same.followerLimits, Ordinary.followerVelocity, same.perJointProfile, same.pvVelocityLimit]
      rfl
    · refine ⟨follow, place, origin, reading, limits, followerOf_eq_some active follower, held, leader, fresh,
        configured, reference, fun profile => aims (same.perJointProfile.trans profile), ?_⟩
      rw [PvJoint.follow, same.followerLimits, Ordinary.followerVelocity, same.perJointProfile, same.pvVelocityLimit]
      rfl

theorem advanceJoint_le (valid : mailbox.Valid) (member : joint ∈ mailbox.joints) {before : PvJoint K}
    (sized : before = joint ∨ before = joint.resetHold) {degraded : Bool} {state : MotorState K} :
    (mailbox.advanceJoint sqrt config degraded state before).command.velocityLimit ≤
      mailbox.maximumVelocity config degraded joint := by
  have nonneg := (valid.maximum_nonneg config member degraded).1
  have same : mailbox.maximumVelocity config degraded before = mailbox.maximumVelocity config degraded joint := by
    rcases sized with rfl | rfl <;> rfl
  rw [← same] at nonneg ⊢
  unfold Ordinary.advanceJoint Ordinary.driveVelocity
  simp only
  split_ifs
  · exact nonneg
  · split
    · exact advance_le_limit nonneg
    · exact nonneg

/-- No cycle sends a joint a limit above its last one. -/
theorem le_lastLimit (valid : mailbox.Valid) (ordinary : c.mailbox = .ordinary mailbox)
    (complete : c.Completes sqrt config input) (member : joint ∈ mailbox.joints) {after : PvJoint K}
    (afterMember : after ∈ (c.cycle sqrt config input).2.mailbox.joints)
    (motor : after.command.motor = joint.command.motor) :
    after.command.velocityLimit ≤ c.lastLimit config mailbox input.degraded joint := by
  obtain ⟨before, sized, ⟨unfollowed, velocity⟩ | ⟨follow, place, leading, reading, limits, followed, -, -, -,
    configured, reference, -, velocity⟩⟩ := cycle_lastLimit valid ordinary complete member afterMember motor
  · rw [velocity, ArmControl.lastLimit, unfollowed]
    exact advanceJoint_le valid member sized
  · have scale : config.velocityFeedbackScale joint.command.motor = limits.velocityFeedbackScale := by
      rw [Config.velocityFeedbackScale, configured]
      rfl
    rw [velocity, ArmControl.lastLimit, followed, Ordinary.followerVelocity, scale]
    simp only
    split_ifs with profile
    · refine advance_le_limit (div_nonneg ?_ limits.velocityFeedbackScale_pos.le)
      rcases valid.followerLimits_pos profile input.degraded (layoutIndex follow.leaderSide.other place) with
        zero | positive
      · exact zero.symm.le
      · exact positive.1.le
    · exact le_rfl

end Pass

/-! ## The greatest limit -/

/-- A cycle in which all motors report the same. -/
def probe {K : Type} (degraded : Bool) (position velocity : K) : CycleInput K :=
  ⟨degraded, fun _ => ⟨true, true, 1, some position, some velocity⟩,
    fun _ => ⟨true, true, 1, some position, some velocity⟩, fun _ => ⟨true, true, 1, some position, some velocity⟩,
    [], true⟩

/-- A distance from which a joint may move at its limit. -/
def farAway {K : Type} [Field K] (limit acceleration : K) : K := limit ^ 2 / (2 * acceleration) + 1

section Greatest

variable {config : Config ℝ} {c : ArmControl ℝ} {mailbox : Ordinary ℝ} {joint : PvJoint ℝ}

theorem far_farAway {limit acceleration : ℝ} (acceleration_pos : 0 < acceleration) :
    holdPositionTolerance < farAway limit acceleration ∧
      limit ≤ Real.sqrt (2 * acceleration * farAway limit acceleration) := by
  have twice : 0 < 2 * acceleration := mul_pos two_pos acceleration_pos
  have braking : 0 ≤ limit ^ 2 / (2 * acceleration) := div_nonneg (sq_nonneg limit) twice.le
  have distance : 2 * acceleration * farAway limit acceleration = limit ^ 2 + 2 * acceleration := by
    rw [farAway, mul_add, mul_div_cancel₀ _ twice.ne', mul_one]
  refine ⟨?_, ?_⟩
  · rw [farAway, holdPositionTolerance]
    linarith
  · rw [distance]
    exact Real.le_sqrt_of_sq_le (by linarith)

/-- A pass at the limit and far away from the target goes up to the limit. -/
theorem advance_farAway {previous limit acceleration period : ℝ} (previous_nonneg : 0 ≤ previous)
    (limit_pos : 0 < limit) (acceleration_pos : 0 < acceleration) (period_pos : 0 < period) :
    advanceOrdinaryPvDriveVelocity Real.sqrt previous limit (farAway limit acceleration) limit acceleration period =
      limit := by
  obtain ⟨far, reached⟩ := far_farAway acceleration_pos
  have nonneg : 0 ≤ farAway limit acceleration :=
    (by norm_num [holdPositionTolerance] : (0 : ℝ) ≤ holdPositionTolerance).trans far.le
  have top : ceiling Real.sqrt limit acceleration (farAway limit acceleration) = limit := min_eq_left reached
  rw [advance_eq previous_nonneg nonneg limit_pos acceleration_pos period_pos, top, if_pos (min_le_right _ _),
    abs_of_pos limit_pos, min_self]
  exact min_eq_left (le_add_of_le_of_nonneg (le_max_right _ _) (mul_pos acceleration_pos period_pos).le)

/-- A joint that reports to be far away and at its limit is sent its limit. -/
theorem advanceJoint_farAway (valid : mailbox.Valid) (member : joint ∈ mailbox.joints)
    (drive_nonneg : 0 ≤ joint.driveVelocityCommand) {before : PvJoint ℝ}
    (sized : before = joint ∨ before = joint.resetHold) {degraded : Bool}
    (limit_pos : 0 < mailbox.maximumVelocity config degraded joint) {state : MotorState ℝ}
    (reading : state.reading = some ⟨joint.finalPosition +
        farAway (mailbox.maximumVelocity config degraded joint) (mailbox.maximumAcceleration config degraded joint),
      mailbox.maximumVelocity config degraded joint⟩) :
    (mailbox.advanceJoint Real.sqrt config degraded state before).command.velocityLimit =
      mailbox.maximumVelocity config degraded joint := by
  have acceleration_pos := (valid.maximum_nonneg config member degraded).2
  obtain ⟨far, -⟩ := far_farAway acceleration_pos
  have distance : |joint.finalPosition + farAway (mailbox.maximumVelocity config degraded joint)
      (mailbox.maximumAcceleration config degraded joint) - joint.finalPosition| = farAway
      (mailbox.maximumVelocity config degraded joint) (mailbox.maximumAcceleration config degraded joint) := by
    rw [add_sub_cancel_left]
    exact abs_of_nonneg ((by norm_num [holdPositionTolerance] : (0 : ℝ) ≤ holdPositionTolerance).trans far.le)
  have top := advance_farAway drive_nonneg limit_pos acceleration_pos config.period_pos
  have unheld : (before.updateHold config state.reading).stationaryHold = false := by
    rw [reading]
    refine updateHold_far ?_
    rcases sized with rfl | rfl <;> exact far.trans_eq distance.symm
  rw [Ordinary.advanceJoint, unheld, if_neg Bool.false_ne_true, reading]
  rcases sized with rfl | rfl
  · rw [Ordinary.driveVelocity, distance]
    exact top
  · change advanceOrdinaryPvDriveVelocity Real.sqrt joint.driveVelocityCommand _ |_ - joint.finalPosition|
      (mailbox.maximumVelocity config degraded joint) (mailbox.maximumAcceleration config degraded joint) _ = _
    rw [distance]
    exact top

theorem completes_probe (valid : mailbox.Valid) (ordinary : c.mailbox = .ordinary mailbox)
    (sendable : c.Sendable config mailbox) (degraded : Bool) (position velocity : ℝ) :
    c.Completes Real.sqrt config (probe degraded position velocity) := by
  intro mailbox' follow ordinary' active
  exact (completes_iff valid.motors ordinary active _).mpr (fun j => ⟨⟨rfl, rfl⟩, sendable follow active j⟩)
    mailbox' follow ordinary' active

/-- Some cycle sends a joint its last limit. -/
theorem exists_probe (valid : mailbox.Valid) (ordinary : c.mailbox = .ordinary mailbox)
    (sendable : c.Sendable config mailbox) (member : joint ∈ mailbox.joints)
    (drive_nonneg : 0 ≤ joint.driveVelocityCommand) (degraded : Bool) :
    ∃ position velocity, ∀ after ∈ (c.cycle Real.sqrt config (probe degraded position velocity)).2.mailbox.joints,
      after.command.motor = joint.command.motor →
        after.command.velocityLimit = c.lastLimit config mailbox degraded joint := by
  have complete := completes_probe valid ordinary sendable degraded
  cases followed : c.followerOf config joint.command.motor with
  | none =>
    rw [ArmControl.lastLimit, followed]
    simp only
    refine ⟨joint.finalPosition + farAway (mailbox.maximumVelocity config degraded joint)
      (mailbox.maximumAcceleration config degraded joint), mailbox.maximumVelocity config degraded joint,
      fun after afterMember motor => ?_⟩
    obtain ⟨before, sized, ⟨-, velocity⟩ | ⟨_, _, _, _, _, other, -⟩⟩ :=
      cycle_lastLimit valid ordinary (complete _ _) member afterMember motor
    · rw [velocity]
      rcases (valid.maximum_nonneg config member degraded).1.eq_or_lt with zero | positive
      · rw [← zero]
        exact le_antisymm ((advanceJoint_le valid member sized).trans_eq zero.symm)
          (driveVelocityCommand_nonneg Real.sqrt_nonneg)
      · exact advanceJoint_farAway valid member drive_nonneg sized positive rfl
    · cases followed.symm.trans other
  | some pair =>
    obtain ⟨follow, place⟩ := pair
    have active := active_of_followerOf followed
    obtain ⟨⟨leading, leads, leader, limits, configured, -⟩, -⟩ := sendable follow active place
    have scale_pos := velocityFeedbackScale_pos config joint.command.motor
    rw [ArmControl.lastLimit, followed]
    simp only
    generalize bounded : mailbox.followerLimits degraded (layoutIndex follow.leaderSide.other place) = bounds
    have place_pos := fun profile => valid.followerLimits_pos profile degraded
      (layoutIndex follow.leaderSide.other place)
    rw [bounded] at place_pos
    refine ⟨follow.desired config leading.finalPosition place +
        farAway (bounds.1 / config.velocityFeedbackScale joint.command.motor)
          (bounds.2 / config.velocityFeedbackScale joint.command.motor),
      bounds.1 / config.velocityFeedbackScale joint.command.motor, fun after afterMember motor => ?_⟩
    obtain ⟨before, sized, ⟨other, -⟩ | ⟨_, _, leading', reading, limits', followed', leads', leader', fresh,
      configured', reference, aims, velocity⟩⟩ :=
        cycle_lastLimit valid ordinary (complete _ _) member afterMember motor
    · cases followed.symm.trans other
    cases followed.symm.trans followed'
    cases List.inj_on_of_nodup_map valid.motors leads leads' (leader.trans leader'.symm)
    cases fresh
    have scale : config.velocityFeedbackScale joint.command.motor = limits'.velocityFeedbackScale := by
      rw [Config.velocityFeedbackScale, configured']
      rfl
    rw [velocity, Ordinary.followerVelocity, ← scale]
    change (if mailbox.perJointProfile = true then advanceOrdinaryPvDriveVelocity Real.sqrt _ _ _
      ((mailbox.followerLimits degraded _).1 / _) ((mailbox.followerLimits degraded _).2 / _) _ else _) = _
    rw [bounded]
    split_ifs with profile
    · cases aims profile
      rcases place_pos profile with zero | ⟨limit_pos, acceleration_pos⟩
      · rw [zero, zero_div]
        exact le_antisymm (advance_le_limit le_rfl) (advance_nonneg Real.sqrt_nonneg)
      · obtain ⟨far, -⟩ := far_farAway (div_pos acceleration_pos scale_pos)
        have distance : ∀ x, |x - (x + farAway (bounds.1 / config.velocityFeedbackScale joint.command.motor)
            (bounds.2 / config.velocityFeedbackScale joint.command.motor))| = farAway
            (bounds.1 / config.velocityFeedbackScale joint.command.motor)
            (bounds.2 / config.velocityFeedbackScale joint.command.motor) := by
          intro x
          rw [sub_add_cancel_left, abs_neg]
          exact abs_of_nonneg ((by norm_num [holdPositionTolerance] : (0 : ℝ) ≤ holdPositionTolerance).trans far.le)
        rw [distance]
        exact advance_farAway (driveVelocityCommand_nonneg Real.sqrt_nonneg) (div_pos limit_pos scale_pos)
          (div_pos acceleration_pos scale_pos) config.period_pos
    · rfl

/-- The greatest limit on the wire is the last one of the joint, scaled with the batch. -/
theorem isGreatest_wire (valid : mailbox.Valid) (ordinary : c.mailbox = .ordinary mailbox)
    (sendable : c.Sendable config mailbox) (member : joint ∈ mailbox.joints)
    (drive_nonneg : 0 ≤ joint.driveVelocityCommand) (degraded : Bool) :
    IsGreatest (c.wire Real.sqrt config degraded joint.command.motor)
      (c.lastLimit config mailbox degraded joint * commandScale degraded) := by
  constructor
  · obtain ⟨position, velocity, sends⟩ := exists_probe valid ordinary sendable member drive_nonneg degraded
    obtain ⟨batch, sent⟩ := exists_sent ordinary valid.consistent
      (completes_probe valid ordinary sendable degraded position velocity) rfl
    obtain ⟨after, left, same⟩ := sameLimits_cycle Real.sqrt config ordinary (probe degraded position velocity)
    obtain ⟨sender, held, motor⟩ : ∃ sender ∈ after.joints, sender.command.motor = joint.command.motor := by
      have present : joint.command.motor ∈ mailbox.joints.map fun joint => joint.command.motor :=
        List.mem_map_of_mem member
      rw [← same.motors] at present
      exact List.mem_map.mp present
    refine ⟨probe degraded position velocity, batch, _, rfl, sent, mem_batch sent left held List.not_mem_nil, motor, ?_⟩
    rw [sends sender (by rw [left]; exact held) motor]
    rfl
  · rintro _ ⟨input, batch, command, rfl, sent, listed, motor, rfl⟩
    obtain ⟨after, left, -⟩ := sameLimits_cycle Real.sqrt config ordinary input
    obtain ⟨sender, held, rfl⟩ := mem_sent sent left listed
    exact mul_le_mul_of_nonneg_right (le_lastLimit valid ordinary (completes_of_sent sent) member
      (by rw [left]; exact held) motor) (commandScale_pos input.degraded).le

end Greatest

/-! ## RUNNING and DEGRADED -/

section Degraded

variable {config : Config ℝ} {c : ArmControl ℝ} {mailbox : Ordinary ℝ}

/-- The scale that the last limit of a joint has already. -/
theorem lastLimit_degraded (joint : PvJoint ℝ) : c.lastLimit config mailbox true joint =
    if (c.followerOf config joint.command.motor).isSome = true ∧ mailbox.perJointProfile = false then
      c.lastLimit config mailbox false joint else c.lastLimit config mailbox false joint * (1 / 4) := by
  unfold ArmControl.lastLimit
  cases c.followerOf config joint.command.motor with
  | none =>
    simp only [Ordinary.maximumVelocity, commandScale, Option.isSome_none, Bool.false_eq_true, false_and, if_false,
      if_true]
    ring
  | some pair =>
    cases profile : mailbox.perJointProfile with
    | true =>
      simp only [Ordinary.followerLimits, profile, commandScale, Option.isSome_some, Bool.true_eq_false, and_false,
        Bool.false_eq_true, if_false, if_true]
      ring
    | false => simp only [Option.isSome_some, and_self, Bool.false_eq_true, if_false, if_true]

omit config in
theorem mem_degradedBatch {degraded : Bool} {pv : List (PvCommand ℝ)} {command : PvCommand ℝ} :
    command ∈ degradedBatch degraded pv ↔ ∃ original ∈ pv,
      { original with velocityLimit := original.velocityLimit * commandScale degraded } = command := by
  unfold degradedBatch commandScale
  split_ifs
  · exact List.mem_map
  · simp only [mul_one, exists_eq_right]

/-- What raw commands and trajectories put on the wire. -/
theorem mem_wire_commands {pv : List (PvCommand ℝ)} (commands : c.mailbox = .commands pv) {degraded : Bool}
    {motor : Motor} {limit : ℝ} : limit ∈ c.wire Real.sqrt config degraded motor ↔ c.follow = none ∧
      ∃ command ∈ pv, command.motor = motor ∧ command.velocityLimit * commandScale degraded = limit := by
  constructor
  · rintro ⟨input, batch, command, rfl, sent, listed, motor, rfl⟩
    rw [ArmControl.cycle, commands] at sent
    simp only at sent
    split at sent
    · cases sent
    · rename_i inactive
      unfold CycleInput.send at sent
      split_ifs at sent
      cases sent
      obtain ⟨original, held, rfl⟩ := mem_degradedBatch.mp (List.mem_filter.mp listed).1
      exact ⟨inactive, original, held, motor, rfl⟩
  · rintro ⟨inactive, original, held, motor, rfl⟩
    refine ⟨probe degraded 0 0, filteredBatch [] (degradedBatch degraded pv), _, rfl, ?_,
      List.mem_filter.mpr ⟨mem_degradedBatch.mpr ⟨original, held, rfl⟩, decide_eq_true List.not_mem_nil⟩, motor, rfl⟩
    rw [ArmControl.cycle, commands, inactive]
    exact CycleInput.send_of_sends rfl pv

/-- Scaling a set of limits scales the greatest one. -/
theorem scaled_commands {pv : List (PvCommand ℝ)} (commands : c.mailbox = .commands pv) {motor : Motor} {limit : ℝ}
    (greatest : IsGreatest (c.wire Real.sqrt config false motor) limit) :
    IsGreatest (c.wire Real.sqrt config true motor) (1 / 4 * limit) := by
  obtain ⟨inactive, command, held, same, rfl⟩ := (mem_wire_commands commands).mp greatest.1
  constructor
  · refine (mem_wire_commands commands).mpr ⟨inactive, command, held, same, ?_⟩
    simp only [commandScale, Bool.false_eq_true, if_false, if_true]
    ring
  · intro limit listed
    obtain ⟨-, other, held', same', rfl⟩ := (mem_wire_commands commands).mp listed
    have below := greatest.2 ((mem_wire_commands commands).mpr ⟨inactive, other, held', same', rfl⟩)
    simp only [commandScale, Bool.false_eq_true, if_false, if_true] at below ⊢
    linarith

theorem isGreatest_scaled_iff {joint : PvJoint ℝ} (valid : mailbox.Valid) (ordinary : c.mailbox = .ordinary mailbox)
    (sendable : c.Sendable config mailbox) (member : joint ∈ mailbox.joints)
    (drive_nonneg : 0 ≤ joint.driveVelocityCommand) :
    (∀ limit, IsGreatest (c.wire Real.sqrt config false joint.command.motor) limit →
        IsGreatest (c.wire Real.sqrt config true joint.command.motor) (1 / 4 * limit)) ↔
      (c.followerOf config joint.command.motor).isSome = true ∧ mailbox.perJointProfile = false ∨
        c.lastLimit config mailbox false joint = 0 := by
  have running := isGreatest_wire valid ordinary sendable member drive_nonneg false
  have degraded := isGreatest_wire valid ordinary sendable member drive_nonneg true
  rw [lastLimit_degraded] at degraded
  simp only [commandScale, Bool.false_eq_true, if_false, if_true, mul_one] at running degraded
  have same : (∀ limit, IsGreatest (c.wire Real.sqrt config false joint.command.motor) limit →
      IsGreatest (c.wire Real.sqrt config true joint.command.motor) (1 / 4 * limit)) ↔
      IsGreatest (c.wire Real.sqrt config true joint.command.motor)
        (1 / 4 * c.lastLimit config mailbox false joint) :=
    ⟨fun all => all _ running, fun one limit greatest => running.unique greatest ▸ one⟩
  rw [same]
  split_ifs at degraded with shared
  · exact iff_of_true (mul_comm (c.lastLimit config mailbox false joint) (1 / 4) ▸ degraded) (.inl shared)
  · rw [or_iff_right shared]
    constructor
    · intro scaled
      have equal := scaled.unique degraded
      linarith
    · intro zero
      rw [zero] at degraded ⊢
      simpa using degraded

/-- In every run, the greatest limit on the wire in `DEGRADED` is the scaled one of `RUNNING` exactly where the scale
is applied once. -/
theorem degraded_scaledOnce_iff (config : Config ℝ) (events : List (Event ℝ)) (motor : Motor) :
    (∀ limit, IsGreatest ((final Real.sqrt config events).wire Real.sqrt config false motor) limit →
      IsGreatest ((final Real.sqrt config events).wire Real.sqrt config true motor)
        (healthCommandScale .degraded * limit)) ↔
      (final Real.sqrt config events).ScaledOnce config motor := by
  have valid := valid_final Real.sqrt config events
  have remembered := remembered_run Real.sqrt_nonneg config events
  generalize final Real.sqrt config events = c at *
  rw [healthCommandScale]
  cases ordinary : c.mailbox with
  | empty =>
    refine iff_of_true (fun limit greatest => ?_) (fun mailbox ordinary' => ?_)
    rotate_left
    · cases ordinary.symm.trans ordinary'
    obtain ⟨input, batch, command, -, sent, -⟩ := greatest.1
    rw [ArmControl.cycle, ordinary] at sent
    cases sent
  | commands pv =>
    refine iff_of_true (fun limit greatest => scaled_commands ordinary greatest) fun mailbox ordinary' => ?_
    cases ordinary.symm.trans ordinary'
  | ordinary mailbox =>
    have valid := valid mailbox ordinary
    have joints : c.mailbox.joints = mailbox.joints := congrArg ArmMailbox.joints ordinary
    by_cases some : c.Sendable config mailbox ∧ ∃ joint ∈ mailbox.joints, joint.command.motor = motor
    · obtain ⟨sendable, joint, member, rfl⟩ := some
      rw [isGreatest_scaled_iff valid ordinary sendable member (remembered.nonneg joint (joints ▸ member))]
      constructor
      · intro once mailbox' ordinary' _ joint' member' same
        cases ordinary.symm.trans ordinary'
        cases List.inj_on_of_nodup_map valid.motors member' member same
        exact once
      · exact fun once => once mailbox ordinary sendable joint member rfl
    · refine iff_of_true (fun limit greatest => absurd ?_ some) (fun mailbox' ordinary' sendable joint member same => ?_)
      · obtain ⟨input, batch, command, -, sent, listed, same, -⟩ := greatest.1
        obtain ⟨after, left, motors⟩ := sameLimits_cycle Real.sqrt config ordinary input
        obtain ⟨sender, held, rfl⟩ := mem_sent sent left listed
        refine ⟨fun follow active j => ((completes_iff valid.motors ordinary active input).mp
          (completes_of_sent sent) j).2, ?_⟩
        have present : motor ∈ after.joints.map fun joint => joint.command.motor :=
          List.mem_map.mpr ⟨sender, held, same⟩
        rw [motors.motors] at present
        exact List.mem_map.mp present
      · cases ordinary.symm.trans ordinary'
        exact absurd ⟨sendable, joint, member, same⟩ some

/-- A position command of one radian per second runs at a sixteenth of it in `DEGRADED`. -/
theorem degraded_scaled_twice :
    IsGreatest ((final Real.sqrt twoArms [.install togetherRequest (.ok ()) atZero]).wire Real.sqrt twoArms false 0) 1 ∧
      IsGreatest ((final Real.sqrt twoArms [.install togetherRequest (.ok ()) atZero]).wire Real.sqrt twoArms true 0)
        (1 / 16) ∧
      (1 / 16 : ℝ) ≠ healthCommandScale .degraded * 1 := by
  have state : final Real.sqrt twoArms [.install togetherRequest (.ok ()) atZero] =
      ⟨.ordinary (togetherMailbox (K := ℝ)), none⟩ := congrArg Prod.snd install_together
  have valid := valid_final Real.sqrt twoArms [.install togetherRequest (.ok ()) atZero]
  rw [state] at valid ⊢
  have sendable : (⟨.ordinary togetherMailbox, none⟩ : ArmControl ℝ).Sendable twoArms togetherMailbox := nofun
  have greatest := isGreatest_wire (valid togetherMailbox rfl) rfl sendable
    (mem_togetherMailbox (by decide : (0 : Motor) < 14)) le_rfl
  have last : (⟨.ordinary togetherMailbox, none⟩ : ArmControl ℝ).lastLimit twoArms togetherMailbox false
      (.fresh 0 0 1 1 1) = 1 := maximumVelocity_together 0
  have running := greatest false
  have degraded := greatest true
  rw [lastLimit_degraded, if_neg fun shared => Bool.false_ne_true shared.1, last] at degraded
  rw [last] at running
  norm_num [commandScale, PvJoint.fresh] at running degraded
  exact ⟨running, degraded, by norm_num [healthCommandScale]⟩

end Degraded

end MotorDrive.Control
