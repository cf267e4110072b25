import MotorDrive.Control.Follow
import MotorDrive.Control.Hold

/-!
# The velocity envelope

One pass through the envelope of `advance_ordinary_pv_drive_velocity` keeps a velocity limit within `Within`.  A
follower joint of the bimanual follow passes twice in a cycle, the first time at its final position of the cycle
before and the second time at where the leader sends it; `Harmless` says when that makes no difference.
-/

namespace MotorDrive.Control

open Trajectory (Motor)
open History

/-! ## The envelope -/

section Pass

variable {K : Type} [Field K] [LinearOrder K]

/-- The speed that a motor reports. -/
def speed (reading : Option (Reading K)) : K := (reading.map fun reading => |reading.velocity|).getD 0

/-- The envelope of a velocity limit: it opens by at most a change of a period over the limit before and the
measured speed, and only up to the velocity from which the joint still brakes at its target. -/
structure Within (sqrt : K → K) (limit acceleration period previous : K) (reading : Option (Reading K))
    (target velocity : K) : Prop where
  nonneg : 0 ≤ velocity
  le_limit : velocity ≤ limit
  le_change : velocity ≤ max previous (speed reading) + acceleration * period
  le_braking : ∀ actual, reading = some actual → previous < velocity →
    velocity ≤ sqrt (2 * acceleration * |target - actual.position|)

/-- The ceiling of a velocity limit at a distance from the target. -/
def ceiling (sqrt : K → K) (limit acceleration distance : K) : K := min limit (sqrt (2 * acceleration * distance))

/-- Where a pass opens the limit to. -/
def opening (sqrt : K → K) (limit acceleration period previous velocity distance : K) : K :=
  min (ceiling sqrt limit acceleration distance) (max previous (min |velocity| limit) + acceleration * period)

/-- A second pass makes no difference: the first one has not opened the limit, or what it opened it to stays within
a change of a period, and the second pass closes it no slower than a single pass would. -/
def Harmless (sqrt : K → K) (limit acceleration period previous opened : K) (reading : Reading K) (target : K) :
    Prop :=
  let ceiling := ceiling sqrt limit acceleration |target - reading.position|
  opened ≤ previous ∨
    (ceiling ≤ max previous |reading.velocity| + acceleration * period ∨ opened ≤ max previous |reading.velocity|) ∧
    (opened ≤ ceiling ∨ min |reading.velocity| limit - acceleration * period ≤ max previous ceiling)

variable [IsStrictOrderedRing K] {sqrt : K → K} {limit acceleration period previous velocity distance : K}

theorem advance_nonneg (nonneg : ∀ x, 0 ≤ sqrt x) : 0 ≤ advanceOrdinaryPvDriveVelocity sqrt previous velocity
    distance limit acceleration period := by
  simp only [advanceOrdinaryPvDriveVelocity]
  split_ifs with invalid opens
  · exact le_rfl
  · simp only [not_or, not_lt, not_le] at invalid
    obtain ⟨previous_nonneg, -, limit_pos, acceleration_pos, period_pos⟩ := invalid
    have change := (mul_pos acceleration_pos period_pos).le
    refine le_min (le_min limit_pos.le (nonneg _)) (add_nonneg (le_max_of_le_left ?_) change)
    exact le_min previous_nonneg limit_pos.le
  · simp only [not_or, not_lt, not_le] at invalid
    obtain ⟨previous_nonneg, -, limit_pos, -, -⟩ := invalid
    exact le_min (le_min previous_nonneg limit_pos.le) (le_max_of_le_left (le_min limit_pos.le (nonneg _)))

omit [IsStrictOrderedRing K] in
theorem advance_le_limit (limit_nonneg : 0 ≤ limit) : advanceOrdinaryPvDriveVelocity sqrt previous velocity
    distance limit acceleration period ≤ limit := by
  simp only [advanceOrdinaryPvDriveVelocity]
  split_ifs with invalid opens
  · exact limit_nonneg
  · exact (min_le_left _ _).trans (min_le_left _ _)
  · exact (min_le_left _ _).trans (min_le_right _ _)

section Valid

variable (previous_nonneg : 0 ≤ previous) (distance_nonneg : 0 ≤ distance) (limit_pos : 0 < limit)
  (acceleration_pos : 0 < acceleration) (period_pos : 0 < period)

include previous_nonneg distance_nonneg limit_pos acceleration_pos period_pos

/-- A pass with valid arguments. -/
theorem advance_eq : advanceOrdinaryPvDriveVelocity sqrt previous velocity distance limit acceleration period =
    if min previous limit ≤ ceiling sqrt limit acceleration distance then
      min (ceiling sqrt limit acceleration distance)
        (max (min previous limit) (min |velocity| limit) + acceleration * period)
    else min (min previous limit)
      (max (ceiling sqrt limit acceleration distance) (min |velocity| limit - acceleration * period)) := by
  have valid : ¬(previous < 0 ∨ distance < 0 ∨ limit ≤ 0 ∨ acceleration ≤ 0 ∨ period ≤ 0) := by
    simp only [not_or, not_lt, not_le]
    exact ⟨previous_nonneg, distance_nonneg, limit_pos, acceleration_pos, period_pos⟩
  have braking : max 0 (2 * acceleration * distance) = 2 * acceleration * distance :=
    max_eq_right (mul_nonneg (mul_pos two_pos acceleration_pos).le distance_nonneg)
  rw [advanceOrdinaryPvDriveVelocity, if_neg valid, braking]
  rfl

/-- A pass that raises the limit opens it. -/
theorem advance_eq_opening (raised : previous <
    advanceOrdinaryPvDriveVelocity sqrt previous velocity distance limit acceleration period) :
    advanceOrdinaryPvDriveVelocity sqrt previous velocity distance limit acceleration period =
      opening sqrt limit acceleration period previous velocity distance := by
  have below := raised.trans_le
    (advance_le_limit limit_pos.le)
  rw [advance_eq previous_nonneg distance_nonneg limit_pos acceleration_pos period_pos] at raised ⊢
  rw [min_eq_left below.le] at raised ⊢
  split_ifs at raised ⊢ with opens
  · rfl
  · exact absurd (raised.trans_le (min_le_left _ _)) (lt_irrefl _)

/-- A pass exceeds a bound above the limit before exactly where opening does. -/
theorem advance_le_iff {bound : K} (above : previous ≤ bound) :
    advanceOrdinaryPvDriveVelocity sqrt previous velocity distance limit acceleration period ≤ bound ↔
      opening sqrt limit acceleration period previous velocity distance ≤ bound := by
  by_cases raised : previous <
      advanceOrdinaryPvDriveVelocity sqrt previous velocity distance limit acceleration period
  · rw [advance_eq_opening previous_nonneg distance_nonneg limit_pos acceleration_pos period_pos raised]
  refine iff_of_true ((not_lt.mp raised).trans above) (le_trans ?_ above)
  have change := mul_pos acceleration_pos period_pos
  rw [advance_eq previous_nonneg distance_nonneg limit_pos acceleration_pos period_pos] at raised
  unfold opening
  split_ifs at raised with opens
  · rw [not_lt] at raised
    rcases le_total previous limit with below | past
    · rwa [min_eq_left below] at raised
    · exact (min_le_left _ _).trans ((min_le_left _ _).trans past)
  · exact (min_le_left _ _).trans ((not_le.mp opens).le.trans (min_le_left _ _))

theorem advance_le_change : advanceOrdinaryPvDriveVelocity sqrt previous velocity distance limit acceleration period ≤
    max previous |velocity| + acceleration * period := by
  have change := (mul_pos acceleration_pos period_pos).le
  rw [advance_le_iff previous_nonneg distance_nonneg limit_pos acceleration_pos period_pos
    (le_add_of_le_of_nonneg (le_max_left _ _) change)]
  refine (min_le_right _ _).trans (add_le_add_left (max_le_max le_rfl (min_le_left _ _)) _)

theorem advance_le_braking (raised : previous <
    advanceOrdinaryPvDriveVelocity sqrt previous velocity distance limit acceleration period) :
    advanceOrdinaryPvDriveVelocity sqrt previous velocity distance limit acceleration period ≤
      sqrt (2 * acceleration * distance) := by
  rw [advance_eq_opening previous_nonneg distance_nonneg limit_pos acceleration_pos period_pos raised]
  exact (min_le_left _ _).trans (min_le_right _ _)

/-- One pass keeps within the envelope of any limit that is not below the one it starts from. -/
theorem within_advance (nonneg : ∀ x, 0 ≤ sqrt x) {before : K} (above : previous ≤ before) {reading : Reading K}
    {target : K} (velocity_eq : velocity = reading.velocity)
    (distance_eq : distance = |target - reading.position|) : Within sqrt limit acceleration period before
      (some reading) target
      (advanceOrdinaryPvDriveVelocity sqrt previous velocity distance limit acceleration period) := by
  refine ⟨advance_nonneg nonneg, advance_le_limit limit_pos.le, ?_, ?_⟩
  · refine (advance_le_change previous_nonneg distance_nonneg limit_pos acceleration_pos period_pos).trans ?_
    rw [velocity_eq]
    exact add_le_add_left (max_le_max above le_rfl) _
  · rintro _ ⟨⟩ raised
    rw [← distance_eq]
    exact advance_le_braking previous_nonneg distance_nonneg limit_pos acceleration_pos period_pos
      (above.trans_lt raised)

end Valid

/-- When a pass from a limit above the one before stays within a change. -/
theorem le_change_iff (first ceiling : K) {measured change bound : K} (change_nonneg : 0 ≤ change)
    (below : measured ≤ bound) :
    (if first ≤ ceiling then min ceiling (max first measured + change)
      else min first (max ceiling (measured - change))) ≤ bound + change ↔
      ceiling ≤ bound + change ∨ first ≤ bound := by
  have slower : measured - change ≤ bound + change := by linarith
  have grown : bound ≤ bound + change := le_add_of_nonneg_right change_nonneg
  split_ifs with opens
  · rw [min_le_iff, add_le_add_iff_right, max_le_iff, and_iff_left below]
  · rw [min_le_iff, max_le_iff, and_iff_left slower]
    constructor
    · rintro (firstBelow | ceilingBelow)
      · exact .inl ((not_le.mp opens).le.trans firstBelow)
      · exact .inl ceilingBelow
    · rintro (ceilingBelow | firstBelow)
      · exact .inr ceilingBelow
      · exact .inl (firstBelow.trans grown)

omit [IsStrictOrderedRing K] in
/-- When a pass from a limit above the one before stays below the braking velocity. -/
theorem le_braking_iff {first ceiling braking : K} (measured change : K) (raised : previous < first)
    (below : ceiling ≤ braking) (reached : ceiling < first → ceiling = braking) :
    (previous < (if first ≤ ceiling then min ceiling (max first measured + change)
      else min first (max ceiling (measured - change))) →
      (if first ≤ ceiling then min ceiling (max first measured + change)
      else min first (max ceiling (measured - change))) ≤ braking) ↔
      first ≤ ceiling ∨ measured - change ≤ max previous ceiling := by
  split_ifs with opens
  · exact iff_of_true (fun _ => (min_le_left _ _).trans below) (.inl opens)
  rw [or_iff_right opens]
  rw [not_le] at opens
  constructor
  · intro brakes
    by_contra faster
    rw [not_le, max_lt_iff] at faster
    rw [max_eq_right faster.2.le] at brakes
    have within := brakes (lt_min raised faster.1)
    exact absurd (within.trans_lt (reached opens ▸ lt_min opens faster.2)) (lt_irrefl _)
  · intro slower higher
    have high := higher.trans_le (min_le_right _ _)
    refine (min_le_right _ _).trans ?_
    rcases lt_max_iff.mp high with above | above
    · exact (max_le le_rfl (slower.trans (max_le above.le le_rfl))).trans below
    · rcases le_max_iff.mp slower with less | less
      · exact absurd (above.trans_le less) (lt_irrefl _)
      · exact (max_le le_rfl less).trans below

/-- A pass from a limit that opened above the one before. -/
theorem within_reopened_iff (nonneg : ∀ x, 0 ≤ sqrt x) {first : K} {reading : Reading K} {target : K}
    (first_nonneg : 0 ≤ first) (first_le : first ≤ limit) (limit_pos : 0 < limit)
    (acceleration_pos : 0 < acceleration) (period_pos : 0 < period) (raised : previous < first) :
    Within sqrt limit acceleration period previous (some reading) target (advanceOrdinaryPvDriveVelocity sqrt first
        reading.velocity |target - reading.position| limit acceleration period) ↔
      Harmless sqrt limit acceleration period previous first reading target := by
  have distance_nonneg := abs_nonneg (target - reading.position)
  have passed : advanceOrdinaryPvDriveVelocity sqrt first reading.velocity |target - reading.position| limit
      acceleration period = _ := advance_eq first_nonneg distance_nonneg limit_pos acceleration_pos period_pos
  rw [min_eq_left first_le] at passed
  have change := le_change_iff first (ceiling sqrt limit acceleration |target - reading.position|)
    (mul_pos acceleration_pos period_pos).le ((min_le_left |reading.velocity| limit).trans (le_max_right previous _))
  have braking := le_braking_iff (min |reading.velocity| limit) (acceleration * period) raised
    (min_le_right limit (sqrt (2 * acceleration * |target - reading.position|)))
    fun closes => min_eq_right (le_of_not_ge fun past =>
      absurd (closes.trans_le first_le) (by rw [min_eq_left past]; exact lt_irrefl _))
  rw [Harmless, or_iff_right (not_le.mpr raised)]
  refine Iff.trans ⟨fun within => ?_, fun kept => ?_⟩ (and_congr change braking)
  · rw [← ceiling, ← passed]
    exact ⟨within.le_change, within.le_braking reading rfl⟩
  · rw [← ceiling, ← passed] at kept
    refine ⟨advance_nonneg nonneg, advance_le_limit limit_pos.le, kept.1, ?_⟩
    rintro _ ⟨⟩
    exact kept.2

omit [IsStrictOrderedRing K] in
/-- Two limits that are not above the one before are harmless. -/
theorem harmless_iff_of {first opened : K} {reading : Reading K} {target : K}
    (same : first ≤ previous ∧ opened ≤ previous ∨ first = opened) :
    Harmless sqrt limit acceleration period previous first reading target ↔
      Harmless sqrt limit acceleration period previous opened reading target := by
  rcases same with ⟨first_le, opened_le⟩ | rfl
  · exact iff_of_true (.inl first_le) (.inl opened_le)
  · rfl

end Pass

/-! ## The joints of a profile -/

section Joints

variable {K : Type} [Field K] [LinearOrder K] {sqrt : K → K} {config : Config K} {mailbox : Ordinary K}
  {degraded : Bool} {joint : PvJoint K}

/-- Where the cycle of an ordinary command opens the limit of a joint to, before a follower joint follows. -/
def Ordinary.opened (sqrt : K → K) (config : Config K) (mailbox : Ordinary K) (degraded : Bool)
    (state : MotorState K) (joint : PvJoint K) : K :=
  if (joint.updateHold config state.reading).stationaryHold then 0
  else match state.reading with
    | some reading => opening sqrt (mailbox.maximumVelocity config degraded joint)
        (mailbox.maximumAcceleration config degraded joint) config.period joint.driveVelocityCommand
        reading.velocity |reading.position - joint.finalPosition|
    | none => 0

variable [IsStrictOrderedRing K]

theorem velocityFeedbackScale_pos (config : Config K) (motor : Motor) : 0 < config.velocityFeedbackScale motor := by
  unfold Config.velocityFeedbackScale
  cases config.joint motor with
  | none => exact one_pos
  | some limits => exact limits.velocityFeedbackScale_pos

/-- The limits of a joint in a profile are positive. -/
theorem Ordinary.Valid.maximum_pos (valid : mailbox.Valid) (profile : mailbox.perJointProfile = true)
    (velocity : joint.referenceVelocityLimit ∈ mailbox.joints.map PvJoint.referenceVelocityLimit)
    (acceleration : joint.referenceAccelerationLimit ∈ mailbox.joints.map PvJoint.referenceAccelerationLimit) :
    0 < mailbox.maximumVelocity config degraded joint ∧ 0 < mailbox.maximumAcceleration config degraded joint := by
  have scale := commandScale_pos (K := K) degraded
  have feedbackScale := velocityFeedbackScale_pos config joint.command.motor
  unfold Ordinary.maximumVelocity Ordinary.maximumAcceleration
  rw [if_pos profile, if_pos profile]
  exact ⟨div_pos (mul_pos (valid.velocityLimits profile _ velocity) scale) feedbackScale,
    div_pos (mul_pos (mul_pos (valid.accelerationLimits profile _ acceleration) scale) scale) feedbackScale⟩

section Advance

variable {state : MotorState K} {previous : K} (nonneg : ∀ x, 0 ≤ sqrt x)
  (drive_nonneg : 0 ≤ joint.driveVelocityCommand) (above : joint.driveVelocityCommand ≤ previous)
  (limit_pos : 0 < mailbox.maximumVelocity config degraded joint)
  (acceleration_pos : 0 < mailbox.maximumAcceleration config degraded joint)

include nonneg in
theorem driveVelocityCommand_nonneg :
    0 ≤ (mailbox.advanceJoint sqrt config degraded state joint).driveVelocityCommand := by
  unfold Ordinary.advanceJoint Ordinary.driveVelocity
  simp only
  split_ifs
  · exact le_rfl
  · split
    · exact advance_nonneg nonneg
    · exact le_rfl

include nonneg drive_nonneg above limit_pos acceleration_pos

variable (state) in
/-- The cycle of a joint keeps its limit within the envelope. -/
theorem within_advanceJoint : Within sqrt (mailbox.maximumVelocity config degraded joint)
    (mailbox.maximumAcceleration config degraded joint) config.period previous state.reading joint.finalPosition
    (mailbox.advanceJoint sqrt config degraded state joint).command.velocityLimit := by
  have stopped : Within sqrt (mailbox.maximumVelocity config degraded joint)
      (mailbox.maximumAcceleration config degraded joint) config.period previous state.reading
      joint.finalPosition 0 := by
    have change := (mul_pos acceleration_pos config.period_pos).le
    have previous_nonneg := drive_nonneg.trans above
    exact ⟨le_rfl, limit_pos.le, add_nonneg (le_max_of_le_left previous_nonneg) change, fun _ _ _ => nonneg _⟩
  unfold Ordinary.advanceJoint Ordinary.driveVelocity
  simp only
  split_ifs
  · exact stopped
  · cases fresh : state.reading with
    | none =>
      rw [fresh] at stopped
      exact stopped
    | some reading =>
      exact within_advance drive_nonneg (abs_nonneg _) limit_pos acceleration_pos config.period_pos nonneg above rfl
        (abs_sub_comm _ _)

omit nonneg in
/-- What the first pass over a follower joint leaves, as far as the second pass minds. -/
theorem harmless_advanceJoint_iff {reading : Reading K} {target : K} :
    Harmless sqrt (mailbox.maximumVelocity config degraded joint)
        (mailbox.maximumAcceleration config degraded joint) config.period previous
        (mailbox.advanceJoint sqrt config degraded state joint).driveVelocityCommand reading target ↔
      Harmless sqrt (mailbox.maximumVelocity config degraded joint)
        (mailbox.maximumAcceleration config degraded joint) config.period previous
        (mailbox.opened sqrt config degraded state joint) reading target := by
  refine harmless_iff_of ?_
  have previous_nonneg := drive_nonneg.trans above
  unfold Ordinary.advanceJoint Ordinary.driveVelocity Ordinary.opened
  simp only
  split_ifs
  · exact .inl ⟨previous_nonneg, previous_nonneg⟩
  · cases state.reading with
    | none => exact .inl ⟨previous_nonneg, previous_nonneg⟩
    | some actual =>
      simp only
      rcases le_or_gt (advanceOrdinaryPvDriveVelocity sqrt joint.driveVelocityCommand actual.velocity
        |actual.position - joint.finalPosition| (mailbox.maximumVelocity config degraded joint)
        (mailbox.maximumAcceleration config degraded joint) config.period) previous with kept | raised
      · exact .inl ⟨kept, (advance_le_iff drive_nonneg (abs_nonneg _) limit_pos acceleration_pos config.period_pos
          above).mp kept⟩
      · exact .inr (advance_eq_opening drive_nonneg (abs_nonneg _) limit_pos acceleration_pos config.period_pos
          (above.trans_lt raised))

end Advance

end Joints

/-! ## A cycle -/

section Cycle

variable {K : Type} [Field K] [LinearOrder K]

/-- The joints of a side stand at their places of the product layout. -/
def Ordinary.LaidOut (config : Config K) (mailbox : Ordinary K) (side : Side) : Prop :=
  ∀ joint : Fin armDof, (mailbox.joints[layoutIndex side joint]?).map (fun joint => joint.command.motor) =
    some (config.arms side joint).motor

/-- The feedback of a motor that the last pass of a cycle reads. -/
def ArmControl.deciding (config : Config K) (c : ArmControl K) (input : CycleInput K) (motor : Motor) :
    MotorState K :=
  match c.follow with
  | some follow => if ∃ joint, follow.follower config joint = motor then input.followFeedback motor
      else input.feedback motor
  | none => input.feedback motor

/-- A joint passes through the envelope once in a cycle, or the first pass makes no difference: it starts at the
final position of the cycle before, the second one at where the leader sends the joint. -/
def ArmControl.PassesOnce (sqrt : K → K) (config : Config K) (c : ArmControl K) (input : CycleInput K)
    (previous : K) (motor : Motor) : Prop :=
  ∀ mailbox follow, c.mailbox = .ordinary mailbox → c.follow = some follow →
    ∀ joint, follow.follower config joint = motor →
      ∀ leading ∈ mailbox.joints, leading.command.motor = follow.leader config joint →
        ∀ before ∈ mailbox.joints, before.command.motor = motor →
          ∀ reading, (input.followFeedback motor).reading = some reading →
            Harmless sqrt (mailbox.maximumVelocity config input.degraded before)
              (mailbox.maximumAcceleration config input.degraded before) config.period previous
              (mailbox.opened sqrt config input.degraded (input.feedback motor) before) reading
              (follow.desired config leading.finalPosition joint)

variable [IsStrictOrderedRing K] {sqrt : K → K} {config : Config K} {c : ArmControl K} {mailbox : Ordinary K}
  {input : CycleInput K}

omit [IsStrictOrderedRing K] in
theorem followerLimits_of_laidOut {side : Side} {j : Fin armDof} {joint : PvJoint K} {degraded : Bool}
    (motors : (mailbox.joints.map fun joint => joint.command.motor).Nodup) (laidOut : mailbox.LaidOut config side)
    (profile : mailbox.perJointProfile = true) (member : joint ∈ mailbox.joints)
    (motor : joint.command.motor = (config.arms side j).motor) :
    mailbox.followerLimits degraded (layoutIndex side j) =
      (joint.referenceVelocityLimit * commandScale degraded,
        joint.referenceAccelerationLimit * (commandScale degraded * commandScale degraded)) := by
  obtain ⟨entry, place, same⟩ := Option.map_eq_some_iff.mp (laidOut j)
  cases List.inj_on_of_nodup_map motors (List.mem_of_getElem? place) member (same.trans motor.symm)
  rw [Ordinary.followerLimits, if_pos profile, place]
  rfl

variable (sqrt) in
omit [IsStrictOrderedRing K] in
theorem advanceJoint_limits {degraded : Bool} {state : MotorState K} {joint : PvJoint K} :
    mailbox.maximumVelocity config degraded (mailbox.advanceJoint sqrt config degraded state joint) =
        mailbox.maximumVelocity config degraded joint ∧
      mailbox.maximumAcceleration config degraded (mailbox.advanceJoint sqrt config degraded state joint) =
        mailbox.maximumAcceleration config degraded joint := by
  obtain ⟨_, _, _, held⟩ := updateHold_frame config joint state.reading
  simp only [Ordinary.maximumVelocity, Ordinary.maximumAcceleration, Ordinary.advanceJoint, held, and_self]

omit [IsStrictOrderedRing K] in
/-- The velocity limit of a follower joint in a profile is a second pass with the limits of the first one. -/
theorem followerVelocity_eq {follow : BimanualFollow K} {degraded : Bool} {limits : JointConfig K}
    {before first : PvJoint K} {j : Fin armDof} {reading : Reading K} {reference : K} {advanced : Ordinary K}
    (motors : (mailbox.joints.map fun joint => joint.command.motor).Nodup) (same : SameLimits mailbox advanced)
    (laidOut : mailbox.LaidOut config follow.leaderSide.other) (profile : mailbox.perJointProfile = true)
    (member : before ∈ mailbox.joints) (motor : before.command.motor = follow.follower config j)
    (configured : config.joint before.command.motor = some limits) :
    advanced.followerVelocity sqrt config (advanced.followerLimits degraded (layoutIndex follow.leaderSide.other j))
        limits.velocityFeedbackScale reference reading first =
      advanceOrdinaryPvDriveVelocity sqrt first.driveVelocityCommand reading.velocity |reference - reading.position|
        (mailbox.maximumVelocity config degraded before) (mailbox.maximumAcceleration config degraded before)
        config.period := by
  have scale : config.velocityFeedbackScale before.command.motor = limits.velocityFeedbackScale := by
    rw [Config.velocityFeedbackScale, configured]
    rfl
  rw [same.followerLimits, followerLimits_of_laidOut motors laidOut profile member motor, Ordinary.followerVelocity,
    if_pos (same.perJointProfile.trans profile), Ordinary.maximumVelocity, Ordinary.maximumAcceleration,
    if_pos profile, if_pos profile, scale, mul_assoc]

omit [IsStrictOrderedRing K] in
theorem Ordinary.Valid.sizeHolds_eq (valid : mailbox.Valid) (profile : mailbox.perJointProfile = true) :
    mailbox.sizeHolds = mailbox := if_pos (valid.holdsSized profile)

omit [IsStrictOrderedRing K] in
/-- What a follower joint of a profile is sent after the second pass. -/
theorem Follows.command_eq (valid : mailbox.Valid) (profile : mailbox.perJointProfile = true)
    {follow : BimanualFollow K} (laidOut : mailbox.LaidOut config follow.leaderSide.other) {before after : PvJoint K}
    (held : before ∈ mailbox.joints) {j : Fin armDof}
    (follows : Follows sqrt config follow input.degraded input.followFeedback
      (mailbox.advance sqrt config input.degraded input.feedback) j
      (mailbox.advanceJoint sqrt config input.degraded (input.feedback before.command.motor) before) after) :
    ∃ leading ∈ mailbox.joints, leading.command.motor = follow.leader config j ∧
      before.command.motor = follow.follower config j ∧
      ∃ reading, (input.followFeedback before.command.motor).reading = some reading ∧
        mailbox.maximumVelocity config input.degraded after = mailbox.maximumVelocity config input.degraded before ∧
        mailbox.maximumAcceleration config input.degraded after =
          mailbox.maximumAcceleration config input.degraded before ∧
        after.command = ⟨before.command.motor, follow.desired config leading.finalPosition j,
          advanceOrdinaryPvDriveVelocity sqrt (mailbox.advanceJoint sqrt config input.degraded
              (input.feedback before.command.motor) before).driveVelocityCommand reading.velocity
            |follow.desired config leading.finalPosition j - reading.position|
            (mailbox.maximumVelocity config input.degraded before)
            (mailbox.maximumAcceleration config input.degraded before) config.period⟩ := by
  have same : SameLimits mailbox (mailbox.advance sqrt config input.degraded input.feedback) :=
    sameLimits_advance mailbox
  obtain ⟨follower, _, leads, leader, reading, limits, reference, velocity, fresh, configured, aims, rfl⟩ := follows
  obtain ⟨leading, kept, rfl⟩ := List.mem_map.mp leads
  rw [valid.sizeHolds_eq profile] at kept
  have aims := aims (same.perJointProfile.trans profile)
  refine ⟨leading, kept, leader, follower, reading, fresh, (advanceJoint_limits sqrt).1,
    (advanceJoint_limits sqrt).2, ?_⟩
  rw [PvJoint.follow, followerVelocity_eq valid.motors same laidOut profile held follower configured, aims]
  rfl

omit [IsStrictOrderedRing K] in
/-- The conditions of a follower joint are about one leader joint and one joint. -/
theorem passesOnce_iff (motors : (mailbox.joints.map fun joint => joint.command.motor).Nodup)
    (ordinary : c.mailbox = .ordinary mailbox) {follow : BimanualFollow K} (active : c.follow = some follow)
    {previous : K} {motor : Motor} {j : Fin armDof} (follower : follow.follower config j = motor)
    {leading before : PvJoint K} (leads : leading ∈ mailbox.joints)
    (leader : leading.command.motor = follow.leader config j) (held : before ∈ mailbox.joints)
    (same : before.command.motor = motor) {reading : Reading K}
    (fresh : (input.followFeedback motor).reading = some reading) :
    c.PassesOnce sqrt config input previous motor ↔
      Harmless sqrt (mailbox.maximumVelocity config input.degraded before)
        (mailbox.maximumAcceleration config input.degraded before) config.period previous
        (mailbox.opened sqrt config input.degraded (input.feedback motor) before) reading
        (follow.desired config leading.finalPosition j) := by
  constructor
  · exact fun once => once mailbox follow ordinary active j follower leading leads leader before held same reading fresh
  · intro harmless mailbox' follow' ordinary' active' j' follower' leading' leads' leader' before' held' same' reading'
      fresh'
    cases ordinary.symm.trans ordinary'
    cases active.symm.trans active'
    cases fresh.symm.trans fresh'
    cases (config.arms_distinct _ _ _ _ (follower.trans follower'.symm)).2
    cases List.inj_on_of_nodup_map motors leads leads' (leader.trans leader'.symm)
    cases List.inj_on_of_nodup_map motors held held' (same.trans same'.symm)
    exact harmless

/-- A second pass keeps within the envelope exactly if the first one is harmless. -/
theorem within_twice_iff (nonneg : ∀ x, 0 ≤ sqrt x) {degraded : Bool} {state : MotorState K} {previous : K}
    {joint : PvJoint K} {reading : Reading K} {target : K} (drive_nonneg : 0 ≤ joint.driveVelocityCommand)
    (above : joint.driveVelocityCommand ≤ previous) (limit_pos : 0 < mailbox.maximumVelocity config degraded joint)
    (acceleration_pos : 0 < mailbox.maximumAcceleration config degraded joint) :
    Within sqrt (mailbox.maximumVelocity config degraded joint) (mailbox.maximumAcceleration config degraded joint)
        config.period previous (some reading) target (advanceOrdinaryPvDriveVelocity sqrt
          (mailbox.advanceJoint sqrt config degraded state joint).driveVelocityCommand reading.velocity
          |target - reading.position| (mailbox.maximumVelocity config degraded joint)
          (mailbox.maximumAcceleration config degraded joint) config.period) ↔
      Harmless sqrt (mailbox.maximumVelocity config degraded joint)
        (mailbox.maximumAcceleration config degraded joint) config.period previous
        (mailbox.opened sqrt config degraded state joint) reading target := by
  rw [← harmless_advanceJoint_iff drive_nonneg above limit_pos acceleration_pos]
  have first_nonneg : 0 ≤ (mailbox.advanceJoint sqrt config degraded state joint).driveVelocityCommand :=
    driveVelocityCommand_nonneg nonneg
  have first_le := (within_advanceJoint state nonneg drive_nonneg above limit_pos acceleration_pos).le_limit
  rcases le_or_gt (mailbox.advanceJoint sqrt config degraded state joint).driveVelocityCommand previous
    with kept | raised
  · exact iff_of_true (within_advance first_nonneg (abs_nonneg _) limit_pos acceleration_pos config.period_pos nonneg
      kept rfl rfl) (.inl kept)
  · exact within_reopened_iff nonneg first_nonneg first_le limit_pos acceleration_pos config.period_pos raised

/-- In a cycle of a profile a joint keeps within the envelope exactly if it passes once. -/
theorem within_cycle_iff (nonneg : ∀ x, 0 ≤ sqrt x) (valid : mailbox.Valid) (ordinary : c.mailbox = .ordinary mailbox)
    (profile : mailbox.perJointProfile = true) (complete : c.Completes sqrt config input)
    (laidOut : ∀ follow, c.follow = some follow → mailbox.LaidOut config follow.leaderSide.other)
    {previous : Motor → K} (drive_nonneg : ∀ joint ∈ mailbox.joints, 0 ≤ joint.driveVelocityCommand)
    (above : ∀ joint ∈ mailbox.joints, joint.driveVelocityCommand ≤ previous joint.command.motor)
    {joint : PvJoint K} (member : joint ∈ (c.cycle sqrt config input).2.mailbox.joints) :
    Within sqrt (mailbox.maximumVelocity config input.degraded joint)
        (mailbox.maximumAcceleration config input.degraded joint) config.period (previous joint.command.motor)
        (c.deciding config input joint.command.motor).reading joint.command.targetPosition
        joint.command.velocityLimit ↔
      c.PassesOnce sqrt config input (previous joint.command.motor) joint.command.motor := by
  obtain ⟨_, ordinary', consistent⟩ := mem_cycle member
  cases ordinary.symm.trans ordinary'
  obtain ⟨before, held, cycled⟩ := consistent valid.consistent
  rw [valid.sizeHolds_eq profile] at held
  have positive : 0 < mailbox.maximumVelocity config input.degraded before ∧
      0 < mailbox.maximumAcceleration config input.degraded before :=
    valid.maximum_pos profile (List.mem_map_of_mem held) (List.mem_map_of_mem held)
  cases cycled with
  | advanced after_eq unfollowed =>
    subst after_eq
    have others := unfollowed complete valid.motors
    refine iff_of_true ?_ ?_
    · have same : c.deciding config input before.command.motor = input.feedback before.command.motor := by
        unfold ArmControl.deciding
        split
        · rename_i follow active
          exact if_neg fun ⟨j, motor⟩ => others follow active j motor.symm
        · rfl
      rw [(advanceJoint_limits sqrt).1, (advanceJoint_limits sqrt).2]
      have within := within_advanceJoint (input.feedback before.command.motor) nonneg
        (drive_nonneg before held) (above before held) positive.1 positive.2
      rw [← same] at within ⊢
      exact within
    · rintro mailbox' follow' - active j motor
      exact absurd motor.symm (others follow' active j)
  | followed follow active j follows =>
    obtain ⟨leading, leads, leader, follower, reading, fresh, velocityLimit, accelerationLimit, command⟩ :=
      follows.command_eq valid profile (laidOut follow active) held
    have deciding : (c.deciding config input before.command.motor).reading = some reading := by
      unfold ArmControl.deciding
      rw [active]
      exact (congrArg MotorState.reading (if_pos ⟨j, follower.symm⟩)).trans fresh
    rw [command, velocityLimit, accelerationLimit, deciding,
      passesOnce_iff valid.motors ordinary active follower.symm leads leader held rfl fresh]
    exact within_twice_iff nonneg (drive_nonneg before held) (above before held) positive.1 positive.2

/-- A cycle computes no negative limit, and in a profile it is the one that the next cycle starts from. -/
theorem cycle_drive (nonneg : ∀ x, 0 ≤ sqrt x) (valid : c.Valid) {joint : PvJoint K}
    (member : joint ∈ (c.cycle sqrt config input).2.mailbox.joints) : 0 ≤ joint.driveVelocityCommand ∧
      ((∀ mailbox, c.mailbox = .ordinary mailbox → mailbox.perJointProfile = true) →
        joint.command.velocityLimit = joint.driveVelocityCommand) := by
  obtain ⟨mailbox, ordinary, consistent⟩ := mem_cycle member
  obtain ⟨before, -, cycled⟩ := consistent (valid mailbox ordinary).consistent
  have first_nonneg : 0 ≤ (mailbox.advanceJoint sqrt config input.degraded
      (input.feedback before.command.motor) before).driveVelocityCommand := driveVelocityCommand_nonneg nonneg
  cases cycled with
  | advanced after_eq unfollowed =>
    subst after_eq
    exact ⟨first_nonneg, fun _ => rfl⟩
  | followed follow active j follows =>
    obtain ⟨-, _, -, -, reading, limits, reference, velocity, -, -, -, rfl⟩ := follows
    have same : SameLimits mailbox (mailbox.advance sqrt config input.degraded input.feedback) :=
      sameLimits_advance mailbox
    rw [PvJoint.follow, Ordinary.followerVelocity, same.perJointProfile]
    simp only
    split_ifs with profile
    · exact ⟨advance_nonneg nonneg, fun _ => rfl⟩
    · exact ⟨first_nonneg, fun all => absurd (all mailbox ordinary) profile⟩

end Cycle

/-! ## Runs -/

section Run

variable {K : Type} [Field K] [LinearOrder K]

/-- The velocity limit that the last control cycle has computed for a motor; zero where there is none. -/
def previousLimit (h : List (Entry K)) (motor : Motor) : K :=
  (((h.filter isCycle).getLast?.bind fun e =>
    e.after.mailbox.joints.find? fun joint => joint.command.motor = motor).map fun joint =>
      joint.command.velocityLimit).getD 0

/-- Every control cycle is one of a per-joint profile. -/
def Profiled (h : List (Entry K)) : Prop :=
  ∀ e ∈ h, isCycle e = true → ∀ mailbox, e.before.mailbox = .ordinary mailbox → mailbox.perJointProfile = true

/-- The joints remember the limit of the last control cycle, or start over. -/
structure Remembered (h : List (Entry K)) (c : ArmControl K) : Prop where
  nonneg : ∀ joint ∈ c.mailbox.joints, 0 ≤ joint.driveVelocityCommand
  previous_nonneg : Profiled h → ∀ motor, 0 ≤ previousLimit h motor
  le_previous : Profiled h → ∀ joint ∈ c.mailbox.joints,
    joint.driveVelocityCommand ≤ previousLimit h joint.command.motor

omit [Field K] [LinearOrder K] in
theorem Profiled.concat {h : List (Entry K)} {e : Entry K} (profiled : Profiled (h ++ [e])) :
    Profiled h ∧ (isCycle e = true → ∀ mailbox, e.before.mailbox = .ordinary mailbox →
      mailbox.perJointProfile = true) :=
  ⟨fun e member => profiled e (List.mem_append_left _ member),
    profiled e (List.mem_append_right _ (List.mem_singleton_self e))⟩

omit [LinearOrder K] in
theorem previousLimit_concat {h : List (Entry K)} {e : Entry K} (cycle : isCycle e = true) (motor : Motor) :
    previousLimit (h ++ [e]) motor = ((e.after.mailbox.joints.find? fun joint => joint.command.motor = motor).map
      fun joint => joint.command.velocityLimit).getD 0 := by
  rw [previousLimit, List.filter_append, List.filter_cons_of_pos cycle, List.filter_nil,
    List.getLast?_append, List.getLast?_singleton]
  rfl

variable [IsStrictOrderedRing K] {sqrt : K → K} {config : Config K} {c : ArmControl K} {h : List (Entry K)}

theorem remembered_cycle (nonneg : ∀ x, 0 ≤ sqrt x) (valid : c.Valid) (input : CycleInput K) :
    Remembered (h ++ [entry (step sqrt config) c (.cycle input)]) (step sqrt config c (.cycle input)).1 := by
  have drive : ∀ joint ∈ (step sqrt config c (.cycle input)).1.mailbox.joints, _ :=
    fun joint member => cycle_drive nonneg valid member
  refine ⟨fun joint member => (drive joint member).1, fun profiled motor => ?_, fun profiled joint member => ?_⟩
  · rw [previousLimit_concat rfl]
    cases found : (entry (step sqrt config) c (.cycle input)).after.mailbox.joints.find?
        fun joint => joint.command.motor = motor with
    | none => exact le_rfl
    | some joint =>
      obtain ⟨drive_nonneg, same⟩ := drive joint (List.mem_of_find?_eq_some found)
      exact drive_nonneg.trans_eq (same (profiled.concat.2 rfl)).symm
  · rw [previousLimit_concat rfl]
    have found := find?_motor (valid_step sqrt valid (.cycle input)).motors_nodup member
    rw [entry_after, found]
    exact ((drive joint member).2 (profiled.concat.2 rfl)).symm.le

theorem remembered_step (nonneg : ∀ x, 0 ≤ sqrt x) (valid : c.Valid) (remembered : Remembered h c)
    (event : Event K) : Remembered (h ++ [entry (step sqrt config) c event]) (step sqrt config c event).1 := by
  by_cases cycle : ∃ input, event = .cycle input
  · obtain ⟨input, rfl⟩ := cycle
    exact remembered_cycle nonneg valid input
  have other := not_exists.mp cycle
  have kept : previousLimit (h ++ [entry (step sqrt config) c event]) = previousLimit h := by
    funext motor
    rw [previousLimit, filter_concat_of_other (isCycle_entry_of_other other), previousLimit]
  refine ⟨fun joint member => ?_, fun profiled motor => ?_, fun profiled joint member => ?_⟩
  · cases carried_step sqrt other member with
    | fresh unheld drive => exact drive.symm.le
    | previous previous held motor drive hold => exact drive ▸ remembered.nonneg previous held
  · exact kept ▸ remembered.previous_nonneg profiled.concat.1 motor
  · rw [kept]
    cases carried_step sqrt other member with
    | fresh unheld drive => exact drive ▸ remembered.previous_nonneg profiled.concat.1 _
    | previous previous held motor drive hold =>
      rw [drive, motor]
      exact remembered.le_previous profiled.concat.1 previous held

theorem remembered_run (nonneg : ∀ x, 0 ≤ sqrt x) (config : Config K) (events : List (Event K)) :
    Remembered (run sqrt config events) (final sqrt config events) := by
  have both := history_induction (step sqrt config) (s := ⟨.empty, none⟩)
    (H := fun h c => c.Valid ∧ Remembered h c)
    ⟨by rintro _ ⟨⟩, fun _ member => absurd member List.not_mem_nil, fun _ _ => le_rfl,
      fun _ _ member => absurd member List.not_mem_nil⟩
    (fun h c event both => ⟨valid_step sqrt both.1 event, remembered_step nonneg both.1 both.2 event⟩) events
  exact both.2

end Run

/-- In every run of profiles, the velocity limit of a joint keeps within its envelope in a control cycle exactly if
the joint passes once. -/
theorem velocityLimit_within_iff (config : Config ℝ) (events : List (Event ℝ)) (older newer : List (Entry ℝ))
    (e : Entry ℝ) (split : run Real.sqrt config events = older ++ e :: newer)
    (profiled : Profiled (run Real.sqrt config events)) (input : CycleInput ℝ) (call : e.call = .cycle input)
    (complete : e.before.Completes Real.sqrt config input) (mailbox : Ordinary ℝ)
    (ordinary : e.before.mailbox = .ordinary mailbox)
    (laidOut : ∀ follow, e.before.follow = some follow → mailbox.LaidOut config follow.leaderSide.other)
    (joint : PvJoint ℝ) (member : joint ∈ e.after.mailbox.joints) :
    Within Real.sqrt (mailbox.maximumVelocity config input.degraded joint)
        (mailbox.maximumAcceleration config input.degraded joint) config.period
        (previousLimit older joint.command.motor)
        (e.before.deciding config input joint.command.motor).reading joint.command.targetPosition
        joint.command.velocityLimit ↔
      e.before.PassesOnce Real.sqrt config input (previousLimit older joint.command.motor) joint.command.motor := by
  obtain ⟨earlier, event, later, -, rfl, rfl⟩ := run_split (step Real.sqrt config) split
  have earlierProfiled : Profiled (run Real.sqrt config earlier) := fun e member =>
    profiled e (split ▸ List.mem_append_left _ member)
  have profile := profiled (entry (step Real.sqrt config) _ event)
    (split ▸ List.mem_append_right _ (List.mem_cons_self ..)) (by rw [isCycle, call]) mailbox ordinary
  have valid := valid_final Real.sqrt config earlier
  have remembered := remembered_run Real.sqrt_nonneg config earlier
  cases (entry_call (step Real.sqrt config) _ event).symm.trans call
  have joints : (final Real.sqrt config earlier).mailbox.joints = mailbox.joints :=
    congrArg ArmMailbox.joints ordinary
  exact within_cycle_iff Real.sqrt_nonneg (valid mailbox ordinary) ordinary profile complete laidOut
    (joints ▸ remembered.nonneg) (joints ▸ remembered.le_previous earlierProfiled) member

section TwoArms

variable {K : Type} [Field K] [LinearOrder K] [IsStrictOrderedRing K] (sqrt : K → K)

theorem laidOut_together (side : Side) : (togetherMailbox (K := K)).LaidOut twoArms side := by
  intro joint
  simp only [togetherMailbox, List.getElem?_map, List.getElem?_range (layoutIndex_lt side joint)]
  rfl

theorem maximumVelocity_together (motor : Motor) : (togetherMailbox (K := K)).maximumVelocity twoArms false
    (.fresh motor 0 1 1 1) = 1 := by
  simp [Ordinary.maximumVelocity, togetherMailbox, PvJoint.fresh, commandScale, Config.velocityFeedbackScale, twoArms]

theorem maximumAcceleration_together (motor : Motor) : (togetherMailbox (K := K)).maximumAcceleration twoArms false
    (.fresh motor 0 1 1 1) = 1 := by
  simp [Ordinary.maximumAcceleration, togetherMailbox, PvJoint.fresh, commandScale, Config.velocityFeedbackScale,
    twoArms]

/-- The first pass opens the limit of a joint. -/
theorem opened_together (motor : Motor) : togetherMailbox.opened Real.sqrt twoArms false (atZero motor)
    (.fresh motor 0 1 1 1) = 1 / 100 := by
  have unheld : ((PvJoint.fresh motor 0 1 1 1 : PvJoint ℝ).updateHold twoArms (some ⟨0, 0⟩)).stationaryHold =
      false := by
    refine updateHold_far ?_
    norm_num [PvJoint.fresh, holdPositionTolerance]
  have reading : (atZero (K := ℝ) motor).reading = some ⟨0, 0⟩ := rfl
  have braking : (1 : ℝ) ≤ Real.sqrt 2 := Real.one_le_sqrt.mpr one_le_two
  rw [Ordinary.opened, reading, unheld, if_neg Bool.false_ne_true]
  simp only [maximumVelocity_together, maximumAcceleration_together, opening, ceiling]
  norm_num [PvJoint.fresh, twoArms, braking]

/-- The first pass over a follower joint is not harmless. -/
theorem not_passesOnce_together : ¬(⟨.ordinary togetherMailbox, some followFromZero⟩ : ArmControl ℝ).PassesOnce
    Real.sqrt twoArms zeroCycle 0 (layoutIndex .right 0) := by
  intro once
  have harmless := once togetherMailbox followFromZero rfl rfl 0 rfl _ (mem_togetherMailbox (layoutIndex_lt .left 0))
    rfl _ (mem_togetherMailbox (layoutIndex_lt .right 0)) rfl ⟨0, 0⟩ rfl
  have braking : (1 : ℝ) ≤ Real.sqrt 2 := Real.one_le_sqrt.mpr one_le_two
  have target : followFromZero.desired twoArms (PvJoint.fresh (layoutIndex .left 0) 0 1 1 1 : PvJoint ℝ).finalPosition
      0 = 1 := by
    norm_num [BimanualFollow.desired, followFromZero, twoArms, PvJoint.fresh]
  simp only [zeroCycle, maximumVelocity_together, maximumAcceleration_together, opened_together, target] at harmless
  norm_num [Harmless, ceiling, twoArms, braking] at harmless

theorem joints_zeroCycle : (final sqrt twoArms (togetherEvents (K := K) ++ [.cycle zeroCycle])).mailbox.joints =
    ((⟨.ordinary togetherMailbox, some followFromZero⟩ : ArmControl K).cycle sqrt twoArms
      zeroCycle).2.mailbox.joints := by
  rw [final, final_append]
  change (step sqrt twoArms (final sqrt twoArms togetherEvents) _).1.mailbox.joints = _
  rw [final_together]
  rfl

/-- A joint of the cycle. -/
theorem exists_joint_together (side : Side) : ∃ joint ∈ ((⟨.ordinary togetherMailbox, some followFromZero⟩ :
    ArmControl K).cycle sqrt twoArms zeroCycle).2.mailbox.joints, joint.command.motor = layoutIndex side 0 := by
  obtain ⟨mailbox, ordinary, same⟩ := sameLimits_cycle sqrt twoArms
    (c := ⟨.ordinary (togetherMailbox (K := K)), some followFromZero⟩) rfl zeroCycle
  have present : layoutIndex side 0 ∈ mailbox.joints.map fun joint => joint.command.motor := by
    rw [same.motors]
    exact List.mem_map_of_mem (mem_togetherMailbox (layoutIndex_lt side 0))
  rw [ordinary]
  exact List.mem_map.mp present

/-- A leader joint passes once. -/
theorem passesOnce_together (previous : ℝ) : (⟨.ordinary togetherMailbox, some followFromZero⟩ :
    ArmControl ℝ).PassesOnce Real.sqrt twoArms zeroCycle previous (layoutIndex .left 0) := by
  rintro mailbox follow - ⟨⟩ joint follower
  have same : layoutIndex .right joint = layoutIndex .left 0 := follower
  cases (layoutIndex_inj same).1

/-- In the first cycle after the start of the bimanual follow, the limit of a follower joint opens by two changes of
a period. -/
theorem velocityLimit_opens_twice : ∃ joint ∈ (final Real.sqrt twoArms
      (togetherEvents ++ [.cycle zeroCycle])).mailbox.joints,
    ¬Within Real.sqrt (togetherMailbox.maximumVelocity twoArms false joint)
      (togetherMailbox.maximumAcceleration twoArms false joint) twoArms.period
      (previousLimit (run Real.sqrt twoArms togetherEvents) joint.command.motor)
      ((final Real.sqrt twoArms togetherEvents).deciding twoArms zeroCycle joint.command.motor).reading
      joint.command.targetPosition joint.command.velocityLimit := by
  obtain ⟨joint, member, motor⟩ := exists_joint_together Real.sqrt .right
  have valid := valid_final Real.sqrt twoArms togetherEvents
  rw [final_together] at valid ⊢
  have fresh : ∀ joint ∈ (togetherMailbox (K := ℝ)).joints, joint.driveVelocityCommand = 0 := by
    intro joint held
    obtain ⟨motor, -, rfl⟩ := List.mem_map.mp held
    rfl
  refine ⟨joint, ?_, fun within => not_passesOnce_together ?_⟩
  · rw [joints_zeroCycle]
    exact member
  · have once := (within_cycle_iff Real.sqrt_nonneg (valid togetherMailbox rfl) rfl rfl
      (completes_together Real.sqrt) (fun follow _ => laidOut_together follow.leaderSide.other)
      (fun joint held => (fresh joint held).symm.le) (fun joint held => (fresh joint held).le) member).mp within
    exact motor ▸ once

/-- A follower joint keeps within its envelope in that cycle exactly if it passes once, and a leader joint does. -/
theorem velocityLimit_within_iff_together :
    (∃ joint ∈ (final Real.sqrt twoArms (togetherEvents ++ [.cycle zeroCycle])).mailbox.joints,
      joint.command.motor = layoutIndex .right 0 ∧
      (Within Real.sqrt (togetherMailbox.maximumVelocity twoArms false joint)
        (togetherMailbox.maximumAcceleration twoArms false joint) twoArms.period
        (previousLimit (run Real.sqrt twoArms togetherEvents) joint.command.motor)
        ((final Real.sqrt twoArms togetherEvents).deciding twoArms zeroCycle joint.command.motor).reading
        joint.command.targetPosition joint.command.velocityLimit ↔
      (final Real.sqrt twoArms togetherEvents).PassesOnce Real.sqrt twoArms zeroCycle
        (previousLimit (run Real.sqrt twoArms togetherEvents) joint.command.motor) joint.command.motor)) ∧
    ∃ joint ∈ (final Real.sqrt twoArms (togetherEvents ++ [.cycle zeroCycle])).mailbox.joints,
      joint.command.motor = layoutIndex .left 0 ∧
      Within Real.sqrt (togetherMailbox.maximumVelocity twoArms false joint)
        (togetherMailbox.maximumAcceleration twoArms false joint) twoArms.period
        (previousLimit (run Real.sqrt twoArms togetherEvents) joint.command.motor)
        ((final Real.sqrt twoArms togetherEvents).deciding twoArms zeroCycle joint.command.motor).reading
        joint.command.targetPosition joint.command.velocityLimit := by
  have split : run Real.sqrt twoArms (togetherEvents ++ [Event.cycle zeroCycle]) =
      run Real.sqrt twoArms togetherEvents ++ [entry (step Real.sqrt twoArms)
        (final Real.sqrt twoArms togetherEvents) (.cycle zeroCycle)] := run_append _ _ _ _
  have state := final_together Real.sqrt
  have profiled : Profiled (run Real.sqrt twoArms (togetherEvents ++ [.cycle zeroCycle])) := by
    intro e listed cycle mailbox ordinary
    rw [split] at listed
    rcases List.mem_append.mp listed with earlier | last
    · rcases List.mem_cons.mp earlier with rfl | later
      · cases cycle
      · cases List.mem_singleton.mp later
        cases cycle
    · cases List.mem_singleton.mp last
      cases (congrArg ArmControl.mailbox state).symm.trans ordinary
      rfl
  have within (joint : PvJoint ℝ)
      (member : joint ∈ (final Real.sqrt twoArms (togetherEvents ++ [.cycle zeroCycle])).mailbox.joints) := by
    refine velocityLimit_within_iff twoArms (togetherEvents ++ [Event.cycle zeroCycle])
      (run Real.sqrt twoArms togetherEvents) [] (entry (step Real.sqrt twoArms) (final Real.sqrt twoArms togetherEvents)
        (.cycle zeroCycle)) split profiled zeroCycle rfl ?_ togetherMailbox ?_ ?_ joint ?_
    · rw [entry_before, state]
      exact completes_together Real.sqrt
    · exact congrArg ArmControl.mailbox state
    · exact fun follow _ => laidOut_together follow.leaderSide.other
    · rw [final, final_append] at member
      exact member
  obtain ⟨follower, listed, right⟩ := exists_joint_together Real.sqrt .right
  obtain ⟨leader, listed', left⟩ := exists_joint_together Real.sqrt .left
  rw [← joints_zeroCycle] at listed listed'
  refine ⟨⟨follower, listed, right, within follower listed⟩, leader, listed', left, (within leader listed').mpr ?_⟩
  rw [entry_before, state, left]
  exact passesOnce_together _

end TwoArms

end MotorDrive.Control
