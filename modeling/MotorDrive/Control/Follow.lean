import MotorDrive.Control.Valid

/-!
# When the bimanual follow completes

The loop over the follower joints reaches its end exactly if all joints of both arms have fresh enabled feedback and
each follower joint is `Ready`: the leader joint is there, and where it sends the follower joint is within the soft
limits.  None of this changes in the loop.
-/

namespace MotorDrive.Control

open Trajectory (Motor)
open History Validate

variable {K : Type} [Field K] [LinearOrder K]

/-- The pair of joints is there, and the follower joint may go where the aim of the leader joint sends it. -/
def BimanualFollow.Ready (config : Config K) (follow : BimanualFollow K) (aim : PvJoint K → K)
    (joints : List (PvJoint K)) (joint : Fin armDof) : Prop :=
  (∃ leading ∈ joints, leading.command.motor = follow.leader config joint ∧
    ∃ limits, config.joint (follow.follower config joint) = some limits ∧
      limits.softLowerPosition ≤ follow.desired config (aim leading) joint ∧
      follow.desired config (aim leading) joint ≤ limits.softUpperPosition) ∧
  ∃ following ∈ joints, following.command.motor = follow.follower config joint

/-- The feedback of both joints is fresh and enabled. -/
def BimanualFollow.Seen (config : Config K) (follow : BimanualFollow K) (feedback : Motor → MotorState K)
    (joint : Fin armDof) : Prop :=
  (feedback (follow.leader config joint)).reading.isSome = true ∧
    (feedback (follow.follower config joint)).reading.isSome = true

section Loop

variable {sqrt : K → K} {config : Config K} {follow : BimanualFollow K} {degraded : Bool}
  {feedback : Motor → MotorState K} {joint : Fin armDof} {s s' : Following K}

/-- The loop body succeeds exactly if both joints are seen and ready. -/
theorem followJoint_ok_iff (distinct : (s.mailbox.joints.map fun joint => joint.command.motor).Nodup) :
    (∃ s', follow.followJoint sqrt config degraded feedback joint s = .ok s') ↔
      follow.Seen config feedback joint ∧
        follow.Ready config (fun joint => joint.command.targetPosition) s.mailbox.joints joint := by
  constructor
  · rintro ⟨s', ok⟩
    unfold BimanualFollow.followJoint at ok
    simp only at ok
    split at ok
    · rename_i leaderReading reading leaderFresh followerFresh
      split at ok
      · cases ok
      · rename_i leading found
        split at ok
        · cases ok
        · rename_i limits configured
          split_ifs at ok with outside lost
          have leads := List.find?_some found
          rw [decide_eq_true_eq] at leads
          rw [not_or, not_lt, not_lt] at outside
          refine ⟨⟨Option.isSome_of_eq_some leaderFresh, Option.isSome_of_eq_some followerFresh⟩,
            ⟨leading, List.mem_of_find?_eq_some found, leads, limits, configured, outside⟩, ?_⟩
          rw [Bool.not_eq_true, List.all_eq_false] at lost
          obtain ⟨following, member, motor⟩ := lost
          exact ⟨following, member, of_not_not fun other => motor (decide_eq_true other)⟩
    · cases ok
  · rintro ⟨⟨leaderSeen, followerSeen⟩, ⟨leading, member, leads, limits, configured, within⟩, following, present,
      follows⟩
    obtain ⟨leaderReading, leaderFresh⟩ := Option.isSome_iff_exists.mp leaderSeen
    obtain ⟨reading, followerFresh⟩ := Option.isSome_iff_exists.mp followerSeen
    have found := find?_motor distinct member
    rw [leads] at found
    have kept : (s.mailbox.joints.all fun entry => entry.command.motor ≠ follow.follower config joint) = false :=
      List.all_eq_false.mpr ⟨following, present, by simp [follows]⟩
    rw [← not_lt, ← not_lt, ← not_or] at within
    unfold BimanualFollow.leader at leaderFresh found
    unfold BimanualFollow.follower at followerFresh configured kept
    unfold BimanualFollow.followJoint
    simp only [leaderFresh, followerFresh, found, configured, if_neg within, kept, Bool.false_eq_true, if_false]
    exact ⟨_, rfl⟩

theorem mem_followJoint {leading : PvJoint K} {j : Fin armDof}
    (ok : follow.followJoint sqrt config degraded feedback joint s = .ok s')
    (leads : leading.command.motor = follow.leader config j) :
    leading ∈ s'.mailbox.joints ↔ leading ∈ s.mailbox.joints := by
  refine ⟨fun member => mem_of_followJoint ok member leads, fun member => ?_⟩
  unfold BimanualFollow.followJoint at ok
  simp only at ok
  split at ok
  · split at ok
    · cases ok
    · split at ok
      · cases ok
      · split_ifs at ok
        cases ok
        exact mem_setJoint_of_ne member fun same => leader_ne_follower j joint (leads.symm.trans same)
  · cases ok

/-- The loop body leaves who is ready. -/
theorem ready_followJoint_iff (ok : follow.followJoint sqrt config degraded feedback joint s = .ok s')
    (j : Fin armDof) :
    follow.Ready config (fun joint => joint.command.targetPosition) s'.mailbox.joints j ↔
      follow.Ready config (fun joint => joint.command.targetPosition) s.mailbox.joints j := by
  have motors := (followJoint_eq_ok ok).1.motors
  have present : ∀ joints : List (PvJoint K), (∃ following ∈ joints, following.command.motor =
      follow.follower config j) ↔ follow.follower config j ∈ joints.map fun joint => joint.command.motor := by
    simp
  unfold BimanualFollow.Ready
  rw [present, present, motors]
  refine and_congr_left' (exists_congr fun leading => ?_)
  exact ⟨fun ⟨member, leads, aims⟩ => ⟨(mem_followJoint ok leads).mp member, leads, aims⟩,
    fun ⟨member, leads, aims⟩ => ⟨(mem_followJoint ok leads).mpr member, leads, aims⟩⟩

/-- The loop reaches its end exactly if every joint is seen and ready at its start. -/
theorem followJoints_ok_iff (joints : List (Fin armDof))
    (distinct : (s.mailbox.joints.map fun joint => joint.command.motor).Nodup) :
    (follow.followJoints sqrt config degraded feedback joints s).1 = .ok () ↔
      ∀ joint ∈ joints, follow.Seen config feedback joint ∧
        follow.Ready config (fun joint => joint.command.targetPosition) s.mailbox.joints joint := by
  induction joints generalizing s with
  | nil => exact iff_of_true rfl fun _ none => absurd none List.not_mem_nil
  | cons joint rest ih =>
    have first : (∃ s', follow.followJoint sqrt config degraded feedback joint s = .ok s') ↔ _ :=
      followJoint_ok_iff distinct
    rw [List.forall_mem_cons, ← first]
    unfold BimanualFollow.followJoints
    cases ok : follow.followJoint sqrt config degraded feedback joint s with
    | error error =>
      refine iff_of_false (by rintro ⟨⟩) ?_
      rintro ⟨⟨_, ⟨⟩⟩, _⟩
    | ok s' =>
      rw [and_iff_right ⟨s', rfl⟩]
      simp only
      rw [ih ((followJoint_eq_ok ok).1.motors ▸ distinct)]
      simp only [ready_followJoint_iff ok]

end Loop

section Cycle

variable {sqrt : K → K} {config : Config K} {c : ArmControl K} {mailbox : Ordinary K} {follow : BimanualFollow K}

/-- The cycle of an ordinary command leaves who is ready. -/
theorem ready_advance_iff (degraded : Bool) (feedback : Motor → MotorState K) (j : Fin armDof) :
    follow.Ready config (fun joint => joint.command.targetPosition)
        (mailbox.advance sqrt config degraded feedback).joints j ↔
      follow.Ready config PvJoint.finalPosition mailbox.joints j := by
  have advanced : ∀ P : Motor → K → Prop, (∃ joint ∈ (mailbox.advance sqrt config degraded feedback).joints,
      P joint.command.motor joint.command.targetPosition) ↔
      ∃ joint ∈ mailbox.joints, P joint.command.motor joint.finalPosition := by
    intro P
    simp only [Ordinary.advance, List.mem_map, exists_exists_and_eq_and]
    unfold Ordinary.sizeHolds
    split_ifs
    · rfl
    · simp only [List.mem_map, exists_exists_and_eq_and]
      rfl
  exact and_congr (advanced fun motor aim => motor = follow.leader config j ∧
    ∃ limits, config.joint (follow.follower config j) = some limits ∧
      limits.softLowerPosition ≤ follow.desired config aim j ∧
      follow.desired config aim j ≤ limits.softUpperPosition)
    (advanced fun motor _ => motor = follow.follower config j)

/-- A cycle of the bimanual follow completes exactly if every joint is seen and ready. -/
theorem completes_iff (distinct : (mailbox.joints.map fun joint => joint.command.motor).Nodup)
    (ordinary : c.mailbox = .ordinary mailbox) (active : c.follow = some follow) (input : CycleInput K) :
    c.Completes sqrt config input ↔ ∀ joint, follow.Seen config input.followFeedback joint ∧
      follow.Ready config PvJoint.finalPosition mailbox.joints joint := by
  have same : SameLimits mailbox (mailbox.advance sqrt config input.degraded input.feedback) :=
    sameLimits_advance mailbox
  have loop : (follow.followJoints sqrt config input.degraded input.followFeedback (List.finRange armDof)
      ⟨mailbox.advance sqrt config input.degraded input.feedback, follow.followerReference,
        follow.followerReferenceVelocity⟩).1 = .ok () ↔ _ :=
    followJoints_ok_iff (List.finRange armDof) (same.motors ▸ distinct)
  simp only [List.mem_finRange, forall_const, ready_advance_iff] at loop
  rw [← loop]
  constructor
  · exact fun complete => complete mailbox follow ordinary active
  · intro ok mailbox' follow' ordinary' active'
    cases ordinary.symm.trans ordinary'
    cases active.symm.trans active'
    exact ok

end Cycle

/-! ## Two arms -/

section TwoArms

variable [IsStrictOrderedRing K]

/-- A product with two arms whose joints are all alike. -/
def twoArms : Config K where
  period := 1 / 100
  safePvVelocityLimit := 1 / 2
  armMotors := List.range 14
  joint _ := some ⟨-3, 3, -2, 2, 2, 1, two_pos, one_pos⟩
  arms side joint := ⟨layoutIndex side joint, 1⟩
  period_pos := by norm_num
  safePvVelocityLimit_pos := by norm_num
  armMotors_nodup := List.nodup_range
  arms_distinct _ _ _ _ same := layoutIndex_inj same

/-- Fresh enabled feedback of motors that rest at zero. -/
def atZero : Motor → MotorState K := fun _ => ⟨true, true, 1, some 0, some 0⟩

/-- A command of all joints to one radian. -/
def togetherRequest : JointPosition K :=
  ⟨(List.range 14).map fun motor => (motor, 1), 1, 1, 1, some (List.replicate 14 1, List.replicate 14 1)⟩

/-- The mailbox of the command. -/
def togetherMailbox : Ordinary K :=
  ⟨true, true, 1, 1, 1, true, (List.range 14).map fun motor => .fresh motor 0 1 1 1⟩

/-- The bimanual follow from zero. -/
def followFromZero : BimanualFollow K := ⟨.left, fun _ _ => 0, fun _ => 0, fun _ => 0⟩

/-- A command of both arms, then the start of the bimanual follow. -/
def togetherEvents : List (Event K) :=
  [.install togetherRequest (.ok ()) atZero, .startFollow .left (.ok ()) atZero]

/-- A control cycle of motors that rest at zero. -/
def zeroCycle : CycleInput K := ⟨false, atZero, atZero, atZero, [], true⟩

omit [LinearOrder K] [IsStrictOrderedRing K] in
theorem mem_targets {entry : (Motor × K) × ℕ} (member : entry ∈ togetherRequest.targets.zipIdx) :
    ∃ motor < 14, entry = ((motor, 1), motor) := by
  obtain ⟨⟨motor, position⟩, index⟩ := entry
  have place := List.mk_mem_zipIdx_iff_getElem?.mp member
  simp only [togetherRequest, List.getElem?_map, Option.map_eq_some_iff, Prod.mk.injEq] at place
  obtain ⟨motor, found, rfl, rfl⟩ := place
  obtain ⟨bound, rfl⟩ := List.getElem?_eq_some_iff.mp found
  rw [List.length_range] at bound
  exact ⟨index, bound, by rw [List.getElem_range]⟩

theorem check_together : togetherRequest.check (twoArms (K := K)) = .ok () := by
  have passes : ∀ {wrong : Prop} [Decidable wrong] {error : String}, ¬ wrong → reject wrong error = .ok () :=
    fun right => reject_eq_ok.mpr right
  have each : ∀ entry ∈ (togetherRequest (K := K)).targets.zipIdx,
      togetherRequest.checkTarget twoArms entry = .ok () := by
    intro entry member
    obtain ⟨motor, bound, rfl⟩ := mem_targets member
    have distinct : motor ∉ ((togetherRequest (K := K)).targets.take motor).map Prod.fst := by
      simp [togetherRequest, ← List.map_take, List.take_range]
    have known : motor ∈ (twoArms (K := K)).armMotors := List.mem_range.mpr bound
    have velocity : (List.replicate 14 (1 : K)).getD motor 0 = 1 := by
      rw [List.getD_eq_getElem?_getD, List.getElem?_replicate, if_pos bound, Option.getD_some]
    rw [JointPosition.checkTarget, passes (not_not.mpr known), ok_bind, passes distinct, ok_bind]
    simp only [twoArms, togetherRequest, velocity]
    norm_num [reject, checkPosition]
  rw [JointPosition.check, passes (by simp [togetherRequest]), ok_bind, passes (by simp [togetherRequest]), ok_bind,
    passes (by simp [togetherRequest]), ok_bind, passes (by simp [togetherRequest]), ok_bind,
    passes (by simp [togetherRequest, twoArms]), ok_bind]
  exact forM_ok each

theorem install_together : (⟨.empty, none⟩ : ArmControl K).installJointPosition twoArms togetherRequest (.ok ())
    atZero = (.ok (), ⟨.ordinary togetherMailbox, none⟩) := by
  have made : togetherRequest.targets.zipIdx.mapM (togetherRequest.installJoint .empty (atZero (K := K))) =
      .ok togetherMailbox.joints := by
    have each : ∀ entry ∈ (togetherRequest (K := K)).targets.zipIdx,
        togetherRequest.installJoint .empty (atZero (K := K)) entry = .ok (.fresh entry.2 0 1 1 1) := by
      intro entry member
      obtain ⟨motor, bound, rfl⟩ := mem_targets member
      have limit : (List.replicate 14 (1 : K)).getD motor 0 = 1 := by
        rw [List.getD_eq_getElem?_getD, List.getElem?_replicate, if_pos bound, Option.getD_some]
      simp only [JointPosition.installJoint, togetherRequest, Option.map_some, Option.getD_some, limit]
      rfl
    rw [mapM_ok each]
    rfl
  rw [ArmControl.installJointPosition, check_together]
  simp only [ok_bind, made]
  rfl

theorem startFollow_together : (⟨.ordinary togetherMailbox, none⟩ : ArmControl K).startBimanualFollow twoArms .left
    (.ok ()) atZero = (.ok (), ⟨.ordinary togetherMailbox, some followFromZero⟩) := by
  rfl

variable (sqrt : K → K)

theorem final_together : final sqrt twoArms (togetherEvents (K := K)) =
    ⟨.ordinary togetherMailbox, some followFromZero⟩ := by
  have installed : (step sqrt twoArms (⟨.empty, none⟩ : ArmControl K)
      (.install togetherRequest (.ok ()) atZero)).1 = ⟨.ordinary togetherMailbox, none⟩ :=
    congrArg Prod.snd install_together
  rw [final, togetherEvents, History.final, installed]
  exact congrArg Prod.snd startFollow_together

omit [LinearOrder K] [IsStrictOrderedRing K] in
theorem mem_togetherMailbox {motor : Motor} (bound : motor < 14) :
    PvJoint.fresh motor 0 1 1 1 ∈ (togetherMailbox (K := K)).joints :=
  List.mem_map.mpr ⟨motor, List.mem_range.mpr bound, rfl⟩

theorem layoutIndex_lt (side : Side) (joint : Fin armDof) : layoutIndex side joint < 14 := by
  have bound : (joint : ℕ) < 7 := joint.isLt
  cases side <;> simp only [layoutIndex, armDof] <;> omega

/-- The bimanual follow completes. -/
theorem completes_together : (⟨.ordinary togetherMailbox, some followFromZero⟩ : ArmControl K).Completes sqrt
    twoArms zeroCycle := by
  have distinct : ((togetherMailbox (K := K)).joints.map fun joint => joint.command.motor).Nodup :=
    List.nodup_range (n := 14)
  refine (completes_iff distinct rfl rfl zeroCycle).mpr fun joint => ⟨⟨rfl, rfl⟩, ?_⟩
  refine ⟨⟨_, mem_togetherMailbox (layoutIndex_lt .left joint), rfl, _, rfl, ?_⟩,
    _, mem_togetherMailbox (layoutIndex_lt .right joint), rfl⟩
  simp only [BimanualFollow.desired, followFromZero, twoArms, PvJoint.fresh]
  norm_num

end TwoArms

end MotorDrive.Control
