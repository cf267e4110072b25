import MotorDrive.Control.Valid

/-!
# The stationary hold

A joint is sent with the velocity limit zero only after 25 control cycles in a row have confirmed that it rests at
its endpoint.  The counter of the mailbox is a streak of such cycles (`Counted`), whichever way endpoints are
replaced in between.
-/

namespace MotorDrive.Control

open Trajectory (Motor)
open History

variable {K : Type} [Field K] [LinearOrder K]

/-- The entry is a control cycle. -/
def isCycle (e : Entry K) : Bool :=
  match e.call with
  | .cycle _ => true
  | _ => false

theorem isCycle_entry_of_other {sqrt : K → K} {config : Config K} {c : ArmControl K} {event : Event K}
    (other : ∀ input, event ≠ .cycle input) : isCycle (entry (step sqrt config) c event) = false := by
  cases event with
  | cycle input => exact absurd rfl (other input)
  | _ => rfl

omit [Field K] [LinearOrder K] in
theorem filter_concat_of_other {h : List (Entry K)} {e : Entry K} (other : isCycle e = false) :
    (h ++ [e]).filter isCycle = h.filter isCycle := by
  rw [List.filter_append, List.filter_cons_of_neg (by rw [other]; exact Bool.false_ne_true), List.filter_nil,
    List.append_nil]

/-- The cycle has fresh enabled feedback of a motor that rests at the endpoint of that cycle, and the endpoint is
within a quantum of the anchor. -/
def Confirms (config : Config K) (motor : Motor) (anchor : K) (e : Entry K) : Prop :=
  ∃ input reading, ∃ joint ∈ e.before.mailbox.joints, e.call = .cycle input ∧ joint.command.motor = motor ∧
    (input.feedback motor).reading = some reading ∧
    |reading.position - joint.finalPosition| ≤ holdPositionTolerance ∧
    |reading.velocity| ≤ holdVelocityTolerance / config.velocityFeedbackScale motor ∧
    |joint.finalPosition - anchor| ≤ holdTargetTolerance

/-- The counters of the joints count confirmations. -/
def Counted (config : Config K) (h : List (Entry K)) (c : ArmControl K) : Prop :=
  ∀ joint ∈ c.mailbox.joints, joint.stationaryHold = false →
    Streak (Confirms config joint.command.motor joint.holdTargetPosition) (h.filter isCycle)
      joint.holdConfirmationCycles

/-! ## One joint -/

section Joint

variable {config : Config K} {joint : PvJoint K} {reading : Option (Reading K)}

/-- A joint that is not held has no confirmation or one more. -/
theorem updateHold_unheld (unheld : (joint.updateHold config reading).stationaryHold = false) :
    (joint.updateHold config reading).holdConfirmationCycles = 0 ∨
      ∃ r, reading = some r ∧ joint.stationaryHold = false ∧ joint.confirms config r ∧
        (joint.updateHold config reading).holdConfirmationCycles = joint.holdConfirmationCycles + 1 ∧
        (joint.updateHold config reading).holdTargetPosition = joint.holdTargetPosition := by
  unfold PvJoint.updateHold at unheld ⊢
  cases reading with
  | none =>
    simp only at unheld ⊢
    split_ifs at unheld ⊢ with held
    · exact absurd (held.symm.trans unheld) nofun
    · exact .inl rfl
  | some r =>
    simp only at unheld ⊢
    split_ifs at unheld ⊢ with held moved confirmed few
    · exact .inl rfl
    · exact absurd (held.symm.trans unheld) nofun
    · exact .inr ⟨r, rfl, Bool.eq_false_iff.mpr held, confirmed, rfl, rfl⟩
    · exact absurd (not_lt.mp few) (of_decide_eq_false unheld)
    · exact .inl rfl

/-- A held joint has been held before or is confirmed often enough. -/
theorem updateHold_held (held : (joint.updateHold config reading).stationaryHold = true) :
    (joint.updateHold config reading).holdTargetPosition = joint.holdTargetPosition ∧
      (∀ r, reading = some r → |r.position - joint.finalPosition| ≤ holdPositionTolerance ∧
        |joint.finalPosition - joint.holdTargetPosition| ≤ holdTargetTolerance) ∧
      (joint.stationaryHold = false → ∃ r, reading = some r ∧ joint.confirms config r ∧
        requiredConfirmations ≤ joint.holdConfirmationCycles + 1) := by
  unfold PvJoint.updateHold at held ⊢
  cases reading with
  | none =>
    simp only at held ⊢
    split_ifs at held ⊢ with before
    · exact ⟨rfl, nofun, fun unheld => absurd (before.symm.trans unheld) nofun⟩
    · cases held
  | some r =>
    simp only at held ⊢
    split_ifs at held ⊢ with before moved confirmed few
    · cases held
    · rw [not_or, not_lt, not_lt] at moved
      refine ⟨rfl, ?_, fun unheld => absurd (before.symm.trans unheld) nofun⟩
      rintro _ ⟨⟩
      exact moved
    · refine ⟨rfl, ?_, fun _ => ⟨r, rfl, confirmed, of_decide_eq_true held⟩⟩
      rintro _ ⟨⟩
      exact ⟨confirmed.1, confirmed.2.2⟩
    · refine ⟨rfl, ?_, fun _ => ⟨r, rfl, confirmed, (not_lt.mp few).trans (Nat.le_succ _)⟩⟩
      rintro _ ⟨⟩
      exact ⟨confirmed.1, confirmed.2.2⟩
    · cases held

/-- A joint that reports a position off its endpoint is not held. -/
theorem updateHold_far {actual : Reading K} (far : holdPositionTolerance < |actual.position - joint.finalPosition|) :
    (joint.updateHold config (some actual)).stationaryHold = false :=
  Bool.eq_false_iff.mpr fun held => absurd ((updateHold_held held).2.1 actual rfl).1 (not_le.mpr far)

omit [Field K] [LinearOrder K] in
/-- The joints with holds of a size. -/
theorem mem_sizeHolds {mailbox : Ordinary K} (member : joint ∈ mailbox.sizeHolds.joints) :
    joint ∈ mailbox.joints ∨ ∃ previous ∈ mailbox.joints, joint = previous.resetHold := by
  unfold Ordinary.sizeHolds at member
  split_ifs at member
  · exact .inl member
  · obtain ⟨previous, before, rfl⟩ := List.mem_map.mp member
    exact .inr ⟨previous, before, rfl⟩

end Joint

/-! ## Runs -/

section Run

variable {sqrt : K → K} {config : Config K} {c : ArmControl K} {h : List (Entry K)}

/-- A confirmation continues the streak of a joint. -/
theorem Counted.confirm (counted : Counted config h c) {before : PvJoint K} {input : CycleInput K}
    {reading : Reading K}
    (sized : before ∈ c.mailbox.joints ∨ ∃ previous ∈ c.mailbox.joints, before = previous.resetHold)
    (unheld : before.stationaryHold = false)
    (fresh : (input.feedback before.command.motor).reading = some reading)
    (confirmed : before.confirms config reading) :
    Streak (Confirms config before.command.motor before.holdTargetPosition)
      ((h ++ [entry (step sqrt config) c (.cycle input)]).filter isCycle) (before.holdConfirmationCycles + 1) := by
  rw [List.filter_append]
  rcases sized with held | ⟨previous, held, rfl⟩
  · exact (counted before held unheld).concat ⟨input, reading, before, held, rfl, rfl, fresh, confirmed⟩
  · exact streak_zero.concat ⟨input, reading, previous, held, rfl, rfl, fresh, confirmed⟩

/-- One control cycle counts at most one confirmation. -/
theorem counted_cycle (valid : c.Valid) (counted : Counted config h c) (input : CycleInput K) :
    Counted config (h ++ [entry (step sqrt config) c (.cycle input)]) (step sqrt config c (.cycle input)).1 := by
  intro after member unheld
  obtain ⟨mailbox, ordinary, consistent⟩ := mem_cycle member
  obtain ⟨before, sized, cycled⟩ := consistent (valid mailbox ordinary).consistent
  have sized : before ∈ c.mailbox.joints ∨ ∃ previous ∈ c.mailbox.joints, before = previous.resetHold := by
    rw [ordinary]
    exact mem_sizeHolds sized
  cases cycled with
  | followed follow active joint follows =>
    obtain ⟨-, _, -, -, _, _, _, _, -, -, -, rfl⟩ := follows
    exact streak_zero
  | advanced after_eq =>
    subst after_eq
    have streak : Streak (Confirms config before.command.motor
        (before.updateHold config (input.feedback before.command.motor).reading).holdTargetPosition)
        ((h ++ [entry (step sqrt config) c (.cycle input)]).filter isCycle)
        (before.updateHold config (input.feedback before.command.motor).reading).holdConfirmationCycles := by
      rcases updateHold_unheld unheld with none | ⟨reading, fresh, unheldBefore, confirmed, count, anchor⟩
      · rw [none]
        exact streak_zero
      · rw [count, anchor]
        exact counted.confirm sized unheldBefore fresh confirmed
    exact streak

theorem counted_step (valid : c.Valid) (counted : Counted config h c) (event : Event K) :
    Counted config (h ++ [entry (step sqrt config) c event]) (step sqrt config c event).1 := by
  by_cases cycle : ∃ input, event = .cycle input
  · obtain ⟨input, rfl⟩ := cycle
    exact counted_cycle valid counted input
  have other := not_exists.mp cycle
  intro joint member unheld
  rw [filter_concat_of_other (isCycle_entry_of_other other)]
  cases carried_step sqrt other member with
  | fresh none drive =>
    rw [none.1]
    exact streak_zero
  | previous previous held motor drive hold =>
    rcases hold with none | ⟨count, same, anchor⟩
    · rw [none.1]
      exact streak_zero
    · rw [count, motor, anchor]
      exact counted previous held (same ▸ unheld)

variable (sqrt config) in
theorem counted_run [IsStrictOrderedRing K] (events : List (Event K)) :
    Counted config (run sqrt config events) (final sqrt config events) := by
  have both := history_induction (step sqrt config) (s := ⟨.empty, none⟩)
    (H := fun h c => c.Valid ∧ Counted config h c)
    ⟨by rintro _ ⟨⟩, fun _ member => absurd member List.not_mem_nil⟩
    (fun h c event both => ⟨valid_step sqrt both.1 event, counted_step both.1 both.2 event⟩) events
  exact both.2

/-- A held joint after a control cycle. -/
theorem held_cycle (valid : c.Valid) {input : CycleInput K} {joint : PvJoint K}
    (member : joint ∈ (c.cycle sqrt config input).2.mailbox.joints) (held : joint.stationaryHold = true) :
    ∃ before : PvJoint K, joint.command = ⟨before.command.motor, before.finalPosition, 0⟩ ∧
      (before ∈ c.mailbox.joints ∨ ∃ previous ∈ c.mailbox.joints, before = previous.resetHold) ∧
      (before.updateHold config (input.feedback before.command.motor).reading).stationaryHold = true ∧
      joint.holdTargetPosition =
        (before.updateHold config (input.feedback before.command.motor).reading).holdTargetPosition := by
  obtain ⟨mailbox, ordinary, consistent⟩ := mem_cycle member
  obtain ⟨before, sized, cycled⟩ := consistent (valid mailbox ordinary).consistent
  cases cycled with
  | followed follow active joint follows =>
    obtain ⟨-, _, -, -, _, _, _, _, -, -, -, rfl⟩ := follows
    cases held
  | advanced after_eq =>
    subst after_eq
    refine ⟨before, ?_, ?_, held, rfl⟩
    · exact congrArg (PvCommand.mk _ _) (if_pos held)
    · rw [ordinary]
      exact mem_sizeHolds sized

/-- A joint that becomes held has been confirmed in each of the last cycles. -/
theorem becomes_held (valid : c.Valid) (counted : Counted config h c) (event : Event K) {joint : PvJoint K}
    (member : joint ∈ (step sqrt config c event).1.mailbox.joints) (held : joint.stationaryHold = true) :
    (∃ before ∈ c.mailbox.joints, before.command.motor = joint.command.motor ∧ before.stationaryHold = true) ∨
      isCycle (entry (step sqrt config) c event) = true ∧
        Streak (Confirms config joint.command.motor joint.holdTargetPosition)
          ((h ++ [entry (step sqrt config) c event]).filter isCycle) requiredConfirmations := by
  by_cases cycle : ∃ input, event = .cycle input
  · obtain ⟨input, rfl⟩ := cycle
    obtain ⟨before, command, sized, heldNow, anchor⟩ := held_cycle valid member held
    obtain ⟨sameAnchor, -, confirmation⟩ := updateHold_held heldNow
    rw [command, anchor, sameAnchor]
    cases heldBefore : before.stationaryHold with
    | true =>
      rcases sized with kept | ⟨previous, -, rfl⟩
      · exact .inl ⟨before, kept, rfl, heldBefore⟩
      · cases heldBefore
    | false =>
      obtain ⟨reading, fresh, confirmed, enough⟩ := confirmation heldBefore
      exact .inr ⟨rfl, (counted.confirm sized heldBefore fresh confirmed).le enough⟩
  · refine .inl ?_
    cases carried_step sqrt (not_exists.mp cycle) member with
    | fresh unheld drive => exact absurd (held.symm.trans unheld.2) nofun
    | previous previous kept motor drive hold =>
      rcases hold with unheld | like
      · exact absurd (held.symm.trans unheld.2) nofun
      · exact ⟨previous, kept, motor.symm, like.2.1.symm.trans held⟩

/-- A command that a cycle sends is the one of the joint of its motor. -/
theorem sent_joint {input : CycleInput K} (valid : (c.cycle sqrt config input).2.Valid) {batch : List (PvCommand K)}
    (sent : (c.cycle sqrt config input).1 = .sent batch) {command : PvCommand K} (listed : command ∈ batch)
    {joint : PvJoint K} (member : joint ∈ (c.cycle sqrt config input).2.mailbox.joints)
    (motor : command.motor = joint.command.motor) : command = { joint.command with
      velocityLimit := joint.command.velocityLimit * commandScale input.degraded } := by
  cases ordinary : (c.cycle sqrt config input).2.mailbox with
  | empty =>
    rw [ordinary] at member
    exact absurd member List.not_mem_nil
  | commands pv =>
    rw [ordinary] at member
    exact absurd member List.not_mem_nil
  | ordinary mailbox =>
    rw [ordinary] at member
    obtain ⟨sender, held, rfl⟩ := mem_sent sent ordinary listed
    rw [List.inj_on_of_nodup_map (valid mailbox ordinary).motors held member motor]

/-- A joint becomes held only by its 25th confirmation in a row, and a joint that is sent with the velocity limit
zero because it is held rests at the endpoint that is sent, within a quantum of the anchor. -/
theorem stationaryHold_confirmed [IsStrictOrderedRing K] (sqrt : K → K) (config : Config K)
    (events : List (Event K)) (older newer : List (Entry K)) (e : Entry K)
    (split : run sqrt config events = older ++ e :: newer) (joint : PvJoint K)
    (member : joint ∈ e.after.mailbox.joints) (held : joint.stationaryHold = true) :
    ((∃ before ∈ e.before.mailbox.joints, before.command.motor = joint.command.motor ∧
        before.stationaryHold = true) ∨
      isCycle e = true ∧ Streak (Confirms config joint.command.motor joint.holdTargetPosition)
        ((older ++ [e]).filter isCycle) requiredConfirmations) ∧
    ∀ input batch command, e.call = .cycle input → e.answer = .cycled (.sent batch) → command ∈ batch →
      command.motor = joint.command.motor → command.velocityLimit = 0 ∧
        ∀ reading, (input.feedback joint.command.motor).reading = some reading →
          |reading.position - command.targetPosition| ≤ holdPositionTolerance ∧
          |command.targetPosition - joint.holdTargetPosition| ≤ holdTargetTolerance := by
  obtain ⟨earlier, event, later, -, rfl, rfl⟩ := run_split (step sqrt config) split
  have valid := valid_final sqrt config earlier
  refine ⟨becomes_held valid (counted_run sqrt config earlier) event member held, ?_⟩
  intro input batch command call answer listed motor
  cases (entry_call (step sqrt config) _ event).symm.trans call
  have sent := Reply.cycled.inj answer
  have commandEq := sent_joint (valid_step sqrt valid (.cycle input)) sent listed member motor
  obtain ⟨before, own, -, heldNow, anchor⟩ := held_cycle valid member held
  obtain ⟨sameAnchor, rest, -⟩ := updateHold_held heldNow
  rw [own] at commandEq
  rw [commandEq, own, anchor, sameAnchor]
  exact ⟨zero_mul _, rest⟩

end Run

/-! ## A joint at rest -/

/-- A product with one motor that a position command moves. -/
def oneMotor : Config ℚ where
  period := 1 / 100
  safePvVelocityLimit := 1 / 2
  armMotors := [0]
  joint _ := some ⟨-3, 3, -2, 2, 2, 1, by decide +kernel, by decide +kernel⟩
  arms side joint := ⟨layoutIndex side joint + 1, 1⟩
  period_pos := by decide +kernel
  safePvVelocityLimit_pos := by decide +kernel
  armMotors_nodup := List.nodup_singleton 0
  arms_distinct _ _ _ _ same := layoutIndex_inj (Nat.succ.inj same)

/-- Fresh enabled feedback of motors that rest at the position one. -/
def atRest : Motor → MotorState ℚ := fun _ => ⟨true, true, 1, some 1, some 0⟩

/-- A control cycle of motors that rest. -/
def restingCycle : CycleInput ℚ := ⟨false, atRest, atRest, atRest, [], true⟩

/-- A position command to where the motor is, with as many control cycles as a confirmation needs but one. -/
def restingEvents : List (Event ℚ) :=
  .install ⟨[(0, 1)], 1, 6, 1, none⟩ (.ok ()) atRest :: List.replicate 24 (.cycle restingCycle)

/-- The joint becomes held in the 25th control cycle. -/
theorem stationaryHold_confirmed_atRest :
    ∃ joint ∈ (final id oneMotor (restingEvents ++ [.cycle restingCycle])).mailbox.joints,
      Streak (Confirms oneMotor joint.command.motor joint.holdTargetPosition)
        ((run id oneMotor (restingEvents ++ [.cycle restingCycle])).filter isCycle) requiredConfirmations := by
  have split := run_append (step id oneMotor) ⟨.empty, none⟩ restingEvents (.cycle restingCycle)
  obtain ⟨joint, member, held⟩ := List.any_eq_true.mp (by decide +kernel :
    ((final id oneMotor (restingEvents ++ [.cycle restingCycle])).mailbox.joints.any
      fun joint => joint.stationaryHold) = true)
  refine ⟨joint, member, ?_⟩
  rw [final, final_append] at member
  rcases (stationaryHold_confirmed id oneMotor _ _ [] _ split joint member held).1 with
    ⟨before, kept, -, heldBefore⟩ | ⟨-, streak⟩
  · have none : ((final id oneMotor restingEvents).mailbox.joints.any fun joint => joint.stationaryHold) = false :=
      by decide +kernel
    exact absurd heldBefore (by simpa using List.any_eq_false.mp none before kept)
  · rw [run, split]
    exact streak

end MotorDrive.Control
