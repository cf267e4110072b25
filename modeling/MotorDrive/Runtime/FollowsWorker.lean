import MotorDrive.Runtime.FollowsLifecycle

/-!
# The worker follows the flow

One rule for each function behind `worker_loop` and behind the calls that take no `lifecycle_mutex_`, and
`runtime_follows`, which collects the rules of all operations.
-/

namespace MotorDrive.Runtime

open Threads SafetyRuntime

/-! ## The worker -/

section Worker

variable {config : RuntimeConfig} {E : String → Local → Prop}

/-- The worker under `command_mutex_`. -/
def Working (φ : Local) : Prop := At .worker true .idle .none φ

theorem follows_commitGripperCommandsSent (time : ℕ) (batch : GripperBatch) :
    (runtimeFlow config).Follows .worker (commitGripperCommandsSent time batch.commands)
      (fun φ => Working φ ∧ φ.batch = batch) (fun _ => Working) E := by
  refine .when (fun _ => ?_) fun _ _ holds => holds.1
  exact follows_update (fun _ => rfl) (fun _ _ => rfl)
    (fun φ holds => ⟨rfl, holds.1.2.1, by rw [holds.2]⟩) fun _ _ _ holds => holds.1

theorem follows_prepareGripperCommandsLocked {A : Local → Prop} (works : ∀ φ, A φ → Working φ)
    (keeps : ∀ φ batch, A φ → A { φ with batch }) :
    (runtimeFlow config).Follows .worker (prepareGripperCommandsLocked config) A
      (fun prepared φ => A φ ∧ ∀ batch, prepared = some batch → φ.batch = batch) E := by
  unfold prepareGripperCommandsLocked lookAt
  refine follows_act (fun _ => rfl) (fun _ _ => rfl) (fun φ holds => ⟨rfl, (works φ holds).2.1⟩) ?_
  intro i s φ holds
  refine ⟨keeps φ _ holds, fun batch found => ?_⟩
  have found : s.gripperBatch config i = some batch := found
  simp [Local.step, found]

theorem follows_combinedGrippers {A : Local → Prop} (works : ∀ φ, A φ → Working φ)
    (keeps : ∀ φ batch, A φ → A { φ with batch }) (includeGrippers : Bool) :
    (runtimeFlow config).Follows .worker (combinedGrippers config includeGrippers)
      (fun φ => A φ ∧ φ.batch = {})
      (fun prepared φ => A φ ∧ ∀ batch, prepared = some batch → φ.batch = batch) E := by
  refine .ite (fun _ => ?_) fun _ => .ret fun φ holds => ⟨holds.1, fun batch found => ?_⟩
  · exact (follows_prepareGripperCommandsLocked works keeps).conseq (fun _ holds => holds.1)
      (fun _ _ holds => holds) fun _ _ holds => holds
  · rw [holds.2, Option.some.inj found]

theorem follows_limitTorque {A : Local → Prop} (mode : ControlMode) :
    (runtimeFlow config).Follows .worker (limitTorque mode) A (fun _ => A) E := by
  cases mode with
  | pv => exact .ret fun _ holds => holds
  | mit => exact follows_ask

theorem follows_cycleFailed {A : Local → Prop} (works : ∀ φ, A φ → Working φ) :
    (runtimeFlow config).Follows .worker (update .cycleFailed fun _ s => { s with progress :=
      { s.progress with consecutiveSendFailures := s.progress.consecutiveSendFailures + 1 } }) A
      (fun _ => A) E :=
  follows_update (fun _ => rfl) (fun _ _ => rfl) (fun φ holds => ⟨rfl, (works φ holds).2.1⟩)
    fun _ _ _ holds => holds

theorem follows_runGripperControlOnce :
    (runtimeFlow config).Follows .worker (runGripperControlOnce config) (At .worker false .idle .none)
      (fun _ => At .worker false .idle .none) fun _ => At .worker false .idle .none := by
  refine follows_locked (.bind follows_glance fun active =>
    .ite (fun _ => .ret fun _ place => place) fun _ => ?_)
  refine .bind (follows_prepareGripperCommandsLocked (fun _ place => place) fun _ _ place => place)
    fun prepared => ?_
  cases prepared with
  | none => exact .ret fun _ holds => holds.1
  | some batch =>
    refine .ite (fun _ => .ret fun _ holds => holds.1) fun _ => ?_
    have steady : Steady fun φ => Working φ ∧ φ.batch = batch := fun _ _ holds => holds
    have fits : ∀ φ, Working φ ∧ φ.batch = batch → φ.command = true ∧
        φ.sends .worker .gripperControl batch.since batch.disabled batch.commands :=
      fun φ holds => ⟨holds.1.2.1, rfl, by rw [holds.2], by rw [holds.2], by rw [holds.2]⟩
    refine .bind ((follows_send steady fits).conseq (fun φ holds => ⟨holds.1, holds.2 batch rfl⟩)
      (fun _ _ holds => holds) fun _ _ holds => holds) fun sent =>
        .ite (fun _ => follows_glance.conseq (fun _ holds => holds.1) (fun _ _ holds => holds) fun _ _ holds => holds)
          fun _ => ?_
    exact .bind (follows_commitGripperCommandsSent batch.time batch) fun _ => .ret fun _ place => place

/-! ### Gravity compensation -/

/-- The worker in a gravity cycle with its reading. -/
def Balancing (cycle : GravityCycle) (φ : Local) : Prop :=
  Working φ ∧ (∃ snapshot, φ.cycles .worker true snapshot) ∧ φ.gravity = some cycle

theorem follows_gravityFrame (time : ℕ) (includeGrippers : Bool) (cycle : GravityCycle) :
    (runtimeFlow config).Follows .worker (gravityFrame config time includeGrippers (some cycle))
      (fun φ => Balancing cycle φ ∧ φ.batch = {}) (fun _ => Working) E := by
  refine .bind (follows_limitTorque .mit) fun limited =>
    .ite (fun _ => .ret fun _ holds => holds.1.1) fun _ => ?_
  refine .bind (follows_combinedGrippers (A := Balancing cycle) (fun _ holds => holds.1)
    (fun _ _ holds => holds) includeGrippers) fun prepared => ?_
  cases prepared with
  | none => exact .ret fun _ holds => holds.1.1
  | some batch =>
    have steady : Steady fun φ => Balancing cycle φ ∧ φ.batch = batch := fun _ _ holds => holds
    have fits : ∀ φ, Balancing cycle φ ∧ φ.batch = batch → φ.command = true ∧ φ.sends .worker .gravityCycle
        cycle.since (batch.filters cycle.disabled) (batch.commands ++ cycle.commands) := by
      rintro φ ⟨⟨place, ⟨snapshot, cycles⟩, gravity⟩, batchIs⟩
      exact ⟨place.2.1, snapshot, cycle, cycles, gravity, rfl, by rw [batchIs], by rw [batchIs]⟩
    refine .bind ((follows_send steady fits).conseq (fun φ holds => ⟨holds.1, holds.2 batch rfl⟩)
      (fun _ _ holds => holds) fun _ _ holds => holds) fun sent => .ite (fun _ => ?_) fun _ => ?_
    · exact .bind (follows_cycleFailed fun _ holds => holds.1.1) fun _ => .ret fun _ holds => holds.1.1
    · refine .bind (Q := fun _ φ => Working φ ∧ φ.batch = batch) (follows_update (fun _ => rfl)
        (fun _ _ => rfl) (fun φ holds => ⟨holds.1.2.2, holds.1.2.1⟩) fun _ _ _ holds =>
          ⟨holds.1.1, holds.2⟩) fun _ => ?_
      exact .bind (follows_commitGripperCommandsSent time batch) fun _ => .ret fun _ place => place

theorem follows_runGravityControlCycle (time : ℕ) (includeGrippers : Bool) :
    (runtimeFlow config).Follows .worker (runGravityControlCycle config time includeGrippers)
      (fun φ => (Working φ ∧ ∃ snapshot, φ.cycles .worker true snapshot) ∧ φ.batch = {})
      (fun _ => Working) E := by
  refine .bind (Q := fun answer φ => ((Working φ ∧ ∃ snapshot, φ.cycles .worker true snapshot) ∧
    φ.batch = {}) ∧ (answer.1 = true → φ.gravity = answer.2)) ?_ fun ⟨active, cycle⟩ =>
      .ite (fun isActive => ?_) fun _ => ?_
  · refine follows_act (fun _ => rfl) (fun _ _ => rfl) (fun φ holds => holds.1.2) ?_
    intro i s φ holds
    refine ⟨holds, fun isActive => ?_⟩
    have phase : s.arm.gravity.phase ≠ .inactive := of_decide_eq_true isActive
    simp [Local.step, phase]
  · cases cycle with
    | none => exact .ret fun _ holds => holds.1.1.1
    | some cycle =>
      exact (follows_gravityFrame time includeGrippers cycle).conseq
        (fun φ holds => ⟨⟨holds.1.1.1, holds.1.1.2, holds.2 isActive⟩, holds.1.2⟩) (fun _ _ place => place)
        fun _ _ place => place
  · exact .ret fun _ holds => holds.1.1.1

/-! ### The arm -/

/-- The worker in an arm cycle. -/
def Cycling (snapshot : CycleSnapshot) (φ : Local) : Prop := Working φ ∧ φ.cycles .worker false snapshot

theorem follows_armFrame (time : ℕ) (snapshot : CycleSnapshot) (includeGrippers completing : Bool)
    (frame : ArmFrame) :
    (runtimeFlow config).Follows .worker
      (armFrame config time snapshot includeGrippers completing (.frame frame))
      (fun φ => (Cycling snapshot φ ∧ φ.frame = some frame) ∧ φ.batch = {}) (fun _ => Working) E := by
  refine .bind (follows_limitTorque snapshot.mode) fun limited =>
    .ite (fun _ => .ret fun _ holds => holds.1.1.1) fun _ => ?_
  refine .bind (follows_combinedGrippers (A := fun φ => Cycling snapshot φ ∧ φ.frame = some frame)
    (fun _ holds => holds.1.1) (fun _ _ holds => holds) _) fun prepared => ?_
  cases prepared with
  | none => exact .ret fun _ holds => holds.1.1.1
  | some batch =>
    have steady : Steady fun φ => (Cycling snapshot φ ∧ φ.frame = some frame) ∧ φ.batch = batch :=
      fun _ _ holds => holds
    have fits : ∀ φ, (Cycling snapshot φ ∧ φ.frame = some frame) ∧ φ.batch = batch → φ.command = true ∧
        φ.sends .worker .armCycle snapshot.since (batch.filters snapshot.disabled)
          (batch.commands ++ frame.commands) := by
      rintro φ ⟨⟨⟨place, cycles⟩, frameIs⟩, batchIs⟩
      exact ⟨place.2.1, snapshot, frame, cycles, frameIs, rfl, by rw [batchIs], by rw [batchIs]⟩
    refine .bind ((follows_sendNonempty steady fits).conseq (fun φ holds => ⟨holds.1, holds.2 batch rfl⟩)
      (fun _ _ holds => holds) fun _ _ holds => holds) fun sent => .ite (fun _ => ?_) fun _ => ?_
    · exact .bind (follows_cycleFailed fun _ holds => holds.1.1.1) fun _ => .ret fun _ holds => holds.1.1.1
    · refine .bind (Q := fun _ φ => Cycling snapshot φ ∧ φ.batch = batch) (follows_update (fun _ => rfl)
        (fun _ _ => rfl) (fun φ holds => ⟨holds.1.2, snapshot, holds.1.1.2, rfl⟩) fun _ _ _ holds =>
          ⟨holds.1.1, holds.2⟩) fun _ => ?_
      refine .bind (Q := fun _ => Cycling snapshot) (.when (fun _ => ?_) fun _ _ holds => holds.1) fun _ =>
        .bind (Q := fun _ => Working) (.when (fun _ => ?_) fun _ _ holds => holds.1) fun _ =>
          .ret fun _ place => place
      · exact follows_update (fun _ => rfl) (fun _ _ => rfl)
          (fun φ holds => ⟨rfl, holds.1.1.2.1, by rw [holds.2]⟩) fun _ _ _ holds => holds.1
      · exact follows_update (fun _ => rfl) (fun _ _ => rfl) (fun φ holds => ⟨snapshot, holds.2⟩)
          fun _ _ _ holds => holds.1

/-- The references of a cycle and its frame. -/
theorem follows_cyclePrepare (time : ℕ) (snapshot : CycleSnapshot) (includeGrippers completing : Bool) :
    (runtimeFlow config).Follows .worker (do
      let advance ← act (.cyclePrepare snapshot) fun i s => s.advanceArm config snapshot i
      armFrame config time snapshot includeGrippers completing advance)
      (fun φ => Cycling snapshot φ ∧ φ.batch = {}) (fun _ => Working) E := by
  refine .bind (Q := fun advance φ => (Cycling snapshot φ ∧ φ.frame = advance.frame?) ∧ φ.batch = {})
    (follows_act (fun _ => rfl) (fun _ _ => rfl) (fun φ holds => holds.1.2) fun _ _ _ holds =>
      ⟨⟨holds.1, rfl⟩, holds.2⟩) fun advance => ?_
  cases advance with
  | invalid => exact .ret fun _ holds => holds.1.1.1
  | failed => exact .ret fun _ holds => holds.1.1.1
  | frame frame => exact follows_armFrame time snapshot includeGrippers completing frame

theorem follows_runArmControlCycle (time : ℕ) (includeGrippers : Bool) :
    (runtimeFlow config).Follows .worker (runArmControlCycle config time includeGrippers)
      (At .worker false .idle .none) (fun _ => At .worker false .idle .none)
      fun _ => At .worker false .idle .none := by
  refine follows_locked (.bind (Q := fun snapshot φ => (Working φ ∧ φ.cycle = snapshot) ∧ φ.batch = {})
    (follows_act (fun _ => rfl) (fun _ _ => rfl) (fun φ place => ⟨rfl, place.2.1⟩)
      fun _ _ _ place => ⟨⟨place, rfl⟩, rfl⟩) fun snapshot => ?_)
  cases snapshot with
  | none => exact .ret fun _ holds => holds.1.1
  | some snapshot =>
    refine .ite (fun gravity => ?_) fun noGravity => ?_
    · exact (follows_runGravityControlCycle time includeGrippers).conseq
        (fun φ holds => ⟨⟨holds.1.1, snapshot, rfl, holds.1.1.2.1, holds.1.2, gravity⟩, holds.2⟩)
        (fun _ _ place => place) fun _ _ place => place
    · have inactive : snapshot.gravityActive = false := by simpa using noGravity
      refine .bind (Q := fun _ φ => Cycling snapshot φ ∧ φ.batch = {}) (follows_act (fun _ => rfl)
        (fun _ _ => rfl) ?_ ?_) fun trajectory => ?_
      · exact fun φ holds => ⟨snapshot, ⟨rfl, holds.1.1.2.1, holds.1.2, inactive⟩, rfl⟩
      · exact fun _ _ φ holds => ⟨⟨holds.1.1, rfl, holds.1.1.2.1, holds.1.2, inactive⟩, holds.2⟩
      · cases trajectory with
        | failed => exact .ret fun _ holds => holds.1.1
        | active completing => exact follows_cyclePrepare time snapshot includeGrippers completing
        | inactive completing =>
          refine .bind (Q := fun _ φ => Cycling snapshot φ ∧ φ.batch = {}) (follows_update (fun _ => rfl)
            (fun _ _ => rfl) (fun φ holds => ⟨snapshot, holds.1.2, rfl⟩) fun _ _ _ holds => holds) fun _ => ?_
          exact follows_cyclePrepare time snapshot includeGrippers completing

/-! ### worker_loop -/

theorem follows_runReadyFeedback :
    (runtimeFlow config).Follows .worker (runReadyFeedback config) (At .worker false .idle .none)
      (fun _ => At .worker false .idle .none) fun _ => At .worker false .idle .none := by
  refine .bind (follows_locked (.bind follows_glance fun still =>
    .ite (fun _ => .ret fun _ place => place) fun _ => ?_)) fun complete => .when (fun _ => ?_)
    fun _ _ place => place
  · refine .bind (follows_feedback (steady_at _ _ _ _)) fun ⟨complete, missing⟩ => ?_
    refine .bind ((follows_validate (steady_at _ _ _ _) missing false).conseq
      (fun _ place => ⟨place, fun impossible => nomatch impossible⟩) (fun _ _ holds => holds.1)
      fun _ _ place => place) fun valid => .ret fun _ place => place
  · exact follows_update (fun _ => rfl) (fun _ _ => rfl) (fun _ _ => rfl) fun _ _ _ place => place

theorem follows_runArmControl (decision : Decision) :
    (runtimeFlow config).Follows .worker (runArmControl config decision) (At .worker false .idle .none)
      (fun _ => At .worker false .idle .none) fun _ => At .worker false .idle .none := by
  have failed : (runtimeFlow config).Follows .worker (do
      let retried ← look fun _ s => s.retriesSend config.feedbackFailureThreshold
      if retried then pure false else do
        update .faultTrajectory fun _ s => s.setArm (s.arm.terminateTrajectory .fault)
        enterSafeStopOrFault config .worker
        pure false) (At .worker false .idle .none) (fun _ => At .worker false .idle .none)
      fun _ => At .worker false .idle .none := by
    refine .bind follows_glance fun retried => .ite (fun _ => .ret fun _ place => place) fun _ => ?_
    refine .bind (Q := fun _ => At .worker false .idle .none) (follows_update (fun _ => rfl) (fun _ _ => rfl)
      (fun _ _ => rfl) fun _ _ _ place => place) fun _ => ?_
    exact .bind (follows_enterSafeStopOrFault ⟨by simp, by simp⟩) fun _ => .ret fun _ place => place
  refine .ite (fun _ => .ret fun _ place => place) fun _ =>
    .bind (follows_runArmControlCycle decision.time decision.combined) fun result => ?_
  cases result with
  | done => exact .ret fun _ place => place
  | sendFailed => exact failed
  | failed => exact failed

theorem follows_refreshFeedbackHealth {t : Thread} {A : Local → Prop} (steady : Steady A)
    (recoveryCheck : Bool) (missing : List MissingMotor) :
    (runtimeFlow config).Follows t (refreshFeedbackHealth config recoveryCheck missing) A
      (fun _ => A) E := by
  refine .bind follows_refreshTransportHealth fun transports => ?_
  refine .bind (Q := fun _ => A) (follows_act (fun _ => rfl) (fun _ _ => rfl) (fun _ _ => trivial)
    fun _ _ φ holds => steady φ _ holds) fun answer => ?_
  exact .bind (Q := fun _ => A) (follows_update (fun _ => rfl) (fun _ _ => rfl) (fun _ _ => trivial)
    fun _ _ _ holds => holds) fun _ => .ret fun _ holds => holds

theorem follows_workerFault {stage : Stage} (still : stage ≠ .starting ∧ stage ≠ .releasing) :
    (runtimeFlow config).Follows .worker (enterFault config .worker true) (At .worker false stage .none)
      (fun _ => At .worker false .idle .none) E := by
  have owner : Thread.worker = .lifecycle → stage = .estopping ∧ Recovery.none = .none :=
    fun same => nomatch same
  exact follows_enterFault still owner true

/-- Where the worker is after a feedback check that failed so. -/
def FeedbackFailure.stage : FeedbackFailure → Stage
  | .fault | .safeStop => .stopping
  | .degraded => .degrading
  | .none => .idle

theorem follows_runFeedbackCheck (decision : Decision) :
    (runtimeFlow config).Follows .worker (runFeedbackCheck config decision) (At .worker false .idle .none)
      (fun _ => At .worker false .idle .none) fun _ => At .worker false .idle .none := by
  refine .ite (fun _ => .ret fun _ place => place) fun _ => ?_
  refine .bind (follows_locked (.bind follows_glance fun still =>
    .ite (fun _ => .ret fun _ place => place) fun _ =>
      .bind (follows_refreshFeedbackHealth (steady_at _ _ _ _) false []) fun _ =>
        .ret fun _ place => place)) fun healthy => ?_
  rcases healthy with _ | _ | _
  · exact .ret fun _ place => place
  · refine .bind (Q := fun failure => At .worker false failure.stage .none) ?_ fun failure =>
      .bind (Q := fun _ => At .worker false .idle .none) ?_ fun _ => .ret fun _ place => place
    · refine follows_act (fun _ => rfl) (fun _ _ => rfl) (fun _ _ => rfl) fun i s φ place => ?_
      have moved : ∀ stage, At .worker false stage .none (φ.enter stage) :=
        fun stage => ⟨place.1, place.2.1, rfl, place.2.2.2⟩
      cases failure : (s.feedbackFailed config i.severe).1 <;> simp only [Local.step, failure]
      · exact moved _
      · exact moved _
      · exact moved _
      · exact place
    · cases failure with
      | fault => exact follows_workerFault ⟨by simp [FeedbackFailure.stage], by simp [FeedbackFailure.stage]⟩
      | safeStop => exact follows_enterSafeStopOrFault ⟨by simp [FeedbackFailure.stage], by simp [FeedbackFailure.stage]⟩
      | degraded =>
        exact follows_update (fun _ => rfl) (fun _ _ => rfl) (fun φ place => ⟨rfl, place.2.2.1⟩)
          fun _ _ φ place => ⟨place.1, place.2.1, rfl, place.2.2.2⟩
      | none => exact .ret fun _ place => place
  · exact .ret fun _ place => place

theorem follows_runGripperControl (decision : Decision) :
    (runtimeFlow config).Follows .worker (runGripperControl config decision) (At .worker false .idle .none)
      (fun _ => At .worker false .idle .none) fun _ => At .worker false .idle .none := by
  refine .ite (fun _ => .ret fun _ place => place) fun _ =>
    .bind follows_runGripperControlOnce fun result => ?_
  cases result with
  | done => exact .ret fun _ place => place
  | sendFailed =>
    refine .bind (Q := fun _ => At .worker false .idle .none) (follows_update (fun _ => rfl) (fun _ _ => rfl)
      (fun _ _ => fun same => nomatch same) fun _ _ _ place => place) fun _ => ?_
    exact .bind (follows_enterSafeStopOrFault ⟨by simp, by simp⟩) fun _ => .ret fun _ place => place
  | failed =>
    exact .bind (follows_workerFault ⟨by simp, by simp⟩) fun _ =>
      .ret fun _ place => place

theorem follows_runHold (decision : Decision) :
    (runtimeFlow config).Follows .worker (runHold config decision) (At .worker false .idle .none)
      (fun _ => At .worker false .idle .none) fun _ => At .worker false .idle .none := by
  refine .when (fun _ => ?_) fun _ _ place => place
  refine .bind (follows_sendSafeHoldOnce ⟨by simp, by simp⟩) fun held => .ite (fun _ => ?_) fun _ => ?_
  · exact follows_update (fun _ => rfl) (fun _ _ => rfl) (fun _ _ => rfl) fun _ _ _ place => place
  · refine .bind (Q := fun fault => At .worker false (if fault then .stopping else .idle) .none) ?_
      fun fault => ?_
    · refine follows_act (fun _ => rfl) (fun _ _ => rfl) (fun _ _ => rfl) fun i s φ place => ?_
      cases fault : (s.holdFailed config).1 with
      | false => simpa [Local.step, fault] using place
      | true =>
        simp only [Local.step, fault, if_true]
        exact ⟨place.1, place.2.1, rfl, place.2.2.2⟩
    · cases fault with
      | false => exact .when (fun impossible => nomatch impossible) fun _ _ place => place
      | true =>
        exact .when (fun _ => follows_workerFault ⟨by simp, by simp⟩)
          fun impossible => nomatch impossible

theorem follows_runControl (decision : Decision) :
    (runtimeFlow config).Follows .worker (runControl config decision) (At .worker false .idle .none)
      (fun _ => At .worker false .idle .none) fun _ => At .worker false .idle .none := by
  refine .bind (follows_runArmControl decision) fun sent => .ite (fun _ => .ret fun _ place => place)
    fun _ => .bind (follows_runFeedbackCheck decision) fun healthy =>
      .ite (fun _ => .ret fun _ place => place) fun _ => ?_
  exact .bind (follows_runGripperControl decision) fun gripped =>
    .ite (fun _ => .ret fun _ place => place) fun _ => follows_runHold decision

theorem follows_workerIteration :
    (runtimeFlow config).Follows .worker (workerIteration config) (At .worker false .idle .none)
      (fun _ => At .worker false .idle .none) fun _ => At .worker false .idle .none := by
  refine .bind (Q := fun _ => At .worker false .idle .none) (follows_actWhen (fun _ => rfl) (fun _ _ => rfl)
    (fun φ place => ⟨rfl, place.2.2.1⟩) fun _ _ _ place => place) fun awake =>
    .when (fun _ => ?_) fun _ _ place => place
  refine .bind (Q := fun decision => At .worker false
    (if decision.graceFault ∨ decision.commandTimeout then .stopping else .idle) .none) ?_ fun decision => ?_
  · refine follows_act (fun _ => rfl) (fun _ _ => rfl) (fun φ place => ⟨rfl, place.2.2.1⟩) ?_
    intro i s φ place
    simp only [Local.step]
    split_ifs with expired
    · exact ⟨place.1, place.2.1, rfl, place.2.2.2⟩
    · exact place
  · refine .ite (fun expired => ?_) fun active => ?_
    · rw [if_pos expired]
      exact follows_enterSafeStopOrFault ⟨by simp, by simp⟩
    · rw [if_neg active]
      exact .ite (fun _ => follows_runReadyFeedback) fun _ => follows_runControl decision

end Worker

/-! ## All operations -/

theorem follows_lifecycleBody {config : RuntimeConfig} (call : LifecycleCall) :
    (runtimeFlow config).Follows .lifecycle (lifecycleBody config call) (At .lifecycle false .idle .none)
      (fun _ => Over) fun _ => Over := by
  have past : ∀ {p : Program Unit}, (runtimeFlow config).Follows .lifecycle p (At .lifecycle false .idle .none)
      (fun _ => At .lifecycle false .idle .none) (fun _ => At .lifecycle false .idle .none) →
      (runtimeFlow config).Follows .lifecycle p (At .lifecycle false .idle .none) (fun _ => Over) fun _ => Over :=
    fun follows => follows.conseq (fun _ place => place) (fun _ _ => over_of_idle) fun _ _ => over_of_idle
  have maintained : ∀ operation mode, (runtimeFlow config).Follows .lifecycle (do
      let _ ← runMotorMaintenance config operation mode) (At .lifecycle false .idle .none)
      (fun _ => Over) fun _ => Over :=
    fun operation mode => .bind (follows_runMotorMaintenance operation mode) fun _ =>
      .ret fun _ holds => over_of_ends holds.1
  cases call with
  | connect => exact past follows_connect
  | disable =>
    exact (follows_disable (.inl rfl)).conseq (fun _ place => place)
      (fun _ _ holds => over_of_idle holds.1.1) fun _ _ holds => over_of_idle holds.1
  | estop => exact past follows_estop
  | recover => exact past follows_recover
  | close => exact past follows_close
  | setZero => exact maintained .setZero none
  | clearFaults => exact follows_clearFaults
  | enable mode => exact past (follows_enable (.inl rfl) mode)
  | configureMode mode => exact maintained .configureMode (some mode)
  | motorPowerState role => exact past (follows_motorPowerState role)
  | setMotorPowerBatch selected enabled =>
    exact past (.bind (follows_setMotorPowerBatch selected enabled) fun _ => .ret fun _ place => place)
  | startGravityCompensation => exact past follows_startGravityCompensation
  | stopGravityCompensation => exact past follows_stopGravityCompensation
  | startBimanualFollow => exact past follows_startBimanualFollow
  | stopBimanualFollow => exact past follows_stopBimanualFollow

theorem rests_iff {t : Thread} (other : t ≠ .lifecycle) {φ : Local} :
    φ.Rests ↔ At t false .idle .none φ := by
  simp [Local.Rests, At, other]

/-- Every operation of the Runtime follows the flow. -/
theorem runtime_follows (config : RuntimeConfig) (op : Op) :
    (runtimeFlow config).Follows ((runtime config).thread op) ((runtime config).body op) Local.Rests
      (fun _ => Local.Rests) fun _ => Local.Rests := by
  cases op with
  | lifecycle call =>
    have returned : ∀ {E : String → Local → Prop}, (runtimeFlow config).Follows .lifecycle
        (update .returned fun _ s => { s with lifecycleLocked := false }) Over
        (fun _ => Local.Rests) E := by
      refine follows_update (fun _ => rfl) (fun _ _ => rfl) ?_ ?_
      · rintro φ ⟨stage, past, place⟩
        exact ⟨place.calls, place.2.2.1 ▸ past, place.2.2.2.1, place.2.1⟩
      · rintro _ _ φ ⟨stage, -, place⟩
        exact ⟨rfl, place.2.1, rfl, place.2.2.2.1, place.2.2.2.2⟩
    refine .bind (Q := fun _ => At .lifecycle false .idle .none) (follows_update (fun _ => rfl)
      (fun _ _ => rfl) ?_ ?_) fun _ => ?_
    · exact fun φ rests => ⟨rfl, rests.1, rests.2.1, rests.2.2.1, rests.2.2.2.1⟩
    · exact fun _ _ φ rests => ⟨rfl, rests.2.1, rests.2.2.1, rests.2.2.2.1, rests.2.2.2.2⟩
    · refine .bind ((follows_lifecycleBody call).tryCatch fun error => ?_) fun _ => returned
      exact .bind returned fun _ => .throw fun _ rests => rests
  | worker =>
    have other : Thread.worker ≠ .lifecycle := fun same => nomatch same
    exact follows_workerIteration.conseq (fun _ => (rests_iff other).mp) (fun _ _ => (rests_iff other).mpr)
      fun _ _ => (rests_iff other).mpr
  | client n valid call =>
    have other : Thread.client n ≠ .lifecycle := fun same => nomatch same
    refine .ite (fun _ => ?_) fun _ => .throw fun _ rests => rests
    exact (follows_clientBody other call).conseq (fun _ => (rests_iff other).mp)
      (fun _ _ => (rests_iff other).mpr) fun _ _ => (rests_iff other).mpr

end MotorDrive.Runtime
