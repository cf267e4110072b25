import MotorDrive.Runtime.Follows

/-!
# The lifecycle calls follow the flow

One rule for each function behind the calls that hold `lifecycle_mutex_`, in the order of `Power.lean`,
`Commands.lean` and `Lifecycle.lean`.  Each says where the thread is between the sections of the function
and what its feedback has shown by the end.
-/

namespace MotorDrive.Runtime

open Threads SafetyRuntime

/-! ## Disabling -/

section Disable

variable {config : RuntimeConfig} {t : Thread} {A : Local → Prop} {E : String → Local → Prop}

theorem follows_ask : (runtimeFlow config).Follows t ask A (fun _ => A) E :=
  follows_look fun _ _ _ holds => holds

section Steady

variable (steady : Steady A)

include steady

theorem follows_feedback :
    (runtimeFlow config).Follows t (requestFeedbackParallel config) A (fun _ => A) E :=
  (follows_requestFeedbackParallel steady).conseq (fun _ holds => holds) (fun _ _ holds => holds.1)
    fun _ _ holds => holds

theorem follows_establishDisableBarrier :
    (runtimeFlow config).Follows t (establishDisableBarrier config) A (fun _ => A) E := by
  refine .bind (follows_reading (fun _ => rfl) (fun _ _ => rfl) (fun _ _ _ => rfl) fun _ _ => trivial)
    fun dispatched => .ite (fun _ => .ret fun _ holds => holds) fun _ => ?_
  refine .bind (follows_feedback steady) fun answer => .ite (fun _ => .ret fun _ holds => holds) fun _ => ?_
  exact .bind (follows_feedback steady) fun _ => .ret fun _ holds => holds

theorem follows_confirmTurn :
    (runtimeFlow config).Follows t (confirmTurn config) A
      (fun result φ => A φ ∧ (result = [] → φ.evidence.claims = true)) E := by
  refine .bind (follows_feedback steady) fun ⟨complete, missing⟩ => ?_
  refine follows_act (fun _ => rfl) (fun _ _ => rfl) (fun _ _ => trivial) fun i s φ holds => ?_
  refine ⟨steady φ _ holds, fun confirmed => ?_⟩
  have none : ¬ config.motors.any (unconfirmed config i complete missing) = true := by
    simpa [collectUnconfirmed] using confirmed
  simp only [Local.step, Evidence.confirm, if_neg none]
  split_ifs <;> rfl

theorem follows_confirmUntilDeadline (turns : ℕ) :
    (runtimeFlow config).Follows t (confirmUntilDeadline config turns) A
      (fun result φ => A φ ∧ (result = [] → φ.evidence.claims = true)) E := by
  induction turns with
  | zero => exact follows_confirmTurn steady
  | succ turns ih =>
    refine .bind (follows_confirmTurn steady) fun result => .ite (fun yes => ?_) fun _ => ?_
    · exact .ret fun _ holds => ⟨holds.1, fun _ => holds.2 yes⟩
    · exact ih.conseq (fun _ holds => holds.1) (fun _ _ holds => holds) fun _ _ holds => holds

omit steady in
theorem follows_disableMotors (calls : ∀ φ, A φ → φ.calls t) (motors : List Handle) :
    (runtimeFlow config).Follows t (disableMotors motors) A (fun _ => A) E :=
  follows_reading (fun _ => rfl) (fun _ _ => rfl) (fun _ _ _ => rfl) calls

theorem follows_confirmOrRetry (calls : ∀ φ, A φ → φ.calls t) :
    (runtimeFlow config).Follows t (confirmOrRetry config) A
      (fun confirmed φ => A φ ∧ (confirmed = true → φ.evidence.claims = true)) E := by
  refine .bind follows_glance fun turns => ?_
  refine .bind (follows_confirmUntilDeadline steady turns) fun retry => .ite (fun yes => ?_) fun _ => ?_
  · exact .ret fun _ holds => ⟨holds.1, fun _ => holds.2 yes⟩
  · refine .bind ((follows_disableMotors calls retry).conseq (fun _ holds => holds.1)
      (fun _ _ holds => holds) fun _ _ holds => holds) fun _ => ?_
    refine .bind follows_glance fun turns => ?_
    refine .bind (follows_confirmUntilDeadline steady turns) fun final => .ret fun _ holds => ?_
    exact ⟨holds.1, fun yes => holds.2 (by simpa using yes)⟩

end Steady

/-- `disable_hardware`: a confirmation has evidence, and the mutex was held. -/
theorem follows_disableHardware {stage : Stage} {recovery : Recovery}
    (still : stage ≠ .starting ∧ stage ≠ .releasing) :
    (runtimeFlow config).Follows .lifecycle (disableHardware config .lifecycle)
      (At .lifecycle false stage recovery)
      (fun confirmed φ => (At .lifecycle false stage recovery φ ∧ φ.drained = true) ∧
        (confirmed = true → φ.evidence.claims = true)) E := by
  have steady : Steady fun φ => At .lifecycle true stage recovery φ ∧ φ.drained = true :=
    fun _ _ holds => holds
  have calls : ∀ φ, At .lifecycle true stage recovery φ ∧ φ.drained = true → φ.calls .lifecycle :=
    fun _ holds => holds.1.calls
  refine follows_withCommand_at (fun confirmed evidence => confirmed = true → evidence.claims = true)
    still ?_
  refine .bind (follows_establishDisableBarrier steady) fun barrier => ?_
  refine .bind (follows_disableMotors calls _) fun _ => ?_
  refine .bind (follows_confirmOrRetry steady calls) fun confirmed =>
    .ret fun φ holds => ⟨holds.1, fun yes => ?_⟩
  exact holds.2 (Bool.and_eq_true_iff.mp yes).2

/-- `disable`. -/
theorem follows_disable {recovery : Recovery} (may : recovery = .none ∨ recovery = .homing) :
    (runtimeFlow config).Follows .lifecycle (disable config) (At .lifecycle false .idle recovery)
      (fun _ φ => (At .lifecycle false .idle recovery φ ∧ φ.settled = true) ∧ φ.evidence.claims = true)
      fun _ φ => At .lifecycle false .idle recovery φ ∧ φ.settled = true := by
  refine .bind (Q := fun preserveFault => At .lifecycle false (.disabling preserveFault) recovery) ?_
    fun preserveFault => ?_
  · refine follows_actThrow (fun _ => rfl) (fun _ _ => rfl) ?_ ?_ ?_
    · exact fun φ holds => ⟨holds.calls, holds.2.2.1, holds.2.2.2.1 ▸ may⟩
    · intro i s φ preserveFault holds ok
      simp only [Local.step, ok]
      exact ⟨holds.1, holds.2.1, rfl, holds.2.2.2⟩
    · intro i s φ error holds thrown
      simp only [Local.step, thrown]
      exact ⟨holds, trivial⟩
  · refine .bind (follows_disableHardware ⟨by simp, by simp⟩) fun confirmed => ?_
    refine .bind (Q := fun _ φ => (At .lifecycle false .idle recovery φ ∧ φ.settled = true) ∧
      (confirmed = true → φ.evidence.claims = true)) ?_ fun _ => .ite (fun yes => ?_) fun _ => ?_
    · refine follows_update (fun _ => rfl) (fun _ _ => rfl) ?_ ?_
      · exact fun φ holds => ⟨holds.1.1.calls, holds.1.1.2.2.1, holds.1.2, holds.1.1.2.1, holds.2⟩
      · exact fun _ _ φ holds => ⟨⟨⟨holds.1.1.1, holds.1.1.2.1, rfl, holds.1.1.2.2.2⟩, rfl⟩, holds.2⟩
    · exact .ret fun _ holds => ⟨holds.1, holds.2 yes⟩
    · exact .throw fun _ holds => holds.1

end Disable

/-! ## Enabling -/

section Enable

variable {config : RuntimeConfig} {E : String → Local → Prop} {recovery : Recovery}

/-- In the middle of `enable`, outside `command_mutex_`. -/
def Enabling (recovery : Recovery) (φ : Local) : Prop :=
  ∃ stage, At .lifecycle false stage recovery φ ∧
    ((∃ sent, stage = .confirming sent) ∨ ∃ since seeded, stage = .enabling since seeded)

theorem enabling_confirming {sent : Bool} {φ : Local}
    (place : At .lifecycle false (.confirming sent) recovery φ) : Enabling recovery φ :=
  ⟨_, place, .inl ⟨sent, rfl⟩⟩

theorem enabling_enabling {since : ℕ} {seeded : Bool} {φ : Local}
    (place : At .lifecycle false (.enabling since seeded) recovery φ) : Enabling recovery φ :=
  ⟨_, place, .inr ⟨since, seeded, rfl⟩⟩

theorem follows_enableMotors {A : Local → Prop} (steady : Steady A)
    (may : ∀ φ, A φ → φ.fits .lifecycle (.enableMotors [])) (motors : List Handle) :
    (runtimeFlow config).Follows .lifecycle (enableMotors motors) A
      (fun _ φ => A φ) E :=
  .ite (fun _ => .ret fun _ holds => holds) fun _ =>
    follows_act (fun _ => rfl) (fun _ _ => rfl) may fun _ _ φ holds => steady φ _ holds

theorem follows_initializeArmMailboxFromFeedback (mode : ControlMode) (requireEnabled : Bool)
    (since : ℕ) :
    (runtimeFlow config).Follows .lifecycle
      (withCommand .lifecycle (initializeArmMailboxFromFeedback config mode requireEnabled))
      (At .lifecycle false (.enabling since false) recovery)
      (fun _ => At .lifecycle false (.enabling since true) recovery)
      fun _ => At .lifecycle false (.enabling since false) recovery := by
  refine follows_withCommand (fun φ place => place.lock) (follows_actThrow (fun _ => rfl) (fun _ _ => rfl)
    ?_ ?_ ?_)
  · exact fun φ place => ⟨since, place.calls, place.2.1, place.2.2.1⟩
  · intro i s φ _ place ok
    simp only [Local.step, ok, place.2.2.1]
    have place' : At .lifecycle true (.enabling since true) recovery
        { φ with stage := .enabling since true } := ⟨place.1, place.2.1, rfl, place.2.2.2⟩
    exact ⟨place.2.1, place'.unlock ⟨by simp, by simp⟩⟩
  · intro i s φ error place thrown
    simp only [Local.step, thrown]
    exact ⟨place.2.1, place.unlock ⟨by simp, by simp⟩⟩

theorem follows_initializeEnabledState (mode : ControlMode) (since : ℕ) :
    (runtimeFlow config).Follows .lifecycle (initializeEnabledState mode since)
      (At .lifecycle false (.enabling since true) recovery)
      (fun _ => At .lifecycle false (.confirming false) recovery) E :=
  follows_update (fun _ => rfl) (fun _ _ => rfl) (fun _ place => ⟨place.calls, place.2.2.1⟩)
    fun _ _ _ place => ⟨place.1, place.2.1, rfl, place.2.2.2⟩

theorem follows_seedGripperTargetsFromFeedback (activate : Bool) :
    (runtimeFlow config).Follows .lifecycle (seedGripperTargetsFromFeedback config activate)
      (At .lifecycle false (.confirming false) recovery) (fun _ => At .lifecycle false (.confirming false) recovery) E :=
  follows_withCommand (fun _ place => place.lock) (follows_update (fun _ => rfl) (fun _ _ => rfl)
    (fun _ place => ⟨place.calls, place.2.1, place.2.2.1⟩)
    fun _ _ _ place => ⟨place.2.1, place.unlock ⟨by simp, by simp⟩⟩)

theorem follows_sendInitialHold (mode : ControlMode) :
    (runtimeFlow config).Follows .lifecycle (sendInitialHold mode)
      (At .lifecycle false (.confirming false) recovery) (fun _ => At .lifecycle false (.confirming false) recovery)
      fun _ => At .lifecycle false (.confirming false) recovery := by
  have steady := steady_at .lifecycle true (.confirming false) recovery
  have fits : ∀ commands φ, At .lifecycle true (.confirming false) recovery φ →
      φ.command = true ∧ φ.sends .lifecycle .initialHold 0 [] commands :=
    fun _ φ place => ⟨place.2.1, place.calls, place.2.2.1⟩
  have ends : ∀ φ, At .lifecycle true (.confirming false) recovery φ →
      φ.command = true ∧ At .lifecycle false (.confirming false) recovery φ.unlock :=
    fun φ place => ⟨place.2.1, place.unlock ⟨by simp, by simp⟩⟩
  refine follows_withCommand (fun _ place => place.lock) ?_
  refine .bind follows_glance fun commands => ?_
  refine .bind (follows_send steady (fits commands)) fun sent => .ite (fun _ => .throw ends) fun _ => ?_
  refine .bind (Q := fun _ => At .lifecycle true (.confirming false) recovery) (follows_update (fun _ => rfl)
    (fun _ _ => rfl) (fun _ place => ⟨place.calls, place.2.1, place.2.2.1⟩) fun _ _ _ place => place)
    fun _ => ?_
  refine .bind follows_glance fun grippers => ?_
  exact .bind (follows_sendNonempty steady (fits grippers)) fun sent =>
    .ite (fun _ => .ret ends) fun _ => .throw ends

theorem follows_confirmEnabledFeedback (turns : ℕ) (retried : List Handle) :
    (runtimeFlow config).Follows .lifecycle (confirmEnabledFeedback config turns retried)
      (At .lifecycle false (.confirming true) recovery)
      (fun _ => At .lifecycle false (.confirming true) recovery) E := by
  have steady := steady_at .lifecycle false (.confirming true) recovery
  induction turns generalizing retried with
  | zero => exact .ret fun _ place => place
  | succ turns ih =>
    refine .bind (follows_feedback steady) fun answer => ?_
    refine .bind (follows_reading (fun _ => rfl) (fun _ _ => rfl) (fun _ _ _ => rfl) fun _ _ => trivial)
      fun reading => ?_
    refine .ite (fun _ => .ret fun _ place => place) fun _ =>
      .ite (fun _ => .ret fun _ place => place) fun _ => ?_
    refine .bind (follows_enableMotors steady
      (fun φ place => ⟨place.calls, .inr (.inl place.2.2.1)⟩) _) fun accepted => ?_
    exact .ite (fun _ => ih _) fun _ => .ret fun _ place => place

theorem follows_enableAbandoned {stage : Stage}
    (may : stage = .confirming false ∨ ∃ since, stage = .enabling since false) :
    (runtimeFlow config).Follows .lifecycle (update .enableAbandoned fun _ s =>
      s.setFlags { s.flags with hardwareTransition := false, enableTransaction := false })
      (At .lifecycle false stage recovery) (fun _ => At .lifecycle false .idle recovery) E :=
  follows_update (fun _ => rfl) (fun _ _ => rfl)
    (fun φ place => ⟨place.calls, by simpa only [place.2.2.1] using may⟩)
    fun _ _ _ place => ⟨place.1, place.2.1, rfl, place.2.2.2⟩

theorem follows_enableWithoutCallback (mode : ControlMode) (since : ℕ) :
    (runtimeFlow config).Follows .lifecycle (enableWithoutCallback config mode since)
      (At .lifecycle false (.enabling since false) recovery)
      (fun _ => At .lifecycle false .idle recovery) fun _ => At .lifecycle false .idle recovery := by
  refine .tryCatch (E := fun _ => At .lifecycle false (.enabling since false) recovery) ?_ fun error => ?_
  · refine .bind (follows_initializeArmMailboxFromFeedback mode true since) fun _ => ?_
    refine .bind (follows_initializeEnabledState mode since) fun _ => ?_
    refine .bind (follows_seedGripperTargetsFromFeedback false) fun _ => ?_
    exact follows_enableAbandoned (.inl rfl)
  · exact .bind (follows_enableAbandoned (.inr ⟨since, rfl⟩)) fun _ => .throw fun _ place => place

theorem follows_enableSteps (mode : ControlMode) (since : ℕ) :
    (runtimeFlow config).Follows .lifecycle (enableSteps config mode since)
      (At .lifecycle false (.enabling since false) recovery)
      (fun _ => At .lifecycle false .idle recovery) fun _ => Enabling recovery := by
  refine .bind (follows_feedback (steady_at _ _ _ _)) fun answer =>
    .ite (fun _ => .throw fun _ => enabling_enabling) fun _ => ?_
  refine .bind ((follows_initializeArmMailboxFromFeedback mode false since).conseq (fun _ place => place)
    (fun _ _ place => place) fun _ _ => enabling_enabling) fun _ => ?_
  refine .bind (follows_enableMotors (steady_at _ _ _ _)
    (fun φ place => ⟨place.calls, .inl ⟨since, place.2.2.1⟩⟩) _) fun enabled =>
    .ite (fun _ => .throw fun _ => enabling_enabling) fun _ => ?_
  refine .bind (follows_initializeEnabledState mode since) fun _ => ?_
  refine .bind (follows_seedGripperTargetsFromFeedback true) fun _ => ?_
  refine .bind ((follows_sendInitialHold mode).conseq (fun _ place => place) (fun _ _ place => place)
    fun _ _ => enabling_confirming) fun _ => ?_
  refine .bind (Q := fun _ => At .lifecycle false (.confirming true) recovery) (follows_update (fun _ => rfl)
    (fun _ _ => rfl) (fun φ place => ⟨place.calls, place.2.2.1⟩)
    fun _ _ _ place => ⟨place.1, place.2.1, rfl, place.2.2.2⟩) fun _ => ?_
  refine .bind follows_glance fun turns => ?_
  refine .bind (follows_confirmEnabledFeedback turns []) fun confirmed =>
    .ite (fun _ => .throw fun _ => enabling_confirming) fun _ => ?_
  exact follows_update (fun _ => rfl) (fun _ _ => rfl) (fun φ place => ⟨place.calls, place.2.2.1⟩)
    fun _ _ _ place => ⟨place.1, place.2.1, rfl, place.2.2.2⟩

theorem follows_enableFailure (error : String) :
    (runtimeFlow config).Follows .lifecycle (enableFailure config error) (Enabling recovery)
      (fun _ => At .lifecycle false .idle recovery) fun _ => At .lifecycle false .idle recovery := by
  refine .bind (Q := fun _ => At .lifecycle false .rollingBack recovery) ?_ fun _ => ?_
  · refine follows_withCommand (B := fun φ => ∃ stage, At .lifecycle true stage recovery φ ∧
      ((∃ sent, stage = .confirming sent) ∨ ∃ since seeded, stage = .enabling since seeded)) ?_ ?_
    · exact fun φ ⟨stage, place, may⟩ => ⟨place.2.1, stage, place.lock.2, may⟩
    · refine follows_update (fun _ => rfl) (fun _ _ => rfl) ?_ ?_
      · exact fun φ ⟨stage, place, may⟩ => ⟨place.calls, place.2.1, by simpa only [place.2.2.1] using may⟩
      · rintro _ _ φ ⟨stage, place, -⟩
        have place' : At .lifecycle true .rollingBack recovery { φ with stage := .rollingBack } :=
          ⟨place.1, place.2.1, rfl, place.2.2.2⟩
        exact ⟨place.2.1, place'.unlock ⟨by simp, by simp⟩⟩
  · refine .bind (follows_disableHardware ⟨by simp, by simp⟩) fun disabled => ?_
    refine .bind (Q := fun _ => At .lifecycle false .idle recovery) ?_ fun _ => .throw fun _ place => place
    refine follows_update (fun _ => rfl) (fun _ _ => rfl) ?_ ?_
    · exact fun φ holds => ⟨holds.1.1.calls, holds.1.1.2.2.1, holds.2⟩
    · exact fun _ _ φ holds => ⟨holds.1.1.1, holds.1.1.2.1, rfl, holds.1.1.2.2.2⟩

theorem follows_enable (may : recovery = .none ∨ recovery = .homing) (mode : ControlMode) :
    (runtimeFlow config).Follows .lifecycle (enable config mode) (At .lifecycle false .idle recovery)
      (fun _ => At .lifecycle false .idle recovery) fun _ => At .lifecycle false .idle recovery := by
  refine .bind (Q := fun since => At .lifecycle false (.enabling since false) recovery) ?_ fun since => ?_
  · refine follows_actThrow (fun _ => rfl) (fun _ _ => rfl) ?_ ?_ ?_
    · exact fun φ place => ⟨place.calls, place.2.2.1, place.2.2.2.1 ▸ may⟩
    · intro i s φ since place ok
      simp only [Local.step, ok]
      exact ⟨place.1, place.2.1, rfl, place.2.2.2⟩
    · intro i s φ error place thrown
      simpa only [Local.step, thrown] using place
  · refine .ite (fun _ => follows_enableWithoutCallback mode since) fun _ => ?_
    exact (follows_enableSteps mode since).tryCatch fun error => follows_enableFailure error

end Enable

/-! ## Emergency stop and motor power -/

section Power

variable {config : RuntimeConfig} {E : String → Local → Prop}

theorem follows_estop :
    (runtimeFlow config).Follows .lifecycle (estop config) (At .lifecycle false .idle .none)
      (fun _ => At .lifecycle false .idle .none) fun _ => At .lifecycle false .idle .none := by
  have still : Stage.idle ≠ .starting ∧ Stage.idle ≠ .releasing := ⟨by simp, by simp⟩
  refine .bind (Q := fun next => At .lifecycle false (if next.isSome then .estopping else .idle) .none) ?_
    fun next => ?_
  · refine follows_act (fun _ => rfl) (fun _ _ => rfl) (fun φ place => ⟨place.calls, place.2.2.1,
      place.2.2.2.1⟩) fun i s φ place => ?_
    cases next : s.latchEstop.1 with
    | none => simpa [Local.step, next] using place
    | some what =>
      simp only [Local.step, next, Option.isSome_some, if_true]
      exact ⟨place.1, place.2.1, rfl, place.2.2.2⟩
  · cases next with
    | none => exact .ret fun _ place => place
    | some what =>
      obtain ⟨requiresHold, wasDisableConfirmed⟩ := what
      refine .bind (follows_enterFault ⟨by simp, by simp⟩ (fun _ => ⟨rfl, rfl⟩) requiresHold) fun _ => ?_
      refine .ite (fun _ => ?_) fun _ => ?_
      · refine .bind (Q := fun _ => At .lifecycle false .idle .none) ?_ fun available =>
          .ite (fun _ => .throw fun _ place => place) fun _ => ?_
        · refine follows_withCommand (fun _ place => place.lock) (follows_act (fun _ => rfl)
            (fun _ _ => rfl) ?_ ?_)
          · exact fun φ place => ⟨⟨place.calls, place.2.1, place.2.2.1⟩, place.2.2.2.1⟩
          · exact fun _ _ φ place => ⟨place.2.1, place.unlock still⟩
        · exact .bind (follows_sendSafeHoldOnce still) fun held =>
            .ite (fun _ => .ret fun _ place => place) fun _ => .throw fun _ place => place
      · exact follows_update (fun _ => rfl) (fun _ _ => rfl)
          (fun φ place => ⟨place.calls, place.2.2.1, place.2.2.2.1⟩) fun _ _ _ place => place

theorem follows_motorPowerState (role : Option Handle) :
    (runtimeFlow config).Follows .lifecycle (motorPowerState config role)
      (At .lifecycle false .idle .none) (fun _ => At .lifecycle false .idle .none)
      fun _ => At .lifecycle false .idle .none := by
  refine .ite (fun _ => ?_) fun _ => .throw fun _ place => place
  refine .bind (Q := fun refresh => At .lifecycle false (if refresh then .powering else .idle) .none) ?_
    fun refresh => ?_
  · refine follows_actThrow (fun _ => rfl) (fun _ _ => rfl) (fun φ place => ⟨place.calls, place.2.2.1,
      place.2.2.2.1⟩) ?_ ?_
    · intro i s φ refresh place ok
      cases refresh with
      | false => simpa [Local.step, ok] using place
      | true =>
        simp only [Local.step, ok, if_true]
        exact ⟨place.1, place.2.1, rfl, place.2.2.2⟩
    · intro i s φ error place thrown
      simpa only [Local.step, thrown] using place
  · refine .when (fun yes => ?_) fun no φ place => by simpa [no] using place
    subst yes
    refine .bind (follows_withCommand_at (fun complete evidence => complete = true →
      evidence = .validated ∨ evidence = .proved) ⟨by simp, by simp⟩
      (follows_requestAndValidate fun _ _ holds => holds)) fun complete => ?_
    refine .ite (fun yes => ?_) fun _ => ?_
    · have steady : Steady fun φ => At .lifecycle false .powering .none φ ∧ φ.drained = true :=
        fun _ _ holds => holds
      refine .bind ((follows_readMotorPower steady true).conseq
        (fun φ holds => ⟨holds.1, fun _ => holds.2 yes⟩) (fun _ _ holds => holds) fun _ _ holds => holds)
        fun all => ?_
      refine follows_update (fun _ => rfl) (fun _ _ => rfl) ?_ ?_
      · exact fun φ holds => ⟨holds.1.1.calls, holds.1.1.2.2.1, holds.1.2, holds.1.1.2.1,
          fun disabled => holds.2 rfl (by simpa using disabled)⟩
      · exact fun _ _ φ holds => ⟨holds.1.1.1, holds.1.1.2.1, rfl, holds.1.1.2.2.2⟩
    · refine .bind (Q := fun _ => At .lifecycle false .idle .none) ?_ fun _ => .throw fun _ place => place
      exact follows_update (fun _ => rfl) (fun _ _ => rfl)
        (fun φ holds => ⟨holds.1.1.calls, holds.1.1.2.2.1⟩)
        fun _ _ φ holds => ⟨holds.1.1.1, holds.1.1.2.1, rfl, holds.1.1.2.2.2⟩

end Power

/-! ## Power batches -/

section Batch

variable {config : RuntimeConfig} {E : String → Local → Prop} {A : Local → Prop}

section Steady

variable (steady : Steady A)

include steady

theorem follows_batchPreflight (selected : List Handle) (enabled : Bool) :
    (runtimeFlow config).Follows .lifecycle (batchPreflight config selected enabled) A
      (fun outcome φ => A φ ∧ (outcome.refreshed = true → Fresh φ)) E := by
  refine .bind (follows_batchRefresh steady) fun refreshed => .ite (fun _ => ?_) fun yes => ?_
  · exact .ret fun _ holds => ⟨holds.1, fun impossible => nomatch impossible⟩
  · exact follows_act (fun _ => rfl) (fun _ _ => rfl) (fun _ _ => trivial) fun _ _ _ holds =>
      ⟨holds.1, fun _ => holds.2 (by simpa using yes)⟩

omit steady in
theorem follows_selectedConfirmed (selected : List Handle) (expectedEnabled : Bool) :
    (runtimeFlow config).Follows .lifecycle (selectedConfirmed config selected expectedEnabled) A
      (fun _ => A) E :=
  follows_reading (fun _ => rfl) (fun _ _ => rfl) (fun _ _ _ => rfl) fun _ _ => trivial

theorem follows_batchRollback (calls : ∀ φ, A φ → φ.calls .lifecycle) (outcome : BatchOutcome) :
    (runtimeFlow config).Follows .lifecycle (batchRollback config outcome) A
      (fun outcome φ => A φ ∧ (outcome.refreshed = true → Fresh φ)) E := by
  refine .bind (follows_disableMotors calls _) fun _ => ?_
  refine .bind (follows_batchRefresh steady) fun refreshed => ?_
  exact .bind (follows_selectedConfirmed _ _) fun confirmed => .ret fun _ holds => holds

theorem follows_batchDisableAgain (calls : ∀ φ, A φ → φ.calls .lifecycle) (selected : List Handle) :
    (runtimeFlow config).Follows .lifecycle (batchDisableAgain config selected) A
      (fun answer φ => A φ ∧ (answer.1 = true → Fresh φ)) E := by
  refine .bind follows_glance fun again => .bind (follows_disableMotors calls _) fun _ => ?_
  refine .bind (follows_batchRefresh steady) fun refreshed => .ite (fun _ => ?_) fun yes => ?_
  · exact .ret fun _ holds => ⟨holds.1, fun impossible => nomatch impossible⟩
  · refine .bind (follows_selectedConfirmed _ _) fun confirmed => .ret fun _ holds => ?_
    exact ⟨holds.1, fun _ => holds.2 (by simpa using yes)⟩

theorem follows_batchDisable (calls : ∀ φ, A φ → φ.calls .lifecycle) (selected : List Handle)
    (preflight : BatchOutcome) :
    (runtimeFlow config).Follows .lifecycle (batchDisable config selected preflight) A
      (fun outcome φ => A φ ∧ (outcome.refreshed = true → Fresh φ)) E := by
  refine .bind (follows_establishDisableBarrier steady) fun barrier => ?_
  refine .bind (follows_disableMotors calls _) fun sent => ?_
  refine .bind (Q := fun answer φ => A φ ∧ (answer.1 = true → Fresh φ)) ?_ fun answer =>
    .ret fun _ holds => holds
  have again : (runtimeFlow config).Follows .lifecycle (batchDisableAgain config selected) A
    (fun answer φ => A φ ∧ (answer.1 = true → Fresh φ)) E :=
    follows_batchDisableAgain steady calls selected
  refine .bind (follows_batchRefresh steady) fun refreshed => .ite (fun _ => ?_) fun yes => ?_
  · exact again.conseq (fun _ holds => holds.1) (fun _ _ holds => holds) fun _ _ holds => holds
  · refine .bind (follows_selectedConfirmed _ _) fun confirmed => .ite (fun _ => ?_) fun _ => ?_
    · exact .ret fun _ holds => ⟨holds.1, fun _ => holds.2 (by simpa using yes)⟩
    · exact again.conseq (fun _ holds => holds.1) (fun _ _ holds => holds) fun _ _ holds => holds

theorem follows_enableEach (may : ∀ φ, A φ → φ.fits .lifecycle (.enableMotors []))
    (motors : List Handle) (sure : Bool) :
    (runtimeFlow config).Follows .lifecycle (enableEach motors)
      (fun φ => A φ ∧ (sure = true → Fresh φ))
      (fun answer φ => A φ ∧ (sure = true → answer.1 = [] → Fresh φ)) E := by
  cases motors with
  | nil => exact .ret fun _ holds => ⟨holds.1, fun yes _ => holds.2 yes⟩
  | cons motor rest =>
    have each : ∀ motors, (runtimeFlow config).Follows .lifecycle (enableEach motors) A (fun _ => A) E := by
      intro motors
      induction motors with
      | nil => exact .ret fun _ holds => holds
      | cons motor rest ih =>
        refine .bind (follows_enableMotors steady may _) fun accepted => .ite (fun _ => ?_) fun _ => ?_
        · exact ih.bind fun _ => .ret fun _ holds => holds
        · exact .ret fun _ holds => holds
    refine .bind ((follows_enableMotors steady may _).conseq (fun _ holds => holds.1)
      (fun _ _ holds => holds) fun _ _ holds => holds) fun accepted => .ite (fun _ => ?_) fun _ => ?_
    · exact (each rest).bind fun _ => .ret fun _ holds => ⟨holds, fun _ absurd => nomatch absurd⟩
    · exact .ret fun _ holds => ⟨holds, fun _ absurd => nomatch absurd⟩

theorem follows_batchEnableConfirm (selected : List Handle) (outcome : BatchOutcome)
    (may : ∀ commands φ, A φ → φ.command = true ∧ φ.sends .lifecycle .powerHold 0 [] commands) :
    (runtimeFlow config).Follows .lifecycle (batchEnableConfirm config selected outcome) A
      (fun outcome φ => A φ ∧ (outcome.refreshed = true → Fresh φ)) E := by
  refine .bind (Q := fun _ => A) ?_ fun held => .ite (fun _ => ?_) fun _ => ?_
  · refine .bind follows_glance fun holds => ?_
    refine .bind (follows_sendNonempty steady (may _)) fun sent => .ite (fun _ => ?_) fun _ => ?_
    · exact follows_sendNonempty steady (may _)
    · exact .ret fun _ holds => holds
  · exact .ret fun _ holds => ⟨holds, fun impossible => nomatch impossible⟩
  · refine .bind (follows_batchRefresh steady) fun refreshed => .ite (fun _ => ?_) fun yes => ?_
    · exact .ret fun _ holds => ⟨holds.1, fun impossible => nomatch impossible⟩
    · refine .bind (follows_selectedConfirmed _ _) fun confirmed => .ret fun _ holds => ?_
      exact ⟨holds.1, fun _ => holds.2 (by simpa using yes)⟩

end Steady

/-- The transaction of a batch. -/
def Batching (selected : List Handle) (enabled : Bool) (started : SafetyState) (φ : Local) : Prop :=
  At .lifecycle true (.batching selected enabled started) .none φ ∧ φ.drained = true

theorem follows_batchEnable (selected motors : List Handle) (started : SafetyState)
    (preflight : BatchOutcome) :
    (runtimeFlow config).Follows .lifecycle (batchEnable config selected (started = .ready) preflight)
      (fun φ => Batching motors true started φ ∧ (preflight.refreshed = true → Fresh φ))
      (fun outcome φ => Batching motors true started φ ∧ (outcome.refreshed = true → Fresh φ)) E := by
  have steady : Steady (Batching motors true started) := fun _ _ holds => holds
  have may : ∀ φ, Batching motors true started φ → φ.fits .lifecycle (.enableMotors []) :=
    fun φ holds => ⟨holds.1.calls, .inr (.inr ⟨motors, started, holds.1.2.2.1⟩)⟩
  refine .bind (Q := fun _ φ => Batching motors true started φ ∧ (preflight.refreshed = true → Fresh φ))
    (.when (fun yes => ?_) fun _ _ holds => holds) fun _ => ?_
  · have ready : started = .ready := by simpa using yes
    refine follows_update (fun _ => rfl) (fun _ _ => rfl) ?_ fun _ _ _ holds => holds
    exact fun φ holds => ⟨motors, holds.1.1.calls, holds.1.1.2.1, ready ▸ holds.1.1.2.2.1⟩
  · refine .bind (follows_enableEach steady may _ preflight.refreshed) fun ⟨tried, accepted⟩ =>
      .ite (fun _ => ?_) fun _ => ?_
    · refine (follows_batchEnableConfirm steady selected _ ?_).conseq (fun _ holds => holds.1)
        (fun _ _ holds => holds) fun _ _ holds => holds
      exact fun _ φ holds => ⟨holds.1.2.1, holds.1.calls, motors, started, holds.1.2.2.1⟩
    · refine .ret fun φ holds => ⟨holds.1, fun yes => ?_⟩
      simp only [Bool.and_eq_true, decide_eq_true_eq] at yes
      exact holds.2 yes.1 yes.2

theorem follows_batchTransaction (selected : List Handle) (enabled : Bool) (started : SafetyState) :
    (runtimeFlow config).Follows .lifecycle
      (batchTransaction config selected enabled (started = .ready)) (Batching selected enabled started)
      (fun outcome φ => Batching selected enabled started φ ∧ (outcome.refreshed = true → Fresh φ)) E := by
  have steady : Steady (Batching selected enabled started) := fun _ _ holds => holds
  have calls : ∀ φ, Batching selected enabled started φ → φ.calls .lifecycle := fun _ holds => holds.1.calls
  refine .bind (follows_batchPreflight steady selected enabled) fun preflight =>
    .ite (fun _ => .ret fun _ holds => holds) fun _ => .ite (fun yes => ?_) fun _ => ?_
  · subst yes
    refine .bind (follows_batchEnable selected selected started preflight) fun outcome => ?_
    refine .ite (fun _ => ?_) fun _ => .ret fun _ holds => holds
    exact (follows_batchRollback steady calls outcome).conseq (fun _ holds => holds.1) (fun _ _ holds => holds)
      fun _ _ holds => holds
  · exact (follows_batchDisable steady calls selected preflight).conseq (fun _ holds => holds.1)
      (fun _ _ holds => holds) fun _ _ holds => holds

theorem follows_motorPowerBatch (selected : List Handle) (enabled : Bool) :
    (runtimeFlow config).Follows .lifecycle (motorPowerBatch config selected enabled)
      (At .lifecycle false .idle .none) (fun _ => At .lifecycle false .idle .none)
      fun _ => At .lifecycle false .idle .none := by
  refine .bind (Q := fun started => At .lifecycle false (.batching selected enabled started) .none) ?_
    fun started => ?_
  · refine follows_actThrow (fun _ => rfl) (fun _ _ => rfl) (fun φ place => ⟨place.calls, place.2.2.1,
      place.2.2.2.1⟩) ?_ ?_
    · intro i s φ started place ok
      simp only [Local.step, ok]
      exact ⟨place.1, place.2.1, rfl, place.2.2.2⟩
    · intro i s φ error place thrown
      simpa only [Local.step, thrown] using place
  · refine .bind (follows_withCommand_at (fun outcome evidence => outcome.refreshed = true →
      evidence = .validated ∨ evidence = .proved) ⟨by simp, by simp⟩
      (follows_batchTransaction selected enabled started)) fun outcome => ?_
    have steady : Steady fun φ =>
        At .lifecycle false (.batching selected enabled started) .none φ ∧ φ.drained = true :=
      fun _ _ holds => holds
    refine .bind (follows_readMotorPower steady outcome.refreshed) fun all => ?_
    refine .bind (Q := fun _ => At .lifecycle false .idle .none) (follows_update (fun _ => rfl)
      (fun _ _ => rfl) ?_ ?_) fun _ => .ret fun _ place => place
    · exact fun φ holds => ⟨holds.1.1.calls, holds.1.1.2.2.1, holds.1.2, holds.1.1.2.1,
        fun refreshed disabled => holds.2 refreshed (by simpa using disabled)⟩
    · exact fun _ _ φ holds => ⟨holds.1.1.1, holds.1.1.2.1, rfl, holds.1.1.2.2.2⟩

theorem follows_setMotorPowerBatch (selected : List Handle) (enabled : Bool) :
    (runtimeFlow config).Follows .lifecycle (setMotorPowerBatch config selected enabled)
      (At .lifecycle false .idle .none) (fun _ => At .lifecycle false .idle .none)
      fun _ => At .lifecycle false .idle .none := by
  refine .ite (fun _ => .throw fun _ place => place) fun _ => .ite (fun _ => .throw fun _ place => place)
    fun _ => .ite (fun _ => .throw fun _ place => place) fun _ =>
    .ite (fun _ => .throw fun _ place => place) fun _ => follows_motorPowerBatch selected enabled

end Batch

/-! ## Motion commands -/

section Commands

variable {config : RuntimeConfig} {t : Thread} {E : String → Local → Prop} {stage : Stage}

/-- A section that leaves the local state as it is. -/
theorem follows_plain {α : Type} {site : Site} {A : Local → Prop}
    {f : Input → SafetyRuntime → Except String α × SafetyRuntime} (ready : ∀ s, site.ready s = true)
    (same : ∀ i s, (f i s).2 = effect config t site i s) (fits : ∀ φ, A φ → φ.fits t site)
    (plain : ∀ φ i s, Local.step config φ site i s = φ) :
    (runtimeFlow config).Follows t (actThrow site f) A (fun _ => A) fun _ => A :=
  follows_actThrow ready same fits (fun i s φ _ holds _ => (plain φ i s).symm ▸ holds)
    fun i s φ _ holds _ => (plain φ i s).symm ▸ holds

theorem At.ends {φ : Local} (place : At t true .idle .none φ) :
    φ.command = true ∧ At t false .idle .none φ.unlock :=
  ⟨place.2.1, place.unlock ⟨by simp, by simp⟩⟩

/-- A program under `command_mutex_` between transactions. -/
theorem follows_locked {α : Type} {p : Program α}
    (inner : (runtimeFlow config).Follows t p (At t true .idle .none) (fun _ => At t true .idle .none)
      fun _ => At t true .idle .none) :
    (runtimeFlow config).Follows t (withCommand t p) (At t false .idle .none)
      (fun _ => At t false .idle .none) fun _ => At t false .idle .none :=
  follows_withCommand (fun _ place => place.lock)
    (inner.conseq (fun _ place => place) (fun _ _ place => place.ends) fun _ _ place => place.ends)

theorem follows_installJointPosition {recovery : Recovery} {client : Bool}
    (who : client = (t ≠ .lifecycle)) (homes : t = .lifecycle → recovery = .homing)
    (mode : ControlMode) (planningToken : ℕ) :
    (runtimeFlow config).Follows t (installJointPosition config t mode planningToken client)
      (At t false .idle recovery) (fun _ => At t false .idle recovery)
      fun _ => At t false .idle recovery := by
  have ends : ∀ φ, At t true .idle recovery φ → φ.command = true ∧ At t false .idle recovery φ.unlock :=
    fun φ place => ⟨place.2.1, place.unlock ⟨by simp, by simp⟩⟩
  refine follows_withCommand (fun _ place => place.lock) ((follows_plain (fun _ => rfl) (fun _ _ => rfl) ?_
    fun _ _ _ => rfl).conseq (fun _ place => place) (fun _ => ends) fun _ => ends)
  intro φ place
  refine ⟨place.2.1, who, fun isLifecycle => ⟨by simp [place.1, isLifecycle], place.2.2.1, ?_⟩⟩
  exact place.2.2.2.1.trans (homes isLifecycle)

variable (other : t ≠ .lifecycle)

include other

theorem follows_submit (mode : ControlMode) (streaming : Bool) :
    (runtimeFlow config).Follows t (submit config mode streaming) (At t false stage .none)
      (fun _ => At t false stage .none) fun _ => At t false stage .none :=
  follows_plain (fun _ => rfl) (fun _ _ => rfl) (fun _ _ => other) fun _ _ _ => rfl

theorem follows_cancelCommandPlanning (token : ℕ) :
    (runtimeFlow config).Follows t (cancelCommandPlanning token) (At t false .idle .none)
      (fun _ => At t false .idle .none) E :=
  follows_update (fun _ => rfl) (fun _ _ => rfl) (fun _ _ => other) fun _ _ _ place => place

theorem follows_planned (allowTrajectory : Bool) {command : ℕ → Program Unit}
    (inner : ∀ token, (runtimeFlow config).Follows t (command token) (At t false .idle .none)
      (fun _ => At t false .idle .none) fun _ => At t false .idle .none) :
    (runtimeFlow config).Follows t (planned t allowTrajectory command) (At t false .idle .none)
      (fun _ => At t false .idle .none) fun _ => At t false .idle .none := by
  refine .bind (follows_locked (follows_plain (fun _ => rfl) (fun _ _ => rfl)
    (fun _ place => ⟨other, place.2.1⟩) fun _ _ _ => rfl)) fun token => ?_
  refine .bind ((inner token).tryCatch fun error => ?_) fun _ => follows_cancelCommandPlanning other token
  exact .bind (follows_cancelCommandPlanning other token) fun _ => .throw fun _ place => place

theorem follows_startTrajectory (mode : ControlMode) (enqueue : Bool) (replace planningToken : ℕ) :
    (runtimeFlow config).Follows t (startTrajectory config t mode enqueue replace planningToken)
      (At t false .idle .none) (fun _ => At t false .idle .none) fun _ => At t false .idle .none := by
  refine follows_locked ?_
  refine .bind (Q := fun _ => At t true .idle .none) (follows_lookThrow (fun _ _ _ _ place _ => place)
    fun _ _ _ _ place _ => place) fun disabled => ?_
  refine .bind follows_glance fun readable => .ite (fun _ => ?_) fun _ => .throw fun _ place => place
  exact follows_plain (fun _ => rfl) (fun _ _ => rfl) (fun _ place => ⟨other, place.2.1⟩) fun _ _ _ => rfl

theorem follows_setGripperCommands :
    (runtimeFlow config).Follows t (setGripperCommands config t) (At t false .idle .none)
      (fun _ => At t false .idle .none) fun _ => At t false .idle .none := by
  refine .bind (Q := fun _ => At t false .idle .none) (follows_lookThrow (fun _ _ _ _ place _ => place)
    fun _ _ _ _ place _ => place) fun _ => ?_
  exact follows_locked (follows_plain (fun _ => rfl) (fun _ _ => rfl) (fun _ place => ⟨other, place.2.1⟩)
    fun _ _ _ => rfl)

theorem follows_sendRawGripper (motors : List Handle) :
    (runtimeFlow config).Follows t (sendRawGripper motors) (At t true .idle .none)
      (fun _ => At t true .idle .none) fun _ => At t true .idle .none := by
  refine .bind (follows_plain (fun _ => rfl) (fun _ _ => rfl) (fun _ place => ⟨other, place.2.1⟩)
    fun _ _ _ => rfl) fun since => ?_
  refine .bind (follows_send (steady_at _ _ _ _) fun φ place => ⟨place.2.1, other, rfl⟩) fun sent => ?_
  refine .bind (Q := fun _ => At t true .idle .none) (.when (fun _ => ?_) fun _ _ place => place)
    fun _ => .ret fun _ place => place
  exact follows_update (fun _ => rfl) (fun _ _ => rfl) (fun _ place => ⟨other, place.2.1⟩)
    fun _ _ _ place => place

theorem follows_submitGripperMit (motors : List Handle) :
    (runtimeFlow config).Follows t (submitGripperMit config t motors) (At t false .idle .none)
      (fun _ => At t false .idle .none) fun _ => At t false .idle .none := by
  have still : Stage.idle ≠ .starting ∧ Stage.idle ≠ .releasing := ⟨by simp, by simp⟩
  refine .ite (fun _ => ?_) fun _ => .throw fun _ place => place
  refine .bind (Q := fun _ => At t false .idle .none) (follows_lookThrow (fun _ _ _ _ place _ => place)
    fun _ _ _ _ place _ => place) fun _ => ?_
  refine .bind (follows_locked (follows_sendRawGripper other motors)) fun sent =>
    .ite (fun _ => .ret fun _ place => place) fun _ => ?_
  refine .bind (Q := fun _ => At t false .idle .none) (follows_update (fun _ => rfl) (fun _ _ => rfl)
    (fun _ _ => other) fun _ _ _ place => place) fun _ => ?_
  refine .bind (follows_enterSafeHoldFromFeedback still other) fun held => ?_
  refine .bind (Q := fun _ => At t false .idle .none) (.when (fun _ => ?_) fun _ _ place => place)
    fun _ => .throw fun _ place => place
  exact follows_enterFault still (fun isLifecycle => absurd isLifecycle other) true

theorem follows_clearFaultsTimeout :
    (runtimeFlow config).Follows t (clearFaultsTimeout config) (At t false .idle .none)
      (fun _ => At t false .idle .none) E :=
  follows_actWhen (fun _ => rfl) (fun _ _ => rfl) (fun _ _ => other) fun _ _ _ place => place

theorem follows_clientBody (call : ClientCall) :
    (runtimeFlow config).Follows t (clientBody config t call) (At t false .idle .none)
      (fun _ => At t false .idle .none) fun _ => At t false .idle .none := by
  have install : ∀ mode token, (runtimeFlow config).Follows t
      (installJointPosition config t mode token true) (At t false .idle .none)
      (fun _ => At t false .idle .none) fun _ => At t false .idle .none :=
    fun mode token => follows_installJointPosition (by simp [other])
      (fun isLifecycle => absurd isLifecycle other) mode token
  cases call with
  | submit mode streaming => exact follows_submit other mode streaming
  | setJoint mode => exact install mode 0
  | setJointPlanned mode => exact follows_planned other false fun token => install mode token
  | startTrajectory mode enqueue replace => exact follows_startTrajectory other mode enqueue replace 0
  | startTrajectoryPlanned mode enqueue replace =>
    exact follows_planned other _ fun token => follows_startTrajectory other mode enqueue replace token
  | cancelMotion id =>
    refine .ite (fun _ => .throw fun _ place => place) fun _ => follows_locked ?_
    exact follows_plain (fun _ => rfl) (fun _ _ => rfl) (fun _ place => ⟨other, place.2.1⟩) fun _ _ _ => rfl
  | cancelAllMotions =>
    exact follows_locked (follows_update (fun _ => rfl) (fun _ _ => rfl)
      (fun _ place => ⟨other, place.2.1⟩) fun _ _ _ place => place)
  | setGripperCommands => exact follows_setGripperCommands other
  | submitGripperMit motors => exact follows_submitGripperMit other motors
  | clearFaultsTimeout => exact follows_clearFaultsTimeout other

end Commands

/-! ## Gravity compensation and bimanual follow -/

section Gravity

variable {config : RuntimeConfig} {E : String → Local → Prop}

/-- A start or a stop that has passed its check, under `command_mutex_`. -/
def Owning (stage : Stage) (φ : Local) : Prop := At .lifecycle true stage .none φ

theorem unlock_owning {stage : Stage} {φ : Local}
    (may : stage = .idle ∨ stage = .starting ∨ stage = .releasing) (place : Owning stage φ) :
    φ.command = true ∧ At .lifecycle false .idle .none φ.unlock := by
  obtain ⟨locked, command, stageIs, rest⟩ := place
  refine ⟨command, locked, rfl, ?_, rest⟩
  rcases may with rfl | rfl | rfl <;> simp [Local.unlock, stageIs]

/-- The check of a start. -/
theorem follows_ownerCheck {site : Site} {check : SafetyRuntime → Except String Unit}
    (ready : ∀ s, site.ready s = true) (same : ∀ i s, s = effect config .lifecycle site i s)
    (fits : ∀ φ : Local, φ.begins .lifecycle ∧ φ.command = true → φ.fits .lifecycle site)
    (step : ∀ φ i s, Local.step config φ site i s =
      if (check s).isOk then φ.enter .starting else φ) :
    (runtimeFlow config).Follows .lifecycle (lookThrowAt site fun _ s => check s)
      (At .lifecycle true .idle .none) (fun _ => Owning .starting)
      fun _ φ => φ.command = true ∧ At .lifecycle false .idle .none φ.unlock := by
  refine follows_actThrow ready same
    (fun φ place => fits φ ⟨⟨place.calls, place.2.2.1, place.2.2.2.1⟩, place.2.1⟩) ?_ ?_
  · intro i s φ _ place ok
    have ok : check s = .ok _ := ok
    rw [step, ok]
    exact ⟨place.1, place.2.1, rfl, place.2.2.2⟩
  · intro i s φ error place thrown
    have thrown : check s = .error _ := thrown
    rw [step, thrown]
    exact unlock_owning (.inl rfl) place

theorem follows_ownerRead {stage : Stage} {f : Input → SafetyRuntime → Bool} :
    (runtimeFlow config).Follows .lifecycle (lookAt .ownerRead fun i s => (s.now, f i s)) (Owning stage)
      (fun answer φ => Owning stage φ ∧ φ.read = answer.1) E :=
  follows_act (fun _ => rfl) (fun _ _ => rfl) (fun _ place => ⟨place.calls, place.2.1⟩)
    fun _ _ _ place => ⟨place, rfl⟩

theorem follows_startGravityCompensation :
    (runtimeFlow config).Follows .lifecycle (startGravityCompensation config)
      (At .lifecycle false .idle .none) (fun _ => At .lifecycle false .idle .none)
      fun _ => At .lifecycle false .idle .none := by
  refine follows_withCommand (fun _ place => place.lock) ?_
  refine .bind (follows_ownerCheck (fun _ => rfl) (fun _ _ => rfl) (fun _ begins => begins)
    fun _ _ _ => rfl) fun _ => .bind follows_ownerRead fun ⟨since, readable⟩ => ?_
  refine .ite (fun _ => ?_) fun _ => .throw fun _ holds => unlock_owning (.inr (.inl rfl)) holds.1
  refine follows_update (fun _ => rfl) (fun _ _ => rfl)
    (fun φ holds => ⟨⟨holds.1.calls, holds.1.2.1, holds.1.2.2.1⟩, holds.1.2.2.2.1, holds.2⟩) ?_
  exact fun _ _ φ holds => unlock_owning (.inl rfl) ⟨holds.1.1, holds.1.2.1, rfl, holds.1.2.2.2⟩

theorem follows_stopGravityCompensation :
    (runtimeFlow config).Follows .lifecycle (stopGravityCompensation config)
      (At .lifecycle false .idle .none) (fun _ => At .lifecycle false .idle .none)
      fun _ => At .lifecycle false .idle .none := by
  refine follows_withCommand (fun _ place => place.lock) ?_
  refine .bind (Q := fun active => Owning (if active then .releasing else .idle)) ?_ fun active => ?_
  · refine follows_actThrow (fun _ => rfl) (fun _ _ => rfl)
      (fun _ place => ⟨⟨place.calls, place.2.2.1, place.2.2.2.1⟩, place.2.1⟩) ?_ ?_
    · intro i s φ active place ok
      have ok : s.checkStopGravity = .ok active := ok
      cases active with
      | false => simpa [Local.step, ok, Except.toOption, Owning] using place
      | true =>
        simp only [Local.step, ok, Except.toOption, if_true]
        exact ⟨place.1, place.2.1, rfl, place.2.2.2⟩
    · intro i s φ error place thrown
      have thrown : s.checkStopGravity = .error error := thrown
      simp only [Local.step, thrown, Except.toOption, reduceCtorEq, if_false]
      exact unlock_owning (.inl rfl) place
  · refine .when (fun yes => ?_) fun no φ place => unlock_owning (.inl rfl) (by simpa [no] using place)
    subst yes
    refine .bind follows_ownerRead fun ⟨since, readable⟩ => ?_
    refine .ite (fun _ => ?_) fun _ => .throw fun _ holds => unlock_owning (.inr (.inr rfl)) holds.1
    refine follows_update (fun _ => rfl) (fun _ _ => rfl)
      (fun φ holds => ⟨⟨holds.1.calls, holds.1.2.1, holds.1.2.2.1⟩, holds.1.2.2.2.1, holds.2⟩) ?_
    exact fun _ _ φ holds => unlock_owning (.inl rfl) ⟨holds.1.1, holds.1.2.1, rfl, holds.1.2.2.2⟩

theorem follows_startBimanualFollow :
    (runtimeFlow config).Follows .lifecycle (startBimanualFollow config)
      (At .lifecycle false .idle .none) (fun _ => At .lifecycle false .idle .none)
      fun _ => At .lifecycle false .idle .none := by
  refine follows_withCommand (fun _ place => place.lock) ?_
  refine .bind (follows_ownerCheck (fun _ => rfl) (fun _ _ => rfl) (fun _ begins => begins)
    fun _ _ _ => rfl) fun _ => .bind follows_ownerRead fun ⟨since, readable⟩ => ?_
  refine .ite (fun _ => ?_) fun _ => .throw fun _ holds => unlock_owning (.inr (.inl rfl)) holds.1
  refine follows_update (fun _ => rfl) (fun _ _ => rfl)
    (fun φ holds => ⟨⟨holds.1.calls, holds.1.2.1, holds.1.2.2.1⟩, holds.1.2.2.2.1, holds.2⟩) ?_
  exact fun _ _ φ holds => unlock_owning (.inl rfl) ⟨holds.1.1, holds.1.2.1, rfl, holds.1.2.2.2⟩

theorem follows_stopBimanualFollow :
    (runtimeFlow config).Follows .lifecycle (stopBimanualFollow config)
      (At .lifecycle false .idle .none) (fun _ => At .lifecycle false .idle .none)
      fun _ => At .lifecycle false .idle .none := by
  refine follows_withCommand (fun _ place => place.lock) ?_
  refine .bind follows_glance fun active => .when (fun _ => ?_) fun _ _ place => place.ends
  refine .bind follows_ownerRead fun ⟨since, readable⟩ => ?_
  refine .ite (fun _ => ?_) fun _ => .throw fun _ holds => unlock_owning (.inl rfl) holds.1
  refine follows_actThrow (fun _ => rfl) (fun _ _ => rfl)
    (fun φ holds => ⟨⟨holds.1.calls, holds.1.2.1, holds.1.2.2.1⟩, holds.1.2.2.2.1, holds.2⟩) ?_ ?_
  · exact fun _ _ _ _ holds _ => unlock_owning (.inl rfl) holds.1
  · exact fun _ _ _ _ holds _ => unlock_owning (.inl rfl) holds.1

end Gravity

/-! ## Connecting and maintenance -/

section Lifecycle

variable {config : RuntimeConfig} {E : String → Local → Prop}

theorem follows_connectVerified (revalidating : Bool) :
    (runtimeFlow config).Follows .lifecycle (connectVerified config revalidating)
      (fun φ => At .lifecycle false (.connecting revalidating) .none φ ∧ Fresh φ)
      (fun _ => At .lifecycle false .idle .none) fun _ => At .lifecycle false .idle .none := by
  refine .bind (Q := fun answer φ => At .lifecycle false (.connecting revalidating) .none φ ∧
    (answer.1 = true → φ.evidence = .proved)) ?_ fun ⟨disabled, faulted⟩ => ?_
  · exact follows_act (fun _ => rfl) (fun _ _ => rfl) (fun _ _ => trivial) fun _ _ _ holds =>
      ⟨holds.1, fun disabled => read_proved holds.2 disabled⟩
  · have leaves : ∀ φ, At .lifecycle false (.connecting revalidating) .none φ →
        At .lifecycle false .idle .none φ.leave :=
      fun φ place => ⟨place.1, place.2.1, rfl, place.2.2.2⟩
    refine .ite (fun refused => ?_) fun accepted => ?_
    · simp only [Bool.and_eq_true] at refused
      refine .bind (Q := fun _ => At .lifecycle false .idle .none) (follows_update (fun _ => rfl)
        (fun _ _ => rfl) ?_ fun _ _ φ holds => leaves φ holds.1) fun _ => .throw fun _ place => place
      exact fun φ holds => ⟨holds.1.calls, refused.1.1 ▸ holds.1.2.2.1⟩
    · refine follows_update (fun _ => rfl) (fun _ _ => rfl) ?_ fun _ _ φ holds => leaves φ holds.1
      refine fun φ holds => ⟨holds.1.calls, revalidating, holds.1.2.2.1, fun yes => ?_, holds.2⟩
      cases faulted <;> cases disabled <;> simp_all

theorem follows_connect :
    (runtimeFlow config).Follows .lifecycle (connect config) (At .lifecycle false .idle .none)
      (fun _ => At .lifecycle false .idle .none) fun _ => At .lifecycle false .idle .none := by
  refine .bind (Q := fun started => At .lifecycle false (started.elim .idle .connecting) .none) ?_
    fun started => ?_
  · refine follows_actThrow (fun _ => rfl) (fun _ _ => rfl) (fun φ place => ⟨place.calls, place.2.2.1,
      place.2.2.2.1⟩) ?_ ?_
    · intro i s φ started place ok
      cases started with
      | none => simpa [Local.step, ok] using place
      | some revalidating =>
        simp only [Local.step, ok]
        exact ⟨place.1, place.2.1, rfl, place.2.2.2⟩
    · intro i s φ error place thrown
      simpa only [Local.step, thrown] using place
  · cases started with
    | none => exact .ret fun _ place => place
    | some revalidating =>
      have steady := steady_at .lifecycle false (.connecting revalidating) .none
      refine .bind (follows_requestFeedbackParallel steady) fun ⟨complete, missing⟩ => ?_
      refine .bind (follows_validate steady missing complete) fun valid => .ite (fun yes => ?_) fun _ => ?_
      · exact (follows_connectVerified revalidating).conseq (fun _ holds => ⟨holds.1, holds.2 yes⟩)
          (fun _ _ place => place) fun _ _ place => place
      · refine .bind (Q := fun _ => At .lifecycle false .idle .none) (follows_update (fun _ => rfl)
          (fun _ _ => rfl) (fun φ holds => ⟨holds.1.calls, revalidating, holds.1.2.2.1⟩) ?_)
          fun _ => .throw fun _ place => place
        exact fun _ _ φ holds => ⟨holds.1.1, holds.1.2.1, rfl, holds.1.2.2.2⟩

/-- The maintenance has passed its first check, or it was refused. -/
def Maintaining (operation : Maintenance) (code : OperationCode) (φ : Local) : Prop :=
  (At .lifecycle true (.maintaining operation) .none φ ∧ φ.prechecked = true ∧ code ≠ .invalidState) ∨
    (At .lifecycle true .idle .none φ ∧ code = .invalidState)

/-- A motor that does not pass is no reason to say that the state is invalid. -/
theorem precheckMotor_ne {i : Input} {operation : Maintenance} {code : OperationCode} (motors : List Handle)
    (found : motors.findSome? (precheckMotor i operation) = some code) : code ≠ .invalidState := by
  obtain ⟨motor, -, checked⟩ := List.exists_of_findSome?_eq_some found
  simp only [precheckMotor] at checked
  repeat' split at checked
  all_goals
    first
    | (cases checked; done)
    | (obtain rfl := Option.some.inj checked; exact nofun)

theorem follows_maintenancePrecheck (operation : Maintenance) :
    (runtimeFlow config).Follows .lifecycle (maintenancePrecheck config operation)
      (At .lifecycle true .idle .none) (Maintaining operation) E := by
  refine .bind (Q := fun started φ => if started then At .lifecycle true (.maintaining operation) .none φ ∧
    φ.prechecked = true else At .lifecycle true .idle .none φ) ?_ fun started => ?_
  · refine follows_act (fun _ => rfl) (fun _ _ => rfl)
      (fun φ place => ⟨⟨place.calls, place.2.2.1, place.2.2.2.1⟩, place.2.1⟩) fun i s φ place => ?_
    cases started : (s.precheckMaintenance operation).1 with
    | false => simpa [Local.step, started] using place
    | true =>
      simp only [Local.step, started, if_true]
      exact ⟨⟨place.1, place.2.1, rfl, place.2.2.2⟩, trivial⟩
  · cases started with
    | false => exact .ret fun φ place => .inr ⟨place, rfl⟩
    | true =>
      have steady : Steady fun φ => At .lifecycle true (.maintaining operation) .none φ ∧
          φ.prechecked = true := fun _ _ holds => holds
      refine .bind follows_refreshTransportHealth fun transports =>
        .ite (fun _ => .ret fun _ holds => .inl ⟨holds.1, holds.2, nofun⟩) fun _ => ?_
      refine .bind (follows_requestAndValidate steady) fun valid =>
        .ite (fun _ => .ret fun _ holds => .inl ⟨holds.1.1, holds.1.2, nofun⟩) fun _ => ?_
      refine follows_look fun i _ _ holds => .inl ⟨holds.1.1, holds.1.2, ?_⟩
      cases found : config.handles.findSome? (precheckMotor i operation) with
      | none => exact nofun
      | some code => exact precheckMotor_ne _ found

theorem follows_maintenanceSteps (operation : Maintenance) :
    (runtimeFlow config).Follows .lifecycle (maintenanceSteps config operation)
      (At .lifecycle true .idle .none)
      (fun code φ => Maintaining operation code φ ∧ (code = .ok → φ.evidence = .proved)) E := by
  refine .bind (follows_maintenancePrecheck operation) fun precheck => .ite (fun failed => ?_) fun passed => ?_
  · exact .ret fun _ holds => ⟨holds, fun ok => absurd ok failed⟩
  have passed : precheck = .ok := not_not.mp passed
  subst passed
  have started : ∀ φ, Maintaining operation .ok φ →
      At .lifecycle true (.maintaining operation) .none φ ∧ φ.prechecked = true :=
    fun φ holds => holds.elim (fun started => ⟨started.1, started.2.1⟩) fun refused => nomatch refused.2
  have steady : Steady fun φ => At .lifecycle true (.maintaining operation) .none φ ∧
      φ.prechecked = true := fun _ _ holds => holds
  refine .bind (Q := fun applied φ => (At .lifecycle true (.maintaining operation) .none φ ∧
    φ.prechecked = true) ∧ applied ≠ .invalidState) (.ite (fun _ => ?_) fun _ => .ret fun φ holds =>
    ⟨started φ holds, nofun⟩) fun applied => .ite (fun failed => .ret fun _ holds =>
    ⟨.inl ⟨holds.1.1, holds.1.2, holds.2⟩, fun ok => absurd ok failed⟩) fun _ => ?_
  · refine .bind (follows_reading (fun _ => rfl) (fun _ _ => rfl) (fun _ _ _ => rfl) fun _ _ => trivial)
      fun accepted => .ret fun φ holds => ⟨started φ holds, ?_⟩
    cases accepted <;> exact nofun
  · refine .bind ((follows_requestAndValidate steady).conseq (fun _ holds => holds.1) (fun _ _ holds => holds)
      fun _ _ holds => holds) fun valid => .ite (fun _ => ?_) fun yes => ?_
    · exact .ret fun _ holds => ⟨.inl ⟨holds.1.1, holds.1.2, nofun⟩, fun impossible => nomatch impossible⟩
    · refine follows_act (fun _ => rfl) (fun _ _ => rfl) (fun _ _ => trivial) fun i s φ holds => ?_
      refine ⟨.inl ⟨holds.1.1, holds.1.2, by split_ifs <;> exact nofun⟩, fun ok => ?_⟩
      have verifies : config.handles.all (verified i operation) = true := by
        by_contra no
        simp only [if_neg no] at ok
        exact nomatch ok
      refine read_proved (holds.2 (by simpa using yes)) ?_
      simp only [allDisabled, List.all_eq_true] at verifies ⊢
      intro motor member
      have one := verifies motor member
      simp only [verified, reads, Option.any_eq_true, Bool.and_eq_true] at one ⊢
      obtain ⟨state, found, ⟨status, -⟩, -⟩ := one
      exact ⟨state, found, status⟩

/-- The stage in which `run_motor_maintenance` ends. -/
def OperationCode.ends (code : OperationCode) : Stage := if code.latches then .failed else .idle

theorem follows_runMotorMaintenance (operation : Maintenance) (mode : Option ControlMode) :
    (runtimeFlow config).Follows .lifecycle (runMotorMaintenance config operation mode)
      (At .lifecycle false .idle .none)
      (fun code φ => At .lifecycle false code.ends .none φ ∧
        (code ≠ .invalidState → φ.prechecked = true)) E := by
  refine follows_withCommand (fun _ place => place.lock) ?_
  refine .bind (follows_maintenanceSteps operation) fun code => ?_
  refine .bind (Q := fun _ φ => Maintaining operation code φ ∧ (code = .ok → φ.evidence = .proved))
    (.when (fun ok => ?_) fun _ _ holds => holds) fun _ => ?_
  · have ok : code = .ok := by simpa using ok
    refine follows_update (fun _ => rfl) (fun _ _ => rfl) ?_ fun _ _ _ holds => holds
    rintro φ ⟨started | refused, -⟩
    · exact ⟨operation, started.1.calls, started.1.2.1, started.1.2.2.1⟩
    · exact nomatch ok.symm.trans refused.2
  · refine .bind (Q := fun _ φ => φ.command = true ∧ At .lifecycle false code.ends .none φ.unlock ∧
      (code ≠ .invalidState → φ.prechecked = true)) ?_ fun _ => .ret fun _ holds => holds
    refine follows_update (fun _ => rfl) (fun _ _ => rfl) ?_ ?_
    · rintro φ ⟨started | refused, proved⟩
      · exact ⟨started.1.calls, started.1.2.1, rfl, started.1.2.2.2.1,
          .inl ⟨started.1.2.2.1, started.2.2, proved⟩⟩
      · exact ⟨refused.1.calls, refused.1.2.1, rfl, refused.1.2.2.2.1, .inr ⟨refused.1.2.2.1, refused.2⟩⟩
    · have leaves : ∀ {stage φ} i s, At .lifecycle true stage .none φ → φ.prechecked = (φ.step config
          (.finishMaintenance operation code code.latches) i s).prechecked ∧
          (φ.step config (.finishMaintenance operation code code.latches) i s).command = true ∧
          At .lifecycle false code.ends .none
            (φ.step config (.finishMaintenance operation code code.latches) i s).unlock := by
        intro stage φ i s place
        cases latches : code.latches with
        | false =>
          simp only [OperationCode.ends, latches, Local.step]
          exact ⟨rfl, At.ends ⟨place.1, place.2.1, rfl, place.2.2.2⟩⟩
        | true =>
          simp only [OperationCode.ends, latches, Local.step]
          exact ⟨rfl, place.2.1, place.1, rfl, rfl, place.2.2.2⟩
      rintro i s φ ⟨started | refused, -⟩
      · obtain ⟨kept, left⟩ := leaves i s started.1
        exact ⟨left.1, left.2, fun _ => kept ▸ started.2.1⟩
      · obtain ⟨-, left⟩ := leaves i s refused.1
        exact ⟨left.1, left.2, fun other => absurd refused.2 other⟩

/-- A lifecycle call is over, after a failed maintenance or not. -/
def Over (φ : Local) : Prop := ∃ stage, (stage = .idle ∨ stage = .failed) ∧ At .lifecycle false stage .none φ

theorem over_of_idle {φ : Local} (place : At .lifecycle false .idle .none φ) : Over φ := ⟨_, .inl rfl, place⟩

theorem over_of_ends {code : OperationCode} {φ : Local} (place : At .lifecycle false code.ends .none φ) :
    Over φ := by
  refine ⟨_, ?_, place⟩
  simp only [OperationCode.ends]
  cases code.latches
  · exact .inl rfl
  · exact .inr rfl

theorem follows_clearFaults :
    (runtimeFlow config).Follows .lifecycle (clearFaults config) (At .lifecycle false .idle .none)
      (fun _ => Over) fun _ => Over := by
  refine .bind (follows_runMotorMaintenance .clearFaults none) fun code =>
    .when (fun parks => ?_) fun _ _ holds => over_of_ends holds.1
  have started : code ≠ .invalidState ∧ code.ends = .failed := by
    have parks : code = .feedback ∨ code = .verification := by simpa using parks
    obtain rfl | rfl := parks
    · exact ⟨nofun, rfl⟩
    · exact ⟨nofun, rfl⟩
  refine follows_update (fun _ => rfl) (fun _ _ => rfl) ?_ fun _ _ _ holds => over_of_ends holds.1
  exact fun φ holds => ⟨holds.1.calls, holds.1.2.2.1.trans started.2, holds.1.2.2.2.1, holds.2 started.1⟩

/-! ## Recovery -/

/-- `recover` between its transactions. -/
def Recovering (φ : Local) : Prop := ∃ recovery, At .lifecycle false .idle recovery φ

theorem follows_failRecovery (error : String) :
    (runtimeFlow config).Follows .lifecycle (failRecovery config error) Recovering
      (fun _ => At .lifecycle false .idle .none) fun _ => At .lifecycle false .idle .none := by
  refine .bind (Q := fun _ => Recovering) ?_ fun _ => ?_
  · refine follows_withCommand (B := fun φ => ∃ recovery, At .lifecycle true .idle recovery φ)
      (fun φ ⟨recovery, place⟩ => ⟨place.2.1, recovery, place.lock.2⟩) ?_
    refine follows_update (fun _ => rfl) (fun _ _ => rfl) ?_ ?_
    · exact fun φ ⟨recovery, place⟩ => ⟨place.calls, place.2.1, place.2.2.1⟩
    · exact fun _ _ φ ⟨recovery, place⟩ => ⟨place.2.1, recovery, place.unlock ⟨by simp, by simp⟩⟩
  refine .bind (Q := fun _ => At .lifecycle false .idle .failing) ?_ fun _ => ?_
  · refine follows_update (fun _ => rfl) (fun _ _ => rfl) ?_ ?_
    · exact fun φ ⟨recovery, place⟩ => ⟨place.calls, place.2.2.1⟩
    · exact fun _ _ φ ⟨recovery, place⟩ => ⟨place.1, place.2.1, place.2.2.1, rfl, place.2.2.2.2⟩
  refine .bind (follows_disableHardware ⟨by simp, by simp⟩) fun disabled => ?_
  refine .bind (Q := fun _ => At .lifecycle false .idle .none) ?_ fun _ => .throw fun _ place => place
  refine follows_update (fun _ => rfl) (fun _ _ => rfl) ?_ ?_
  · exact fun φ holds => ⟨holds.1.1.calls, holds.1.1.2.2.1, holds.1.1.2.2.2.1, holds.2, holds.1.2,
      holds.1.1.2.1⟩
  · exact fun _ _ φ holds => ⟨holds.1.1.1, holds.1.1.2.1, holds.1.1.2.2.1, rfl, holds.1.1.2.2.2.2⟩

theorem follows_recoverDisable (connectFirst : Bool) :
    (runtimeFlow config).Follows .lifecycle (recoverDisable config connectFirst)
      (At .lifecycle false .idle .none) (fun _ => At .lifecycle false .idle .cleared)
      fun _ => Recovering := by
  refine .bind (Q := fun _ => At .lifecycle false .idle .none) (.when (fun _ => ?_) fun _ _ place => place)
    fun _ => ?_
  · exact follows_connect.conseq (fun _ place => place) (fun _ _ place => place) fun _ _ place => ⟨_, place⟩
  refine .bind (Q := fun _ => At .lifecycle false .idle .frozen) ?_ fun _ => ?_
  · refine follows_update (fun _ => rfl) (fun _ _ => rfl) ?_ ?_
    · exact fun φ place => ⟨place.calls, place.2.2.1, place.2.2.2.1⟩
    · exact fun _ _ φ place => ⟨place.1, place.2.1, place.2.2.1, rfl, place.2.2.2.2⟩
  refine .bind (Q := fun _ => At .lifecycle false .idle .cleared) ?_ fun _ => ?_
  · refine follows_withCommand (fun _ place => place.lock) (follows_update (fun _ => rfl) (fun _ _ => rfl)
      ?_ ?_)
    · exact fun φ place => ⟨⟨place.calls, place.2.1, place.2.2.1⟩, place.2.2.2.1⟩
    · intro _ _ φ place
      have place' : At .lifecycle true .idle .cleared { φ with recovery := .cleared } :=
        ⟨place.1, place.2.1, place.2.2.1, rfl, place.2.2.2.2⟩
      exact ⟨place.2.1, place'.unlock ⟨by simp, by simp⟩⟩
  refine .bind (follows_disableHardware ⟨by simp, by simp⟩) fun disabled => .ite (fun yes => ?_) fun _ => ?_
  · refine follows_update (fun _ => rfl) (fun _ _ => rfl) ?_ fun _ _ _ holds => holds.1.1
    exact fun φ holds => ⟨holds.1.1.calls, holds.1.1.2.2.1, holds.1.1.2.2.2.1, holds.2 yes⟩
  · exact .throw fun _ holds => ⟨_, holds.1.1⟩

theorem follows_recoverFaults :
    (runtimeFlow config).Follows .lifecycle (recoverFaults config) (At .lifecycle false .idle .cleared)
      (fun _ => At .lifecycle false .idle .cleared) fun _ => Recovering := by
  refine .ite (fun _ => .throw fun _ place => ⟨_, place⟩) fun _ => .bind follows_ask fun cleared =>
    .ite (fun _ => ?_) fun _ => .throw fun _ place => ⟨_, place⟩
  exact follows_update (fun _ => rfl) (fun _ _ => rfl)
    (fun φ place => ⟨place.calls, place.2.2.1, place.2.2.2.1⟩) fun _ _ _ place => place

/-- A healthy reading of the recovery finds every motor fresh and disabled. -/
theorem healthy_proved {i : Input} {disabled : List Handle} {evidence : Evidence}
    (healthyAll : config.motors.all (healthy config i disabled true) = true) (fed : evidence = .fed) :
    evidence.read config i = .proved := by
  have each : ∀ motor ∈ config.motors, fresh config i motor.motor = true ∧
      reads i motor.motor (fun state => state.statusCode = 0) = true := by
    intro motor member
    have one := List.all_eq_true.mp healthyAll motor member
    simp only [healthy, reads, Option.any_eq_true, Bool.and_eq_true, if_true] at one ⊢
    obtain ⟨isFresh, state, found, -, status⟩ := one
    exact ⟨isFresh, state, found, status⟩
  have everyFresh : allFresh config i = true := by
    simp only [allFresh, RuntimeConfig.handles, List.all_map, List.all_eq_true]
    exact fun motor member => (each motor member).1
  have everyDisabled : allDisabled config i = true := by
    simp only [allDisabled, RuntimeConfig.handles, List.all_map, List.all_eq_true]
    exact fun motor member => (each motor member).2
  simp [fed, Evidence.read, everyFresh, everyDisabled]

theorem follows_recoverHealth :
    (runtimeFlow config).Follows .lifecycle (recoverHealth config) (At .lifecycle false .idle .cleared)
      (fun _ φ => At .lifecycle false .idle .cleared φ ∧ φ.evidence = .proved) fun _ => Recovering := by
  refine .bind follows_refreshTransportHealth fun transports =>
    .ite (fun _ => .throw fun _ place => ⟨_, place⟩) fun _ => ?_
  refine .bind (follows_requestFeedbackParallel (steady_at _ _ _ _)) fun ⟨complete, missing⟩ =>
    .ite (fun _ => .throw fun _ holds => ⟨_, holds.1⟩) fun yes => ?_
  have completed : complete = true := by simpa using yes
  refine .bind (Q := fun isHealthy φ => At .lifecycle false .idle .cleared φ ∧
    (isHealthy = true → φ.evidence = .proved)) ?_ fun isHealthy =>
    .ite (fun _ => .throw fun _ holds => ⟨_, holds.1⟩) fun yes => ?_
  · refine .bind follows_refreshTransportHealth fun transports => ?_
    refine .bind (Q := fun answer φ => At .lifecycle false .idle .cleared φ ∧
      (answer.1 = true → φ.evidence = .proved)) ?_ fun answer => ?_
    · exact follows_act (fun _ => rfl) (fun _ _ => rfl) (fun _ _ => trivial) fun i s φ holds =>
        ⟨holds.1, fun healthyAll => healthy_proved healthyAll (holds.2 completed)⟩
    · refine .bind (Q := fun _ φ => At .lifecycle false .idle .cleared φ ∧
        (answer.1 = true → φ.evidence = .proved)) (follows_update (fun _ => rfl) (fun _ _ => rfl)
        (fun _ _ => trivial) fun _ _ _ holds => holds) fun _ => .ret fun φ holds => ⟨holds.1, fun both => ?_⟩
      exact holds.2 (Bool.and_eq_true_iff.mp both).2
  · have proved : ∀ φ, At .lifecycle false .idle .cleared φ ∧ (isHealthy = true → φ.evidence = .proved) →
        At .lifecycle false .idle .cleared φ ∧ φ.evidence = .proved :=
      fun φ holds => ⟨holds.1, holds.2 (by simpa using yes)⟩
    refine .ite (fun _ => .throw fun _ holds => ⟨_, holds.1⟩) fun _ => .bind follows_ask fun configured =>
      .ite (fun _ => .throw fun _ holds => ⟨_, holds.1⟩) fun _ => .bind follows_glance fun known => ?_
    exact .ite (fun _ => .ret proved) fun _ => .throw fun _ holds => ⟨_, holds.1⟩

theorem follows_homing (turns : ℕ) (reached : Bool) :
    (runtimeFlow config).Follows .lifecycle (homing config turns reached)
      (At .lifecycle false .idle .homing) (fun _ => At .lifecycle false .idle .homing)
      fun _ => Recovering := by
  induction turns generalizing reached with
  | zero => exact .ite (fun _ => .ret fun _ place => place) fun _ => .throw fun _ place => ⟨_, place⟩
  | succ turns ih =>
    refine .bind (follows_feedback (steady_at _ _ _ _)) fun answer =>
      .ite (fun _ => .throw fun _ place => ⟨_, place⟩) fun _ => .bind follows_glance fun stopped =>
      .ite (fun _ => .throw fun _ place => ⟨_, place⟩) fun _ => ?_
    refine .bind (follows_reading (fun _ => rfl) (fun _ _ => rfl) (fun _ _ _ => rfl) fun _ _ => trivial)
      fun arrived => ?_
    exact .ite (fun _ => .ret fun _ place => place) fun _ => ih false

theorem follows_recoverHome :
    (runtimeFlow config).Follows .lifecycle (recoverHome config)
      (fun φ => At .lifecycle false .idle .cleared φ ∧ φ.evidence = .proved)
      (fun _ => At .lifecycle false .idle .none) fun _ => Recovering := by
  refine .bind (Q := fun _ => At .lifecycle false .idle .homing) ?_ fun _ => ?_
  · refine follows_update (fun _ => rfl) (fun _ _ => rfl) ?_ ?_
    · exact fun φ holds => ⟨holds.1.calls, holds.1.2.2.1, holds.1.2.2.2.1, holds.2⟩
    · exact fun _ _ φ holds => ⟨holds.1.1, holds.1.2.1, holds.1.2.2.1, rfl, holds.1.2.2.2.2⟩
  refine .bind (Q := fun _ φ => (At .lifecycle false .idle .homing φ ∧ φ.settled = true) ∧
    φ.evidence.claims = true) ?_ fun _ => ?_
  · refine .bind follows_glance fun mode => ?_
    refine .bind ((follows_enable (.inr rfl) mode).conseq (fun _ place => place) (fun _ _ place => place)
      fun _ _ place => ⟨_, place⟩) fun _ => ?_
    refine .bind ((follows_installJointPosition (by simp) (fun _ => rfl) mode 0).conseq
      (fun _ place => place) (fun _ _ place => place) fun _ _ place => ⟨_, place⟩) fun _ => ?_
    refine .bind (follows_reading (fun _ => rfl) (fun _ _ => rfl) (fun _ _ _ => rfl) fun _ _ => trivial)
      fun turns => .bind (follows_homing turns true) fun _ => ?_
    exact (follows_disable (.inr rfl)).conseq (fun _ place => place) (fun _ _ holds => holds)
      fun _ _ holds => ⟨_, holds.1⟩
  · refine follows_update (fun _ => rfl) (fun _ _ => rfl) ?_ ?_
    · exact fun φ holds => ⟨holds.1.1.calls, holds.1.1.2.2.1, holds.1.1.2.2.2.1, holds.1.2, holds.2⟩
    · exact fun _ _ φ holds => ⟨holds.1.1.1, holds.1.1.2.1, holds.1.1.2.2.1, rfl, holds.1.1.2.2.2.2⟩

theorem follows_recover :
    (runtimeFlow config).Follows .lifecycle (recover config) (At .lifecycle false .idle .none)
      (fun _ => At .lifecycle false .idle .none) fun _ => At .lifecycle false .idle .none := by
  refine .bind (Q := fun _ => At .lifecycle false .idle .none)
    (follows_lookThrow (fun _ _ _ _ place _ => place) fun _ _ _ _ place _ => place) fun connectFirst => ?_
  refine .tryCatch (E := fun _ => Recovering) ?_ fun error => follows_failRecovery error
  refine .bind (follows_recoverDisable connectFirst) fun _ => .bind follows_recoverFaults fun _ => ?_
  exact .bind follows_recoverHealth fun _ => follows_recoverHome

/-! ## Closing -/

theorem follows_stopWorker :
    (runtimeFlow config).Follows .lifecycle stopWorker
      (fun φ => At .lifecycle false .idle .none φ ∧ φ.settled = true)
      (fun _ => At .lifecycle false .idle .none) E := by
  refine .bind (Q := fun _ => At .lifecycle false .closing .none) ?_ fun _ => ?_
  · refine follows_update (fun _ => rfl) (fun _ _ => rfl) ?_ ?_
    · exact fun φ holds => ⟨⟨holds.1.calls, holds.1.2.2.1, holds.1.2.2.2.1⟩, holds.2⟩
    · exact fun _ _ φ holds => ⟨holds.1.1, holds.1.2.1, rfl, holds.1.2.2.2⟩
  refine .bind (Q := fun _ => At .lifecycle false .closing .none) (follows_actWhen (fun _ => rfl)
    (fun _ _ => rfl) (fun φ place => ⟨place.calls, place.2.2.1⟩) fun _ _ _ place => place) fun _ => ?_
  exact follows_update (fun _ => rfl) (fun _ _ => rfl) (fun φ place => ⟨place.calls, place.2.2.1⟩)
    fun _ _ _ place => ⟨place.1, place.2.1, rfl, place.2.2.2⟩

theorem follows_close :
    (runtimeFlow config).Follows .lifecycle (close config) (At .lifecycle false .idle .none)
      (fun _ => At .lifecycle false .idle .none) fun _ => At .lifecycle false .idle .none := by
  refine .bind (Q := fun needed φ => At .lifecycle false .idle .none φ ∧
    (needed = some false → φ.settled = true)) ?_ fun needed => ?_
  · refine follows_act (fun _ => rfl) (fun _ _ => rfl) (fun φ place => ⟨place.calls, place.2.2.1,
      place.2.2.2.1⟩) fun i s φ place => ⟨place, fun found => ?_⟩
    simpa [Local.step] using found
  cases needed with
  | none => exact .ret fun _ holds => holds.1
  | some needed =>
    refine .bind (Q := fun _ φ => At .lifecycle false .idle .none φ ∧ φ.settled = true) ?_ fun failure =>
      .bind follows_stopWorker fun _ => ?_
    · refine .tryCatch (E := fun _ φ => At .lifecycle false .idle .none φ ∧ φ.settled = true) ?_
        fun error => .ret fun _ holds => holds
      refine .bind (Q := fun _ φ => At .lifecycle false .idle .none φ ∧ φ.settled = true) ?_ fun _ =>
        .ret fun _ holds => holds
      refine .when (fun _ => ?_) fun no φ holds => ⟨holds.1, holds.2 (by rw [no])⟩
      exact (follows_disable (.inl rfl)).conseq (fun _ holds => holds.1) (fun _ _ holds => holds.1)
        fun _ _ holds => holds
    · cases failure with
      | none => exact .ret fun _ place => place
      | some error => exact .throw fun _ place => place

end Lifecycle

end MotorDrive.Runtime
