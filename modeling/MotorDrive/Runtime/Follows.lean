import MotorDrive.Runtime.Flow

/-!
# Every operation follows the flow

One rule for each function of the Runtime, in the order of the modules that define them.
`runtime_follows` says that every operation of the Runtime follows `runtimeFlow`, so that an invariant
of the state and of the local states needs one case for each section.
-/

namespace MotorDrive.Runtime

open Threads SafetyRuntime

/-- Where a thread is: the mutexes, the transaction and the recovery; no captured hold is waiting. -/
def At (t : Thread) (command : Bool) (stage : Stage) (recovery : Recovery) (φ : Local) : Prop :=
  φ.locked = decide (t = .lifecycle) ∧ φ.command = command ∧ φ.stage = stage ∧ φ.recovery = recovery ∧
    φ.hold = none

/-- The assertion does not depend on the evidence. -/
def Steady (A : Local → Prop) : Prop := ∀ φ evidence, A φ → A { φ with evidence }

/-- Fresh feedback of every motor after a complete transaction. -/
def Fresh (φ : Local) : Prop := φ.evidence = .validated ∨ φ.evidence = .proved

theorem steady_at (t : Thread) (command : Bool) (stage : Stage) (recovery : Recovery) :
    Steady (At t command stage recovery) := fun _ _ holds => holds

section Primitives

variable {config : RuntimeConfig} {t : Thread} {α : Type} {A B : Local → Prop}
  {Q : α → Local → Prop} {E : String → Local → Prop} {site : Site}

theorem follows_act {f : Input → SafetyRuntime → α × SafetyRuntime}
    (ready : ∀ s, site.ready s = true) (same : ∀ i s, (f i s).2 = effect config t site i s)
    (fits : ∀ φ, A φ → φ.fits t site)
    (post : ∀ i s φ, A φ → Q (f i s).1 (φ.step config site i s)) :
    (runtimeFlow config).Follows t (act site f) A Q E :=
  .atomic ready (fun i s => by simp only [runtimeFlow, after, same]) fits
    fun i s φ holds => post i s.tick φ holds

theorem follows_update {f : Input → SafetyRuntime → SafetyRuntime} {Q : Unit → Local → Prop}
    (ready : ∀ s, site.ready s = true) (same : ∀ i s, f i s = effect config t site i s)
    (fits : ∀ φ, A φ → φ.fits t site)
    (post : ∀ i s φ, A φ → Q () (φ.step config site i s)) :
    (runtimeFlow config).Follows t (update site f) A Q E :=
  follows_act ready same fits post

theorem follows_actThrow {f : Input → SafetyRuntime → Except String α × SafetyRuntime}
    (ready : ∀ s, site.ready s = true) (same : ∀ i s, (f i s).2 = effect config t site i s)
    (fits : ∀ φ, A φ → φ.fits t site)
    (post : ∀ i s φ a, A φ → (f i s).1 = .ok a → Q a (φ.step config site i s))
    (thrown : ∀ i s φ e, A φ → (f i s).1 = .error e → E e (φ.step config site i s)) :
    (runtimeFlow config).Follows t (actThrow site f) A Q E :=
  .await (fun s => (ready s).symm) (fun i s => by simp only [runtimeFlow, after, same]) fits
    (fun i s φ a holds ok => post i s.tick φ a holds ok)
    fun i s φ e holds error => thrown i s.tick φ e holds error

theorem follows_actWhen {ready : SafetyRuntime → Bool}
    {f : Input → SafetyRuntime → α × SafetyRuntime} (sameReady : ∀ s, ready s = site.ready s)
    (same : ∀ i s, (f i s).2 = effect config t site i s) (fits : ∀ φ, A φ → φ.fits t site)
    (post : ∀ i s φ, A φ → Q (f i s).1 (φ.step config site i s)) :
    (runtimeFlow config).Follows t (actWhen site ready f) A Q E :=
  .await sameReady (fun i s => by simp only [runtimeFlow, after, same]) fits
    (fun i s φ a holds ok => Except.ok.inj ok ▸ post i s.tick φ holds)
    fun _ _ _ _ _ error => nomatch error

theorem follows_look {f : Input → SafetyRuntime → α} (post : ∀ i s φ, A φ → Q (f i s) φ) :
    (runtimeFlow config).Follows t (look f) A Q E := by
  unfold look lookAt
  exact follows_act (fun _ => rfl) (fun _ _ => rfl) (fun _ _ => trivial) post

/-- A reading keeps what holds. -/
theorem follows_reading {f : Input → SafetyRuntime → α} (ready : ∀ s, site.ready s = true)
    (same : ∀ i s, effect config t site i s = s) (still : ∀ i s φ, Local.step config φ site i s = φ)
    (fits : ∀ φ, A φ → φ.fits t site) :
    (runtimeFlow config).Follows t (lookAt site f) A (fun _ => A) E :=
  follows_act ready (fun i s => (same i s).symm) fits fun i s φ holds => by rwa [still]

/-- A look keeps what holds. -/
theorem follows_glance {f : Input → SafetyRuntime → α} :
    (runtimeFlow config).Follows t (look f) A (fun _ => A) E :=
  follows_look fun _ _ _ holds => holds

theorem follows_lookThrow {f : Input → SafetyRuntime → Except String α}
    (post : ∀ i s φ a, A φ → f i s = .ok a → Q a φ)
    (thrown : ∀ i s φ e, A φ → f i s = .error e → E e φ) :
    (runtimeFlow config).Follows t (lookThrow f) A Q E := by
  unfold lookThrow lookThrowAt
  exact follows_actThrow (fun _ => rfl) (fun _ _ => rfl) (fun _ _ => trivial) post thrown

/-- A lock around a program. -/
theorem follows_withCommand {p : Program α} (enter : ∀ φ, A φ → φ.command = false ∧ B φ.lock)
    (inner : (runtimeFlow config).Follows t p B (fun a φ => φ.command = true ∧ Q a φ.unlock)
      fun e φ => φ.command = true ∧ E e φ.unlock) :
    (runtimeFlow config).Follows t (withCommand t p) A Q E := by
  refine .bind (Q := fun _ => B) (follows_actWhen (fun _ => rfl) (fun _ _ => rfl)
    (fun φ holds => (enter φ holds).1) fun _ _ φ holds => (enter φ holds).2) fun _ => ?_
  refine .bind (inner.tryCatch (B := E) fun e => ?_) fun a => ?_
  · refine .bind (Q := fun _ => E e) (follows_update (fun _ => rfl) (fun _ _ => rfl)
      (fun _ holds => holds.1) fun _ _ _ holds => holds.2) fun _ => .throw fun _ holds => holds
  · refine .bind (Q := fun _ => Q a) (follows_update (fun _ => rfl) (fun _ _ => rfl)
      (fun _ holds => holds.1) fun _ _ _ holds => holds.2) fun _ => .ret fun _ holds => holds

theorem At.lock {stage : Stage} {recovery : Recovery} {φ : Local}
    (place : At t false stage recovery φ) : φ.command = false ∧ At t true stage recovery φ.lock :=
  ⟨place.2.1, place.1, rfl, place.2.2⟩

theorem At.unlock {stage : Stage} {recovery : Recovery} {φ : Local}
    (still : stage ≠ .starting ∧ stage ≠ .releasing) (place : At t true stage recovery φ) :
    At t false stage recovery φ.unlock := by
  obtain ⟨locked, -, stageIs, recoveryIs, hold⟩ := place
  exact ⟨locked, rfl, by simp [Local.unlock, stageIs, still], recoveryIs, hold⟩

theorem At.calls {command : Bool} {stage : Stage} {recovery : Recovery} {φ : Local}
    (place : At .lifecycle command stage recovery φ) : φ.calls .lifecycle :=
  ⟨rfl, by simpa using place.1⟩

/-- A program that ends under the lock where it began. -/
theorem follows_withCommand_at {p : Program α} {stage : Stage} {recovery : Recovery}
    (R : α → Evidence → Prop) (still : stage ≠ .starting ∧ stage ≠ .releasing)
    (inner : (runtimeFlow config).Follows t p
      (fun φ => At t true stage recovery φ ∧ φ.drained = true)
      (fun a φ => (At t true stage recovery φ ∧ φ.drained = true) ∧ R a φ.evidence)
      fun e φ => φ.command = true ∧ E e φ.unlock) :
    (runtimeFlow config).Follows t (withCommand t p) (At t false stage recovery)
      (fun a φ => (At t false stage recovery φ ∧ φ.drained = true) ∧ R a φ.evidence) E :=
  follows_withCommand (fun _ place => ⟨place.2.1, place.lock.2, rfl⟩)
    (inner.conseq (fun _ holds => holds)
      (fun _ _ holds => ⟨holds.1.1.2.1, ⟨holds.1.1.unlock still, holds.1.2⟩, holds.2⟩)
      fun _ _ holds => holds)

end Primitives

/-! ## Feedback -/

section Feedback

variable {config : RuntimeConfig} {t : Thread} {A : Local → Prop} {E : String → Local → Prop}
  (steady : Steady A)

include steady

theorem follows_requestFeedbackParallel :
    (runtimeFlow config).Follows t (requestFeedbackParallel config) A
      (fun answer φ => A φ ∧ (answer.1 = true → φ.evidence = .fed)) E :=
  follows_act (fun _ => rfl) (fun _ _ => rfl) (fun _ _ => trivial) fun _ _ φ holds =>
    ⟨steady φ _ holds, fun complete => if_pos complete⟩

theorem follows_validate (missing : List MissingMotor) (complete : Bool) :
    (runtimeFlow config).Follows t (validateFreshFeedbackSnapshot config missing)
      (fun φ => A φ ∧ (complete = true → φ.evidence = .fed))
      (fun valid φ => A φ ∧ ((complete && valid) = true → Fresh φ)) E := by
  refine follows_act (fun _ => rfl) (fun _ _ => rfl) (fun _ _ => trivial) ?_
  rintro i s φ ⟨holds, fed⟩
  refine ⟨steady φ _ holds, fun valid => ?_⟩
  obtain ⟨completed, valid⟩ := Bool.and_eq_true_iff.mp valid
  have everyFresh : allFresh config i = true := by
    simp only [allFresh, RuntimeConfig.handles, List.all_eq_true, List.mem_map] at valid ⊢
    rintro motor ⟨record, member, rfl⟩
    have snapshot := valid record member
    simp only [snapshotValid, Bool.and_eq_true] at snapshot
    exact snapshot.1.1
  simp only [Local.step, Fresh, fed completed, Evidence.read, everyFresh, if_true]
  split_ifs <;> simp

theorem follows_requestAndValidate :
    (runtimeFlow config).Follows t (requestAndValidate config) A
      (fun valid φ => A φ ∧ (valid = true → Fresh φ)) E := by
  refine (follows_requestFeedbackParallel steady).bind fun ⟨complete, missing⟩ => ?_
  refine .ite (fun completed => ?_) fun _ => .ret fun φ holds => ⟨holds.1, fun impossible => nomatch impossible⟩
  refine (follows_validate steady missing complete).conseq (fun _ holds => holds) ?_ fun _ _ h => h
  exact fun valid φ holds => ⟨holds.1, fun yes => holds.2 (by simp [completed, yes])⟩

theorem follows_batchRefresh :
    (runtimeFlow config).Follows t (batchRefresh config) A
      (fun valid φ => A φ ∧ (valid = true → Fresh φ)) E := by
  refine (follows_requestFeedbackParallel steady).bind fun ⟨complete, missing⟩ => ?_
  exact (follows_validate steady missing complete).bind fun _ => .ret fun _ holds => holds

omit steady in
/-- A reading that finds every motor disabled after a complete transaction proves it. -/
theorem read_proved {φ : Local} {i : Input} (evidence : Fresh φ) (disabled : allDisabled config i = true) :
    φ.evidence.read config i = .proved := by
  rcases evidence with evidence | evidence <;> simp [evidence, Evidence.read, disabled]

omit steady in
theorem allDisabled_of_cached {i : Input}
    (power : cachedMotorPowerState i config.handles = .disabled) : allDisabled config i = true := by
  simp only [cachedMotorPowerState] at power
  split_ifs at power with known
  cases enabled : config.handles.any fun motor => reads i motor fun state => state.statusCode = 1 with
  | true =>
    simp only [enabled] at power
    split at power <;> simp_all
  | false =>
    simp only [allDisabled, List.all_eq_true]
    intro motor member
    have readable : reads i motor (fun state => state.statusCode ≤ 1) = true := by
      by_contra unreadable
      exact known (List.any_eq_true.mpr ⟨motor, member, by simpa using unreadable⟩)
    have other := List.any_eq_false.mp enabled motor member
    simp only [reads, Option.any_eq_true, decide_eq_true_eq, not_exists] at readable other ⊢
    obtain ⟨state, found, low⟩ := readable
    have notOne := other state
    exact ⟨state, found, by simp only [found, true_and] at notOne; omega⟩

theorem follows_readMotorPower (sure : Bool) :
    (runtimeFlow config).Follows t (readMotorPower config config.handles)
      (fun φ => A φ ∧ (sure = true → Fresh φ))
      (fun power φ => A φ ∧ (sure = true → power = .disabled → φ.evidence = .proved)) E := by
  refine follows_act (fun _ => rfl) (fun _ _ => rfl) (fun _ _ => trivial) ?_
  rintro i s φ ⟨holds, evidence⟩
  exact ⟨steady φ _ holds, fun yes disabled =>
    read_proved (evidence yes) (allDisabled_of_cached disabled)⟩

omit steady in
theorem follows_refreshTransportHealth :
    (runtimeFlow config).Follows t (refreshTransportHealth config) A (fun _ => A) E :=
  follows_act (fun _ => rfl) (fun _ _ => rfl) (fun _ _ => trivial) fun _ _ _ holds => holds

end Feedback

/-! ## Holds and safety transitions -/

section Send

variable {config : RuntimeConfig} {t : Thread} {A : Local → Prop} {E : String → Local → Prop}
  {path : Path} {since : ℕ} {disabled : List Handle}

theorem follows_send {commands : List Command} (steady : Steady A)
    (fits : ∀ φ, A φ → φ.command = true ∧ φ.sends t path since disabled commands) :
    (runtimeFlow config).Follows t (send path since disabled commands) A (fun _ => A) E :=
  follows_act (fun _ => rfl) (fun _ _ => rfl) fits fun _ _ φ holds => steady φ _ holds

theorem follows_sendNonempty {commands : List Command} (steady : Steady A)
    (fits : ∀ φ, A φ → φ.command = true ∧ φ.sends t path since disabled commands) :
    (runtimeFlow config).Follows t (sendNonempty path since disabled commands) A (fun _ => A) E :=
  .ite (fun _ => .ret fun _ holds => holds) fun _ => follows_send steady fits

theorem follows_sendBySide {commands : List Command} (steady : Steady A)
    (fits : ∀ side φ, A φ → φ.command = true ∧
      φ.sends t path since disabled (onSide config side commands)) :
    (runtimeFlow config).Follows t (sendBySide config path since disabled commands) A (fun _ => A) E := by
  refine (follows_sendNonempty steady (fits 0)).bind fun _ => ?_
  exact (follows_sendNonempty steady (fits 1)).bind fun _ => .ret fun _ holds => holds

end Send

section Safety

variable {config : RuntimeConfig} {t : Thread} {E : String → Local → Prop} {stage : Stage}
  {recovery : Recovery}

variable (still : stage ≠ .starting ∧ stage ≠ .releasing)

include still

theorem follows_sendArmHold (snapshot : HoldSnapshot) :
    (runtimeFlow config).Follows t (sendArmHold config snapshot)
      (fun φ => At t true stage recovery φ ∧ φ.held = some snapshot)
      (fun _ φ => φ.command = true ∧ At t false stage recovery φ.unlock) E := by
  have steady : Steady fun φ => At t true stage recovery φ ∧ φ.held = some snapshot :=
    fun _ _ holds => holds
  have ends : ∀ φ, At t true stage recovery φ ∧ φ.held = some snapshot →
      φ.command = true ∧ At t false stage recovery φ.unlock :=
    fun φ holds => ⟨holds.1.2.1, holds.1.unlock still⟩
  have fits : ∀ commands, (∀ c ∈ commands, c ∈ addressable snapshot.disabled snapshot.commands) →
      ∀ φ, At t true stage recovery φ ∧ φ.held = some snapshot → φ.command = true ∧
        φ.sends t .armHold snapshot.since snapshot.disabled commands :=
    fun commands member φ holds => ⟨holds.1.2.1, snapshot, holds.2, rfl, rfl, member⟩
  refine .bind (Q := fun _ φ => At t true stage recovery φ ∧ φ.held = some snapshot)
    (follows_act (fun _ => rfl) (fun _ _ => rfl) (fun _ holds => holds.1.2.1) fun _ _ _ holds => holds)
    fun current => ?_
  refine .ite (fun _ => .ret ends) fun _ => .ite (fun _ => ?_) fun _ => .ite (fun _ => .ret ends)
    fun _ => ?_
  · refine (follows_sendBySide steady fun side => fits _ ?_).bind fun _ => .ret ends
    exact fun c member => (List.mem_filter.mp member).1
  · exact (follows_sendNonempty steady (fits _ fun _ member => member)).bind fun _ => .ret ends

theorem follows_sendGripperHoldOnce :
    (runtimeFlow config).Follows t (sendGripperHoldOnce config t) (At t false stage recovery)
      (fun _ => At t false stage recovery) E := by
  refine .bind (Q := fun snapshot φ => At t false stage recovery φ ∧ φ.gripped = some snapshot)
    (follows_act (fun _ => rfl) (fun _ _ => rfl) (fun _ _ => trivial) fun _ _ _ holds => ⟨holds, rfl⟩)
    fun snapshot => .ite (fun _ => .ret fun _ holds => holds.1) fun _ => ?_
  refine follows_withCommand (B := fun φ => At t true stage recovery φ ∧ φ.gripped = some snapshot)
    (fun φ holds => ⟨holds.1.2.1, holds.1.lock.2, holds.2⟩) ?_
  have steady : ∀ sendable, Steady fun φ => (At t true stage recovery φ ∧ φ.gripped = some snapshot) ∧
      φ.sendable = sendable := fun _ _ _ holds => holds
  refine .bind (Q := fun sendable φ => (At t true stage recovery φ ∧ φ.gripped = some snapshot) ∧
    φ.sendable = sendable) ?_ fun sendable => ?_
  · refine follows_act (fun _ => rfl) (fun _ _ => rfl) (fun _ holds => holds.1.2.1) ?_
    exact fun i s φ holds => ⟨holds, by simp [Local.step, Local.sendableAt, holds.2]⟩
  have fits : ∀ commands, (∀ c ∈ commands, c ∈ sendable) → ∀ φ,
      (At t true stage recovery φ ∧ φ.gripped = some snapshot) ∧ φ.sendable = sendable →
      φ.command = true ∧ φ.sends t .gripperHold snapshot.since snapshot.disabled commands :=
    fun commands member φ holds => ⟨holds.1.1.2.1, snapshot, holds.1.2, rfl, rfl, fun c inside =>
      holds.2 ▸ member c inside⟩
  refine .bind (Q := fun _ φ => (At t true stage recovery φ ∧ φ.gripped = some snapshot) ∧
    φ.sendable = sendable) (.ite (fun _ => ?_) fun _ => ?_) fun sent => ?_
  · exact follows_sendBySide (steady sendable) fun side => fits _ fun c member =>
      (List.mem_filter.mp member).1
  · exact follows_sendNonempty (steady sendable) (fits _ fun _ member => member)
  · refine .bind (follows_update (fun _ => rfl) (fun _ _ => rfl)
      (fun φ holds => ⟨holds.1.1.2.1, holds.2.symm⟩) ?_) fun _ => .ret fun φ holds => holds
    exact fun _ _ φ holds => ⟨holds.1.1.2.1, holds.1.1.unlock still⟩

theorem follows_sendSafeHoldOnce :
    (runtimeFlow config).Follows t (sendSafeHoldOnce config t) (At t false stage recovery)
      (fun _ => At t false stage recovery) E := by
  refine .bind (Q := fun snapshot φ => At t false stage recovery φ ∧ φ.held = snapshot)
    (follows_act (fun _ => rfl) (fun _ _ => rfl) (fun _ _ => trivial) fun _ _ _ holds => ⟨holds, rfl⟩)
    fun snapshot => ?_
  cases snapshot with
  | none => exact .ret fun _ holds => holds.1
  | some snapshot =>
    refine .bind (Q := fun _ => At t false stage recovery) ?_ fun sent => ?_
    · refine follows_withCommand (B := fun φ => At t true stage recovery φ ∧ φ.held = some snapshot)
        (fun φ holds => ⟨holds.1.2.1, holds.1.lock.2, holds.2⟩) (follows_sendArmHold still snapshot)
    · cases sent with
      | none => exact .ret fun _ holds => holds
      | some sent =>
        refine .ite (fun _ => .ret fun _ holds => holds) fun _ => ?_
        exact (follows_sendGripperHoldOnce still).bind fun _ => .ret fun _ holds => holds

theorem follows_prepareProtectiveHold (owner : t = .lifecycle → stage = .estopping) :
    (runtimeFlow config).Follows t (prepareProtectiveHold config t) (At t false stage recovery)
      (fun _ => At t false stage recovery) E := by
  refine .bind (Q := fun hold φ => At t false stage recovery { φ with hold := none } ∧
    φ.hold = some hold) ?_ fun hold => ?_
  · refine follows_withCommand (fun φ holds => holds.lock) (follows_act (fun _ => rfl) (fun _ _ => rfl)
      (fun _ holds => holds.2.1) ?_)
    intro i s φ holds
    have place := holds.unlock still
    exact ⟨holds.2.1, ⟨place.1, rfl, place.2.2.1, place.2.2.2.1, rfl⟩, rfl⟩
  · refine .bind (follows_update (fun _ => rfl) (fun _ _ => rfl) ?_ ?_) fun _ => .ret fun _ holds => holds
    · exact fun φ holds => ⟨holds.2, fun isLifecycle => ⟨holds.1.1.trans (by simp [isLifecycle]),
        holds.1.2.2.1.trans (owner isLifecycle)⟩⟩
    · exact fun _ _ φ holds => holds.1

theorem follows_enterFault (owner : t = .lifecycle → stage = .estopping ∧ recovery = .none)
    (allowProtectiveHold : Bool) :
    (runtimeFlow config).Follows t (enterFault config t allowProtectiveHold)
      (At t false stage recovery) (fun _ => At t false .idle recovery) E := by
  refine .bind (Q := fun _ => At t false stage recovery) (.ite (fun _ => ?_) fun _ => ?_) fun _ => ?_
  · exact follows_prepareProtectiveHold still fun isLifecycle => (owner isLifecycle).1
  · exact .ret fun _ holds => holds
  · refine follows_withCommand (fun φ holds => holds.lock) (follows_update (fun _ => rfl) (fun _ _ => rfl)
      ?_ ?_)
    · exact fun φ holds => ⟨holds.2.1, fun isLifecycle => ⟨by simp [holds.1, isLifecycle],
        holds.2.2.1.trans (owner isLifecycle).1, holds.2.2.2.1.trans (owner isLifecycle).2⟩⟩
    · intro _ _ φ holds
      have place : At t true .idle recovery φ.leave := ⟨holds.1, holds.2.1, rfl, holds.2.2.2⟩
      exact ⟨holds.2.1, place.unlock ⟨by simp, by simp⟩⟩

theorem follows_enterSafeHoldFromFeedback (other : t ≠ .lifecycle) :
    (runtimeFlow config).Follows t (enterSafeHoldFromFeedback config t) (At t false stage recovery)
      (fun _ => At t false stage recovery) E := by
  refine .bind follows_glance fun mode => ?_
  cases mode with
  | none => exact .ret fun _ holds => holds
  | some mode =>
    refine follows_withCommand (fun φ holds => holds.lock) ?_
    refine .bind (Q := fun positions φ => At t true stage recovery φ ∧ φ.read = positions.1 ∧
      ∀ commands, positions.2 = some commands → ∀ c ∈ commands, c.origin = positions.1) ?_ fun positions => ?_
    · refine follows_act (fun _ => rfl) (fun _ _ => rfl) (fun _ holds => ⟨other, holds.2.1⟩) ?_
      intro i s φ holds
      refine ⟨holds, rfl, fun commands found c member => ?_⟩
      simp only [currentPositions] at found
      split_ifs at found
      rw [← Option.some.inj found] at member
      obtain ⟨motor, -, rfl⟩ := List.mem_map.mp member
      rfl
    · obtain ⟨since, _ | commands⟩ := positions
      · exact .ret fun φ holds => ⟨holds.1.2.1, holds.1.unlock still⟩
      · refine follows_act (fun _ => rfl) (fun _ _ => rfl) ?_ ?_
        · exact fun φ holds => ⟨⟨other, holds.1.2.1⟩, holds.2.1, holds.2.2 commands rfl⟩
        · exact fun _ _ φ holds => ⟨holds.1.2.1, holds.1.unlock still⟩

end Safety

theorem follows_enterSafeStopOrFault {config : RuntimeConfig} {E : String → Local → Prop} {stage : Stage}
    (still : stage ≠ .starting ∧ stage ≠ .releasing) :
    (runtimeFlow config).Follows .worker (enterSafeStopOrFault config .worker)
      (At .worker false stage .none) (fun _ => At .worker false .idle .none) E := by
  have owner : Thread.worker = .lifecycle → stage = .estopping ∧ Recovery.none = .none :=
    fun same => nomatch same
  refine .bind (Q := fun stopped => At .worker false (if stopped then .idle else stage) .none) ?_ ?_
  · refine .bind (follows_prepareProtectiveHold still fun same => nomatch same) fun available => .ite (fun _ => ?_) fun _ => ?_
    · refine follows_withCommand (fun φ holds => holds.lock) (follows_act (fun _ => rfl) (fun _ _ => rfl)
        (fun φ holds => ⟨rfl, holds.2.1⟩) ?_)
      intro i s φ holds
      cases stopped : s.enterSafeStop.1 with
      | false =>
        simp only [Local.step, stopped]
        exact ⟨holds.2.1, holds.unlock still⟩
      | true =>
        simp only [Local.step, stopped, if_true]
        have place : At .worker true .idle .none φ.leave := ⟨holds.1, holds.2.1, rfl, holds.2.2.2⟩
        exact ⟨holds.2.1, place.unlock ⟨by simp, by simp⟩⟩
    · exact .ret fun _ holds => holds
  · intro stopped
    cases stopped with
    | true => exact .when (fun impossible => nomatch impossible) fun _ _ holds => holds
    | false => exact .when (fun _ => follows_enterFault still owner true) fun impossible => nomatch impossible

end MotorDrive.Runtime
