import MotorDrive.Runtime.Disable

/-!
# Recovering

What `recover` leaves behind, for every answer of the backend and every interleaving with the other
threads.  Its homing loop takes success from a list that is also empty when the loop makes no turn;
`recover_outcome_iff` says that this is the only way in which it can return without having homed the arm.
-/

namespace MotorDrive.Runtime

open Threads SafetyRuntime Proc

section Stages

variable {config : RuntimeConfig} {t : Thread}

/-! ## The sections of the stages -/

/-- A section outside the homing loop and the failure handler that does not write the emergency stop latch. -/
def Site.staged (site : Site) : Bool :=
  !site.writesEmergency && site ≠ .homingClock && site ≠ .zeroRead && site ≠ .recoverFailClear

theorem staged_act {α : Type} {site : Site} {f : Input → SafetyRuntime → α × SafetyRuntime}
    (staged : site.staged = true) : (act site f).Every fun label _ _ => label.staged = true :=
  every_act staged

theorem staged_establishDisableBarrier :
    (establishDisableBarrier config).Every fun label _ _ => label.staged = true :=
  every_bind (staged_act rfl) fun _ => every_ite trivial <| every_bind (staged_act rfl) fun _ =>
    every_ite trivial (every_bind (staged_act rfl) fun _ => trivial)

theorem staged_confirmUntilDeadline {turns : ℕ} :
    (confirmUntilDeadline config turns).Every fun label _ _ => label.staged = true := by
  have turn : (confirmTurn config).Every fun label _ _ => label.staged = true :=
    every_bind (staged_act rfl) fun _ => staged_act rfl
  induction turns with
  | zero => exact turn
  | succ turns ih => exact every_bind turn fun _ => every_ite trivial ih

theorem staged_disableHardware : (disableHardware config t).Every fun label _ _ => label.staged = true := by
  refine every_withCommand rfl rfl (every_bind staged_establishDisableBarrier fun _ => every_bind (staged_act rfl)
    fun _ => every_bind ?_ fun _ => trivial)
  refine every_bind (staged_act rfl) fun _ => every_bind staged_confirmUntilDeadline fun _ => every_ite trivial ?_
  exact every_bind (staged_act rfl) fun _ => every_bind (staged_act rfl) fun _ =>
    every_bind staged_confirmUntilDeadline fun _ => trivial

theorem staged_disable : (disable config).Every fun label _ _ => label.staged = true :=
  every_bind (every_actThrow rfl) fun _ => every_bind staged_disableHardware fun _ =>
    every_bind (staged_act rfl) fun _ => every_ite trivial trivial

theorem staged_connect : (connect config).Every fun label _ _ => label.staged = true := by
  refine every_bind (every_actThrow rfl) fun started => ?_
  cases started with
  | none => trivial
  | some revalidating =>
    refine every_bind (staged_act rfl) fun _ => every_bind (staged_act rfl) fun _ => every_ite ?_
      (every_bind (staged_act rfl) fun _ => trivial)
    exact every_bind (staged_act rfl) fun _ => every_ite (every_bind (staged_act rfl) fun _ => trivial) (staged_act rfl)

theorem staged_send {path : Path} {since : ℕ} {disabled : List Handle} {commands : List Command} :
    (send path since disabled commands).Every fun label _ _ => label.staged = true :=
  staged_act rfl

theorem staged_confirmEnabledFeedback {turns : ℕ} {retried : List Handle} :
    (confirmEnabledFeedback config turns retried).Every fun label _ _ => label.staged = true := by
  induction turns generalizing retried with
  | zero => trivial
  | succ turns ih =>
    exact every_bind (staged_act rfl) fun _ => every_bind (staged_act rfl) fun _ => every_ite trivial <|
      every_ite trivial <| every_bind (every_ite trivial (staged_act rfl)) fun _ => every_ite ih trivial

theorem staged_sendInitialHold {mode : ControlMode} :
    (sendInitialHold mode).Every fun label _ _ => label.staged = true := by
  refine every_withCommand rfl rfl (every_bind ⟨rfl, fun _ _ => trivial⟩ fun _ => every_bind staged_send fun _ =>
    every_ite trivial ?_)
  exact every_bind (staged_act rfl) fun _ => every_bind ⟨rfl, fun _ _ => trivial⟩ fun _ =>
    every_bind (every_ite trivial staged_send) fun _ => every_ite trivial trivial

theorem staged_enable {mode : ControlMode} : (enable config mode).Every fun label _ _ => label.staged = true := by
  have seed : ∀ required, (withCommand .lifecycle (initializeArmMailboxFromFeedback config mode required)).Every
      fun label _ _ => label.staged = true := fun _ => every_withCommand rfl rfl (every_actThrow rfl)
  have enabled : ∀ since, (initializeEnabledState mode since).Every fun label _ _ => label.staged = true :=
    fun _ => ⟨rfl, fun _ _ => trivial⟩
  have grippers : ∀ activate, (seedGripperTargetsFromFeedback config activate).Every
      fun label _ _ => label.staged = true := fun _ => every_withCommand rfl rfl (staged_act rfl)
  refine every_bind (every_actThrow rfl) fun since => every_ite ?_ (every_tryCatch ?_ fun error => ?_)
  · refine every_tryCatch (every_bind (seed true) fun _ => every_bind (enabled since) fun _ =>
      every_bind (grippers false) fun _ => staged_act rfl) fun _ => every_bind (staged_act rfl) fun _ => trivial
  · refine every_bind (staged_act rfl) fun _ => every_ite trivial <| every_bind (seed false) fun _ =>
      every_bind (every_ite trivial (staged_act rfl)) fun _ => every_ite trivial <|
      every_bind (enabled since) fun _ => every_bind (grippers true) fun _ => every_bind staged_sendInitialHold
      fun _ => every_bind (staged_act rfl) fun _ => every_bind (staged_act rfl) fun _ =>
      every_bind staged_confirmEnabledFeedback fun _ => every_ite trivial (staged_act rfl)
  · exact every_bind (every_withCommand rfl rfl (staged_act rfl)) fun _ => every_bind staged_disableHardware fun _ =>
      every_bind (staged_act rfl) fun _ => trivial

theorem staged_installJointPosition {mode : ControlMode} {token : ℕ} {client : Bool} :
    (installJointPosition config t mode token client).Every fun label _ _ => label.staged = true :=
  every_withCommand rfl rfl (every_actThrow rfl)

theorem staged_recoverDisable {connectFirst : Bool} :
    (recoverDisable config connectFirst).Every fun label _ _ => label.staged = true :=
  every_bind (every_when staged_connect) fun _ => every_bind (staged_act rfl) fun _ =>
    every_bind (every_withCommand rfl rfl (staged_act rfl)) fun _ => every_bind staged_disableHardware fun _ =>
    every_ite (staged_act rfl) trivial

theorem staged_recoverFaults : (recoverFaults config).Every fun label _ _ => label.staged = true :=
  every_ite trivial (every_bind (staged_act rfl) fun _ => every_ite (staged_act rfl) trivial)

theorem staged_recoverHealth : (recoverHealth config).Every fun label _ _ => label.staged = true := by
  refine every_bind (staged_act rfl) fun _ => every_ite trivial <| every_bind (staged_act rfl) fun _ =>
    every_ite trivial <| every_bind ?_ fun _ => every_ite trivial (every_ite trivial ?_)
  · exact every_bind (staged_act rfl) fun _ => every_bind (staged_act rfl) fun _ => every_bind (staged_act rfl)
      fun _ => trivial
  · exact every_bind (staged_act rfl) fun _ => every_ite trivial <| every_bind (staged_act rfl) fun _ =>
      every_ite trivial trivial

end Stages

/-! ## The homing of the arm -/

/-- No section is of the homing loop or writes the emergency stop latch. -/
def Staged (trace : Trace) : Prop := ∀ taken ∈ trace, taken.label.staged = true

/-- The last section reads every arm motor at its calibrated zero, after a complete transaction. -/
def ReachedZero (config : RuntimeConfig) (trace : Trace) : Prop :=
  ∃ earlier transaction stopped reading, trace = earlier ++ [transaction, stopped, reading] ∧
    transaction.label = .feedback ∧ requestComplete config transaction.input = true ∧
    reading.label = .zeroRead ∧
    config.armMotors.all (fun motor => reachedZero config reading.input motor.motor) = true

/-- A normal return of `enable` is part of the trace. -/
def Enabled (config : RuntimeConfig) (R : Interference) (trace : Trace) : Prop :=
  ∃ first enabling rest mode s s', trace = first ++ (enabling ++ rest) ∧
    (enable config mode).Runs R s enabling (.ok ()) s'

/-- The steps of `recover` that follow its first section, up to its last one: they fail before the homing
loop, in it, or go on to `disable`. -/
inductive Homing (config : RuntimeConfig) (R : Interference) : Trace → Except String Unit → Prop
  | before {trace : Trace} {error : String} (staged : Staged trace) : Homing config R trace (.error error)
  | during {first homing : Trace} {clock : Taken SafetyRuntime Input Site} {error : String}
    {s s' : SafetyRuntime} (staged : Staged first) (label : clock.label = .homingClock)
    (runs : (Runtime.homing config clock.input.budget true).Runs R s homing (.error error) s') :
    Homing config R (first ++ clock :: homing) (.error error)
  | after {first homing disabling : Trace} {clock : Taken SafetyRuntime Input Site} {r : Except String Unit}
    {s₁ s₂ s₃ s₄ : SafetyRuntime} (staged : Staged first) (enabled : Enabled config R first)
    (label : clock.label = .homingClock)
    (homes : (Runtime.homing config clock.input.budget true).Runs R s₁ homing (.ok ()) s₂)
    (disables : (disable config).Runs R s₃ disabling r s₄) :
    Homing config R (first ++ clock :: (homing ++ disabling)) r

section Homing

variable {config : RuntimeConfig} {R : Interference} {s s' : SafetyRuntime} {trace more : Trace}
  {r : Except String Unit}

theorem Staged.nil : Staged [] := fun _ member => absurd member List.not_mem_nil

theorem Staged.append (first : Staged trace) (second : Staged more) : Staged (trace ++ more) :=
  List.forall_mem_append.mpr ⟨first, second⟩

theorem Staged.cons {taken : Taken SafetyRuntime Input Site} (label : taken.label.staged = true)
    (rest : Staged trace) : Staged (taken :: trace) :=
  List.forall_mem_cons.mpr ⟨label, rest⟩

theorem Enabled.prepend (enabled : Enabled config R more) : Enabled config R (trace ++ more) := by
  obtain ⟨first, enabling, rest, mode, s, s', rfl, runs⟩ := enabled
  exact ⟨trace ++ first, enabling, rest, mode, s, s', by simp, runs⟩

theorem Enabled.append (enabled : Enabled config R trace) : Enabled config R (trace ++ more) := by
  obtain ⟨first, enabling, rest, mode, s, s', rfl, runs⟩ := enabled
  exact ⟨first, enabling, rest ++ more, mode, s, s', by simp, runs⟩

theorem Homing.prepend (staged : Staged trace) (homing : Homing config R more r) :
    Homing config R (trace ++ more) r := by
  cases homing with
  | before staged' => exact .before (staged.append staged')
  | during staged' label runs =>
    rw [← List.append_assoc]
    exact .during (staged.append staged') label runs
  | after staged' enabled label homes disables =>
    rw [← List.append_assoc]
    exact .after (staged.append staged') enabled.prepend label homes disables

theorem ReachedZero.prepend (reached : ReachedZero config more) : ReachedZero config (trace ++ more) := by
  obtain ⟨earlier, transaction, stopped, reading, rfl, found⟩ := reached
  exact ⟨trace ++ earlier, transaction, stopped, reading, by simp, found⟩

/-- A homing loop that ends well reads the zero in its last turn, unless it makes no turn. -/
theorem runs_homing {turns : ℕ} {reached : Bool}
    (runs : (homing config turns reached).Runs R s trace (.ok ()) s') :
    turns = 0 ∧ reached = true ∧ trace = [] ∨ turns ≠ 0 ∧ ReachedZero config trace := by
  induction turns generalizing s trace reached with
  | zero =>
    cases reached with
    | true => exact .inl ⟨rfl, rfl, runs.1⟩
    | false => cases runs.2.1
  | succ turns ih =>
    refine .inr ⟨Nat.succ_ne_zero turns, ?_⟩
    simp only [homing, look, bind_eq, pure_eq] at runs
    obtain ⟨i, found, rest, -, rfl, asked⟩ := runs_feedback_bind.mp runs
    by_cases complete : requestComplete config i = true
    · simp only [complete, Bool.not_true, Bool.false_eq_true, if_false] at asked
      obtain ⟨j, found', rest, -, rfl, looked⟩ := runs_lookAt_bind.mp asked
      split_ifs at looked with stopped
      · cases looked.2.1
      · obtain ⟨k, found'', rest, -, rfl, turned⟩ := runs_lookAt_bind.mp looked
        split_ifs at turned with arrived
        · obtain ⟨rfl, -⟩ := turned
          exact ⟨[], _, _, _, rfl, rfl, complete, rfl, arrived⟩
        · obtain ⟨-, impossible, -⟩ | ⟨-, later⟩ := ih turned
          · cases impossible
          · change ReachedZero config ([⟨.feedback, i, found⟩, ⟨.look, j, found'⟩, ⟨.zeroRead, k, found''⟩] ++ _)
            exact later.prepend
    · simp only [complete, Bool.not_false, if_true] at asked
      cases asked.2.1

theorem runs_recoverMotion (runs : (recoverMotion config).Runs R s trace r s') :
    Homing config R trace r := by
  simp only [recoverMotion, look, bind_eq] at runs
  obtain ⟨i, found, rest, -, rfl, looked⟩ := runs_lookAt_bind.mp runs
  obtain ⟨⟨⟩, middle, enabling, rest, enables, later, rfl⟩ | ⟨error, enables, rfl⟩ := runs_bind.mp looked
  · have staged : Staged enabling := enables.every staged_enable
    obtain ⟨⟨⟩, middle', installing, rest, installs, later', rfl⟩ | ⟨error, installs, rfl⟩ := runs_bind.mp later
    · have staged' : Staged installing := installs.every staged_installJointPosition
      obtain ⟨j, found', rest, -, rfl, clocked⟩ := runs_lookAt_bind.mp later'
      have first : Staged (⟨.look, i, found⟩ :: (enabling ++ installing)) := .cons rfl (staged.append staged')
      have enabled : Enabled config R (⟨.look, i, found⟩ :: (enabling ++ installing)) :=
        ⟨[⟨.look, i, found⟩], enabling, installing, _, _, _, rfl, enables⟩
      have split : ∀ rest, (⟨.look, i, found⟩ :: (enabling ++ (installing ++ ⟨.homingClock, j, found'⟩ :: rest)) :
          Trace) = (⟨.look, i, found⟩ :: (enabling ++ installing)) ++ ⟨.homingClock, j, found'⟩ :: rest := by
        simp
      rw [split]
      obtain ⟨⟨⟩, middle'', homing, rest, homes, disables, rfl⟩ | ⟨error, homes, rfl⟩ := runs_bind.mp clocked
      · exact .after first enabled rfl homes disables
      · exact .during first rfl homes
    · have staged' : Staged rest := installs.every staged_installJointPosition
      exact .before (.cons rfl (staged.append staged'))
  · exact .before (.cons rfl (enables.every staged_enable))

/-- The steps of `recover`: they fail, or their last section commits the recovery. -/
theorem runs_recoverSteps {connectFirst : Bool}
    (runs : (recoverSteps config connectFirst).Runs R s trace r s') :
    (∃ error, r = .error error ∧ Homing config R trace r) ∨
      r = .ok () ∧ ∃ body done, trace = body ++ [done] ∧ done.label = .recoverDone ∧
        Homing config R body (.ok ()) ∧ s' = after config .lifecycle .recoverDone done.input done.found := by
  simp only [recoverSteps, recoverHome, bind_eq] at runs
  obtain ⟨⟨⟩, m₁, disabling, rest, disables, later, rfl⟩ | ⟨error, disables, rfl⟩ := runs_bind.mp runs
  · have staged₁ : Staged disabling := disables.every staged_recoverDisable
    obtain ⟨⟨⟩, m₂, clearing, rest, clears, later₂, rfl⟩ | ⟨error, clears, rfl⟩ := runs_bind.mp later
    · have staged₂ : Staged clearing := clears.every staged_recoverFaults
      obtain ⟨⟨⟩, m₃, checking, rest, checks, later₃, rfl⟩ | ⟨error, checks, rfl⟩ := runs_bind.mp later₂
      · have staged₃ : Staged checking := checks.every staged_recoverHealth
        obtain ⟨i, found, rest, -, rfl, moved⟩ := runs_update_bind.mp later₃
        have staged : Staged (disabling ++ (clearing ++ (checking ++ [⟨.recoverReady, i, found⟩]))) :=
          staged₁.append (staged₂.append (staged₃.append (.cons rfl .nil)))
        have split : ∀ rest : Trace, disabling ++ (clearing ++ (checking ++ ⟨.recoverReady, i, found⟩ :: rest)) =
            disabling ++ (clearing ++ (checking ++ [⟨.recoverReady, i, found⟩])) ++ rest := by
          simp
        rw [split]
        obtain ⟨⟨⟩, m₄, homing, rest, homes, later₄, rfl⟩ | ⟨error, homes, rfl⟩ := runs_bind.mp moved
        · obtain ⟨j, done, -, rfl, rfl, rfl⟩ := runs_act.mp later₄
          exact .inr ⟨rfl, _, _, (List.append_assoc _ _ _).symm, rfl, (runs_recoverMotion homes).prepend staged, rfl⟩
        · exact .inl ⟨error, rfl, (runs_recoverMotion homes).prepend staged⟩
      · exact .inl ⟨error, rfl, .before (staged₁.append (staged₂.append (checks.every staged_recoverHealth)))⟩
    · exact .inl ⟨error, rfl, .before (staged₁.append (clears.every staged_recoverFaults))⟩
  · exact .inl ⟨error, rfl, .before (disables.every staged_recoverDisable)⟩

/-! ## The failure handler -/

/-- `fail_recovery` disables the product and leaves a latched fault. -/
theorem runs_failRecovery {error : String} (runs : (failRecovery config error).Runs R s trace r s') :
    r = .error error ∧ ∃ lock clear rest hardware last disabled, trace = lock :: clear :: rest ∧
      lock.label = .lock ∧ clear.label = .recoverFailClear ∧ Staged rest ∧
      (∃ first, rest = first ++ (hardware ++ [last]) ∧ actions first = []) ∧
      HardwareDisable config hardware disabled ∧ last.label = .recoverFailed disabled ∧
      s' = after config .lifecycle (.recoverFailed disabled) last.input last.found := by
  simp only [failRecovery, bind_eq] at runs
  obtain ⟨⟨⟩, m₁, clearing, rest, clears, later, rfl⟩ | ⟨error, clears, rfl⟩ := runs_bind.mp runs
  · obtain ⟨i, locked, j, left, start, middle, body, rfl, cleared, -⟩ := runs_withCommand clears
    obtain ⟨k, clear, -, rfl, -, -⟩ := runs_act.mp cleared
    obtain ⟨l, fault, rest, -, rfl, faulted⟩ := runs_update_bind.mp later
    obtain ⟨disabled, m₂, hardware, rest, disables, ends, rfl⟩ | ⟨error, disables, rfl⟩ := runs_bind.mp faulted
    · obtain ⟨confirmed, same, hardware_disable⟩ := runs_disableHardware disables
      obtain rfl := Except.ok.inj same
      obtain ⟨m, last, rest, -, rfl, rfl, rfl, rfl⟩ := runs_update_bind.mp ends
      refine ⟨rfl, _, _, _, hardware, _, disabled, rfl, rfl, rfl, .cons rfl (.cons rfl ?_),
        ⟨[⟨.unlock, j, left⟩, ⟨.recoverFailFault, l, fault⟩], rfl, rfl⟩, hardware_disable, rfl, rfl⟩
      have staged : Staged hardware := disables.every staged_disableHardware
      exact staged.append (.cons rfl .nil)
    · obtain ⟨confirmed, impossible, -⟩ := runs_disableHardware disables
      cases impossible
  · obtain ⟨i, locked, j, left, start, middle, body, rfl, cleared, -⟩ := runs_withCommand clears
    obtain ⟨k, clear, -, -, impossible, -⟩ := runs_act.mp cleared
    cases impossible

/-! ## recover -/

/-- The disable that a trace begins with is confirmed: its barrier succeeds, and its last reading leaves no
motor unconfirmed. -/
def DisableConfirms (config : RuntimeConfig) (trace : Trace) : Prop :=
  Drained config (beforeAction trace) ∧ ∃ i j, LastTurn trace i j ∧ remaining config i j = []

/-- The sections after the homing loop's deadline is set, up to the failure handler. -/
def homingPart (trace : Trace) : Trace :=
  (trace.dropWhile fun taken => taken.label ≠ .homingClock).tail.takeWhile fun taken =>
    taken.label ≠ .recoverFailClear

/-- The deadline of the homing loop has passed before its first turn, and the product is then disabled. -/
def SkipsHoming (config : RuntimeConfig) (trace : Trace) : Prop :=
  ∃ clock ∈ lastInput (· = .homingClock) trace, clock.budget = 0 ∧ DisableConfirms config (homingPart trace)

/-- After its enable phase the call reads every arm motor at its calibrated zero; then the product is
disabled. -/
def Homed (config : RuntimeConfig) (R : Interference) (trace : Trace) : Prop :=
  ∃ first homing disabling rest, trace = first ++ (homing ++ (disabling ++ rest)) ∧ Enabled config R first ∧
    ReachedZero config homing ∧ HardwareDisable config disabling true

/-- What `recover` promises. -/
structure RecoverOutcome (config : RuntimeConfig) (R : Interference) (trace : Trace)
    (r : Except String Unit) (s' : SafetyRuntime) : Prop where
  homed : r = .ok () → Homed config R trace
  ready : r = .ok () → s'.state = .ready ∧ s'.flags.faultLatched = false ∧
    s'.flags.motorFaultLatched = false ∧ s'.flags.emergencyStopLatched = false ∧
    s'.flags.disableConfirmed = true
  failed : ∀ error, r = .error error → ∀ entry ∈ trace.head?, entry.found.startRecover.isOk →
    s'.state = .fault ∧ s'.flags.faultLatched = true ∧
      s'.flags.emergencyStopLatched = entry.found.flags.emergencyStopLatched ∧
      ∀ motor ∈ config.handles, ∃ before action later, actions trace = before ++ action :: later ∧
        action.disables motor = true ∧ ∀ action ∈ later, action.enables motor = false

theorem disableConfirms_snoc {taken : Taken SafetyRuntime Input Site} (plain : taken.label.plain = true) :
    DisableConfirms config (trace ++ [taken]) ↔ DisableConfirms config trace := by
  simp only [Site.plain, Bool.and_eq_true, Option.isNone_iff_eq_none, decide_eq_true_eq,
    Bool.not_eq_true'] at plain
  obtain ⟨⟨⟨action, feedback⟩, drain⟩, confirms⟩ := plain
  refine and_congr ?_ (exists_congr fun i => exists_congr fun j => and_congr_left' ?_)
  · by_cases none : actions trace = []
    · have here : beforeAction trace = trace := by
        have whole : beforeAction (trace ++ []) = trace ++ beforeAction [] := beforeAction_prepend none
        simpa [beforeAction] using whole
      have alone : beforeAction [taken] = [taken] := by simp [beforeAction, action]
      rw [beforeAction_prepend none, here, alone]
      simp [Drained, drain, feedback]
    · rw [beforeAction_of_actions none]
  · refine ⟨fun last => ⟨?_, ?_⟩, fun last => last.snoc feedback confirms⟩
    · simpa [lastInput_append, lastInput_cons, feedback] using last.transaction
    · simpa [lastInput_append, lastInput_cons, confirms] using last.reading

/-- A hardware disable counts as confirmed exactly when its answers confirm it. -/
theorem HardwareDisable.confirms_iff {confirmed : Bool} (disabled : HardwareDisable config trace confirmed) :
    confirmed = true ↔ DisableConfirms config trace := by
  obtain ⟨-, i, j, last, confirmed_iff⟩ := disabled
  rw [confirmed_iff]
  refine and_congr_right' ⟨fun none => ⟨i, j, last, none⟩, ?_⟩
  rintro ⟨i', j', last', none⟩
  obtain ⟨rfl, rfl⟩ := last.unique last'
  exact none

/-- `disable` returns normally exactly when its answers confirm it. -/
theorem disable_confirms (runs : (disable config).Runs R s trace r s') :
    (r = .ok () → HardwareDisable config trace true) ∧ (r = .ok () ↔ DisableConfirms config trace) := by
  by_cases connected : ∀ entry ∈ trace.head?, entry.found.state ≠ .disconnected
  · obtain ⟨confirmed, disabled, rfl, -⟩ := runs_disable runs connected
    have returned : (if confirmed then .ok () else .error "disable confirmation failed" :
        Except String Unit) = .ok () ↔ confirmed = true := by
      cases confirmed <;> simp
    exact ⟨fun ok => returned.mp ok ▸ disabled, returned.trans disabled.confirms_iff⟩
  · simp only [disable, bind_eq, pure_eq] at runs
    obtain ⟨i, found, rest, -, rfl, started⟩ := runs_actThrow_bind runs
    have disconnected : found.state = .disconnected := by simpa using connected
    have refused : found.tick.startDisable.1 = .error "cannot disable a disconnected runtime" := by
      simp [startDisable, disconnected]
    obtain ⟨preserve, admitted, -⟩ | ⟨error, -, rfl, rfl, -⟩ := started
    · cases refused.symm.trans admitted
    · have unconfirmed : ¬ DisableConfirms config [⟨.disableStart, i, found⟩] := by
        rintro ⟨-, i', j', last, -⟩
        have none := last.transaction
        simp [lastInput_cons] at none
      exact ⟨by rintro ⟨⟩, iff_of_false (by rintro ⟨⟩) unconfirmed⟩

/-! ### The homing loop in the trace -/

/-- A section of the homing loop. -/
def Site.homes (site : Site) : Bool :=
  !site.writesEmergency && site ≠ .homingClock && site ≠ .recoverFailClear

theorem homes_homing {turns : ℕ} {reached : Bool} :
    (homing config turns reached).Every fun label _ _ => label.homes = true := by
  induction turns generalizing reached with
  | zero => exact every_ite trivial trivial
  | succ turns ih =>
    exact every_bind ⟨rfl, fun _ _ => trivial⟩ fun _ => every_ite trivial <|
      every_bind ⟨rfl, fun _ _ => trivial⟩ fun _ => every_ite trivial <|
      every_bind ⟨rfl, fun _ _ => trivial⟩ fun _ => every_ite trivial ih

theorem homes_of_staged {site : Site} (staged : site.staged = true) : site.homes = true := by
  simp only [Site.staged, Site.homes, Bool.and_eq_true] at *
  exact ⟨⟨staged.1.1.1, staged.1.1.2⟩, staged.2⟩

theorem homes_disable (runs : (disable config).Runs R s trace r s') : ∀ taken ∈ trace, taken.label.homes = true :=
  fun taken member => homes_of_staged (runs.every staged_disable taken member)

/-- The clock is read once. -/
theorem lastInput_clock {clock : Taken SafetyRuntime Input Site} (label : clock.label = .homingClock)
    (later : ∀ taken ∈ more, taken.label ≠ .homingClock) :
    lastInput (· = .homingClock) (trace ++ clock :: more) = some clock.input := by
  rw [lastInput_append, lastInput_cons, lastInput_eq_none fun taken member => by simp [later taken member]]
  simp [label]

theorem homingPart_clock {clock : Taken SafetyRuntime Input Site} (staged : Staged trace)
    (label : clock.label = .homingClock) :
    homingPart (trace ++ clock :: more) = more.takeWhile fun taken => taken.label ≠ .recoverFailClear := by
  have before : ∀ taken ∈ trace, (decide (taken.label ≠ .homingClock)) = true := by
    intro taken member
    have passes := staged taken member
    simp only [Site.staged, Bool.and_eq_true] at passes
    exact passes.1.1.2
  rw [homingPart, List.dropWhile_append_of_pos before, List.dropWhile_cons_of_neg (by simp [label])]
  rfl

theorem ne_zeroRead {site : Site} (staged : site.staged = true) : site ≠ .zeroRead := by
  simp only [Site.staged, Bool.and_eq_true, decide_eq_true_eq] at staged
  exact staged.1.2

theorem ne_clock {site : Site} (homes : site.homes = true) : site ≠ .homingClock := by
  simp only [Site.homes, Bool.and_eq_true, decide_eq_true_eq] at homes
  exact homes.1.2

theorem ne_fail {site : Site} (homes : site.homes = true) : site ≠ .recoverFailClear := by
  simp only [Site.homes, Bool.and_eq_true, decide_eq_true_eq] at homes
  exact homes.2

/-- A recovery that fails after a loop without a turn does not disable the product. -/
theorem Homing.not_skips {lock clear : Taken SafetyRuntime Input Site} {error : String}
    (homing : Homing config R trace (.error error)) (locks : lock.label = .lock)
    (clears : clear.label = .recoverFailClear) (staged : Staged more) :
    ¬ SkipsHoming config (trace ++ lock :: clear :: more) := by
  have handler : ∀ taken ∈ lock :: clear :: more, taken.label ≠ .homingClock := by
    refine List.forall_mem_cons.mpr ⟨by simp [locks], List.forall_mem_cons.mpr ⟨by simp [clears], ?_⟩⟩
    exact fun taken member => ne_clock (homes_of_staged (staged taken member))
  rintro ⟨clock', last, zero, confirms⟩
  cases homing with
  | before staged' =>
    have never : ∀ taken ∈ trace ++ lock :: clear :: more, taken.label ≠ .homingClock :=
      List.forall_mem_append.mpr ⟨fun taken member => ne_clock (homes_of_staged (staged' taken member)), handler⟩
    rw [lastInput_eq_none fun taken member => by simp [never taken member]] at last
    cases last
  | @during first homing clock _ _ _ staged' label runs =>
    have never : ∀ taken ∈ homing ++ lock :: clear :: more, taken.label ≠ .homingClock :=
      List.forall_mem_append.mpr ⟨fun taken member => ne_clock (runs.every homes_homing taken member), handler⟩
    rw [List.append_assoc, List.cons_append, lastInput_clock label never] at last
    obtain rfl := Option.some.inj last
    rw [zero] at runs
    cases runs.2.1
  | @after first homing disabling clock _ _ _ _ _ staged' enabled label homes disables =>
    have quiet : ∀ taken ∈ homing ++ disabling, taken.label.homes = true :=
      List.forall_mem_append.mpr ⟨homes.every homes_homing, homes_disable disables⟩
    have never : ∀ taken ∈ homing ++ disabling ++ lock :: clear :: more, taken.label ≠ .homingClock :=
      List.forall_mem_append.mpr ⟨fun taken member => ne_clock (quiet taken member), handler⟩
    rw [List.append_assoc, List.cons_append, lastInput_clock label never] at last
    obtain rfl := Option.some.inj last
    rw [zero] at homes
    obtain ⟨-, -, rfl⟩ | ⟨impossible, -⟩ := runs_homing homes
    · have part : homingPart (first ++ clock :: ([] ++ disabling ++ lock :: clear :: more)) = disabling ++ [lock] := by
        rw [homingPart_clock staged' label, List.nil_append, List.takeWhile_append_of_pos fun taken member => by
          simpa using ne_fail (homes_disable disables taken member), List.takeWhile_cons_of_pos (by simp [locks]),
          List.takeWhile_cons_of_neg (by simp [clears])]
      rw [List.append_assoc, List.cons_append, part, disableConfirms_snoc (by rw [locks]; rfl)] at confirms
      cases (disable_confirms disables).2.mpr confirms
    · exact impossible rfl

/-- A recovery that succeeds has homed the arm exactly when its loop made a turn. -/
theorem Homing.skips_iff {done : Taken SafetyRuntime Input Site} (homing : Homing config R trace (.ok ()))
    (label : done.label = .recoverDone) :
    SkipsHoming config (trace ++ [done]) ↔ ¬ Homed config R (trace ++ [done]) := by
  cases homing with
  | @after first homing disabling clock _ _ _ _ _ staged enabled clocks homes disables =>
    obtain ⟨confirmed, confirms_iff⟩ := disable_confirms disables
    have quiet : ∀ taken ∈ homing ++ disabling ++ [done], taken.label ≠ .homingClock ∧
        taken.label ≠ .recoverFailClear := by
      refine List.forall_mem_append.mpr ⟨List.forall_mem_append.mpr ⟨?_, ?_⟩, by simp [label]⟩
      · exact fun taken member => ⟨ne_clock (homes.every homes_homing taken member),
          ne_fail (homes.every homes_homing taken member)⟩
      · exact fun taken member => ⟨ne_clock (homes_disable disables taken member),
          ne_fail (homes_disable disables taken member)⟩
    have last : lastInput (· = .homingClock) (first ++ clock :: (homing ++ disabling ++ [done])) =
        some clock.input := lastInput_clock clocks fun taken member => (quiet taken member).1
    have part : homingPart (first ++ clock :: (homing ++ disabling ++ [done])) = homing ++ disabling ++ [done] := by
      rw [homingPart_clock staged clocks]
      exact List.takeWhile_eq_self_iff.mpr fun taken member => by simp [(quiet taken member).2]
    rw [List.append_assoc, List.cons_append]
    obtain ⟨zero, -, rfl⟩ | ⟨turns, reached⟩ := runs_homing homes
    · refine iff_of_true ⟨_, last, zero, ?_⟩ ?_
      · rw [part, List.nil_append, disableConfirms_snoc (by rw [label]; rfl)]
        exact confirms_iff.mp rfl
      · rintro ⟨first', homing', disabling', rest', same, -, ⟨earlier, transaction, stopped, reading, rfl, -, -, zeroes,
          -⟩, -⟩
        have unread : ∀ taken ∈ first ++ clock :: ([] ++ disabling ++ [done]), taken.label ≠ .zeroRead := by
          refine List.forall_mem_append.mpr ⟨fun taken member => ne_zeroRead (staged taken member),
            List.forall_mem_cons.mpr ⟨by simp [clocks], List.forall_mem_append.mpr ⟨fun taken member => ?_,
              by simp [label]⟩⟩⟩
          exact ne_zeroRead (disables.every staged_disable taken member)
        rw [same] at unread
        exact unread reading (by simp) zeroes
    · refine iff_of_false ?_ ?_
      · rintro ⟨clock', found, zero, -⟩
        obtain rfl := Option.some.inj (last.symm.trans found)
        exact turns zero
      · refine not_not.mpr ⟨first ++ [clock], homing, disabling, [done], by simp, enabled.append, reached,
          confirmed rfl⟩

theorem emergency_of_homes {site : Site} (homes : site.homes = true) : site.writesEmergency = false := by
  simp only [Site.homes, Bool.and_eq_true, Bool.not_eq_true'] at homes
  exact homes.1.1

theorem Staged.emergency (staged : Staged trace) : ∀ taken ∈ trace, taken.label.writesEmergency = false :=
  fun taken member => emergency_of_homes (homes_of_staged (staged taken member))

theorem Homing.emergency (homing : Homing config R trace r) :
    ∀ taken ∈ trace, taken.label.writesEmergency = false := by
  cases homing with
  | before staged => exact staged.emergency
  | during staged label runs =>
    refine List.forall_mem_append.mpr ⟨staged.emergency, List.forall_mem_cons.mpr ⟨by rw [label]; rfl, ?_⟩⟩
    exact fun taken member => emergency_of_homes (runs.every homes_homing taken member)
  | after staged enabled label homes disables =>
    refine List.forall_mem_append.mpr ⟨staged.emergency, List.forall_mem_cons.mpr ⟨by rw [label]; rfl,
      List.forall_mem_append.mpr ⟨?_, ?_⟩⟩⟩
    · exact fun taken member => emergency_of_homes (homes.every homes_homing taken member)
    · exact fun taken member => emergency_of_homes (homes_disable disables taken member)

/-- `recover` keeps its promises exactly when it does not skip its homing loop. -/
theorem recover_outcome_iff (runs : (recover config).Runs (Around config) s trace r s') :
    RecoverOutcome config (Around config) trace r s' ↔ ¬ SkipsHoming config trace := by
  obtain ⟨φ', linked, -⟩ := (follows_recover { locked := true }
    ⟨rfl, rfl, rfl, rfl, rfl⟩).linked runs
  simp only [recover, lookThrow, lookThrowAt, bind_eq] at runs
  obtain ⟨i, entry, rest, between, rfl, ⟨connectFirst, admitted, begun⟩ | ⟨error, refused, rfl, rfl, rfl⟩⟩ :=
    runs_actThrow_bind runs
  · obtain ⟨error, middle, steps, handler, failed, handled, rfl⟩ | ⟨⟨⟩, steps, rfl⟩ := runs_tryCatch.mp begun
    · obtain ⟨error', same, homing⟩ | ⟨impossible, -⟩ := runs_recoverSteps failed
      · obtain rfl := Except.error.inj same
        obtain ⟨rfl, lock, clear, later, hardware, last, disabled, rfl, locks, clears, staged, ⟨first, rfl, quiet⟩,
          disables, fails, rfl⟩ := runs_failRecovery handled
        have whole : Homing config (Around config) ([⟨.look, i, entry⟩] ++ steps) (.error error) :=
          homing.prepend (.cons rfl .nil)
        refine iff_of_true ⟨by rintro ⟨⟩, by rintro ⟨⟩, fun error' thrown entry' first' _ => ?_⟩ (whole.not_skips locks clears staged)
        obtain rfl := Option.some.inj first'
        refine ⟨rfl, rfl, ?_, fun motor member => ?_⟩
        · have unwritten : ∀ taken ∈ [⟨.look, i, entry⟩] ++ steps ++ lock :: clear :: (first ++ (hardware ++ [last])),
              taken.label.writesEmergency = false := by
            refine List.forall_mem_append.mpr ⟨whole.emergency, List.forall_mem_cons.mpr ⟨by rw [locks]; rfl,
              List.forall_mem_cons.mpr ⟨by rw [clears]; rfl, ?_⟩⟩⟩
            exact staged.emergency
          have kept := linked.keeps (fun _ _ _ around => between_emergency around) fun taken member =>
            (after_footprint config .lifecycle taken.label taken.input taken.found).emergency (unwritten taken member)
          exact kept.trans (between_emergency between).symm
        · obtain ⟨rest, addressed, none⟩ := disables.attempted.last
          refine ⟨actions steps, .disable config.handles, rest, ?_, by simpa [PowerAction.disables] using member,
            fun action member => none action member motor⟩
          simp [Site.action?, locks, clears, quiet, addressed, fails]
      · cases impossible
    · obtain ⟨error, impossible, -⟩ | ⟨-, body, done, rfl, label, homing, rfl⟩ := runs_recoverSteps steps
      · cases impossible
      · have whole : Homing config (Around config) ([⟨.look, i, entry⟩] ++ body) (.ok ()) :=
          homing.prepend (.cons rfl .nil)
        have skips_iff := whole.skips_iff label
        constructor
        · intro outcome skips
          exact skips_iff.mp skips (outcome.homed rfl)
        · intro homes
          exact ⟨fun _ => not_not.mp fun homed => homes (skips_iff.mpr homed), fun _ => ⟨rfl, rfl, rfl, rfl, rfl⟩,
            by rintro _ ⟨⟩⟩
  · refine iff_of_true ⟨by rintro ⟨⟩, by rintro ⟨⟩, fun error' thrown entry' first admitted => ?_⟩ ?_
    · obtain rfl := Option.some.inj first
      have same : entry.startRecover = .error error := refused
      rw [same] at admitted
      cases admitted
    · rintro ⟨clock, last, -⟩
      simp [lastInput_cons] at last

end Homing

/-- What the backend answers until `recover` has enabled the robot. -/
def Scenario.untilEnabled : List Input :=
  List.replicate 44 (Scenario.powered 0) ++ List.replicate 6 (Scenario.powered 1)

set_option maxRecDepth 4000 in
/-- A robot that is already at its zero. -/
theorem recover_outcome_iff_homed : ∃ s trace r s',
    (recover Scenario.config).Runs (Around Scenario.config) s trace r s' ∧ r = .ok () ∧
      (RecoverOutcome Scenario.config (Around Scenario.config) trace r s' ↔
        ¬ SkipsHoming Scenario.config trace) := by
  obtain ⟨s, trace, r, s', runs, seen⟩ := exists_call_among Scenario.config (fun _ _ _ _ => true)
    (fun _ _ _ _ _ => trivial) .recover (Scenario.call .connect 7 (Scenario.powered 0))
    ((Scenario.untilEnabled ++ List.replicate 4 (Scenario.powered 1) ++
      List.replicate 11 (Scenario.powered 0)).map ([], ·))
    (fun _ r _ => decide (r = .ok ())) (b := true) (by rfl)
  exact ⟨s, trace, r, s', runs, of_decide_eq_true seen, recover_outcome_iff runs⟩

set_option maxRecDepth 4000 in
/-- The deadline passes before the first turn of the homing loop: `recover` returns normally and has read no
position after it enabled the robot. -/
theorem recover_skips : ∃ s trace r s',
    (recover Scenario.config).Runs (Around Scenario.config) s trace r s' ∧
      ¬ RecoverOutcome Scenario.config (Around Scenario.config) trace r s' := by
  obtain ⟨s, trace, r, s', runs, seen⟩ := exists_call_among Scenario.config (fun _ _ _ _ => true)
    (fun _ _ _ _ _ => trivial) .recover (Scenario.call .connect 7 (Scenario.powered 0))
    ((Scenario.untilEnabled ++ { budget := 0 } :: List.replicate 11 (Scenario.powered 0)).map ([], ·))
    (fun trace r _ => (decide (r = .ok ()), trace.all fun taken => taken.label ≠ .zeroRead)) (b := (true, true))
    (by rfl)
  obtain ⟨returned, unread⟩ := Prod.mk.inj seen
  refine ⟨s, trace, r, s', runs, fun outcome => ?_⟩
  obtain ⟨first, homing, disabling, rest, rfl, -, ⟨earlier, transaction, stopped, reading, rfl, -, -, zeroes, -⟩,
    -⟩ := outcome.homed (of_decide_eq_true returned)
  have missed := List.all_eq_true.mp unread reading (by simp)
  simp [zeroes] at missed

end MotorDrive.Runtime
