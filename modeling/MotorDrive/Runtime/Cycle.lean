import MotorDrive.Runtime.Frame

/-!
# Cycles and transactions

A control cycle looks at the state once, at its beginning, and then works under `command_mutex_` until it
has sent its frame.  A transaction of a lifecycle call sets `hardware_transition_`, so that no cycle begins
any more, and waits for `command_mutex_` once, so that no cycle is left.  `Ordered` collects what follows
for every run: a transaction that has held the mutex has no cycle beside it, and the states in which
nothing is sent are left by four sections of lifecycle calls only.
-/

namespace MotorDrive.Runtime

open Threads SafetyRuntime

namespace Site

/-- The section may write a commanding state over one in which nothing is sent. -/
def commands : Site → Bool
  | .initializeEnabled _ _ | .motorPowerCommit _ | .batchCommit _ _ _ _ _ | .gravityStart _
  | .bimanualStart _ => true
  | _ => false

end Site

/-- The states in which nothing is sent are left by no other section. -/
theorem calm_after (config : RuntimeConfig) {t : Thread} {site : Site} (i : Input) {s : SafetyRuntime}
    (other : site.commands = false) (calm : s.state.commanding = false) :
    (after config t site i s).state.commanding = false := by
  have footprint := after_footprint config t site i s
  by_cases control : site.movesControl = true
  · obtain same | ⟨enabled, -⟩ | ⟨running, -⟩ := after_control config t i s control
    · rw [same, calm]
    · simp [enabled, SafetyState.commanding] at calm
    · simp [running, SafetyState.commanding] at calm
  · cases site with
    | connectCommit faulted disabled =>
      change (if _ then SafetyState.fault else SafetyState.ready).commanding = false
      split_ifs <;> rfl
    | disableCommit confirmed preserveFault =>
      change (if _ then SafetyState.ready else SafetyState.fault).commanding = false
      split_ifs <;> rfl
    | finishMaintenance operation code latchFault =>
      have state := state_finishMaintenance s.tick (currentMotorFaultReported config i) operation code
        latchFault
      change (after config t (.finishMaintenance operation code latchFault) i s).state = _ at state
      rw [state]
      split_ifs
      · rfl
      · rfl
      · exact calm
    | enterFault allowProtectiveHold armHoldAvailable =>
      have state := state_enterFault s.tick allowProtectiveHold armHoldAvailable
        (currentMotorFaultReported config i)
      change (after config t (.enterFault allowProtectiveHold armHoldAvailable) i s).state = _ at state
      rw [state]
      split_ifs
      · exact calm
      · rfl
    | enterSafeStop =>
      have state := state_enterSafeStop s.tick
      change (after config t .enterSafeStop i s).state = _ at state
      rw [state]
      split_ifs
      · exact calm
      · rfl
    | _ =>
      first
      | rfl
      | (cases other; done)
      | exact absurd rfl control
      | (rw [footprint.state rfl]; exact calm)

/-- The transaction sets `hardware_transition_` in a state in which cycles may be running. -/
def Stage.transacts : Stage → Bool
  | .disabling _ | .powering | .batching _ _ _ => true
  | _ => false

/-- The transaction runs in a state in which nothing is sent. -/
def Stage.calms : Stage → Bool
  | .connecting _ | .maintaining _ | .rollingBack | .closing => true
  | _ => false

/-- `recover` has latched the fault and has not homed the robot yet. -/
def Recovery.calms : Recovery → Bool
  | .frozen | .cleared | .failing => true
  | _ => false

/-- The lifecycle thread is where nothing is sent. -/
def Local.calms (φ : Local) : Prop :=
  φ.stage.calms = true ∨ φ.recovery.calms = true ∨ φ.settled = true

/-- How cycles and transactions exclude each other. -/
structure Ordered (s : SafetyRuntime) (φ : Thread → Local) : Prop where
  cycling : ∀ t, (φ t).command = false → (φ t).cycle = none
  transacting : (φ .lifecycle).stage.transacts = true →
    s.flags.hardwareTransition = true ∨ s.state.commanding = false
  drained : (φ .lifecycle).stage.transacts = true ∨ (φ .lifecycle).recovery = .failing →
    (φ .lifecycle).drained = true → (φ .worker).cycle = none
  calm : (φ .lifecycle).calms → s.state.commanding = false
  alone : (φ .lifecycle).recovery.calms = true → (φ .lifecycle).stage = .idle

theorem step_cycle (config : RuntimeConfig) (φ : Local) {site : Site} (i : Input) (s : SafetyRuntime)
    (other : site ≠ .cycleStart) :
    (φ.step config site i s).cycle = none ∨ (φ.step config site i s).cycle = φ.cycle := by
  cases site <;>
    first
    | exact .inr rfl
    | exact .inl rfl
    | exact absurd rfl other
    | (simp only [Local.step]; split_ifs <;> first | exact .inr rfl | exact .inl rfl)
    | (simp only [Local.step]; split <;> exact .inr rfl)

/-- A cycle is captured under `command_mutex_` and dropped with it. -/
theorem cycling_step {config : RuntimeConfig} {t : Thread} {φ : Local} {site : Site} {i : Input}
    {s : SafetyRuntime} (quiet : φ.command = false → φ.cycle = none) (fits : φ.fits t site)
    (free : (φ.step config site i s).command = false) : (φ.step config site i s).cycle = none := by
  by_cases special : site = .lock ∨ site = .unlock ∨ site = .cycleStart
  · obtain rfl | rfl | rfl := special
    · cases free
    · rfl
    · have command : φ.command = true := fits.2
      rw [step_command config φ i s (by simp), command] at free
      cases free
  · push Not at special
    rw [step_command config φ i s ⟨special.1, special.2.1⟩] at free
    obtain dropped | same := step_cycle config φ i s special.2.2
    · exact dropped
    · exact same.trans (quiet free)

/-- A section that begins a transaction of the three sets `hardware_transition_`; any other leaves the
transaction as it is. -/
theorem stage_transacts {config : RuntimeConfig} {site : Site} {i : Input} {s : SafetyRuntime} {φ : Local}
    (fits : φ.fits .lifecycle site) (transacts : (φ.step config site i s.tick).stage.transacts = true) :
    (φ.step config site i s.tick).stage = φ.stage ∨
      (φ.step config site i s.tick).drained = false ∧
        (after config .lifecycle site i s).flags.hardwareTransition = true := by
  by_cases moves : site.movesStage = true
  · cases site with
    | unlock =>
      simp only [Local.step, Local.unlock] at transacts ⊢
      split_ifs at transacts ⊢ with begun
      · cases transacts
      · exact .inl rfl
    | disableStart =>
      by_cases disconnected : s.state = .disconnected
      · exact .inl ((stage_disableStart config φ i s.tick).trans (if_pos disconnected))
      · refine .inr ⟨?_, ?_⟩
        · simp [Local.step, startDisable, disconnected, Local.enter]
        · simp [after, effect, startDisable, disconnected]
    | motorPowerStart =>
      by_cases starts : s.state = .ready ∨ s.state = .partiallyEnabled
      · have connected : s.state ≠ .disconnected := by rcases starts with state | state <;> simp [state]
        refine .inr ⟨?_, ?_⟩
        · simp [Local.step, startMotorPower, connected, starts, Local.enter]
        · simp [after, effect, startMotorPower, connected, starts]
      · exact .inl ((stage_motorPowerStart config φ i s.tick).trans (if_neg starts))
    | batchStart selected enabled =>
      simp only [Local.step, after, effect, startBatch]
      split_ifs <;> simp [Local.enter]
    | enableCheck =>
      rw [stage_enableCheck] at transacts
      split_ifs at transacts
      · cases transacts
      · simp [fits.2.1, Stage.transacts] at transacts
    | enableSeed mode requireEnabled =>
      obtain ⟨since, -, -, stage⟩ := fits
      simp only [Local.step] at transacts
      split at transacts <;> simp_all [Stage.transacts]
    | connectCheck =>
      obtain same | ⟨-, ⟨-, begun⟩ | ⟨-, begun⟩⟩ := stage_connectCheck config φ i s.tick
      · exact .inl same
      · simp [begun, Stage.transacts] at transacts
      · simp [begun, Stage.transacts] at transacts
    | estopLatch =>
      rw [stage_estopLatch] at transacts
      split_ifs at transacts
      · simp [fits.2.1, Stage.transacts] at transacts
      · cases transacts
    | maintenancePrecheck operation =>
      rw [stage_maintenancePrecheck] at transacts
      split_ifs at transacts
      · cases transacts
      · simp [fits.1.2.1, Stage.transacts] at transacts
    | finishMaintenance operation code latchFault =>
      rw [stage_finishMaintenance] at transacts
      split_ifs at transacts <;> cases transacts
    | gravityCheck =>
      obtain same | ⟨begun, -⟩ := stage_gravityCheck config φ i s.tick
      · exact .inl same
      · simp [begun, Stage.transacts] at transacts
    | stopGravityCheck =>
      obtain same | begun := stage_stopGravityCheck config φ i s.tick
      · exact .inl same
      · simp [begun, Stage.transacts] at transacts
    | bimanualCheck =>
      obtain same | ⟨begun, -⟩ := stage_bimanualCheck config φ i s.tick
      · exact .inl same
      · simp [begun, Stage.transacts] at transacts
    | enterSafeStop => cases fits.1
    | workerDecide => cases fits.1
    | feedbackFailed | holdFailed => cases fits
    | _ =>
      first
      | (cases moves; done)
      | cases transacts
  · exact .inl (step_stage config φ i s.tick (by simpa using moves))

/-- In such a transaction the lifecycle thread neither touches `hardware_transition_` nor commands until
it ends the transaction. -/
theorem quiet_of_transacts {config : RuntimeConfig} {site : Site} {i : Input} {s : SafetyRuntime}
    {φ : Local} (fits : φ.fits .lifecycle site) (transacts : φ.stage.transacts = true)
    (stays : (φ.step config site i s.tick).stage = φ.stage) :
    (after config .lifecycle site i s).flags.hardwareTransition = s.flags.hardwareTransition ∧
      (after config .lifecycle site i s).state = s.state := by
  have footprint := after_footprint config .lifecycle site i s
  by_cases writes : site.writesFlags = true
  · cases site with
    | healthWrite healthy faults => exact ⟨rfl, rfl⟩
    | disableCommit _ _ | motorPowerCommit _ | motorPowerFailed | batchCommit _ _ _ _ _ =>
      simp [← stays, Local.step, Local.leave, Stage.transacts] at transacts
    | safeHoldInstall since mode commands => exact absurd rfl fits.1.1
    | enterSafeStop | enterDegraded | workerDecide | gripperSent _ _ => exact nomatch fits.1
    | cycleSent mode time frame => exact nomatch fits.2.choose_spec.1.1
    | retryTimeout => exact absurd rfl fits
    | connectFailed | connectCommit _ _ | enableAbandoned | enableFailed | finishMaintenance _ _ _ | enterFault _ _ =>
      exfalso
      revert transacts
      cases stage : φ.stage <;> simp_all [Local.fits, Stage.transacts]
    | _ =>
      first
      | (cases writes; done)
      | (exfalso; revert transacts; simp_all [Local.fits, Local.begins, Local.holds, Stage.transacts])
  · have flags := footprint.flags (by simpa using writes)
    exact ⟨by rw [flags], congrArg Flags.state flags⟩

theorem transacting_own {config : RuntimeConfig} {site : Site} {i : Input} {s : SafetyRuntime} {φ : Local}
    (transacting : φ.stage.transacts = true →
      s.flags.hardwareTransition = true ∨ s.state.commanding = false)
    (fits : φ.fits .lifecycle site) (transacts : (φ.step config site i s.tick).stage.transacts = true) :
    (after config .lifecycle site i s).flags.hardwareTransition = true ∨
      (after config .lifecycle site i s).state.commanding = false := by
  obtain same | ⟨-, begun⟩ := stage_transacts fits transacts
  · rw [same] at transacts
    obtain ⟨transition, state⟩ := quiet_of_transacts fits transacts same
    rw [transition, state]
    exact transacting transacts
  · exact .inl begun

theorem step_drained (config : RuntimeConfig) (φ : Local) {site : Site} (i : Input) (s : SafetyRuntime)
    (drained : (φ.step config site i s).drained = true) : site = .lock ∨ φ.drained = true := by
  cases site <;>
    first
    | exact .inl rfl
    | exact .inr drained
    | cases drained
    | (simp only [Local.step] at drained; split_ifs at drained <;> first | exact .inr drained | cases drained)
    | (simp only [Local.step] at drained; split at drained <;> first | exact .inr drained | cases drained)

/-- What the lifecycle thread keeps of `Ordered` by itself. -/
structure Calm (s : SafetyRuntime) (φ : Local) : Prop where
  calm : φ.calms → s.state.commanding = false
  alone : φ.recovery.calms = true → φ.stage = .idle

/-- Transactions in which nothing is sent begin where nothing is sent. -/
theorem stage_calms {config : RuntimeConfig} {site : Site} {i : Input} {s : SafetyRuntime} {φ : Local}
    (calm : Calm s φ) (fits : φ.fits .lifecycle site)
    (calms : (φ.step config site i s.tick).stage.calms = true) :
    φ.stage.calms = true ∨ (after config .lifecycle site i s).state.commanding = false := by
  have footprint := after_footprint config .lifecycle site i s
  by_cases moves : site.movesStage = true
  · cases site with
    | enableFailed => exact .inr rfl
    | stopStart =>
      rw [footprint.state rfl]
      exact .inr (calm.calm (.inr (.inr fits.2)))
    | connectCheck =>
      rw [footprint.state rfl]
      obtain same | ⟨-, ⟨disconnected, -⟩ | ⟨revalidates, -⟩⟩ := stage_connectCheck config φ i s.tick
      · exact .inl (same ▸ calms)
      · rw [state_tick] at disconnected
        exact .inr (by rw [disconnected]; rfl)
      · have fault : s.state = .fault := by
          simp only [SafetyRuntime.revalidates, Bool.and_eq_true, decide_eq_true_eq] at revalidates
          exact revalidates.1.1.1.1
        exact .inr (by rw [fault]; rfl)
    | maintenancePrecheck operation =>
      rw [footprint.state rfl]
      rw [stage_maintenancePrecheck] at calms
      split_ifs at calms with starts
      · obtain ⟨ready | ⟨-, fault, -⟩, -⟩ := starts
        · exact .inr (by rw [show s.state = _ from ready]; rfl)
        · exact .inr (by rw [show s.state = _ from fault]; rfl)
      · exact .inl calms
    | _ =>
      first
      | (cases moves; done)
      | cases calms
      | (simp only [Local.step, Local.enter, Local.leave, Local.unlock] at calms
         repeat' split at calms
         all_goals first | exact .inl calms | cases calms)
  · exact .inl (step_stage config φ i s.tick (by simpa using moves) ▸ calms)

theorem recovery_calms {config : RuntimeConfig} {site : Site} {i : Input} {s : SafetyRuntime} {φ : Local}
    (fits : φ.fits .lifecycle site) (calms : (φ.step config site i s.tick).recovery.calms = true) :
    φ.recovery.calms = true ∨ φ.stage = .idle ∧ (site = .recoverFreeze ∨ site = .recoverFailFault) := by
  by_cases moves : site.movesRecovery = true
  · cases site with
    | recoverFreeze => exact .inr ⟨fits.2.1, .inl rfl⟩
    | recoverFailFault => exact .inr ⟨fits.2, .inr rfl⟩
    | recoverClear => exact .inl (by rw [fits.2]; rfl)
    | _ => first | cases calms | cases moves
  · exact .inl (step_recovery config φ i s.tick (by simpa using moves) ▸ calms)

theorem stage_idle {config : RuntimeConfig} {site : Site} {i : Input} {s : SafetyRuntime} {φ : Local}
    (fits : φ.fits .lifecycle site) (idle : φ.stage = .idle) (recovery : φ.recovery.calms = true) :
    (φ.step config site i s).stage = .idle := by
  by_cases moves : site.movesStage = true
  · cases site with
    | unlock =>
      simp only [Local.step, Local.unlock, idle]
      split_ifs <;> rfl
    | enableCheck | disableStart =>
      obtain ⟨-, -, none | homing⟩ := fits
      · simp [none, Recovery.calms] at recovery
      · simp [homing, Recovery.calms] at recovery
    | enterFault hold available => rfl
    | enterSafeStop => cases fits.1
    | workerDecide => cases fits.1
    | feedbackFailed | holdFailed => cases fits
    | _ =>
      first
      | (cases moves; done)
      | rfl
      | (exfalso; revert recovery; simp_all [Local.fits, Local.begins, Local.holds, Recovery.calms])
  · rw [step_stage config φ i s (by simpa using moves), idle]

/-- Where `settled` is set nothing is sent. -/
theorem settled_calms {config : RuntimeConfig} {site : Site} {i : Input} {s : SafetyRuntime} {φ : Local}
    (settled : (φ.step config site i s.tick).settled = true) :
    φ.settled = true ∧ site.commands = false ∨
      (after config .lifecycle site i s).state.commanding = false := by
  have footprint := after_footprint config .lifecycle site i s
  cases site with
  | disableStart =>
    by_cases disconnected : s.state = .disconnected
    · exact .inr (by rw [footprint.state rfl, disconnected]; rfl)
    · simp only [Local.step, startDisable] at settled
      exact .inl ⟨by simpa [disconnected, Local.enter] using settled, rfl⟩
  | disableCommit confirmed preserveFault =>
    refine .inr ?_
    change (if _ then SafetyState.ready else SafetyState.fault).commanding = false
    split_ifs <;> rfl
  | closeCheck =>
    refine .inr ?_
    rw [footprint.state rfl]
    have check : s.tick.checkClose = some false := of_decide_eq_true settled
    simp only [checkClose] at check
    split_ifs at check
    have needs : s.tick.needsDisable = false := Option.some.inj check
    simp only [needsDisable] at needs
    cases commanding : s.state.commanding with
    | false => rfl
    | true =>
      have connected : s.state ≠ .disconnected := by
        rintro disconnected
        simp [disconnected, SafetyState.commanding] at commanding
      simp [commanding, connected] at needs
  | _ =>
    first
    | exact .inl ⟨settled, rfl⟩
    | cases settled
    | (simp only [Local.step] at settled
       repeat' split at settled
       all_goals first | exact .inl ⟨settled, rfl⟩ | cases settled)

theorem calm_own {config : RuntimeConfig} {site : Site} {i : Input} {s : SafetyRuntime} {φ : Local}
    (calm : Calm s φ) (fits : φ.fits .lifecycle site) :
    Calm (after config .lifecycle site i s) (φ.step config site i s.tick) := by
  refine ⟨fun calms => ?_, fun recovery => ?_⟩
  · by_cases commands : site.commands = true
    · exfalso
      have busy : φ.stage ≠ .idle := by
        cases site with
        | initializeEnabled mode since => simp [fits.2]
        | motorPowerCommit allDisabled => simp [fits.2.1]
        | batchCommit selected enabled started outcome allDisabled => simp [fits.2.1]
        | gravityStart since | bimanualStart since => simp [fits.1.2.2]
        | _ => cases commands
      have recovery : φ.recovery.calms = false := by
        by_contra calms
        exact busy (calm.alone (by simpa using calms))
      simp only [Local.calms] at calms
      rw [step_recovery config φ i s.tick (by cases site <;> first | rfl | cases commands), recovery] at calms
      cases site <;> first | (cases commands; done) | simp [Local.step, Local.leave, Stage.calms] at calms
    · have still := calm_after config (t := .lifecycle) i (s := s) (by simpa using commands)
      obtain stage | recovery | settled := calms
      · obtain before | after := stage_calms calm fits stage
        · exact still (calm.calm (.inl before))
        · exact after
      · obtain before | ⟨-, rfl | rfl⟩ := recovery_calms fits recovery
        · exact still (calm.calm (.inr (.inl before)))
        · rfl
        · rfl
      · obtain ⟨before, -⟩ | after := settled_calms settled
        · exact still (calm.calm (.inr (.inr before)))
        · exact after
  · obtain before | ⟨idle, rfl | rfl⟩ := recovery_calms fits recovery
    · exact stage_idle fits (calm.alone before) before
    · rw [step_stage config φ i s.tick rfl, idle]
    · rw [step_stage config φ i s.tick rfl, idle]

/-! ## The other threads -/

theorem commands_of_theirs {site : Site} (theirs : site.isLifecycle = false) : site.commands = false := by
  cases site <;> first | rfl | cases theirs

/-- Another thread never takes `hardware_transition_`, and drops it only with the fault it enters. -/
theorem transition_other {config : RuntimeConfig} {t : Thread} {site : Site} {i : Input} {s : SafetyRuntime}
    (theirs : site.isLifecycle = false) :
    (after config t site i s).flags.hardwareTransition = s.flags.hardwareTransition ∨
      (after config t site i s).flags.hardwareTransition = false ∧
        (after config t site i s).state.commanding = false := by
  have footprint := after_footprint config t site i s
  cases site with
  | enterFault hold available =>
    by_cases disconnected : s.state = .disconnected
    · exact .inl (by simp [after, effect, SafetyRuntime.enterFault, disconnected])
    · have state := state_enterFault s.tick hold available (currentMotorFaultReported config i)
      rw [state_tick, if_neg disconnected] at state
      change (after config t (.enterFault hold available) i s).state = _ at state
      refine .inr ⟨?_, by rw [state]; rfl⟩
      simp only [after, effect, SafetyRuntime.enterFault, noteCleared_flags, state_tick, if_neg disconnected]
      rfl
  | retryTimeout => exact .inr ⟨rfl, rfl⟩
  | enterSafeStop =>
    simp only [after, effect, SafetyRuntime.enterSafeStop]
    split_ifs <;> exact .inl rfl
  | enterDegraded =>
    simp only [after, effect, SafetyRuntime.enterDegraded]
    split_ifs <;> exact .inl rfl
  | safeHoldInstall since mode commands =>
    simp only [after, effect, enterSafeHold]
    split_ifs <;> exact .inl rfl
  | gripperSent time commands =>
    simp only [after, effect, SafetyRuntime.commitGrippers]
    split_ifs <;> exact .inl rfl
  | healthWrite _ _ | workerDecide | cycleSent _ _ _ => exact .inl rfl
  | _ =>
    first
    | exact .inl (by rw [footprint.flags rfl])
    | cases theirs

/-- No cycle begins during a transaction. -/
theorem cycleSnapshot_none {s : SafetyRuntime}
    (closed : s.flags.hardwareTransition = true ∨ s.state.commanding = false) : cycleSnapshot s = none := by
  unfold cycleSnapshot
  rw [if_pos]
  obtain transition | calm := closed
  · exact .inl transition
  · exact .inr (by simp [calm])

theorem ordered_keeps {config : RuntimeConfig} {t : Thread} {site : Site} {i : Input} {s : SafetyRuntime}
    {φ : Thread → Local} (locks : Locks s φ) (ordered : Ordered s φ) (isReady : site.ready s = true)
    (fits : (φ t).fits t site) :
    Ordered (after config t site i s) (Function.update φ t ((φ t).step config site i s.tick)) := by
  have cycling : ∀ u, (Function.update φ t ((φ t).step config site i s.tick) u).command = false →
      (Function.update φ t ((φ t).step config site i s.tick) u).cycle = none := by
    intro u
    by_cases here : u = t
    · subst here
      rw [Function.update_self]
      exact cycling_step (ordered.cycling u) fits
    · rw [Function.update_of_ne here]
      exact ordered.cycling u
  by_cases own : t = .lifecycle
  · subst own
    obtain ⟨calm, alone⟩ := calm_own ⟨ordered.calm, ordered.alone⟩ fits (i := i)
    refine ⟨cycling, ?_, ?_, ?_, ?_⟩
    · rw [Function.update_self]
      exact transacting_own ordered.transacting fits
    · rw [Function.update_self, Function.update_of_ne (by simp)]
      intro place isDrained
      obtain rfl | before := step_drained config (φ .lifecycle) i s.tick isDrained
      · refine ordered.cycling .worker ?_
        have free : s.commandOwner = none := by simpa [Site.ready] using isReady
        by_contra command
        simp [(locks.1 .worker).mp (by simpa using command)] at free
      · refine ordered.drained ?_ before
        obtain transacts | failing := place
        · obtain same | ⟨reset, -⟩ := stage_transacts fits transacts
          · exact .inl (same ▸ transacts)
          · simp [reset] at isDrained
        · by_cases moves : site.movesRecovery = true
          · cases site with
            | recoverFailFault => cases isDrained
            | recoverFreeze | recoverClear | recoverReady | recoverDone | recoverFailed _ => cases failing
            | _ => cases moves
          · exact .inr (step_recovery config _ i s.tick (by simpa using moves) ▸ failing)
    · rw [Function.update_self]
      exact calm
    · rw [Function.update_self]
      exact alone
  · have theirs : site.isLifecycle = false := by
      by_contra owned
      exact own (lifecycle_of_fits fits (by simpa using owned))
    have still := calm_after config (t := t) (s := s) i (commands_of_theirs theirs)
    refine ⟨cycling, ?_, ?_, ?_, ?_⟩
    · rw [Function.update_of_ne (Ne.symm own)]
      intro transacts
      obtain same | ⟨-, calm⟩ := transition_other (t := t) (i := i) (s := s) theirs
      · exact (ordered.transacting transacts).imp (fun on => same.trans on) still
      · exact .inr calm
    · rw [Function.update_of_ne (Ne.symm own)]
      intro place isDrained
      have before := ordered.drained place isDrained
      by_cases worker : t = .worker
      · subst worker
        rw [Function.update_self]
        by_cases starts : site = .cycleStart
        · subst starts
          refine cycleSnapshot_none (place.elim ordered.transacting fun failing => .inr ?_)
          exact ordered.calm (.inr (.inl (by rw [failing]; rfl)))
        · exact (step_cycle config _ i s.tick starts).elim id fun same => same.trans before
      · rw [Function.update_of_ne (Ne.symm worker)]
        exact before
    · rw [Function.update_of_ne (Ne.symm own)]
      exact fun calms => still (ordered.calm calms)
    · rw [Function.update_of_ne (Ne.symm own)]
      exact ordered.alone

theorem ordered_carried (config : RuntimeConfig) :
    Carried config anySection fun s φ => Locks s φ ∧ Ordered s φ := by
  refine (locks_carried config).and ⟨fun _ _ => rfl, nofun, nofun, ?_, nofun⟩
    fun _ _ _ _ _ locks ordered isReady fits _ => ordered_keeps locks ordered isReady fits
  rintro (stage | recovery | settled)
  · cases stage
  · cases recovery
  · cases settled

end MotorDrive.Runtime
