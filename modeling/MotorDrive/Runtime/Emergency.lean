import MotorDrive.Runtime.Frame

/-!
# The emergency stop

After `estop` has set `emergency_stop_latched_` the Runtime is kept in `FAULT` with the fault latch set,
or disconnected, until `recover` drops the latch to home the robot.  The emergency flag itself is dropped
by the last section of `recover` and by nothing else.  While `recover` homes the robot the Runtime accepts
commands like any other: `require_state_for_command` does not look at the flag.
-/

namespace MotorDrive.Runtime

open Threads SafetyRuntime

/-- An emergency stop that no `recover` has ended. -/
def stopped : List Event → Bool
  | [] => false
  | .emergency :: _ => true
  | .recovered :: _ => false
  | _ :: older => stopped older

/-- No motion command of a client was accepted during an emergency stop. -/
def Obeyed : List Event → Prop
  | [] => True
  | .accepted true _ _ :: older => stopped older = false ∧ Obeyed older
  | _ :: older => Obeyed older

/-- The transaction leaves a latched `FAULT` as it is. -/
def Stage.preserves : Stage → Bool
  | .enabling _ _ | .powering | .maintaining _ | .starting => false
  | .disabling preserveFault => preserveFault
  | .batching _ enabled started => !enabled && started = .fault
  | _ => true

/-- The Runtime moves nothing, or `estop` has still to enter the fault. -/
def Halted (s : SafetyRuntime) (stage : Stage) : Prop :=
  s.flags.faultLatched = true ∧ (s.state = .fault ∨ s.state = .disconnected ∨ stage = .estopping) ∨
    stage = .estopping ∧ s.state = .safeStop

namespace Halted

variable {s s' : SafetyRuntime} {stage : Stage}

theorem latched (halted : Halted s stage) (other : stage ≠ .estopping) :
    s.flags.faultLatched = true ∧ (s.state = .fault ∨ s.state = .disconnected) := by
  obtain ⟨isLatched, fault | disconnected | estopping⟩ | ⟨estopping, -⟩ := halted
  · exact ⟨isLatched, .inl fault⟩
  · exact ⟨isLatched, .inr disconnected⟩
  · exact absurd estopping other
  · exact absurd estopping other

/-- A section that leaves the state and the latch alone, in a transaction other than `estop`. -/
theorem keep (halted : Halted s stage) (other : stage ≠ .estopping) (next : Stage)
    (state : s'.state = s.state) (latched : s'.flags.faultLatched = s.flags.faultLatched) :
    Halted s' next := by
  obtain ⟨isLatched, fault | disconnected⟩ := halted.latched other
  · exact .inl ⟨latched.trans isLatched, .inl (state.trans fault)⟩
  · exact .inl ⟨latched.trans isLatched, .inr (.inl (state.trans disconnected))⟩

theorem same (halted : Halted s stage) (state : s'.state = s.state)
    (latched : s'.flags.faultLatched = s.flags.faultLatched) : Halted s' stage := by
  unfold Halted
  rwa [state, latched]

theorem fault (state : s'.state = .fault) (latched : s'.flags.faultLatched = true) (stage : Stage) :
    Halted s' stage :=
  .inl ⟨latched, .inl state⟩

/-- A section that moves at most from one commanding state to another. -/
theorem control (halted : Halted s stage)
    (moves : s'.state = s.state ∨ s.state = .enabled ∧ s'.state = .running ∨
      s.state = .running ∧ (s'.state = .degraded ∨ s'.state = .safeHold))
    (latched : s'.flags.faultLatched = s.flags.faultLatched) : Halted s' stage := by
  obtain ⟨isLatched, fault | disconnected | estopping⟩ | ⟨estopping, safeStop⟩ := halted
  · exact .inl ⟨latched.trans isLatched, .inl (by simpa [fault] using moves)⟩
  · exact .inl ⟨latched.trans isLatched, .inr (.inl (by simpa [disconnected] using moves))⟩
  · exact .inl ⟨latched.trans isLatched, .inr (.inr estopping)⟩
  · exact .inr ⟨estopping, by simpa [safeStop] using moves⟩

/-- `enter_fault` ends in a latched `FAULT`, also for a transaction that is over with it. -/
theorem enterFault {config : RuntimeConfig} {t : Thread} (halted : Halted s stage) (i : Input)
    (allowProtectiveHold armHoldAvailable : Bool) (next : Stage) :
    Halted (after config t (.enterFault allowProtectiveHold armHoldAvailable) i s) next := by
  by_cases disconnected : s.state = .disconnected
  · obtain ⟨isLatched, -⟩ | ⟨-, safeStop⟩ := halted
    · refine .inl ⟨?_, .inr (.inl ?_)⟩
      · simp [after, effect, latched_enterFault, isLatched]
      · exact (state_enterFault s.tick _ _ _).trans (by simp [disconnected])
    · simp [disconnected] at safeStop
  · refine .fault ?_ ?_ _
    · exact (state_enterFault s.tick _ _ _).trans (by simp [disconnected])
    · simp [after, effect, latched_enterFault, disconnected]

end Halted

/-- What a section of the lifecycle thread does to a halted Runtime, outside of the sections with which
`recover` drops the latch and ends. -/
theorem halted_own {config : RuntimeConfig} {site : Site} {i : Input} {s : SafetyRuntime} {φ : Local}
    (fits : φ.fits .lifecycle site) (isStopped : s.flags.emergencyStopLatched = true)
    (other : site.writesRecovering = false) (halted : Halted s φ.stage)
    (preserves : φ.stage.preserves = true) :
    Halted (after config .lifecycle site i s) (φ.step config site i s.tick).stage ∧
      (φ.step config site i s.tick).stage.preserves = true := by
  have footprint := after_footprint config .lifecycle site i s
  cases site with
  | returned => exact ⟨halted.keep (by rcases fits.2.1 with stage | stage <;> simp [stage]) _ rfl rfl, rfl⟩
  | unlock =>
    simp only [Local.step, Local.unlock]
    split_ifs with begun
    · exact ⟨halted.keep (by rintro same; simp [same] at begun) _ rfl rfl, rfl⟩
    · exact ⟨halted.same rfl rfl, preserves⟩
  | connectCheck =>
    refine ⟨halted.keep (by simp [fits.2.1]) _ (footprint.state rfl) (footprint.latched rfl), ?_⟩
    obtain same | ⟨-, ⟨-, begun⟩ | ⟨-, begun⟩⟩ := stage_connectCheck config φ i s.tick
    · rw [same, preserves]
    · rw [begun]
      rfl
    · rw [begun]
      rfl
  | connectFailed =>
    obtain ⟨-, revalidating, stage⟩ := fits
    exact ⟨halted.keep (by simp [stage]) _ rfl rfl, rfl⟩
  | connectNotDisabled => exact ⟨halted.keep (by simp [fits.2]) _ rfl rfl, rfl⟩
  | connectCommit faulted disabled =>
    exact ⟨.fault (by simp [after, effect, commitConnect, isStopped, SafetyRuntime.state])
      (by simp [after, effect, commitConnect, isStopped]) _, rfl⟩
  | enableCheck =>
    obtain ⟨isLatched, -⟩ := halted.latched (by simp [fits.2.1])
    rw [stage_enableCheck, if_neg (by simp [isLatched])]
    exact ⟨halted.same (footprint.state rfl) (footprint.latched rfl), preserves⟩
  | enableSeed mode requireEnabled =>
    obtain ⟨since, -, -, stage⟩ := fits
    simp [stage, Stage.preserves] at preserves
  | initializeEnabled mode since => simp [fits.2, Stage.preserves] at preserves
  | enableHoldSent | enableDone => exact ⟨halted.keep (by simp [fits.2]) _ rfl rfl, rfl⟩
  | enableAbandoned =>
    obtain ⟨-, stage | ⟨since, stage⟩⟩ := fits
    · exact ⟨halted.keep (by simp [stage]) _ rfl rfl, rfl⟩
    · exact ⟨halted.keep (by simp [stage]) _ rfl rfl, rfl⟩
  | enableRolledBack disabled => exact ⟨halted.keep (by simp [fits.2.1]) _ rfl rfl, rfl⟩
  | enableFailed => exact ⟨.fault rfl rfl _, rfl⟩
  | disableStart =>
    have notEstop : φ.stage ≠ .estopping := by simp [fits.2.1]
    obtain ⟨isLatched, state⟩ := halted.latched notEstop
    refine ⟨halted.keep notEstop _ (footprint.state rfl) (footprint.latched rfl), ?_⟩
    rw [stage_disableStart]
    split_ifs with disconnected
    · exact preserves
    · have fault : s.state = .fault := state.resolve_right disconnected
      simp [Stage.preserves, fault, isLatched]
  | disableCommit confirmed preserveFault =>
    obtain ⟨-, stage, -⟩ := fits
    have fault : preserveFault = true := by simpa [stage, Stage.preserves] using preserves
    subst fault
    exact ⟨.fault (by simp [after, effect, commitDisable, SafetyRuntime.state])
      (by simp [after, effect, commitDisable]) _, rfl⟩
  | estopLatch =>
    obtain ⟨isLatched, -⟩ := halted.latched (by simp [fits.2.1])
    rw [stage_estopLatch, if_pos (.inl isStopped)]
    have latched : (after config .lifecycle .estopLatch i s).flags.faultLatched = s.flags.faultLatched := by
      simp [after, effect, latchEstop, isStopped, isLatched]
    exact ⟨halted.same (footprint.state rfl) latched, preserves⟩
  | motorPowerStart =>
    obtain ⟨-, state⟩ := halted.latched (by simp [fits.2.1])
    rw [stage_motorPowerStart, if_neg (by rcases state with state | state <;> simp [state])]
    exact ⟨halted.same (footprint.state rfl) (footprint.latched rfl), preserves⟩
  | motorPowerFailed => simp [fits.2, Stage.preserves] at preserves
  | motorPowerCommit allDisabled => simp [fits.2.1, Stage.preserves] at preserves
  | batchStart selected enabled =>
    have notEstop : φ.stage ≠ .estopping := by simp [fits.2.1]
    obtain ⟨isLatched, state⟩ := halted.latched notEstop
    refine ⟨halted.keep notEstop _ (footprint.state rfl) (footprint.latched rfl), ?_⟩
    obtain same | ⟨⟨connected, -, -, enables⟩, begun⟩ :=
      stage_batchStart config φ i s.tick selected enabled
    · rw [same, preserves]
    · have fault : s.state = .fault := state.resolve_right connected
      have disables : enabled = false := by
        by_contra isEnabled
        simpa [isLatched] using (enables (by simpa using isEnabled)).2
      rw [begun]
      simp [Stage.preserves, fault, disables]
  | batchCommit selected enabled started outcome allDisabled =>
    obtain ⟨-, stage, -⟩ := fits
    obtain ⟨rfl, rfl⟩ : enabled = false ∧ started = .fault := by
      simpa [stage, Stage.preserves] using preserves
    obtain ⟨isLatched, -⟩ := halted.latched (by simp [stage])
    refine ⟨.fault ?_ ?_ _, rfl⟩ <;>
      simp [after, effect, SafetyRuntime.commitBatch, BatchOutcome.rollbackFailed, preserveAbnormalState,
        SafetyRuntime.state, isLatched]
  | maintenancePrecheck operation =>
    obtain ⟨-, state⟩ := halted.latched (by simp [fits.1.2.1])
    rw [stage_maintenancePrecheck, if_neg (by rcases state with state | state <;> simp [state, isStopped])]
    exact ⟨halted.same (footprint.state rfl) (footprint.latched rfl), preserves⟩
  | finishMaintenance operation code latchFault =>
    obtain ⟨-, -, rfl, -, ⟨stage, -⟩ | ⟨stage, rfl⟩⟩ := fits
    · simp [stage, Stage.preserves] at preserves
    · exact ⟨halted.keep (by simp [stage]) _ rfl rfl, rfl⟩
  | retryTimeout => exact absurd rfl fits
  | recoverFreeze => exact ⟨.fault rfl rfl _, preserves⟩
  | recoverFailed disabled => exact ⟨.fault rfl rfl _, preserves⟩
  | stopStart => exact ⟨halted.keep (by simp [fits.1.2.1]) _ rfl rfl, rfl⟩
  | stopDone =>
    obtain ⟨isLatched, -⟩ := halted.latched (by simp [fits.2])
    exact ⟨.inl ⟨isLatched, .inr (.inl rfl)⟩, rfl⟩
  | enterFault allowProtectiveHold armHoldAvailable => exact ⟨halted.enterFault i _ _ _, rfl⟩
  | enterSafeStop => cases fits.1
  | enterDegraded => cases fits.1
  | gravityCheck =>
    obtain ⟨isLatched, -⟩ := halted.latched (by simp [fits.1.2.1])
    obtain same | ⟨-, -, free, -⟩ := stage_gravityCheck config φ i s.tick
    · rw [same]
      exact ⟨halted.same rfl rfl, preserves⟩
    · simp [isLatched] at free
  | gravityStart since => simp [fits.1.2.2, Stage.preserves] at preserves
  | stopGravityCheck =>
    refine ⟨halted.keep (by simp [fits.1.2.1]) _ rfl rfl, ?_⟩
    obtain same | begun := stage_stopGravityCheck config φ i s.tick
    · rw [same, preserves]
    · rw [begun]
      rfl
  | gravityStop since => exact ⟨halted.keep (by simp [fits.1.2.2]) _ rfl rfl, rfl⟩
  | bimanualCheck =>
    obtain ⟨isLatched, -⟩ := halted.latched (by simp [fits.1.2.1])
    obtain same | ⟨-, -, free, -⟩ := stage_bimanualCheck config φ i s.tick
    · rw [same]
      exact ⟨halted.same rfl rfl, preserves⟩
    · simp [isLatched] at free
  | bimanualStart since => simp [fits.1.2.2, Stage.preserves] at preserves
  | workerDecide => cases fits.1
  | cycleSent mode time frame => cases fits.2.choose_spec.1.1
  | gripperSent time commands => cases fits.1
  | safeHoldInstall since mode commands => exact absurd rfl fits.1.1
  | feedbackFailed | holdFailed => cases fits
  | recoverReady | recoverDone | recoverFailFault => cases other
  | _ => exact ⟨halted.same (footprint.state rfl) (footprint.latched rfl), preserves⟩

/-- What a section of another thread does to a halted Runtime. -/
theorem halted_other {config : RuntimeConfig} {t : Thread} {site : Site} {i : Input} {s : SafetyRuntime}
    {φ : Local} {stage : Stage} (other : t ≠ .lifecycle) (fits : φ.fits t site)
    (halted : Halted s stage) : Halted (after config t site i s) stage := by
  have footprint := after_footprint config t site i s
  cases site with
  | retryTimeout => exact .fault rfl rfl _
  | enterFault allowProtectiveHold armHoldAvailable => exact halted.enterFault i _ _ _
  | enterSafeStop =>
    obtain ⟨isLatched, fault | disconnected | estopping⟩ | ⟨estopping, safeStop⟩ := halted
    · refine .inl ⟨?_, .inl ?_⟩
      · simp [after, effect, latched_enterSafeStop, fault, isLatched]
      · exact (state_enterSafeStop s.tick).trans (by simp [fault])
    · refine .inl ⟨?_, .inr (.inl ?_)⟩
      · simp [after, effect, latched_enterSafeStop, disconnected, isLatched]
      · exact (state_enterSafeStop s.tick).trans (by simp [disconnected])
    · by_cases idle : s.state = .disconnected ∨ s.state = .ready ∨ s.state = .fault
      · refine .inl ⟨?_, .inr (.inr estopping)⟩
        simp [after, effect, latched_enterSafeStop, idle, isLatched]
      · exact .inr ⟨estopping, (state_enterSafeStop s.tick).trans (by simp [idle])⟩
    · exact .inr ⟨estopping, (state_enterSafeStop s.tick).trans (by simp [safeStop])⟩
  | enterDegraded | safeHoldInstall _ _ _ | cycleSent _ _ _ | gripperSent _ _ =>
    exact halted.control (after_control config t i s rfl) (footprint.latched rfl)
  | _ =>
    first
    | exact halted.same (footprint.state rfl) (footprint.latched rfl)
    | exact absurd (lifecycle_of_fits fits rfl) other

/-- What holds of the state and the lifecycle thread in every run. -/
structure Guarded (s : SafetyRuntime) (φ : Local) : Prop where
  recovering : s.recovering = true ↔ φ.recovery = .homing
  halted : s.flags.emergencyStopLatched = true → s.recovering = false →
    Halted s φ.stage ∧ φ.stage.preserves = true

theorem guarded_own {config : RuntimeConfig} {site : Site} {i : Input} {s : SafetyRuntime} {φ : Local}
    (guarded : Guarded s φ) (fits : φ.fits .lifecycle site) :
    Guarded (after config .lifecycle site i s) (φ.step config site i s.tick) := by
  have footprint := after_footprint config .lifecycle site i s
  by_cases special : site.writesRecovering = true
  · cases site with
    | recoverReady => exact ⟨by simp [after, effect, readyRecover, Local.step], fun _ idle => by cases idle⟩
    | recoverDone => exact ⟨by simp [after, effect, commitRecover, Local.step], fun on => by cases on⟩
    | recoverFailFault =>
      refine ⟨by simp [after, effect, failRecover, Local.step], fun _ _ => ⟨.fault rfl rfl _, ?_⟩⟩
      rw [step_stage config φ i s.tick rfl, fits.2]
      rfl
    | _ => cases special
  · have quiet : site.writesRecovering = false := by simpa using special
    refine ⟨?_, fun isStopped idle => ?_⟩
    · rw [footprint.recovering quiet, guarded.recovering]
      by_cases moves : site.movesRecovery = true
      · cases site with
        | recoverFreeze => simp [Local.step, fits.2.2]
        | recoverClear => simp [Local.step, fits.2]
        | recoverFailed disabled => simp [Local.step, fits.2.2.1]
        | recoverReady | recoverDone | recoverFailFault => cases quiet
        | _ => cases moves
      · rw [step_recovery config φ i s.tick (by simpa using moves)]
    · rw [footprint.recovering quiet] at idle
      by_cases already : s.flags.emergencyStopLatched = true
      · obtain ⟨halted, preserves⟩ := guarded.halted already idle
        exact halted_own fits already quiet halted preserves
      · by_cases latches : site = .estopLatch
        · subst latches
          have stage : φ.stage = .idle := fits.2.1
          rw [stage_estopLatch]
          split_ifs with disconnected
          · have disconnected : s.state = .disconnected := by simpa [already] using disconnected
            refine ⟨.inl ⟨?_, .inr (.inl ((footprint.state rfl).trans disconnected))⟩, ?_⟩
            · simp [after, effect, latchEstop, already]
            · rw [stage]
              rfl
          · exact ⟨.inl ⟨by simp [after, effect, latchEstop, already], .inr (.inr rfl)⟩, rfl⟩
        · exfalso
          refine already ((footprint.emergency ?_).symm.trans isStopped)
          cases site <;> first | rfl | exact absurd rfl latches | cases quiet

theorem guarded_carried (config : RuntimeConfig) :
    Carried config anySection fun s φ => Guarded s (φ .lifecycle) := by
  refine .ofLifecycle ⟨by simp, fun on => nomatch on⟩
    (fun site i s φ guarded _ fits _ => guarded_own guarded fits) ?_
  intro t site i s φ ψ other guarded _ fits _
  have footprint := after_footprint config t site i s
  have theirs : site.isLifecycle = false := by
    by_contra owned
    exact other (lifecycle_of_fits fits (by simpa using owned))
  have quiet : site.writesRecovering = false ∧ site.writesEmergency = false := by
    cases site <;> first | exact ⟨rfl, rfl⟩ | cases theirs
  refine ⟨by rw [footprint.recovering quiet.1]; exact guarded.recovering, fun isStopped idle => ?_⟩
  rw [footprint.emergency quiet.2] at isStopped
  rw [footprint.recovering quiet.1] at idle
  obtain ⟨halted, preserves⟩ := guarded.halted isStopped idle
  exact ⟨halted_other other fits halted, preserves⟩

/-! ## The log -/

/-- The section may accept a motion command of a client. -/
def Site.admits : Site → Bool
  | .submit _ _ | .install _ _ true | .trajectoryStart _ _ _ _ | .gripperInstall
  | .rawGripperAccept => true
  | _ => false

/-- `require_state_for_command` finds the Runtime accepting motion commands. -/
def SafetyRuntime.accepting (s : SafetyRuntime) : Bool :=
  !s.flags.faultLatched && !s.flags.hardwareTransition && !s.flags.enableTransaction &&
    !s.flags.enableGraceTransition && s.state.commanding

/-- No client's command comes to its admission while `recover` homes the robot with the emergency stop
latched and the Runtime is accepting motion commands. -/
def homesAlone (_ : Thread) (site : Site) (_ : Input) (s : SafetyRuntime) : Bool :=
  !(site.admits && s.flags.emergencyStopLatched && s.recovering && s.accepting)

/-- The emergency stop as a client sees it. -/
structure EmergencyStop (s : SafetyRuntime) : Prop where
  latch : s.flags.emergencyStopLatched = stopped s.log
  obeyed : Obeyed s.log

theorem requireStateForCommand_error {s : SafetyRuntime} {allowGravity allowTrajectory : Bool}
    {planningToken : ℕ} (closed : s.accepting = false) :
    s.requireStateForCommand allowGravity allowTrajectory planningToken =
      .error "Articore runtime is not accepting motion commands" := by
  rw [requireStateForCommand, if_pos]
  simp only [accepting, Bool.and_eq_false_iff, Bool.not_eq_false', or_assoc] at closed
  simpa using closed

/-- A Runtime that is not accepting motion commands is left alone by them. -/
theorem effect_refused {config : RuntimeConfig} {t : Thread} {site : Site} (i : Input)
    {s : SafetyRuntime} (admits : site.admits = true) (closed : s.accepting = false) :
    effect config t site i s = s := by
  cases site with
  | submit mode streaming => simp [effect, SafetyRuntime.submit, requireStateForCommand_error closed]
  | install mode planningToken client =>
    simp only [effect, install, requireStateForCommand_error closed]
    split <;> first | rfl | simp_all
  | trajectoryStart mode enqueue replace planningToken =>
    simp only [effect, SafetyRuntime.startTrajectory, checkTrajectory, requireStateForCommand_error closed]
    split <;> split at * <;> first | rfl | simp_all
  | gripperInstall => simp [effect, installGrippers, requireStateForCommand_error closed]
  | rawGripperAccept => simp [effect, acceptRawGripper, requireStateForCommand_error closed]
  | _ => cases admits

theorem stopped_of_logs {site : Site} {log log' : List Event} (logs : site.Logs log log')
    (stop : site ≠ .estopLatch) (done : site ≠ .recoverDone) : stopped log' = stopped log := by
  refine logs.ignored fun e log records => ?_
  cases e with
  | emergency => exact absurd (of_decide_eq_true records) stop
  | recovered => exact absurd (of_decide_eq_true records) done
  | _ => rfl

theorem log_refused {config : RuntimeConfig} {t : Thread} {site : Site} (i : Input) {s : SafetyRuntime}
    (admits : site.admits = true) (closed : s.accepting = false) :
    (after config t site i s).log = s.log := by
  have ticked : s.tick.accepting = false := closed
  simp [after, effect_refused i admits ticked]

/-- Commands that are accepted while no emergency stop is on. -/
theorem obeyed_of_not_stopped {site : Site} {log log' : List Event} (logs : site.Logs log log')
    (stop : site ≠ .estopLatch) (running : stopped log = false) (obeyed : Obeyed log) :
    Obeyed log' := by
  obtain ⟨added, rfl, all⟩ := logs
  suffices stopped (added ++ log) = false ∧ Obeyed (added ++ log) from this.2
  induction added with
  | nil => exact ⟨running, obeyed⟩
  | cons e added ih =>
    obtain ⟨running, obeyed⟩ := ih fun e found => all e (List.mem_cons_of_mem _ found)
    cases e with
    | emergency => exact absurd (of_decide_eq_true (all _ List.mem_cons_self)) stop
    | recovered => exact ⟨rfl, obeyed⟩
    | accepted client token kind =>
      cases client with
      | true => exact ⟨running, running, obeyed⟩
      | false => exact ⟨running, obeyed⟩
    | _ => exact ⟨running, obeyed⟩

theorem obeyed_of_logs {site : Site} {log log' : List Event} (logs : site.Logs log log')
    (quiet : site.records (.accepted true 0 .arm) = false) (obeyed : Obeyed log) : Obeyed log' := by
  rw [logs.ignored (f := Obeyed) fun e log records => ?_]
  · exact obeyed
  · cases e with
    | accepted client token kind =>
      cases client with
      | true =>
        have records : site.records (.accepted true 0 .arm) = true := records
        rw [quiet] at records
        cases records
      | false => rfl
    | _ => rfl

/-- A halted Runtime accepts no motion command. -/
theorem Halted.closed {s : SafetyRuntime} {stage : Stage} (halted : Halted s stage) :
    s.accepting = false := by
  obtain ⟨isLatched, -⟩ | ⟨-, safeStop⟩ := halted
  · simp [accepting, isLatched]
  · simp [accepting, safeStop, SafetyState.commanding]

theorem emergencyStop_after {config : RuntimeConfig} {t : Thread} {site : Site} {i : Input}
    {s : SafetyRuntime} {φ : Thread → Local} (guarded : Guarded s (φ .lifecycle))
    (holds : EmergencyStop s) (fits : (φ t).fits t site) (permitted : homesAlone t site i s = true) :
    EmergencyStop (after config t site i s) := by
  have logs := after_logs config t site i s
  have footprint := after_footprint config t site i s
  constructor
  · by_cases stop : site = .estopLatch
    · subst stop
      by_cases already : s.flags.emergencyStopLatched = true
      · have latch := holds.latch
        simp_all [after, effect, latchEstop]
      · simp [after, effect, latchEstop, already, stopped]
    · by_cases done : site = .recoverDone
      · subst done
        simp only [after, effect, commitRecover, noteCleared_flags, noteConfirmed_flags, record_flags,
          noteCleared_log, noteConfirmed_log, record_log]
        split_ifs <;> rfl
      · rw [stopped_of_logs logs stop done, ← holds.latch, footprint.emergency]
        cases site <;> first | rfl | exact absurd rfl stop | exact absurd rfl done
  · by_cases running : stopped s.log = false
    · by_cases stop : site = .estopLatch
      · exact obeyed_of_logs logs (by rw [stop]; rfl) holds.obeyed
      · exact obeyed_of_not_stopped logs stop running holds.obeyed
    · have isStopped : s.flags.emergencyStopLatched = true := by
        rw [holds.latch]
        simpa using running
      have halted := guarded.halted isStopped
      have refused (admits : site.admits = true) : Obeyed (after config t site i s).log := by
        rw [log_refused i admits]
        · exact holds.obeyed
        · by_cases homing : s.recovering = true
          · simpa [homesAlone, admits, isStopped, homing] using permitted
          · exact (halted (by simpa using homing)).1.closed
      cases site with
      | submit _ _ | trajectoryStart _ _ _ _ | gripperInstall | rawGripperAccept => exact refused rfl
      | install mode planningToken client =>
        cases client with
        | true => exact refused rfl
        | false => exact obeyed_of_logs logs rfl holds.obeyed
      | gravityStart since | bimanualStart since =>
        obtain ⟨⟨⟨rfl, -⟩, -, stage⟩, recovery, -⟩ := fits
        have idle : s.recovering = false := by
          by_contra on
          simp [guarded.recovering.mp (by simpa using on)] at recovery
        simp [stage, Stage.preserves] at halted
        simp [halted] at idle
      | _ => exact obeyed_of_logs logs rfl holds.obeyed

theorem emergencyStop_carried (config : RuntimeConfig) :
    Carried config (fun t site i s => homesAlone t site i s = true) fun s φ =>
      Guarded s (φ .lifecycle) ∧ EmergencyStop s :=
  ((guarded_carried config).mono fun _ _ _ _ _ => trivial).and ⟨rfl, trivial⟩
    fun _ _ _ _ _ guarded holds _ fits permitted => emergencyStop_after guarded holds fits permitted

/-- In every run in which no client's command comes to its admission while `recover` homes the robot, the
emergency stop latch is on from `estop` to the end of a successful `recover`, and no motion command of a
client is accepted meanwhile. -/
theorem emergencyStop_of_reach (config : RuntimeConfig) {c : Config Thread SafetyRuntime Input Site String}
    (reach : (runtime config).Reach (fun t site i s => homesAlone t site i s = true) c) :
    EmergencyStop c.shared := by
  obtain ⟨φ, ⟨-, holds⟩, -⟩ := (emergencyStop_carried config).reach reach
  exact holds

/-- An emergency stop while disconnected, a refused command, and `recover` up to the point at which its
`enable` is confirmed. -/
def Scenario.recovering : List Scenario.Move :=
  call .estop 3 (powered 0) ++ [.start (.client 0 true (.submit .pv false)), .advance (.client 0) {}] ++
    call .recover 31 (powered 0) ++ advance .lifecycle 22 (powered 1)

theorem emergencyStop_of_reach_recovering :
    ∃ c, (runtime Scenario.config).Reach (fun t site i s => homesAlone t site i s = true) c ∧
      (c.shared.recovering = true ∧ c.shared.state = .enabled) ∧ EmergencyStop c.shared := by
  obtain ⟨c, reach, seen⟩ := Machine.exists_reach_of_run (M := runtime Scenario.config) homesAlone
    (fun s => (s.recovering, s.state)) Scenario.recovering (fun _ _ _ _ passed => passed)
    (b := (true, .enabled)) (by rfl)
  exact ⟨c, reach, by simpa using seen, emergencyStop_of_reach Scenario.config reach⟩

/-- While `recover` homes the robot a client's command is accepted. -/
theorem homing_accepts :
    ∃ c, (runtime Scenario.config).Reach anySection c ∧ ¬ EmergencyStop c.shared := by
  obtain ⟨c, reach, seen⟩ := Machine.exists_reach_of_run (M := runtime Scenario.config)
    (fun _ _ _ _ => true) (fun s => (s.log.head?, stopped s.log.tail))
    (Scenario.recovering ++ [.start (.client 0 true (.submit .pv false)), .advance (.client 0) {}])
    (fun _ _ _ _ _ => trivial) (b := (some (.accepted true 0 .arm), true)) (by rfl)
  refine ⟨c, reach, fun holds => ?_⟩
  have obeyed := holds.obeyed
  cases entries : c.shared.log with
  | nil => simp [entries] at seen
  | cons e older =>
    simp only [entries, List.head?_cons, List.tail_cons, Prod.mk.injEq, Option.some.injEq] at seen
    obtain ⟨rfl, on⟩ := seen
    simp [entries, Obeyed, on] at obeyed

end MotorDrive.Runtime
