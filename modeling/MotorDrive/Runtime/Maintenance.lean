import MotorDrive.Runtime.Batch
import MotorDrive.Runtime.Cycle
import MotorDrive.Runtime.Emergency

/-!
# Clearing faults

What an attempt of `clear_faults` leaves behind, for every answer of the backend and every behaviour of the
other threads, and what a maintenance call that is rejected or that times out does to the transactions of
other lifecycle calls.  The last `finish_maintenance` of a `clear_faults` call that timed out runs without
`lifecycle_mutex_`: it is harmless as long as no other lifecycle call has begun since the last attempt.
-/

namespace MotorDrive.Runtime

open Threads SafetyRuntime Proc

/-! ## The fault of a failed maintenance -/

/-- The fault that `finish_maintenance` latches. -/
structure FaultLeft (s : SafetyRuntime) : Prop where
  fault : s.state = .fault
  latched : s.flags.faultLatched = true
  unconfirmed : s.flags.disableConfirmed = false
  released : s.flags.hardwareTransition = false

section FaultLeft

variable {config : RuntimeConfig} {t : Thread} {site : Site} {i : Input} {s s' : SafetyRuntime}

theorem FaultLeft.of_flags (left : FaultLeft s) (same : s'.flags = s.flags) : FaultLeft s' := by
  obtain ⟨fault, latched, unconfirmed, released⟩ := left
  exact ⟨(congrArg Flags.state same).trans fault, by rw [same, latched], by rw [same, unconfirmed],
    by rw [same, released]⟩

/-- The sections that need no lifecycle call leave the fault as it is. -/
theorem FaultLeft.other (left : FaultLeft s) (theirs : site.isLifecycle = false) :
    FaultLeft (after config t site i s) := by
  obtain ⟨fault, latched, unconfirmed, released⟩ := id left
  by_cases writes : site.writesFlags = true
  · cases site with
    | retryTimeout => exact ⟨rfl, rfl, rfl, rfl⟩
    | healthWrite healthy faults => exact ⟨fault, latched, unconfirmed, released⟩
    | enterFault allowProtectiveHold armHoldAvailable =>
      have connected : s.tick.state ≠ .disconnected := by simp [fault]
      constructor <;> simp only [after, effect, SafetyRuntime.enterFault, if_neg connected] <;> rfl
    | enterSafeStop =>
      have same : s.tick.enterSafeStop.2 = s.tick := by simp [SafetyRuntime.enterSafeStop, fault]
      exact left.of_flags (congrArg (fun s => s.flags) same)
    | enterDegraded =>
      have same : s.tick.enterDegraded = s.tick := by simp [SafetyRuntime.enterDegraded, fault]
      exact left.of_flags (congrArg (fun s => s.flags) same)
    | safeHoldInstall since mode commands =>
      have same : (s.tick.enterSafeHold mode commands).2 = s.tick := by simp [enterSafeHold, fault]
      exact left.of_flags (congrArg (fun s => s.flags) same)
    | workerDecide => exact ⟨fault, latched, unconfirmed, released⟩
    | cycleSent mode time frame =>
      have state := (state_commitCycle s.tick mode time frame).trans (if_neg (by simp [fault]))
      exact ⟨state.trans fault, latched, unconfirmed, released⟩
    | gripperSent time commands =>
      have state := (state_commitGrippers s.tick time commands).trans (if_neg (by simp [fault]))
      refine ⟨state.trans fault, ?_, ?_, ?_⟩ <;>
        simp only [after, effect, SafetyRuntime.commitGrippers, noteCleared_flags] <;> split_ifs
      all_goals assumption
    | _ => first | (cases theirs; done) | cases writes
  · exact left.of_flags ((after_footprint config t site i s).flags (by simpa using writes))

theorem faultLeft_finish {operation : Maintenance} {code : OperationCode} (failed : code ≠ .ok) :
    FaultLeft (after config t (.finishMaintenance operation code true) i s) := by
  have left : (after config t (.finishMaintenance operation code true) i s).flags =
      (s.tick.finishMaintenance operation code true (currentMotorFaultReported config i)).flags := rfl
  simp only [SafetyRuntime.finishMaintenance, if_neg failed, if_true] at left
  constructor <;> simp only [SafetyRuntime.state, left] <;> rfl

/-- A lifecycle call whose maintenance has failed leaves the fault as it is. -/
theorem FaultLeft.own {φ : Local} (left : FaultLeft s) (fits : φ.fits .lifecycle site)
    (stage : φ.stage = .failed) : FaultLeft (after config .lifecycle site i s) := by
  by_cases theirs : site.isLifecycle = false
  · exact left.other theirs
  · by_cases writes : site.writesFlags = true
    · exfalso
      cases site <;>
        first
        | cases writes; done
        | exact theirs rfl
        | simp [Local.fits, Local.begins, Local.holds, stage] at fits
    · exact left.of_flags ((after_footprint config .lifecycle site i s).flags (by simpa using writes))

end FaultLeft

/-! ## Transactions -/

/-- The transaction holds `hardware_transition_`. -/
def Stage.transits : Stage → Bool
  | .connecting _ | .enabling _ _ | .confirming false | .rollingBack | .disabling _ | .powering
  | .batching _ _ _ | .maintaining _ => true
  | _ => false

/-- The lifecycle call holds `hardware_transition_`. -/
def Local.transits (φ : Local) : Bool := φ.stage.transits || φ.recovery.calms

/-- A section that leaves `hardware_transition_` alone may end no transaction that holds it. -/
theorem transits_keep {config : RuntimeConfig} {site : Site} {i : Input} {s s' : SafetyRuntime} {φ : Local}
    (holds : s.flags.hardwareTransition = true → φ.transits = true)
    (same : s'.flags.hardwareTransition = s.flags.hardwareTransition) (still : site.movesRecovery = false)
    (kept : φ.stage.transits = true → (φ.step config site i s.tick).stage.transits = true)
    (on : s'.flags.hardwareTransition = true) : (φ.step config site i s.tick).transits = true := by
  have transits := holds (same.symm.trans on)
  simp only [Local.transits, Bool.or_eq_true] at transits ⊢
  rw [step_recovery config φ i s.tick still]
  exact transits.imp_left kept

theorem transits_own {config : RuntimeConfig} {site : Site} {i : Input} {s : SafetyRuntime} {φ : Local}
    (holds : s.flags.hardwareTransition = true → φ.transits = true) (fits : φ.fits .lifecycle site)
    (on : (after config .lifecycle site i s).flags.hardwareTransition = true) :
    (φ.step config site i s.tick).transits = true := by
  -- Outside of a transaction nothing holds the flag: a section that finds it set is not taken there.
  have clear (stage : φ.stage.transits = false) (recovery : φ.recovery.calms = false) :
      s.flags.hardwareTransition ≠ true := by
    intro held
    have transits := holds held
    simp [Local.transits, stage, recovery] at transits
  have idle (begins : φ.stage = .idle ∧ (φ.recovery = .none ∨ φ.recovery = .homing)) :
      s.flags.hardwareTransition ≠ true := by
    obtain ⟨stage, recovery | recovery⟩ := begins <;>
      exact clear (by rw [stage]; rfl) (by rw [recovery]; rfl)
  by_cases quiet : site.writesFlags = false ∧ site.movesStage = false ∧ site.movesRecovery = false
  · have flags := (after_footprint config .lifecycle site i s).flags quiet.1
    exact transits_keep holds (congrArg Flags.hardwareTransition flags) quiet.2.2
      (fun transits => by rwa [step_stage config φ i s.tick quiet.2.1]) on
  · cases site with
    | returned =>
      obtain ⟨-, stage | stage, recovery, -⟩ := fits <;>
        exact (clear (by rw [stage]; rfl) (by rw [recovery]; rfl) on).elim
    | unlock =>
      refine transits_keep holds rfl rfl (fun transits => ?_) on
      simp only [Local.step, Local.unlock]
      split_ifs with begun
      · obtain stage | stage := begun <;> simp [stage, Stage.transits] at transits
      · exact transits
    | connectCheck =>
      have off := idle ⟨fits.2.1, .inl fits.2.2⟩
      simp only [after, effect, checkConnect, Local.step, noteCleared_flags] at on ⊢
      split_ifs at on ⊢ <;> first | rfl | exact (off on).elim
    | enableCheck =>
      have off := idle fits.2
      simp only [after, effect, checkEnable, Local.step, noteCleared_flags] at on ⊢
      split_ifs at on ⊢
      · rfl
      · exact (off on).elim
    | disableStart =>
      have off := idle fits.2
      simp only [after, effect, startDisable, Local.step, noteCleared_flags] at on ⊢
      split_ifs at on ⊢
      · exact (off on).elim
      · rfl
    | motorPowerStart =>
      have off := idle ⟨fits.2.1, .inl fits.2.2⟩
      simp only [after, effect, startMotorPower, Local.step, noteCleared_flags] at on ⊢
      split_ifs at on ⊢ <;> first | rfl | exact (off on).elim
    | batchStart selected enabled =>
      have off := idle ⟨fits.2.1, .inl fits.2.2⟩
      simp only [after, effect, startBatch, Local.step, noteCleared_flags] at on ⊢
      split_ifs at on ⊢ <;> first | rfl | exact (off on).elim
    | maintenancePrecheck operation =>
      have off := idle ⟨fits.1.2.1, .inl fits.1.2.2⟩
      simp only [Local.transits, stage_maintenancePrecheck]
      simp only [after, effect, precheckMaintenance, noteCleared_flags] at on
      split_ifs at on ⊢
      · rfl
      · exact (off on).elim
    | estopLatch =>
      have off := idle ⟨fits.2.1, .inl fits.2.2⟩
      simp only [after, effect, latchEstop, noteCleared_flags] at on
      split_ifs at on <;> exact (off on).elim
    | recoverDone => exact (idle ⟨fits.2.1, .inr fits.2.2.1⟩ on).elim
    | enterFault allowProtectiveHold armHoldAvailable =>
      obtain ⟨-, stage, recovery⟩ := fits.2 rfl
      have off := clear (by rw [stage]; rfl) (by rw [recovery]; rfl)
      simp only [after, effect, SafetyRuntime.enterFault, noteCleared_flags] at on
      split_ifs at on
      · exact (off on).elim
      · cases on
      · cases on
    | enableSeed mode requireEnabled =>
      obtain ⟨since, -, -, stage⟩ := fits
      simp only [Local.step, stage]
      split <;> simp_all [Local.transits, Stage.transits]
    | enableFailed | initializeEnabled _ _ => rfl
    | recoverFreeze | recoverClear | recoverFailFault => exact Bool.or_true _
    | finishMaintenance operation code latchFault =>
      simp only [after, effect, SafetyRuntime.finishMaintenance, noteCleared_flags, noteConfirmed_flags] at on
      split_ifs at on <;> cases on
    | batchCommit selected enabled started outcome allDisabled =>
      simp only [after, effect, SafetyRuntime.commitBatch, noteCleared_flags, noteConfirmed_flags, record_flags] at on
      split_ifs at on
    | safeHoldInstall since mode commands => exact absurd rfl fits.1.1
    | enterSafeStop | enterDegraded | workerDecide | gripperSent _ _ => cases fits.1
    | feedbackFailed | holdFailed => cases fits
    | cycleSent mode time frame => cases fits.2.choose_spec.1.1
    | _ =>
      first
      | exact absurd ⟨rfl, rfl, rfl⟩ quiet
      | cases on
      | exact transits_keep holds rfl rfl id on
      | exact transits_keep holds rfl rfl (by simp_all [Local.fits, Local.begins, Local.holds, Stage.transits]) on

/-- A `clear_faults` call has given up and no lifecycle call has begun since. -/
def gaveUp : List Event → Bool
  | [] => false
  | .call :: _ => false
  | .parked :: _ => true
  | _ :: log => gaveUp log

/-- What the lifecycle thread leaves to the other calls: `hardware_transition_` is held within its
transactions only, and a failed maintenance leaves its fault until the next call begins. -/
structure Maintained (s : SafetyRuntime) (φ : Local) : Prop where
  transits : s.flags.hardwareTransition = true → φ.transits = true
  failed : φ.stage = .failed → FaultLeft s
  parked : gaveUp s.log = true → FaultLeft s ∧ (φ.locked = true → φ.stage = .failed)

theorem gaveUp_of_logs {site : Site} {log log' : List Event} (logs : site.Logs log log') (call : site ≠ .call)
    (park : site ≠ .retryPark) : gaveUp log' = gaveUp log := by
  refine logs.ignored fun e log records => ?_
  cases e with
  | call => exact absurd (of_decide_eq_true records) call
  | parked => exact absurd (of_decide_eq_true records) park
  | _ => rfl

theorem stage_failed {config : RuntimeConfig} {site : Site} {i : Input} {s : SafetyRuntime} {φ : Local}
    (reached : (φ.step config site i s).stage = .failed) : φ.stage = .failed ∨
      ∃ operation code, site = .finishMaintenance operation code true := by
  by_cases moves : site.movesStage = true
  · cases site with
    | finishMaintenance operation code latchFault =>
      rw [stage_finishMaintenance] at reached
      split_ifs at reached with latches
      exact .inr ⟨operation, code, by rw [latches]⟩
    | _ =>
      first
      | (cases moves; done)
      | cases reached
      | exact .inl reached
      | simp only [Local.step, Local.enter, Local.leave, Local.unlock, Local.drop] at reached
        repeat' split at reached
        all_goals first | exact .inl reached | cases reached
  · exact .inl ((step_stage config φ i s (by simpa using moves)).symm.trans reached)

/-- A lifecycle call whose maintenance has failed only returns. -/
theorem stays_failed {config : RuntimeConfig} {site : Site} {i : Input} {s : SafetyRuntime} {φ : Local}
    (fits : φ.fits .lifecycle site) (stage : φ.stage = .failed) (still : site ≠ .returned) :
    (φ.step config site i s).stage = .failed := by
  by_cases moves : site.movesStage = true
  · cases site with
    | unlock => simp [Local.step, Local.unlock, stage]
    | returned => exact absurd rfl still
    | _ =>
      first
      | (cases moves; done)
      | (exfalso; simp [Local.fits, Local.begins, Local.holds, stage] at fits)
  · rw [step_stage config φ i s (by simpa using moves), stage]

theorem locked_of_fits {φ : Local} {t : Thread} {site : Site} (fits : φ.fits t site)
    (owned : site.isLifecycle = true) (call : site ≠ .call) : φ.locked = true := by
  cases site <;>
    first
    | (cases owned; done)
    | exact absurd rfl call
    | exact fits.2
    | exact fits.1.2
    | exact fits.1.1.2
    | exact fits.choose_spec.1.2

theorem maintained_own {config : RuntimeConfig} {site : Site} {i : Input} {s : SafetyRuntime} {φ : Local}
    (maintained : Maintained s φ) (fits : φ.fits .lifecycle site) :
    Maintained (after config .lifecycle site i s) (φ.step config site i s.tick) := by
  have logs := after_logs config .lifecycle site i s
  refine ⟨transits_own maintained.transits fits, fun reached => ?_, fun parked => ?_⟩
  · obtain stage | ⟨operation, code, rfl⟩ := stage_failed reached
    · exact (maintained.failed stage).own fits stage
    · refine faultLeft_finish ?_
      rintro rfl
      exact nomatch fits.2.2.1
  · by_cases call : site = .call
    · subst call
      have reset : gaveUp (after config .lifecycle .call i s).log = false := by
        simp [after, effect, gaveUp]
      rw [reset] at parked
      cases parked
    · by_cases park : site = .retryPark
      · subst park
        exact ⟨(maintained.failed fits.2.1).own fits fits.2.1, fun _ => fits.2.1⟩
      · rw [gaveUp_of_logs logs call park] at parked
        obtain ⟨left, stage⟩ := maintained.parked parked
        by_cases locked : φ.locked = true
        · refine ⟨left.own fits (stage locked), fun still => ?_⟩
          by_cases returns : site = .returned
          · subst returns
            cases still
          · exact stays_failed fits (stage locked) returns
        · have theirs : site.isLifecycle = false := by
            by_contra owned
            exact locked (locked_of_fits fits (by simpa using owned) call)
          refine ⟨left.other theirs, fun still => absurd ?_ locked⟩
          rwa [step_locked config φ i s.tick ⟨call, by rintro rfl; cases theirs⟩] at still

theorem maintained_carried (config : RuntimeConfig) :
    Carried config anySection fun s φ => Maintained s (φ .lifecycle) := by
  refine .ofLifecycle ⟨nofun, nofun, nofun⟩ (fun site i s φ maintained _ fits _ => maintained_own maintained fits) ?_
  intro t site i s φ ψ other maintained _ fits _
  have theirs : site.isLifecycle = false := by
    by_contra owned
    exact other (lifecycle_of_fits fits (by simpa using owned))
  refine ⟨fun on => ?_, fun stage => (maintained.failed stage).other theirs, fun parked => ?_⟩
  · obtain same | ⟨off, -⟩ := transition_other (t := t) (i := i) (s := s) theirs
    · exact maintained.transits (same.symm.trans on)
    · rw [off] at on
      cases on
  · rw [gaveUp_of_logs (after_logs config t site i s) (by rintro rfl; cases theirs) (by rintro rfl; cases theirs)]
      at parked
    obtain ⟨left, stage⟩ := maintained.parked parked
    exact ⟨left.other theirs, stage⟩

/-! ## One attempt -/

section Attempt

variable {config : RuntimeConfig} {R : Interference} {s s' : SafetyRuntime} {trace : Trace}

/-- A complete transaction, its validation and a reading show every motor fresh and disabled. -/
structure DisabledShown (config : RuntimeConfig) (transaction validation reading : Taken SafetyRuntime Input Site) :
    Prop where
  transacts : transaction.label = .feedback
  validates : validation.label = .validate (missingReport config transaction.input)
  passes : refreshPasses config transaction.input validation.input = true
  looks : reading.label = .reading
  disabled : ∀ motor ∈ config.handles, (reads reading.input motor fun state => state.statusCode = 0) = true

theorem gives_requestAndValidate : (requestAndValidate config).Gives fun trace ok => ok = true →
    ∃ i j found found', trace = [⟨.feedback, i, found⟩, ⟨.validate (missingReport config i), j, found'⟩] ∧
      refreshPasses config i j = true := by
  intro R s trace r s' runs
  simp only [requestAndValidate, bind_eq, pure_eq] at runs
  obtain ⟨i, found, rest, -, rfl, validated⟩ := runs_feedback_bind.mp runs
  by_cases complete : requestComplete config i = true
  · simp only [complete, if_true] at validated
    obtain ⟨j, found', -, rfl, rfl, -⟩ := runs_act.mp validated
    refine ⟨_, rfl, fun valid => ⟨i, j, found, found', rfl, ?_⟩⟩
    simp only [refreshPasses, complete, Bool.true_and]
    exact valid
  · simp only [complete, Bool.false_eq_true, if_false] at validated
    obtain ⟨rfl, rfl, -⟩ := validated
    exact ⟨false, rfl, nofun⟩

theorem gives_applyMaintenance {operation : Maintenance} :
    (applyMaintenance config operation).Gives fun trace code => code = .ok →
      ∃ clears, trace = [clears] ∧ clears.label = .applyMaintenance operation ∧
        ∀ motor ∈ config.handles, clears.input.accepts motor = true := by
  refine .ite (fun _ => ?_) fun _ => .ret nofun
  refine .bind (P := fun trace applied => ∃ i found, trace = [⟨.applyMaintenance operation, i, found⟩] ∧
    applied = config.handles.all i.accepts) (gives_lookAt fun i found => ⟨i, found, rfl, rfl⟩) ?_
  rintro _ _ ⟨i, found, rfl, rfl⟩
  refine .ret fun ok => ⟨_, rfl, rfl, List.all_eq_true.mp ?_⟩
  by_contra no
  simp only [if_neg no] at ok
  cases ok

theorem gives_verifyMaintenance {operation : Maintenance} :
    (verifyMaintenance config operation).Gives fun trace code => code = .ok →
      ∃ transaction validation reading, trace = [transaction, validation, reading] ∧
        DisabledShown config transaction validation reading := by
  intro R s trace r s' runs
  simp only [verifyMaintenance, bind_eq, pure_eq] at runs
  obtain ⟨valid, middle, first, rest, requested, verified', rfl⟩ | ⟨e, requested, -⟩ := runs_bind.mp runs
  · obtain ⟨valid', same, refreshed⟩ := gives_requestAndValidate R s first _ middle requested
    obtain rfl := Except.ok.inj same
    cases valid with
    | false =>
      obtain ⟨rfl, rfl, -⟩ := verified'
      exact ⟨_, rfl, nofun⟩
    | true =>
      obtain ⟨i, j, found, found', rfl, passes⟩ := refreshed rfl
      simp only [Bool.not_true, Bool.false_eq_true, if_false] at verified'
      obtain ⟨k, read, -, rfl, rfl, -⟩ := runs_act.mp verified'
      refine ⟨_, rfl, fun ok => ⟨_, _, _, rfl, rfl, rfl, passes, rfl, fun motor member => ?_⟩⟩
      have all : config.handles.all (verified k operation) = true := by
        by_contra no
        simp only [if_neg no] at ok
        cases ok
      have one := List.all_eq_true.mp all motor member
      simp only [verified, reads, Option.any_eq_true, Bool.and_eq_true] at one ⊢
      obtain ⟨state, found, ⟨status, -⟩, -⟩ := one
      exact ⟨state, found, status⟩
  · obtain ⟨valid, impossible, -⟩ := gives_requestAndValidate R s trace _ s' requested
    cases impossible

/-- An attempt that returns `OK` passed its first section, cleared the errors of every motor and then found
every motor disabled. -/
theorem runs_maintenanceSteps {operation : Maintenance}
    (runs : (maintenanceSteps config operation).Runs R s trace (.ok .ok) s') :
    ∃ i found health clears transaction validation reading,
      trace = ⟨.maintenancePrecheck operation, i, found⟩ ::
        (health ++ [clears, transaction, validation, reading]) ∧
      R (.maintenancePrecheck operation) s found ∧ (found.tick.precheckMaintenance operation).1 = true ∧
      clears.label = .applyMaintenance operation ∧
      (∀ motor ∈ config.handles, clears.input.accepts motor = true) ∧
      DisabledShown config transaction validation reading := by
  simp only [maintenanceSteps, bind_eq, pure_eq] at runs
  obtain ⟨precheck, middle, first, rest, checked, applied, rfl⟩ | ⟨e, -, impossible⟩ := runs_bind.mp runs
  · by_cases passed : precheck = .ok
    · subst passed
      rw [if_neg (not_not.mpr rfl)] at applied
      simp only [maintenancePrecheck, bind_eq, pure_eq] at checked
      obtain ⟨i, found, health, between, rfl, later⟩ := runs_act_bind.mp checked
      have started : (found.tick.precheckMaintenance operation).1 = true := by
        by_contra no
        simp only [Bool.not_eq_true] at no
        rw [no] at later
        cases later.2.1
      obtain ⟨code, middle', second, last, cleared, shown, rfl⟩ | ⟨e, -, impossible⟩ := runs_bind.mp applied
      · by_cases ok : code = .ok
        · subst ok
          rw [if_neg (not_not.mpr rfl)] at shown
          obtain ⟨code, same, disabled⟩ := gives_verifyMaintenance R middle' last _ s' shown
          obtain rfl := Except.ok.inj same
          obtain ⟨transaction, validation, reading, rfl, shows⟩ := disabled rfl
          obtain ⟨code, same, clears⟩ := gives_applyMaintenance R middle second _ middle' cleared
          obtain rfl := Except.ok.inj same
          obtain ⟨apply, rfl, label, accepted⟩ := clears rfl
          exact ⟨i, found, health, apply, transaction, validation, reading, by simp, between, started, label,
            accepted, shows⟩
        · rw [if_pos ok] at shown
          exact absurd (Except.ok.inj shown.2.1).symm ok
      · cases impossible
    · rw [if_pos passed] at applied
      exact absurd (Except.ok.inj applied.2.1).symm passed
  · cases impossible

/-- What `run_motor_maintenance` does: it takes the mutex, finds its code, writes the mode of a successful
call, and finishes with that code. -/
theorem runs_runMotorMaintenance {operation : Maintenance} {mode : Option ControlMode} {code : OperationCode}
    (runs : (runMotorMaintenance config operation mode).Runs R s trace (.ok code) s') :
    ∃ lock steps writes finish unlock start middle, trace = lock :: (steps ++ writes ++ [finish, unlock]) ∧
      (maintenanceSteps config operation).Runs R start steps (.ok code) middle ∧
      (∀ write ∈ writes, write.label = .modeWrite mode) ∧ (∃ before, R finish.label before finish.found) ∧
      finish.label = .finishMaintenance operation code code.latches ∧ unlock.label = .unlock ∧
      R .unlock (after config .lifecycle finish.label finish.input finish.found) unlock.found ∧
      s' = after config .lifecycle .unlock unlock.input unlock.found := by
  obtain ⟨i, entry, j, left, start, middle, body, rfl, ran, between, rfl⟩ := runs_withCommand runs
  simp only [bind_eq, pure_eq] at ran
  obtain ⟨code', found, steps, rest, stepped, ended, rfl⟩ | ⟨e, -, impossible⟩ := runs_bind.mp ran
  · obtain ⟨⟨⟩, written, writes, rest', wrote, finished, rfl⟩ | ⟨e, -, impossible⟩ := runs_bind.mp ended
    · obtain ⟨k, last, rest'', between', rfl, rfl, same, rfl⟩ := runs_update_bind.mp finished
      obtain rfl := Except.ok.inj same
      have mode_only : ∀ write ∈ writes, write.label = .modeWrite mode :=
        wrote.every (P := fun label => label = .modeWrite mode) (every_when (every_act rfl))
      exact ⟨⟨.lock, i, entry⟩, steps, writes, ⟨.finishMaintenance operation code code.latches, k, last⟩,
        ⟨.unlock, j, left⟩, start, found, by simp, stepped, mode_only, ⟨written, between'⟩, rfl, rfl, between, rfl⟩
    · cases impossible
  · cases impossible

end Attempt

/-! ## The claim of `clear_faults` -/

section Sound

variable (config : RuntimeConfig) (allowed : Condition)

/-- What `clear_faults` leaves when it returns `OK`. -/
structure SafetyRuntime.Cleared (s : SafetyRuntime) : Prop where
  ready : s.state = .ready
  unlatched : s.flags.faultLatched = false ∧ s.flags.motorFaultLatched = false
  running : s.flags.emergencyStopLatched = false
  confirmed : s.flags.disableConfirmed = true

/-- The attempt began with the emergency stop off, its clear command to every motor succeeded, and then it
found every motor fresh and disabled and left the Runtime `READY`. -/
def FaultsCleared (trace : Trace) : Prop :=
  ∃ lock precheck health clears transaction validation reading writes finish unlock,
    trace = lock :: precheck :: (health ++ clears :: transaction :: validation :: reading ::
      (writes ++ [finish, unlock])) ∧
    precheck.label = .maintenancePrecheck .clearFaults ∧
    precheck.found.flags.emergencyStopLatched = false ∧
    clears.label = .applyMaintenance .clearFaults ∧
    (∀ motor ∈ config.handles, clears.input.accepts motor = true) ∧
    DisabledShown config transaction validation reading ∧
    finish.label = .finishMaintenance .clearFaults .ok false ∧
    (after config .lifecycle finish.label finish.input finish.found).Cleared

/-- The last section of a maintenance call that was rejected, or of a `clear_faults` call that timed out. -/
def Site.givesUp : Site → Bool
  | .finishMaintenance _ code _ => code = .invalidState
  | .retryTimeout => true
  | _ => false

/-- Fault clearing is sound and isolated: it returns `OK` only for cleared faults; its failures leave a
latched `FAULT`, and only lifecycle calls change that; and calls that are rejected or that time out leave
`state_` and `hardware_transition_` to the other calls. -/
structure ClearFaultsSound : Prop where
  clears : ∀ s trace s', (runMotorMaintenance config .clearFaults none).Runs
    ((runtime config).Between allowed .lifecycle) s trace (.ok .ok) s' → FaultsCleared config trace
  fails : ∀ s trace code s', (runMotorMaintenance config .clearFaults none).Runs
    ((runtime config).Between allowed .lifecycle) s trace (.ok code) s' →
    code = .transport ∨ code = .feedback ∨ code = .motorCommand ∨ code = .verification → FaultLeft s'
  timesOut : ∀ c t i c', (runtime config).Reach allowed c → (runtime config).next c (.advance t i) = some c' →
    Machine.Permits allowed c (.advance t i : Move Thread Input Op) → c.label t = some .retryTimeout →
    FaultLeft c'.shared
  stays : ∀ c c', (runtime config).Reach allowed c → (runtime config).Others allowed .lifecycle c c' →
    FaultLeft c.shared → FaultLeft c'.shared
  isolated : ∀ c t i c' site, (runtime config).Reach allowed c →
    (runtime config).next c (.advance t i) = some c' →
    Machine.Permits allowed c (.advance t i : Move Thread Input Op) → c.label t = some site → site.givesUp = true →
    c'.shared.state = c.shared.state ∧
      c'.shared.flags.hardwareTransition = c.shared.flags.hardwareTransition

end Sound

/-- A `clear_faults` call that has given up reports its timeout before another lifecycle call begins. -/
def timesOutAlone : Condition := fun _ site _ s => site = .retryTimeout → gaveUp s.log = true

section Proofs

variable {config : RuntimeConfig} {allowed : Condition} {s s' : SafetyRuntime} {trace : Trace}

/-- The emergency stop is off where a maintenance call passes its first section. -/
theorem running_of_precheck {s found : SafetyRuntime}
    (between : (runtime config).Between allowed .lifecycle (.maintenancePrecheck .clearFaults) s found)
    (started : (found.tick.precheckMaintenance .clearFaults).1 = true) :
    found.flags.emergencyStopLatched = false := by
  obtain ⟨φ, guarded, ⟨-, stage, recovery⟩, -⟩ :=
    fits_of_between (guarded_carried config).under between
  have quiet : ¬ found.recovering = true := by
    intro recovers
    simp [guarded.recovering.mp recovers] at recovery
  by_contra stopped
  have stopped : found.flags.emergencyStopLatched = true := by simpa using stopped
  obtain ⟨-, state⟩ := (guarded.halted stopped (by simpa using quiet)).1.latched (by simp [stage])
  rcases state with state | state <;> simp [precheckMaintenance, state, stopped] at started

/-- What a successful `clear_faults` leaves. -/
theorem cleared_finish {before found : SafetyRuntime} (i : Input)
    (between : (runtime config).Between allowed .lifecycle (.finishMaintenance .clearFaults .ok false) before found) :
    (after config .lifecycle (.finishMaintenance .clearFaults .ok false) i found).Cleared := by
  obtain ⟨φ, guarded, -, -, -, recovery, ⟨stage, -⟩ | ⟨-, impossible⟩⟩ :=
    fits_of_between (guarded_carried config).under between
  · refine ⟨rfl, ?_, ?_, rfl⟩
    · simp [after, effect, SafetyRuntime.finishMaintenance]
    · have quiet : ¬ found.recovering = true := by
        intro recovers
        simp [guarded.recovering.mp recovers] at recovery
      by_contra stopped
      have stopped : found.flags.emergencyStopLatched = true := by
        rw [← (after_footprint config .lifecycle (.finishMaintenance .clearFaults .ok false) i found).emergency rfl]
        simpa only [Bool.not_eq_false] using stopped
      have preserves := (guarded.halted stopped (by simpa using quiet)).2
      simp [stage, Stage.preserves] at preserves
  · cases impossible

theorem faultLeft_others {c c₁ : Config Thread SafetyRuntime Input Site String}
    (reach : (runtime config).Reach allowed c) (others : (runtime config).Others allowed .lifecycle c c₁)
    (left : FaultLeft c.shared) : FaultLeft c₁.shared := by
  refine others_rel (P := fun s found => FaultLeft s → FaultLeft found)
    (locks_carried config).under (fun _ => id) ?_ reach others left
  intro s found φ u site i other _ fits _ _ keeps left
  refine (keeps left).other ?_
  by_contra owned
  exact other (lifecycle_of_fits fits (by simpa using owned))

theorem faultLeft_between {label : Site} {s found : SafetyRuntime}
    (between : (runtime config).Between allowed .lifecycle label s found) (left : FaultLeft s) :
    FaultLeft found := by
  obtain ⟨c, c₁, reach, rfl, others, rfl, -⟩ := between
  exact faultLeft_others reach others left

/-- In every run in which each `clear_faults` call that has given up reports its timeout before another
lifecycle call begins, fault clearing is sound and isolated. -/
theorem clearFaultsSound (config : RuntimeConfig) : ClearFaultsSound config timesOutAlone := by
  refine ⟨fun s trace s' runs => ?_, fun s trace code s' runs latching => ?_,
    fun c t i c' reach moved permitted label => ?_, fun c c' reach others left => faultLeft_others reach others left,
    fun c t i c' site reach moved permitted label gives => ?_⟩
  · obtain ⟨lock, steps, writes, finish, unlock, start, middle, rfl, stepped, -, ⟨before, between⟩, finishes, -, -,
      rfl⟩ := runs_runMotorMaintenance runs
    obtain ⟨i, found, health, clears, transaction, validation, reading, rfl, checked, started, applied, accepted,
      shown⟩ := runs_maintenanceSteps stepped
    refine ⟨lock, ⟨.maintenancePrecheck .clearFaults, i, found⟩, health, clears, transaction, validation, reading, writes,
      finish, unlock, by simp, rfl, running_of_precheck checked started, applied, accepted, shown, finishes, ?_⟩
    have finishes : finish.label = .finishMaintenance .clearFaults .ok false := finishes
    rw [finishes] at between ⊢
    exact cleared_finish finish.input between
  · obtain ⟨lock, steps, writes, finish, unlock, start, middle, rfl, -, -, -, finishes, -, between, rfl⟩ :=
      runs_runMotorMaintenance runs
    have latches : code ≠ .ok ∧ code.latches = true := by
      rcases latching with rfl | rfl | rfl | rfl <;> exact ⟨nofun, rfl⟩
    rw [finishes, latches.2] at between
    exact (faultLeft_between between (faultLeft_finish latches.1)).other rfl
  · obtain ⟨φ, -, -, -, -, same⟩ := (locks_carried config).under.section_of_advance reach moved
      permitted label
    rw [same]
    exact ⟨rfl, rfl, rfl, rfl⟩
  · obtain ⟨φ, maintained, -, fits, permits, same⟩ := (maintained_carried config).under.section_of_advance
      reach moved permitted label
    rw [same]
    cases site with
    | finishMaintenance operation code latchFault =>
      have rejected : code = .invalidState := by simpa [Site.givesUp] using gives
      subst rejected
      obtain ⟨⟨rfl, -⟩, -, rfl, recovery, ⟨-, impossible, -⟩ | ⟨stage, -⟩⟩ := fits
      · exact absurd rfl impossible
      · have off : c.shared.flags.hardwareTransition = false := by
          by_contra held
          have transits := maintained.transits (by simpa using held)
          simp [Local.transits, stage, recovery, Stage.transits, Recovery.calms] at transits
        exact ⟨rfl, off.symm⟩
    | retryTimeout =>
      obtain ⟨left, -⟩ := maintained.parked (permits rfl)
      exact ⟨left.fault.symm, left.released.symm⟩
    | _ => cases gives

end Proofs

/-- A feedback transaction that neither channel answers. -/
def Scenario.silent : Input := { Scenario.powered 0 with codes := fun _ => false }

/-- A `clear_faults` call gives up, another one succeeds, and then the first one reports its timeout. -/
def Scenario.lateTimeout : List Scenario.Move :=
  Scenario.call .connect 7 (Scenario.powered 0) ++ Scenario.call .clearFaults 9 Scenario.silent ++
    Scenario.call .clearFaults 15 (Scenario.powered 0) ++ [.start (.client 0 true .clearFaultsTimeout)]

/-- The late timeout overwrites the `READY` of the call that succeeded. -/
theorem clearFaults_overwrites : ¬ ClearFaultsSound Scenario.config anySection := by
  intro sound
  obtain ⟨c, reach, seen⟩ := Machine.exists_config_of_run (M := runtime Scenario.config)
    (fun _ _ _ _ => true) (fun c => (c.label (.client 0), c.shared.state,
      ((runtime Scenario.config).next c (.advance (.client 0) {})).map fun c' => c'.shared.state)) Scenario.lateTimeout
    (fun _ _ _ _ _ => trivial) (b := (some .retryTimeout, .ready, some .fault)) (by rfl)
  simp only [Prod.mk.injEq] at seen
  obtain ⟨label, ready, late⟩ := seen
  obtain ⟨c', moved, fault⟩ := Option.map_eq_some_iff.mp late
  have same := (sound.isolated c (.client 0) {} c' .retryTimeout reach moved (fun _ _ => trivial) label rfl).1
  rw [fault, ready] at same
  cases same

end MotorDrive.Runtime
