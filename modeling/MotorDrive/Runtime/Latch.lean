import MotorDrive.Runtime.Emergency

/-!
# The fault latch

`fault_latched_` and `state_` are written by the same sections but not always together: a dozen sections
of lifecycle calls write the state that they prepared before the mutex was dropped.  The latch and the
state agree in every run in which none of these write-backs finds a latch that was set meanwhile, and in
such a run the latch is dropped by `clear_faults`, `recover` and a `connect` that found every motor
disabled, and by nothing else.
-/

namespace MotorDrive.Runtime

open Threads SafetyRuntime

/-! ## Disconnected Runtimes -/

/-- What holds in every run of a Runtime that is not connected yet, and of the transactions around it. -/
structure Apart (s : SafetyRuntime) (φ : Local) : Prop where
  connecting : φ.stage = .connecting false → s.state = .disconnected ∧ s.flags.stopping = false
  closing : φ.stage = .closing → s.flags.stopping = true
  batching : ∀ selected enabled started, φ.stage = .batching selected enabled started →
    started ≠ .disconnected
  unused : s.state = .disconnected → s.flags.stopping = false →
    s.retries = 0 ∧ φ.prechecked = false ∧
      (s.flags.faultLatched = true → s.flags.emergencyStopLatched = true)

/-- Only `stop_worker` disconnects, and only `estop` latches the fault of a disconnected Runtime. -/
theorem disconnected_after {config : RuntimeConfig} {t : Thread} {site : Site} {i : Input}
    {s : SafetyRuntime} (stays : (after config t site i s).state = .disconnected)
    (other : site ≠ .stopDone)
    (connected : ∀ selected enabled started outcome allDisabled,
      site = .batchCommit selected enabled started outcome allDisabled → started ≠ .disconnected) :
    s.state = .disconnected ∧ (site ≠ .estopLatch →
      (after config t site i s).flags.faultLatched = s.flags.faultLatched) := by
  have footprint := after_footprint config t site i s
  by_cases control : site.movesControl = true
  · have moves := after_control config t i s control
    rw [stays] at moves
    exact ⟨by simpa [eq_comm] using moves, fun _ => footprint.latched (by cases site <;> trivial)⟩
  · cases site with
    | stopDone => exact absurd rfl other
    | batchCommit selected enabled started outcome allDisabled =>
      have connected := connected selected enabled started outcome allDisabled rfl
      have state := state_commitBatch s.tick (currentMotorFaultReported config i) config selected
        enabled started outcome allDisabled
      change (after config t (.batchCommit selected enabled started outcome allDisabled) i s).state = _
        at state
      rw [state] at stays
      split_ifs at stays with failed
      · exact absurd stays connected
      · refine ⟨stays, fun _ => ?_⟩
        simp [after, effect, latched_commitBatch, failed]
    | connectCommit faulted disabled =>
      change (if _ then SafetyState.fault else SafetyState.ready) = _ at stays
      split_ifs at stays
    | disableCommit confirmed preserveFault =>
      change (if _ then SafetyState.ready else SafetyState.fault) = _ at stays
      split_ifs at stays
    | motorPowerCommit allDisabled =>
      change (if _ then SafetyState.ready else SafetyState.partiallyEnabled) = _ at stays
      split_ifs at stays
    | finishMaintenance operation code latchFault =>
      have state := state_finishMaintenance s.tick (currentMotorFaultReported config i) operation code
        latchFault
      change (after config t (.finishMaintenance operation code latchFault) i s).state = _ at state
      rw [state] at stays
      split_ifs at stays with failed latches
      refine ⟨stays, fun _ => ?_⟩
      simp [after, effect, latched_finishMaintenance, failed, latches]
    | retryTimeout => cases stays
    | enterFault allowProtectiveHold armHoldAvailable =>
      have state := state_enterFault s.tick allowProtectiveHold armHoldAvailable
        (currentMotorFaultReported config i)
      change (after config t (.enterFault allowProtectiveHold armHoldAvailable) i s).state = _ at state
      rw [state] at stays
      split_ifs at stays with disconnected
      exact ⟨stays, fun _ => by simp [after, effect, latched_enterFault, show s.state = _ from stays]⟩
    | enterSafeStop =>
      have state := state_enterSafeStop s.tick
      change (after config t .enterSafeStop i s).state = _ at state
      rw [state] at stays
      split_ifs at stays with idle
      exact ⟨stays, fun _ => by simp [after, effect, latched_enterSafeStop, show s.state = _ from stays]⟩
    | enableFailed | initializeEnabled _ _ | recoverFreeze | recoverReady | recoverDone
    | recoverFailFault | recoverFailed _ | gravityStart _ | bimanualStart _ => cases stays
    | estopLatch => exact ⟨(footprint.state rfl).symm.trans stays, fun notEstop => absurd rfl notEstop⟩
    | safeHoldInstall _ _ _ | enterDegraded | cycleSent _ _ _ | gripperSent _ _ => simp [Site.movesControl] at control
    | _ => exact ⟨(footprint.state rfl).symm.trans stays, fun _ => footprint.latched rfl⟩

/-- The transactions that `Apart` speaks about begin where it says. -/
theorem stage_apart {config : RuntimeConfig} {site : Site} {i : Input} {s : SafetyRuntime} {φ : Local}
    {stage : Stage} (reached : (φ.step config site i s).stage = stage)
    (watched : stage = .connecting false ∨ stage = .closing ∨ ∃ selected enabled started,
      stage = .batching selected enabled started) :
    φ.stage = stage ∨
      site = .connectCheck ∧ stage = .connecting false ∧ s.state = .disconnected ∧
        s.flags.stopping = false ∨
      site = .stopStart ∧ stage = .closing ∨
      ∃ selected enabled, site = .batchStart selected enabled ∧
        stage = .batching selected enabled s.state ∧ s.state ≠ .disconnected := by
  by_cases moves : site.movesStage = true
  · cases site with
    | connectCheck =>
      obtain same | ⟨active, ⟨disconnected, begun⟩ | ⟨-, begun⟩⟩ := stage_connectCheck config φ i s
      · exact .inl (same.symm.trans reached)
      · exact .inr (.inl ⟨rfl, reached.symm.trans begun, disconnected, active⟩)
      · simp [reached.symm.trans begun] at watched
    | stopStart => exact .inr (.inr (.inl ⟨rfl, reached.symm⟩))
    | batchStart selected enabled =>
      obtain same | ⟨starts, begun⟩ := stage_batchStart config φ i s selected enabled
      · exact .inl (same.symm.trans reached)
      · exact .inr (.inr (.inr ⟨selected, enabled, rfl, reached.symm.trans begun, starts.1⟩))
    | _ =>
      first
      | cases moves; done
      | simp only [Local.step, Local.enter, Local.leave, Local.unlock] at reached
        repeat' split at reached
        all_goals
          first
          | exact .inl reached
          | (subst reached; simp at watched)
  · exact .inl ((step_stage config φ i s (by simpa using moves)).symm.trans reached)

/-- The lifecycle thread writes no state while `connect` runs its first transaction. -/
theorem state_connecting {config : RuntimeConfig} {site : Site} {i : Input} {s : SafetyRuntime}
    {φ : Local} (fits : φ.fits .lifecycle site) (stage : φ.stage = .connecting false)
    (reached : (φ.step config site i s.tick).stage = .connecting false) :
    (after config .lifecycle site i s).state = s.state := by
  have footprint := after_footprint config .lifecycle site i s
  by_cases writes : site.writesState = true
  · cases site with
    | connectCommit faulted disabled => cases reached
    | enterFault allowProtectiveHold armHoldAvailable => cases reached
    | retryTimeout => exact absurd rfl fits
    | safeHoldInstall since mode commands => exact absurd rfl fits.1.1
    | enterSafeStop => exact nomatch fits.1
    | enterDegraded => exact nomatch fits.1
    | cycleSent mode time frame => exact nomatch fits.2.choose_spec.1.1
    | gripperSent time commands => exact nomatch fits.1
    | finishMaintenance operation code latchFault =>
      rw [stage_finishMaintenance] at reached
      split_ifs at reached
    | gravityStart since => cases reached
    | bimanualStart since => cases reached
    | _ =>
      first
      | cases writes; done
      | simp [Local.fits, Local.begins, stage] at fits
  · exact footprint.state (by simpa using writes)

theorem apart_own {config : RuntimeConfig} {site : Site} {i : Input} {s : SafetyRuntime} {φ : Local}
    (apart : Apart s φ) (fits : φ.fits .lifecycle site) :
    Apart (after config .lifecycle site i s) (φ.step config site i s.tick) := by
  have footprint := after_footprint config .lifecycle site i s
  constructor
  · intro reached
    obtain stage | ⟨rfl, -, disconnected, active⟩ | ⟨-, same⟩ | ⟨_, _, -, same, -⟩ :=
      stage_apart reached (.inl rfl)
    · obtain ⟨disconnected, active⟩ := apart.connecting stage
      refine ⟨(state_connecting fits stage reached).trans disconnected, ?_⟩
      rw [footprint.stopping]
      · exact active
      · rintro rfl
        cases reached
    · exact ⟨(footprint.state rfl).trans disconnected, (footprint.stopping (by simp)).trans active⟩
    · cases same
    · cases same
  · intro reached
    obtain stage | ⟨-, same, -⟩ | ⟨rfl, -⟩ | ⟨_, _, -, same, -⟩ :=
      stage_apart reached (.inr (.inl rfl))
    · by_cases starts : site = .stopStart
      · subst starts
        rfl
      · rw [footprint.stopping starts]
        exact apart.closing stage
    · cases same
    · rfl
    · cases same
  · intro selected enabled started reached
    obtain stage | ⟨-, same, -⟩ | ⟨-, same⟩ | ⟨_, _, -, same, connected⟩ :=
      stage_apart reached (.inr (.inr ⟨selected, enabled, started, rfl⟩))
    · exact apart.batching selected enabled started stage
    · cases same
    · cases same
    · obtain ⟨-, -, rfl⟩ := Stage.batching.inj same
      exact connected
  · intro stays active
    have starts : site ≠ .stopStart := by
      rintro rfl
      cases active
    rw [footprint.stopping starts] at active
    have ends : site ≠ .stopDone := by
      rintro rfl
      have stopped := apart.closing fits.2
      simp [active] at stopped
    obtain ⟨disconnected, latched⟩ := disconnected_after stays ends fun selected enabled started _ _ same =>
      apart.batching selected enabled started (by subst same; exact fits.2.1)
    obtain ⟨retries, prechecked, guarded⟩ := apart.unused disconnected active
    refine ⟨?_, ?_, fun isLatched => ?_⟩
    · rw [footprint.retries]
      · exact retries
      · cases site with
        | retryPark => simp [fits.2] at prechecked
        | retryTimeout => exact absurd rfl fits
        | _ => rfl
    · cases site with
      | call => rfl
      | maintenancePrecheck operation =>
        have refused : (s.tick.precheckMaintenance operation).1 = false := by
          simp [precheckMaintenance, disconnected]
        simp only [Local.step, refused]
        exact prechecked
      | _ => exact (step_prechecked config φ i s.tick (by simp) (by simp)).trans prechecked
    · by_cases stop : site = .estopLatch
      · subst stop
        simp only [after, effect, latchEstop]
        split_ifs with already
        · exact already
        · rfl
        · rfl
      · rw [footprint.emergency]
        · exact guarded ((latched stop).symm.trans isLatched)
        · cases site with
          | estopLatch => exact absurd rfl stop
          | recoverDone => cases stays
          | _ => rfl

/-- Another thread leaves a disconnected Runtime disconnected, unless a `clear_faults` call timed out. -/
theorem disconnected_other {config : RuntimeConfig} {t : Thread} {site : Site} {i : Input}
    {s : SafetyRuntime} (theirs : site.isLifecycle = false) (parked : site ≠ .retryTimeout)
    (disconnected : s.state = .disconnected) : (after config t site i s).state = .disconnected := by
  by_cases control : site.movesControl = true
  · simpa [disconnected] using after_control config t i s control
  · cases site with
    | enterFault allowProtectiveHold armHoldAvailable =>
      exact (state_enterFault s.tick allowProtectiveHold armHoldAvailable _).trans (by simp [disconnected])
    | enterSafeStop => exact (state_enterSafeStop s.tick).trans (by simp [disconnected])
    | retryTimeout => exact absurd rfl parked
    | _ =>
      first
      | cases theirs; done
      | simp [Site.movesControl] at control; done
      | exact ((after_footprint config t _ i s).state rfl).trans disconnected

theorem apart_carried (config : RuntimeConfig) :
    Carried config anySection fun s φ => Apart s (φ .lifecycle) := by
  refine .ofLifecycle ⟨nofun, nofun, nofun, fun _ _ => ⟨rfl, rfl, nofun⟩⟩
    (fun site i s φ apart _ fits _ => apart_own apart fits) ?_
  intro t site i s φ ψ other apart isReady fits _
  have footprint := after_footprint config t site i s
  have theirs : site.isLifecycle = false := by
    by_contra owned
    exact other (lifecycle_of_fits fits (by simpa using owned))
  have stopping : (after config t site i s).flags.stopping = s.flags.stopping := by
    refine footprint.stopping ?_
    rintro rfl
    cases theirs
  have emergency : (after config t site i s).flags.emergencyStopLatched =
      s.flags.emergencyStopLatched := by
    refine footprint.emergency ?_
    cases site <;> first | rfl | cases theirs
  have parked (disconnected : s.state = .disconnected) (active : s.flags.stopping = false) :
      site ≠ .retryTimeout := by
    rintro rfl
    have none : s.retries ≠ 0 := by simpa [Site.ready] using isReady
    exact none (apart.unused disconnected active).1
  refine ⟨fun stage => ?_, fun stage => stopping.trans (apart.closing stage), apart.batching,
    fun stays active => ?_⟩
  · obtain ⟨disconnected, active⟩ := apart.connecting stage
    exact ⟨disconnected_other theirs (parked disconnected active) disconnected, stopping.trans active⟩
  · rw [stopping] at active
    obtain ⟨disconnected, latched⟩ := disconnected_after stays
      (by rintro rfl; cases theirs) (by rintro _ _ _ _ _ rfl; cases theirs)
    obtain ⟨retries, prechecked, guarded⟩ := apart.unused disconnected active
    refine ⟨?_, prechecked, ?_⟩
    · rw [footprint.retries]
      · exact retries
      · have parked := parked disconnected active
        cases site <;> first | rfl | exact absurd rfl parked | cases theirs
    · rw [latched (by rintro rfl; cases theirs), emergency]
      exact guarded

/-! ## Evidence -/

/-- How far the feedback of a call has come: a complete transaction, fresh feedback of every motor since,
every motor disabled since. -/
def Evidence.level : Evidence → ℕ
  | .none | .doubtful => 0
  | .fed => 1
  | .validated => 2
  | .proved => 3

/-- What a reading adds, given whether every motor is fresh and whether every motor is disabled. -/
def raise : Bool → Bool → ℕ → ℕ
  | true, true, level => if 1 ≤ level then max 3 level else level
  | true, false, level => if 1 ≤ level then max 2 level else level
  | false, true, level => if 2 ≤ level then max 3 level else level
  | false, false, level => level

/-- What the log shows of the motors since the newest lifecycle call began. -/
def shown (handles : List Handle) : List Event → ℕ
  | [] | .call :: _ => 0
  | .feedback true _ :: older => max 1 (shown handles older)
  | .reading fresh disabled :: older =>
    raise (handles.all fresh.contains) (handles.all disabled.contains) (shown handles older)
  | _ :: older => shown handles older

theorem raise_mono (fresh disabled : Bool) {l l' : ℕ} (le : l ≤ l') :
    raise fresh disabled l ≤ raise fresh disabled l' := by
  cases fresh <;> cases disabled <;> simp only [raise] <;> (try split_ifs) <;> omega

theorem le_raise (fresh disabled : Bool) (level : ℕ) : level ≤ raise fresh disabled level := by
  cases fresh <;> cases disabled <;> simp only [raise] <;> (try split_ifs) <;> omega

/-- Whatever is logged within a call, nothing that was shown is taken back. -/
theorem shown_le_of_logs {site : Site} {log log' : List Event} (handles : List Handle)
    (logs : site.Logs log log') (call : site ≠ .call) : shown handles log ≤ shown handles log' := by
  obtain ⟨added, rfl, all⟩ := logs
  induction added with
  | nil => exact le_rfl
  | cons e added ih =>
    have le := ih fun e found => all e (List.mem_cons_of_mem _ found)
    refine le.trans ?_
    cases e with
    | call => exact absurd (of_decide_eq_true (all _ List.mem_cons_self)) call
    | feedback complete missing =>
      cases complete with
      | true => exact le_max_right _ _
      | false => exact le_rfl
    | reading fresh disabled => exact le_raise _ _ _
    | _ => exact le_rfl

theorem all_contains_filter (handles : List Handle) (p : Handle → Bool) :
    handles.all (handles.filter p).contains = handles.all p := by
  rw [Bool.eq_iff_iff]
  simp +contextual [List.all_eq_true]

theorem level_read (config : RuntimeConfig) (i : Input) (evidence : Evidence) :
    (evidence.read config i).level = raise (allFresh config i) (allDisabled config i) evidence.level := by
  cases fresh : allFresh config i <;> cases disabled : allDisabled config i <;> cases evidence <;>
    simp [Evidence.read, raise, Evidence.level, fresh, disabled]

/-- The section shows something of the motors, or moves one. -/
def Site.gathers : Site → Bool
  | .call | .feedback | .reading | .validate _ | .healthRead _ | .confirmRead _ _ | .send _ _ _ _
  | .enableMotors _ => true
  | _ => false

theorem step_evidence (config : RuntimeConfig) (φ : Local) {site : Site} (i : Input)
    (s : SafetyRuntime) (quiet : site.gathers = false) :
    (φ.step config site i s).evidence = φ.evidence := by
  cases site <;> simp only [Local.step] <;>
    first
    | rfl
    | (split_ifs <;> rfl)
    | (split <;> rfl)
    | cases quiet

theorem shown_reading (config : RuntimeConfig) (i : Input) (log : List Event) :
    shown config.handles (readingOf config i :: log) =
      raise (allFresh config i) (allDisabled config i) (shown config.handles log) := by
  simp only [readingOf, shown, all_contains_filter]
  rfl

/-- A motor that `collect_unconfirmed` does not list is fresh and reports disabled. -/
theorem confirmed_motors {config : RuntimeConfig} {i : Input} {complete : Bool}
    {missing : List MissingMotor}
    (none : ¬ config.motors.any (unconfirmed config i complete missing) = true) :
    allFresh config i = true ∧ allDisabled config i = true := by
  have confirmed : ∀ motor ∈ config.motors, fresh config i motor.motor = true ∧
      (reads i motor.motor fun state => decide (state.statusCode = 0)) = true := by
    intro motor found
    by_contra doubted
    refine none (List.any_eq_true.mpr ⟨motor, found, ?_⟩)
    simp only [unconfirmed, Bool.or_eq_true, Bool.not_eq_true']
    rw [not_and_or, Bool.not_eq_true, Bool.not_eq_true] at doubted
    tauto
  simp only [allFresh, allDisabled, RuntimeConfig.handles, List.all_map, List.all_eq_true,
    Function.comp_apply]
  exact ⟨fun motor found => (confirmed motor found).1, fun motor found => (confirmed motor found).2⟩

theorem level_confirm (config : RuntimeConfig) (i : Input) (complete : Bool)
    (missing : List MissingMotor) (evidence : Evidence) :
    (evidence.confirm config i complete missing).level ≤
      raise (allFresh config i) (allDisabled config i) evidence.level := by
  unfold Evidence.confirm
  split_ifs with doubted none
  · exact (level_read config i evidence).le
  · exact Nat.zero_le _
  · obtain ⟨fresh, disabled⟩ := confirmed_motors doubted
    rw [fresh, disabled]
    cases evidence <;> simp_all [raise, Evidence.level]

/-- What the lifecycle thread has seen of the motors is in the log. -/
def Evidenced (config : RuntimeConfig) (s : SafetyRuntime) (φ : Local) : Prop :=
  φ.evidence.level ≤ shown config.handles s.log

theorem log_reading {config : RuntimeConfig} {t : Thread} {site : Site} {i : Input} {s : SafetyRuntime}
    (reads : site = .reading ∨ (∃ missing, site = .validate missing) ∨
      (∃ missing, site = .healthRead missing) ∨ ∃ complete missing, site = .confirmRead complete missing) :
    (after config t site i s).log = readingOf config i :: s.log := by
  obtain rfl | ⟨_, rfl⟩ | ⟨_, rfl⟩ | ⟨_, _, rfl⟩ := reads <;> simp [after, effect]

theorem evidenced_own {config : RuntimeConfig} {site : Site} {i : Input} {s : SafetyRuntime} {φ : Local}
    (evidenced : Evidenced config s φ) :
    Evidenced config (after config .lifecycle site i s) (φ.step config site i s.tick) := by
  unfold Evidenced at evidenced ⊢
  have logs := after_logs config .lifecycle site i s
  by_cases gathers : site.gathers = true
  · cases site with
    | call | send _ _ _ _ | enableMotors _ => exact Nat.zero_le _
    | feedback =>
      simp only [Local.step]
      split_ifs with complete
      · have log : (after config .lifecycle .feedback i s).log =
            .feedback true (missingOn config i 0 ++ missingOn config i 1) :: s.log := by
          simp [after, effect, complete]
        rw [log]
        exact le_max_left _ _
      · exact Nat.zero_le _
    | reading =>
      rw [log_reading (.inl rfl), shown_reading]
      exact (level_read config i φ.evidence).trans_le (raise_mono _ _ evidenced)
    | validate missing =>
      rw [log_reading (.inr (.inl ⟨_, rfl⟩)), shown_reading]
      exact (level_read config i φ.evidence).trans_le (raise_mono _ _ evidenced)
    | healthRead missing =>
      rw [log_reading (.inr (.inr (.inl ⟨_, rfl⟩))), shown_reading]
      exact (level_read config i φ.evidence).trans_le (raise_mono _ _ evidenced)
    | confirmRead complete missing =>
      rw [log_reading (.inr (.inr (.inr ⟨_, _, rfl⟩))), shown_reading]
      exact (level_confirm config i complete missing φ.evidence).trans (raise_mono _ _ evidenced)
    | _ => cases gathers
  · rw [step_evidence config φ i s.tick (by simpa using gathers)]
    refine evidenced.trans (shown_le_of_logs config.handles logs ?_)
    rintro rfl
    exact gathers rfl

theorem evidenced_carried (config : RuntimeConfig) :
    Carried config anySection fun s φ => Evidenced config s (φ .lifecycle) := by
  refine .ofLifecycle (Nat.zero_le _) (fun site i s φ evidenced _ _ _ => evidenced_own evidenced) ?_
  intro t site i s φ ψ other evidenced _ fits _
  refine Nat.le_trans evidenced (shown_le_of_logs config.handles (after_logs config t site i s) ?_)
  rintro rfl
  exact other fits.1

/-! ## The latch and the state -/

/-- The section writes a state that was decided before the mutex was dropped, and looks at the latch
no more; `enter_safe_stop` drops the latch. -/
def Site.overwrites (site : Site) (s : SafetyRuntime) : Bool :=
  match site with
  | .initializeEnabled _ _ | .motorPowerCommit _ | .gravityStart _ | .bimanualStart _ => true
  | .disableCommit confirmed preserveFault => confirmed && !preserveFault
  | .batchCommit _ enabled started _ _ => preserveAbnormalState enabled started && started ≠ .fault
  | .finishMaintenance operation code _ => code = .ok && operation ≠ .clearFaults
  | .enterSafeStop => s.state ≠ .disconnected && s.state ≠ .ready && s.state ≠ .fault
  | _ => false

/-- No write-back finds the fault latch set. -/
def keepsLatch (_ : Thread) (site : Site) (_ : Input) (s : SafetyRuntime) : Bool :=
  !(site.overwrites s && s.flags.faultLatched)

/-- A latched fault is the state, or `estop` has still to enter it. -/
def Held (s : SafetyRuntime) (φ : Local) : Prop :=
  s.flags.faultLatched = true → s.state = .fault ∨ s.state = .disconnected ∨ φ.stage = .estopping

theorem stage_estopping {config : RuntimeConfig} {site : Site} {i : Input} {s : SafetyRuntime}
    {φ : Local} (fits : φ.fits .lifecycle site) (stage : φ.stage = .estopping)
    (other : ∀ hold available, site ≠ .enterFault hold available) :
    (φ.step config site i s).stage = .estopping := by
  by_cases moves : site.movesStage = true
  · cases site with
    | enterFault hold available => exact absurd rfl (other hold available)
    | unlock => simp [Local.step, Local.unlock, stage]
    | enterSafeStop => cases fits.1
    | enterDegraded => cases fits.1
    | workerDecide => cases fits.1
    | feedbackFailed | holdFailed => cases fits
    | _ =>
      first
      | cases moves; done
      | simp [Local.fits, Local.begins, Local.holds, stage] at fits
  · exact (step_stage config φ i s (by simpa using moves)).trans stage

theorem Held.keep {config : RuntimeConfig} {site : Site} {i : Input} {s : SafetyRuntime} {φ : Local}
    (held : Held s φ) (fits : φ.fits .lifecycle site)
    (other : ∀ hold available, site ≠ .enterFault hold available)
    (state : (after config .lifecycle site i s).state = s.state)
    (latched : (after config .lifecycle site i s).flags.faultLatched = s.flags.faultLatched) :
    Held (after config .lifecycle site i s) (φ.step config site i s.tick) := by
  intro isLatched
  rw [latched] at isLatched
  rw [state]
  obtain fault | disconnected | stage := held isLatched
  · exact .inl fault
  · exact .inr (.inl disconnected)
  · exact .inr (.inr (stage_estopping fits stage other))

theorem held_own {config : RuntimeConfig} {site : Site} {i : Input} {s : SafetyRuntime} {φ : Local}
    (guarded : Guarded s φ) (held : Held s φ) (fits : φ.fits .lifecycle site)
    (permitted : keepsLatch .lifecycle site i s = true) :
    Held (after config .lifecycle site i s) (φ.step config site i s.tick) := by
  have footprint := after_footprint config .lifecycle site i s
  have free (overwrites : site.overwrites s = true) : s.flags.faultLatched = false := by
    simpa [keepsLatch, overwrites] using permitted
  by_cases writes : site.writesState = true ∨ site.writesLatch = true
  · cases site with
    | connectCommit faulted disabled =>
      intro isLatched
      refine .inl ?_
      change (if _ then SafetyState.fault else SafetyState.ready) = _
      exact if_pos isLatched
    | enableFailed | recoverFreeze | recoverFailFault | recoverFailed _ => exact fun _ => .inl rfl
    | initializeEnabled _ _ | motorPowerCommit _ | gravityStart _ | bimanualStart _ =>
      intro isLatched
      rw [footprint.latched rfl, free rfl] at isLatched
      cases isLatched
    | disableCommit confirmed preserveFault =>
      by_cases ready : confirmed = true ∧ (!preserveFault) = true
      · intro isLatched
        have kept : (after config .lifecycle (.disableCommit confirmed preserveFault) i
            s).flags.faultLatched = s.flags.faultLatched := if_pos ready
        have free := free (by simpa [Site.overwrites] using ready)
        simp [kept, free] at isLatched
      · exact fun _ => .inl (if_neg ready)
    | estopLatch =>
      intro _
      rw [stage_estopLatch, footprint.state rfl]
      split_ifs with again
      · obtain already | disconnected := again
        · have idle : s.recovering = false := by
            by_contra homing
            have recovery := guarded.recovering.mp (by simpa using homing)
            simp [fits.2.2] at recovery
          obtain ⟨halted, -⟩ := guarded.halted already idle
          obtain ⟨-, state⟩ := halted.latched (by simp [fits.2.1])
          exact state.imp_right .inl
        · exact .inr (.inl disconnected)
      · exact .inr (.inr rfl)
    | batchCommit selected enabled started outcome allDisabled =>
      intro isLatched
      have state := state_commitBatch s.tick (currentMotorFaultReported config i) config selected
        enabled started outcome allDisabled
      have latched := latched_commitBatch s.tick (currentMotorFaultReported config i) config selected
        enabled started outcome allDisabled
      change (after config .lifecycle (.batchCommit selected enabled started outcome allDisabled) i
        s).state = _ at state
      change (after config .lifecycle (.batchCommit selected enabled started outcome allDisabled) i
        s).flags.faultLatched = _ at latched
      rw [latched] at isLatched
      by_cases failed : outcome.rollbackFailed enabled = true
      · exact .inl (state.trans (if_pos failed))
      · have isLatched : s.flags.faultLatched = true := by simpa [failed] using isLatched
        rw [if_neg failed, if_neg (by simp [isLatched])] at state
        split_ifs at state with preserve
        · have fault : started = .fault := by
            by_contra other
            have free := free (by simp [Site.overwrites, preserve, other])
            simp [isLatched] at free
          exact .inl (state.trans fault)
        · rw [state]
          have kept : s.state = .fault ∨ s.state = .disconnected := by
            simpa [fits.2.1] using held isLatched
          exact kept.imp_right .inl
        · exact absurd isLatched (by assumption)
        · exact absurd isLatched (by assumption)
    | finishMaintenance operation code latchFault =>
      intro isLatched
      have state := state_finishMaintenance s.tick (currentMotorFaultReported config i) operation code
        latchFault
      have latched := latched_finishMaintenance s.tick (currentMotorFaultReported config i) operation
        code latchFault
      change (after config .lifecycle (.finishMaintenance operation code latchFault) i s).state = _
        at state
      change (after config .lifecycle (.finishMaintenance operation code latchFault) i
        s).flags.faultLatched = _ at latched
      rw [latched] at isLatched
      split_ifs at state isLatched with ok latches
      · obtain ⟨isLatched, other⟩ := Bool.and_eq_true_iff.mp isLatched
        have free := free (by simpa [Site.overwrites, ok] using other)
        rw [show s.flags.faultLatched = true from isLatched] at free
        cases free
      · exact .inl state
      · have other : φ.stage ≠ .estopping := by
          obtain ⟨-, -, -, -, ⟨stage, -⟩ | ⟨stage, -⟩⟩ := fits <;> simp [stage]
        have kept : s.state = .fault ∨ s.state = .disconnected := by
          simpa [other] using held (by simpa [latches] using isLatched)
        rw [state]
        exact kept.imp_right .inl
    | recoverReady | recoverDone => exact fun isLatched => nomatch isLatched
    | stopDone => exact fun _ => .inr (.inl rfl)
    | enterFault hold available =>
      intro _
      have state := state_enterFault s.tick hold available (currentMotorFaultReported config i)
      change (after config .lifecycle (.enterFault hold available) i s).state = _ at state
      rw [state]
      split_ifs with disconnected
      · exact .inr (.inl disconnected)
      · exact .inl rfl
    | retryTimeout => exact absurd rfl fits
    | safeHoldInstall since mode commands => exact absurd rfl fits.1.1
    | enterSafeStop => exact nomatch fits.1
    | enterDegraded => exact nomatch fits.1
    | cycleSent mode time frame => exact nomatch fits.2.choose_spec.1.1
    | gripperSent time commands => exact nomatch fits.1
    | _ => simp [Site.writesState, Site.writesLatch] at writes
  · rw [not_or] at writes
    refine held.keep fits ?_ (footprint.state (by simpa using writes.1))
      (footprint.latched (by simpa using writes.2))
    rintro hold available rfl
    exact writes.1 rfl

theorem held_other {config : RuntimeConfig} {t : Thread} {site : Site} {i : Input} {s : SafetyRuntime}
    {φ : Local} (held : Held s φ) (theirs : site.isLifecycle = false) :
    Held (after config t site i s) φ := by
  have footprint := after_footprint config t site i s
  by_cases control : site.movesControl = true
  · intro isLatched
    rw [footprint.latched (by cases site <;> first | rfl | cases control)] at isLatched
    have moves := after_control config t i s control
    obtain fault | disconnected | stage := held isLatched
    · exact .inl (by simpa [fault] using moves)
    · exact .inr (.inl (by simpa [disconnected] using moves))
    · exact .inr (.inr stage)
  · cases site with
    | retryTimeout => exact fun _ => .inl rfl
    | enterFault hold available =>
      intro _
      have state := state_enterFault s.tick hold available (currentMotorFaultReported config i)
      change (after config t (.enterFault hold available) i s).state = _ at state
      rw [state]
      split_ifs with disconnected
      · exact .inr (.inl disconnected)
      · exact .inl rfl
    | enterSafeStop =>
      intro isLatched
      have latched := latched_enterSafeStop s.tick
      have state := state_enterSafeStop s.tick
      change (after config t .enterSafeStop i s).flags.faultLatched = _ at latched
      change (after config t .enterSafeStop i s).state = _ at state
      rw [latched] at isLatched
      obtain ⟨idle, isLatched⟩ := Bool.and_eq_true_iff.mp isLatched
      rw [state, if_pos (of_decide_eq_true idle)]
      exact held isLatched
    | _ =>
      first
      | cases theirs; done
      | simp [Site.movesControl] at control; done
      | intro isLatched
        rw [footprint.latched rfl] at isLatched
        rw [footprint.state rfl]
        exact held isLatched

/-! ## Where the latch is dropped -/

/-- What the log has to show where a section drops the latch. -/
def MayClear (handles : List Handle) (site : Site) (older : List Event) : Prop :=
  match site with
  | .finishMaintenance .clearFaults .ok _ | .recoverReady | .connectCommit _ _ =>
    3 ≤ shown handles older
  | .recoverDone => True
  | _ => False

/-- The latch was dropped by `clear_faults`, by `recover` and by a `connect`, after a complete transaction
that found every motor fresh and disabled. -/
def Cleared (handles : List Handle) : List Event → Prop
  | [] => True
  | .cleared site :: older => MayClear handles site older ∧ Cleared handles older
  | _ :: older => Cleared handles older

theorem cleared_of_grows {site : Site} {handles : List Handle} {log log' : List Event}
    (grows : Grows site.effects log log') (cleared : Cleared handles log) : Cleared handles log' := by
  rw [grows.ignored (f := Cleared handles) fun e log new => ?_]
  · exact cleared
  · cases e with
    | cleared site => cases new
    | _ => rfl

theorem mayClear_after {config : RuntimeConfig} {t : Thread} {site : Site} {i : Input}
    {s : SafetyRuntime} {φ : Thread → Local} (apart : Apart s (φ .lifecycle))
    (evidenced : Evidenced config s (φ .lifecycle)) (fits : (φ t).fits t site)
    (permitted : keepsLatch t site i s = true) (on : s.flags.faultLatched = true)
    (off : (after config t site i s).flags.faultLatched = false) :
    MayClear config.handles site (effect config t site i s.tick).log := by
  have footprint := after_footprint config t site i s
  have free : site.overwrites s = false := by simpa [keepsLatch, on] using permitted
  have shows (proved : (φ .lifecycle).evidence = .proved) (call : site ≠ .call) :
      3 ≤ shown config.handles (effect config t site i s.tick).log := by
    have level : (3 : ℕ) = (φ .lifecycle).evidence.level := by rw [proved]; rfl
    have grown : site.Logs s.log (effect config t site i s.tick).log :=
      (effect_logs config t site i s).mono fun _ => Site.records_of_effects
    calc 3 = (φ .lifecycle).evidence.level := level
      _ ≤ shown config.handles s.log := evidenced
      _ ≤ shown config.handles (effect config t site i s.tick).log :=
        shown_le_of_logs config.handles grown call
  by_cases writes : site.writesLatch = true
  · cases site with
    | connectCommit faulted disabled =>
      obtain rfl := lifecycle_of_fits fits rfl
      obtain ⟨-, revalidating, stage, seen, proved⟩ := fits
      have off : (s.flags.emergencyStopLatched || s.flags.motorFaultLatched || faulted) = false := off
      simp only [Bool.or_eq_false_iff] at off
      obtain ⟨⟨calm, -⟩, sound⟩ := off
      cases revalidating with
      | false =>
        obtain ⟨disconnected, active⟩ := apart.connecting stage
        have stopped := (apart.unused disconnected active).2.2 on
        rw [stopped] at calm
        cases calm
      | true =>
        have disabled := (seen rfl).resolve_left (by simp [sound])
        exact shows (proved disabled) (by simp)
    | disableCommit confirmed preserveFault =>
      change (if _ then s.flags.faultLatched else true) = false at off
      split_ifs at off
      rw [on] at off
      cases off
    | batchCommit selected enabled started outcome allDisabled =>
      have latched := latched_commitBatch s.tick (currentMotorFaultReported config i) config selected
        enabled started outcome allDisabled
      have off : (s.tick.commitBatch config selected enabled started outcome allDisabled
        (currentMotorFaultReported config i)).flags.faultLatched = false := off
      rw [latched] at off
      simp [on] at off
    | finishMaintenance operation code latchFault =>
      obtain rfl := lifecycle_of_fits fits rfl
      have latched := latched_finishMaintenance s.tick (currentMotorFaultReported config i) operation
        code latchFault
      change (after config .lifecycle (.finishMaintenance operation code latchFault) i
        s).flags.faultLatched = _ at latched
      rw [off] at latched
      obtain ⟨-, -, -, -, ⟨-, proved⟩ | ⟨-, rfl⟩⟩ := fits
      · split_ifs at latched with ok
        · subst ok
          have clears : operation = .clearFaults := by simpa [on] using latched
          subst clears
          exact shows (proved.2 rfl) (by simp)
        · simp [on] at latched
      · simp [on] at latched
    | recoverReady =>
      obtain rfl := lifecycle_of_fits fits rfl
      exact shows fits.2.2.2 (by simp)
    | recoverDone => trivial
    | enterFault hold available =>
      simp [after, effect, latched_enterFault, on] at off
    | enterSafeStop =>
      have latched := latched_enterSafeStop s.tick
      change (after config t .enterSafeStop i s).flags.faultLatched = _ at latched
      rw [off] at latched
      have busy : ¬(s.state = .disconnected ∨ s.state = .ready ∨ s.state = .fault) := by
        have latched : (decide _ && s.flags.faultLatched) = false := latched.symm
        rw [on, Bool.and_true] at latched
        exact of_decide_eq_false latched
      simp only [Site.overwrites, not_or] at free busy
      simp [busy] at free
    | estopLatch =>
      simp only [after, effect, latchEstop] at off
      split_ifs at off <;> cases off
    | enableFailed | retryTimeout | recoverFreeze | recoverFailFault | recoverFailed _ => cases off
    | _ => cases writes
  · rw [footprint.latched (by simpa using writes), on] at off
    cases off

theorem cleared_after {config : RuntimeConfig} {t : Thread} {site : Site} {i : Input}
    {s : SafetyRuntime} {φ : Thread → Local} (apart : Apart s (φ .lifecycle))
    (evidenced : Evidenced config s (φ .lifecycle)) (cleared : Cleared config.handles s.log)
    (fits : (φ t).fits t site) (permitted : keepsLatch t site i s = true) :
    Cleared config.handles (after config t site i s).log := by
  have grown := cleared_of_grows (effect_logs config t site i s) cleared
  have log : (after config t site i s).log =
      if s.flags.faultLatched ∧ ¬ (after config t site i s).flags.faultLatched then
        .cleared site :: (effect config t site i s.tick).log else (effect config t site i s.tick).log :=
    rfl
  rw [log]
  split_ifs with drops
  · have off : (after config t site i s).flags.faultLatched = false := by simpa using drops.2
    exact ⟨mayClear_after apart evidenced fits permitted drops.1 off, grown⟩
  · exact grown

/-- The invariants together. -/
structure Latched (config : RuntimeConfig) (s : SafetyRuntime) (φ : Local) : Prop where
  held : Held s φ
  cleared : Cleared config.handles s.log

theorem latched_carried (config : RuntimeConfig) :
    Carried config (fun t site i s => keepsLatch t site i s = true) fun s φ =>
      ((Guarded s (φ .lifecycle) ∧ Apart s (φ .lifecycle)) ∧ Evidenced config s (φ .lifecycle)) ∧
        Latched config s (φ .lifecycle) := by
  have known : Carried config anySection fun s φ =>
      (Guarded s (φ .lifecycle) ∧ Apart s (φ .lifecycle)) ∧ Evidenced config s (φ .lifecycle) :=
    ((guarded_carried config).both (apart_carried config)).both (evidenced_carried config)
  refine (Carried.under known).and ⟨nofun, trivial⟩ ?_
  intro t site i s φ ⟨⟨guarded, apart⟩, evidenced⟩ latched _ fits permitted
  refine ⟨?_, cleared_after apart evidenced latched.cleared fits permitted⟩
  by_cases own : t = .lifecycle
  · subst own
    rw [Function.update_self]
    exact held_own guarded latched.held fits permitted
  · rw [Function.update_of_ne (Ne.symm own)]
    refine held_other latched.held ?_
    by_contra owned
    exact own (lifecycle_of_fits fits (by simpa using owned))

/-- A latched `FAULT` stays the state for as long as the latch stays set. -/
theorem fault_stays {config : RuntimeConfig} {t : Thread} {site : Site} {i : Input} {s : SafetyRuntime}
    {φ : Thread → Local} (guarded : Guarded s (φ .lifecycle)) (fits : (φ t).fits t site)
    (permitted : keepsLatch t site i s = true) (fault : s.state = .fault)
    (isLatched : (after config t site i s).flags.faultLatched = true) :
    (after config t site i s).state = .fault ∨ (after config t site i s).state = .disconnected := by
  have footprint := after_footprint config t site i s
  by_cases theirs : site.isLifecycle = false
  · have held : Held s {} := fun _ => .inl fault
    simpa using held_other held theirs isLatched
  · obtain rfl := lifecycle_of_fits fits (by simpa using theirs)
    by_cases writes : site.writesState = true
    · have held : Held s (φ .lifecycle) := fun _ => .inl fault
      have held' := held_own guarded held fits permitted isLatched
      rw [← or_assoc] at held'
      refine held'.resolve_right fun stage => ?_
      cases site with
      | recoverFreeze | recoverReady | recoverDone | recoverFailFault | recoverFailed _ =>
        rw [step_stage config _ i s.tick rfl] at stage
        simp [Local.fits, Local.begins, stage] at fits
      | finishMaintenance operation code latchFault =>
        rw [stage_finishMaintenance] at stage
        split_ifs at stage
      | _ =>
        first
        | cases stage
        | cases theirs rfl
        | cases writes
    · exact .inl ((footprint.state (by simpa using writes)).trans fault)

/-- The fault latch as the callers of the Runtime see it: with no lifecycle call in progress it agrees
with the state; a latched `FAULT` is left for no other state but `DISCONNECTED` while the latch stays set;
and it is dropped only by what may drop it, for good or until `recover` has failed. -/
structure FaultLatch (config : RuntimeConfig) (allowed : Condition)
    (c : Config Thread SafetyRuntime Input Site String) : Prop where
  agrees : c.slots .lifecycle = none → c.shared.flags.faultLatched = true →
    c.shared.state = .fault ∨ c.shared.state = .disconnected
  stays : ∀ m c', (runtime config).next c m = some c' → Machine.Permits allowed c m →
    c.shared.state = .fault → c'.shared.flags.faultLatched = true →
    c'.shared.state = .fault ∨ c'.shared.state = .disconnected
  cleared : Cleared config.handles c.shared.log
  ended : c.slots .lifecycle = none → c.shared.recovering = false

/-- In every run in which no write-back finds the fault latch set, the latch and the state agree whenever
no lifecycle call is in progress, and the latch is dropped only by what may drop it. -/
theorem faultLatch_of_reach (config : RuntimeConfig) {c : Config Thread SafetyRuntime Input Site String}
    (reach : (runtime config).Reach (fun t site i s => keepsLatch t site i s = true) c) :
    FaultLatch config (fun t site i s => keepsLatch t site i s = true) c := by
  obtain ⟨φ, ⟨⟨⟨guarded, -⟩, -⟩, latched⟩, rests⟩ := (latched_carried config).reach reach
  refine ⟨fun idle isLatched => ?_, fun m c' moved permitted fault isLatched => ?_, latched.cleared,
    fun idle => ?_⟩
  · have stage : (φ .lifecycle).stage = .idle := (rests .lifecycle idle).2.2.1
    simpa [stage] using latched.held isLatched
  · obtain same | ⟨t, site, i, φ, -, -, ⟨⟨⟨guarded, -⟩, -⟩, -⟩, -, fits, permitted, moved⟩ :=
      (latched_carried config).section_of_next reach moved permitted
    · rw [same]
      exact .inl fault
    · rw [moved] at isLatched ⊢
      exact fault_stays guarded fits permitted fault isLatched
  · have recovery : (φ .lifecycle).recovery = .none := (rests .lifecycle idle).2.2.2.1
    by_contra homing
    simp [guarded.recovering.mp (by simpa using homing)] at recovery

/-- A motor reports a fault. -/
def Scenario.faulted : Input where
  states motor := some (motorState 2 motor)
  severe := true
  due := { feedbackCheck := true }

/-- A Runtime with both motors enabled, and a worker that has found a motor fault. -/
def Scenario.failing : List Scenario.Move :=
  call .connect 7 (powered 0) ++ call (.motorPowerState none) 9 (powered 1) ++
    .start .worker :: advance .worker 8 faulted

theorem faultLatch_of_reach_cleared :
    ∃ c, (runtime Scenario.config).Reach (fun t site i s => keepsLatch t site i s = true) c ∧
      c.shared.log.contains (.cleared (.finishMaintenance .clearFaults .ok false)) = true ∧
      FaultLatch Scenario.config (fun t site i s => keepsLatch t site i s = true) c := by
  obtain ⟨c, reach, seen⟩ := Machine.exists_reach_of_run (M := runtime Scenario.config) keepsLatch
    (fun s => s.log.contains (.cleared (.finishMaintenance .clearFaults .ok false)))
    (Scenario.failing ++ Scenario.advance .worker 8 Scenario.faulted ++
      Scenario.call .clearFaults 15 (Scenario.powered 0))
    (fun _ _ _ _ passed => passed) (b := true) (by rfl)
  exact ⟨c, reach, seen, faultLatch_of_reach Scenario.config reach⟩

/-- `motor_power_state` overwrites a fault that the worker latches between its two sections. -/
theorem motorPowerState_overwrites :
    ∃ c, (runtime Scenario.config).Reach anySection c ∧ ¬ FaultLatch Scenario.config anySection c := by
  obtain ⟨c, reach, seen⟩ := Machine.exists_config_of_run (M := runtime Scenario.config)
    (fun _ _ _ _ => true)
    (fun c => ((c.slots .lifecycle).isNone, c.shared.flags.faultLatched, c.shared.state))
    (Scenario.failing ++
      Scenario.call (.motorPowerState none) 6 (Scenario.powered 1) ++
      Scenario.advance .worker 8 Scenario.faulted ++
      Scenario.advance .lifecycle 3 (Scenario.powered 1))
    (fun _ _ _ _ _ => trivial) (b := (true, true, .partiallyEnabled)) (by rfl)
  simp only [Prod.mk.injEq, Option.isNone_iff_eq_none] at seen
  obtain ⟨idle, isLatched, state⟩ := seen
  refine ⟨c, reach, fun holds => ?_⟩
  simpa [state] using holds.agrees idle isLatched

end MotorDrive.Runtime
