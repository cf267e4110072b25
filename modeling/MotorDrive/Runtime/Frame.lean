import MotorDrive.Runtime.FollowsWorker

/-!
# Invariants of the Runtime

`Carried config allowed I` says that `I` is an invariant of the state and of the local states of the
threads: it holds initially and every section keeps it where it is allowed.  `Carried.reach` concludes
for every run.

Most invariants look at a few fields of the state and at the transaction of the lifecycle thread only.
`update_of_same` removes the sections that leave both alone.
-/

namespace MotorDrive.Runtime

open Threads SafetyRuntime

/-- The conditions on sections under which a result holds. -/
abbrev Condition := Thread → Site → Input → SafetyRuntime → Prop

/-- Every section may be taken. -/
def anySection : Condition := fun _ _ _ _ => True

/-- An invariant of the Runtime. -/
abbrev Carried (config : RuntimeConfig) (allowed : Condition)
    (I : SafetyRuntime → (Thread → Local) → Prop) : Prop :=
  Invariant (runtimeFlow config) allowed {} {} I

section Reach

variable {config : RuntimeConfig} {allowed : Condition}
  {I : SafetyRuntime → (Thread → Local) → Prop}

/-- An invariant of all runs is one of the runs under a condition. -/
theorem Carried.under (carried : Carried config anySection I) : Carried config allowed I :=
  Invariant.mono carried fun _ _ _ _ _ => trivial

/-- An invariant holds in every configuration a run reaches, with idle threads at rest. -/
theorem Carried.reach (carried : Carried config allowed I) {c : Config Thread SafetyRuntime Input Site String}
    (reach : (runtime config).Reach allowed c) :
    ∃ φ, I c.shared φ ∧ ∀ t, c.slots t = none → (φ t).Rests := by
  have rests : (runtimeFlow config).rest {} := ⟨rfl, rfl, rfl, rfl, rfl⟩
  obtain ⟨φ, holds, fits⟩ := Invariant.reach carried rests (runtime_follows config) reach
  refine ⟨φ, holds, fun t idle => ?_⟩
  have rests := fits t
  rwa [idle] at rests

/-- A thread of a run that moves takes the section it is at. -/
theorem Carried.section_of_advance (carried : Carried config allowed I)
    {c c' : Config Thread SafetyRuntime Input Site String} {t : Thread} {i : Input} {site : Site}
    (reach : (runtime config).Reach allowed c) (moved : (runtime config).next c (.advance t i) = some c')
    (permitted : Machine.Permits allowed c (.advance t i : Move Thread Input Op)) (here : c.label t = some site) :
    ∃ φ, I c.shared φ ∧ site.ready c.shared = true ∧ (φ t).fits t site ∧ allowed t site i c.shared ∧
      c'.shared = after config t site i c.shared := by
  have rests : (runtimeFlow config).rest {} := ⟨rfl, rfl, rfl, rfl, rfl⟩
  exact Invariant.section_of_advance carried rests (runtime_follows config) reach moved permitted here

/-- A move of a run starts a call or takes one section. -/
theorem Carried.section_of_next (carried : Carried config allowed I)
    {c c' : Config Thread SafetyRuntime Input Site String} {m : Move Thread Input Op}
    (reach : (runtime config).Reach allowed c) (moved : (runtime config).next c m = some c')
    (permitted : Machine.Permits allowed c m) :
    c'.shared = c.shared ∨ ∃ t site i φ, c.label t = some site ∧ m = .advance t i ∧ I c.shared φ ∧
      site.ready c.shared = true ∧ (φ t).fits t site ∧ allowed t site i c.shared ∧
      c'.shared = after config t site i c.shared := by
  have rests : (runtimeFlow config).rest {} := ⟨rfl, rfl, rfl, rfl, rfl⟩
  exact Invariant.section_of_next carried rests (runtime_follows config) reach moved permitted

end Reach

/-- A view of the local states that the section's own thread keeps is kept for all threads. -/
theorem update_of_same {β : Type} (view : Local → β) {φ : Thread → Local} {t : Thread} {ψ : Local}
    (same : view ψ = view (φ t)) (u : Thread) : view (Function.update φ t ψ u) = view (φ u) := by
  by_cases here : u = t
  · subst here
    rw [Function.update_self, same]
  · rw [Function.update_of_ne here]

/-! ## Footprints -/

namespace Site

/-- The section writes the lifecycle state. -/
def writesState : Site → Bool
  | .connectCommit _ _ | .enableFailed | .initializeEnabled _ _ | .disableCommit _ _
  | .motorPowerCommit _ | .batchCommit _ _ _ _ _ | .finishMaintenance _ _ _ | .retryTimeout
  | .recoverFreeze | .recoverReady | .recoverDone | .recoverFailFault | .recoverFailed _ | .stopDone
  | .safeHoldInstall _ _ _ | .enterFault _ _ | .enterSafeStop | .enterDegraded | .gravityStart _
  | .bimanualStart _ | .cycleSent _ _ _ | .gripperSent _ _ => true
  | _ => false

/-- The section writes the fault latch. -/
def writesLatch : Site → Bool
  | .connectCommit _ _ | .enableFailed | .disableCommit _ _ | .estopLatch | .batchCommit _ _ _ _ _
  | .finishMaintenance _ _ _ | .retryTimeout | .recoverFreeze | .recoverReady | .recoverDone
  | .recoverFailFault | .recoverFailed _ | .enterFault _ _ | .enterSafeStop => true
  | _ => false

/-- The section writes the emergency stop latch. -/
def writesEmergency : Site → Bool
  | .estopLatch | .recoverDone => true
  | _ => false

/-- The section writes the lifecycle state or one of its flags. -/
def writesFlags : Site → Bool
  | .connectCheck | .connectFailed | .connectNotDisabled | .connectCommit _ _ | .enableCheck
  | .enableHoldSent | .enableDone | .enableFailed | .enableAbandoned | .initializeEnabled _ _
  | .enableRolledBack _ | .disableStart | .disableCommit _ _ | .estopLatch | .estopRestore _
  | .motorPowerStart | .motorPowerFailed | .motorPowerCommit _ | .batchStart _ _
  | .batchCommit _ _ _ _ _ | .maintenancePrecheck _ | .finishMaintenance _ _ _ | .retryTimeout
  | .recoverFreeze | .recoverConfirmed | .recoverFaultsCleared | .recoverReady | .recoverDone
  | .recoverFailFault | .recoverFailed _ | .stopStart | .stopDone | .safeHoldInstall _ _ _
  | .enterFault _ _ | .enterSafeStop | .enterDegraded | .gravityStart _ | .bimanualStart _
  | .workerDecide | .cycleSent _ _ _ | .gripperSent _ _ | .healthWrite _ _ => true
  | _ => false

/-- The section writes the arm's commands or their sources. -/
def writesArm : Site → Bool
  | .enableSeed _ _ | .enableFailed | .initializeEnabled _ _ | .initialHoldSent _ _ | .disableStart
  | .disableCommit _ _ | .estopClear | .batchStart _ _ | .recoverClear | .recoverFailClear | .stopStart
  | .holdInstall _ | .safeHoldInstall _ _ _ | .enterFault _ _ | .enterSafeStop | .submit _ _
  | .install _ _ _ | .trajectoryStart _ _ _ _ | .cancelMotion _ | .cancelAllMotions | .gravityStart _
  | .gravityStop _ | .bimanualStart _ | .bimanualStop _ | .trajectoryUpdate | .faultTrajectory
  | .trajectoryCycle _ | .consumePending _ | .cyclePrepare _ | .cycleSent _ _ _ | .gravitySent _ => true
  | _ => false

/-- The section writes the counters and marks of command processing. -/
def writesProgress : Site → Bool
  | .validate _ | .healthWrite _ _ | .initializeEnabled _ _ | .disableCommit _ _ | .recoverDone
  | .stopStart | .safeHoldInstall _ _ _ | .enterSafeStop | .install _ _ _ | .beginPlanning _
  | .cancelPlanning _ | .trajectoryStart _ _ _ _ | .sendFailed | .gravityStart _ | .bimanualStart _
  | .cycleFailed | .cycleSent _ _ _ | .gravitySent _ | .gripperSent _ _ | .feedbackFailed | .readyWrite
  | .holdFailed | .holdSucceeded => true
  | _ => false

/-- The section writes the gripper commands. -/
def writesGrippers : Site → Bool
  | .initializeEnabled _ _ | .seedGrippers _ | .disableCommit _ _ | .recoverClear | .recoverFailClear
  | .holdInstall _ | .gripperHoldWrite _ | .enterFault _ _ | .gripperInstall | .rawGripperSent _
  | .gripperSent _ _ => true
  | _ => false

/-- The section writes the set of intentionally disabled motors. -/
def writesDisabled : Site → Bool
  | .initializeEnabled _ _ | .disableCommit _ _ | .batchStart _ _ | .batchInsert
  | .batchCommit _ _ _ _ _ => true
  | _ => false

/-- The section writes the marks of `recover`. -/
def writesRecovering : Site → Bool
  | .recoverReady | .recoverDone | .recoverFailFault => true
  | _ => false

/-- The section writes the count of `clear_faults` calls that wait. -/
def writesRetries : Site → Bool
  | .retryPark | .retryTimeout => true
  | _ => false

/-- Only a thread that holds `lifecycle_mutex_` takes the section. -/
def isLifecycle : Site → Bool
  | .call | .returned | .connectCheck | .connectFailed | .connectNotDisabled | .connectCommit _ _
  | .enableCheck | .enableHoldSent | .enableDone | .enableFailed | .enableAbandoned | .enableSeed _ _
  | .enableMotors _ | .disableMotors _ | .initializeEnabled _ _ | .seedGrippers _ | .initialHoldSent _ _
  | .enableRolledBack _ | .disableStart | .disableCommit _ _ | .estopLatch | .estopClear
  | .estopRestore _ | .motorPowerStart | .motorPowerFailed | .motorPowerCommit _ | .batchStart _ _
  | .batchInsert | .batchCommit _ _ _ _ _ | .maintenancePrecheck _ | .modeWrite _
  | .finishMaintenance _ _ _ | .retryPark | .recoverFreeze | .recoverClear | .recoverConfirmed
  | .recoverFaultsCleared | .recoverReady | .recoverDone | .recoverFailClear | .recoverFailFault
  | .recoverFailed _ | .closeCheck | .stopStart | .workerJoin | .stopDone | .gravityCheck
  | .stopGravityCheck | .bimanualCheck | .ownerRead | .gravityStart _ | .gravityStop _
  | .bimanualStart _ | .bimanualStop _ => true
  | _ => false

/-- The section begins, advances or ends a transaction. -/
def movesStage : Site → Bool
  | .returned | .unlock | .connectCheck | .connectFailed | .connectNotDisabled | .connectCommit _ _
  | .enableCheck | .enableSeed _ _ | .initializeEnabled _ _ | .enableHoldSent | .enableDone | .enableFailed | .enableAbandoned
  | .enableRolledBack _ | .disableStart | .disableCommit _ _ | .estopLatch | .motorPowerStart
  | .motorPowerFailed | .motorPowerCommit _ | .batchStart _ _ | .batchCommit _ _ _ _ _
  | .maintenancePrecheck _ | .finishMaintenance _ _ _ | .stopStart | .stopDone | .enterFault _ _
  | .enterSafeStop | .enterDegraded | .gravityCheck | .gravityStart _ | .stopGravityCheck | .gravityStop _
  | .bimanualCheck | .bimanualStart _ | .workerDecide | .feedbackFailed | .holdFailed => true
  | _ => false

/-- The section is a step of `recover`. -/
def movesRecovery : Site → Bool
  | .recoverFreeze | .recoverClear | .recoverReady | .recoverDone | .recoverFailFault
  | .recoverFailed _ => true
  | _ => false

/-- The section may log the event. -/
def records (site : Site) : Event → Bool
  | .call => site = .call
  | .parked => site = .retryPark
  | .cleared cleared => site = cleared
  | .emergency => site = .estopLatch
  | .recovered => site = .recoverDone
  | .planned _ => match site with
    | .beginPlanning _ => true
    | _ => false
  | .disturbed => match site with
    | .connectCommit _ _ | .initializeEnabled _ _ | .enableFailed | .disableCommit _ _
    | .batchCommit _ _ _ _ _ | .finishMaintenance _ _ _ | .retryTimeout | .recoverFreeze | .recoverReady
    | .recoverFailFault | .enterFault _ _ | .enterSafeStop => true
    | _ => false
  | .accepted client _ _ => match site with
    | .submit _ _ | .trajectoryStart _ _ _ _ | .gripperInstall | .rawGripperAccept | .gravityStart _
    | .bimanualStart _ => client
    | .install _ _ ofClient => client = ofClient
    | _ => false
  | .completed _ | .resumed _ => site = .trajectoryUpdate
  | .sampled _ => match site with
    | .trajectoryCycle _ => true
    | _ => false
  | .feedback _ _ => site = .feedback
  | .reading _ _ => match site with
    | .reading | .validate _ | .confirmRead _ _ | .healthRead _ => true
    | _ => false
  | .enabled _ => match site with
    | .enableMotors _ => true
    | _ => false
  | .confirmed => match site with
    | .connectCommit _ _ | .enableRolledBack _ | .disableCommit _ _ | .motorPowerCommit _
    | .batchCommit _ _ _ _ _ | .finishMaintenance _ _ _ | .recoverConfirmed | .recoverReady
    | .recoverDone | .recoverFailed _ => true
    | _ => false
  | .frame _ _ _ _ _ => match site with
    | .send _ _ _ _ => true
    | _ => false

end Site

/-- A section leaves the parts of the state alone that it does not write. -/
structure Footprint (site : Site) (s s' : SafetyRuntime) : Prop where
  state : site.writesState = false → s'.state = s.state
  latched : site.writesLatch = false → s'.flags.faultLatched = s.flags.faultLatched
  emergency : site.writesEmergency = false →
    s'.flags.emergencyStopLatched = s.flags.emergencyStopLatched
  stopping : site ≠ .stopStart → s'.flags.stopping = s.flags.stopping
  flags : site.writesFlags = false → s'.flags = s.flags
  arm : site.writesArm = false → s'.arm = s.arm
  progress : site.writesProgress = false → s'.progress = s.progress
  grippers : site.writesGrippers = false → s'.grippers = s.grippers
  disabled : site.writesDisabled = false → s'.intentionallyDisabled = s.intentionallyDisabled
  recovering : site.writesRecovering = false → s'.recovering = s.recovering
  retries : site.writesRetries = false → s'.retries = s.retries
  commandOwner : site ≠ .lock → site ≠ .unlock → s'.commandOwner = s.commandOwner
  lifecycleLocked : site ≠ .call → site ≠ .returned → s'.lifecycleLocked = s.lifecycleLocked
  now : s'.now = s.now + 1
  freshFrom : s'.freshFrom = s.tick.freshFrom
  restFrom : s'.restFrom = s.tick.restFrom

theorem effect_footprint (config : RuntimeConfig) (t : Thread) (site : Site) (i : Input)
    (s : SafetyRuntime) : Footprint site s (effect config t site i s.tick) := by
  cases site <;>
    simp only [effect, checkConnect, checkEnable, seedMailbox, startDisable, latchEstop,
      startMotorPower, startBatch, SafetyRuntime.commitBatch, precheckMaintenance,
      SafetyRuntime.finishMaintenance, enterSafeHold, SafetyRuntime.enterFault,
      SafetyRuntime.enterSafeStop, SafetyRuntime.enterDegraded, SafetyRuntime.submit, install,
      beginPlanning, SafetyRuntime.cancelPlanning, SafetyRuntime.startTrajectory,
      SafetyRuntime.cancelMotion, installGrippers, acceptRawGripper, stopBimanual, wake,
      updateTrajectory, completeTrajectory, SafetyRuntime.trajectoryCycle, advanceArm,
      SafetyRuntime.commitGrippers] <;>
    repeat' split
  all_goals
    exact ⟨by first | exact fun _ => rfl | exact nofun, by first | exact fun _ => rfl | exact nofun,
      by first | exact fun _ => rfl | exact nofun, by first | exact fun _ => rfl | simp,
      by first | exact fun _ => rfl | exact nofun, by first | exact fun _ => rfl | exact nofun,
      by first | exact fun _ => rfl | exact nofun, by first | exact fun _ => rfl | exact nofun,
      by first | exact fun _ => rfl | exact nofun, by first | exact fun _ => rfl | exact nofun,
      by first | exact fun _ => rfl | exact nofun, by first | exact fun _ _ => rfl | simp,
      by first | exact fun _ _ => rfl | simp, rfl, rfl, rfl⟩

theorem after_footprint (config : RuntimeConfig) (t : Thread) (site : Site) (i : Input)
    (s : SafetyRuntime) : Footprint site s (after config t site i s) := by
  obtain ⟨state, latched, emergency, stopping, flags, arm, progress, grippers, disabled, recovering, retries,
    owner, locked, now, fresh, rest⟩ := effect_footprint config t site i s
  exact ⟨state, latched, emergency, stopping, flags, arm, progress, grippers, disabled, recovering, retries, owner,
    locked, now, fresh, rest⟩

/-- The log grows by events with a property. -/
def Grows (p : Event → Bool) (log log' : List Event) : Prop :=
  ∃ added, log' = added ++ log ∧ ∀ e ∈ added, p e

namespace Grows

variable {p q : Event → Bool} {log log' : List Event}

theorem same (p : Event → Bool) (log : List Event) : Grows p log log := ⟨[], rfl, by simp⟩

theorem cons {e : Event} (grows : Grows p log log') (new : p e) : Grows p log (e :: log') := by
  obtain ⟨added, rfl, all⟩ := grows
  exact ⟨e :: added, rfl, by simpa [new] using all⟩

theorem ite {c : Prop} [Decidable c] {e : Event} (grows : Grows p log log') (new : p e) :
    Grows p log (if c then e :: log' else log') := by
  split_ifs
  · exact grows.cons new
  · exact grows

theorem mono (grows : Grows p log log') (weaker : ∀ e, p e → q e) : Grows q log log' := by
  obtain ⟨added, same, all⟩ := grows
  exact ⟨added, same, fun e found => weaker e (all e found)⟩

/-- What ignores every event with the property is the same of both logs. -/
theorem ignored {β : Type} {f : List Event → β} (grows : Grows p log log')
    (ignores : ∀ e log, p e → f (e :: log) = f log) : f log' = f log := by
  obtain ⟨added, rfl, all⟩ := grows
  induction added with
  | nil => rfl
  | cons e added ih =>
    rw [List.cons_append, ignores e _ (all e List.mem_cons_self)]
    exact ih fun e found => all e (List.mem_cons_of_mem _ found)

end Grows

namespace Site

/-- The log grows by events that the section may log. -/
def Logs (site : Site) : List Event → List Event → Prop := Grows site.records

/-- The events that the section logs itself. -/
def effects (site : Site) : Event → Bool
  | .cleared _ => false
  | e => site.records e

theorem records_of_effects {site : Site} {e : Event} (effects : site.effects e = true) :
    site.records e = true := by
  cases e with
  | cleared cleared => cases effects
  | _ => exact effects

end Site

theorem effect_logs (config : RuntimeConfig) (t : Thread) (site : Site) (i : Input)
    (s : SafetyRuntime) : Grows site.effects s.log (effect config t site i s.tick).log := by
  cases site <;>
    simp only [effect, checkConnect, checkEnable, seedMailbox, startDisable, latchEstop,
      startMotorPower, startBatch, SafetyRuntime.commitBatch, precheckMaintenance,
      SafetyRuntime.finishMaintenance, enterSafeHold, SafetyRuntime.enterFault,
      SafetyRuntime.enterSafeStop, SafetyRuntime.enterDegraded, SafetyRuntime.submit, install,
      beginPlanning, SafetyRuntime.cancelPlanning, SafetyRuntime.startTrajectory,
      SafetyRuntime.cancelMotion, installGrippers, acceptRawGripper, stopBimanual, wake,
      updateTrajectory, completeTrajectory, SafetyRuntime.trajectoryCycle, advanceArm,
      SafetyRuntime.commitGrippers, noteConfirmed_log] <;>
    repeat' split
  all_goals first
    | exact .same _ _
    | exact .cons (.same _ _) rfl
    | exact .cons (.cons (.same _ _) rfl) rfl
    | exact .cons (.same _ _) (by simp [Site.effects, Site.records])

theorem after_logs (config : RuntimeConfig) (t : Thread) (site : Site) (i : Input)
    (s : SafetyRuntime) : site.Logs s.log (after config t site i s).log :=
  .ite ((effect_logs config t site i s).mono fun _ => Site.records_of_effects) (by simp [Site.records])

theorem lifecycle_of_fits {φ : Local} {t : Thread} {site : Site} (fits : φ.fits t site)
    (owned : site.isLifecycle = true) : t = .lifecycle := by
  cases site <;>
    first
    | (cases owned; done)
    | exact fits.1
    | exact fits.1.1
    | exact fits.1.1.1
    | exact fits.choose_spec.1.1

/-! ## The safety transitions -/

section Transitions

variable (s : SafetyRuntime) (allowProtectiveHold armHoldAvailable motorFault : Bool)

theorem state_enterFault : (s.enterFault allowProtectiveHold armHoldAvailable motorFault).state =
    if s.state = .disconnected then s.state else .fault := by
  simp only [SafetyRuntime.enterFault]
  split_ifs <;> rfl

theorem latched_enterFault :
    (s.enterFault allowProtectiveHold armHoldAvailable motorFault).flags.faultLatched =
      (decide (s.state ≠ .disconnected) || s.flags.faultLatched) := by
  simp only [SafetyRuntime.enterFault]
  split_ifs with disconnected
  · simp [disconnected]
  · simp [disconnected]
  · simp [disconnected]

theorem state_enterSafeStop : s.enterSafeStop.2.state =
    if s.state = .disconnected ∨ s.state = .ready ∨ s.state = .fault then s.state else .safeStop := by
  simp only [SafetyRuntime.enterSafeStop]
  split_ifs <;> rfl

theorem latched_enterSafeStop : s.enterSafeStop.2.flags.faultLatched =
    (decide (s.state = .disconnected ∨ s.state = .ready ∨ s.state = .fault) &&
      s.flags.faultLatched) := by
  simp only [SafetyRuntime.enterSafeStop]
  split_ifs with idle <;> simp [idle]

theorem state_enterDegraded : s.enterDegraded.state =
    if s.state = .running then .degraded else s.state := by
  simp only [SafetyRuntime.enterDegraded]
  split_ifs <;> rfl

theorem state_enterSafeHold (mode : ControlMode) (commands : List Command) :
    (s.enterSafeHold mode commands).2.state =
      if s.state = .running ∧ s.progress.hasSuccessfulCommand ∧ s.mode = mode then .safeHold
      else s.state := by
  simp only [enterSafeHold]
  split_ifs <;> rfl

theorem state_commitCycle (mode : ControlMode) (time : ℕ) (frame : ArmFrame) :
    (s.commitCycle mode time frame).state =
      if frame.userCommand ∧ s.state = .enabled then .running else s.state := rfl

theorem state_commitGrippers (time : ℕ) (commands : List Command) :
    (s.commitGrippers time commands).state =
      if s.grippers.sentGeneration < s.grippers.commandGeneration ∧ s.state = .enabled then .running
      else s.state := by
  simp only [SafetyRuntime.commitGrippers]
  split_ifs <;> simp_all [SafetyRuntime.state]

theorem state_finishMaintenance (operation : Maintenance) (code : OperationCode) (latchFault : Bool) :
    (s.finishMaintenance operation code latchFault motorFault).state =
      if code = .ok then .ready else if latchFault then .fault else s.state := by
  simp only [SafetyRuntime.finishMaintenance]
  split_ifs <;> rfl

theorem latched_finishMaintenance (operation : Maintenance) (code : OperationCode)
    (latchFault : Bool) :
    (s.finishMaintenance operation code latchFault motorFault).flags.faultLatched =
      if code = .ok then s.flags.faultLatched && operation ≠ .clearFaults
      else latchFault || s.flags.faultLatched := by
  simp only [SafetyRuntime.finishMaintenance]
  split_ifs with ok latches
  · rfl
  · simp [latches]
  · simp [latches]

theorem state_commitBatch (config : RuntimeConfig) (selected : List Handle) (enabled : Bool)
    (started : SafetyState) (outcome : BatchOutcome) (allDisabled : Bool) :
    (s.commitBatch config selected enabled started outcome allDisabled motorFault).state =
      if outcome.rollbackFailed enabled then .fault
      else if enabled ∧ outcome.ok ∧ !s.flags.faultLatched then .partiallyEnabled
      else if preserveAbnormalState enabled started then started
      else if s.flags.faultLatched then s.state
      else if allDisabled then .ready else .partiallyEnabled := by
  simp only [SafetyRuntime.commitBatch]
  split_ifs <;> rfl

theorem latched_commitBatch (config : RuntimeConfig) (selected : List Handle) (enabled : Bool)
    (started : SafetyState) (outcome : BatchOutcome) (allDisabled : Bool) :
    (s.commitBatch config selected enabled started outcome allDisabled motorFault).flags.faultLatched =
      (outcome.rollbackFailed enabled || s.flags.faultLatched) := by
  simp only [SafetyRuntime.commitBatch]
  split_ifs with failed <;> simp [failed]

end Transitions

/-- The section may move a commanding state to another one, or to `SAFE_HOLD`. -/
def Site.movesControl : Site → Bool
  | .safeHoldInstall _ _ _ | .enterDegraded | .cycleSent _ _ _ | .gripperSent _ _ => true
  | _ => false

theorem after_control (config : RuntimeConfig) (t : Thread) {site : Site} (i : Input)
    (s : SafetyRuntime) (control : site.movesControl = true) :
    (after config t site i s).state = s.state ∨
      s.state = .enabled ∧ (after config t site i s).state = .running ∨
      s.state = .running ∧ ((after config t site i s).state = .degraded ∨
        (after config t site i s).state = .safeHold) := by
  cases site with
  | safeHoldInstall since mode commands =>
    have moved := state_enterSafeHold s.tick mode commands
    change (after config t (.safeHoldInstall since mode commands) i s).state = _ at moved
    rw [moved]
    split_ifs with running
    · exact .inr (.inr ⟨running.1, .inr rfl⟩)
    · exact .inl rfl
  | enterDegraded =>
    have moved := state_enterDegraded s.tick
    change (after config t .enterDegraded i s).state = _ at moved
    rw [moved]
    split_ifs with running
    · exact .inr (.inr ⟨running, .inl rfl⟩)
    · exact .inl rfl
  | cycleSent mode time frame =>
    have moved := state_commitCycle s.tick mode time frame
    change (after config t (.cycleSent mode time frame) i s).state = _ at moved
    rw [moved]
    split_ifs with starts
    · exact .inr (.inl ⟨starts.2, rfl⟩)
    · exact .inl rfl
  | gripperSent time commands =>
    have moved := state_commitGrippers s.tick time commands
    change (after config t (.gripperSent time commands) i s).state = _ at moved
    rw [moved]
    split_ifs with starts
    · exact .inr (.inl ⟨starts.2, rfl⟩)
    · exact .inl rfl
  | _ => cases control

/-! ## The command mutex -/

/-- The local states agree with `command_mutex_` and `lifecycle_mutex_`. -/
def Locks (s : SafetyRuntime) (φ : Thread → Local) : Prop :=
  (∀ t, (φ t).command = true ↔ s.commandOwner = some t) ∧
    s.lifecycleLocked = (φ .lifecycle).locked

theorem Locks.frame {s s' : SafetyRuntime} {φ : Thread → Local} {t : Thread} {ψ : Local}
    (locks : Locks s φ) (owner : s'.commandOwner = s.commandOwner)
    (locked : s'.lifecycleLocked = s.lifecycleLocked) (sameCommand : ψ.command = (φ t).command)
    (sameLocked : ψ.locked = (φ t).locked) : Locks s' (Function.update φ t ψ) := by
  refine ⟨fun u => ?_, ?_⟩
  · rw [update_of_same Local.command sameCommand, owner]
    exact locks.1 u
  · rw [update_of_same Local.locked sameLocked, locked]
    exact locks.2

/-- At most one thread is under `command_mutex_`. -/
theorem Locks.exclusive {s : SafetyRuntime} {φ : Thread → Local} (locks : Locks s φ) {t u : Thread}
    (first : (φ t).command = true) (second : (φ u).command = true) : t = u :=
  Option.some.inj (((locks.1 t).mp first).symm.trans ((locks.1 u).mp second))

theorem step_command (config : RuntimeConfig) (φ : Local) {site : Site} (i : Input) (s : SafetyRuntime)
    (other : site ≠ .lock ∧ site ≠ .unlock) : (φ.step config site i s).command = φ.command := by
  cases site <;> simp only [Local.step] <;>
    first | rfl | (split_ifs <;> rfl) | (split <;> rfl) | simp at other

theorem step_locked (config : RuntimeConfig) (φ : Local) {site : Site} (i : Input) (s : SafetyRuntime)
    (other : site ≠ .call ∧ site ≠ .returned) : (φ.step config site i s).locked = φ.locked := by
  cases site <;> simp only [Local.step] <;>
    first | rfl | (split_ifs <;> rfl) | (split <;> rfl) | simp at other

theorem Locks.keep {config : RuntimeConfig} {t : Thread} {site : Site} {i : Input} {s : SafetyRuntime}
    {φ : Thread → Local} (locks : Locks s φ) (isReady : site.ready s = true)
    (fits : (φ t).fits t site) :
    Locks (after config t site i s) (Function.update φ t ((φ t).step config site i s.tick)) := by
  have footprint := after_footprint config t site i s
  by_cases special : site = .lock ∨ site = .unlock ∨ site = .call ∨ site = .returned
  · obtain rfl | rfl | rfl | rfl := special
    · have free : s.commandOwner = none := by simpa [Site.ready] using isReady
      refine ⟨fun u => ?_, ?_⟩
      · by_cases here : u = t
        · subst here
          simp [after, effect, Local.step, Local.lock]
        · have mine := locks.1 u
          simp_all [after, effect, Ne.symm here]
      · rw [update_of_same Local.locked (step_locked config _ i _ (by simp))]
        exact locks.2
    · have mine := (locks.1 t).mp fits
      refine ⟨fun u => ?_, ?_⟩
      · by_cases here : u = t
        · subst here
          simp [after, effect, Local.step, Local.unlock]
        · have theirs := locks.1 u
          simp_all [after, effect, Ne.symm here]
      · rw [update_of_same Local.locked (step_locked config _ i _ (by simp))]
        exact locks.2
    · obtain ⟨rfl, -⟩ := fits
      refine ⟨fun u => ?_, ?_⟩
      · rw [update_of_same Local.command (step_command config _ i _ (by simp))]
        exact locks.1 u
      · simp [after, effect, Local.step]
    · obtain ⟨⟨rfl, -⟩, -⟩ := fits
      refine ⟨fun u => ?_, ?_⟩
      · rw [update_of_same Local.command (step_command config _ i _ (by simp))]
        exact locks.1 u
      · simp [after, effect, Local.step]
  · push Not at special
    exact locks.frame (footprint.commandOwner special.1 special.2.1)
      (footprint.lifecycleLocked special.2.2.1 special.2.2.2)
      (step_command config (φ t) i _ ⟨special.1, special.2.1⟩)
      (step_locked config (φ t) i _ ⟨special.2.2.1, special.2.2.2⟩)

theorem locks_carried (config : RuntimeConfig) : Carried config anySection Locks where
  start := ⟨fun t => by simp, rfl⟩
  keeps _ _ _ _ _ locks isReady fits _ := locks.keep isReady fits

/-! ## The lifecycle thread -/

theorem step_stage (config : RuntimeConfig) (φ : Local) {site : Site} (i : Input) (s : SafetyRuntime)
    (stays : site.movesStage = false) : (φ.step config site i s).stage = φ.stage := by
  cases site <;> first | rfl | cases stays

theorem step_recovery (config : RuntimeConfig) (φ : Local) {site : Site} (i : Input)
    (s : SafetyRuntime) (stays : site.movesRecovery = false) :
    (φ.step config site i s).recovery = φ.recovery := by
  cases site <;> simp only [Local.step] <;>
    first | rfl | (split_ifs <;> rfl) | (split <;> rfl) | cases stays

theorem step_prechecked (config : RuntimeConfig) (φ : Local) {site : Site} (i : Input)
    (s : SafetyRuntime) (other : site ≠ .call) (others : ∀ operation, site ≠ .maintenancePrecheck operation) :
    (φ.step config site i s).prechecked = φ.prechecked := by
  cases site <;> simp only [Local.step] <;>
    first
    | rfl
    | (split_ifs <;> rfl)
    | (split <;> rfl)
    | exact absurd rfl other
    | exact absurd rfl (others _)

/-! ### Transactions that begin -/

section Begin

variable (config : RuntimeConfig) (φ : Local) (i : Input) (s : SafetyRuntime)

theorem stage_enableCheck : (φ.step config .enableCheck i s).stage =
    if (s.state = .ready ∨ s.state = .partiallyEnabled) ∧ !s.flags.faultLatched ∧
      !s.flags.hardwareTransition then .enabling s.now false else φ.stage := by
  simp only [Local.step, checkEnable]
  split_ifs <;> rfl

theorem stage_disableStart : (φ.step config .disableStart i s).stage =
    if s.state = .disconnected then φ.stage
    else .disabling (s.state = .fault ∧ s.flags.faultLatched) := by
  simp only [Local.step, startDisable]
  split_ifs <;> rfl

theorem stage_estopLatch : (φ.step config .estopLatch i s).stage =
    if s.flags.emergencyStopLatched = true ∨ s.state = .disconnected then φ.stage
    else .estopping := by
  simp only [Local.step, latchEstop]
  split_ifs <;> simp_all [Local.enter]

theorem stage_motorPowerStart : (φ.step config .motorPowerStart i s).stage =
    if s.state = .ready ∨ s.state = .partiallyEnabled then .powering else φ.stage := by
  simp only [Local.step, startMotorPower]
  split_ifs <;> simp_all [Local.enter]

/-- `set_motor_power_batch` begins its transaction. -/
def SafetyRuntime.batchStarts (enabled : Bool) : Prop :=
  s.state ≠ .disconnected ∧ s.flags.stopping = false ∧ s.flags.hardwareTransition = false ∧
    (enabled = true → (s.state = .ready ∨ s.state = .partiallyEnabled) ∧ s.flags.faultLatched = false)

theorem stage_batchStart (selected : List Handle) (enabled : Bool) :
    (φ.step config (.batchStart selected enabled) i s).stage = φ.stage ∨
      s.batchStarts enabled ∧ (φ.step config (.batchStart selected enabled) i s).stage =
        .batching selected enabled s.state := by
  simp only [Local.step, startBatch, SafetyRuntime.batchStarts]
  split_ifs <;> simp_all [Local.enter]
  tauto

theorem stage_maintenancePrecheck (operation : Maintenance) :
    (φ.step config (.maintenancePrecheck operation) i s).stage =
      if (s.state = .ready ∨ operation = .clearFaults ∧ s.state = .fault ∧
        !s.flags.emergencyStopLatched) ∧ !s.flags.hardwareTransition then .maintaining operation
      else φ.stage := by
  simp only [Local.step, precheckMaintenance]
  split_ifs <;> simp_all

theorem stage_gravityCheck : (φ.step config .gravityCheck i s).stage = φ.stage ∨
    (φ.step config .gravityCheck i s).stage = .starting ∧ s.flags.hardwareTransition = false ∧
      s.flags.faultLatched = false ∧ (s.state = .enabled ∨ s.state = .running) := by
  simp only [Local.step, checkGravity]
  split_ifs <;> simp_all [Local.enter, Except.isOk, Except.toBool]
  tauto

theorem stage_bimanualCheck : (φ.step config .bimanualCheck i s).stage = φ.stage ∨
    (φ.step config .bimanualCheck i s).stage = .starting ∧ s.flags.hardwareTransition = false ∧
      s.flags.faultLatched = false ∧ (s.state = .enabled ∨ s.state = .running) := by
  simp only [Local.step, checkBimanual]
  split_ifs <;> simp_all [Local.enter, Except.isOk, Except.toBool]
  tauto

theorem stage_connectCheck : (φ.step config .connectCheck i s).stage = φ.stage ∨
    s.flags.stopping = false ∧ ((s.state = .disconnected ∧
      (φ.step config .connectCheck i s).stage = .connecting false) ∨
      s.revalidates = true ∧ (φ.step config .connectCheck i s).stage = .connecting true) := by
  by_cases connected : s.state = .disconnected <;> simp only [Local.step, checkConnect] <;>
    split_ifs <;> simp_all [Local.enter]

theorem stage_stopGravityCheck : (φ.step config .stopGravityCheck i s).stage = φ.stage ∨
    (φ.step config .stopGravityCheck i s).stage = .releasing := by
  simp only [Local.step]
  split_ifs
  · exact .inr rfl
  · exact .inl rfl

end Begin

/-- A maintenance call ends idle, or failed when it latches a fault. -/
theorem stage_finishMaintenance (config : RuntimeConfig) (φ : Local) (i : Input) (s : SafetyRuntime)
    (operation : Maintenance) (code : OperationCode) (latchFault : Bool) :
    (φ.step config (.finishMaintenance operation code latchFault) i s).stage =
      if latchFault then .failed else .idle := by
  cases latchFault <;> rfl

/-- An invariant of the state and the lifecycle thread: the sections of the other threads keep it where
they fit, whatever those threads have captured. -/
theorem Carried.ofLifecycle {config : RuntimeConfig} {allowed : Condition}
    {I : SafetyRuntime → Local → Prop} (start : I {} {})
    (own : ∀ site i s φ, I s φ → site.ready s = true → φ.fits .lifecycle site →
      allowed .lifecycle site i s → I (after config .lifecycle site i s) (φ.step config site i s.tick))
    (other : ∀ t site i s φ (ψ : Local), t ≠ .lifecycle → I s φ → site.ready s = true → ψ.fits t site →
      allowed t site i s → I (after config t site i s) φ) :
    Carried config allowed fun s φ => I s (φ .lifecycle) where
  start := start
  keeps t site i s φ holds isReady fits permitted := by
    by_cases here : t = .lifecycle
    · subst here
      rw [Function.update_self]
      exact own site i s (φ .lifecycle) holds isReady fits permitted
    · rw [Function.update_of_ne (Ne.symm here)]
      exact other t site i s (φ .lifecycle) (φ t) here holds isReady fits permitted

end MotorDrive.Runtime
