import MotorDrive.Runtime.Quiescent

/-!
# Who moves the arm

Gravity compensation sends its own frames and drops what trajectories and bimanual follow prepare, so
it may not begin beside one of them, and none of them may begin beside it.  Each start is decided under
`command_mutex_`, but gravity compensation is released by transactions that do not hold the mutex, and a
gravity cycle that is under way may then write its phase once more.  `Owned` says where a cycle can be
when this happens.
-/

namespace MotorDrive.Runtime

open Threads SafetyRuntime

namespace Arm

/-- Nothing beside gravity compensation moves the arm. -/
def Yields (arm : Arm) : Prop := arm.bimanual = none ∧ arm.trajectory.state ≠ .running

/-- Motions wait behind a running one only. -/
def Waits (arm : Arm) : Prop := arm.trajectoryQueue ≠ [] → arm.trajectory.state = .running

theorem waits_terminate (arm : Arm) (state : MotionState) : (arm.terminateTrajectory state).Waits :=
  fun waiting => absurd (terminate_queue arm state) waiting

theorem running_terminate {arm : Arm} {state : MotionState} (past : state ≠ .running)
    (running : (arm.terminateTrajectory state).trajectory.state = .running) : False := by
  rw [terminate_trajectory] at running
  split_ifs at running with active
  · exact past running
  · exact active (.inl running)

end Arm

/-! ## What a section does to the owners -/

/-- The section may end gravity compensation. -/
def Site.releases : Site → Bool
  | .initializeEnabled _ _ | .disableCommit _ _ | .batchStart _ _ | .recoverClear | .stopStart
  | .enterFault _ _ | .enterSafeStop => true
  | .gravitySent cycle => cycle.phase = .exiting
  | _ => false

/-- What a section does to the owners of the arm. -/
structure Arm.Passes (site : Site) (arm arm' : Arm) : Prop where
  phase : arm'.gravity.phase = arm.gravity.phase ∨
    arm'.gravity.phase = .inactive ∧ site.releases = true ∨
    (∃ since, site = .gravityStart since) ∨
    (∃ since, site = .gravityStop since ∧ arm'.gravity.phase = .exiting) ∨
    ∃ cycle, site = .gravitySent cycle ∧ cycle.phase = .entering ∧ arm'.gravity.phase = .active
  bimanual : arm'.bimanual = arm.bimanual ∨ arm'.bimanual = none ∨ ∃ since, site = .bimanualStart since
  running : arm'.trajectory.state = .running → arm.trajectory.state = .running ∨ site = .trajectoryUpdate ∨
    (∃ mode enqueue replace planningToken, site = .trajectoryStart mode enqueue replace planningToken) ∧
      arm.gravity.phase = .inactive
  waits : arm.Waits → arm'.Waits

namespace Arm.Passes

variable {site : Site} {arm arm' : Arm}

theorem same (gravity : arm'.gravity.phase = arm.gravity.phase) (bimanual : arm'.bimanual = arm.bimanual)
    (trajectory : arm'.trajectory = arm.trajectory) (queue : arm'.trajectoryQueue = arm.trajectoryQueue) :
    Arm.Passes site arm arm' where
  phase := .inl gravity
  bimanual := .inl bimanual
  running running := .inl (by rwa [← trajectory])
  waits waits := by rwa [Arm.Waits, trajectory, queue]

theorem refl : Arm.Passes site arm arm := .same rfl rfl rfl rfl

/-- A section that terminates the trajectory. -/
theorem terminated (state : MotionState) (past : state ≠ .running)
    (trajectory : arm'.trajectory = (arm.terminateTrajectory state).trajectory)
    (queue : arm'.trajectoryQueue = (arm.terminateTrajectory state).trajectoryQueue)
    (gravity : arm'.gravity.phase = arm.gravity.phase ∨ arm'.gravity.phase = .inactive ∧ site.releases = true)
    (bimanual : arm'.bimanual = arm.bimanual ∨ arm'.bimanual = none) : Arm.Passes site arm arm' where
  phase := gravity.imp id .inl
  bimanual := bimanual.imp id .inl
  running running := (Arm.running_terminate past (trajectory ▸ running)).elim
  waits _ := by
    rw [Arm.Waits, trajectory, queue]
    exact Arm.waits_terminate arm state

end Arm.Passes

section Passes

variable (config : RuntimeConfig) (i : Input) (s : SafetyRuntime)

theorem passes_replaceCompleted (site : Site) (arm : Arm) : Arm.Passes site arm arm.replaceCompleted := by
  unfold Arm.replaceCompleted
  split_ifs
  · exact .terminated .cancelled (by simp) rfl rfl (.inl (congrArg _ (Arm.terminate_gravity _ _)))
      (.inl (Arm.terminate_bimanual _ _))
  · exact .refl

/-- An ordinary command replaces a trajectory that has completed, whether or not it is accepted. -/
theorem passes_install (mode : ControlMode) (planningToken : ℕ) (client : Bool) :
    Arm.Passes (.install mode planningToken client) s.arm (s.install config mode planningToken client i).2.arm := by
  have replaced := passes_replaceCompleted (.install mode planningToken client) s.arm
  simp only [install]
  split
  · exact .refl
  · exact .refl
  · split_ifs
    · exact replaced
    · exact replaced
    · exact replaced
    · exact replaced
    · exact ⟨replaced.phase, replaced.bimanual, replaced.running, replaced.waits⟩

/-- No trajectory is accepted while gravity compensation is active. -/
theorem inactive_of_checkTrajectory {mode : ControlMode} {enqueue : Bool} {replace planningToken : ℕ}
    {s : SafetyRuntime} (ok : s.checkTrajectory mode enqueue replace planningToken = .ok ()) :
    s.arm.gravity.phase = .inactive := by
  by_contra active
  have refused : ∃ error, s.requireStateForCommand false (enqueue || replace != 0) planningToken = .error error := by
    unfold requireStateForCommand
    split_ifs
    · exact ⟨_, rfl⟩
    · exact ⟨_, rfl⟩
    · exact ⟨_, rfl⟩
    · simp_all
    · simp_all
  obtain ⟨error, refused⟩ := refused
  simp only [checkTrajectory, refused] at ok
  split at ok
  · cases ok
  · cases ok
  · rename_i accepted
    cases accepted

theorem passes_startTrajectory (mode : ControlMode) (enqueue : Bool) (replace planningToken : ℕ) :
    Arm.Passes (.trajectoryStart mode enqueue replace planningToken) s.arm
      (s.startTrajectory config mode enqueue replace planningToken).2.arm := by
  simp only [SafetyRuntime.startTrajectory]
  split
  · exact .refl
  · rename_i ok
    have inactive := inactive_of_checkTrajectory ok
    split_ifs with queued
    · exact ⟨.inl rfl, .inl rfl, .inl, fun _ _ => queued.2⟩
    · refine ⟨.inl ?_, .inl ?_, fun _ => .inr (.inr ⟨⟨mode, enqueue, replace, planningToken, rfl⟩, inactive⟩),
        fun _ _ => rfl⟩
      · simp only [record_arm, Arm.clearMailboxes, Arm.archiveStopped, Arm.archive]
        split_ifs <;> rfl
      · simp only [record_arm, Arm.clearMailboxes, Arm.archiveStopped, Arm.archive]
        split_ifs <;> rfl

theorem passes_cancelMotion (id : ℕ) : Arm.Passes (.cancelMotion id) s.arm (s.cancelMotion id i).2.arm := by
  simp only [SafetyRuntime.cancelMotion]
  by_cases active : s.arm.trajectory.id = id
  · rw [if_pos active]
    split_ifs
    · exact .terminated .cancelled (by simp) rfl rfl (.inl (congrArg _ (Arm.terminate_gravity _ _)))
        (.inl (Arm.terminate_bimanual _ _))
    · exact .refl
  · rw [if_neg active]
    split
    · rename_i queued found
      have before : s.arm.trajectoryQueue ≠ [] := by
        rintro empty
        rw [empty] at found
        cases found
      split_ifs
      · exact .refl
      · refine ⟨.inl ?_, .inl ?_, fun running => .inl ?_, fun waits _ => ?_⟩
        · simp only [setArm_arm, Arm.cancelQueued, Arm.archive]
          split_ifs <;> rfl
        · simp only [setArm_arm, Arm.cancelQueued, Arm.archive]
          split_ifs <;> rfl
        · simp only [setArm_arm, Arm.cancelQueued, Arm.archive] at running
          split_ifs at running <;> exact running
        · have running := waits before
          simp only [setArm_arm, Arm.cancelQueued, Arm.archive]
          split_ifs <;> exact running
    · split_ifs <;> exact .refl

theorem passes_updateTrajectory : Arm.Passes .trajectoryUpdate s.arm (s.updateTrajectory i).arm := by
  unfold SafetyRuntime.updateTrajectory
  split_ifs with running
  · unfold SafetyRuntime.completeTrajectory
    split
    · rename_i empty
      exact ⟨.inl rfl, .inl rfl, fun _ => .inr (.inl rfl), fun _ waiting => absurd empty waiting⟩
    · refine ⟨.inl ?_, .inl ?_, fun _ => .inr (.inl rfl), fun _ _ => rfl⟩
      · simp only [record_arm, setArm_arm, Arm.archive]
        split_ifs <;> rfl
      · simp only [record_arm, setArm_arm, Arm.archive]
        split_ifs <;> rfl
  · exact .terminated .fault (by simp) rfl rfl (.inl (congrArg _ (Arm.terminate_gravity _ _)))
      (.inl (Arm.terminate_bimanual _ _))
  · exact .refl
  · exact ⟨.inl rfl, .inl rfl, fun _ => .inr (.inl rfl), fun _ _ => rfl⟩
  · exact .refl

end Passes

theorem passes_after (config : RuntimeConfig) (t : Thread) (site : Site) (i : Input) (s : SafetyRuntime) :
    Arm.Passes site s.arm (after config t site i s).arm := by
  have footprint := after_footprint config t site i s
  by_cases writes : site.writesArm = true
  · cases site with
    | enableSeed mode requireEnabled =>
      simp only [after, effect, seedMailbox]
      split_ifs <;> exact .same rfl rfl rfl rfl
    | initialHoldSent mode commands => cases mode <;> exact .same rfl rfl rfl rfl
    | enableFailed | estopClear | holdInstall _ | recoverFailClear =>
      exact .same rfl rfl rfl rfl
    | initializeEnabled mode since => exact ⟨.inr (.inl ⟨rfl, rfl⟩), .inr (.inl rfl), .inl, id⟩
    | disableCommit confirmed preserveFault => exact ⟨.inr (.inl ⟨rfl, rfl⟩), .inr (.inl rfl), .inl, id⟩
    | recoverClear => exact ⟨.inr (.inl ⟨rfl, rfl⟩), .inr (.inl rfl), .inl, id⟩
    | disableStart =>
      simp only [after, effect, startDisable]
      split_ifs
      · exact .refl
      · exact .terminated .cancelled (by simp) rfl rfl (.inl (by simp)) (.inl (by simp))
    | batchStart selected enabled =>
      simp only [after, effect, startBatch]
      split_ifs
      · exact .refl
      · exact .refl
      · exact .refl
      · exact .refl
      · exact .terminated .cancelled (by simp) rfl rfl (.inl (by simp)) (.inl (by simp))
      · exact .terminated .cancelled (by simp) rfl rfl (.inr ⟨rfl, rfl⟩) (.inr rfl)
    | stopStart => exact .terminated .cancelled (by simp) rfl rfl (.inr ⟨rfl, rfl⟩) (.inr rfl)
    | safeHoldInstall since mode commands =>
      simp only [after, effect, enterSafeHold]
      split <;> exact .same rfl rfl rfl rfl
    | enterFault hold available =>
      simp only [after, effect, SafetyRuntime.enterFault]
      split_ifs
      · exact .refl
      · exact .terminated .fault (by simp) rfl rfl (.inr ⟨rfl, rfl⟩) (.inr rfl)
      · exact .terminated .fault (by simp) rfl rfl (.inr ⟨rfl, rfl⟩) (.inr rfl)
    | enterSafeStop =>
      simp only [after, effect, SafetyRuntime.enterSafeStop]
      split_ifs
      · exact .refl
      · exact .terminated .fault (by simp) rfl rfl (.inr ⟨rfl, rfl⟩) (.inr rfl)
    | submit mode streaming =>
      simp only [after, effect, SafetyRuntime.submit]
      split
      · exact .refl
      · split_ifs
        · exact .refl
        · exact .refl
        · exact .same rfl rfl rfl rfl
    | install mode planningToken client => exact passes_install config i s.tick mode planningToken client
    | trajectoryStart mode enqueue replace planningToken =>
      exact passes_startTrajectory config s.tick mode enqueue replace planningToken
    | cancelMotion id => exact passes_cancelMotion i s.tick id
    | cancelAllMotions =>
      exact .terminated .cancelled (by simp) rfl rfl (.inl (congrArg _ (Arm.terminate_gravity _ _)))
        (.inl (Arm.terminate_bimanual _ _))
    | faultTrajectory =>
      exact .terminated .fault (by simp) rfl rfl (.inl (congrArg _ (Arm.terminate_gravity _ _)))
        (.inl (Arm.terminate_bimanual _ _))
    | gravityStart since =>
      exact ⟨.inr (.inr (.inl ⟨since, rfl⟩)), .inr (.inl rfl), .inl, id⟩
    | gravityStop since =>
      exact ⟨.inr (.inr (.inr (.inl ⟨since, rfl, rfl⟩))), .inl rfl, .inl, id⟩
    | bimanualStart since => exact ⟨.inl rfl, .inr (.inr ⟨since, rfl⟩), .inl, id⟩
    | bimanualStop since =>
      simp only [after, effect, stopBimanual]
      split_ifs
      · exact ⟨.inl rfl, .inr (.inl rfl), .inl, id⟩
      · exact .refl
    | trajectoryUpdate => exact passes_updateTrajectory i s.tick
    | trajectoryCycle since =>
      simp only [after, effect, SafetyRuntime.trajectoryCycle]
      split_ifs
      · exact .refl
      · exact .refl
      · exact .refl
      · exact .same rfl rfl rfl rfl
    | consumePending since =>
      simp only [after, effect, Arm.consumePending]
      split_ifs <;> exact .same rfl rfl rfl rfl
    | cyclePrepare snapshot =>
      simp only [after, effect, advanceArm]
      split_ifs
      · exact .refl
      · split <;> exact .same rfl rfl rfl rfl
    | cycleSent mode time frame =>
      change Arm.Passes _ _ (if _ then _ else _)
      cases mode <;> split <;> exact .same rfl rfl rfl rfl
    | gravitySent cycle =>
      simp only [after, effect, SafetyRuntime.commitGravity, Arm.setLastSent]
      split_ifs with begins ends
      · exact ⟨.inr (.inr (.inr (.inr ⟨cycle, rfl, begins.1, rfl⟩))), .inl rfl, .inl, id⟩
      · exact ⟨.inr (.inl ⟨rfl, by simp [Site.releases, ends.1]⟩), .inl rfl, .inl, id⟩
      · exact .same rfl rfl rfl rfl
    | _ => cases writes
  · rw [footprint.arm (by simpa using writes)]
    exact .refl

/-! ## Where a gravity cycle can be -/

/-- What a gravity cycle has read lives as long as the cycle. -/
theorem step_gravity (config : RuntimeConfig) (φ : Local) {site : Site} (i : Input) (s : SafetyRuntime)
    (other : site ≠ .gravityRead) : (φ.step config site i s).gravity = none ∨
      (φ.step config site i s).gravity = φ.gravity ∧ (φ.step config site i s).cycle = φ.cycle := by
  cases site <;>
    first
    | exact .inr ⟨rfl, rfl⟩
    | exact .inl rfl
    | exact absurd rfl other
    | (simp only [Local.step]; split_ifs <;> first | exact .inr ⟨rfl, rfl⟩ | exact .inl rfl)
    | (simp only [Local.step]; split <;> exact .inr ⟨rfl, rfl⟩)

theorem stage_enabling {config : RuntimeConfig} {site : Site} {i : Input} {s : SafetyRuntime} {φ : Local}
    {since : ℕ} {seeded : Bool} (reached : (φ.step config site i s).stage = .enabling since seeded) :
    φ.stage = .enabling since seeded ∨
      site = .enableCheck ∧ seeded = false ∧ (effect config .lifecycle site i s).flags.hardwareTransition = true ∨
      ∃ mode requireEnabled, site = .enableSeed mode requireEnabled ∧ ∃ before, φ.stage = .enabling since before := by
  cases site with
  | enableCheck =>
    rw [stage_enableCheck] at reached
    split_ifs at reached with opens
    · cases reached
      exact .inr (.inl ⟨rfl, rfl, by simp [effect, checkEnable, opens]⟩)
    · exact .inl reached
  | enableSeed mode requireEnabled =>
    simp only [Local.step] at reached
    split at reached
    · rename_i stage
      cases reached
      exact .inr (.inr ⟨mode, requireEnabled, rfl, _, stage⟩)
    · exact .inl reached
  | _ =>
    first
    | exact .inl reached
    | cases reached
    | (simp only [Local.step, Local.enter, Local.leave, Local.drop, Local.unlock] at reached
       repeat' split at reached
       all_goals first | exact .inl reached | cases reached)

/-- `enable` does not touch `hardware_transition_` before it has initialized the enabled state. -/
theorem quiet_of_enabling {config : RuntimeConfig} {site : Site} {i : Input} {s : SafetyRuntime} {φ : Local}
    {since : ℕ} {seeded : Bool} (fits : φ.fits .lifecycle site) (enabling : φ.stage = .enabling since seeded)
    (stays : ∃ since seeded, (φ.step config site i s.tick).stage = .enabling since seeded) :
    (after config .lifecycle site i s).flags.hardwareTransition = s.flags.hardwareTransition ∧
      (after config .lifecycle site i s).state = s.state := by
  have footprint := after_footprint config .lifecycle site i s
  obtain ⟨since', seeded', stays⟩ := stays
  by_cases writes : site.writesFlags = true
  · cases site with
    | healthWrite healthy faults => exact ⟨rfl, rfl⟩
    | initializeEnabled _ _ | enableAbandoned | enableFailed => cases stays
    | safeHoldInstall since mode commands => exact absurd rfl fits.1.1
    | enterSafeStop | enterDegraded | workerDecide | gripperSent _ _ => cases fits.1
    | cycleSent mode time frame =>
      obtain ⟨-, cycle, ⟨worker, -⟩, -⟩ := fits
      cases worker
    | retryTimeout => exact absurd rfl fits
    | _ =>
      first
      | (cases writes; done)
      | (exfalso; simp_all [Local.fits, Local.begins, Local.holds, Local.calls])
  · have flags := footprint.flags (by simpa using writes)
    exact ⟨by rw [flags], congrArg Flags.state flags⟩

/-- How cycles and `enable` exclude each other, and what a gravity cycle has read. -/
structure Opened (s : SafetyRuntime) (φ : Thread → Local) : Prop where
  read : ∀ gravity, (φ .worker).gravity = some gravity →
    ∃ cycle, (φ .worker).cycle = some cycle ∧ cycle.gravityActive = true
  enabling : ∀ since seeded, (φ .lifecycle).stage = .enabling since seeded →
    s.flags.hardwareTransition = true ∨ s.state.commanding = false
  seeded : ∀ since, (φ .lifecycle).stage = .enabling since true → (φ .worker).cycle = none

theorem read_step {config : RuntimeConfig} {site : Site} {i : Input} {s : SafetyRuntime} {φ : Local}
    (read : ∀ gravity, φ.gravity = some gravity → ∃ cycle, φ.cycle = some cycle ∧ cycle.gravityActive = true)
    (fits : φ.fits .worker site) (gravity : GravityCycle)
    (found : (φ.step config site i s).gravity = some gravity) :
    ∃ cycle, (φ.step config site i s).cycle = some cycle ∧ cycle.gravityActive = true := by
  by_cases reads : site = .gravityRead
  · subst reads
    obtain ⟨cycle, -, -, captured, active⟩ := fits
    exact ⟨cycle, captured, active⟩
  · obtain dropped | ⟨same, cycle⟩ := step_gravity config φ i s reads
    · rw [dropped] at found
      cases found
    · rw [cycle]
      exact read gravity (same ▸ found)

/-- A thread under `command_mutex_` other than the worker has no cycle beside it. -/
theorem cycle_of_held {s : SafetyRuntime} {φ : Thread → Local} (locks : Locks s φ) (ordered : Ordered s φ)
    {t : Thread} (other : t ≠ .worker) (held : (φ t).command = true) : (φ .worker).cycle = none := by
  refine ordered.cycling .worker ?_
  by_contra working
  exact other (locks.exclusive held (by simpa using working))

theorem opened_keeps {config : RuntimeConfig} {t : Thread} {site : Site} {i : Input} {s : SafetyRuntime}
    {φ : Thread → Local} (locks : Locks s φ) (ordered : Ordered s φ) (opened : Opened s φ)
    (fits : (φ t).fits t site) :
    Opened (after config t site i s) (Function.update φ t ((φ t).step config site i s.tick)) := by
  have read : ∀ gravity,
      (Function.update φ t ((φ t).step config site i s.tick) .worker).gravity = some gravity →
      ∃ cycle, (Function.update φ t ((φ t).step config site i s.tick) .worker).cycle = some cycle ∧
        cycle.gravityActive = true := by
    by_cases worker : t = .worker
    · subst worker
      rw [Function.update_self]
      exact read_step opened.read fits
    · rw [Function.update_of_ne (Ne.symm worker)]
      exact opened.read
  by_cases own : t = .lifecycle
  · subst own
    refine ⟨read, ?_, ?_⟩
    · rw [Function.update_self]
      intro since seeded reached
      obtain before | ⟨rfl, -, begun⟩ | ⟨mode, requireEnabled, rfl, before, enabling⟩ := stage_enabling reached
      · obtain ⟨transition, state⟩ := quiet_of_enabling fits before ⟨since, seeded, reached⟩
        rw [transition, state]
        exact opened.enabling since seeded before
      · exact .inl begun
      · obtain ⟨transition, state⟩ := quiet_of_enabling fits enabling ⟨since, seeded, reached⟩
        rw [transition, state]
        exact opened.enabling since before enabling
    · rw [Function.update_self, Function.update_of_ne (by simp)]
      intro since reached
      obtain before | ⟨-, unseeded, -⟩ | ⟨mode, requireEnabled, rfl, -⟩ := stage_enabling reached
      · exact opened.seeded since before
      · cases unseeded
      · obtain ⟨since, -, held, -⟩ := fits
        exact cycle_of_held locks ordered (by simp) held
  · have theirs : site.isLifecycle = false := by
      by_contra owned
      exact own (lifecycle_of_fits fits (by simpa using owned))
    refine ⟨read, ?_, ?_⟩
    · rw [Function.update_of_ne (Ne.symm own)]
      intro since seeded stage
      obtain same | ⟨-, calm⟩ := transition_other (t := t) (i := i) (s := s) theirs
      · exact (opened.enabling since seeded stage).imp (fun on => same.trans on)
          (calm_after config i (commands_of_theirs theirs))
      · exact .inr calm
    · rw [Function.update_of_ne (Ne.symm own)]
      intro since stage
      have before := opened.seeded since stage
      by_cases worker : t = .worker
      · subst worker
        rw [Function.update_self]
        by_cases starts : site = .cycleStart
        · subst starts
          exact cycleSnapshot_none (opened.enabling since true stage)
        · exact (step_cycle config _ i s.tick starts).elim id fun same => same.trans before
      · rw [Function.update_of_ne (Ne.symm worker)]
        exact before

theorem opened_carried (config : RuntimeConfig) :
    Carried config anySection fun s φ => (Locks s φ ∧ Ordered s φ) ∧ Opened s φ := by
  refine (ordered_carried config).and ⟨?_, ?_, ?_⟩
    fun _ _ _ _ _ ⟨locks, ordered⟩ opened _ fits _ => opened_keeps locks ordered opened fits
  · rintro gravity ⟨⟩
  · rintro since seeded ⟨⟩
  · rintro since ⟨⟩

/-! ## The owners over a run -/

/-- The thread is in a gravity cycle that makes the phase `.active`. -/
def Local.Entering (φ : Local) : Prop := ∃ cycle, φ.gravity = some cycle ∧ cycle.phase = .entering

/-- The transaction is a power batch. -/
def Stage.batches : Stage → Bool
  | .batching _ _ _ => true
  | _ => false

/-- Gravity compensation owns the arm alone, also where it has been released under a cycle. -/
structure Owned (s : SafetyRuntime) (φ : Thread → Local) : Prop where
  waits : s.arm.Waits
  starting : (φ .lifecycle).stage = .starting → (φ .lifecycle).command = true ∧
    s.arm.gravity.phase = .inactive ∧ s.arm.trajectory.state ≠ .running
  releasing : (φ .lifecycle).stage = .releasing → (φ .lifecycle).command = true ∧
    s.arm.gravity.phase ≠ .inactive
  cycling : ∀ cycle, (φ .worker).cycle = some cycle → cycle.gravityActive = false →
    s.arm.gravity.phase = .inactive
  released : (φ .worker).Entering → s.arm.gravity.phase ≠ .inactive ∨
    (φ .lifecycle).stage.batches = true ∨ s.state.commanding = false
  yields : s.arm.gravity.phase ≠ .inactive ∨ (φ .worker).Entering → s.arm.Yields

theorem stage_starting {config : RuntimeConfig} {site : Site} {i : Input} {s : SafetyRuntime}
    {φ : Local} (reached : (φ.step config site i s).stage = .starting) :
    φ.stage = .starting ∧ site ≠ .unlock ∨ site = .gravityCheck ∧ s.checkGravity = .ok () ∨
      site = .bimanualCheck ∧ s.checkBimanual config = .ok () := by
  cases site with
  | unlock =>
    simp only [Local.step, Local.unlock] at reached
    split_ifs at reached with begun
    exact absurd (.inl reached) begun
  | gravityCheck =>
    simp only [Local.step] at reached
    split_ifs at reached with begun
    · cases check : s.checkGravity with
      | error error => simp [check, Except.isOk, Except.toBool] at begun
      | ok => exact .inr (.inl ⟨rfl, rfl⟩)
    · exact .inl ⟨reached, by simp⟩
  | bimanualCheck =>
    simp only [Local.step] at reached
    split_ifs at reached with begun
    · cases check : s.checkBimanual config with
      | error error => simp [check, Except.isOk, Except.toBool] at begun
      | ok => exact .inr (.inr ⟨rfl, rfl⟩)
    · exact .inl ⟨reached, by simp⟩
  | _ =>
    first
    | exact .inl ⟨reached, by simp⟩
    | cases reached
    | (simp only [Local.step, Local.enter, Local.leave, Local.drop] at reached
       repeat' split at reached
       all_goals first | exact .inl ⟨reached, by simp⟩ | cases reached)

theorem of_checkGravity {s : SafetyRuntime} (ok : s.checkGravity = .ok ()) :
    s.arm.gravity.phase = .inactive ∧ s.arm.trajectory.state ≠ .running := by
  simp only [checkGravity] at ok
  split_ifs at ok
  simp_all

theorem of_checkBimanual {config : RuntimeConfig} {s : SafetyRuntime} (ok : s.checkBimanual config = .ok ()) :
    s.arm.gravity.phase = .inactive ∧ s.arm.trajectory.state ≠ .running := by
  simp only [checkBimanual] at ok
  split_ifs at ok
  simp_all

theorem of_checkStopGravity {s : SafetyRuntime} (ok : s.checkStopGravity = .ok true) :
    s.arm.gravity.phase ≠ .inactive := by
  simp only [checkStopGravity] at ok
  split_ifs at ok
  · cases ok
  · assumption

/-- A start leaves the arm alone before its last section. -/
theorem arm_of_starting {config : RuntimeConfig} {site : Site} {i : Input} {s : SafetyRuntime} {φ : Local}
    (fits : φ.fits .lifecycle site) (starts : φ.stage = .starting ∨ φ.stage = .releasing)
    (stays : (φ.step config site i s.tick).stage = φ.stage) :
    (after config .lifecycle site i s).arm = s.arm := by
  by_cases writes : site.writesArm = true
  · exfalso
    cases site with
    | gravityStart _ | gravityStop _ | bimanualStart _ =>
      rcases starts with stage | stage <;> rw [stage] at stays <;> cases stays
    | faultTrajectory => cases fits
    | trajectoryCycle since | consumePending since =>
      obtain ⟨cycle, ⟨worker, -⟩, -⟩ := fits
      cases worker
    | trajectoryUpdate =>
      obtain ⟨cycle, worker, -⟩ := fits
      cases worker
    | gravitySent cycle =>
      obtain ⟨-, snapshot, worker, -⟩ := fits
      cases worker
    | cycleSent mode time frame =>
      obtain ⟨-, snapshot, ⟨worker, -⟩, -⟩ := fits
      cases worker
    | _ =>
      rcases starts with stage | stage <;>
        first
        | (cases writes; done)
        | simp_all [Local.fits, Local.begins, Local.holds, Local.calls, Local.serves, Local.cycles]
  · exact (after_footprint config .lifecycle site i s).arm (by simpa using writes)

/-- Outside `command_mutex_` no other thread changes an owner, except that the worker may end a trajectory. -/
theorem passes_free (config : RuntimeConfig) {t : Thread} {site : Site} {i : Input} {s : SafetyRuntime}
    {φ : Local} (fits : φ.fits t site) (theirs : site.isLifecycle = false) (free : φ.command = false) :
    (after config t site i s).arm.gravity.phase = s.arm.gravity.phase ∧
      ((after config t site i s).arm.trajectory.state = .running → s.arm.trajectory.state = .running) := by
  have passes := passes_after config t site i s
  refine ⟨?_, fun running => ?_⟩
  · obtain same | ⟨-, releases⟩ | ⟨since, rfl⟩ | ⟨since, rfl, -⟩ | ⟨cycle, rfl, -⟩ := passes.phase
    · exact same
    · cases site with
      | enterFault hold available => simp [fits.1] at free
      | enterSafeStop => simp [fits.2] at free
      | gravitySent cycle =>
        obtain ⟨-, snapshot, -, held, -⟩ := fits
        simp [held] at free
      | _ => first | (cases theirs; done) | cases releases
    · cases theirs
    · cases theirs
    · obtain ⟨-, snapshot, -, held, -⟩ := fits
      simp [held] at free
  · obtain before | rfl | ⟨⟨mode, enqueue, replace, planningToken, rfl⟩, -⟩ := passes.running running
    · exact before
    · obtain ⟨cycle, -, held, -⟩ := fits
      simp [held] at free
    · simp [fits.2] at free

/-- A power batch lasts until its commit. -/
theorem batches_step {config : RuntimeConfig} {site : Site} {i : Input} {s : SafetyRuntime} {φ : Local}
    (fits : φ.fits .lifecycle site) (batches : φ.stage.batches = true) :
    (φ.step config site i s).stage.batches = true ∨
      ∃ selected enabled started outcome allDisabled,
        site = .batchCommit selected enabled started outcome allDisabled := by
  obtain ⟨selected, enabled, started, stage⟩ : ∃ selected enabled started,
      φ.stage = .batching selected enabled started := by
    cases stage : φ.stage with
    | batching selected enabled started => exact ⟨selected, enabled, started, rfl⟩
    | _ => simp [stage, Stage.batches] at batches
  by_cases moves : site.movesStage = true
  · cases site with
    | batchCommit _ _ _ _ _ => exact .inr ⟨_, _, _, _, _, rfl⟩
    | unlock => exact .inl (by simp [Local.step, Local.unlock, stage, Stage.batches])
    | enterSafeStop | enterDegraded | workerDecide => cases fits.1
    | feedbackFailed | holdFailed => cases fits
    | _ =>
      first
      | (cases moves; done)
      | (exfalso; simp_all [Local.fits, Local.begins, Local.holds, Local.calls])
  · exact .inl (by rw [step_stage config φ i s (by simpa using moves), batches])

/-- A power batch that is refused leaves the arm alone. -/
theorem batchStart_refused (config : RuntimeConfig) {selected : List Handle} {enabled : Bool} {i : Input}
    {s : SafetyRuntime} {φ : Local} :
    (φ.step config (.batchStart selected enabled) i s.tick).stage.batches = true ∨
      (after config .lifecycle (.batchStart selected enabled) i s).arm = s.arm := by
  simp only [Local.step, after, effect, startBatch]
  split_ifs <;> first | exact .inr rfl | exact .inl rfl

theorem released_own {config : RuntimeConfig} {site : Site} {i : Input} {s : SafetyRuntime}
    {φ : Thread → Local} (locks : Locks s φ) (ordered : Ordered s φ) (opened : Opened s φ) (owned : Owned s φ)
    (fits : (φ .lifecycle).fits .lifecycle site) (entering : (φ .worker).Entering) :
    (after config .lifecycle site i s).arm.gravity.phase ≠ .inactive ∨
      ((φ .lifecycle).step config site i s.tick).stage.batches = true ∨
      (after config .lifecycle site i s).state.commanding = false := by
  obtain ⟨gravity, found, phase⟩ := entering
  obtain ⟨cycle, captured, -⟩ := opened.read gravity found
  have free : (φ .lifecycle).command = false := by
    by_contra held
    have idle := cycle_of_held locks ordered (t := .lifecycle) (by simp) (by simpa using held)
    simp [idle] at captured
  have undrained (transacts : (φ .lifecycle).stage.transacts = true) : (φ .lifecycle).drained = false := by
    by_contra isDrained
    simp [ordered.drained (.inl transacts) (by simpa using isDrained)] at captured
  have passes := passes_after config .lifecycle site i s
  -- Where the section neither releases nor starts, what held before it holds still.
  by_cases same : (after config .lifecycle site i s).arm.gravity.phase = s.arm.gravity.phase
  · obtain active | batches | calm := owned.released ⟨gravity, found, phase⟩
    · exact .inl (same ▸ active)
    · obtain still | ⟨selected, enabled, started, outcome, allDisabled, rfl⟩ := batches_step fits batches
      · exact .inr (.inl still)
      · simp [undrained (by rw [fits.2.1]; rfl), Local.fits] at fits
    · by_cases commands : site.commands = true
      · exfalso
        cases site with
        | initializeEnabled mode since => simp [opened.seeded since fits.2] at captured
        | motorPowerCommit allDisabled => simp [undrained (by rw [fits.2.1]; rfl), Local.fits] at fits
        | batchCommit selected enabled started outcome allDisabled =>
          simp [undrained (by rw [fits.2.1]; rfl), Local.fits] at fits
        | gravityStart since | bimanualStart since => simp [fits.1.2.1] at free
        | _ => cases commands
      · exact .inr (.inr (calm_after config i (by simpa using commands) calm))
  · obtain before | ⟨-, releases⟩ | ⟨since, rfl⟩ | ⟨since, rfl, -⟩ | ⟨cycle, rfl, -⟩ := passes.phase
    · exact absurd before same
    · cases site with
      | initializeEnabled mode since => simp [opened.seeded since fits.2] at captured
      | disableCommit confirmed preserveFault =>
        simp [undrained (by rw [fits.2.1]; rfl), Local.fits] at fits
      | batchStart selected enabled =>
        obtain begun | refused := batchStart_refused config (φ := φ .lifecycle) (s := s)
        · exact .inr (.inl begun)
        · exact absurd (by rw [refused]) same
      | recoverClear => simp [fits.1.2.1] at free
      | stopStart =>
        refine .inr (.inr ?_)
        exact calm_after config i rfl (ordered.calm (.inr (.inr fits.2)))
      | enterFault hold available => simp [fits.1] at free
      | enterSafeStop => cases fits.1
      | gravitySent cycle =>
        obtain ⟨-, snapshot, worker, -⟩ := fits
        cases worker
      | _ => cases releases
    · simp [fits.1.2.1] at free
    · simp [fits.1.2.1] at free
    · obtain ⟨-, snapshot, worker, -⟩ := fits
      cases worker

/-- A gravity cycle is read while gravity compensation is active. -/
theorem active_of_read {config : RuntimeConfig} {i : Input} {s : SafetyRuntime} {φ : Local}
    {gravity : GravityCycle} (found : (φ.step config .gravityRead i s).gravity = some gravity) :
    s.arm.gravity.phase ≠ .inactive := by
  intro inactive
  simp [Local.step, inactive] at found

theorem released_other {config : RuntimeConfig} {t : Thread} {site : Site} {i : Input} {s : SafetyRuntime}
    {φ : Thread → Local} (locks : Locks s φ) (ordered : Ordered s φ) (opened : Opened s φ) (owned : Owned s φ)
    (fits : (φ t).fits t site) (theirs : site.isLifecycle = false)
    (entering : (Function.update φ t ((φ t).step config site i s.tick) .worker).Entering) :
    (after config t site i s).arm.gravity.phase ≠ .inactive ∨ (φ .lifecycle).stage.batches = true ∨
      (after config t site i s).state.commanding = false := by
  have kept (before : (φ .worker).Entering)
      (same : (after config t site i s).arm.gravity.phase = s.arm.gravity.phase) :
      (after config t site i s).arm.gravity.phase ≠ .inactive ∨ (φ .lifecycle).stage.batches = true ∨
        (after config t site i s).state.commanding = false := by
    rw [same]
    exact (owned.released before).imp_right (.imp_right (calm_after config i (commands_of_theirs theirs)))
  by_cases worker : t = .worker
  · subst worker
    rw [Function.update_self] at entering
    obtain ⟨gravity, found, phase⟩ := entering
    by_cases reads : site = .gravityRead
    · subst reads
      exact .inl (active_of_read found)
    · obtain dropped | ⟨same, -⟩ := step_gravity config (φ .worker) i s.tick reads
      · simp [dropped] at found
      · have before : (φ .worker).Entering := ⟨gravity, same ▸ found, phase⟩
        obtain same | ⟨-, releases⟩ | ⟨since, rfl⟩ | ⟨since, rfl, -⟩ | ⟨cycle, rfl, -, active⟩ :=
          (passes_after config .worker site i s).phase
        · exact kept before same
        · cases site with
          | enterFault hold available => cases found
          | enterSafeStop =>
            simp only [Local.step] at found
            split_ifs at found <;> cases found
          | gravitySent cycle =>
            obtain rfl : gravity = cycle := Option.some.inj (found.symm.trans fits.1)
            simp [Site.releases, phase] at releases
          | _ => first | (cases theirs; done) | cases releases
        · cases theirs
        · cases theirs
        · exact .inl (by rw [active]; simp)
  · rw [Function.update_of_ne (Ne.symm worker)] at entering
    obtain ⟨gravity, found, -⟩ := id entering
    obtain ⟨cycle, captured, -⟩ := opened.read gravity found
    have free : (φ t).command = false := by
      by_contra held
      have idle := cycle_of_held locks ordered worker (by simpa using held)
      simp [idle] at captured
    exact kept entering (passes_free config fits theirs free).1

/-- A cycle that began beside inactive gravity compensation keeps it inactive. -/
theorem owned_cycling {config : RuntimeConfig} {t : Thread} {site : Site} {i : Input} {s : SafetyRuntime}
    {φ : Thread → Local} (locks : Locks s φ) (ordered : Ordered s φ) (owned : Owned s φ)
    (fits : (φ t).fits t site) (cycle : CycleSnapshot)
    (captured : (Function.update φ t ((φ t).step config site i s.tick) .worker).cycle = some cycle)
    (ordinary : cycle.gravityActive = false) : (after config t site i s).arm.gravity.phase = .inactive := by
  have before : site = .cycleStart ∨ (φ .worker).cycle = some cycle := by
    by_cases worker : t = .worker
    · subst worker
      rw [Function.update_self] at captured
      by_cases starts : site = .cycleStart
      · exact .inl starts
      · obtain dropped | same := step_cycle config (φ .worker) i s.tick starts
        · simp [dropped] at captured
        · exact .inr (same ▸ captured)
    · rw [Function.update_of_ne (Ne.symm worker)] at captured
      exact .inr captured
  obtain rfl | before := before
  · obtain ⟨rfl, -⟩ := fits
    rw [Function.update_self] at captured
    simp only [Local.step, cycleSnapshot] at captured
    split_ifs at captured
    cases captured
    have inactive : s.arm.gravity.phase = .inactive := by simpa using ordinary
    exact inactive
  · have inactive := owned.cycling cycle before ordinary
    have busy : t ≠ .worker → (φ t).command = true → False := fun other held => by
      rw [cycle_of_held locks ordered other held] at before
      cases before
    obtain same | ⟨off, -⟩ | ⟨since, rfl⟩ | ⟨since, rfl, -⟩ | ⟨gravity, rfl, -⟩ :=
      (passes_after config t site i s).phase
    · rw [same, inactive]
    · exact off
    · obtain ⟨⟨⟨rfl, -⟩, held, -⟩, -⟩ := fits
      exact (busy (by simp) held).elim
    · obtain ⟨⟨⟨rfl, -⟩, held, -⟩, -⟩ := fits
      exact (busy (by simp) held).elim
    · obtain ⟨-, snapshot, rfl, -, same, active⟩ := fits
      obtain rfl := Option.some.inj (before.symm.trans same)
      rw [ordinary] at active
      cases active

/-- Gravity compensation that goes on, or that a cycle may still write, was there before; else it starts. -/
theorem moves_before {config : RuntimeConfig} {t : Thread} {site : Site} {i : Input} {s : SafetyRuntime}
    {φ : Thread → Local} (owned : Owned s φ) (fits : (φ t).fits t site)
    (moves : (after config t site i s).arm.gravity.phase ≠ .inactive ∨
      (Function.update φ t ((φ t).step config site i s.tick) .worker).Entering) :
    (s.arm.gravity.phase ≠ .inactive ∨ (φ .worker).Entering) ∨ ∃ since, site = .gravityStart since := by
  obtain active | ⟨gravity, found, phase⟩ := moves
  · obtain same | ⟨off, -⟩ | starts | ⟨since, rfl, -⟩ | ⟨cycle, rfl, entering, -⟩ :=
      (passes_after config t site i s).phase
    · exact .inl (.inl (same ▸ active))
    · exact absurd off active
    · exact .inr starts
    · obtain ⟨⟨⟨rfl, -⟩, -, stage⟩, -⟩ := fits
      exact .inl (.inl (owned.releasing stage).2)
    · obtain ⟨found, snapshot, rfl, -⟩ := fits
      exact .inl (.inr ⟨cycle, found, entering⟩)
  · by_cases worker : t = .worker
    · subst worker
      rw [Function.update_self] at found
      by_cases reads : site = .gravityRead
      · subst reads
        exact .inl (.inl (active_of_read (s := s.tick) found))
      · obtain dropped | ⟨same, -⟩ := step_gravity config (φ .worker) i s.tick reads
        · simp [dropped] at found
        · exact .inl (.inr ⟨gravity, same ▸ found, phase⟩)
    · rw [Function.update_of_ne (Ne.symm worker)] at found
      exact .inl (.inr ⟨gravity, found, phase⟩)

theorem owned_yields {config : RuntimeConfig} {t : Thread} {site : Site} {i : Input} {s : SafetyRuntime}
    {φ : Thread → Local} (locks : Locks s φ) (ordered : Ordered s φ) (opened : Opened s φ) (owned : Owned s φ)
    (fits : (φ t).fits t site) (moves : (after config t site i s).arm.gravity.phase ≠ .inactive ∨
      (Function.update φ t ((φ t).step config site i s.tick) .worker).Entering) :
    (after config t site i s).arm.Yields := by
  have passes := passes_after config t site i s
  obtain before | ⟨since, rfl⟩ := moves_before owned fits moves
  · obtain ⟨bimanual, trajectory⟩ := owned.yields before
    refine ⟨?_, fun running => ?_⟩
    · obtain same | none | ⟨since, rfl⟩ := passes.bimanual
      · exact same.trans bimanual
      · exact none
      · obtain ⟨⟨⟨rfl, -⟩, held, stage⟩, -⟩ := fits
        obtain active | ⟨gravity, found, -⟩ := before
        · exact absurd (owned.starting stage).2.1 active
        · obtain ⟨cycle, captured, -⟩ := opened.read gravity found
          simp [cycle_of_held locks ordered (by simp) held] at captured
    · obtain before | rfl | ⟨⟨mode, enqueue, replace, planningToken, rfl⟩, inactive⟩ := passes.running running
      · exact trajectory before
      · obtain ⟨cycle, rfl, -, captured, ordinary⟩ := fits
        obtain active | ⟨gravity, found, -⟩ := before
        · exact active (owned.cycling cycle captured ordinary)
        · obtain ⟨cycle', same, active⟩ := opened.read gravity found
          obtain rfl := Option.some.inj (captured.symm.trans same)
          rw [ordinary] at active
          cases active
      · -- The released cycle is the worker's own, and nothing is accepted until it has ended.
        obtain active | entering := before
        · exact active inactive
        · have closed : s.tick.accepting = false := by
            obtain active | batches | calm := owned.released entering
            · exact absurd inactive active
            · have transacts : (φ .lifecycle).stage.transacts = true := by
                cases stage : (φ .lifecycle).stage <;> simp_all [Stage.batches, Stage.transacts]
              obtain transition | calm := ordered.transacting transacts
              · simp [accepting, transition]
              · simp [accepting, calm]
            · simp [accepting, calm]
          have refused : effect config t (.trajectoryStart mode enqueue replace planningToken) i _ = _ :=
            effect_refused i rfl closed
          exact trajectory (by rwa [after, refused] at running)
  · obtain ⟨⟨⟨rfl, -⟩, held, stage⟩, -⟩ := fits
    exact ⟨rfl, (owned.starting stage).2.2⟩

theorem owned_own {config : RuntimeConfig} {site : Site} {i : Input} {s : SafetyRuntime}
    {φ : Thread → Local} (locks : Locks s φ) (ordered : Ordered s φ) (opened : Opened s φ) (owned : Owned s φ)
    (fits : (φ .lifecycle).fits .lifecycle site) : Owned (after config .lifecycle site i s)
      (Function.update φ .lifecycle ((φ .lifecycle).step config site i s.tick)) := by
  have footprint := after_footprint config .lifecycle site i s
  have kept (held : (φ .lifecycle).command = true) (other : site ≠ .unlock) :
      ((φ .lifecycle).step config site i s.tick).command = true := by
    refine (step_command config (φ .lifecycle) i s.tick ⟨?_, other⟩).trans held
    rintro rfl
    simp [Local.fits, held] at fits
  refine ⟨(passes_after config .lifecycle site i s).waits owned.waits, ?_, ?_,
    owned_cycling locks ordered owned fits, ?_, owned_yields locks ordered opened owned fits⟩
  · rw [Function.update_self]
    intro reached
    obtain ⟨stage, other⟩ | ⟨rfl, check⟩ | ⟨rfl, check⟩ := stage_starting reached
    · obtain ⟨held, inactive, trajectory⟩ := owned.starting stage
      rw [arm_of_starting fits (.inl stage) (reached.trans stage.symm)]
      exact ⟨kept held other, inactive, trajectory⟩
    · rw [footprint.arm rfl]
      exact ⟨kept fits.2 (by simp), of_checkGravity check⟩
    · rw [footprint.arm rfl]
      exact ⟨kept fits.2 (by simp), of_checkBimanual check⟩
  · rw [Function.update_self]
    intro reached
    obtain ⟨stage, other⟩ | ⟨rfl, check⟩ := stage_releasing reached
    · obtain ⟨held, active⟩ := owned.releasing stage
      rw [arm_of_starting fits (.inr stage) (reached.trans stage.symm)]
      exact ⟨kept held other, active⟩
    · rw [footprint.arm rfl]
      exact ⟨kept fits.2 (by simp), of_checkStopGravity check⟩
  · rw [Function.update_self, Function.update_of_ne (by simp)]
    exact released_own locks ordered opened owned fits

theorem owned_other {config : RuntimeConfig} {t : Thread} {site : Site} {i : Input} {s : SafetyRuntime}
    {φ : Thread → Local} (locks : Locks s φ) (ordered : Ordered s φ) (opened : Opened s φ) (owned : Owned s φ)
    (fits : (φ t).fits t site) (other : t ≠ .lifecycle) :
    Owned (after config t site i s) (Function.update φ t ((φ t).step config site i s.tick)) := by
  have theirs : site.isLifecycle = false := by
    by_contra mine
    exact other (lifecycle_of_fits fits (by simpa using mine))
  have free (held : (φ .lifecycle).command = true) : (φ t).command = false := by
    by_contra command
    exact other (locks.exclusive (by simpa using command) held)
  refine ⟨(passes_after config t site i s).waits owned.waits, ?_, ?_,
    owned_cycling locks ordered owned fits, ?_, owned_yields locks ordered opened owned fits⟩
  · rw [Function.update_of_ne (Ne.symm other)]
    intro stage
    obtain ⟨held, inactive, trajectory⟩ := owned.starting stage
    obtain ⟨phase, running⟩ := passes_free config (i := i) (s := s) fits theirs (free held)
    exact ⟨held, phase.trans inactive, fun starts => trajectory (running starts)⟩
  · rw [Function.update_of_ne (Ne.symm other)]
    intro stage
    obtain ⟨held, active⟩ := owned.releasing stage
    obtain ⟨phase, -⟩ := passes_free config (i := i) (s := s) fits theirs (free held)
    exact ⟨held, phase ▸ active⟩
  · rw [Function.update_of_ne (Ne.symm other)]
    exact released_other locks ordered opened owned fits theirs

theorem owned_carried (config : RuntimeConfig) : Carried config anySection fun s φ =>
    ((Locks s φ ∧ Ordered s φ) ∧ Opened s φ) ∧ Owned s φ := by
  refine (opened_carried config).and ⟨fun waiting => absurd rfl waiting, ?_, ?_, ?_, ?_, ?_⟩ ?_
  · rintro ⟨⟩
  · rintro ⟨⟩
  · rintro cycle ⟨⟩
  · rintro ⟨gravity, ⟨⟩, -⟩
  · rintro (active | ⟨gravity, ⟨⟩, -⟩)
    exact absurd rfl active
  · intro t site i s φ ⟨⟨locks, ordered⟩, opened⟩ owned _ fits _
    by_cases own : t = .lifecycle
    · subst own
      exact owned_own locks ordered opened owned fits
    · exact owned_other locks ordered opened owned fits own

/-- While gravity compensation is active neither a trajectory nor bimanual follow moves the arm, and motions
wait behind a running one only. -/
def Arm.Exclusive (arm : Arm) : Prop := (arm.gravity.phase ≠ .inactive → arm.Yields) ∧ arm.Waits

/-- In every run the arm has one owner, wherever its threads are. -/
theorem exclusive_of_reach (config : RuntimeConfig) {c : Config Thread SafetyRuntime Input Site String}
    (reach : (runtime config).Reach anySection c) : c.shared.arm.Exclusive := by
  obtain ⟨φ, ⟨-, owned⟩, -⟩ := (owned_carried config).reach reach
  exact ⟨fun active => owned.yields (.inl active), owned.waits⟩

/-- An enabled robot of one joint enters gravity compensation. -/
def Scenario.floating : List Scenario.Move :=
  Scenario.call .connect 7 (Scenario.powered 0) ++ .start (.lifecycle (.enable .mit)) ::
    Scenario.advance .lifecycle 10 (Scenario.powered 0) ++ Scenario.advance .lifecycle 14 (Scenario.powered 1) ++
    Scenario.call .startGravityCompensation 7 (Scenario.powered 1)

theorem exclusive_of_reach_floating :
    ∃ c, (runtime { Scenario.config with gravityJoints := [1] }).Reach anySection c ∧
      (c.shared.state = .running ∧ c.shared.arm.gravity.phase = .entering) ∧ c.shared.arm.Exclusive := by
  obtain ⟨c, reach, seen⟩ := Machine.exists_reach_of_run
    (M := runtime { Scenario.config with gravityJoints := [1] }) (fun _ _ _ _ => true)
    (fun s => (s.state, s.arm.gravity.phase)) Scenario.floating (fun _ _ _ _ _ => trivial)
    (b := (.running, .entering)) (by rfl)
  exact ⟨c, reach, by simpa using seen, exclusive_of_reach _ reach⟩

end MotorDrive.Runtime
