import MotorDrive.Runtime.Disable

/-!
# Power batches

What `set_motor_power_batch` leaves behind, for every answer of the backend and every behaviour of the
other threads.
-/

namespace MotorDrive.Runtime

open Threads SafetyRuntime Proc

section Batch

variable (config : RuntimeConfig)

/-! ## What a batch shows -/

/-- A feedback transaction and its validation pass. -/
def refreshPasses (transaction validation : Input) : Bool :=
  requestComplete config transaction &&
    config.motors.all (snapshotValid config validation (missingReport config transaction))

/-- The motor is fresh and reports a status. -/
def readsFresh (i : Input) (status : ℕ) (motor : Handle) : Bool :=
  fresh config i motor && reads i motor fun state => state.statusCode = status

/-- A current-position hold with the motor's position at an instant was sent without error. -/
def HoldSent (motor : Handle) (since : ℕ) (trace : Trace) : Prop :=
  ∃ hold ∈ trace, hold.input.ok = true ∧ ∃ commands, hold.label = .send .powerHold 0 [] commands ∧
    ⟨motor, since⟩ ∈ commands

/-- Every command that the section sends takes its target from one instant. -/
def Site.sendsFrom (since : ℕ) : Site → Bool
  | .send _ _ _ commands => commands.all fun c => c.origin = since
  | _ => true

/-- Every command that is sent takes its target from one instant. -/
def HoldsFrom (since : ℕ) (trace : Trace) : Prop := ∀ taken ∈ trace, taken.label.sendsFrom since = true

/-- A complete feedback transaction is followed by a reading that finds motors fresh in one state. -/
def ConfirmedBy (trace : Trace) (status : ℕ) (motors : List Handle) : Prop :=
  ∃ first transaction second reading rest, trace = first ++ transaction :: (second ++ reading :: rest) ∧
    transaction.label = .feedback ∧ requestComplete config transaction.input = true ∧
    reading.label = .selectedRead ∧ ∀ motor ∈ motors, readsFresh config reading.input status motor = true

variable {config} {trace more : Trace} {status since : ℕ} {motors : List Handle}

theorem ConfirmedBy.prepend (confirmed : ConfirmedBy config more status motors) :
    ConfirmedBy config (trace ++ more) status motors := by
  obtain ⟨first, transaction, second, reading, rest, rfl, found⟩ := confirmed
  exact ⟨trace ++ first, transaction, second, reading, rest, by simp, found⟩

theorem ConfirmedBy.append (confirmed : ConfirmedBy config trace status motors) :
    ConfirmedBy config (trace ++ more) status motors := by
  obtain ⟨first, transaction, second, reading, rest, rfl, found⟩ := confirmed
  exact ⟨first, transaction, second, reading, rest ++ more, by simp, found⟩

theorem ConfirmedBy.mono {fewer : List Handle} (confirmed : ConfirmedBy config trace status motors)
    (some : fewer ⊆ motors) : ConfirmedBy config trace status fewer := by
  obtain ⟨first, transaction, second, reading, rest, same, label, complete, label', found⟩ := confirmed
  exact ⟨first, transaction, second, reading, rest, same, label, complete, label',
    fun motor member => found motor (some member)⟩

theorem HoldSent.mono {motor : Handle} (held : HoldSent motor since trace) (more_of : trace ⊆ more) :
    HoldSent motor since more := by
  obtain ⟨hold, member, sent⟩ := held
  exact ⟨hold, more_of member, sent⟩

@[simp] theorem holdsFrom_nil : HoldsFrom since [] := fun _ member => absurd member List.not_mem_nil

@[simp] theorem holdsFrom_cons {taken : Taken SafetyRuntime Input Site} :
    HoldsFrom since (taken :: trace) ↔ taken.label.sendsFrom since = true ∧ HoldsFrom since trace :=
  List.forall_mem_cons

@[simp] theorem holdsFrom_append :
    HoldsFrom since (trace ++ more) ↔ HoldsFrom since trace ∧ HoldsFrom since more :=
  List.forall_mem_append

/-- The selected motors are held at their positions at an instant and then found fresh and enabled. -/
def HeldAndEnabled (config : RuntimeConfig) (selected : List Handle) (since : ℕ) (trace : Trace) : Prop :=
  ∃ holds after, trace = holds ++ after ∧ (∀ motor ∈ selected, HoldSent motor since holds) ∧
    ConfirmedBy config after 1 selected ∧ actions after = []

/-- A disable frame to the motor is attempted and confirmed, and no enable frame follows. -/
def ConfirmedDisabled (config : RuntimeConfig) (trace : Trace) (motor : Handle) : Prop :=
  ∃ before attempt after, trace = before ++ attempt :: after ∧
    (∃ action, attempt.label.action? = some action ∧ action.disables motor = true) ∧
    ConfirmedBy config after 0 [motor] ∧ ∀ action ∈ actions after, action.enables motor = false

/-- A motor's position is read before the first action; then the selected motors are held there and found
fresh and enabled. -/
def EnableSucceeded (config : RuntimeConfig) (selected : List Handle) (trace : Trace) : Prop :=
  ∃ preflight ∈ beforeAction trace, preflight.label = .preflightRead ∧
    HoldsFrom preflight.found.tick.now trace ∧ ∃ before after, trace = before ++ after ∧
      preflight ∈ before ∧ HeldAndEnabled config selected preflight.found.tick.now after

theorem ConfirmedDisabled.wrap (before after : Trace) {motor : Handle}
    (confirmed : ConfirmedDisabled config trace motor) (quiet : actions after = []) :
    ConfirmedDisabled config (before ++ (trace ++ after)) motor := by
  obtain ⟨first, attempt, rest, rfl, action, read, kept⟩ := confirmed
  exact ⟨before ++ first, attempt, rest ++ after, by simp, action, read.append, by simpa [quiet] using kept⟩

theorem EnableSucceeded.wrap (before after : Trace) (succeeded : EnableSucceeded config motors trace)
    (quiet : actions before = []) (quiet' : actions after = [])
    (origins : ∀ since, HoldsFrom since before ∧ HoldsFrom since after) :
    EnableSucceeded config motors (before ++ (trace ++ after)) := by
  obtain ⟨preflight, first, label, from_since, rest, body, rfl, member, holds, read, same, sent, found,
    still⟩ := succeeded
  refine ⟨preflight, ?_, label, ?_, before ++ rest, body ++ after, by simp, List.mem_append_right _ member,
    holds, read ++ after, by simp [same], sent, found.append, by simp [still, quiet']⟩
  · rw [beforeAction_prepend quiet]
    exact List.mem_append_right _ (beforeAction_subset first)
  · exact holdsFrom_append.mpr ⟨(origins _).1, holdsFrom_append.mpr ⟨from_since, (origins _).2⟩⟩

/-! ## The functions of a batch -/

theorem gives_batchRefresh : (batchRefresh config).Gives fun trace ok => ∃ i j found found',
    trace = [⟨.feedback, i, found⟩, ⟨.validate (missingReport config i), j, found'⟩] ∧
      ok = refreshPasses config i j := by
  intro R s trace r s' runs
  simp only [batchRefresh, bind_eq, pure_eq] at runs
  obtain ⟨i, found, rest, -, rfl, validated⟩ := runs_feedback_bind.mp runs
  obtain ⟨j, found', rest, -, rfl, rfl, rfl, -⟩ := runs_act_bind.mp validated
  exact ⟨_, rfl, i, j, found, found', rfl, rfl⟩

theorem gives_selectedConfirmed {expectedEnabled : Bool} :
    (selectedConfirmed config motors expectedEnabled).Gives fun trace ok => ∃ i found,
      trace = [⟨.selectedRead, i, found⟩] ∧
        ok = motors.all (readsFresh config i (if expectedEnabled then 1 else 0)) :=
  gives_lookAt fun i found => ⟨i, found, rfl, rfl⟩

theorem gives_enableMotors (since : ℕ) : (enableMotors motors).Gives fun trace _ =>
    (actions trace = if motors = [] then [] else [.enable motors]) ∧ HoldsFrom since trace := by
  refine .ite (fun none => .ret ?_) fun some => gives_act fun i found => ?_
  · rw [if_pos none]
    exact ⟨rfl, holdsFrom_nil⟩
  · rw [if_neg some]
    exact ⟨rfl, by simp [Site.sendsFrom]⟩

/-- Each motor up to the first refusal is addressed. -/
theorem gives_enableEach (since : ℕ) : (enableEach motors).Gives fun trace result =>
    actions trace = result.1.map (fun motor => .enable [motor]) ∧ HoldsFrom since trace ∧
      result.1 <+: motors := by
  induction motors with
  | nil => exact .ret ⟨rfl, holdsFrom_nil, List.nil_prefix⟩
  | cons motor rest ih =>
    simp only [enableEach, bind_eq, pure_eq]
    refine (gives_enableMotors since).bind fun before accepted ⟨one, origins⟩ => .ite (fun _ => ih.bind ?_)
      fun _ => .ret ?_
    · rintro after ⟨tried, all⟩ ⟨each, origins', started⟩
      exact .ret ⟨by simpa [one] using each, by simp [origins, origins'],
        (List.prefix_cons_inj motor).mpr started⟩
    · exact ⟨by simpa using one, by simpa using origins, List.prefix_append [motor] rest⟩

theorem gives_sendNonempty {path : Path} {snapshotted : ℕ} {disabled : List Handle} {commands : List Command} :
    (sendNonempty path snapshotted disabled commands).Gives fun trace sent =>
      (∀ taken ∈ trace, taken.label = .send path snapshotted disabled commands) ∧
        (sent = true → ∀ c ∈ commands, ∃ taken ∈ trace, taken.input.ok = true) := by
  simp only [sendNonempty, send, pure_eq]
  refine .ite (fun none => .ret ?_) fun _ => gives_act fun i found => ?_
  · exact ⟨fun _ => nofun, fun _ c member => absurd (none ▸ member) (List.not_mem_nil)⟩
  · exact ⟨fun taken member => List.mem_singleton.mp member ▸ rfl,
      fun ok _ _ => ⟨_, List.mem_singleton_self _, ok⟩⟩

theorem actions_of_sends {path : Path} {snapshotted : ℕ} {disabled : List Handle} {commands : List Command}
    (sends : ∀ taken ∈ trace, taken.label = .send path snapshotted disabled commands) : actions trace = [] := by
  refine List.filterMap_eq_nil_iff.mpr fun taken member => ?_
  rw [sends taken member]
  rfl

/-- The holds of a batch are the positions of one reading, and a motor whose batch is held is held. -/
theorem gives_batchHolds : (batchHolds config motors since).Gives fun trace held =>
    actions trace = [] ∧ HoldsFrom since trace ∧
      (held = true → ∀ motor ∈ motors, HoldSent motor since trace) := by
  simp only [batchHolds, look, bind_eq, pure_eq]
  refine Gives.bind (P := fun trace holds => (∀ taken ∈ trace, taken.label = .look) ∧
    (∀ c ∈ holds.1 ++ holds.2, c.origin = since) ∧
    ∀ motor ∈ motors, ⟨motor, since⟩ ∈ holds.1 ++ holds.2) ?_ ?_
  · refine gives_lookAt fun i found => ⟨by simp, ?_, fun motor member => ?_⟩
    · simp only [List.mem_append, List.mem_map]
      rintro c (⟨motor, -, rfl⟩ | ⟨motor, -, rfl⟩) <;> rfl
    · simp only [List.mem_append, List.mem_map, List.mem_filter, Command.mk.injEq, and_true, exists_eq_right,
        member, true_and]
      exact (Bool.eq_false_or_eq_true _).symm.imp (by simp) id
  · rintro looked ⟨pv, mit⟩ ⟨looks, origins, all⟩
    have quiet : actions looked = [] := List.filterMap_eq_nil_iff.mpr fun taken member => by
      rw [looks taken member]
      rfl
    have still : HoldsFrom since looked := fun taken member => by
      rw [looks taken member]
      rfl
    have from_since : ∀ {commands trace}, commands ⊆ pv ++ mit →
        (∀ taken ∈ trace, taken.label = .send .powerHold 0 [] commands) → HoldsFrom since trace := by
      intro commands trace some sends taken member
      rw [sends taken member]
      simpa [Site.sendsFrom] using fun c member => origins c (some member)
    refine gives_sendNonempty.bind fun first sent sending => ?_
    obtain ⟨sends, accepted⟩ := sending
    refine .ite (fun ok => ?_) fun _ => .ret ?_
    · refine gives_sendNonempty.conseq fun second held sending' => ?_
      obtain ⟨sends', accepted'⟩ := sending'
      refine ⟨?_, ?_, fun every => ?_⟩
      · simp [quiet, actions_of_sends sends, actions_of_sends sends']
      · exact holdsFrom_append.mpr ⟨still, holdsFrom_append.mpr
          ⟨from_since (List.subset_append_left _ _) sends, from_since (List.subset_append_right _ _) sends'⟩⟩
      · intro motor member
        rcases List.mem_append.mp (all motor member) with listed | listed
        · obtain ⟨taken, member, yes⟩ := accepted ok _ listed
          exact ⟨taken, by simp [member], yes, pv, sends taken member, listed⟩
        · obtain ⟨taken, member, yes⟩ := accepted' every _ listed
          exact ⟨taken, by simp [member], yes, mit, sends' taken member, listed⟩
    · exact ⟨by simp [quiet, actions_of_sends sends], holdsFrom_append.mpr ⟨still, by
        simpa using from_since (List.subset_append_left _ _) sends⟩, by rintro ⟨⟩⟩

theorem confirmedBy_of_passes {i j k : Input} {found found' found'' : SafetyRuntime}
    (passes : refreshPasses config i j = true) (all : motors.all (readsFresh config k status) = true) :
    ConfirmedBy config [⟨.feedback, i, found⟩, ⟨.validate (missingReport config i), j, found'⟩,
      ⟨.selectedRead, k, found''⟩] status motors :=
  ⟨[], _, [_], _, [], rfl, rfl, (Bool.and_eq_true_iff.mp passes).1, rfl, List.all_eq_true.mp all⟩

/-- The confirmation of a batch that enables sends the holds and then reads the motors. -/
theorem gives_batchEnableConfirm {outcome : BatchOutcome} :
    (batchEnableConfirm config motors outcome).Gives fun trace result => actions trace = [] ∧
      HoldsFrom outcome.since trace ∧
      (∃ ok refreshed, result = { outcome with ok := ok, refreshed := refreshed }) ∧
      (result.ok = true → HeldAndEnabled config motors outcome.since trace) := by
  simp only [batchEnableConfirm, bind_eq, pure_eq]
  refine gives_batchHolds.bind fun holds held holding => ?_
  obtain ⟨quiet, origins, sent⟩ := holding
  refine .ite (fun _ => .ret ?_) fun ok => ?_
  · exact ⟨by simpa using quiet, by simpa using origins, ⟨_, _, rfl⟩, by rintro ⟨⟩⟩
  · refine gives_batchRefresh.bind fun _ refreshed refreshing => ?_
    obtain ⟨i, j, found, found', rfl, passes⟩ := refreshing
    refine .ite (fun _ => .ret ?_) fun refreshed_ok => ?_
    · exact ⟨by simp [quiet, Site.action?], by simp [origins, Site.sendsFrom], ⟨_, _, rfl⟩, by rintro ⟨⟩⟩
    · refine gives_selectedConfirmed.bind fun _ confirmed confirming => .ret ?_
      obtain ⟨k, found'', rfl, all⟩ := confirming
      refine ⟨by simp [quiet, Site.action?], by simp [origins, Site.sendsFrom], ⟨_, _, rfl⟩, fun yes => ?_⟩
      refine ⟨holds, _, rfl, sent (by simpa using ok), confirmedBy_of_passes ?_ ?_, rfl⟩
      · simpa [← passes] using refreshed_ok
      · exact all.symm.trans yes

/-- A batch enables motors that its preflight read as disabled. -/
theorem gives_batchEnable {startedReady : Bool} {preflight : BatchOutcome} :
    (batchEnable config motors startedReady preflight).Gives fun trace result =>
      actions trace = result.attempted.map (fun motor => .enable [motor]) ∧
      HoldsFrom preflight.since trace ∧ result.attempted ⊆ preflight.off ∧
      (result.ok = true → ∃ before after, trace = before ++ after ∧
        HeldAndEnabled config motors preflight.since after) := by
  simp only [batchEnable, bind_eq, pure_eq]
  refine Gives.bind (P := fun trace _ => actions trace = [] ∧ HoldsFrom preflight.since trace) ?_ ?_
  · refine .ite (fun _ => gives_update fun i found => ?_) fun _ => .ret ?_
    · exact ⟨rfl, by simp [Site.sendsFrom]⟩
    · exact ⟨rfl, holdsFrom_nil⟩
  · rintro inserted ⟨⟩ ⟨quiet, origins⟩
    refine (gives_enableEach preflight.since).bind ?_
    rintro frames ⟨tried, accepted⟩ ⟨each, origins', started⟩
    have off : tried ⊆ preflight.off := fun motor member =>
      List.contains_iff_mem.mp (List.mem_filter.mp (started.subset member)).2
    refine .ite (fun _ => ?_) fun _ => .ret ?_
    · refine gives_batchEnableConfirm.conseq ?_
      rintro rest result ⟨quiet', origins'', ⟨ok, refreshed, rfl⟩, held⟩
      refine ⟨by simp [quiet, each, quiet'], by simp [origins, origins', origins''], off, fun yes => ?_⟩
      exact ⟨inserted ++ frames, rest, by simp, held yes⟩
    · exact ⟨by simp [quiet, each], by simp [origins, origins'], off, nofun⟩

/-- The rollback addresses every motor that the batch tried to enable. -/
theorem gives_batchRollback {outcome : BatchOutcome} :
    (batchRollback config outcome).Gives fun trace result => ∃ attempt after, trace = attempt :: after ∧
      attempt.label = .disableMotors outcome.attempted ∧ actions after = [] ∧
      (∃ refreshed confirmed, result = { outcome with refreshed := refreshed, rollbackConfirmed := confirmed }) ∧
      (result.rollbackConfirmed = true → ConfirmedBy config after 0 outcome.attempted) := by
  simp only [batchRollback, disableMotors, bind_eq, pure_eq]
  refine Gives.bind (P := fun trace _ => ∃ i found, trace = [⟨.disableMotors outcome.attempted, i, found⟩])
    (gives_lookAt fun i found => ⟨i, found, rfl⟩) ?_
  rintro attempt _ ⟨i₀, found₀, rfl⟩
  refine gives_batchRefresh.bind fun _ refreshed refreshing => ?_
  obtain ⟨i, j, found, found', rfl, passes⟩ := refreshing
  refine gives_selectedConfirmed.bind fun _ confirmed confirming => .ret ?_
  obtain ⟨k, found'', rfl, all⟩ := confirming
  refine ⟨_, _, rfl, rfl, rfl, ⟨_, _, rfl⟩, fun yes => ?_⟩
  obtain ⟨refreshed_ok, confirmed_ok⟩ := Bool.and_eq_true_iff.mp yes
  exact confirmedBy_of_passes (passes ▸ refreshed_ok) (all ▸ confirmed_ok)

/-- The preflight reads the selected motors after a transaction that passes. -/
theorem gives_batchPreflight {enabled : Bool} :
    (batchPreflight config motors enabled).Gives fun trace outcome => ∃ i j found found',
      trace = [⟨.feedback, i, found⟩, ⟨.validate (missingReport config i), j, found'⟩] ∧
        refreshPasses config i j = false ∧ outcome = { ok := false } ∨
      ∃ k found'', trace = [⟨.feedback, i, found⟩, ⟨.validate (missingReport config i), j, found'⟩,
          ⟨.preflightRead, k, found''⟩] ∧ refreshPasses config i j = true ∧
        outcome = preflightOutcome motors enabled k found''.tick.now := by
  simp only [batchPreflight, bind_eq, pure_eq]
  refine gives_batchRefresh.bind fun _ refreshed ⟨i, j, found, found', same, passes⟩ => ?_
  subst same
  refine .ite (fun refused => .ret ?_) fun accepted => ?_
  · exact ⟨i, j, found, found', .inl ⟨rfl, by simpa [← passes] using refused, rfl⟩⟩
  · exact gives_lookAt fun k found'' => ⟨i, j, found, found', .inr ⟨k, found'', rfl,
      by simpa [← passes] using accepted, rfl⟩⟩

/-- What the transaction of a batch that enables promises of its sections and its outcome. -/
structure EnableTransaction (config : RuntimeConfig) (selected : List Handle) (trace : Trace)
    (outcome : BatchOutcome) : Prop where
  actions_eq : actions trace = outcome.attempted.map (fun motor => .enable [motor]) ++
    if outcome.ok = false ∧ outcome.attempted ≠ [] then [.disable outcome.attempted] else []
  off : ∀ i, firstInput (· = .preflightRead) trace = some i → ∀ motor ∈ outcome.attempted,
    (reads i motor fun state => state.statusCode = 0) = true
  settled : outcome.ok = false → outcome.rollbackConfirmed = true → ∀ motor ∈ outcome.attempted,
    ConfirmedDisabled config trace motor
  succeeded : outcome.ok = true → EnableSucceeded config selected trace

/-- A transaction that ends before its first frame. -/
theorem EnableTransaction.of_refused {outcome : BatchOutcome} (quiet : actions trace = [])
    (none : outcome.attempted = []) (refused : outcome.ok = false) :
    EnableTransaction config motors trace outcome where
  actions_eq := by simp [quiet, none]
  off _ _ motor member := absurd (none ▸ member) List.not_mem_nil
  settled _ _ motor member := absurd (none ▸ member) List.not_mem_nil
  succeeded accepted := absurd (refused.symm.trans accepted) Bool.false_ne_true

theorem gives_enableTransaction {startedReady : Bool} :
    (batchTransaction config motors true startedReady).Gives (EnableTransaction config motors) := by
  simp only [batchTransaction, batchSettle, bind_eq, pure_eq]
  refine gives_batchPreflight.bind ?_
  rintro _ _ ⟨i, j, found, found', ⟨rfl, -, rfl⟩ | ⟨k, found'', rfl, -, rfl⟩⟩
  · exact .ret (.of_refused rfl rfl rfl)
  · refine .ite (fun refused => .ret (.of_refused rfl rfl (by simpa using refused))) fun _ => ?_
    simp only [if_true]
    refine gives_batchEnable.bind fun frames outcome ⟨each, origins, off, held⟩ => ?_
    have zero : ∀ motor ∈ outcome.attempted, (reads k motor fun state => state.statusCode = 0) = true :=
      fun motor member => (List.mem_filter.mp (off member)).2
    refine .ite (fun due => ?_) fun undue => .ret ?_
    · have due : outcome.ok = false ∧ outcome.attempted ≠ [] := by simpa using due
      refine gives_batchRollback.conseq ?_
      rintro _ result ⟨attempt, rest, rfl, label, quiet, ⟨refreshed, confirmed, rfl⟩, read⟩
      refine ⟨?_, fun i first => ?_, fun _ yes motor member => ?_, fun yes => absurd (due.1.symm.trans yes) nofun⟩
      · simp [each, label, quiet, due, Site.action?]
      · have first : some k = some i := by simpa [firstInput_cons] using first
        exact Option.some.inj first ▸ zero
      · refine ⟨_ ++ frames, attempt, rest, (List.append_assoc _ _ _).symm, ⟨.disable outcome.attempted, ?_, ?_⟩,
          (read yes).mono fun _ same => List.mem_singleton.mp same ▸ member, ?_⟩
        · rw [label]
          rfl
        · simpa [PowerAction.disables] using member
        · simp [quiet]
    · have undue : outcome.ok = false → outcome.attempted = [] := by simpa using undue
      refine ⟨?_, fun i first => ?_, fun no _ motor member => ?_, fun yes => ?_⟩
      · rw [if_neg fun due => due.2 (undue due.1)]
        simpa [Site.action?] using each
      · have first : some k = some i := first
        exact Option.some.inj first ▸ zero
      · exact absurd (undue no ▸ member) List.not_mem_nil
      · obtain ⟨before, after, rfl, rest⟩ := held yes
        refine ⟨⟨.preflightRead, k, found''⟩, ?_, rfl, ?_, [⟨.feedback, i, found⟩,
          ⟨.validate (missingReport config i), j, found'⟩, ⟨.preflightRead, k, found''⟩] ++ before, after, ?_, ?_,
          rest⟩
        · rw [List.append_nil, beforeAction_prepend rfl]
          simp
        · exact holdsFrom_append.mpr ⟨by simp [Site.sendsFrom], by rw [List.append_nil]; exact origins⟩
        · rw [List.append_nil, List.append_assoc]
        · simp

/-! ## The call -/

/-- What `set_motor_power_batch` does once its arguments are checked: it is refused by its first section,
or its transaction runs under `command_mutex_` between that section and two more. -/
inductive BatchRun (config : RuntimeConfig) (R : Interference) (selected : List Handle) (enabled : Bool) :
    Trace → Except String Bool → SafetyRuntime → Prop
  | refused {i : Input} {start : SafetyRuntime} {error : String}
    (refused : (start.tick.startBatch config selected enabled).1 = .error error) :
    BatchRun config R selected enabled [⟨.batchStart selected enabled, i, start⟩] (.error error)
      (after config .lifecycle (.batchStart selected enabled) i start)
  | ran {i j k l m : Input} {start locked unlocked read commit begun middle : SafetyRuntime}
    {started : SafetyState} {body : Trace} {outcome : BatchOutcome}
    (admitted : (start.tick.startBatch config selected enabled).1 = .ok started)
    (runs : (batchTransaction config selected enabled (started = .ready)).Runs R begun body (.ok outcome)
      middle) :
    BatchRun config R selected enabled (⟨.batchStart selected enabled, i, start⟩ :: ⟨.lock, j, locked⟩ ::
        (body ++ [⟨.unlock, k, unlocked⟩, ⟨.reading, l, read⟩, ⟨.batchCommit selected enabled started outcome
          (cachedMotorPowerState l config.handles = .disabled), m, commit⟩]))
      (.ok outcome.ok) (after config .lifecycle (.batchCommit selected enabled started outcome
        (cachedMotorPowerState l config.handles = .disabled)) m commit)

variable {R : Interference} {s s' : SafetyRuntime} {selected : List Handle} {enabled : Bool}
  {r : Except String Bool}

theorem runs_motorPowerBatch {P : Trace → BatchOutcome → Prop}
    (gives : ∀ startedReady, (batchTransaction config selected enabled startedReady).Gives P)
    (runs : (motorPowerBatch config selected enabled).Runs R s trace r s') :
    BatchRun config R selected enabled trace r s' := by
  simp only [motorPowerBatch, bind_eq, pure_eq] at runs
  obtain ⟨i, start, rest, -, rfl, ⟨started, admitted, begun⟩ | ⟨error, refused, rfl, rfl, rfl⟩⟩ :=
    runs_actThrow_bind runs
  · obtain ⟨outcome, middle, under, rest, locked, later, rfl⟩ | ⟨error, locked, -⟩ := runs_bind.mp begun
    · obtain ⟨j, found, k, left, first, last, body, rfl, ran, -⟩ := runs_withCommand locked
      obtain ⟨l, read, rest, -, rfl, reading⟩ := runs_act_bind.mp later
      obtain ⟨m, commit, rest, -, rfl, rfl, rfl, rfl⟩ := runs_update_bind.mp reading
      rw [List.cons_append, List.append_assoc]
      exact .ran admitted ran
    · obtain ⟨j, found, k, left, first, last, body, rfl, ran, -⟩ := runs_withCommand locked
      obtain ⟨outcome, impossible, -⟩ := gives _ R first body (.error error) last ran
      cases impossible
  · exact .refused refused

/-- The arguments that `set_motor_power_batch` accepts. -/
def BatchArguments (config : RuntimeConfig) (selected : List Handle) : Prop :=
  selected ≠ [] ∧ selected.length ≤ 32 ∧ selected ⊆ config.handles ∧ selected.Nodup

/-- A call whose arguments are not accepted takes no section. -/
theorem runs_setMotorPowerBatch {P : Trace → BatchOutcome → Prop}
    (gives : ∀ startedReady, (batchTransaction config selected enabled startedReady).Gives P)
    (runs : (setMotorPowerBatch config selected enabled).Runs R s trace r s') :
    trace = [] ∧ (∃ error, r = .error error) ∧ s' = s ∨
      BatchArguments config selected ∧ BatchRun config R selected enabled trace r s' := by
  simp only [setMotorPowerBatch] at runs
  split_ifs at runs with none many known distinct
  · exact .inl ⟨runs.1, ⟨_, runs.2.1⟩, runs.2.2⟩
  · exact .inl ⟨runs.1, ⟨_, runs.2.1⟩, runs.2.2⟩
  · exact .inl ⟨runs.1, ⟨_, runs.2.1⟩, runs.2.2⟩
  · have known : ∀ motor ∈ selected, motor ∈ config.handles := by simpa using known
    exact .inr ⟨⟨none, by omega, fun motor => known motor, distinct⟩, runs_motorPowerBatch gives runs⟩
  · exact .inl ⟨runs.1, ⟨_, runs.2.1⟩, runs.2.2⟩

/-! ## Enabling -/

/-- A batch that enables is fail-closed: a reported failure leaves every motor that it tried to enable
confirmed disabled, or a latched fault; it commands only motors that were not already enabled; and a
reported success rests on a reading after the holds. -/
structure FailClosed (config : RuntimeConfig) (selected : List Handle) (trace : Trace)
    (r : Except String Bool) (s' : SafetyRuntime) : Prop where
  failed : r = .ok false →
    (∀ action ∈ actions trace, ∀ motor, action.enables motor = true → ConfirmedDisabled config trace motor) ∨
      s'.state = .fault ∧ s'.flags.faultLatched = true ∧ s'.flags.disableConfirmed = false
  spared : ∀ i, firstInput (· = .preflightRead) trace = some i → ∀ motor,
    (reads i motor fun state => state.statusCode = 1) = true →
      ∀ action ∈ actions trace, action.enables motor = false ∧ action.disables motor = false
  succeeded : r = .ok true → EnableSucceeded config selected trace

/-- The motors that a transaction addresses. -/
theorem EnableTransaction.addressed {outcome : BatchOutcome}
    (enabling : EnableTransaction config selected trace outcome) {action : PowerAction}
    (member : action ∈ actions trace) {motor : Handle}
    (addresses : action.enables motor = true ∨ action.disables motor = true) : motor ∈ outcome.attempted := by
  rw [enabling.actions_eq, List.mem_append, List.mem_map] at member
  rcases member with ⟨tried, member, rfl⟩ | member
  · have same : motor = tried := by simpa [PowerAction.enables, PowerAction.disables] using addresses
    exact same ▸ member
  · split_ifs at member
    · rw [List.mem_singleton.mp member] at addresses
      simpa [PowerAction.enables, PowerAction.disables] using addresses
    · cases member

theorem FailClosed.of_thrown {error : String} (quiet : actions trace = []) :
    FailClosed config selected trace (.error error) s' where
  failed := nofun
  spared _ _ _ _ _ member := absurd (quiet ▸ member) List.not_mem_nil
  succeeded := nofun

/-- A rollback that is not confirmed latches a fault. -/
theorem faulted_of_rollbackFailed {outcome : BatchOutcome} {started : SafetyState} {allDisabled : Bool}
    {i : Input} {commit : SafetyRuntime} (failed : outcome.rollbackFailed true = true) :
    let left := after config .lifecycle (.batchCommit selected true started outcome allDisabled) i commit
    left.state = .fault ∧ left.flags.faultLatched = true ∧ left.flags.disableConfirmed = false := by
  simp [after, effect, SafetyRuntime.commitBatch, failed, SafetyRuntime.state]

theorem enable_batch_failClosed (runs : (setMotorPowerBatch config selected true).Runs R s trace r s') :
    FailClosed config selected trace r s' := by
  obtain ⟨rfl, ⟨error, rfl⟩, rfl⟩ | ⟨-, called⟩ := runs_setMotorPowerBatch (fun _ => gives_enableTransaction) runs
  · exact .of_thrown rfl
  cases called with
  | refused => exact .of_thrown rfl
  | @ran i j k l m start locked unlocked read commit begun middle started body outcome admitted ran =>
    obtain ⟨outcome', same, enabling⟩ := gives_enableTransaction R begun body (.ok outcome) middle ran
    obtain rfl := Except.ok.inj same
    have wrapped : ∀ motor, ConfirmedDisabled config body motor → ConfirmedDisabled config _ motor :=
      fun motor confirmed => confirmed.wrap [⟨.batchStart selected true, i, start⟩, ⟨.lock, j, locked⟩]
        [⟨.unlock, k, unlocked⟩, ⟨.reading, l, read⟩, ⟨.batchCommit selected true started outcome
          (cachedMotorPowerState l config.handles = .disabled), m, commit⟩] rfl
    have quiet : ∀ {action}, action ∈ actions (⟨.batchStart selected true, i, start⟩ :: ⟨.lock, j, locked⟩ ::
        (body ++ [⟨.unlock, k, unlocked⟩, ⟨.reading, l, read⟩, ⟨.batchCommit selected true started outcome
          (cachedMotorPowerState l config.handles = .disabled), m, commit⟩])) → action ∈ actions body := by
      simp [Site.action?]
    refine ⟨fun failed => ?_, fun i' first motor one action member => ?_, fun yes => ?_⟩
    · have no : outcome.ok = false := Except.ok.inj failed
      cases confirmed : outcome.rollbackConfirmed with
      | true => exact .inl fun action member motor enables =>
          wrapped motor (enabling.settled no confirmed motor (enabling.addressed (quiet member) (.inl enables)))
      | false =>
        by_cases none : outcome.attempted = []
        · refine .inl fun action member motor enables => ?_
          have attempted := enabling.addressed (quiet member) (.inl enables)
          exact absurd (none ▸ attempted) List.not_mem_nil
        · refine .inr ?_
          have failed : outcome.rollbackFailed true = true := by
            simp [BatchOutcome.rollbackFailed, no, none, confirmed]
          exact faulted_of_rollbackFailed failed
    · have first : firstInput (· = .preflightRead) body = some i' := by
        simpa [firstInput_cons, firstInput_append] using first
      have unaddressed : ¬ (action.enables motor = true ∨ action.disables motor = true) := by
        intro addresses
        have zero := enabling.off i' first motor (enabling.addressed (quiet member) addresses)
        obtain ⟨state, found, status⟩ := (Option.any_eq_true _ _).mp one
        simp only [reads, found, Option.any_some, decide_eq_true_eq] at zero status
        omega
      simpa using unaddressed
    · exact (enabling.succeeded (Except.ok.inj yes)).wrap [⟨.batchStart selected true, i, start⟩,
        ⟨.lock, j, locked⟩] _ rfl rfl fun since => by simp [Site.sendsFrom]

/-! ## A batch that commands nothing -/

/-- The lifecycle state, the disable confirmation and the fault latch. -/
def vitals (s : SafetyRuntime) : SafetyState × Bool × Bool :=
  (s.state, s.flags.disableConfirmed, s.flags.faultLatched)

/-- No section of the call changes the lifecycle state, the disable confirmation or the fault latch. -/
def Untouched (config : RuntimeConfig) (trace : Trace) : Prop :=
  ∀ taken ∈ trace, vitals (after config .lifecycle taken.label taken.input taken.found) = vitals taken.found

/-- The last section of the call, if the call comes to it, finds what the cached states of the motors, as
they are read just before, make of a Runtime without a latched fault. -/
def Agrees (config : RuntimeConfig) (trace : Trace) : Prop :=
  ∀ reading ∈ lastInput (· = .reading) trace, ∀ commit ∈ trace.getLast?,
    (commit.found.flags.faultLatched = true ∨ commit.found.state =
      if cachedMotorPowerState reading config.handles = .disabled then .ready else .partiallyEnabled) ∧
    commit.found.flags.disableConfirmed =
      decide (cachedMotorPowerState reading config.handles = .disabled)

/-- A section of a transaction: it writes no flag, and a batch that disables records nothing in it. -/
def Site.transacts (enabled : Bool) (site : Site) : Prop :=
  site.writesFlags = false ∧ (enabled = false → site.writesDisabled = false)

theorem every_batchRefresh : (batchRefresh config).Every fun label _ _ => label.transacts enabled :=
  every_bind (every_act ⟨rfl, fun _ => rfl⟩) fun _ => every_bind (every_act ⟨rfl, fun _ => rfl⟩) fun _ => trivial

theorem every_selectedConfirmed {expectedEnabled : Bool} :
    (selectedConfirmed config motors expectedEnabled).Every fun label _ _ => label.transacts enabled :=
  every_act ⟨rfl, fun _ => rfl⟩

theorem every_disableMotors : (disableMotors motors).Every fun label _ _ => label.transacts enabled :=
  every_act ⟨rfl, fun _ => rfl⟩

theorem every_enableEach : (enableEach motors).Every fun label _ _ => label.transacts enabled := by
  induction motors with
  | nil => trivial
  | cons motor rest ih =>
    refine every_bind (every_ite trivial (every_act ⟨rfl, fun _ => rfl⟩)) fun accepted => every_ite ?_ trivial
    exact every_bind ih fun _ => trivial

theorem every_sendNonempty {path : Path} {snapshotted : ℕ} {disabled : List Handle} {commands : List Command} :
    (sendNonempty path snapshotted disabled commands).Every fun label _ _ => label.transacts enabled :=
  every_ite trivial (every_act ⟨rfl, fun _ => rfl⟩)

theorem every_batchHolds : (batchHolds config motors since).Every fun label _ _ => label.transacts enabled := by
  refine every_bind ?_ fun holds => every_bind every_sendNonempty fun sent => every_ite every_sendNonempty trivial
  exact ⟨⟨rfl, fun _ => rfl⟩, fun _ _ => trivial⟩

theorem every_batchEnable {startedReady : Bool} {preflight : BatchOutcome} :
    (batchEnable config motors startedReady preflight).Every fun label _ _ => label.transacts true := by
  refine every_bind (every_when (every_act ⟨rfl, nofun⟩)) fun _ => every_bind every_enableEach fun tried =>
    every_ite ?_ trivial
  exact every_bind every_batchHolds fun held => every_ite trivial (every_bind every_batchRefresh fun refreshed =>
    every_ite trivial (every_bind every_selectedConfirmed fun _ => trivial))

theorem every_batchDisable {preflight : BatchOutcome} :
    (batchDisable config motors preflight).Every fun label _ _ => label.transacts enabled := by
  have again : (batchDisableAgain config motors).Every fun label _ _ => label.transacts enabled :=
    every_bind (every_act ⟨rfl, fun _ => rfl⟩) fun _ => every_bind every_disableMotors fun _ =>
      every_bind every_batchRefresh fun _ => every_ite trivial (every_bind every_selectedConfirmed fun _ => trivial)
  refine every_bind ?_ fun barrier => every_bind every_disableMotors fun sent => every_bind ?_ fun _ => trivial
  · refine every_bind (every_act ⟨rfl, fun _ => rfl⟩) fun _ => every_ite trivial ?_
    exact every_bind (every_act ⟨rfl, fun _ => rfl⟩) fun _ => every_ite trivial
      (every_bind (every_act ⟨rfl, fun _ => rfl⟩) fun _ => trivial)
  · exact every_bind every_batchRefresh fun _ => every_ite again
      (every_bind every_selectedConfirmed fun _ => every_ite trivial again)

theorem every_batchTransaction {startedReady : Bool} :
    (batchTransaction config selected enabled startedReady).Every fun label _ _ => label.transacts enabled := by
  refine every_bind ?_ fun preflight => every_ite trivial ?_
  · exact every_bind every_batchRefresh fun _ => every_ite trivial (every_act ⟨rfl, fun _ => rfl⟩)
  · cases enabled
    · exact every_batchDisable
    · refine every_bind every_batchEnable fun outcome => every_ite ?_ trivial
      exact every_bind every_disableMotors fun _ => every_bind every_batchRefresh fun _ =>
        every_bind every_selectedConfirmed fun _ => trivial

theorem vitals_of_flags {taken : Taken SafetyRuntime Input Site} (quiet : taken.label.writesFlags = false) :
    vitals (after config .lifecycle taken.label taken.input taken.found) = vitals taken.found := by
  simp only [vitals, SafetyRuntime.state,
    (after_footprint config .lifecycle taken.label taken.input taken.found).flags quiet]

theorem vitals_batchStart {i : Input} {start : SafetyRuntime} :
    vitals (after config .lifecycle (.batchStart selected enabled) i start) = vitals start := by
  simp only [after, effect, startBatch]
  split_ifs <;> rfl

/-- The commit of a batch that failed without a frame keeps the vitals of a Runtime that agrees with the
cached states. -/
theorem vitals_batchCommit_iff {started : SafetyState} {outcome : BatchOutcome} {allDisabled : Bool}
    {i : Input} {commit : SafetyRuntime} (failed : outcome.ok = false) (none : outcome.attempted = []) :
    vitals (after config .lifecycle (.batchCommit selected true started outcome allDisabled) i commit) =
        vitals commit ↔
      (commit.flags.faultLatched = true ∨ commit.state = if allDisabled = true then .ready else .partiallyEnabled) ∧
        commit.flags.disableConfirmed = allDisabled := by
  have kept : outcome.rollbackFailed true = false := by simp [BatchOutcome.rollbackFailed, none]
  have left : vitals (after config .lifecycle (.batchCommit selected true started outcome allDisabled) i commit) =
      (if commit.flags.faultLatched = true then commit.state
        else if allDisabled = true then .ready else .partiallyEnabled, allDisabled,
        commit.flags.faultLatched) := by
    simp [vitals, after, effect, SafetyRuntime.commitBatch, kept, failed, preserveAbnormalState,
      SafetyRuntime.state]
  rw [left]
  simp only [vitals, Prod.mk.injEq, and_true]
  by_cases latched : commit.flags.faultLatched = true
  · simp [latched, eq_comm]
  · simp only [latched, Bool.false_eq_true, if_false, false_or]
    exact and_congr eq_comm eq_comm

/-- A batch that enables, fails and attempts no enable frame changes nothing exactly when its last section
finds the Runtime as the cached states of the motors have it. -/
theorem idle_batch_untouched_iff (runs : (setMotorPowerBatch config selected true).Runs R s trace r s')
    (idle : ∀ action ∈ actions trace, ∀ motor, action.enables motor = false) (failed : r ≠ .ok true) :
    (Untouched config trace ↔ Agrees config trace) ∧
      ((∀ site s found, R site s found → vitals found = vitals s) →
        (vitals s' = vitals s ↔ Agrees config trace)) := by
  obtain ⟨φ', linked, -⟩ := (follows_setMotorPowerBatch selected true { locked := true }
    ⟨rfl, rfl, rfl, rfl, rfl⟩).linked runs
  obtain ⟨rfl, -, rfl⟩ | ⟨-, called⟩ := runs_setMotorPowerBatch (fun _ => gives_enableTransaction) runs
  · simp [Untouched, Agrees]
  cases called with
  | @refused i start error refused =>
    have untouched : Untouched config [⟨.batchStart selected true, i, start⟩] :=
      List.forall_mem_singleton.mpr vitals_batchStart
    have agrees : Agrees config [⟨.batchStart selected true, i, start⟩] := by simp [Agrees, lastInput_cons]
    exact ⟨iff_of_true untouched agrees, fun others => iff_of_true (linked.keeps others untouched) agrees⟩
  | @ran i j k l m start locked unlocked read commit begun middle started body outcome admitted ran =>
    obtain ⟨outcome', same, enabling⟩ := gives_enableTransaction R begun body (.ok outcome) middle ran
    obtain rfl := Except.ok.inj same
    have no : outcome.ok = false := by simpa using failed
    have none : outcome.attempted = [] := by
      refine List.eq_nil_iff_forall_not_mem.mpr fun motor member => ?_
      have unaddressed := idle (.enable [motor]) (by simp [enabling.actions_eq, member]) motor
      simp [PowerAction.enables] at unaddressed
    obtain ⟨before, before_eq⟩ : ∃ before : Trace, before = ⟨.batchStart selected true, i, start⟩ ::
      ⟨.lock, j, locked⟩ :: (body ++ [⟨.unlock, k, unlocked⟩, ⟨.reading, l, read⟩]) := ⟨_, rfl⟩
    obtain ⟨last, last_eq⟩ : ∃ last : Taken SafetyRuntime Input Site, last = ⟨.batchCommit selected true started
      outcome (cachedMotorPowerState l config.handles = .disabled), m, commit⟩ := ⟨_, rfl⟩
    have split : ⟨.batchStart selected true, i, start⟩ :: ⟨.lock, j, locked⟩ :: (body ++
        [⟨.unlock, k, unlocked⟩, ⟨.reading, l, read⟩, last]) = before ++ [last] := by
      simp [before_eq]
    have quiet : ∀ taken ∈ before,
        vitals (after config .lifecycle taken.label taken.input taken.found) = vitals taken.found := by
      rw [before_eq]
      refine List.forall_mem_cons.mpr ⟨vitals_batchStart, List.forall_mem_cons.mpr ⟨vitals_of_flags rfl, ?_⟩⟩
      refine List.forall_mem_append.mpr ⟨fun taken member => ?_, List.forall_mem_cons.mpr
        ⟨vitals_of_flags rfl, List.forall_mem_singleton.mpr (vitals_of_flags rfl)⟩⟩
      exact vitals_of_flags (ran.every every_batchTransaction taken member).1
    have untouched_iff : Untouched config (before ++ [last]) ↔
        vitals (after config .lifecycle last.label last.input last.found) = vitals last.found := by
      rw [Untouched, List.forall_mem_append, List.forall_mem_singleton]
      exact and_iff_right quiet
    have agrees_iff : Agrees config (before ++ [last]) ↔
        vitals (after config .lifecycle last.label last.input last.found) = vitals last.found := by
      have reading : lastInput (· = .reading) (before ++ [last]) = some l := by
        simp [before_eq, last_eq, lastInput_append, lastInput_cons]
      simp only [Agrees, reading, Option.mem_def, Option.some.injEq, forall_eq', List.getLast?_concat]
      rw [last_eq, vitals_batchCommit_iff no none]
      simp
    rw [← last_eq, split] at linked ⊢
    refine ⟨untouched_iff.trans agrees_iff.symm, fun others => ?_⟩
    obtain ⟨same, -⟩ := linked.last_found others quiet
    rw [agrees_iff, ← same, last_eq]

/-! ## Disabling -/

/-- A validation of a feedback transaction. -/
def Site.validates : Site → Bool
  | .validate _ => true
  | _ => false

/-- The preflight of a call passes: its transaction is complete and valid for the whole product, and every
selected motor can be read. -/
def PreflightPasses (config : RuntimeConfig) (selected : List Handle) (enabled : Bool) (trace : Trace) : Prop :=
  ∃ i j k, firstInput (· = .feedback) trace = some i ∧ firstInput Site.validates trace = some j ∧
    firstInput (· = .preflightRead) trace = some k ∧ refreshPasses config i j = true ∧
    selected.all (batchReadable k enabled) = true

theorem gives_establishDisableBarrier :
    (establishDisableBarrier config).Gives fun trace _ => actions trace = [] := by
  intro R s trace r s' runs
  obtain ⟨quiet, barrier, answer, -⟩ := runs_establishDisableBarrier runs
  exact ⟨barrier, answer, quiet⟩

theorem gives_batchDisableAgain : (batchDisableAgain config motors).Gives fun _ _ => True := by
  simp only [batchDisableAgain, look, disableMotors, bind_eq, pure_eq]
  refine (gives_lookAt (P := fun _ _ => True) fun _ _ => trivial).bind fun _ _ _ =>
    (gives_lookAt (P := fun _ _ => True) fun _ _ => trivial).bind fun _ _ _ => gives_batchRefresh.bind
      fun _ _ _ => .ite (fun _ => .ret trivial) fun _ => gives_selectedConfirmed.bind fun _ _ _ => .ret trivial

theorem gives_batchDisableConfirm : (batchDisableConfirm config motors).Gives fun _ _ => True := by
  simp only [batchDisableConfirm, bind_eq, pure_eq]
  refine gives_batchRefresh.bind fun _ _ _ => .ite (fun _ => gives_batchDisableAgain) fun _ =>
    gives_selectedConfirmed.bind fun _ _ _ => .ite (fun _ => .ret trivial) fun _ => gives_batchDisableAgain

/-- After the barrier, every selected motor is addressed. -/
theorem gives_batchDisable {preflight : BatchOutcome} : (batchDisable config motors preflight).Gives
    fun trace _ => PowerAction.disable motors ∈ actions trace := by
  simp only [batchDisable, disableMotors, bind_eq, pure_eq]
  refine gives_establishDisableBarrier.bind fun before barrier quiet => ?_
  refine (gives_lookAt (P := fun trace _ => actions trace = [.disable motors]) fun _ _ => rfl).bind
    fun attempt sent once => ?_
  exact gives_batchDisableConfirm.bind fun _ _ _ => .ret (by simp [once])

/-- The transaction of a batch that disables attempts every selected motor exactly when its preflight
passes, and no motor otherwise. -/
theorem gives_disableTransaction {startedReady : Bool} :
    (batchTransaction config motors false startedReady).Gives fun trace _ =>
      PreflightPasses config motors false trace ∧ PowerAction.disable motors ∈ actions trace ∨
        ¬ PreflightPasses config motors false trace ∧ actions trace = [] := by
  simp only [batchTransaction, bind_eq, pure_eq]
  refine gives_batchPreflight.bind ?_
  rintro _ _ ⟨i, j, found, found', ⟨rfl, fails, rfl⟩ | ⟨k, found'', rfl, passes, rfl⟩⟩
  · refine .ret (.inr ⟨?_, rfl⟩)
    rintro ⟨i', j', k', -, -, third, -⟩
    simp [firstInput_cons] at third
  · refine .ite (fun refused => .ret (.inr ⟨?_, rfl⟩)) fun accepted => ?_
    · rintro ⟨i', j', k', -, -, third, -, all⟩
      obtain rfl : k = k' := by simpa [firstInput_cons] using third
      simp [preflightOutcome, all] at refused
    · simp only [Bool.false_eq_true, if_false]
      refine gives_batchDisable.conseq fun rest outcome attempted => .inl ⟨⟨i, j, k, ?_⟩, ?_⟩
      · simpa [firstInput_cons, Site.validates, passes, preflightOutcome] using accepted
      · simp [attempted]

/-- A batch that disables keeps its promises: every selected motor is attempted, and a motor is recorded as
intentionally disabled only if it is attempted or read as disabled. -/
structure DisableAttempted (config : RuntimeConfig) (selected : List Handle) (trace : Trace) : Prop where
  attempted : ∀ motor ∈ selected, ∃ action ∈ actions trace, action.disables motor = true
  recorded : ∀ taken ∈ trace, ∀ motor,
    motor ∈ (after config .lifecycle taken.label taken.input taken.found).intentionallyDisabled →
      motor ∉ taken.found.intentionallyDisabled →
        (∃ action ∈ actions trace, action.disables motor = true) ∨
          ∃ reading ∈ trace, reading.label = .reading ∧
            (reads reading.input motor fun state => state.statusCode = 0) = true

/-- Motors that are all cached as disabled are. -/
theorem disabled_of_cached {i : Input} (cached : cachedMotorPowerState i motors = .disabled) {motor : Handle}
    (member : motor ∈ motors) : (reads i motor fun state => state.statusCode = 0) = true := by
  simp only [cachedMotorPowerState] at cached
  split_ifs at cached with unknown
  have readable : (reads i motor fun state => state.statusCode ≤ 1) = true := by
    simp only [List.any_eq_true, not_exists, not_and] at unknown
    simpa using unknown motor member
  have not_enabled : (reads i motor fun state => state.statusCode = 1) = false := by
    by_contra enabled
    have some : (motors.any fun motor => reads i motor fun state => state.statusCode = 1) = true :=
      List.any_eq_true.mpr ⟨motor, member, by simpa using enabled⟩
    rw [some] at cached
    split at cached <;> simp_all
  cases found : i.states motor with
  | none => simp [reads, found] at readable
  | some state =>
    simp only [reads, found, Option.any_some, decide_eq_true_eq, decide_eq_false_iff_not] at *
    omega

theorem startBatch_admits {start : SafetyRuntime} (connected : start.state ≠ .disconnected)
    (running : start.flags.stopping = false) (free : start.flags.hardwareTransition = false) :
    (start.tick.startBatch config selected false).1 = .ok start.state := by
  simp [startBatch, connected, running, free]

/-- The first section of a batch that disables records the selected motors. -/
theorem recorded_batchStart {i : Input} {start : SafetyRuntime} {motor : Handle}
    (recorded : motor ∈ (after config .lifecycle (.batchStart selected false) i start).intentionallyDisabled) :
    motor ∈ selected ∨ motor ∈ start.intentionallyDisabled := by
  simp only [after, effect, startBatch] at recorded
  split_ifs at recorded
  all_goals simp_all

/-- The last section of a batch that disables records motors only when all are cached as disabled. -/
theorem recorded_batchCommit {started : SafetyState} {outcome : BatchOutcome} {allDisabled : Bool} {i : Input}
    {commit : SafetyRuntime} {motor : Handle} (recorded : motor ∈ (after config .lifecycle
      (.batchCommit selected false started outcome allDisabled) i commit).intentionallyDisabled) :
    allDisabled = true ∧ motor ∈ config.handles ∨ motor ∈ commit.intentionallyDisabled := by
  have left : (after config .lifecycle (.batchCommit selected false started outcome allDisabled) i
      commit).intentionallyDisabled =
      if allDisabled = true ∧ preserveAbnormalState false started = true then
        config.handles ++ commit.intentionallyDisabled
      else if allDisabled = true ∧ ¬ commit.flags.faultLatched = true then []
      else commit.intentionallyDisabled := by
    simp [after, effect, SafetyRuntime.commitBatch, BatchOutcome.rollbackFailed, SafetyRuntime.batchDisabled]
  rw [left] at recorded
  split_ifs at recorded with all
  · exact (List.mem_append.mp recorded).imp (fun member => ⟨all.1, member⟩) id
  · cases recorded
  · exact .inr recorded

/-- A batch that disables and is admitted keeps its promises exactly when its preflight passes. -/
theorem disable_batch_attempts_iff (runs : (setMotorPowerBatch config selected false).Runs R s trace r s')
    (admitted : ∃ start ∈ trace.head?, start.found.state ≠ .disconnected ∧
      start.found.flags.stopping = false ∧ start.found.flags.hardwareTransition = false) :
    DisableAttempted config selected trace ↔ PreflightPasses config selected false trace := by
  obtain ⟨start', first, connected, running, free⟩ := admitted
  obtain ⟨rfl, -, rfl⟩ | ⟨⟨some, -⟩, called⟩ := runs_setMotorPowerBatch (fun _ => gives_disableTransaction) runs
  · cases first
  cases called with
  | @refused i start error refused =>
    obtain rfl := Option.some.inj first
    cases (startBatch_admits connected running free).symm.trans refused
  | @ran i j k l m start locked unlocked read commit begun middle started body outcome admitted ran =>
    obtain ⟨outcome', same, transaction⟩ := gives_disableTransaction R begun body (.ok outcome) middle ran
    obtain rfl := Except.ok.inj same
    obtain ⟨last, last_eq⟩ : ∃ last : Taken SafetyRuntime Input Site, last = ⟨.batchCommit selected false started
      outcome (cachedMotorPowerState l config.handles = .disabled), m, commit⟩ := ⟨_, rfl⟩
    rw [← last_eq]
    obtain ⟨whole, whole_eq⟩ : ∃ whole : Trace, whole = ⟨.batchStart selected false, i, start⟩ ::
      ⟨.lock, j, locked⟩ :: (body ++ [⟨.unlock, k, unlocked⟩, ⟨.reading, l, read⟩, last]) := ⟨_, rfl⟩
    have passes_iff : PreflightPasses config selected false whole ↔ PreflightPasses config selected false body := by
      simp [whole_eq, last_eq, PreflightPasses, firstInput_cons, firstInput_append, Site.validates]
    have actions_eq : actions whole = actions body := by simp [whole_eq, last_eq, Site.action?]
    rw [← whole_eq, passes_iff]
    constructor
    · intro kept
      obtain ⟨motor, member⟩ := List.exists_mem_of_ne_nil selected some
      obtain ⟨action, attempted, -⟩ := kept.attempted motor member
      obtain ⟨passes, -⟩ | ⟨-, none⟩ := transaction
      · exact passes
      · rw [actions_eq, none] at attempted
        cases attempted
    · intro passes
      obtain ⟨-, attempted⟩ := transaction.resolve_right fun refused => refused.1 passes
      have each : ∀ motor ∈ selected, ∃ action ∈ actions whole, action.disables motor = true := fun motor member =>
        ⟨.disable selected, actions_eq ▸ attempted, by simpa [PowerAction.disables] using member⟩
      have quiet : ∀ taken : Taken SafetyRuntime Input Site, taken.label.writesDisabled = false → ∀ motor,
          motor ∈ (after config .lifecycle taken.label taken.input taken.found).intentionallyDisabled →
            motor ∈ taken.found.intentionallyDisabled := fun taken still motor recorded => by
        rwa [(after_footprint config .lifecycle taken.label taken.input taken.found).disabled still] at recorded
      refine ⟨each, fun taken member motor recorded fresh => ?_⟩
      have read_whole : ⟨.reading, l, read⟩ ∈ whole := by simp [whole_eq]
      simp only [whole_eq, List.mem_cons, List.mem_append, List.not_mem_nil, or_false] at member
      rcases member with rfl | rfl | inside | rfl | rfl | rfl
      · exact .inl (each motor ((recorded_batchStart recorded).resolve_right fresh))
      · exact absurd (quiet _ rfl motor recorded) fresh
      · exact absurd (quiet _ ((ran.every every_batchTransaction taken inside).2 rfl) motor recorded) fresh
      · exact absurd (quiet _ rfl motor recorded) fresh
      · exact absurd (quiet _ rfl motor recorded) fresh
      · rw [last_eq] at recorded fresh
        obtain ⟨all, member⟩ := (recorded_batchCommit recorded).resolve_right fresh
        exact .inr ⟨_, read_whole, rfl, disabled_of_cached (of_decide_eq_true all) member⟩

end Batch

/-- A disabled Runtime. -/
def Scenario.ready : SafetyRuntime := { flags := { state := .ready, disableConfirmed := true } }

/-- The second motor refuses its enable frame; both are disabled again. -/
theorem enable_batch_failClosed_refused : ∃ trace r s',
    (setMotorPowerBatch Scenario.config [1, 2] true).Runs undisturbed Scenario.ready trace r s' ∧
      (r = .ok false ∧ actions trace = [.enable [1], .enable [2], .disable [1, 2]] ∧ s'.state = .ready) ∧
      FailClosed Scenario.config [1, 2] trace r s' := by
  obtain ⟨trace, r, s', runs, seen⟩ := exists_runs_of_exec (setMotorPowerBatch Scenario.config [1, 2] true)
    Scenario.ready (List.replicate 7 (Scenario.powered 0) ++ { ok := false } ::
      List.replicate 7 (Scenario.powered 0))
    (fun trace r s' => (decide (r = .ok false), actions trace, s'.state))
    (b := (true, [.enable [1], .enable [2], .disable [1, 2]], .ready)) (by rfl)
  simp only [Prod.mk.injEq, decide_eq_true_eq] at seen
  exact ⟨trace, r, s', runs, seen, enable_batch_failClosed runs⟩

/-- The preflight fails over motors that are cached as disabled; nothing changes. -/
theorem idle_batch_untouched_iff_refreshed : ∃ trace r s',
    (setMotorPowerBatch Scenario.config [1] true).Runs undisturbed Scenario.ready trace r s' ∧
      (r = .ok false ∧ actions trace = [] ∧ s'.state = .ready) ∧
      (Untouched Scenario.config trace ↔ Agrees Scenario.config trace) ∧
      (vitals s' = vitals Scenario.ready ↔ Agrees Scenario.config trace) := by
  obtain ⟨trace, r, s', runs, seen⟩ := exists_runs_of_exec (setMotorPowerBatch Scenario.config [1] true)
    Scenario.ready (List.replicate 7 { Scenario.powered 0 with codes := fun _ => false })
    (fun trace r s' => (decide (r = .ok false), actions trace, s'.state)) (b := (true, [], .ready)) (by rfl)
  simp only [Prod.mk.injEq, decide_eq_true_eq] at seen
  obtain ⟨untouched_iff, vitals_iff⟩ := idle_batch_untouched_iff runs
    (by rw [seen.2.1]; exact fun _ member => absurd member List.not_mem_nil) (by rw [seen.1]; nofun)
  exact ⟨trace, r, s', runs, seen, untouched_iff, vitals_iff fun _ _ _ same => congrArg vitals same⟩

/-- The preflight fails over motors that are cached as enabled; the batch commands nothing and takes a
connected Runtime from `READY` to `PARTIALLY_ENABLED`. -/
theorem idle_batch_commits : ∃ c, (runtime Scenario.config).Reach anySection c ∧ ∃ trace r s',
    (setMotorPowerBatch Scenario.config [1] true).Runs undisturbed c.shared trace r s' ∧
      r = .ok false ∧ actions trace = [] ∧ c.shared.state = .ready ∧ s'.state = .partiallyEnabled ∧
      ¬ Untouched Scenario.config trace := by
  obtain ⟨c, reach, seen⟩ := Machine.exists_reach_of_run (M := runtime Scenario.config)
    (fun _ _ _ _ => true)
    (fun s => (s.state, (setMotorPowerBatch Scenario.config [1] true).shows s
      (List.replicate 7 { Scenario.powered 1 with codes := fun _ => false }) fun trace r s' =>
        (decide (r = .ok false), actions trace, s'.state, trace.getLast?.map fun commit =>
          (vitals (after Scenario.config .lifecycle commit.label commit.input commit.found),
            vitals commit.found))))
    (Scenario.call .connect 7 (Scenario.powered 0)) (fun _ _ _ _ _ => trivial)
    (b := (.ready, some (true, [], .partiallyEnabled, some ((.partiallyEnabled, false, false),
      (.ready, true, false))))) (by rfl)
  obtain ⟨ready, executed⟩ := Prod.mk.inj seen
  obtain ⟨trace, r, s', runs, ended⟩ := exists_runs_of_exec _ _ _ _ executed
  simp only [Prod.mk.injEq, decide_eq_true_eq] at ended
  obtain ⟨failed, idle, partly, last⟩ := ended
  refine ⟨c, reach, trace, r, s', runs, failed, idle, ready, partly, fun untouched => ?_⟩
  obtain ⟨commit, found, vital⟩ := Option.map_eq_some_iff.mp last
  have same := untouched commit (List.mem_of_getLast? found)
  obtain ⟨after_vitals, found_vitals⟩ := Prod.mk.inj vital
  rw [after_vitals, found_vitals] at same
  cases same

/-- The first motor reports disabled only after the second attempt. -/
theorem disable_batch_attempts_iff_repeated : ∃ trace r s',
    (setMotorPowerBatch Scenario.config [1] false).Runs undisturbed Scenario.running trace r s' ∧
      (r = .ok true ∧ actions trace = [.disable [1], .disable [1]]) ∧
      (DisableAttempted Scenario.config [1] trace ↔ PreflightPasses Scenario.config [1] false trace) := by
  obtain ⟨trace, r, s', runs, seen⟩ := exists_runs_of_exec (setMotorPowerBatch Scenario.config [1] false)
    Scenario.running (List.replicate 12 (Scenario.powered 1) ++ List.replicate 7 (Scenario.powered 0))
    (fun trace r _ => (decide (r = .ok true), actions trace, trace.head?.map fun start =>
      (start.found.state, start.found.flags.stopping, start.found.flags.hardwareTransition)))
    (b := (true, [.disable [1], .disable [1]], some (.running, false, false))) (by rfl)
  simp only [Prod.mk.injEq, decide_eq_true_eq] at seen
  obtain ⟨ok, addressed, entered⟩ := seen
  obtain ⟨start, first, found⟩ := Option.map_eq_some_iff.mp entered
  simp only [Prod.mk.injEq] at found
  obtain ⟨running, open_, free⟩ := found
  exact ⟨trace, r, s', runs, ⟨ok, addressed⟩, disable_batch_attempts_iff runs
    ⟨start, first, by rw [running]; nofun, open_, free⟩⟩

/-- The other motor's channel does not answer: the selected motor is recorded as intentionally disabled and
gets no frame. -/
theorem disable_batch_skips : ∃ trace r s',
    (setMotorPowerBatch Scenario.config [1] false).Runs undisturbed Scenario.running trace r s' ∧
      (∃ start ∈ trace.head?, start.found.state ≠ .disconnected ∧
        start.found.flags.stopping = false ∧ start.found.flags.hardwareTransition = false) ∧
      actions trace = [] ∧ 1 ∈ s'.intentionallyDisabled ∧ ¬ DisableAttempted Scenario.config [1] trace := by
  obtain ⟨trace, r, s', runs, seen⟩ := exists_runs_of_exec (setMotorPowerBatch Scenario.config [1] false)
    Scenario.running (List.replicate 7 { Scenario.powered 1 with codes := fun _ => false })
    (fun trace _ s' => (actions trace, s'.intentionallyDisabled, trace.head?.map fun start =>
      (start.found.state, start.found.flags.stopping, start.found.flags.hardwareTransition)))
    (b := ([], [1], some (.running, false, false))) (by rfl)
  simp only [Prod.mk.injEq] at seen
  obtain ⟨none, recorded, entered⟩ := seen
  obtain ⟨start, first, found⟩ := Option.map_eq_some_iff.mp entered
  simp only [Prod.mk.injEq] at found
  obtain ⟨running, open_, free⟩ := found
  refine ⟨trace, r, s', runs, ⟨start, first, by rw [running]; nofun, open_, free⟩, none, by simp [recorded],
    fun kept => ?_⟩
  obtain ⟨action, attempted, -⟩ := kept.attempted 1 (List.mem_singleton_self 1)
  rw [none] at attempted
  cases attempted

end MotorDrive.Runtime
