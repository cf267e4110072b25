import MotorDrive.Runtime.Calls

/-!
# Disabling the product

What `disable` leaves behind, for every answer of the backend and every behaviour of the other threads:
the motors it attempts to disable, and what its normal return says of the motors and of the Runtime.
`disable_outcome_iff` is exact.  The report of a feedback transaction names a motor by its configured
CAN id and `collect_unconfirmed` looks for the id of its cached state, so a motor that the last
transaction missed may count as confirmed.
-/

namespace MotorDrive.Runtime

open Threads SafetyRuntime Proc

section Disable

variable (config : RuntimeConfig)

/-! ## Feedback transactions -/

/-- The motors that a transaction reports missing. -/
def missingReport (i : Input) : List MissingMotor := missingOn config i 0 ++ missingOn config i 1

/-- The id under which a transaction reports a motor. -/
def reportedId (i : Input) (motor : MotorRecord) : ℕ :=
  motor.configuredCanId.getD ((i.states motor.motor).elim 0 MotorState.canId)

/-- The transaction reports the motor missing. -/
def ReportedMissing (i : Input) (motor : MotorRecord) : Prop :=
  ⟨motor.side, reportedId i motor⟩ ∈ missingReport config i

instance (i : Input) (motor : MotorRecord) : Decidable (ReportedMissing config i motor) :=
  inferInstanceAs (Decidable (_ ∈ _))

/-- A reading of `confirm_until_deadline`. -/
def Site.confirms : Site → Bool
  | .confirmRead _ _ => true
  | _ => false

/-- The inputs of the last feedback transaction and of the last reading of `confirm_until_deadline`. -/
structure LastTurn (trace : Trace) (transaction reading : Input) : Prop where
  transaction : lastInput (· = .feedback) trace = some transaction
  reading : lastInput Site.confirms trace = some reading

/-- The motors that a transaction and the reading after it leave unconfirmed. -/
def remaining (transaction reading : Input) : List Handle :=
  collectUnconfirmed config reading (requestComplete config transaction)
    (missingReport config transaction)

/-- The drain barrier succeeded: the dispatch was accepted and a feedback marker was complete. -/
def Drained (trace : Trace) : Prop :=
  (∃ dispatch ∈ trace, dispatch.label = .drain ∧ dispatch.input.ok = true) ∧
    ∃ marker ∈ trace, marker.label = .feedback ∧ requestComplete config marker.input = true

/-- One attempt for every motor, and a second one for exactly the motors that the first confirmation
window leaves unconfirmed, if it leaves any. -/
def Attempted (trace : Trace) : Prop :=
  actions trace = [.disable config.handles] ∧
      (∃ transaction reading, LastTurn trace transaction reading ∧ remaining config transaction reading = []) ∨
    ∃ window retry rest transaction reading, trace = window ++ retry :: rest ∧
      actions window = [.disable config.handles] ∧ LastTurn window transaction reading ∧
      remaining config transaction reading ≠ [] ∧
      retry.label = .disableMotors (remaining config transaction reading) ∧ actions rest = []

end Disable

/-! ## The functions of `disable_hardware` -/

section Runs

variable {config : RuntimeConfig} {R : Interference} {s s' : SafetyRuntime} {trace more : Trace}

theorem runs_establishDisableBarrier {r : Except String Bool}
    (runs : (establishDisableBarrier config).Runs R s trace r s') :
    actions trace = [] ∧ ∃ barrier, r = .ok barrier ∧ (barrier = true ↔ Drained config trace) := by
  simp only [establishDisableBarrier, bind_eq, pure_eq] at runs
  obtain ⟨i, found, rest, -, rfl, asked⟩ := runs_lookAt_bind.mp runs
  by_cases dispatched : i.ok = true
  · simp only [dispatched, Bool.not_true, Bool.false_eq_true, if_false] at asked
    obtain ⟨j, found', rest, -, rfl, marked⟩ := runs_feedback_bind.mp asked
    by_cases complete : requestComplete config j = true
    · simp only [complete, if_true] at marked
      obtain ⟨rfl, rfl, -⟩ := marked
      refine ⟨rfl, true, rfl, ?_⟩
      simp [Drained, dispatched, complete]
    · simp only [complete, Bool.false_eq_true, if_false] at marked
      obtain ⟨k, found'', rest, -, rfl, rfl, rfl, -⟩ := runs_feedback_bind.mp marked
      refine ⟨rfl, requestComplete config k, rfl, ?_⟩
      simp [Drained, dispatched, complete]
  · simp only [dispatched, Bool.not_false, if_true] at asked
    obtain ⟨rfl, rfl, -⟩ := asked
    refine ⟨rfl, false, rfl, ?_⟩
    simp [Drained, dispatched]

/-! ### The confirmation windows -/

namespace LastTurn

variable {i j : Input} {taken : Taken SafetyRuntime Input Site}

theorem prepend (last : LastTurn more i j) : LastTurn (trace ++ more) i j :=
  ⟨by rw [lastInput_append, last.transaction]; rfl, by rw [lastInput_append, last.reading]; rfl⟩

theorem cons (last : LastTurn more i j) : LastTurn (taken :: more) i j := by
  rw [← List.singleton_append]
  exact last.prepend

/-- A section that is neither a transaction nor a reading. -/
theorem snoc (last : LastTurn trace i j) (feedback : taken.label ≠ .feedback)
    (reading : taken.label.confirms = false) : LastTurn (trace ++ [taken]) i j :=
  ⟨by rw [lastInput_append, lastInput_cons, last.transaction]; simp [feedback],
    by rw [lastInput_append, lastInput_cons, last.reading]; simp [reading]⟩

theorem unique {i' j' : Input} (last : LastTurn trace i j) (other : LastTurn trace i' j') :
    i' = i ∧ j' = j :=
  ⟨Option.some.inj (other.transaction.symm.trans last.transaction),
    Option.some.inj (other.reading.symm.trans last.reading)⟩

end LastTurn

theorem runs_confirmTurn {r : Except String (List Handle)}
    (runs : (confirmTurn config).Runs R s trace r s') : actions trace = [] ∧ ∃ i j,
      LastTurn trace i j ∧ r = .ok (remaining config i j) := by
  simp only [confirmTurn, bind_eq] at runs
  obtain ⟨i, found, rest, -, rfl, marked⟩ := runs_feedback_bind.mp runs
  obtain ⟨j, found', -, rfl, rfl, -⟩ := runs_act.mp marked
  exact ⟨rfl, i, j, ⟨rfl, rfl⟩, rfl⟩

theorem runs_confirmUntilDeadline {turns : ℕ} {r : Except String (List Handle)}
    (runs : (confirmUntilDeadline config turns).Runs R s trace r s') : actions trace = [] ∧ ∃ i j,
      LastTurn trace i j ∧ r = .ok (remaining config i j) := by
  induction turns generalizing s trace with
  | zero => exact runs_confirmTurn runs
  | succ turns ih =>
    simp only [confirmUntilDeadline, bind_eq, pure_eq] at runs
    obtain ⟨result, middle, first, rest, turn, later, rfl⟩ | ⟨e, turn, -⟩ := runs_bind.mp runs
    · obtain ⟨none, i, j, last, same⟩ := runs_confirmTurn turn
      obtain rfl := Except.ok.inj same
      by_cases confirmed : remaining config i j = []
      · rw [if_pos confirmed] at later
        obtain ⟨rfl, rfl, -⟩ := later
        rw [List.append_nil]
        exact ⟨none, i, j, last, by rw [confirmed]⟩
      · rw [if_neg confirmed] at later
        obtain ⟨none', i', j', last', same⟩ := ih later
        exact ⟨by rw [actions_append, none, none', List.append_nil], i', j', last'.prepend, same⟩
    · obtain ⟨-, i, j, -, impossible⟩ := runs_confirmTurn turn
      cases impossible

/-- The confirmation of `disable_hardware`: the first window confirms every motor, or the motors that it
leaves are addressed again. -/
theorem runs_confirmOrRetry {r : Except String Bool}
    (runs : (confirmOrRetry config).Runs R s trace r s') : ∃ i j, LastTurn trace i j ∧
      r = .ok (decide (remaining config i j = [])) ∧
      (actions trace = [] ∧ remaining config i j = [] ∨
        ∃ window retry rest i' j', trace = window ++ retry :: rest ∧ actions window = [] ∧
          LastTurn window i' j' ∧ remaining config i' j' ≠ [] ∧
          retry.label = .disableMotors (remaining config i' j') ∧ actions rest = []) := by
  simp only [confirmOrRetry, look, disableMotors, bind_eq, pure_eq] at runs
  obtain ⟨i₀, found, rest, -, rfl, begun⟩ := runs_lookAt_bind.mp runs
  obtain ⟨targets, middle, window, rest, first, later, rfl⟩ | ⟨e, first, -⟩ := runs_bind.mp begun
  · obtain ⟨none, i, j, last, same⟩ := runs_confirmUntilDeadline first
    obtain rfl := Except.ok.inj same
    by_cases confirmed : remaining config i j = []
    · rw [if_pos confirmed] at later
      obtain ⟨rfl, rfl, -⟩ := later
      rw [List.append_nil]
      exact ⟨i, j, last.cons, by simp [confirmed], .inl ⟨none, confirmed⟩⟩
    · rw [if_neg confirmed] at later
      obtain ⟨answer, sent, rest, -, rfl, retried⟩ := runs_lookAt_bind.mp later
      obtain ⟨i₁, found₁, rest, -, rfl, waits⟩ := runs_lookAt_bind.mp retried
      obtain ⟨targets, middle', window', rest, second, ends, rfl⟩ | ⟨e, second, -⟩ := runs_bind.mp waits
      · obtain ⟨none', i', j', last', same⟩ := runs_confirmUntilDeadline second
        obtain rfl := Except.ok.inj same
        obtain ⟨rfl, rfl, -⟩ := ends
        rw [List.append_nil]
        exact ⟨i', j', last'.cons.cons.prepend.cons, rfl, .inr ⟨⟨.look, i₀, found⟩ :: window, _,
          ⟨.look, i₁, found₁⟩ :: window', i, j, rfl, none, last.cons, confirmed, rfl, none'⟩⟩
      · obtain ⟨-, i', j', -, impossible⟩ := runs_confirmUntilDeadline second
        cases impossible
  · obtain ⟨-, i, j, -, impossible⟩ := runs_confirmUntilDeadline first
    cases impossible

/-! ### The whole of `disable_hardware` -/

/-- The section is no part of a transaction, of a reading, of the barrier or of an attempt. -/
def Site.plain (site : Site) : Bool :=
  site.action?.isNone && site ≠ .feedback && site ≠ .drain && !site.confirms

/-- What `disable_hardware` does: its attempts, and when it counts as confirmed. -/
structure HardwareDisable (config : RuntimeConfig) (trace : Trace) (confirmed : Bool) : Prop where
  attempted : Attempted config trace
  confirmed_iff : ∃ i j, LastTurn trace i j ∧
    (confirmed = true ↔ Drained config (beforeAction trace) ∧ remaining config i j = [])

namespace HardwareDisable

variable {confirmed : Bool} {taken : Taken SafetyRuntime Input Site}

/-- A plain section before it changes nothing. -/
theorem cons (disabled : HardwareDisable config trace confirmed) (plain : taken.label.plain = true) :
    HardwareDisable config (taken :: trace) confirmed := by
  obtain ⟨attempted, i, j, last, confirmed_iff⟩ := disabled
  simp only [Site.plain, Bool.and_eq_true, Option.isNone_iff_eq_none, decide_eq_true_eq,
    Bool.not_eq_true'] at plain
  obtain ⟨⟨⟨action, feedback⟩, drain⟩, -⟩ := plain
  refine ⟨?_, i, j, last.cons, ?_⟩
  · obtain ⟨once, i, j, last, none⟩ | ⟨window, retry, rest, i, j, rfl, once, last, some, label, past⟩ :=
      attempted
    · exact .inl ⟨by simp [action, once], i, j, last.cons, none⟩
    · exact .inr ⟨taken :: window, retry, rest, i, j, rfl, by simp [action, once], last.cons, some, label,
        past⟩
  · rw [confirmed_iff]
    have before : beforeAction (taken :: trace) = taken :: beforeAction trace := by
      simp [beforeAction, action]
    simp [Drained, before, feedback, drain]

/-- A plain section after it changes nothing. -/
theorem snoc (disabled : HardwareDisable config trace confirmed) (plain : taken.label.plain = true) :
    HardwareDisable config (trace ++ [taken]) confirmed := by
  obtain ⟨attempted, i, j, last, confirmed_iff⟩ := disabled
  simp only [Site.plain, Bool.and_eq_true, Option.isNone_iff_eq_none, decide_eq_true_eq,
    Bool.not_eq_true'] at plain
  obtain ⟨⟨⟨action, feedback⟩, -⟩, confirms⟩ := plain
  have some_action : actions trace ≠ [] := by
    obtain ⟨once, -⟩ | ⟨window, retry, rest, -, -, rfl, once, -⟩ := attempted
    · simp [once]
    · simp [once]
  refine ⟨?_, i, j, last.snoc feedback confirms, ?_⟩
  · obtain ⟨once, i, j, last, none⟩ | ⟨window, retry, rest, i, j, rfl, once, last, some, label, past⟩ :=
      attempted
    · exact .inl ⟨by simp [action, once], i, j, last.snoc feedback confirms, none⟩
    · exact .inr ⟨window, retry, rest ++ [taken], i, j, by simp, once, last, some, label,
        by simp [action, past]⟩
  · rw [confirmed_iff]
    rw [beforeAction_of_actions some_action]

end HardwareDisable

theorem runs_disableHardware {t : Thread} {r : Except String Bool}
    (runs : (disableHardware config t).Runs R s trace r s') :
    ∃ confirmed, r = .ok confirmed ∧ HardwareDisable config trace confirmed := by
  obtain ⟨i, found, k, left, start, middle, body, rfl, runs, -⟩ := runs_withCommand runs
  simp only [disableMotors, bind_eq, pure_eq] at runs
  obtain ⟨barrier, middle', before, rest, drained, later, rfl⟩ | ⟨e, drained, -⟩ := runs_bind.mp runs
  · obtain ⟨none, barrier', same, barrier_iff⟩ := runs_establishDisableBarrier drained
    obtain rfl := Except.ok.inj same
    obtain ⟨answer, sent, rest, -, rfl, waits⟩ := runs_lookAt_bind.mp later
    obtain ⟨confirmed, middle'', window, rest, confirms, ends, rfl⟩ | ⟨e, confirms, -⟩ := runs_bind.mp waits
    · obtain ⟨rfl, rfl, -⟩ := ends
      obtain ⟨i', j', last, same, attempts⟩ := runs_confirmOrRetry confirms
      obtain rfl := Except.ok.inj same
      refine ⟨_, rfl, ?_⟩
      rw [List.append_nil]
      refine .cons (.snoc ⟨?_, i', j', last.cons.prepend, ?_⟩ rfl) rfl
      · obtain ⟨past, none'⟩ | ⟨window, retry, rest, i, j, rfl, past, last', some, label, past'⟩ := attempts
        · exact .inl ⟨by simp [none, past, Site.action?], i', j', last.cons.prepend, none'⟩
        · exact .inr ⟨before ++ ⟨.disableMotors config.handles, answer, sent⟩ :: window, retry, rest, i, j,
            by simp, by simp [none, past, Site.action?], last'.cons.prepend, some, label, past'⟩
      · rw [beforeAction_append none rfl, Bool.and_eq_true, barrier_iff, decide_eq_true_eq]
    · obtain ⟨i', j', -, impossible, -⟩ := runs_confirmOrRetry confirms
      cases impossible
  · obtain ⟨-, barrier, impossible, -⟩ := runs_establishDisableBarrier drained
    cases impossible

end Runs

/-! ## disable -/

/-- Nothing of the arm or the grippers is left that would be sent. -/
structure SafetyRuntime.Idle (s : SafetyRuntime) : Prop where
  mailboxes : s.arm.mailbox = {} ∧ s.arm.pending = {}
  holds : s.arm.safePv = [] ∧ s.arm.safeMit = [] ∧ s.grippers.safeGrippers = []
  sent : s.arm.lastSentPv = [] ∧ s.arm.lastSentMit = []
  owners : s.arm.gravity.phase = .inactive ∧ s.arm.bimanual = none
  token : s.progress.activeCommandPlanningToken = 0
  disabled : s.intentionallyDisabled = []

/-- What `disable` promises of its sections, its answer and the state it leaves. -/
structure DisableOutcome (config : RuntimeConfig) (trace : Trace) (r : Except String Unit)
    (s' : SafetyRuntime) : Prop where
  drained : r = .ok () → Drained config (beforeAction trace)
  disabled : r = .ok () → ∃ transaction reading, LastTurn trace transaction reading ∧
    ∀ motor ∈ config.motors, fresh config reading motor.motor = true ∧
      (reads reading motor.motor fun state => state.statusCode = 0) = true ∧
      ¬ ReportedMissing config transaction motor
  confirmed : r = .ok () → s'.flags.disableConfirmed = true
  state : r = .ok () → ∃ entry ∈ trace.head?,
    if entry.found.state = .fault ∧ entry.found.flags.faultLatched = true then
      s'.state = .fault ∧ s'.flags.faultLatched = true
    else s'.state = .ready
  idle : r = .ok () → s'.Idle
  failed : ∀ error, r = .error error →
    s'.state = .fault ∧ s'.flags.faultLatched = true ∧ s'.flags.disableConfirmed = false
  attempted : Attempted config trace
  counted : ∀ motor ∈ config.handles, 1 ≤ (actions trace).countP (PowerAction.disables motor) ∧
    (actions trace).countP (PowerAction.disables motor) ≤ 2

/-- The last transaction and the last reading of a drained product confirm every motor, and the
transaction reports one of them missing under an id that its cached state does not carry. -/
def Misnamed (config : RuntimeConfig) (trace : Trace) : Prop :=
  Drained config (beforeAction trace) ∧ ∃ transaction reading, LastTurn trace transaction reading ∧
    remaining config transaction reading = [] ∧ ∃ motor ∈ config.motors,
      ReportedMissing config transaction motor ∧
        (reads reading motor.motor fun state => state.canId ≠ reportedId transaction motor) = true

section Disable

variable {config : RuntimeConfig} {R : Interference} {s s' : SafetyRuntime} {trace : Trace}

/-- A motor that is not left unconfirmed is fresh and disabled, and its cached id is not reported. -/
theorem confirmed_of_remaining {transaction reading : Input} {motor : MotorRecord}
    (none : remaining config transaction reading = []) (member : motor ∈ config.motors) :
    fresh config reading motor.motor = true ∧ ∃ state, reading.states motor.motor = some state ∧
      state.statusCode = 0 ∧ ⟨motor.side, state.canId⟩ ∉ missingReport config transaction := by
  simp only [remaining, collectUnconfirmed, List.map_eq_nil_iff, List.filter_eq_nil_iff] at none
  have confirmed := none motor member
  simp only [unconfirmed, specificallyMissing, reads, Bool.or_eq_true, not_or, Bool.not_eq_true',
    Bool.not_eq_false, Option.any_eq_true, decide_eq_true_eq, not_exists, List.contains_iff_mem,
    Bool.not_eq_true] at confirmed
  obtain ⟨⟨⟨-, unlisted⟩, isFresh⟩, state, found, status⟩ := confirmed
  exact ⟨isFresh, state, found, status, fun listed => by simp [found, listed] at unlisted⟩

/-- Every motor is addressed once or twice. -/
theorem Attempted.counted (attempted : Attempted config trace) {motor : Handle}
    (member : motor ∈ config.handles) :
    1 ≤ (actions trace).countP (PowerAction.disables motor) ∧
      (actions trace).countP (PowerAction.disables motor) ≤ 2 := by
  obtain ⟨once, -⟩ | ⟨window, retry, rest, i, j, rfl, once, -, -, label, past⟩ := attempted
  · simp [once, PowerAction.disables, member]
  · have retried : retry.label.action? = some (.disable (remaining config i j)) := by rw [label]; rfl
    simp only [actions_append, actions_cons, once, retried, past, Option.toList_some, List.append_nil,
      List.singleton_append, List.countP_cons, List.countP_nil, PowerAction.disables,
      List.contains_iff_mem, member, if_true]
    split_ifs <;> omega

/-- Every motor is addressed, and no motor is enabled after that. -/
theorem Attempted.last (attempted : Attempted config trace) : ∃ rest,
    actions trace = .disable config.handles :: rest ∧ ∀ action ∈ rest, ∀ motor, action.enables motor = false := by
  obtain ⟨once, -⟩ | ⟨window, retry, rest, i, j, rfl, once, -, -, label, past⟩ := attempted
  · exact ⟨[], once, fun action member => absurd member List.not_mem_nil⟩
  · have retried : retry.label.action? = some (.disable (remaining config i j)) := by rw [label]; rfl
    refine ⟨[.disable (remaining config i j)], by simp [once, retried, past], fun action member motor => ?_⟩
    rw [List.mem_singleton.mp member]
    rfl

/-- What `disable` does in a connected state. -/
theorem runs_disable {r : Except String Unit} (runs : (disable config).Runs R s trace r s')
    (connected : ∀ entry ∈ trace.head?, entry.found.state ≠ .disconnected) :
    ∃ confirmed, HardwareDisable config trace confirmed ∧
      r = (if confirmed then .ok () else .error "disable confirmation failed") ∧
      ∃ entry ∈ trace.head?, ∃ i commit, s' = after config .lifecycle (.disableCommit confirmed
        (decide (entry.found.state = .fault ∧ entry.found.flags.faultLatched = true))) i commit := by
  simp only [disable, bind_eq, pure_eq] at runs
  obtain ⟨i, found, rest, -, rfl, started⟩ := runs_actThrow_bind runs
  have connected : found.state ≠ .disconnected := connected _ rfl
  have accepted : found.tick.startDisable.1 = .ok (decide (found.state = .fault ∧
      found.flags.faultLatched = true)) := by
    simp [startDisable, connected]
  obtain ⟨preserveFault, admitted, begun⟩ | ⟨e, refused, -⟩ := started
  · obtain rfl := Except.ok.inj (accepted.symm.trans admitted)
    obtain ⟨confirmed, middle, hardware, rest, disabled, later, rfl⟩ | ⟨e, disabled, -⟩ :=
      runs_bind.mp begun
    · obtain ⟨confirmed', same, hardware_disable⟩ := runs_disableHardware disabled
      obtain rfl := Except.ok.inj same
      obtain ⟨j, commit, rest, -, rfl, ends⟩ := runs_update_bind.mp later
      have answer : rest = [] ∧ r = (if confirmed then .ok () else .error "disable confirmation failed") ∧
          s' = after config .lifecycle (.disableCommit confirmed (decide (found.state = .fault ∧
            found.flags.faultLatched = true))) j commit := by
        cases confirmed <;> exact ends
      obtain ⟨rfl, rfl, rfl⟩ := answer
      exact ⟨confirmed, (hardware_disable.snoc rfl).cons rfl, rfl, _, rfl, j, commit, rfl⟩
    · obtain ⟨confirmed, impossible, -⟩ := runs_disableHardware disabled
      cases impossible
  · rw [accepted] at refused
    cases refused

/-- The state that `disable` leaves is idle. -/
theorem idle_disableCommit (preserveFault : Bool) (i : Input) (commit : SafetyRuntime) :
    (after config .lifecycle (.disableCommit true preserveFault) i commit).Idle :=
  ⟨⟨rfl, rfl⟩, ⟨rfl, rfl, rfl⟩, ⟨rfl, rfl⟩, ⟨rfl, rfl⟩, rfl, rfl⟩

/-- `disable` keeps its promises exactly when the reading that confirms the motors does not overlook one
that the last transaction reports missing. -/
theorem disable_outcome_iff {r : Except String Unit} (runs : (disable config).Runs R s trace r s')
    (connected : ∀ entry ∈ trace.head?, entry.found.state ≠ .disconnected) :
    DisableOutcome config trace r s' ↔ ¬ Misnamed config trace := by
  obtain ⟨confirmed, ⟨attempted, i, j, last, confirmed_iff⟩, rfl, entry, first, input, commit, rfl⟩ :=
    runs_disable runs connected
  constructor
  · rintro outcome ⟨drained, i', j', last', none, motor, member, missing, -⟩
    obtain ⟨rfl, rfl⟩ := last.unique last'
    have yes := confirmed_iff.mpr ⟨drained, none⟩
    obtain ⟨i'', j'', last'', each⟩ := outcome.disabled (by rw [yes]; rfl)
    obtain ⟨rfl, rfl⟩ := last.unique last''
    exact (each motor member).2.2 missing
  · intro named
    have returned : (if confirmed then .ok () else .error "disable confirmation failed" :
        Except String Unit) = .ok () ↔ confirmed = true := by
      cases confirmed <;> simp
    refine ⟨fun ok => (confirmed_iff.mp (returned.mp ok)).1, fun ok => ⟨i, j, last, ?_⟩, fun ok => ?_,
      fun ok => ⟨entry, first, ?_⟩, fun ok => ?_, fun error thrown => ?_, attempted,
      fun motor member => attempted.counted member⟩
    · obtain ⟨drained, none⟩ := confirmed_iff.mp (returned.mp ok)
      intro motor member
      obtain ⟨isFresh, state, found, status, unlisted⟩ := confirmed_of_remaining none member
      refine ⟨isFresh, by simp [reads, found, status], fun missing => named ⟨drained, i, j, last, none,
        motor, member, missing, ?_⟩⟩
      by_contra same
      simp only [reads, found, Option.any_some, ne_eq, decide_not, Bool.not_eq_true', Bool.not_eq_false,
        decide_eq_true_eq] at same
      exact unlisted (same ▸ missing)
    · rw [returned.mp ok]
      rfl
    · rw [returned.mp ok]
      split_ifs with latched
      · rw [decide_eq_true latched]
        exact ⟨rfl, rfl⟩
      · rw [decide_eq_false latched]
        rfl
    · rw [returned.mp ok]
      exact idle_disableCommit _ _ _
    · have no : confirmed = false := by
        cases confirmed
        · rfl
        · cases thrown
      rw [no]
      exact ⟨rfl, rfl, rfl⟩

end Disable

/-- A running Runtime. -/
def Scenario.running : SafetyRuntime := { flags := { state := .running } }

/-- The state that the first section of a trace finds. -/
def entryState (trace : Trace) : Option SafetyState := trace.head?.map fun entry => entry.found.state

theorem connected_of_entryState {trace : Trace} {state : SafetyState} (entered : entryState trace = some state)
    (connected : state ≠ .disconnected) : ∀ entry ∈ trace.head?, entry.found.state ≠ .disconnected := by
  intro entry first
  have same : some entry.found.state = some state := by
    rw [← entered, entryState, Option.mem_def.mp first]
    rfl
  rwa [Option.some.inj same]

/-- The second motor reports disabled only after the directed retry. -/
theorem disable_outcome_iff_retried : ∃ trace r s',
    (disable Scenario.config).Runs undisturbed Scenario.running trace r s' ∧
      (r.isOk = true ∧ actions trace = [.disable [1, 2], .disable [2]]) ∧
      (DisableOutcome Scenario.config trace r s' ↔ ¬ Misnamed Scenario.config trace) := by
  obtain ⟨trace, r, s', runs, seen⟩ := exists_runs_of_exec (disable Scenario.config) Scenario.running
    (List.replicate 5 (Scenario.powered 1) ++ { budget := 0 } ::
      List.replicate 3 { states := fun motor => some (Scenario.motorState (motor - 1) motor) } ++
      { budget := 0 } :: List.replicate 4 (Scenario.powered 0))
    (fun trace r _ => (entryState trace, r.isOk, actions trace))
    (b := (some .running, true, [.disable [1, 2], .disable [2]])) (by rfl)
  simp only [Prod.mk.injEq] at seen
  exact ⟨trace, r, s', runs, seen.2, disable_outcome_iff runs (connected_of_entryState seen.1 nofun)⟩

/-- A channel that answers nothing reports its motors under their configured ids; their cached states
carry other ids, and `disable` returns normally. -/
theorem disable_overlooks : ∃ trace r s',
    (disable Scenario.config).Runs undisturbed Scenario.running trace r s' ∧
      (∀ entry ∈ trace.head?, entry.found.state ≠ .disconnected) ∧
      ¬ DisableOutcome Scenario.config trace r s' := by
  obtain ⟨trace, r, s', runs, seen⟩ := exists_runs_of_exec (disable Scenario.config) Scenario.running
    (List.replicate 5 (Scenario.powered 1) ++ { budget := 0 } ::
      List.replicate 4 { codes := fun _ => false, states := fun motor => some { statusCode := 0, canId := motor } })
    (fun trace r _ => (entryState trace, decide (r = .ok ()), (lastInput (· = .feedback) trace).map fun i =>
      decide (ReportedMissing Scenario.config i ⟨1, 0, false, some 11⟩)))
    (b := (some .running, true, some true)) (by rfl)
  simp only [Prod.mk.injEq, decide_eq_true_eq] at seen
  obtain ⟨entered, returned, missed⟩ := seen
  refine ⟨trace, r, s', runs, connected_of_entryState entered nofun, fun outcome => ?_⟩
  obtain ⟨transaction, reading, last, each⟩ := outcome.disabled returned
  have unreported := (each ⟨1, 0, false, some 11⟩ (by simp [Scenario.config])).2.2
  rw [last.transaction, Option.map_some, decide_eq_false unreported] at missed
  cases missed

end MotorDrive.Runtime
