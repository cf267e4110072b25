import MotorDrive.Damiao.Feedback

/-!
# Feedback batch reports

`request_feedback_all_report` of `runtime.cpp`: the motors of the table are asked for feedback in rounds, until
none is missing or the deadline has passed.  A motor that the report does not list as missing has counted
feedback since the call began (`Counted`), and the status says what the call has observed of the transport
(`Observed`).
-/

namespace MotorDrive.Damiao

open Proc History

inductive FeedbackBatchStatus
  | ok
  | timeout
  | incomplete
  | transportError
  deriving DecidableEq

structure FeedbackBatchReport where
  status : FeedbackBatchStatus
  /-- In milliseconds. -/
  timeout : ℕ
  expectedCount : ℕ
  receivedCount : ℕ
  missingMotorIds : List UInt16
  error : String
  deriving DecidableEq

/-- A motor of a report, with the feedback its handle had counted before. -/
structure Watched where
  motor : MotorRef
  previousCount : ℕ

/-- How the rounds of a report end. -/
inductive RoundsEnd
  | refused (what : String)
  | missing (watched : List Watched)

def kBulkFeedbackRetryDelay : ℕ := 2 * millisecond

namespace Controller

/-- The counts before the call. -/
def captureCounts : List MotorRef → ControllerProgram (List Watched)
  | [] => ret []
  | motor :: rest => do
    let count ← updateCount motor.address
    let watched ← captureCounts rest
    ret (⟨motor, count⟩ :: watched)

/-- Ask the missing motors for feedback, while there is time. -/
def requestMissing (deadline : ℕ) : List Watched → ControllerProgram Unit
  | [] => ret ()
  | watched :: rest => do
    let now ← clock
    if deadline ≤ now then ret () else
      let _ ← requestFeedback watched.motor
      requestMissing deadline rest

/-- `requestMissing`, with the text of an `std::exception`. -/
def requestRound (deadline : ℕ) (missing : List Watched) : ControllerProgram (Option String) :=
  tryCatch
    (do
      let _ ← requestMissing deadline missing
      ret none)
    fun error =>
      match error with
      | .transport (.exception what) => ret (some what)
      | error => throw error

/-- Wait for the missing motors; the answer is the motors that are still missing. -/
def awaitMissing (deadline : ℕ) : List Watched → ControllerProgram (List Watched)
  | [] => ret []
  | watched :: rest => do
    let received ← waitForFeedbackAfter watched.motor.address watched.previousCount deadline
    let stillMissing ← awaitMissing deadline rest
    ret (if received then stillMissing else watched :: stillMissing)

/-- The rounds of a report. -/
def rounds (deadline : ℕ) : List Watched → ℕ → ControllerProgram RoundsEnd
  | _, 0 => throw .outOfTurns
  | missing, turns + 1 =>
    match missing with
    | [] => ret (.missing [])
    | first :: others => do
      let now ← clock
      if deadline ≤ now then ret (.missing (first :: others)) else
        let refusal ← requestRound deadline (first :: others)
        match refusal with
        | some what => ret (.refused what)
        | none =>
          let now ← clock
          let stillMissing ← awaitMissing (min deadline (now + kBulkFeedbackRetryDelay)) (first :: others)
          rounds deadline stillMissing turns

/-- `capture_current_counts`: the motors whose count has not grown. -/
def recount : List Watched → ControllerProgram (List Watched)
  | [] => ret []
  | watched :: rest => do
    let count ← updateCount watched.motor.address
    let missing ← recount rest
    ret (if count ≤ watched.previousCount then watched :: missing else missing)

end Controller

/-- The transport is disconnected or has counted more errors. -/
def TransportHealth.degraded (before after : TransportHealth) : Bool :=
  !after.connected || before.sendErrors < after.sendErrors || before.receiveErrors < after.receiveErrors

/-- The identifiers of the motors. -/
def missingIds (missing : List Watched) : List UInt16 := missing.map fun watched => watched.motor.motorId

/-- The report after the last round. -/
def finishReport (timeout : ℕ) (watched missing : List Watched) (before after : TransportHealth) :
    FeedbackBatchReport :=
  let received := watched.length - missing.length
  { status :=
      if before.degraded after then .transportError
      else if missing.length = 0 then .ok
      else if received = 0 then .timeout
      else .incomplete
    timeout := timeout
    expectedCount := watched.length
    receivedCount := received
    missingMotorIds := missingIds missing
    error :=
      if before.degraded after then
        if after.lastError = "" then "transport disconnected or reported an I/O error during feedback request"
        else after.lastError
      else "" }

/-- The report after a refused request. -/
def refusedReport (timeout : ℕ) (watched missing : List Watched) (what : String) : FeedbackBatchReport where
  status := .transportError
  timeout := timeout
  expectedCount := watched.length
  receivedCount := watched.length - missing.length
  missingMotorIds := missingIds missing
  error := what

namespace Controller

/-- The transaction of a report.  A round that leaves motors missing takes a millisecond or reaches the deadline. -/
def reportOn (timeout : ℕ) (watched : List Watched) : ControllerProgram FeedbackBatchReport := do
  let before ← look .healthBefore Controller.health
  let now ← clock
  let ends ← rounds (now + timeout * millisecond) watched (timeout + 1)
  match ends with
  | .refused what =>
    let missing ← recount watched
    ret (refusedReport timeout watched missing what)
  | .missing missing =>
    let after ← look .healthAfter Controller.health
    ret (finishReport timeout watched missing before after)

/-- `request_feedback_all_report`, with a timeout in milliseconds. -/
def requestFeedbackAllReport (timeout : ℕ) : ControllerProgram FeedbackBatchReport :=
  if timeout = 0 then throw (.invalidArgument "feedback timeout must be positive")
  else do
    let motors ← sortedMotors
    match motors with
    | [] => ret ⟨.ok, timeout, 0, 0, [], ""⟩
    | motors =>
      let watched ← captureCounts motors
      reportOn timeout watched

end Controller

/-! ## The counts -/

/-- The handle of the motor has counted feedback since the counts were taken. -/
def Counted (watched : Watched) (s : Controller) : Prop :=
  watched.previousCount < s.updateCountAt watched.motor.address

/-- The missing motors are among the watched ones, and the others have counted feedback. -/
def Covers (watched missing : List Watched) (s : Controller) : Prop :=
  missing.Sublist watched ∧ ∀ w ∈ watched, w ∉ missing → Counted w s

variable {adds : Prop} {s s' : Controller} {deadline : ℕ} {watched missing : List Watched}

theorem Counted.onward {w : Watched} (counted : Counted w s) (onward : Onward s s') : Counted w s' :=
  counted.trans_le (Controller.updateCountAt_le onward _)

theorem Covers.onward (covers : Covers watched missing s) (onward : Onward s s') : Covers watched missing s' :=
  ⟨covers.1, fun w member received => (covers.2 w member received).onward onward⟩

theorem covers_nil (s : Controller) : Covers [] [] s := ⟨List.Sublist.refl _, fun _ member => absurd member List.not_mem_nil⟩

theorem covers_self (watched : List Watched) (s : Controller) : Covers watched watched s :=
  ⟨List.Sublist.refl _, fun _ member absent => absurd member absent⟩

/-- One more motor, which has counted feedback or is missing. -/
theorem Covers.cons {w : Watched} {received : Bool} (covers : Covers watched missing s)
    (counted : received = true → Counted w s) :
    Covers (w :: watched) (if received then missing else w :: missing) s := by
  cases received with
  | true =>
    refine ⟨covers.1.cons w, fun other member absent => ?_⟩
    rcases List.mem_cons.mp member with rfl | member
    · exact counted rfl
    · exact covers.2 other member absent
  | false =>
    refine ⟨covers.1.cons_cons w, fun other member absent => ?_⟩
    rcases List.mem_cons.mp member with rfl | member
    · exact absurd List.mem_cons_self absent
    · exact covers.2 other member fun later => absent (List.mem_cons_of_mem _ later)

/-- What covers a covering list covers the whole. -/
theorem Covers.trans {still : List Watched} (first : Covers watched missing s) (second : Covers missing still s) :
    Covers watched still s := by
  refine ⟨second.1.trans first.1, fun w member absent => ?_⟩
  by_cases here : w ∈ missing
  · exact second.2 w here absent
  · exact first.2 w member here

/-! ## The sections of a report -/

/-- The section sends a request for feedback. -/
def ControllerSite.isRequest : ControllerSite → Bool
  | .requestFeedback _ => true
  | _ => false

/-- The section reads the health of the transport. -/
def ControllerSite.isProbe : ControllerSite → Bool
  | .healthBefore => true
  | .healthAfter => true
  | _ => false

/-- Every section of the program moves the controller on and leaves the health of the transport alone; it requests
feedback only where `asks` allows it. -/
def Proceeds {α : Type} (asks : Prop) (p : ControllerProgram α) : Prop :=
  p.Every fun site _ act => site.isProbe = false ∧ (site.isRequest = true → asks) ∧ ∀ i s, Onward s (act i s)

section Proceeds

open Controller

variable {α : Type} {asks : Prop} {p : ControllerProgram α}

theorem Proceeds.movesOn (proceeds : Proceeds asks p) : MovesOn p := proceeds.mono fun _ _ _ holds => holds.2.2

theorem proceeds_look {site : ControllerSite} (other : site.isProbe = false) (silent : site.isRequest = false)
    (f : Controller → α) : Proceeds asks (Controller.look site f) :=
  every_atomic ⟨other, fun request => absurd request (by simp [silent]), fun _ s => Onward.refl s⟩

theorem proceeds_captureCounts {motors : List MotorRef} : Proceeds asks (captureCounts motors) := by
  induction motors with
  | nil => trivial
  | cons motor rest ih => exact every_bind (proceeds_look rfl rfl _) fun _ => every_bind ih fun _ => trivial

theorem proceeds_requestMissing : Proceeds True (requestMissing deadline missing) := by
  induction missing with
  | nil => trivial
  | cons w rest ih =>
    have request : Proceeds True (requestFeedback w.motor) :=
      every_await ⟨rfl, fun _ => trivial, (movesOn_requestFeedback w.motor).1⟩
    exact every_bind (proceeds_look rfl rfl _) fun _ => every_ite trivial (every_bind request fun _ => ih)

theorem proceeds_requestRound : Proceeds True (requestRound deadline missing) := by
  refine every_tryCatch (every_bind proceeds_requestMissing fun _ => trivial) fun error => ?_
  split <;> trivial

theorem proceeds_awaitMissing : Proceeds asks (awaitMissing deadline missing) := by
  induction missing with
  | nil => trivial
  | cons w rest ih =>
    refine every_bind (every_await ⟨rfl, nofun, fun _ s => Onward.refl s⟩) fun _ => every_bind ih fun _ => trivial

theorem proceeds_rounds {turns : ℕ} : Proceeds True (rounds deadline missing turns) := by
  induction turns generalizing missing with
  | zero => trivial
  | succ turns ih =>
    cases missing with
    | nil => trivial
    | cons first others =>
      refine every_bind (proceeds_look rfl rfl _) fun _ => every_ite trivial ?_
      refine every_bind proceeds_requestRound fun refusal => ?_
      cases refusal with
      | some what => trivial
      | none => exact every_bind (proceeds_look rfl rfl _) fun _ => every_bind proceeds_awaitMissing fun _ => ih

theorem proceeds_recount : Proceeds asks (recount watched) := by
  induction watched with
  | nil => trivial
  | cons w rest ih => exact every_bind (proceeds_look rfl rfl _) fun _ => every_bind ih fun _ => trivial

/-- A report moves the controller on. -/
theorem movesOn_reportOn {timeout : ℕ} : MovesOn (reportOn timeout watched) := by
  refine every_bind (movesOn_look _ _) fun _ => every_bind (movesOn_look _ _) fun _ =>
    every_bind proceeds_rounds.movesOn fun ends => ?_
  cases ends with
  | refused what =>
    have recounts : Proceeds False (recount watched) := proceeds_recount
    exact every_bind recounts.movesOn fun _ => trivial
  | missing missing => exact every_bind (movesOn_look _ _) fun _ => trivial

end Proceeds

/-! ## What the rounds leave -/

section Wp

open Controller

variable {s₀ : Controller}

/-- The counts are taken after the call began. -/
theorem wp_captureCounts {motors : List MotorRef} {E : ControllerError → Controller → Prop} (since : Onward s₀ s) :
    (captureCounts motors).wp (Meanwhile adds) (fun watched _ => watched.map Watched.motor = motors ∧
      ∀ w ∈ watched, s₀.updateCountAt w.motor.address ≤ w.previousCount) E s := by
  induction motors generalizing s with
  | nil => exact ⟨rfl, fun _ member => absurd member List.not_mem_nil⟩
  | cons motor rest ih =>
    refine wp_bind.mpr (wp_look fun found meanwhile => wp_bind.mpr ?_)
    have onward := meanwhile.onward
    refine (ih (since.trans onward)).mono ?_ fun _ _ thrown => thrown
    rintro watched t ⟨motors, counts⟩
    refine ⟨congrArg (motor :: ·) motors, fun w member => ?_⟩
    rcases List.mem_cons.mp member with rfl | member
    · exact updateCountAt_le (since.trans onward) _
    · exact counts w member

theorem wp_requestMissing (since : Onward s₀ s) :
    (requestMissing deadline missing).wp (Meanwhile adds) (fun _ s => Onward s₀ s)
      (fun e s => Onward s₀ s ∧ ∃ refusal, e = .transport refusal) s := by
  induction missing generalizing s with
  | nil => exact since
  | cons w rest ih =>
    refine wp_bind.mpr (wp_look fun found meanwhile => ?_)
    have here := since.trans meanwhile.onward
    refine wp_ite.mpr ⟨fun _ => here, fun _ => wp_bind.mpr (wp_send (fun found' meanwhile' => ?_) ?_)⟩
    · exact ih (here.trans meanwhile'.onward)
    · intro found' refusal meanwhile'
      exact ⟨(here.trans meanwhile'.onward).trans (onward_recordSendError refusal), refusal, rfl⟩

/-- Only what is not an `std::exception` leaves a round of requests. -/
theorem wp_requestRound (since : Onward s₀ s) :
    (requestRound deadline missing).wp (Meanwhile adds) (fun _ s => Onward s₀ s)
      (fun e _ => e = .transport .other) s := by
  refine wp_tryCatch.mpr (wp_bind.mpr ((wp_requestMissing since).mono (fun _ _ later => later) ?_))
  rintro e t ⟨later, refusal, rfl⟩
  cases refusal with
  | exception what => exact later
  | other => rfl

/-- A motor that is still missing was awaited until the deadline. -/
theorem wp_awaitMissing {E : ControllerError → Controller → Prop} :
    (awaitMissing deadline missing).wp (Meanwhile adds)
      (fun still s' => Covers missing still s' ∧ Onward s s' ∧ (still ≠ [] → deadline ≤ s'.now)) E s := by
  induction missing generalizing s with
  | nil => exact ⟨covers_nil s, Onward.refl s, fun impossible => absurd rfl impossible⟩
  | cons w rest ih =>
    refine wp_bind.mpr (wp_waitForFeedbackAfter fun found meanwhile isReady => wp_bind.mpr ?_)
    refine ih.mono ?_ fun _ _ thrown => thrown
    rintro still t ⟨covers, later, late⟩
    refine ⟨covers.cons fun received => ?_, meanwhile.onward.trans later, fun nonempty => ?_⟩
    · have counted : w.previousCount < found.updateCountAt w.motor.address := of_decide_eq_true received
      exact Counted.onward counted later
    · by_cases received : w.previousCount < found.updateCountAt w.motor.address
      · rw [decide_eq_true received, if_pos rfl] at nonempty
        exact late nonempty
      · exact (isReady.resolve_left received).trans later.now

/-- The rounds end in time, and what they do not leave missing has counted feedback. -/
theorem wp_rounds {turns : ℕ} (inTime : missing = [] ∨ deadline ≤ s.now + turns * millisecond)
    (covers : Covers watched missing s) :
    (rounds deadline missing (turns + 1)).wp (Meanwhile adds)
      (fun ends s' => ∀ still, ends = .missing still → Covers watched still s') (fun e _ => e = .transport .other) s := by
  induction turns generalizing missing s with
  | zero =>
    cases missing with
    | nil => exact fun still same => RoundsEnd.missing.inj same ▸ covers
    | cons first others =>
      have passed : deadline ≤ s.now := by simpa using inTime
      refine wp_bind.mpr (wp_look fun found meanwhile => wp_ite.mpr ⟨fun _ still same => ?_, fun early => ?_⟩)
      · exact RoundsEnd.missing.inj same ▸ covers.onward meanwhile.onward
      · exact absurd (passed.trans meanwhile.onward.now) early
  | succ turns ih =>
    cases missing with
    | nil => exact fun still same => RoundsEnd.missing.inj same ▸ covers
    | cons first others =>
      have soon : deadline ≤ s.now + (turns + 1) * millisecond := by simpa using inTime
      refine wp_bind.mpr (wp_look fun found meanwhile => wp_ite.mpr ⟨fun _ still same => ?_, fun _ => wp_bind.mpr ?_⟩)
      · exact RoundsEnd.missing.inj same ▸ covers.onward meanwhile.onward
      · refine (wp_requestRound meanwhile.onward).mono (fun refusal t since => ?_) fun _ _ thrown => thrown
        cases refusal with
        | some what => exact fun still impossible => nomatch impossible
        | none =>
          refine wp_bind.mpr (wp_look fun here between => wp_bind.mpr (wp_awaitMissing.mono ?_ fun _ _ thrown => thrown))
          rintro still u ⟨still_covers, last, late⟩
          have later := between.onward
          refine ih ?_ ((covers.onward ((since.trans later).trans last)).trans still_covers)
          refine or_iff_not_imp_left.mpr fun nonempty => ?_
          have awaited := late nonempty
          have started := (since.trans later).now
          have delay : millisecond ≤ kBulkFeedbackRetryDelay := Nat.le_mul_of_pos_left _ (by decide)
          rw [Nat.succ_mul] at soon
          rcases min_le_iff.mp awaited with finished | waited
          · omega
          · omega

theorem wp_recount {E : ControllerError → Controller → Prop} :
    (recount watched).wp (Meanwhile adds) (fun missing s' => Covers watched missing s' ∧ Onward s s') E s := by
  induction watched generalizing s with
  | nil => exact ⟨covers_nil s, Onward.refl s⟩
  | cons w rest ih =>
    refine wp_bind.mpr (wp_look fun found meanwhile => wp_bind.mpr (ih.mono ?_ fun _ _ thrown => thrown))
    rintro missing t ⟨covers, later⟩
    refine ⟨?_, meanwhile.onward.trans later⟩
    have counted : Covers (w :: rest) (if decide (w.previousCount < found.updateCountAt w.motor.address) then missing
        else w :: missing) t := by
      refine covers.cons fun received => ?_
      have more : w.previousCount < found.updateCountAt w.motor.address := of_decide_eq_true received
      exact Counted.onward more later
    by_cases received : w.previousCount < found.updateCountAt w.motor.address
    · simpa [received, Nat.not_le.mpr received] using counted
    · simpa [received, Nat.not_lt.mp received] using counted

/-- What the report of a transaction says of the motors. -/
theorem wp_reportOn {timeout : ℕ} :
    (reportOn timeout watched).wp (Meanwhile adds)
      (fun report s' => report.expectedCount = watched.length ∧ ∃ missing, Covers watched missing s' ∧
        report.missingMotorIds = missingIds missing ∧ report.receivedCount = watched.length - missing.length)
      (fun e _ => e = .transport .other) s := by
  refine wp_bind.mpr (wp_look fun before _ => wp_bind.mpr (wp_look fun begun _ => wp_bind.mpr ?_))
  refine (wp_rounds (.inr le_rfl) (covers_self watched begun)).mono (fun ends t left => ?_) fun _ _ thrown => thrown
  cases ends with
  | refused what =>
    refine wp_bind.mpr (wp_recount.mono ?_ fun _ _ thrown => thrown)
    exact fun missing u ⟨covers, _⟩ => ⟨rfl, missing, covers, rfl, rfl⟩
  | missing missing =>
    exact wp_bind.mpr (wp_look fun after meanwhile =>
      ⟨rfl, missing, (left missing rfl).onward meanwhile.onward, rfl, rfl⟩)

end Wp

/-! ## What a call observes of the transport -/

/-- The refusals of the requests of a call. -/
def refusals (trace : ControllerTrace) : List Refusal :=
  trace.filterMap fun taken => if taken.label.isRequest then taken.input.refusal else none

/-- What a call has read of the transport's health in a section. -/
def probed (site : ControllerSite) (trace : ControllerTrace) : List TransportHealth :=
  (trace.filter fun taken => taken.label = site).map fun taken => taken.found.health

/-- The call has observed a transport error or a disconnect: one of its requests was refused, or the transport was
found degraded after the rounds. -/
def Observed (trace : ControllerTrace) : Prop :=
  refusals trace ≠ [] ∨
    ∃ before ∈ probed .healthBefore trace, ∃ after ∈ probed .healthAfter trace, before.degraded after = true

section Refusals

variable {R : ControllerSite → Controller → Controller → Prop} {trace : ControllerTrace}

theorem refusals_append (first rest : ControllerTrace) : refusals (first ++ rest) = refusals first ++ refusals rest :=
  List.filterMap_append

theorem probed_append (site : ControllerSite) (first rest : ControllerTrace) :
    probed site (first ++ rest) = probed site first ++ probed site rest := by
  rw [probed, List.filter_append, List.map_append]
  rfl

theorem refusals_of_proceeds {α : Type} {p : ControllerProgram α} {r : Except ControllerError α}
    (proceeds : Proceeds False p) (runs : p.Runs R s trace r s') : refusals trace = [] := by
  refine List.filterMap_eq_nil_iff.mpr fun taken member => if_neg fun request => ?_
  exact runs.every (proceeds.mono fun _ _ _ holds => holds.2.1) taken member request

theorem probed_of_proceeds {α : Type} {asks : Prop} {p : ControllerProgram α} {r : Except ControllerError α}
    (proceeds : Proceeds asks p) (runs : p.Runs R s trace r s') {site : ControllerSite} (probe : site.isProbe = true) :
    probed site trace = [] := by
  refine List.map_eq_nil_iff.mpr (List.filter_eq_nil_iff.mpr fun taken member => ?_)
  have other : taken.label.isProbe = false :=
    runs.every (P := fun site => site.isProbe = false) (proceeds.mono fun _ _ _ holds => holds.1) taken member
  rw [decide_eq_true_eq]
  rintro rfl
  rw [probe] at other
  cases other

/-- How a program ends that requests feedback: a refused request is the last one. -/
theorem refusals_requestMissing {r : Except ControllerError Unit}
    (runs : (Controller.requestMissing deadline missing).Runs R s trace r s') :
    r = .ok () ∧ refusals trace = [] ∨ ∃ refusal, r = .error (.transport refusal) ∧ refusals trace = [refusal] := by
  induction missing generalizing s trace with
  | nil =>
    obtain ⟨rfl, rfl, -⟩ := runs
    exact .inl ⟨rfl, rfl⟩
  | cons w rest ih =>
    obtain ⟨i, found, others, -, rfl, asked⟩ := runs_atomic_bind.mp runs
    dsimp only at asked
    split_ifs at asked
    · obtain ⟨rfl, rfl, -⟩ := asked
      exact .inl ⟨rfl, rfl⟩
    · obtain ⟨j, found', others', -, -, rfl, answered⟩ := runs_await_bind.mp asked
      cases refusal : j.refusal with
      | none =>
        simp only [refusal] at answered
        obtain ⟨_, -, sent⟩ | ⟨_, impossible, -⟩ := answered
        · simpa [refusals, ControllerSite.isRequest, refusal] using ih sent
        · cases impossible
      | some what =>
        simp only [refusal] at answered
        obtain ⟨_, impossible, -⟩ | ⟨_, same, rfl, rfl, -⟩ := answered
        · cases impossible
        · obtain rfl := Except.error.inj same
          exact .inr ⟨what, rfl, by simp [refusals, ControllerSite.isRequest, refusal]⟩

theorem refusals_requestRound {r : Except ControllerError (Option String)}
    (runs : (Controller.requestRound deadline missing).Runs R s trace r s') :
    r = .ok none ∧ refusals trace = [] ∨ (∃ what, r = .ok (some what) ∧ refusals trace = [.exception what]) ∨
      r = .error (.transport .other) ∧ refusals trace = [.other] := by
  obtain ⟨e, middle, first, rest, thrown, handled, rfl⟩ | ⟨a, returned, rfl⟩ := runs_tryCatch.mp runs
  · obtain ⟨_, _, _, _, _, ⟨-, impossible, -⟩, -⟩ | ⟨e', asked, same⟩ := runs_bind.mp thrown
    · cases impossible
    · obtain rfl := Except.error.inj same
      obtain ⟨impossible, -⟩ | ⟨refusal, same, only⟩ := refusals_requestMissing asked
      · cases impossible
      · obtain rfl := Except.error.inj same
        cases refusal with
        | exception what =>
          obtain ⟨rfl, rfl, -⟩ := handled
          exact .inr (.inl ⟨what, rfl, by rw [List.append_nil, only]⟩)
        | other =>
          obtain ⟨rfl, rfl, -⟩ := handled
          exact .inr (.inr ⟨rfl, by rw [List.append_nil, only]⟩)
  · obtain ⟨_, _, _, _, asked, ⟨rfl, same, -⟩, rfl⟩ := runs_bind_ok returned
    obtain rfl := Except.ok.inj same
    obtain ⟨-, only⟩ | ⟨_, impossible, -⟩ := refusals_requestMissing asked
    · exact .inl ⟨rfl, by rw [List.append_nil, only]⟩
    · cases impossible

theorem returns_awaitMissing {r : Except ControllerError (List Watched)}
    (runs : (Controller.awaitMissing deadline missing).Runs R s trace r s') : ∃ still, r = .ok still := by
  induction missing generalizing s trace r with
  | nil => exact ⟨[], runs.2.1⟩
  | cons w rest ih =>
    obtain ⟨i, found, more, -, -, rfl, ⟨received, -, later⟩ | ⟨_, impossible, -⟩⟩ := runs_await_bind.mp runs
    · obtain ⟨still, _, _, _, -, ⟨-, answer, -⟩, -⟩ | ⟨e, thrown, rfl⟩ := runs_bind.mp later
      · exact ⟨_, answer⟩
      · obtain ⟨still, impossible⟩ := ih thrown
        cases impossible
    · cases impossible

theorem returns_recount {r : Except ControllerError (List Watched)}
    (runs : (Controller.recount watched).Runs R s trace r s') : ∃ missing, r = .ok missing := by
  induction watched generalizing s trace r with
  | nil => exact ⟨[], runs.2.1⟩
  | cons w rest ih =>
    obtain ⟨i, found, more, -, rfl, later⟩ := runs_atomic_bind.mp runs
    obtain ⟨missing, _, _, _, -, ⟨-, answer, -⟩, -⟩ | ⟨e, thrown, rfl⟩ := runs_bind.mp later
    · exact ⟨_, answer⟩
    · obtain ⟨missing, impossible⟩ := ih thrown
      cases impossible

/-- How the rounds end. -/
theorem refusals_rounds {turns : ℕ} {r : Except ControllerError RoundsEnd}
    (runs : (Controller.rounds deadline missing turns).Runs R s trace r s') :
    (∃ still, r = .ok (.missing still) ∧ refusals trace = []) ∨
      (∃ what, r = .ok (.refused what) ∧ refusals trace = [.exception what]) ∨
      ∃ e, r = .error e ∧ (e = .transport .other → refusals trace = [.other]) := by
  induction turns generalizing missing s trace with
  | zero =>
    obtain ⟨-, rfl, -⟩ := runs
    exact .inr (.inr ⟨_, rfl, nofun⟩)
  | succ turns ih =>
    cases missing with
    | nil =>
      obtain ⟨rfl, rfl, -⟩ := runs
      exact .inl ⟨_, rfl, rfl⟩
    | cons first others =>
      obtain ⟨i, found, rest, -, rfl, later⟩ := runs_atomic_bind.mp runs
      change _ ∨ _ ∨ ∃ e, r = .error e ∧ (e = .transport .other → refusals rest = [.other])
      change (∃ still, r = .ok (.missing still) ∧ refusals rest = []) ∨
        (∃ what, r = .ok (.refused what) ∧ refusals rest = [.exception what]) ∨ _
      dsimp only at later
      split_ifs at later
      · obtain ⟨rfl, rfl, -⟩ := later
        exact .inl ⟨_, rfl, rfl⟩
      · obtain ⟨refusal, middle, asks, more, asked, round, rfl⟩ | ⟨e, asked, rfl⟩ := runs_bind.mp later
        · obtain ⟨same, only⟩ | ⟨what, same, only⟩ | ⟨impossible, -⟩ := refusals_requestRound asked
          · obtain rfl := Except.ok.inj same
            obtain ⟨j, found', rest', -, rfl, awaits⟩ := runs_atomic_bind.mp round
            obtain ⟨still, middle', waits, last, awaited, next, rfl⟩ | ⟨e, awaited, rfl⟩ := runs_bind.mp awaits
            · have quiet := refusals_of_proceeds proceeds_awaitMissing awaited
              have all : refusals (asks ++ ⟨.clock, j, found'⟩ :: (waits ++ last)) = refusals last := by
                rw [refusals_append, only]
                change refusals (waits ++ last) = _
                rw [refusals_append, quiet, List.nil_append]
              rw [all]
              exact ih next
            · obtain ⟨_, impossible⟩ := returns_awaitMissing awaited
              cases impossible
          · obtain rfl := Except.ok.inj same
            obtain ⟨rfl, rfl, -⟩ := round
            exact .inr (.inl ⟨what, rfl, by rw [List.append_nil, only]⟩)
          · cases impossible
        · refine .inr (.inr ⟨e, rfl, fun same => ?_⟩)
          obtain ⟨impossible, -⟩ | ⟨_, impossible, -⟩ | ⟨-, only⟩ := refusals_requestRound asked
          · cases impossible
          · cases impossible
          · exact only

/-- The status of a report that has observed something, or not. -/
structure Concludes (observed : Prop) (report : FeedbackBatchReport) : Prop where
  error : observed → report.status = .transportError
  otherwise : ¬ observed → report.status =
    if report.missingMotorIds.length = 0 then .ok else if report.receivedCount = 0 then .timeout else .incomplete

theorem concludes_finishReport {timeout : ℕ} {before after : TransportHealth} {observed : Prop}
    (is : observed ↔ before.degraded after = true) :
    Concludes observed (finishReport timeout watched missing before after) where
  error seen := if_pos (is.mp seen)
  otherwise unseen := by
    simp only [finishReport, missingIds, List.length_map, if_neg fun degraded => unseen (is.mpr degraded)]

/-- The status of the report of a transaction. -/
theorem concludes_reportOn {timeout : ℕ} {r : Except ControllerError FeedbackBatchReport}
    (runs : (Controller.reportOn timeout watched).Runs R s trace r s') :
    (∀ report, r = .ok report → Concludes (Observed trace) report) ∧
      (r = .error (.transport .other) → refusals trace = [.other]) := by
  obtain ⟨i, before, rest, -, rfl, begun⟩ := runs_atomic_bind.mp runs
  obtain ⟨j, found, rest', -, rfl, asked⟩ := runs_atomic_bind.mp begun
  have same (more : ControllerTrace) :
      refusals (⟨.healthBefore, i, before⟩ :: ⟨.clock, j, found⟩ :: more) = refusals more := rfl
  rw [same]
  obtain ⟨ends, middle, first, last, ran, later, rfl⟩ | ⟨e, ran, rfl⟩ := runs_bind.mp asked
  · obtain ⟨missing, is, none⟩ | ⟨what, is, only⟩ | ⟨_, impossible, -⟩ := refusals_rounds ran
    · obtain rfl := Except.ok.inj is
      obtain ⟨k, after, rest'', -, rfl, rfl, rfl, -⟩ := runs_atomic_bind.mp later
      refine ⟨fun report is => Except.ok.inj is ▸ concludes_finishReport ?_, nofun⟩
      have unprobed (site : ControllerSite) (probe : site.isProbe = true) : probed site first = [] :=
        probed_of_proceeds proceeds_rounds ran probe
      have refusals : refusals (first ++ [⟨.healthAfter, k, after⟩]) = [] := by
        rw [refusals_append, none]
        rfl
      have first_probe : probed .healthBefore (⟨.healthBefore, i, before⟩ :: ⟨.clock, j, found⟩ ::
          (first ++ [⟨.healthAfter, k, after⟩])) = [before.health] := by
        change before.health :: probed .healthBefore (first ++ [⟨.healthAfter, k, after⟩]) = _
        rw [probed_append, unprobed _ rfl]
        rfl
      have last_probe : probed .healthAfter (⟨.healthBefore, i, before⟩ :: ⟨.clock, j, found⟩ ::
          (first ++ [⟨.healthAfter, k, after⟩])) = [after.health] := by
        change probed .healthAfter (first ++ [⟨.healthAfter, k, after⟩]) = _
        rw [probed_append, unprobed _ rfl]
        rfl
      rw [Observed, same, refusals, first_probe, last_probe]
      simp
    · obtain rfl := Except.ok.inj is
      obtain ⟨missing, middle', counts, last', counted, ⟨rfl, rfl, -⟩, rfl⟩ | ⟨e, counted, rfl⟩ :=
        runs_bind.mp later
      · refine ⟨fun report is => Except.ok.inj is ▸ ⟨fun _ => rfl, fun unseen => absurd (.inl ?_) unseen⟩, nofun⟩
        rw [same, refusals_append, only]
        exact List.cons_ne_nil _ _
      · obtain ⟨_, impossible⟩ := returns_recount counted
        cases impossible
    · cases impossible
  · refine ⟨nofun, fun is => ?_⟩
    obtain ⟨_, impossible, -⟩ | ⟨_, impossible, -⟩ | ⟨_, same', only⟩ := refusals_rounds ran
    · cases impossible
    · cases impossible
    · obtain rfl := Except.error.inj same'
      exact only (Except.error.inj is)

end Refusals

/-! ## Exact reports -/

/-- A report of the motors of the table that a call found, at the end of the call. -/
structure Exact (found s' : Controller) (observed : Prop) (report : FeedbackBatchReport) : Prop where
  expected : report.expectedCount = found.motors.entries.length
  listed : report.missingMotorIds.Sublist (found.motors.entries.map MotorRef.motorId)
  counts : report.receivedCount + report.missingMotorIds.length = report.expectedCount
  /-- A motor that is not listed has counted feedback since the table was found. -/
  received : ∀ motor ∈ found.motors.entries, motor.motorId ∉ report.missingMotorIds →
    ∃ h, found.handles[motor.address]? = some h ∧ h.motorId = motor.motorId ∧
      FeedbackCounted motor.address h found.accepted s'.accepted
  ok : report.status = .ok ↔ report.missingMotorIds = [] ∧ ¬ observed
  transportError : report.status = .transportError ↔ observed
  timeout : report.status = .timeout ↔ ¬ observed ∧ report.receivedCount = 0 ∧ 0 < report.expectedCount
  incomplete : report.status = .incomplete ↔
    ¬ observed ∧ 0 < report.receivedCount ∧ report.receivedCount < report.expectedCount

theorem Exact.of_concludes {found : Controller} {observed : Prop} {report : FeedbackBatchReport}
    (expected : report.expectedCount = found.motors.entries.length)
    (listed : report.missingMotorIds.Sublist (found.motors.entries.map MotorRef.motorId))
    (counts : report.receivedCount + report.missingMotorIds.length = report.expectedCount)
    (received : ∀ motor ∈ found.motors.entries, motor.motorId ∉ report.missingMotorIds →
      ∃ h, found.handles[motor.address]? = some h ∧ h.motorId = motor.motorId ∧
        FeedbackCounted motor.address h found.accepted s'.accepted)
    (concludes : Concludes observed report) : Exact found s' observed report := by
  by_cases seen : observed
  · exact ⟨expected, listed, counts, received, by simp [concludes.error seen, seen],
      by simp [concludes.error seen, seen], by simp [concludes.error seen, seen], by simp [concludes.error seen, seen]⟩
  · have status := concludes.otherwise seen
    refine ⟨expected, listed, counts, received, ?_, ?_, ?_, ?_⟩
    · rw [status, ← List.length_eq_zero_iff]
      split_ifs with all nothing <;> simp [all, seen]
    · rw [status]
      split_ifs <;> simp [seen]
    · rw [status]
      split_ifs <;> simp [seen] <;> omega
    · rw [status]
      split_ifs <;> simp [seen] <;> omega

/-- A motor of the table that a report does not list has counted feedback. -/
theorem received_of_covers {found : Controller} (valid : found.TableValid) (onward : Onward found s')
    (motors : watched.map Watched.motor = found.motors.entries)
    (since : ∀ w ∈ watched, found.updateCountAt w.motor.address ≤ w.previousCount)
    (covers : Covers watched missing s') :
    ∀ motor ∈ found.motors.entries, motor.motorId ∉ missingIds missing →
      ∃ h, found.handles[motor.address]? = some h ∧ h.motorId = motor.motorId ∧
        FeedbackCounted motor.address h found.accepted s'.accepted := by
  intro motor member unlisted
  obtain ⟨h, present, same⟩ := valid motor member
  obtain ⟨w, watches, rfl⟩ := List.mem_map.mp (motors.symm ▸ member)
  have counted : Counted w s' := covers.2 w watches fun lost => unlisted (List.mem_map_of_mem lost)
  exact ⟨h, present, same, Controller.counted_of_updateCountAt onward ((since w watches).trans_lt counted) present⟩

/-- What the call observes before the transaction is nothing. -/
theorem observed_append {first rest : ControllerTrace} (silent : refusals first = [])
    (unprobed : ∀ site : ControllerSite, site.isProbe = true → probed site first = []) :
    Observed (first ++ rest) ↔ Observed rest := by
  simp only [Observed, refusals_append, probed_append, silent, unprobed .healthBefore rfl, unprobed .healthAfter rfl,
    List.nil_append]

/-- A call of `request_feedback_all_report` rejects a timeout that is not positive; otherwise it returns an exact
report, or passes on what a send threw that is not an `std::exception`. -/
theorem feedback_report_exact (timeout : ℕ) (s s' : Controller) (trace : ControllerTrace)
    (r : Except ControllerError FeedbackBatchReport) (valid : s.TableValid)
    (runs : (Controller.requestFeedbackAllReport timeout).Runs (Meanwhile True) s trace r s') :
    timeout = 0 ∧ r = .error (.invalidArgument "feedback timeout must be positive") ∧ s' = s ∨
      0 < timeout ∧ ∃ i found rest, trace = ⟨.sorted, i, found⟩ :: rest ∧
        ((∃ report, r = .ok report ∧ Exact found s' (Observed trace) report) ∨
          r = .error (.transport .other) ∧ refusals trace = [.other]) := by
  unfold Controller.requestFeedbackAllReport at runs
  split_ifs at runs with zero
  · exact .inl ⟨zero, runs.2⟩
  · obtain ⟨i, found, rest, between, rfl, listed⟩ := runs_atomic_bind.mp runs
    refine .inr ⟨Nat.pos_of_ne_zero zero, i, found, rest, rfl, ?_⟩
    have sorted : Observed (⟨.sorted, i, found⟩ :: rest) ↔ Observed rest := Iff.rfl
    have same : refusals (⟨.sorted, i, found⟩ :: rest) = refusals rest := rfl
    have here := between.tableValid valid
    cases table : found.motors.entries with
    | nil =>
      simp only [table] at listed
      obtain ⟨rfl, rfl, rfl⟩ := listed
      have unseen : ¬ Observed [] := by simp [Observed, refusals, probed]
      refine .inl ⟨_, rfl, .of_concludes (by rw [table]; rfl) (List.nil_sublist _) rfl ?_
        ⟨fun seen => absurd (sorted.mp seen) unseen, fun _ => rfl⟩⟩
      rw [table]
      exact fun _ member => absurd member List.not_mem_nil
    | cons motor others =>
      simp only [table] at listed
      have takes : (Controller.captureCounts (motor :: others)).wp (Meanwhile True) (fun watched _ =>
          watched.map Watched.motor = motor :: others ∧
            ∀ w ∈ watched, found.updateCountAt w.motor.address ≤ w.previousCount) (fun _ _ => False) found :=
        wp_captureCounts (Onward.refl found)
      have quiet : Proceeds False (Controller.captureCounts (motor :: others)) := proceeds_captureCounts
      have onward : Onward found s' :=
        (listed.ordered Onward.refl (fun _ _ _ => Onward.trans) (fun _ _ _ between => between.onward)
          (every_bind quiet.movesOn fun _ => movesOn_reportOn)).1
      obtain ⟨watched, middle, captures, later, captured, reports, rfl⟩ | ⟨e, captured, rfl⟩ := runs_bind.mp listed
      · obtain ⟨motors, since⟩ := (wp_iff.mp takes _ _ _ captured).1 watched rfl
        rw [← table] at motors
        have silent : refusals captures = [] := refusals_of_proceeds quiet captured
        have unprobed (site : ControllerSite) (probe : site.isProbe = true) : probed site captures = [] :=
          probed_of_proceeds quiet captured probe
        have whole : Observed (⟨.sorted, i, found⟩ :: (captures ++ later)) ↔ Observed later :=
          sorted.trans (observed_append silent unprobed)
        obtain ⟨concludes, passes⟩ := concludes_reportOn reports
        cases r with
        | ok report =>
          obtain ⟨expected, missing, covers, lists, received⟩ := (wp_iff.mp wp_reportOn _ _ _ reports).1 report rfl
          refine .inl ⟨report, rfl, ?_⟩
          rw [propext whole]
          have length : watched.length = found.motors.entries.length := by rw [← motors, List.length_map]
          have fewer := covers.1.length_le
          refine .of_concludes (expected.trans length) ?_ ?_ ?_ (concludes report rfl)
          · rw [lists, ← motors, List.map_map]
            exact covers.1.map _
          · rw [lists, received, expected, missingIds, List.length_map]
            omega
          · rw [lists]
            exact received_of_covers here onward motors since covers
        | error e =>
          obtain rfl := (wp_iff.mp wp_reportOn _ _ _ reports).2 e rfl
          refine .inr ⟨rfl, ?_⟩
          rw [same, refusals_append, silent, passes rfl]
          rfl
      · exact ((wp_iff.mp takes _ _ _ captured).2 e rfl).elim

/-! ## Runs -/

/-- Motor 1 has answered. -/
def firstAnswered : Controller := twoMotors.receive (sensorFrame 0x11 1)

/-- Both motors have answered. -/
def bothAnswered : Controller := firstAnswered.receive (sensorFrame 0x12 2)

/-- The sections of a call that both motors answer. -/
def answeredTrace : ControllerTrace :=
  let quiet : ControllerInput := ⟨none, []⟩
  [⟨.sorted, quiet, twoMotors⟩, ⟨.updateCount 0, quiet, twoMotors⟩, ⟨.updateCount 1, quiet, twoMotors⟩,
    ⟨.healthBefore, quiet, twoMotors⟩, ⟨.clock, quiet, twoMotors⟩, ⟨.clock, quiet, twoMotors⟩,
    ⟨.clock, quiet, twoMotors⟩, ⟨.requestFeedback 1, quiet, twoMotors⟩, ⟨.clock, quiet, twoMotors⟩,
    ⟨.requestFeedback 2, quiet, twoMotors⟩, ⟨.clock, quiet, twoMotors⟩, ⟨.awaitFeedback 0, quiet, firstAnswered⟩,
    ⟨.awaitFeedback 1, quiet, bothAnswered⟩, ⟨.healthAfter, quiet, bothAnswered⟩]

theorem runs_answered : (Controller.requestFeedbackAllReport 10).Runs (Meanwhile True) twoMotors answeredTrace
    (.ok ⟨.ok, 10, 2, 2, [], ""⟩) bothAnswered := by
  let quiet : ControllerInput := ⟨none, []⟩
  refine ⟨quiet, twoMotors, _, .refl, rfl, rfl, quiet, twoMotors, _, .refl, rfl, rfl, quiet, twoMotors, _, .refl, rfl,
    rfl, quiet, twoMotors, _, .refl, rfl, rfl, quiet, twoMotors, _, .refl, rfl, rfl, quiet, twoMotors, _, .refl, rfl,
    rfl, quiet, twoMotors, _, .refl, rfl, rfl, quiet, twoMotors, _, .refl, rfl, rfl, quiet, twoMotors, _, .refl, rfl,
    rfl, quiet, twoMotors, _, .refl, rfl, rfl, quiet, twoMotors, _, .refl, rfl, rfl, quiet, firstAnswered, _, ?_, ?_,
    rfl, quiet, bothAnswered, _, ?_, ?_, rfl, quiet, bothAnswered, _, .refl, rfl, rfl, rfl, rfl, rfl⟩
  · exact .single (.receive _ _)
  · decide +kernel
  · exact .single (.receive _ _)
  · decide +kernel

theorem tableValid_twoMotors : twoMotors.TableValid := by
  intro motor member
  have listed : motor ∈ [⟨1, 0⟩, ⟨2, 1⟩] := member
  simp only [List.mem_cons, List.not_mem_nil, or_false] at listed
  rcases listed with rfl | rfl
  · exact ⟨_, rfl, rfl⟩
  · exact ⟨_, rfl, rfl⟩

theorem feedback_report_exact_once :
    Exact twoMotors bothAnswered (Observed answeredTrace) ⟨.ok, 10, 2, 2, [], ""⟩ := by
  obtain ⟨zero, -⟩ | ⟨-, i, found, rest, split, ⟨report, same, exact⟩ | ⟨impossible, -⟩⟩ :=
    feedback_report_exact 10 twoMotors bothAnswered answeredTrace _ tableValid_twoMotors runs_answered
  · cases zero
  · obtain rfl := Except.ok.inj same
    obtain ⟨first, -⟩ := List.cons.inj split
    rw [Taken.mk.injEq] at first
    exact first.2.2 ▸ exact
  · cases impossible

/-- A timeout of zero is rejected, and what a send throws that is not an `std::exception` leaves the call. -/
theorem feedback_report_throws :
    (∃ trace s', (Controller.requestFeedbackAllReport 0).Runs (Meanwhile True) twoMotors trace
      (.error (.invalidArgument "feedback timeout must be positive")) s') ∧
    ∃ trace s', (Controller.requestFeedbackAllReport 10).Runs (Meanwhile True) twoMotors trace
      (.error (.transport .other)) s' := by
  let quiet : ControllerInput := ⟨none, []⟩
  let refused : ControllerInput := ⟨some .other, []⟩
  exact ⟨⟨[], twoMotors, rfl, rfl, rfl⟩, _, _,
    quiet, twoMotors, _, .refl, rfl, rfl, quiet, twoMotors, _, .refl, rfl, rfl, quiet, twoMotors, _, .refl, rfl, rfl,
    quiet, twoMotors, _, .refl, rfl, rfl, quiet, twoMotors, _, .refl, rfl, rfl, quiet, twoMotors, _, .refl, rfl, rfl,
    quiet, twoMotors, _, .refl, rfl, rfl, refused, twoMotors, _, .refl, rfl, rfl, rfl, rfl, rfl⟩

end MotorDrive.Damiao
