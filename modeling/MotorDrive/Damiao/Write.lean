import MotorDrive.Damiao.Traffic

/-!
# Register writes

What `write_register_with_retry` reports.  A normal return and a reported mismatch both come from the last
acknowledgement of the register, which was processed during the call (`Acked`, `Progress`).  The call compares
the clock with its deadline before each frame, and does not go on after a comparison that is late (`Stops`).
-/

namespace MotorDrive.Damiao

open Proc History

variable {rid : UInt8} {data : Word} {previous deadline call turns : ℕ}

/-! ## Acknowledgements -/

/-- An acknowledgement of the register with the value was processed between two states. -/
def AckProcessed (rid : UInt8) (value : Word) (s s' : Line) : Prop :=
  ∃ k a, Added s.processed s'.processed k ∧ s'.answers[k]? = some a ∧ a.frame.acknowledges = some (rid, value)

/-- More acknowledgements of the register were counted than before, and the last has the value. -/
def Acked (rid : UInt8) (previous : ℕ) (value : Word) (s : Line) : Prop :=
  previous < s.handle.registerAckUpdateCounts rid ∧ ∃ time, s.handle.registerAcks rid = some (value, time)

/-- What became of the acknowledgements of a register between two states. -/
structure Progress (rid : UInt8) (s s' : Line) : Prop where
  later : Later s s'
  le : s.handle.registerAckUpdateCounts rid ≤ s'.handle.registerAckUpdateCounts rid
  processed : ∀ value, Acked rid (s.handle.registerAckUpdateCounts rid) value s' → AckProcessed rid value s s'
  same : s'.handle.registerAckUpdateCounts rid = s.handle.registerAckUpdateCounts rid →
    s'.handle.registerAcks rid = s.handle.registerAcks rid

theorem AckProcessed.extend {value : Word} {s t u : Line} (first : AckProcessed rid value s t)
    (before : Later s t) (after : Later t u) : AckProcessed rid value s u := by
  obtain ⟨k, a, added, found, acknowledges⟩ := first
  exact ⟨k, a, (added_trans before.processed after.processed).mpr (.inl added),
    getElem?_grows after.answers found, acknowledges⟩

theorem AckProcessed.since {value : Word} {s t u : Line} (second : AckProcessed rid value t u)
    (before : Later s t) (after : Later t u) : AckProcessed rid value s u := by
  obtain ⟨k, a, added, found, acknowledges⟩ := second
  exact ⟨k, a, (added_trans before.processed after.processed).mpr (.inr added), found, acknowledges⟩

theorem Progress.trans {s t u : Line} (first : Progress rid s t) (second : Progress rid t u) :
    Progress rid s u where
  later := first.later.trans second.later
  le := first.le.trans second.le
  processed value acked := by
    by_cases newer : t.handle.registerAckUpdateCounts rid < u.handle.registerAckUpdateCounts rid
    · exact (second.processed value ⟨newer, acked.2⟩).since first.later second.later
    · have count : u.handle.registerAckUpdateCounts rid = t.handle.registerAckUpdateCounts rid :=
        le_antisymm (not_lt.mp newer) second.le
      obtain ⟨more, time, found⟩ := acked
      exact (first.processed value ⟨count ▸ more, time, second.same count ▸ found⟩).extend first.later second.later
  same count := by
    have middle : t.handle.registerAckUpdateCounts rid = s.handle.registerAckUpdateCounts rid :=
      le_antisymm (second.le.trans count.le) first.le
    exact (second.same (count.trans middle.symm)).trans (first.same middle)

/-- A step that leaves the handle's acknowledgements alone. -/
theorem Progress.of_same {s s' : Line} (later : Later s s')
    (counts : s'.handle.registerAckUpdateCounts = s.handle.registerAckUpdateCounts)
    (acks : s'.handle.registerAcks = s.handle.registerAcks) : Progress rid s s' where
  later := later
  le := by rw [counts]
  processed value acked := absurd acked.1 (by rw [counts]; exact lt_irrefl _)
  same _ := by rw [acks]

theorem Progress.refl (s : Line) : Progress rid s s := .of_same (Later.refl s) rfl rfl

theorem progress_put (s : Line) (frame : CanFrame) (c : ℕ) : Progress rid s (s.put frame c) :=
  .of_same (Line.later_put frame c) rfl rfl

/-- A processed acknowledgement of the register is counted and is the last one. -/
theorem progress_process {s : Line} {h : MotorHandle} {k : ℕ} {a : Answer} (answered : s.answers[k]? = some a)
    (counts : h.registerAckUpdateCounts = s.handle.registerAckUpdateCounts)
    (acks : h.registerAcks = s.handle.registerAcks)
    (later : Later s { s with handle := h.processFeedbackFrame a.frame s.now, processed := s.processed ++ [k] }) :
    Progress rid s { s with handle := h.processFeedbackFrame a.frame s.now, processed := s.processed ++ [k] } := by
  cases acknowledged : a.frame.acknowledges with
  | none =>
    refine .of_same later ?_ ?_
    · exact (MotorHandle.registerAckUpdateCounts_processFeedbackFrame.trans (by rw [acknowledged])).trans counts
    · exact (MotorHandle.registerAcks_processFeedbackFrame.trans (by rw [acknowledged])).trans acks
  | some pair =>
    obtain ⟨rid', value'⟩ := pair
    have counted : (h.processFeedbackFrame a.frame s.now).registerAckUpdateCounts =
        Function.update s.handle.registerAckUpdateCounts rid' (s.handle.registerAckUpdateCounts rid' + 1) := by
      rw [MotorHandle.registerAckUpdateCounts_processFeedbackFrame, acknowledged, counts]
    have stored : (h.processFeedbackFrame a.frame s.now).registerAcks =
        Function.update s.handle.registerAcks rid' (some (value', s.now)) := by
      rw [MotorHandle.registerAcks_processFeedbackFrame, acknowledged, acks]
    by_cases here : rid = rid'
    · subst here
      refine ⟨later, ?_, ?_, ?_⟩
      · rw [counted, Function.update_self]
        exact Nat.le_succ _
      · rintro value ⟨-, time, found⟩
        rw [stored, Function.update_self, Option.some.injEq, Prod.mk.injEq] at found
        exact ⟨k, a, added_append.mpr (List.mem_singleton_self k), answered, found.1 ▸ acknowledged⟩
      · intro same
        rw [counted, Function.update_self] at same
        omega
    · refine ⟨later, ?_, ?_, fun _ => ?_⟩
      · rw [counted, Function.update_of_ne here]
      · rintro value ⟨more, -⟩
        rw [counted, Function.update_of_ne here] at more
        exact absurd more (lt_irrefl _)
      · rw [stored, Function.update_of_ne here]

theorem progress_moves {s s' : Line} (moves : Line.Moves call s s') : Progress rid s s' := by
  cases moves with
  | deliver k a answered =>
    have later := s.later_deliver k a.frame
    obtain ⟨h, -, acks, counts, -, is⟩ | ⟨h, -, acks, counts, -, is⟩ := s.deliver_cases k a.frame
    · rw [is] at later ⊢
      exact progress_process answered counts acks later
    · rw [is] at later ⊢
      exact .of_same later counts acks
  | elapse d => exact .of_same (Line.Moves.elapse s d : Line.Moves call s _).later rfl rfl
  | request frame other foreign => exact progress_put s frame other
  | read rid reply request sent reads replies => exact .of_same (Line.later_answer _) rfl rfl
  | write rid data kept acknowledged ack request sent writes acknowledges =>
    exact .of_same ((Line.later_setRegister rid kept).trans (Line.later_answer _)) rfl rfl
  | change rid value other => exact .of_same (Line.later_setRegister rid value) rfl rfl
  | report frame noReply noAck => exact .of_same (Line.later_answer _) rfl rfl

theorem progress_others {site : Site} {s found : Line} (others : Others call site s found) :
    Progress rid s found :=
  others.keeps (fun _ _ move before => before.trans (progress_moves move)) (Progress.refl s)

/-! ## What a write ends with -/

/-- What holds when the wait for an acknowledgement fails. -/
def WaitFails (rid : UInt8) (data : Word) (previous deadline : ℕ) : Failure → Line → Prop
  | .ackMismatched, s => ∃ value, value ≠ data ∧ Acked rid previous value s
  | .ackTimedOut, s => deadline ≤ s.now
  | _, _ => False

/-- What holds when a write fails. -/
def WriteFails (rid : UInt8) (data : Word) (previous deadline : ℕ) (e : Failure) (s : Line) : Prop :=
  WaitFails rid data previous deadline e s ∨ ∃ what, e = .transport what

theorem ackSeen_eq_some {seen : Bool} {s : Line} (sees : ackSeen rid data previous s = some seen) :
    ∃ value, Acked rid previous value s ∧ seen = decide (value = data) := by
  unfold ackSeen at sees
  split_ifs at sees with more
  obtain ⟨⟨value, time⟩, found, same⟩ := Option.map_eq_some_iff.mp sees
  exact ⟨value, ⟨more, time, found⟩, same.symm⟩

/-- A turn of the wait ends it, or sleeps before the next one. -/
theorem wp_pollWriteAck_succ {s : Line} (next : ∀ now woken, s.now ≤ now → now < deadline →
    now + millisecond ≤ woken.now → (pollWriteAck rid data previous deadline turns).wp (Others call)
      (fun _ => Acked rid previous data) (WaitFails rid data previous deadline) woken) :
    (pollWriteAck rid data previous deadline (turns + 1)).wp (Others call) (fun _ => Acked rid previous data)
      (WaitFails rid data previous deadline) s := by
  rw [pollWriteAck, bind_eq, wp_bind, wp_look]
  intro found between
  cases sees : ackSeen rid data previous found with
  | some seen =>
    obtain ⟨value, acked, rfl⟩ := ackSeen_eq_some sees
    by_cases same : value = data
    · rw [decide_eq_true same]
      exact same ▸ acked
    · rw [decide_eq_false same]
      exact ⟨value, same, acked⟩
  | none =>
    refine wp_bind.mpr (wp_look.mpr fun read after => wp_ite.mpr ⟨fun passed => passed, fun early => ?_⟩)
    refine wp_bind.mpr (wp_sleepFor.mpr fun woken _ slept => ?_)
    exact next read.now woken (between.later.now.trans after.later.now) (not_le.mp early) slept

/-- The turns of the wait are enough for it to see its deadline pass. -/
theorem wp_pollWriteAck {s : Line} (enough : deadline ≤ s.now + turns * millisecond) :
    (pollWriteAck rid data previous deadline (turns + 1)).wp (Others call) (fun _ => Acked rid previous data)
      (WaitFails rid data previous deadline) s := by
  induction turns generalizing s with
  | zero =>
    refine wp_pollWriteAck_succ fun now woken after early slept => ?_
    omega
  | succ turns ih =>
    refine wp_pollWriteAck_succ fun now woken after early slept => ih ?_
    rw [Nat.succ_mul] at enough
    omega

theorem wp_waitForWriteAck {timeout : ℕ} {s : Line} :
    (waitForWriteAck rid data previous timeout).wp (Others call) (fun _ => Acked rid previous data)
      (fun e s => ∃ deadline, WaitFails rid data previous deadline e s) s := by
  refine wp_bind.mpr (wp_look.mpr fun found _ => ?_)
  exact (wp_pollWriteAck le_rfl).mono (fun _ _ acked => acked) fun _ _ fails => ⟨_, fails⟩

theorem mentions_ackMismatched : Failure.ackMismatched.mentions "mismatched" = true := by decide +kernel

theorem mentions_ackTimedOut : ¬ Failure.ackTimedOut.mentions "mismatched" = true := by decide +kernel

/-- A turn of the retry loop ends with the write acknowledged, before its deadline, or with a failure. -/
theorem wp_attemptWrite {s : Line} : (attemptWrite rid data previous deadline call).wp (Others call)
    (fun acknowledged s => if acknowledged then Acked rid previous data s else s.now < deadline)
    (WriteFails rid data previous deadline) s := by
  refine wp_bind.mpr (wp_beforeDeadline.mpr fun found _ => ⟨fun _ => ?_, fun passed => .inl passed⟩)
  refine wp_bind.mpr (wp_sendRaw.mpr fun found _ => ⟨?_, fun what => .inr ⟨what, rfl⟩⟩)
  refine wp_bind.mpr (wp_beforeDeadline.mpr fun found _ => ⟨fun _ => ?_, fun passed => .inl passed⟩)
  refine wp_bind.mpr (wp_caught.mpr (wp_waitForWriteAck.mono (fun _ _ acked => acked) ?_))
  rintro e s ⟨waited, fails⟩
  cases e with
  | ackMismatched =>
    dsimp only
    rw [if_pos mentions_ackMismatched]
    exact .inl fails
  | ackTimedOut =>
    dsimp only
    rw [if_neg mentions_ackTimedOut]
    exact wp_bind.mpr (wp_beforeDeadline.mpr fun found _ => ⟨fun early => early, fun passed => .inl passed⟩)
  | _ => cases fails

theorem wp_retryWrite {s : Line} : (retryWrite rid data previous deadline call turns).wp (Others call)
    (fun _ => Acked rid previous data)
    (fun e s => WriteFails rid data previous deadline e s ∨ e = .outOfTurns) s := by
  induction turns generalizing s with
  | zero => exact .inr rfl
  | succ turns ih =>
    refine wp_bind.mpr (wp_attemptWrite.mono (fun acknowledged s holds => ?_) fun e s fails => .inl fails)
    cases acknowledged with
    | true => exact holds
    | false => exact ih

/-! ## When a write stops -/

/-- The sections of a call, in order. -/
abbrev Trace : Type := List (Taken Line (Option String) Site)

/-- A comparison with the deadline that is late is the last section, and the call times out. -/
def LastWhenLate {α : Type} (deadline : ℕ) (trace : Trace) (r : Except Failure α) : Prop :=
  ∀ before taken after, trace = before ++ taken :: after → taken.label = .deadline →
    deadline ≤ taken.found.now → after = [] ∧ r = .error .ackTimedOut

/-- In every run of the program, a comparison with the deadline that is late is the last section. -/
def Stops {α : Type} (deadline : ℕ) (p : Program α) : Prop :=
  ∀ (R : Site → Line → Line → Prop) s trace r s', p.Runs R s trace r s' → LastWhenLate deadline trace r

section Stops

variable {α β : Type} {p : Program α}

theorem stops_of_quiet (quiet : p.Every fun site _ _ => site ≠ .deadline) : Stops deadline p := by
  rintro R s trace r s' runs before taken after rfl compares
  exact absurd compares (runs.every quiet taken (List.mem_append_right _ List.mem_cons_self))

theorem stops_beforeDeadline : Stops deadline (beforeDeadline deadline) := by
  intro R s trace r s' runs before taken after split _ late
  obtain ⟨i, found, -, -, rfl, answer, -⟩ := runs_await.mp runs
  rcases List.append_eq_singleton_iff.mp split.symm with ⟨-, is⟩ | ⟨-, impossible⟩
  · obtain ⟨rfl, rfl⟩ := List.cons.inj is
    exact ⟨rfl, answer.trans (if_pos late)⟩
  · cases impossible

theorem Stops.bind {f : α → Program β} (first : Stops deadline p) (rest : ∀ a, Stops deadline (f a)) :
    Stops deadline (p.bind f) := by
  intro R s trace r s' runs before taken after split compares late
  obtain ⟨a, middle, t₁, t₂, ran, later, rfl⟩ | ⟨e, ran, rfl⟩ := runs_bind.mp runs
  · rcases List.append_eq_append_iff.mp split with ⟨more, -, rest'⟩ | ⟨more, rfl, rest'⟩
    · exact rest a R middle t₂ r s' later more taken after rest' compares late
    · cases more with
      | nil => exact rest a R middle t₂ r s' later [] taken after rest'.symm compares late
      | cons taken' more =>
        obtain ⟨rfl, rfl⟩ := List.cons.inj rest'
        obtain ⟨-, impossible⟩ := first R s _ _ middle ran before taken more rfl compares late
        cases impossible
  · obtain ⟨ends, threw⟩ := first R s trace (.error e) s' ran before taken after split compares late
    exact ⟨ends, by rw [Except.error.inj threw]⟩

end Stops

theorem quiet_look {α : Type} {site : Site} (f : Line → α) (other : site ≠ .deadline) :
    (look site f).Every fun site _ _ => site ≠ .deadline :=
  every_atomic other

theorem quiet_pollWriteAck :
    (pollWriteAck rid data previous deadline turns).Every fun site _ _ => site ≠ .deadline := by
  induction turns with
  | zero => trivial
  | succ turns ih =>
    refine every_bind (quiet_look _ nofun) fun seen => ?_
    match seen with
    | some true => trivial
    | some false => trivial
    | none => exact every_bind (quiet_look _ nofun) fun now => every_ite trivial (every_bind (every_await nofun) fun _ => ih)

theorem stops_attemptWrite : Stops deadline (attemptWrite rid data previous deadline call) := by
  refine Stops.bind stops_beforeDeadline fun _ => Stops.bind (stops_of_quiet (every_await nofun)) fun _ =>
    Stops.bind stops_beforeDeadline fun now => Stops.bind (stops_of_quiet ?_) fun error => ?_
  · exact every_tryCatch (every_bind (every_bind (quiet_look _ nofun) fun _ => quiet_pollWriteAck) fun _ => trivial)
      fun _ => trivial
  · match error with
    | none => exact stops_of_quiet trivial
    | some error =>
      dsimp only
      split_ifs
      · exact stops_of_quiet trivial
      · exact Stops.bind stops_beforeDeadline fun _ => stops_of_quiet trivial

theorem stops_retryWrite : Stops deadline (retryWrite rid data previous deadline call turns) := by
  induction turns with
  | zero => exact stops_of_quiet trivial
  | succ turns ih =>
    refine Stops.bind stops_attemptWrite fun acknowledged => ?_
    cases acknowledged with
    | true => exact stops_of_quiet trivial
    | false => exact ih

theorem within_pollWriteAck : Within (3 * turns) (pollWriteAck rid data previous deadline turns) := by
  induction turns with
  | zero => exact within_throw _ _
  | succ turns ih =>
    rw [show 3 * (turns + 1) = 1 + (1 + (1 + 3 * turns)) by omega]
    refine (within_atomic _ _).bind fun seen => ?_
    match seen with
    | some true => exact within_ret _ _
    | some false => exact within_throw _ _
    | none => exact (within_atomic _ _).bind fun now => .ite (within_throw _ _) ((within_await _ _ _).bind fun _ => ih)

/-- A turn of the retry loop has a bounded number of sections: its wait has at most eleven turns. -/
theorem within_attemptWrite : Within 38 (attemptWrite rid data previous deadline call) := by
  refine (within_await _ _ _).bind (n := 37) fun _ => (within_await _ _ _).bind (n := 36) fun _ =>
    (within_await _ _ _).bind (n := 35) fun now => Within.bind (m := 34) (n := 1) ?_ fun error => ?_
  · refine (Within.tryCatch (n := 0) (Within.bind (n := 0) (((within_atomic _ _).bind (n := 33) fun _ => ?_)) fun _ =>
      within_ret _ _) fun _ => within_ret _ _)
    refine within_pollWriteAck.mono ?_
    have := min_le_left kRegisterWriteRetryInterval ((deadline - now) / millisecond)
    unfold kRegisterWriteRetryInterval at this ⊢
    omega
  · match error with
    | none => exact within_ret _ _
    | some error => exact .ite (within_throw _ _) ((within_await _ _ _).bind (n := 0) fun _ => within_ret _ _)

/-- When a call that began some turns ago stops. -/
structure StopsBy (deadline turns : ℕ) (trace : Trace) (r : Except Failure Unit) : Prop where
  /-- The call does not go on after a late comparison with its deadline. -/
  last : LastWhenLate deadline trace r
  /-- Once the deadline has passed, the call ends after a bounded number of sections. -/
  soon : ∀ before taken after, trace = before ++ taken :: after → deadline ≤ taken.found.now →
    after.length < 38 ∧ r ≠ .error .outOfTurns
  /-- A call that has not ended after its turns has found only times before its deadline. -/
  unfinished : r = .error .outOfTurns → turns ≤ trace.length ∧ ∀ taken ∈ trace, taken.found.now < deadline

theorem StopsBy.of_attempt {trace : Trace} {r : Except Failure Unit} (last : LastWhenLate deadline trace r)
    (bounded : trace.length ≤ 38) (ended : r ≠ .error .outOfTurns) : StopsBy deadline turns trace r where
  last := last
  soon before taken after split _ := by
    rw [split, List.length_append, List.length_cons] at bounded
    exact ⟨by omega, ended⟩
  unfinished running := absurd running ended

/-- A turn that found only times before the deadline, and the turns after it. -/
theorem StopsBy.prepend {rest : Trace} {r : Except Failure Unit} (later : StopsBy deadline turns rest r) (first : Trace)
    (last : LastWhenLate deadline (first ++ rest) r) (some_section : first ≠ [])
    (early : ∀ taken ∈ first, taken.found.now < deadline) : StopsBy deadline (turns + 1) (first ++ rest) r where
  last := last
  soon before taken after split passed := by
    rcases List.append_eq_append_iff.mp split with ⟨more, -, split'⟩ | ⟨more, rfl, split'⟩
    · exact later.soon more taken after split' passed
    · cases more with
      | nil => exact later.soon [] taken after split'.symm passed
      | cons taken' more =>
        obtain ⟨rfl, -⟩ := List.cons.inj split'
        exact absurd (early taken (List.mem_append_right _ List.mem_cons_self)) (not_lt.mpr passed)
  unfinished running := by
    obtain ⟨enough, before⟩ := later.unfinished running
    have := List.length_pos_iff.mpr some_section
    refine ⟨by rw [List.length_append]; omega, fun taken member => ?_⟩
    exact (List.mem_append.mp member).elim (early taken) (before taken)

/-- The sections of a turn that is followed by another one were before the deadline. -/
theorem early_of_attemptWrite {s s' : Line} {trace : Trace}
    (runs : (attemptWrite rid data previous deadline call).Runs (Others call) s trace (.ok false) s') :
    trace ≠ [] ∧ ∀ taken ∈ trace, taken.found.now < deadline := by
  constructor
  · obtain ⟨i, found, rest, -, -, rfl, -⟩ := runs_await_bind.mp runs
    exact List.cons_ne_nil _ _
  · intro taken member
    have before : s'.now < deadline := (wp_iff.mp wp_attemptWrite trace _ s' runs).1 false rfl
    have puts : (attemptWrite rid data previous deadline call).Every (Puts call fun _ => True) :=
      puts_attemptWrite trivial previous deadline
    have ordered := runs.ordered Later.refl (fun _ _ _ => Later.trans) (fun _ _ _ others => others.later)
      (later_of_puts puts)
    exact (ordered.2 taken member).2.now.trans_lt before

theorem stopsBy_retryWrite {s s' : Line} {trace : Trace} {r : Except Failure Unit}
    (runs : (retryWrite rid data previous deadline call turns).Runs (Others call) s trace r s') :
    StopsBy deadline turns trace r := by
  have last := stops_retryWrite _ _ _ _ _ runs
  induction turns generalizing s trace with
  | zero =>
    obtain ⟨rfl, rfl, -⟩ := runs
    exact ⟨last, fun before taken after split => by simp at split, fun _ => ⟨le_rfl, by simp⟩⟩
  | succ turns ih =>
    obtain ⟨acknowledged, middle, first, rest, ran, later, rfl⟩ | ⟨e, ran, rfl⟩ := runs_bind.mp runs
    · cases acknowledged with
      | true =>
        obtain ⟨rfl, rfl, -⟩ := later
        rw [List.append_nil] at last ⊢
        exact .of_attempt last (within_attemptWrite.length_le ran) nofun
      | false =>
        obtain ⟨some_section, early⟩ := early_of_attemptWrite ran
        exact (ih later (stops_retryWrite _ _ _ _ _ later)).prepend _ last some_section early
    · have fails := (wp_iff.mp wp_attemptWrite trace _ s' ran).2 e rfl
      refine .of_attempt last (within_attemptWrite.length_le ran) fun running => ?_
      obtain rfl := Except.error.inj running
      rcases fails with fails | ⟨what, impossible⟩
      · exact fails
      · cases impossible

/-! ## The frames of a call -/

/-- No frame and no answer has the number of the call yet. -/
def Unused (call : ℕ) (s : Line) : Prop :=
  (∀ request ∈ s.sent, request.call ≠ call) ∧ ∀ a ∈ s.answers, a.call ≠ some call

/-- The frames of a write and their answers. -/
structure OwnFrames (call : ℕ) (motorId : UInt16) (rid : UInt8) (data : Word) (s : Line) : Prop where
  identity : s.handle.motorId = motorId
  sent : ∀ request ∈ s.sent, request.call = call → request.frame = registerWriteFrame motorId rid data
  answered : ∀ a ∈ s.answers, a.call = some call → ∃ request ∈ s.sent, request.call = call

namespace OwnFrames

variable {motorId : UInt16} {s : Line}

theorem of_unused (unused : Unused call s) : OwnFrames call s.handle.motorId rid data s :=
  ⟨rfl, fun request member own => absurd own (unused.1 request member),
    fun a member own => absurd own (unused.2 a member)⟩

theorem answer (own : OwnFrames call motorId rid data s) {a : Answer}
    (new : a.call = some call → ∃ request ∈ s.sent, request.call = call) :
    OwnFrames call motorId rid data (s.answer a) := by
  refine ⟨own.identity, own.sent, fun b member => ?_⟩
  rcases List.mem_append.mp member with before | last
  · exact own.answered b before
  · obtain rfl := List.mem_singleton.mp last
    exact new

theorem put (own : OwnFrames call motorId rid data s) {frame : CanFrame} {c : ℕ}
    (new : c = call → frame = registerWriteFrame motorId rid data) :
    OwnFrames call motorId rid data (s.put frame c) := by
  refine ⟨own.identity, fun request member is => ?_, fun a member is => ?_⟩
  · rcases List.mem_append.mp member with before | last
    · exact own.sent request before is
    · obtain rfl := List.mem_singleton.mp last
      exact new is
  · obtain ⟨request, before, same⟩ := own.answered a member is
    exact ⟨request, List.mem_append_left _ before, same⟩

theorem moves {s' : Line} (moves : Line.Moves call s s') (own : OwnFrames call motorId rid data s) :
    OwnFrames call motorId rid data s' := by
  cases moves with
  | elapse d => exact ⟨own.identity, own.sent, own.answered⟩
  | request frame other foreign => exact own.put fun same => absurd same foreign
  | read rid reply request sent reads replies =>
    exact own.answer fun same => ⟨request, sent, Option.some.inj same⟩
  | write rid data kept acknowledged ack request sent writes acknowledges =>
    have kept : OwnFrames call motorId _ _ (s.setRegister rid kept) := ⟨own.identity, own.sent, own.answered⟩
    exact kept.answer fun same => ⟨request, sent, Option.some.inj same⟩
  | change rid value other => exact ⟨own.identity, own.sent, own.answered⟩
  | report frame noReply noAck => exact own.answer nofun
  | deliver k a answered =>
    obtain ⟨h, -, -, -, same, is⟩ | ⟨h, -, -, -, same, is⟩ := s.deliver_cases k a.frame
    · rw [is]
      exact ⟨by simp [same, own.identity], own.sent, own.answered⟩
    · rw [is]
      exact ⟨same.trans own.identity, own.sent, own.answered⟩

end OwnFrames

/-! ## The result of a write -/

/-- The acknowledgements of other calls' frames that are processed carry the value of this write. -/
def OthersAgree (call : ℕ) (rid : UInt8) (data : Word) (s s' : Line) : Prop :=
  ∀ k a value, Added s.processed s'.processed k → s'.answers[k]? = some a →
    a.frame.acknowledges = some (rid, value) → a.call = some call ∨ value = data

/-- The motor acknowledged another value for a write frame of the call. -/
def AnsweredDifferently (call : ℕ) (rid : UInt8) (data : Word) (s s' : Line) : Prop :=
  ∃ a value, Added s.answers s'.answers a ∧ a.call = some call ∧ a.frame.acknowledges = some (rid, value) ∧
    value ≠ data ∧ ∃ request ∈ s'.sent, request.call = call ∧
      request.frame = registerWriteFrame s.handle.motorId rid data

/-- A processed acknowledgement of another value answers the call, if the other calls' agree. -/
theorem AckProcessed.answeredDifferently {value : Word} {s s' : Line} (processed : AckProcessed rid value s s')
    (different : value ≠ data) (agree : OthersAgree call rid data s s') (unused : Unused call s)
    (later : Later s s') (own : OwnFrames call s.handle.motorId rid data s') :
    AnsweredDifferently call rid data s s' := by
  obtain ⟨k, a, added, found, acknowledges⟩ := processed
  have mine : a.call = some call := (agree k a value added found acknowledges).resolve_right different
  have member := List.mem_of_getElem? found
  obtain ⟨request, sent, same⟩ := own.answered a member mine
  refine ⟨a, value, ?_, mine, acknowledges, different, request, sent, same, own.sent request sent same⟩
  exact (mem_or_added later.answers member).resolve_left fun old => unused.2 a old mine

theorem stopsBy_writeRegisterWithRetry {s s' : Line} {trace : Trace} {r : Except Failure Unit}
    (runs : (writeRegisterWithRetry rid data deadline call (turns + 1)).Runs (Others call) s trace r s') :
    StopsBy deadline (turns + 1) trace r := by
  have last : LastWhenLate deadline trace r :=
    Stops.bind (p := look .capture _) (stops_of_quiet (quiet_look _ nofun)) (fun _ => stops_retryWrite) _ _ _ _ _ runs
  obtain ⟨i, found, rest, -, rfl, later⟩ := runs_atomic_bind.mp runs
  have stops := stopsBy_retryWrite later
  by_cases early : found.now < deadline
  · have whole := stops.prepend [⟨.capture, i, found⟩] last (List.cons_ne_nil _ _)
      fun taken member => List.mem_singleton.mp member ▸ early
    exact ⟨last, whole.soon, fun running => ⟨(Nat.le_succ _).trans (whole.unfinished running).1,
      (whole.unfinished running).2⟩⟩
  · obtain ⟨a, middle, t₁, t₂, ran, -, rfl⟩ | ⟨e, ran, -⟩ := runs_bind.mp later
    all_goals
      obtain ⟨j, first, more, between, -, rfl, -⟩ := runs_await_bind.mp ran
      have late : deadline ≤ first.now := (not_lt.mp early).trans between.later.now
      obtain ⟨ends, threw⟩ := stops.last [] _ _ rfl rfl late
    · obtain ⟨rfl, rfl⟩ := List.append_eq_nil_iff.mp ends
      exact .of_attempt last (by simp) (threw ▸ nofun)
    · exact .of_attempt last (by simp [ends]) (threw ▸ nofun)

/-- A normal return and a mismatch of a write come from an acknowledgement that was processed during it. -/
theorem processed_of_writeRegisterWithRetry {s s' : Line} {trace : Trace} {r : Except Failure Unit}
    (runs : (writeRegisterWithRetry rid data deadline call turns).Runs (Others call) s trace r s') :
    (r = .ok () → AckProcessed rid data s s') ∧
      ∀ e, r = .error e → e = .outOfTurns ∨ (∃ what, e = .transport what) ∨
        (e = .ackTimedOut ∧ deadline ≤ s'.now) ∨
        (e = .ackMismatched ∧ ∃ value, value ≠ data ∧ AckProcessed rid value s s') := by
  obtain ⟨i, found, rest, between, rfl, later⟩ := runs_atomic_bind.mp runs
  have puts : (retryWrite rid data (found.handle.registerAckUpdateCounts rid) deadline call turns).Every
      (Puts call fun _ => True) := puts_retryWrite trivial _ _ _
  have progress : Progress rid found s' := (later.ordered Progress.refl (fun _ _ _ => Progress.trans)
    (fun _ _ _ others => progress_others others) (ordered_of_puts puts Progress.refl fun s _ _ => progress_put s _ _)).1
  obtain ⟨returns, throws⟩ := wp_iff.mp wp_retryWrite rest r s' later
  refine ⟨fun same => (progress.processed data (returns () same)).since between.later progress.later, fun e same => ?_⟩
  obtain (fails | refused) | running := throws e same
  · cases e with
    | ackMismatched =>
      obtain ⟨value, different, acked⟩ := fails
      exact .inr (.inr (.inr ⟨rfl, value, different, (progress.processed value acked).since between.later progress.later⟩))
    | ackTimedOut => exact .inr (.inr (.inl ⟨rfl, fails⟩))
    | _ => cases fails
  · exact .inr (.inl refused)
  · exact .inl running

/-- A write returns only on an acknowledgement of its value that was processed during it.  If the processed
acknowledgements of other calls' frames carry its value, it reports a mismatch only if the motor acknowledged
another value for one of its own frames.  It stops when its deadline has passed. -/
theorem register_write_transaction {s s' : Line} {trace : Trace} {r : Except Failure Unit} (unused : Unused call s)
    (runs : (writeRegisterWithRetry rid data deadline call (turns + 1)).Runs (Others call) s trace r s') :
    (r = .ok () → AckProcessed rid data s s') ∧
      (OthersAgree call rid data s s' → r = .error .ackMismatched → AnsweredDifferently call rid data s s') ∧
      StopsBy deadline (turns + 1) trace r ∧ (r = .error .ackTimedOut → deadline ≤ s'.now) ∧
      ∀ e, r = .error e → e ∈ [.ackMismatched, .ackTimedOut, .outOfTurns] ∨ ∃ what, e = .transport what := by
  obtain ⟨returns, throws⟩ := processed_of_writeRegisterWithRetry runs
  have puts : (writeRegisterWithRetry rid data deadline call (turns + 1)).Every
      (Puts call fun frame => frame = fun motorId => registerWriteFrame motorId rid data) := by
    refine puts_writeRegisterWithRetry ?_ _ _
    rfl
  have later : Later s s' := (runs.ordered Later.refl (fun _ _ _ => Later.trans) (fun _ _ _ others => others.later)
    (later_of_puts puts)).1
  have own : OwnFrames call s.handle.motorId rid data s' := (runs.keeps
    (fun _ _ _ others before => others.keeps (fun _ _ move own => own.moves move) before)
    (keeps_of_puts puts fun s frame is own => own.put fun _ => by rw [is, own.identity]) (.of_unused unused)).1
  refine ⟨returns, fun agree mismatched => ?_, stopsBy_writeRegisterWithRetry runs, fun timedOut => ?_, fun e same => ?_⟩
  · obtain impossible | ⟨what, impossible⟩ | ⟨impossible, -⟩ | ⟨-, value, different, processed⟩ := throws _ mismatched
    · cases impossible
    · cases impossible
    · cases impossible
    · exact processed.answeredDifferently different agree unused later own
  · obtain impossible | ⟨what, impossible⟩ | ⟨-, passed⟩ | ⟨impossible, -⟩ := throws _ timedOut
    · cases impossible
    · cases impossible
    · exact passed
    · cases impossible
  · obtain rfl | refused | ⟨rfl, -⟩ | ⟨rfl, -⟩ := throws e same
    · exact .inl (by simp)
    · exact .inr refused
    · exact .inl (by simp)
    · exact .inl (by simp)

/-- The acknowledgement of motor 1 for a value of register 10. -/
def modeAck (value : UInt8) : CanFrame := standardFrame 0x11 #v[1, 0, 0x55, 10, value, 0, 0, 0]

/-- A write of the value 2 to register 10 is sent. -/
def writtenLine : Line := freshLine.put (registerWriteFrame 1 10 (wordOfUInt32 2)) 1

/-- The motor accepts it, and its acknowledgement is processed. -/
def ackedLine : Line :=
  ((writtenLine.setRegister 10 (wordOfUInt32 2)).answer ⟨modeAck 2, some 1⟩).deliver 0 (modeAck 2)

theorem others_ackedLine (site : Site) : Others 1 site writtenLine ackedLine := by
  refine .tail (.tail .refl ?_) (.deliver _ 0 ⟨modeAck 2, some 1⟩ rfl)
  exact .write _ 10 #v[2, 0, 0, 0] #v[2, 0, 0, 0] #v[2, 0, 0, 0] _ ⟨_, 1⟩ (List.mem_singleton_self _) rfl
    (by decide +kernel)

/-- The write returns on its own acknowledgement, in its only turn. -/
theorem register_write_transaction_once :
    ∃ trace, (writeRegisterWithRetry 10 #v[2, 0, 0, 0] 200000000 1 1).Runs (Others 1) freshLine trace (.ok ())
      ackedLine ∧ AckProcessed 10 #v[2, 0, 0, 0] freshLine ackedLine ∧ StopsBy 200000000 1 trace (.ok ()) := by
  have runs : ∃ trace, (writeRegisterWithRetry 10 #v[2, 0, 0, 0] 200000000 1 1).Runs (Others 1) freshLine trace
      (.ok ()) ackedLine := by
    refine ⟨_, none, freshLine, _, .refl, rfl, rfl, none, freshLine, _, .refl, rfl, rfl, none, freshLine, _, .refl, rfl,
      rfl, none, writtenLine, _, .refl, rfl, rfl, none, writtenLine, _, .refl, rfl, rfl, none, ackedLine, [],
      others_ackedLine _, rfl, rfl, rfl, rfl, rfl⟩
  obtain ⟨trace, runs⟩ := runs
  obtain ⟨acknowledged, -, stops, -, -⟩ := register_write_transaction ⟨fun _ member => absurd member List.not_mem_nil,
    fun _ member => absurd member List.not_mem_nil⟩ runs
  exact ⟨trace, runs, acknowledged rfl, stops⟩

/-- A comparison that is not late goes on. -/
theorem runs_early {α : Type} {R : Site → Line → Line → Prop} {f : ℕ → Program α} {s found s' : Line} {rest : Trace}
    {r : Except Failure α} (between : R .deadline s found) (early : found.now < deadline)
    (later : (f found.now).Runs R found rest r s') :
    ((beforeDeadline deadline).bind f).Runs R s (⟨.deadline, none, found⟩ :: rest) r s' :=
  runs_await_bind.mpr ⟨none, found, rest, between, rfl, rfl, .inl ⟨_, if_neg (not_le.mpr early), later⟩⟩

/-- A late comparison is the end of the call. -/
theorem runs_late {α : Type} {R : Site → Line → Line → Prop} {f : ℕ → Program α} {s found : Line}
    (between : R .deadline s found) (late : deadline ≤ found.now) :
    ((beforeDeadline deadline).bind f).Runs R s [⟨.deadline, none, found⟩] (.error .ackTimedOut) found :=
  runs_await_bind.mpr ⟨none, found, [], between, rfl, rfl, .inr ⟨_, if_pos late, rfl, rfl, rfl⟩⟩

theorem runs_caught {R : Site → Line → Line → Prop} {p : Program Unit} {s s' : Line} {trace : Trace} {e : Failure}
    (runs : p.Runs R s trace (.error e) s') : (caught p).Runs R s trace (.ok (some e)) s' :=
  runs_tryCatch.mpr (.inl ⟨e, s', trace, [], runs_bind.mpr (.inr ⟨e, runs, rfl⟩), runs_ret.mpr ⟨rfl, rfl, rfl⟩,
    (List.append_nil trace).symm⟩)

/-- An attempt whose wait sees another value. -/
theorem runs_mismatched {R : Site → Line → Line → Prop} {s found seen : Line} (early : s.now < deadline)
    (sent : found = s.put (registerWriteFrame s.handle.motorId rid data) call) (nothing : ∀ site t, R site t t)
    (processed : R .checkAck found seen) (sees : ackSeen rid data previous seen = some false) :
    ∃ trace, (attemptWrite rid data previous deadline call).Runs R s trace (.error .ackMismatched) seen := by
  have waits : ∀ timeout, (waitForWriteAck rid data previous timeout).Runs R found
      [⟨.clock, none, found⟩, ⟨.checkAck, none, seen⟩] (.error .ackMismatched) seen := by
    intro timeout
    refine runs_atomic_bind.mpr ⟨none, found, _, nothing _ _, rfl, ?_⟩
    exact runs_atomic_bind.mpr ⟨none, seen, [], processed, rfl, by rw [sees]; exact ⟨rfl, rfl, rfl⟩⟩
  have later : found.now < deadline := by rwa [sent]
  refine ⟨_, runs_early (nothing _ s) early (runs_await_bind.mpr ⟨none, s, _, nothing _ s, rfl, rfl,
    .inl ⟨(), rfl, sent ▸ runs_early (nothing _ found) later
      (runs_bind.mpr (.inl ⟨_, seen, _, [], runs_caught (waits _), ?_, rfl⟩))⟩⟩)⟩
  dsimp only
  rw [if_pos mentions_ackMismatched]
  exact ⟨rfl, rfl, rfl⟩

/-- A write of the value 1 that nothing has answered. -/
def abandonedLine : Line := freshLine.put (registerWriteFrame 1 10 (wordOfUInt32 1)) 0

/-- Its deadline passes. -/
def expiredLine : Line := { abandonedLine with now := abandonedLine.now + 200000000 }

/-- The motor answers it late. -/
def lateLine : Line := (expiredLine.setRegister 10 (wordOfUInt32 1)).answer ⟨modeAck 1, some 0⟩

/-- Another call writes the value 2. -/
def rewrittenLine : Line := lateLine.put (registerWriteFrame 1 10 (wordOfUInt32 2)) 1

/-- The late answer is processed. -/
def blamedLine : Line := rewrittenLine.deliver 0 (modeAck 1)

/-- A write times out and its acknowledgement, which arrives during the next write of the register, makes that
one report a mismatch, though the motor has not answered it. -/
theorem register_write_blames_late_ack :
    (∃ trace, (writeRegisterWithRetry 10 #v[1, 0, 0, 0] 200000000 0 1).Runs (Others 0) freshLine trace
      (.error .ackTimedOut) expiredLine) ∧ Others 1 .capture expiredLine lateLine ∧ Unused 1 lateLine ∧
    (∃ trace, (writeRegisterWithRetry 10 #v[2, 0, 0, 0] 400000000 1 1).Runs (Others 1) lateLine trace
      (.error .ackMismatched) blamedLine) ∧ ¬ AnsweredDifferently 1 10 #v[2, 0, 0, 0] lateLine blamedLine := by
  have abandoned : (attemptWrite 10 #v[1, 0, 0, 0] 0 200000000 0).Runs (Others 0) freshLine
      [⟨.deadline, none, freshLine⟩, ⟨.send, none, freshLine⟩, ⟨.deadline, none, expiredLine⟩]
      (.error .ackTimedOut) expiredLine := by
    refine runs_early (Others.nothing 0 .deadline freshLine) (by decide) ⟨none, freshLine, _, .refl, rfl, rfl, ?_⟩
    exact runs_late (.tail .refl (.elapse abandonedLine 200000000)) (Nat.le_add_left _ _)
  have blamed : ∃ trace, (attemptWrite 10 #v[2, 0, 0, 0] 0 400000000 1).Runs (Others 1) lateLine trace
      (.error .ackMismatched) blamedLine :=
    runs_mismatched (by decide +kernel) (rfl : rewrittenLine = _) (Others.nothing 1)
      (.tail .refl (.deliver _ 0 ⟨modeAck 1, some 0⟩ rfl)) (by decide +kernel)
  obtain ⟨trace, blamed⟩ := blamed
  refine ⟨⟨_, runs_atomic_bind.mpr ⟨none, freshLine, _, .refl, rfl, runs_bind.mpr (.inr ⟨_, abandoned, rfl⟩)⟩⟩, ?_,
    ⟨?_, ?_⟩, ⟨_, runs_atomic_bind.mpr ⟨none, lateLine, _, .refl, rfl, runs_bind.mpr (.inr ⟨_, blamed, rfl⟩)⟩⟩, ?_⟩
  · exact .tail .refl (.write _ 10 #v[1, 0, 0, 0] #v[1, 0, 0, 0] #v[1, 0, 0, 0] _ ⟨_, 0⟩ (List.mem_singleton_self _) rfl
      (by decide +kernel))
  · intro request member
    obtain rfl := List.mem_singleton.mp member
    exact Nat.zero_ne_one
  · intro a member
    obtain rfl := List.mem_singleton.mp member
    decide
  · rintro ⟨a, value, added, mine, -⟩
    obtain rfl : a = ⟨modeAck 1, some 0⟩ := List.mem_singleton.mp added.mem
    cases mine

end MotorDrive.Damiao
