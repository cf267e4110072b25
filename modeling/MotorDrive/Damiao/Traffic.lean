import MotorDrive.Damiao.Registers
import MotorDrive.Library.History
import MotorDrive.Library.Hoare

/-!
# What a call and the others do to a line

The logs of a line only grow and its clock does not go back (`Later`), whatever happens on it.  The sections of
a call read the line or put one of its frames on the bus (`Puts`).
-/

namespace MotorDrive.Damiao

open Proc History

/-! ## The order of the states of a line -/

/-- The line in a later state. -/
structure Later (s s' : Line) : Prop where
  now : s.now ≤ s'.now
  motorId : s'.handle.motorId = s.handle.motorId
  held : s.held <+: s'.held
  sent : s.sent <+: s'.sent
  answers : s.answers <+: s'.answers
  processed : s.processed <+: s'.processed

theorem Later.refl (s : Line) : Later s s :=
  ⟨le_rfl, rfl, List.prefix_rfl, List.prefix_rfl, List.prefix_rfl, List.prefix_rfl⟩

theorem Later.trans {s t u : Line} (first : Later s t) (second : Later t u) : Later s u where
  now := first.now.trans second.now
  motorId := second.motorId.trans first.motorId
  held := first.held.trans second.held
  sent := first.sent.trans second.sent
  answers := first.answers.trans second.answers
  processed := first.processed.trans second.processed

namespace Line

variable {s s' : Line} {call : ℕ}

/-- An answer given to the handle is processed, or the handle keeps its registers. -/
theorem deliver_cases (k : ℕ) (frame : CanFrame) :
    (∃ h : MotorHandle, h.registerReplies = s.handle.registerReplies ∧ h.registerAcks = s.handle.registerAcks ∧
      h.registerAckUpdateCounts = s.handle.registerAckUpdateCounts ∧ h.motorId = s.handle.motorId ∧
      s.deliver k frame = { s with handle := h.processFeedbackFrame frame s.now, processed := s.processed ++ [k] }) ∨
    ∃ h : MotorHandle, h.registerReplies = s.handle.registerReplies ∧ h.registerAcks = s.handle.registerAcks ∧
      h.registerAckUpdateCounts = s.handle.registerAckUpdateCounts ∧ h.motorId = s.handle.motorId ∧
      s.deliver k frame = { s with handle := h } := by
  unfold deliver
  split_ifs
  · exact .inl ⟨_, by simp, by simp, by simp, by simp, rfl⟩
  · exact .inr ⟨_, by simp, by simp, by simp, by simp, rfl⟩

theorem later_deliver (k : ℕ) (frame : CanFrame) : Later s (s.deliver k frame) := by
  obtain ⟨h, -, -, -, same, is⟩ | ⟨h, -, -, -, same, is⟩ := s.deliver_cases k frame
  · rw [is]
    exact ⟨le_rfl, by simp [same], List.prefix_rfl, List.prefix_rfl, List.prefix_rfl, List.prefix_append _ _⟩
  · rw [is]
    exact ⟨le_rfl, same, List.prefix_rfl, List.prefix_rfl, List.prefix_rfl, List.prefix_rfl⟩

theorem later_put (frame : CanFrame) (c : ℕ) : Later s (s.put frame c) :=
  ⟨le_rfl, rfl, List.prefix_rfl, List.prefix_append _ _, List.prefix_rfl, List.prefix_rfl⟩

theorem later_answer (a : Answer) : Later s (s.answer a) :=
  ⟨le_rfl, rfl, List.prefix_rfl, List.prefix_rfl, List.prefix_append _ _, List.prefix_rfl⟩

theorem later_setRegister (rid : UInt8) (value : Word) : Later s (s.setRegister rid value) :=
  ⟨le_rfl, rfl, List.prefix_append _ _, List.prefix_rfl, List.prefix_rfl, List.prefix_rfl⟩

theorem Moves.later (moves : Moves call s s') : Later s s' := by
  cases moves with
  | elapse d => exact ⟨Nat.le_add_right _ _, rfl, List.prefix_rfl, List.prefix_rfl, List.prefix_rfl, List.prefix_rfl⟩
  | request frame other foreign => exact later_put frame other
  | read rid reply request sent reads replies => exact later_answer _
  | write rid data kept acknowledged ack request sent writes acknowledges =>
    exact (later_setRegister rid kept).trans (later_answer _)
  | change rid value other => exact later_setRegister rid value
  | report frame noReply noAck => exact later_answer _
  | deliver k a answered => exact later_deliver k a.frame

end Line

theorem Others.nothing (call : ℕ) (site : Site) (s : Line) : Others call site s s := .refl

/-- What every move keeps is kept between two sections. -/
theorem Others.keeps {call : ℕ} {site : Site} {s found : Line} {I : Line → Prop} (others : Others call site s found)
    (moves : ∀ t u, Line.Moves call t u → I t → I u) (start : I s) : I found := by
  induction others with
  | refl => exact start
  | tail _ move ih => exact moves _ _ move ih

theorem Others.later {call : ℕ} {site : Site} {s found : Line} (others : Others call site s found) :
    Later s found :=
  others.keeps (fun _ _ move before => before.trans move.later) (Later.refl s)

/-! ## The sections of a call -/

/-- The section reads the line or puts a frame of the call on the bus. -/
def Puts (call : ℕ) (frames : (UInt16 → CanFrame) → Prop) (_ : Site) (_ : Line → Bool)
    (act : Option String → Line → Line) : Prop :=
  ∀ i s, act i s = s ∨ ∃ frame, frames frame ∧ act i s = s.put (frame s.handle.motorId) call

variable {call : ℕ} {frames : (UInt16 → CanFrame) → Prop}

/-- What every move and every frame of a call keep is kept by the call. -/
theorem keeps_of_puts {α : Type} {I : Line → Prop} {p : Program α} (puts : p.Every (Puts call frames))
    (own : ∀ s frame, frames frame → I s → I (s.put (frame s.handle.motorId) call)) :
    p.Every fun _ _ act => ∀ i s, I s → I (act i s) := by
  refine puts.mono fun _ _ act does i s holds => ?_
  obtain same | ⟨frame, is, same⟩ := does i s
  · rwa [same]
  · rw [same]
    exact own s frame is holds

/-- A preorder that every frame of a call follows is followed by every section of the call. -/
theorem ordered_of_puts {α : Type} {le : Line → Line → Prop} {p : Program α} (puts : p.Every (Puts call frames))
    (refl : ∀ s, le s s) (own : ∀ s frame, frames frame → le s (s.put (frame s.handle.motorId) call)) :
    p.Every fun _ _ act => ∀ i s, le s (act i s) := by
  refine puts.mono fun _ _ act does i s => ?_
  obtain same | ⟨frame, is, same⟩ := does i s
  · rw [same]
    exact refl s
  · rw [same]
    exact own s frame is

theorem later_of_puts {α : Type} {p : Program α} (puts : p.Every (Puts call frames)) :
    p.Every fun _ _ act => ∀ i s, Later s (act i s) :=
  ordered_of_puts puts Later.refl fun _ _ _ => Line.later_put _ _

theorem puts_look {α : Type} (site : Site) (f : Line → α) : (look site f).Every (Puts call frames) :=
  every_atomic fun _ _ => .inl rfl

theorem puts_sleepFor (since duration : ℕ) : (sleepFor since duration).Every (Puts call frames) :=
  every_await fun _ _ => .inl rfl

theorem puts_beforeDeadline (deadline : ℕ) : (beforeDeadline deadline).Every (Puts call frames) :=
  every_await fun _ _ => .inl rfl

theorem puts_sendRaw {frame : UInt16 → CanFrame} (is : frames frame) :
    (sendRaw frame call).Every (Puts call frames) := by
  refine every_await fun refusal s => ?_
  cases refusal with
  | some what => exact .inl rfl
  | none => exact .inr ⟨frame, is, rfl⟩

theorem puts_caught {p : Program Unit} (puts : p.Every (Puts call frames)) : (caught p).Every (Puts call frames) :=
  every_tryCatch (every_bind puts fun _ => trivial) fun _ => trivial

theorem puts_pollWriteAck (rid : UInt8) (expected : Word) (previousUpdateCount deadline turns : ℕ) :
    (pollWriteAck rid expected previousUpdateCount deadline turns).Every (Puts call frames) := by
  induction turns with
  | zero => trivial
  | succ turns ih =>
    refine every_bind (puts_look _ _) fun seen => ?_
    match seen with
    | some true => trivial
    | some false => trivial
    | none =>
      exact every_bind (puts_look _ _) fun now => every_ite trivial
        (every_bind (puts_sleepFor _ _) fun _ => ih)

theorem puts_attemptWrite {rid : UInt8} {data : Word}
    (is : frames fun motorId => registerWriteFrame motorId rid data) (previousUpdateCount deadline : ℕ) :
    (attemptWrite rid data previousUpdateCount deadline call).Every (Puts call frames) := by
  refine every_bind (puts_beforeDeadline _) fun _ => every_bind (puts_sendRaw is) fun _ =>
    every_bind (puts_beforeDeadline _) fun now => every_bind (puts_caught (every_bind (puts_look _ _) fun _ =>
      puts_pollWriteAck _ _ _ _ _)) fun error => ?_
  match error with
  | none => trivial
  | some error => exact every_ite trivial (every_bind (puts_beforeDeadline _) fun _ => trivial)

theorem puts_retryWrite {rid : UInt8} {data : Word}
    (is : frames fun motorId => registerWriteFrame motorId rid data) (previousUpdateCount deadline turns : ℕ) :
    (retryWrite rid data previousUpdateCount deadline call turns).Every (Puts call frames) := by
  induction turns with
  | zero => trivial
  | succ turns ih => exact every_bind (puts_attemptWrite is _ _) fun _ => every_ite trivial ih

theorem puts_writeRegisterWithRetry {rid : UInt8} {data : Word}
    (is : frames fun motorId => registerWriteFrame motorId rid data) (deadline turns : ℕ) :
    (writeRegisterWithRetry rid data deadline call turns).Every (Puts call frames) :=
  every_bind (puts_look _ _) fun _ => puts_retryWrite is _ _ _

/-! ## Weakest preconditions of the sections -/

section Wp

variable {R : Site → Line → Line → Prop} {α : Type} {E : Failure → Line → Prop} {s : Line}

theorem wp_look {site : Site} {f : Line → α} {Q : α → Line → Prop} :
    (look site f).wp R Q E s ↔ ∀ found, R site s found → Q (f found) found := by
  rw [look, wp_atomic]
  exact ⟨fun holds => holds none, fun holds _ => holds⟩

theorem wp_sleepFor {since duration : ℕ} {Q : Unit → Line → Prop} :
    (sleepFor since duration).wp R Q E s ↔
      ∀ found, R .sleep s found → since + duration ≤ found.now → Q () found := by
  rw [sleepFor, wp_await]
  exact ⟨fun holds found between slept => (holds none found between (decide_eq_true slept)).1 () rfl,
    fun holds _ found between isReady => ⟨fun _ _ => holds found between (of_decide_eq_true isReady), nofun⟩⟩

theorem wp_beforeDeadline {deadline : ℕ} {Q : ℕ → Line → Prop} :
    (beforeDeadline deadline).wp R Q E s ↔ ∀ found, R .deadline s found →
      (found.now < deadline → Q found.now found) ∧ (deadline ≤ found.now → E .ackTimedOut found) := by
  rw [beforeDeadline, wp_await]
  constructor
  · intro holds found between
    obtain ⟨returns, throws⟩ := holds none found between rfl
    exact ⟨fun early => returns _ (if_neg (not_le.mpr early)), fun late => throws _ (if_pos late)⟩
  · intro holds _ found between _
    by_cases late : deadline ≤ found.now
    · simp only [if_pos late]
      exact ⟨nofun, fun e same => Except.error.inj same ▸ (holds found between).2 late⟩
    · simp only [if_neg late]
      exact ⟨fun a same => Except.ok.inj same ▸ (holds found between).1 (not_le.mp late), nofun⟩

theorem wp_sendRaw {frame : UInt16 → CanFrame} {Q : Unit → Line → Prop} :
    (sendRaw frame call).wp R Q E s ↔ ∀ found, R .send s found →
      Q () (found.put (frame found.handle.motorId) call) ∧ ∀ what, E (.transport what) found := by
  rw [sendRaw, wp_await]
  constructor
  · exact fun holds found between =>
      ⟨(holds none found between rfl).1 () rfl, fun what => (holds (some what) found between rfl).2 _ rfl⟩
  · intro holds refusal found between _
    cases refusal with
    | some what => exact ⟨nofun, fun e same => Except.error.inj same ▸ (holds found between).2 what⟩
    | none => exact ⟨fun _ _ => (holds found between).1, nofun⟩

theorem wp_caught {p : Program Unit} {Q : Option Failure → Line → Prop} :
    (caught p).wp R Q E s ↔ p.wp R (fun _ => Q none) (fun e => Q (some e)) s := by
  rw [caught, wp_tryCatch, wp_bind]
  rfl

end Wp

/-! ## A line to run calls on -/

/-- A line on which nothing has happened. -/
def freshLine : Line := ⟨0, firstHandle, fun _ => wordOfUInt32 1, [], [], [], []⟩

end MotorDrive.Damiao
