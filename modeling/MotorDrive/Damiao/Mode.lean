import MotorDrive.Damiao.Traffic

/-!
# Register reads and mode switches

A call of `get_register_u32`, `get_register_f32` or `ensure_mode` returns on a reply that was processed after it
began.  What such a reply says was true at some instant of the call (`HeldDuring`) if the motor gave the reply
during the call.  `Reading` is what a line keeps of this from the call's start on.
-/

namespace MotorDrive.Damiao

open Proc History

variable {rid : UInt8} {s₀ s s' : Line} {call : ℕ} {frames : (UInt16 → CanFrame) → Prop}

/-- The register of the motor had the value at some instant between two states. -/
def HeldDuring (rid : UInt8) (value : Word) (s s' : Line) : Prop :=
  s.registers rid = value ∨ Added s.held s'.held (rid, value)

/-- Each reply that is processed, or was processed at the clock reading of the start, was given by the motor
after the start or says what the register held at the start. -/
def RepliesCurrent (rid : UInt8) (s s' : Line) : Prop :=
  (∀ value time, s.handle.registerReplies rid = some (value, time) → time < s.now ∨ value = s.registers rid) ∧
    ∀ k a value, Added s.processed s'.processed k → s'.answers[k]? = some a → a.frame.replies = some (rid, value) →
      s.answers.length ≤ k ∨ value = s.registers rid

theorem HeldDuring.extend {value : Word} (held : HeldDuring rid value s₀ s) (before : Later s₀ s) (after : Later s s') :
    HeldDuring rid value s₀ s' :=
  held.imp_right fun added => (added_trans before.held after.held).mpr (.inl added)

theorem RepliesCurrent.restrict (current : RepliesCurrent rid s₀ s') (before : Later s₀ s) (after : Later s s') :
    RepliesCurrent rid s₀ s :=
  ⟨current.1, fun k a value added found replies => current.2 k a value
    ((added_trans before.processed after.processed).mpr (.inl added)) (getElem?_grows after.answers found) replies⟩

/-- The stored reply was processed at or after the start. -/
def Shown (rid : UInt8) (value : Word) (s₀ s : Line) : Prop :=
  ∃ time, s.handle.registerReplies rid = some (value, time) ∧ s₀.now ≤ time

/-- What a line keeps from the start of a call on. -/
structure Reading (rid : UInt8) (s₀ s : Line) : Prop where
  later : Later s₀ s
  register : HeldDuring rid (s.registers rid) s₀ s
  answers : ∀ k a value, s₀.answers.length ≤ k → s.answers[k]? = some a →
    a.frame.replies = some (rid, value) → HeldDuring rid value s₀ s
  shown : RepliesCurrent rid s₀ s → ∀ value, Shown rid value s₀ s → HeldDuring rid value s₀ s

namespace Reading

theorem start (s₀ : Line) : Reading rid s₀ s₀ where
  later := Later.refl s₀
  register := .inl rfl
  answers k a value new found := absurd (lt_length_of_getElem? found) (not_lt.mpr new)
  shown current value := by
    rintro ⟨time, stored, since⟩
    exact (current.1 value time stored).elim (fun early => absurd since (not_le.mpr early)) fun same => .inl same.symm

/-- A step that leaves the registers, the answers and the stored replies alone. -/
theorem step (reading : Reading rid s₀ s) (later : Later s s') (registers : s'.registers = s.registers)
    (answers : s'.answers = s.answers) (replies : s'.handle.registerReplies = s.handle.registerReplies) :
    Reading rid s₀ s' where
  later := reading.later.trans later
  register := by
    rw [registers]
    exact reading.register.extend reading.later later
  answers k a value new found is := by
    rw [answers] at found
    exact (reading.answers k a value new found is).extend reading.later later
  shown current value shown := by
    rw [Shown, replies] at shown
    exact (reading.shown (current.restrict reading.later later) value shown).extend reading.later later

/-- The motor gives an answer; a reply says what the register holds. -/
theorem answer (reading : Reading rid s₀ s) {a : Answer}
    (replies : ∀ value, a.frame.replies = some (rid, value) → s.registers rid = value) :
    Reading rid s₀ (s.answer a) where
  later := reading.later.trans (Line.later_answer a)
  register := reading.register.extend reading.later (Line.later_answer a)
  answers k b value new found is := by
    by_cases old : k < s.answers.length
    · have before : s.answers[k]? = some b := by rwa [Line.answer, List.getElem?_append_left old] at found
      exact (reading.answers k b value new before is).extend reading.later (Line.later_answer a)
    · have last : (s.answers ++ [a])[k]? = some b := found
      rw [List.getElem?_append_right (not_lt.mp old), List.getElem?_singleton] at last
      split_ifs at last
      obtain rfl := Option.some.inj last
      exact replies value is ▸ reading.register.extend reading.later (Line.later_answer a)
  shown current value shown :=
    (reading.shown (current.restrict reading.later (Line.later_answer a)) value shown).extend reading.later
      (Line.later_answer a)

/-- A register of the motor gets a value. -/
theorem setRegister (reading : Reading rid s₀ s) (other : UInt8) (value : Word) :
    Reading rid s₀ (s.setRegister other value) where
  later := reading.later.trans (Line.later_setRegister other value)
  register := by
    by_cases same : rid = other
    · subst same
      refine .inr ((added_trans reading.later.held (Line.later_setRegister rid value).held).mpr (.inr ?_))
      exact added_append.mpr (List.mem_singleton.mpr (by simp [Line.setRegister]))
    · have kept : (s.setRegister other value).registers rid = s.registers rid := Function.update_of_ne same _ _
      rw [kept]
      exact reading.register.extend reading.later (Line.later_setRegister other value)
  answers k a value' new found is :=
    (reading.answers k a value' new found is).extend reading.later (Line.later_setRegister other value)
  shown current value' shown :=
    (reading.shown (current.restrict reading.later (Line.later_setRegister other value)) value' shown).extend
      reading.later (Line.later_setRegister other value)

/-- The handle processes an answer. -/
theorem process (reading : Reading rid s₀ s) {h : MotorHandle} {k : ℕ} {a : Answer}
    (answered : s.answers[k]? = some a) (replies : h.registerReplies = s.handle.registerReplies)
    (later : Later s { s with handle := h.processFeedbackFrame a.frame s.now, processed := s.processed ++ [k] }) :
    Reading rid s₀
      { s with handle := h.processFeedbackFrame a.frame s.now, processed := s.processed ++ [k] } where
  later := reading.later.trans later
  register := reading.register.extend reading.later later
  answers k' b value new found is := (reading.answers k' b value new found is).extend reading.later later
  shown current value shown := by
    obtain ⟨time, stored, since⟩ := shown
    have before := fun old => (reading.shown (current.restrict reading.later later) value old).extend reading.later later
    rw [MotorHandle.registerReplies_processFeedbackFrame] at stored
    cases is : a.frame.replies with
    | none =>
      rw [is] at stored
      exact before ⟨time, replies ▸ stored, since⟩
    | some pair =>
      obtain ⟨rid', value'⟩ := pair
      simp only [is] at stored
      by_cases same : rid = rid'
      · subst same
        rw [Function.update_self, Option.some.injEq, Prod.mk.injEq] at stored
        obtain ⟨rfl, -⟩ := stored
        have added : Added s₀.processed (s.processed ++ [k]) k :=
          (added_trans reading.later.processed later.processed).mpr
            (.inr (added_append.mpr (List.mem_singleton_self k)))
        rcases current.2 k a value' added answered is with new | held
        · exact (reading.answers k a value' new answered is).extend reading.later later
        · exact .inl held.symm
      · rw [Function.update_of_ne same] at stored
        exact before ⟨time, replies ▸ stored, since⟩

theorem moves (moves : Line.Moves call s s') (reading : Reading rid s₀ s) : Reading rid s₀ s' := by
  cases moves with
  | elapse d => exact reading.step (Line.Moves.elapse s d : Line.Moves call s _).later rfl rfl rfl
  | request frame other foreign => exact reading.step (Line.later_put frame other) rfl rfl rfl
  | read rid' reply request sent reads replies =>
    refine reading.answer fun value is => ?_
    obtain ⟨rfl, held⟩ := Prod.mk.inj (Option.some.inj (replies.symm.trans is))
    exact held
  | write rid' data kept acknowledged ack request sent writes acknowledges =>
    refine (reading.setRegister rid' kept).answer fun value is => ?_
    exact absurd is (by simp [replies_of_acknowledges acknowledges])
  | change rid' value other => exact reading.setRegister rid' value
  | report frame noReply noAck => exact reading.answer fun value is => by simp [noReply] at is
  | deliver k a answered =>
    have later := s.later_deliver k a.frame
    obtain ⟨h, replies, -, -, -, is⟩ | ⟨h, replies, -, -, -, is⟩ := s.deliver_cases k a.frame
    · rw [is] at later ⊢
      exact reading.process answered replies later
    · rw [is] at later ⊢
      exact reading.step later rfl rfl replies

theorem put (reading : Reading rid s₀ s) (frame : CanFrame) (c : ℕ) : Reading rid s₀ (s.put frame c) :=
  reading.step (Line.later_put frame c) rfl rfl rfl

end Reading

/-- Every frame is allowed. -/
def anyFrame (_ : UInt16 → CanFrame) : Prop := True

/-- The sections of a program read the line or put a frame of the call on the bus. -/
def Harmless {α : Type} (call : ℕ) (p : Program α) : Prop := p.Every (Puts call anyFrame)

/-- The time of a line is not before the start. -/
def NotBefore (s₀ s : Line) : Prop := s₀.now ≤ s.now

theorem NotBefore.others {site : Site} (since : NotBefore s₀ s) (others : Others call site s s') : NotBefore s₀ s' :=
  since.trans others.later.now

/-- A reply of motor 1 with a value of register 10. -/
def modeReply (value : UInt8) : CanFrame := standardFrame 0x11 #v[1, 0, 0x33, 10, value, 0, 0, 0]

/-- A read of register 10 is under way. -/
def pendingLine : Line := freshLine.put (registerReadFrame 1 10) 0

/-- The motor answers it, and the reply is processed. -/
def readLine : Line := (pendingLine.answer ⟨modeReply 1, some 0⟩).deliver 0 (modeReply 1)

end MotorDrive.Damiao
