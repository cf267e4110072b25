import MotorDrive.Damiao.Controller

/-!
# Feedback of a controller

However a controller moves on (`Onward`), a handle that counts more feedback has counted a frame with its own
identity, and the transport's error counts do not go back.  The sections of a call move a controller on as well
(`every_onward`), except those that make motors or take them away.
-/

namespace MotorDrive.Damiao

open Proc History

/-! ## What a frame does to a handle -/

namespace MotorHandle

variable {h : MotorHandle} {frame : CanFrame} {now : ℕ}

/-- Two states of a handle with the same identity. -/
structure SameIdentity (h h' : MotorHandle) : Prop where
  motorId : h'.motorId = h.motorId
  feedbackId : h'.feedbackId = h.feedbackId

theorem sameIdentity_acceptsFrame : SameIdentity h (h.acceptsFrame frame).2 := by
  unfold acceptsFrame
  split_ifs <;> exact ⟨rfl, rfl⟩

theorem feedbackUpdateCount_acceptsFrame :
    (h.acceptsFrame frame).2.feedbackUpdateCount = h.feedbackUpdateCount := by
  unfold acceptsFrame
  split_ifs <;> rfl

theorem sameIdentity_processFeedbackFrame : SameIdentity h (h.processFeedbackFrame frame now) := by
  unfold processFeedbackFrame
  dsimp only
  split_ifs <;> exact ⟨rfl, rfl⟩

/-- A processed frame is counted at most once, and only a sensor frame is. -/
theorem feedbackUpdateCount_processFeedbackFrame :
    (h.processFeedbackFrame frame now).feedbackUpdateCount = h.feedbackUpdateCount ∨
      (h.processFeedbackFrame frame now).feedbackUpdateCount = h.feedbackUpdateCount + 1 ∧
        ¬ isRegisterReply frame.data ∧ ¬ isRegisterWriteAck frame.data := by
  unfold processFeedbackFrame
  dsimp only
  split_ifs with reply ack
  · exact .inl rfl
  · exact .inl rfl
  · exact .inl rfl
  · exact .inr ⟨rfl, reply, ack⟩

/-- An accepted frame that is counted is a feedback frame of the handle. -/
theorem isFeedback_of_counted (accepted : (h.acceptsFrame frame).1 = true)
    (counted : (h.acceptsFrame frame).2.feedbackUpdateCount <
      ((h.acceptsFrame frame).2.processFeedbackFrame frame now).feedbackUpdateCount) : h.IsFeedback frame := by
  obtain same | ⟨-, noReply, noAck⟩ := @feedbackUpdateCount_processFeedbackFrame (h.acceptsFrame frame).2 frame now
  · rw [same] at counted
    exact absurd counted (lt_irrefl _)
  · unfold acceptsFrame at accepted
    split_ifs at accepted with foreign short identity
    simp only [Bool.or_eq_true, Bool.not_eq_true', not_or, Bool.not_eq_true, Bool.not_eq_false] at foreign
    simp only [decodedCanId, expectedCanId, noReply, noAck, Bool.or_self, Bool.false_eq_true, if_false,
      ne_eq, not_not] at identity
    exact ⟨⟨foreign.1, not_not.mp short⟩, foreign.2, ⟨if_neg noReply, if_neg noAck⟩, identity⟩

end MotorHandle

/-! ## Controllers that move on -/

/-- A frame with the identity of the handle at the address was counted while the log grew. -/
def FeedbackCounted (address : ℕ) (h : MotorHandle) (old new : List (ℕ × CanFrame)) : Prop :=
  ∃ frame, Added old new (address, frame) ∧ h.IsFeedback frame

/-- What a handle has become: the same motor, with feedback that was counted. -/
structure HandleOnward (address : ℕ) (h : MotorHandle) (old new : List (ℕ × CanFrame)) (h' : MotorHandle) :
    Prop where
  same : h.SameIdentity h'
  le : h.feedbackUpdateCount ≤ h'.feedbackUpdateCount
  counted : h.feedbackUpdateCount < h'.feedbackUpdateCount → FeedbackCounted address h old new

/-- The controller in a later state. -/
structure Onward (s s' : Controller) : Prop where
  now : s.now ≤ s'.now
  accepted : s.accepted <+: s'.accepted
  sendErrors : s.health.sendErrors ≤ s'.health.sendErrors
  receiveErrors : s.health.receiveErrors ≤ s'.health.receiveErrors
  handles : ∀ address h, s.handles[address]? = some h →
    ∃ h', s'.handles[address]? = some h' ∧ HandleOnward address h s.accepted s'.accepted h'

theorem MotorHandle.IsFeedback.of_same {h h' : MotorHandle} {frame : CanFrame} (same : h.SameIdentity h')
    (feedback : h'.IsFeedback frame) : h.IsFeedback frame where
  standard := feedback.standard
  arbitration := same.motorId ▸ same.feedbackId ▸ feedback.arbitration
  sensor := feedback.sensor
  identity := same.motorId ▸ feedback.identity

theorem HandleOnward.refl {address : ℕ} {h : MotorHandle} {old new : List (ℕ × CanFrame)} :
    HandleOnward address h old new h :=
  ⟨⟨rfl, rfl⟩, le_rfl, fun impossible => absurd impossible (lt_irrefl _)⟩

theorem Onward.refl (s : Controller) : Onward s s :=
  ⟨le_rfl, List.prefix_rfl, le_rfl, le_rfl, fun _ h found => ⟨h, found, .refl⟩⟩

theorem Onward.trans {s t u : Controller} (first : Onward s t) (second : Onward t u) : Onward s u where
  now := first.now.trans second.now
  accepted := first.accepted.trans second.accepted
  sendErrors := first.sendErrors.trans second.sendErrors
  receiveErrors := first.receiveErrors.trans second.receiveErrors
  handles address h found := by
    obtain ⟨h₁, found₁, on₁⟩ := first.handles address h found
    obtain ⟨h₂, found₂, on₂⟩ := second.handles address h₁ found₁
    refine ⟨h₂, found₂, ⟨⟨on₂.same.motorId.trans on₁.same.motorId, on₂.same.feedbackId.trans on₁.same.feedbackId⟩,
      on₁.le.trans on₂.le, fun more => ?_⟩⟩
    by_cases early : h.feedbackUpdateCount < h₁.feedbackUpdateCount
    · obtain ⟨frame, added, feedback⟩ := on₁.counted early
      exact ⟨frame, (added_trans first.accepted second.accepted).mpr (.inl added), feedback⟩
    · obtain ⟨frame, added, feedback⟩ := on₂.counted (by omega)
      exact ⟨frame, (added_trans first.accepted second.accepted).mpr (.inr added), feedback.of_same on₁.same⟩

/-- A step that leaves the handles and their feedback alone. -/
theorem Onward.of_same {s s' : Controller} (now : s.now ≤ s'.now) (handles : s'.handles = s.handles)
    (accepted : s'.accepted = s.accepted) (sendErrors : s.health.sendErrors ≤ s'.health.sendErrors)
    (receiveErrors : s.health.receiveErrors ≤ s'.health.receiveErrors) : Onward s s' where
  now := now
  accepted := ⟨[], by rw [accepted, List.append_nil]⟩
  sendErrors := sendErrors
  receiveErrors := receiveErrors
  handles address h found := ⟨h, by rw [handles, found], .refl⟩

/-- The handles and the log of accepted frames after a change of one handle. -/
theorem Onward.of_set {s : Controller} {address : ℕ} {h : MotorHandle} (h' : MotorHandle)
    (more : List (ℕ × CanFrame)) (found : s.handles[address]? = some h)
    (onward : HandleOnward address h s.accepted (s.accepted ++ more) h') :
    Onward s { s with handles := s.handles.set address h', accepted := s.accepted ++ more } where
  now := le_rfl
  accepted := List.prefix_append _ _
  sendErrors := le_rfl
  receiveErrors := le_rfl
  handles other g present := by
    by_cases same : other = address
    · subst same
      obtain rfl := Option.some.inj (present.symm.trans found)
      exact ⟨h', List.getElem?_set_self (lt_length_of_getElem? found), onward⟩
    · exact ⟨g, (List.getElem?_set_ne (Ne.symm same)).trans present, .refl⟩

namespace Controller

variable {s : Controller}

/-- A rejected frame changes only what the handle counts as rejected. -/
theorem onward_reject {address : ℕ} {h : MotorHandle} (found : s.handles[address]? = some h) (frame : CanFrame) :
    Onward s { s with handles := s.handles.set address (h.acceptsFrame frame).2 } := by
  have onward := Onward.of_set (h.acceptsFrame frame).2 [] found
    ⟨MotorHandle.sameIdentity_acceptsFrame, MotorHandle.feedbackUpdateCount_acceptsFrame.ge,
      fun more => absurd more (by rw [MotorHandle.feedbackUpdateCount_acceptsFrame]; exact lt_irrefl _)⟩
  simpa only [List.append_nil] using onward

/-- A handle that accepts a frame processes it. -/
theorem onward_process {address : ℕ} {h : MotorHandle} (found : s.handles[address]? = some h) {frame : CanFrame}
    (accepted : (h.acceptsFrame frame).1 = true) :
    Onward s (s.process address (h.acceptsFrame frame).2 frame) := by
  have before : (h.acceptsFrame frame).2.feedbackUpdateCount = h.feedbackUpdateCount :=
    MotorHandle.feedbackUpdateCount_acceptsFrame
  have same : h.SameIdentity ((h.acceptsFrame frame).2.processFeedbackFrame frame s.now) :=
    ⟨MotorHandle.sameIdentity_processFeedbackFrame.motorId.trans MotorHandle.sameIdentity_acceptsFrame.motorId,
      MotorHandle.sameIdentity_processFeedbackFrame.feedbackId.trans MotorHandle.sameIdentity_acceptsFrame.feedbackId⟩
  by_cases counted : (h.acceptsFrame frame).2.feedbackUpdateCount <
      ((h.acceptsFrame frame).2.processFeedbackFrame frame s.now).feedbackUpdateCount
  · have onward := Onward.of_set ((h.acceptsFrame frame).2.processFeedbackFrame frame s.now) [(address, frame)] found
      ⟨same, before ▸ counted.le, fun _ => ⟨frame, added_append.mpr (List.mem_singleton_self _),
        MotorHandle.isFeedback_of_counted accepted counted⟩⟩
    simpa only [process, if_pos counted] using onward
  · have equal : ((h.acceptsFrame frame).2.processFeedbackFrame frame s.now).feedbackUpdateCount =
        (h.acceptsFrame frame).2.feedbackUpdateCount :=
      MotorHandle.feedbackUpdateCount_processFeedbackFrame.resolve_right fun more => counted (by omega)
    have onward := Onward.of_set ((h.acceptsFrame frame).2.processFeedbackFrame frame s.now) [] found
      ⟨same, (equal.trans before).ge, fun more => absurd more (by rw [equal, before]; exact lt_irrefl _)⟩
    simpa only [process, if_neg counted, List.append_nil] using onward

theorem onward_receiveBy (frame : CanFrame) (motors : List MotorRef) (s : Controller) :
    Onward s (receiveBy frame motors s) := by
  induction motors generalizing s with
  | nil => exact Onward.refl s
  | cons motor rest ih =>
    unfold receiveBy
    cases found : s.handles[motor.address]? with
    | none => exact ih s
    | some h =>
      dsimp only
      split_ifs with accepted
      · exact onward_process found accepted
      · exact (onward_reject found frame).trans (ih _)

theorem onward_recordSendError (refusal : Refusal) : Onward s (s.recordSendError refusal) :=
  .of_same le_rfl rfl rfl (Nat.le_succ _) le_rfl

theorem onward_recordReceiveError (refusal : Refusal) : Onward s (s.recordReceiveError refusal) :=
  .of_same le_rfl rfl rfl le_rfl (Nat.le_succ _)

/-- A new handle. -/
theorem onward_make (h : MotorHandle) (motors : MotorTable) :
    Onward s { s with handles := s.handles ++ [h], motors := motors } where
  now := le_rfl
  accepted := List.prefix_rfl
  sendErrors := le_rfl
  receiveErrors := le_rfl
  handles _ g found := ⟨g, getElem?_grows (List.prefix_append _ _) found, .refl⟩

/-- A frame changes handles, not the table or the flags. -/
theorem receiveBy_keeps {β : Type} {view : Controller → β}
    (handles : ∀ (s : Controller) hs, view { s with handles := hs } = view s)
    (logs : ∀ (s : Controller) log, view { s with accepted := log } = view s) (frame : CanFrame)
    (motors : List MotorRef) (s : Controller) : view (receiveBy frame motors s) = view s := by
  induction motors generalizing s with
  | nil => rfl
  | cons motor rest ih =>
    unfold receiveBy
    cases s.handles[motor.address]? with
    | none => exact ih s
    | some h =>
      dsimp only
      split_ifs
      · exact (logs { s with handles := s.handles.set _ _ } _).trans (handles s _)
      · exact (ih _).trans (handles s _)

theorem motors_receive {frame : CanFrame} : (s.receive frame).motors = s.motors :=
  receiveBy_keeps (fun _ _ => rfl) (fun _ _ => rfl) frame _ s

theorem Moves.onward {adds : Prop} {s' : Controller} (moves : Moves adds s s') : Onward s s' := by
  cases moves with
  | elapse d => exact .of_same (Nat.le_add_right _ _) rfl rfl le_rfl le_rfl
  | receive frame => exact onward_receiveBy frame _ s
  | sendError refusal => exact onward_recordSendError refusal
  | receiveError refusal => exact onward_recordReceiveError refusal
  | close => exact .of_same le_rfl rfl rfl le_rfl le_rfl
  | add allowed h => exact onward_make h _

end Controller

theorem Meanwhile.onward {adds : Prop} {site : ControllerSite} {s found : Controller}
    (meanwhile : Meanwhile adds site s found) : Onward s found := by
  induction meanwhile with
  | refl => exact Onward.refl _
  | tail _ move ih => exact ih.trans move.onward

/-! ## The motor table -/

/-- Every entry of the table has the handle of its motor. -/
def Controller.TableValid (s : Controller) : Prop :=
  ∀ motor ∈ s.motors.entries, ∃ h, s.handles[motor.address]? = some h ∧ h.motorId = motor.motorId

/-- A later state with the same table. -/
theorem Controller.TableValid.onward {s s' : Controller} (valid : s.TableValid) (onward : Onward s s')
    (motors : s'.motors = s.motors) : s'.TableValid := by
  intro motor member
  obtain ⟨h, found, same⟩ := valid motor (motors ▸ member)
  obtain ⟨h', found', on⟩ := onward.handles _ _ found
  exact ⟨h', found', on.same.motorId.trans same⟩

theorem Controller.Moves.tableValid {adds : Prop} {s s' : Controller} (moves : Moves adds s s')
    (valid : s.TableValid) : s'.TableValid := by
  have onward := moves.onward
  cases moves with
  | add allowed h =>
    intro motor member
    rcases mem_of_mem_emplaceRef member with rfl | member
    · exact ⟨h, List.getElem?_concat_length, rfl⟩
    · obtain ⟨g, found, same⟩ := valid motor member
      exact ⟨g, getElem?_grows (List.prefix_append _ _) found, same⟩
  | receive frame => exact valid.onward onward motors_receive
  | _ => exact valid.onward onward rfl

theorem Meanwhile.tableValid {adds : Prop} {site : ControllerSite} {s found : Controller}
    (meanwhile : Meanwhile adds site s found) (valid : s.TableValid) : found.TableValid := by
  induction meanwhile with
  | refl => exact valid
  | tail _ move ih => exact move.tableValid ih

/-- The controller in a later state with the same motors, as finalized as before. -/
structure Still (s s' : Controller) : Prop where
  onward : Onward s s'
  motors : s'.motors = s.motors
  finalized : s'.discoveryFinalized = s.discoveryFinalized

theorem Still.refl (s : Controller) : Still s s := ⟨.refl s, rfl, rfl⟩

theorem Still.trans {s t u : Controller} (first : Still s t) (second : Still t u) : Still s u :=
  ⟨first.onward.trans second.onward, second.motors.trans first.motors, second.finalized.trans first.finalized⟩

/-- Where no motor is added, the motors stay. -/
theorem Meanwhile.still {site : ControllerSite} {s found : Controller} (meanwhile : Meanwhile False site s found) :
    Still s found := by
  induction meanwhile with
  | refl => exact Still.refl _
  | @tail t _ _ move ih =>
    refine ih.trans ⟨move.onward, ?_, ?_⟩
    · cases move with
      | receive frame => exact Controller.motors_receive
      | add allowed h => exact allowed.elim
      | _ => rfl
    · cases move with
      | receive frame => exact Controller.receiveBy_keeps (fun _ _ => rfl) (fun _ _ => rfl) frame _ t
      | add allowed h => exact allowed.elim
      | _ => rfl

/-! ## The sections of a call -/

/-- Every section of the program moves the controller on. -/
def MovesOn {α : Type} (p : ControllerProgram α) : Prop := p.Every fun _ _ act => ∀ i s, Onward s (act i s)

namespace Controller

theorem movesOn_look {α : Type} (site : ControllerSite) (f : Controller → α) : MovesOn (look site f) :=
  every_atomic fun _ s => Onward.refl s

theorem movesOn_send {site : ControllerSite} {sent : Controller → Controller} (onward : ∀ s, Onward s (sent s)) :
    MovesOn (send site sent) := by
  refine every_await fun i s => ?_
  dsimp only
  cases i.refusal with
  | some refusal => exact onward_recordSendError refusal
  | none => exact onward s

theorem movesOn_requestFeedback (motor : MotorRef) : MovesOn (requestFeedback motor) :=
  movesOn_send fun s => Onward.refl s

theorem updateCountAt_le {s s' : Controller} (onward : Onward s s') (address : ℕ) :
    s.updateCountAt address ≤ s'.updateCountAt address := by
  cases found : s.handles[address]? with
  | none => simp [updateCountAt, found]
  | some h =>
    obtain ⟨h', found', on⟩ := onward.handles address h found
    simpa [updateCountAt, found, found'] using on.le

/-- Feedback that was counted at an address. -/
theorem counted_of_updateCountAt {s s' : Controller} {address : ℕ} (onward : Onward s s')
    (more : s.updateCountAt address < s'.updateCountAt address) {h : MotorHandle}
    (found : s.handles[address]? = some h) : FeedbackCounted address h s.accepted s'.accepted := by
  obtain ⟨h', found', on⟩ := onward.handles address h found
  refine on.counted ?_
  simpa [updateCountAt, found, found'] using more

/-! ### Weakest preconditions -/

section Wp

variable {adds : Prop} {α : Type} {E : ControllerError → Controller → Prop} {s : Controller}

theorem wp_look {site : ControllerSite} {f : Controller → α} {Q : α → Controller → Prop}
    (holds : ∀ found, Meanwhile adds site s found → Q (f found) found) : (look site f).wp (Meanwhile adds) Q E s :=
  wp_atomic.mpr fun _ found meanwhile => holds found meanwhile

theorem wp_waitForFeedbackAfter {address previousCount deadline : ℕ} {Q : Bool → Controller → Prop}
    (holds : ∀ found, Meanwhile adds (.awaitFeedback address) s found →
      previousCount < found.updateCountAt address ∨ deadline ≤ found.now →
      Q (decide (previousCount < found.updateCountAt address)) found) :
    (waitForFeedbackAfter address previousCount deadline).wp (Meanwhile adds) Q E s := by
  refine wp_await.mpr fun _ found meanwhile isReady => ⟨fun a answer => ?_, nofun⟩
  rw [Bool.or_eq_true, decide_eq_true_eq, decide_eq_true_eq] at isReady
  exact Except.ok.inj answer ▸ holds found meanwhile isReady

theorem wp_send {site : ControllerSite} {sent : Controller → Controller} {Q : Unit → Controller → Prop}
    (accepted : ∀ found, Meanwhile adds site s found → Q () (sent found))
    (refused : ∀ found refusal, Meanwhile adds site s found →
      E (.transport refusal) (found.recordSendError refusal)) :
    (send site sent).wp (Meanwhile adds) Q E s := by
  refine wp_await.mpr fun i found meanwhile _ => ?_
  cases i.refusal with
  | some refusal => exact ⟨nofun, fun e same => Except.error.inj same ▸ refused found refusal meanwhile⟩
  | none => exact ⟨fun _ _ => accepted found meanwhile, nofun⟩

end Wp

end Controller

end MotorDrive.Damiao
