import MotorDrive.Damiao.Filter
import MotorDrive.Damiao.Routing

/-!
# The accounting of received frames

Every frame that reaches a handle has one effect on it: a sensor update, a register reply, a register
acknowledgement or a rejection with one of three reasons, and the rejections are the sum of their reasons.  The
payload alone tells register frames from sensor frames, so a sensor frame near the lower limit of the position may be
taken for a register frame.
-/

namespace MotorDrive.Damiao

open Proc Controller History

/-! ## Effects -/

/-- What a frame may do to a handle. -/
inductive FrameEffect
  | sensorUpdate
  | registerReply
  | registerAck
  | shortFrame
  | identityMismatch
  | implausiblePositionJump
  deriving DecidableEq

/-- The frame is neither consumed nor rejected as a register frame. -/
def FrameEffect.Sensed (effect : FrameEffect) : Prop :=
  effect ≠ .registerReply ∧ effect ≠ .registerAck ∧ effect ≠ .identityMismatch

/-- The rejections are the sum of their reasons. -/
def FeedbackIntegrityStats.Balanced (stats : FeedbackIntegrityStats) : Prop :=
  stats.rejectedFrameCount =
    stats.shortFrameCount + stats.identityMismatchCount + stats.implausiblePositionJumpCount

namespace MotorHandle

/-- A frame that is received at `now` has the effect on a handle: what the handle becomes. -/
inductive Affected (h : MotorHandle) (frame : CanFrame) (now : ℕ) : FrameEffect → MotorHandle → Prop
  | sensorUpdate : Affected h frame now .sensorUpdate (h.store frame now (decodeSensorFeedback frame.data h.limits))
  | registerReply (rid : UInt8) (value : Word) (replies : frame.replies = some (rid, value)) :
    Affected h frame now .registerReply
      { h with registerReplies := Function.update h.registerReplies rid (some (value, now)) }
  | registerAck (rid : UInt8) (value : Word) (acknowledges : frame.acknowledges = some (rid, value)) :
    Affected h frame now .registerAck
      { h with
        registerAcks := Function.update h.registerAcks rid (some (value, now))
        registerAckUpdateCounts :=
          Function.update h.registerAckUpdateCounts rid (h.registerAckUpdateCounts rid + 1) }
  | shortFrame : Affected h frame now .shortFrame h.rejectShort
  | identityMismatch : Affected h frame now .identityMismatch h.rejectIdentity
  | implausiblePositionJump : Affected h frame now .implausiblePositionJump h.rejectJump

/-- The frame has the address and the identity of the handle. -/
structure Takes (h : MotorHandle) (frame : CanFrame) : Prop where
  standard : frame.isExtended = false
  addressed : matchesFeedbackArbitrationId frame.id h.feedbackId h.motorId = true
  length : frame.dlc = 8
  identity : decodedCanId frame.data = h.expectedCanId frame.data

variable {h h' : MotorHandle} {frame : CanFrame} {now : ℕ} {effect effect' : FrameEffect}

theorem acceptsFrame_iff_takes : (h.acceptsFrame frame).1 = true ↔ h.Takes frame := by
  constructor
  · intro accepted
    unfold acceptsFrame at accepted
    split_ifs at accepted with foreign short identity
    simp only [Bool.or_eq_true, Bool.not_eq_true', not_or, Bool.not_eq_true, Bool.not_eq_false] at foreign
    exact ⟨foreign.1, foreign.2, not_not.mp short, not_not.mp identity⟩
  · rintro ⟨standard, addressed, length, identity⟩
    simp [acceptsFrame, standard, addressed, length, identity]

/-- The counters that an effect moves. -/
theorem Affected.counts (affected : h.Affected frame now effect h') :
    h'.feedbackUpdateCount = h.feedbackUpdateCount + (if effect = .sensorUpdate then 1 else 0) ∧
      h'.integrity.shortFrameCount = h.integrity.shortFrameCount + (if effect = .shortFrame then 1 else 0) ∧
      h'.integrity.identityMismatchCount =
        h.integrity.identityMismatchCount + (if effect = .identityMismatch then 1 else 0) ∧
      h'.integrity.implausiblePositionJumpCount =
        h.integrity.implausiblePositionJumpCount + (if effect = .implausiblePositionJump then 1 else 0) := by
  cases affected <;> exact ⟨rfl, rfl, rfl, rfl⟩

theorem Affected.register (affected : h.Affected frame now effect h') :
    (effect = .registerReply → frame.replies.isSome) ∧ (effect = .registerAck → frame.acknowledges.isSome) := by
  cases affected <;> simp_all

/-- A frame has no two effects. -/
theorem Affected.unique (first : h.Affected frame now effect h') (second : h.Affected frame now effect' h') :
    effect = effect' := by
  obtain ⟨updates, shorts, mismatches, jumps⟩ := first.counts
  obtain ⟨updates', shorts', mismatches', jumps'⟩ := second.counts
  obtain ⟨replies, acks⟩ := first.register
  obtain ⟨replies', acks'⟩ := second.register
  have exclusive : ¬ (frame.replies.isSome ∧ frame.acknowledges.isSome) := by
    rintro ⟨reply, ack⟩
    obtain ⟨⟨rid, value⟩, acknowledges⟩ := Option.isSome_iff_exists.mp ack
    rw [replies_of_acknowledges acknowledges] at reply
    cases reply
  cases effect <;> cases effect' <;> first | rfl | (exfalso; simp_all)

/-- Every effect but that of a register reply changes the handle. -/
theorem Affected.eq_registerReply (affected : h.Affected frame now effect h') (same : h' = h) :
    effect = .registerReply := by
  cases affected with
  | sensorUpdate => exact absurd (congrArg MotorHandle.feedbackUpdateCount same) (Nat.succ_ne_self _)
  | registerReply rid value replies => rfl
  | registerAck rid value acknowledges =>
    have count : Function.update h.registerAckUpdateCounts rid (h.registerAckUpdateCounts rid + 1) rid =
      h.registerAckUpdateCounts rid := congrFun (congrArg MotorHandle.registerAckUpdateCounts same) rid
    rw [Function.update_self] at count
    exact absurd count (Nat.succ_ne_self _)
  | shortFrame => exact absurd (congrArg (fun h => h.integrity.shortFrameCount) same) (Nat.succ_ne_self _)
  | identityMismatch => exact absurd (congrArg (fun h => h.integrity.identityMismatchCount) same) (Nat.succ_ne_self _)
  | implausiblePositionJump =>
    exact absurd (congrArg (fun h => h.integrity.implausiblePositionJumpCount) same) (Nat.succ_ne_self _)

/-- The effect of a frame on a handle that it is addressed to. -/
def effectOf (h : MotorHandle) (frame : CanFrame) (now : ℕ) : FrameEffect :=
  if frame.dlc ≠ 8 then .shortFrame
  else if decodedCanId frame.data ≠ h.expectedCanId frame.data then .identityMismatch
  else if isRegisterReply frame.data then .registerReply
  else if isRegisterWriteAck frame.data then .registerAck
  else if h.jumps now (decodeSensorFeedback frame.data h.limits) then .implausiblePositionJump
  else .sensorUpdate

/-- A frame that arrives at a handle which it is addressed to has its effect. -/
theorem affected_arrive (standard : frame.isExtended = false)
    (addressed : matchesFeedbackArbitrationId frame.id h.feedbackId h.motorId = true) :
    h.Affected frame now (h.effectOf frame now) (h.arrive (frame, now)).1 := by
  have arrived : (h.arrive (frame, now)).1 = if (h.acceptsFrame frame).1 then
      (h.acceptsFrame frame).2.processFeedbackFrame frame now else (h.acceptsFrame frame).2 := rfl
  unfold effectOf
  by_cases taken : h.Takes frame
  · have accepted := acceptsFrame_iff_takes.mpr taken
    rw [arrived, if_pos accepted, eq_of_acceptsFrame accepted, if_neg (not_not.mpr taken.length),
      if_neg (not_not.mpr taken.identity)]
    unfold processFeedbackFrame
    dsimp only
    split_ifs with reply ack jump
    · exact .registerReply _ _ (if_pos reply)
    · exact .registerAck _ _ (if_pos ack)
    · exact .implausiblePositionJump
    · exact .sensorUpdate
  · rw [arrived, if_neg (mt acceptsFrame_iff_takes.mp taken)]
    have passes : ¬ (frame.isExtended || !matchesFeedbackArbitrationId frame.id h.feedbackId h.motorId) = true := by
      simp [standard, addressed]
    unfold acceptsFrame
    rw [if_neg passes]
    by_cases short : frame.dlc ≠ 8
    · rw [if_pos short, if_pos short]
      exact .shortFrame
    · by_cases identity : decodedCanId frame.data ≠ h.expectedCanId frame.data
      · rw [if_neg short, if_neg short, if_pos identity, if_pos identity]
        exact .identityMismatch
      · exact absurd ⟨standard, addressed, not_not.mp short, not_not.mp identity⟩ taken

/-- A sensor frame of the motor, by the identity in its payload. -/
def Signs (h : MotorHandle) (frame : CanFrame) : Prop :=
  (decodeSensorFeedback frame.data h.limits).canId.toUInt16 = h.motorId &&& 0x0F

/-- A frame of eight bytes with the identity of a sensor frame is taken for one unless it reads as a register frame. -/
theorem sensed_effectOf_iff (signs : h.Signs frame) : (h.effectOf frame now).Sensed ↔
    (frame.dlc = 8 → ¬ (isRegisterReply frame.data || isRegisterWriteAck frame.data)) := by
  unfold effectOf FrameEffect.Sensed
  by_cases length : frame.dlc = 8
  · by_cases register : (isRegisterReply frame.data || isRegisterWriteAck frame.data) = true
    · simp only [length, register, ne_eq, not_true_eq_false, if_false, forall_true_left, iff_false]
      rcases Bool.or_eq_true_iff.mp register with reply | ack
      · split_ifs <;> simp_all
      · split_ifs <;> simp_all
    · have same : decodedCanId frame.data = h.expectedCanId frame.data := by
        rw [decodedCanId, expectedCanId, if_neg register, if_neg register]
        exact signs
      simp only [Bool.or_eq_true, not_or] at register
      simp only [length, same, register, ne_eq, not_true_eq_false, if_false]
      split_ifs <;> simp_all
  · simp [length]

end MotorHandle

/-! ## Routing -/

section Receive

variable {s : Controller} {frame : CanFrame} {motor : MotorRef} {earlier later : List MotorRef} {h : MotorHandle}

/-- A frame changes no handle but those it is offered to. -/
theorem handles_receiveBy_of_ne {address : ℕ} {motors : List MotorRef}
    (other : ∀ motor ∈ motors, motor.address ≠ address) :
    (receiveBy frame motors s).handles[address]? = s.handles[address]? := by
  induction motors generalizing s with
  | nil => rfl
  | cons motor rest ih =>
    obtain ⟨ne, other⟩ := List.forall_mem_cons.mp other
    unfold receiveBy
    cases s.handles[motor.address]? with
    | none => exact ih other
    | some g =>
      dsimp only
      split_ifs
      · exact List.getElem?_set_ne ne
      · exact (ih other).trans (List.getElem?_set_ne ne)

/-- The first motor of the table, if the frame has its identity. -/
theorem receiveBy_of_takes (found : s.handles[motor.address]? = some h) (takes : h.Takes frame) :
    receiveBy frame (motor :: later) s = s.process motor.address h frame := by
  have accepted := MotorHandle.acceptsFrame_iff_takes.mpr takes
  simp only [receiveBy, found]
  rw [if_pos accepted, eq_of_acceptsFrame accepted]

theorem receiveBy_of_not_takes (found : s.handles[motor.address]? = some h) (passes : ¬ h.Takes frame) :
    receiveBy frame (motor :: later) s =
      receiveBy frame later { s with handles := s.handles.set motor.address (h.arrive (frame, s.now)).1 } := by
  have refused := mt MotorHandle.acceptsFrame_iff_takes.mp passes
  have arrived : (h.arrive (frame, s.now)).1 = (h.acceptsFrame frame).2 := by
    simp only [MotorHandle.arrive]
    rw [if_neg refused]
  simp only [receiveBy, found]
  rw [if_neg refused, arrived]

/-- A frame that no earlier motor takes arrives at the handle. -/
theorem handles_receiveBy (distinct : ((earlier ++ motor :: later).map MotorRef.address).Nodup)
    (found : s.handles[motor.address]? = some h)
    (free : ∀ other ∈ earlier, ∀ g, s.handles[other.address]? = some g → ¬ g.Takes frame) :
    (receiveBy frame (earlier ++ motor :: later) s).handles[motor.address]? =
      some (h.arrive (frame, s.now)).1 := by
  induction earlier generalizing s with
  | nil =>
    have others : ∀ other ∈ later, other.address ≠ motor.address := fun other member same =>
      (List.nodup_cons.mp distinct).1 (same ▸ List.mem_map_of_mem member)
    by_cases takes : h.Takes frame
    · have accepted := MotorHandle.acceptsFrame_iff_takes.mpr takes
      have arrived : (h.arrive (frame, s.now)).1 = h.processFeedbackFrame frame s.now := by
        simp only [MotorHandle.arrive]
        rw [if_pos accepted, eq_of_acceptsFrame accepted]
      rw [List.nil_append, receiveBy_of_takes found takes, arrived]
      exact List.getElem?_set_self (lt_length_of_getElem? found)
    · rw [List.nil_append, receiveBy_of_not_takes found takes, handles_receiveBy_of_ne others]
      exact List.getElem?_set_self (lt_length_of_getElem? found)
  | cons first rest ih =>
    obtain ⟨absent, distinct⟩ := List.nodup_cons.mp distinct
    obtain ⟨passes, free⟩ := List.forall_mem_cons.mp free
    have ne : ∀ other ∈ rest ++ motor :: later, first.address ≠ other.address := fun other member same =>
      absent (same ▸ List.mem_map_of_mem member)
    have apart : first.address ≠ motor.address := ne motor (List.mem_append_right _ List.mem_cons_self)
    rw [List.cons_append]
    cases at_ : s.handles[first.address]? with
    | none =>
      simp only [receiveBy, at_]
      exact ih distinct found free
    | some g =>
      rw [receiveBy_of_not_takes at_ (passes g at_)]
      refine ih distinct ((List.getElem?_set_ne apart).trans found) fun other member g' at_' => ?_
      refine free other member g' ?_
      rw [← at_']
      exact (List.getElem?_set_ne (ne other (List.mem_append_left _ member))).symm

/-- A frame that an earlier motor takes does not reach the handle. -/
theorem handles_receiveBy_of_taken (distinct : ((earlier ++ motor :: later).map MotorRef.address).Nodup)
    (taken : ∃ other ∈ earlier, ∃ g, s.handles[other.address]? = some g ∧ g.Takes frame) :
    (receiveBy frame (earlier ++ motor :: later) s).handles[motor.address]? = s.handles[motor.address]? := by
  induction earlier generalizing s with
  | nil =>
    obtain ⟨other, none, -⟩ := taken
    exact absurd none List.not_mem_nil
  | cons first rest ih =>
    obtain ⟨absent, distinct⟩ := List.nodup_cons.mp distinct
    have ne : ∀ other ∈ rest ++ motor :: later, first.address ≠ other.address := fun other member same =>
      absent (same ▸ List.mem_map_of_mem member)
    have apart : first.address ≠ motor.address := ne motor (List.mem_append_right _ List.mem_cons_self)
    rw [List.cons_append]
    cases at_ : s.handles[first.address]? with
    | none =>
      simp only [receiveBy, at_]
      refine ih distinct ?_
      obtain ⟨other, member, g, at_', takes⟩ := taken
      rcases List.mem_cons.mp member with rfl | member
      · rw [at_] at at_'
        cases at_'
      · exact ⟨other, member, g, at_', takes⟩
    | some g =>
      by_cases takes : g.Takes frame
      · rw [receiveBy_of_takes at_ takes]
        exact List.getElem?_set_ne apart
      · rw [receiveBy_of_not_takes at_ takes]
        refine (ih distinct ?_).trans (List.getElem?_set_ne apart)
        obtain ⟨other, member, g', at_', takes'⟩ := taken
        rcases List.mem_cons.mp member with rfl | member
        · cases at_.symm.trans at_'
          exact absurd takes' takes
        · exact ⟨other, member, g', (List.getElem?_set_ne (ne other (List.mem_append_left _ member))).trans at_', takes'⟩

end Receive

/-! ## Rejections -/

theorem MotorHandle.balanced_acceptsFrame {h : MotorHandle} (balanced : h.integrity.Balanced) (frame : CanFrame) :
    (h.acceptsFrame frame).2.integrity.Balanced := by
  unfold FeedbackIntegrityStats.Balanced at balanced ⊢
  unfold MotorHandle.acceptsFrame
  split_ifs
  · exact balanced
  · simp only [MotorHandle.rejectShort]
    omega
  · simp only [MotorHandle.rejectIdentity]
    omega
  · exact balanced

theorem MotorHandle.balanced_processFeedbackFrame {h : MotorHandle} (balanced : h.integrity.Balanced)
    (frame : CanFrame) (now : ℕ) : (h.processFeedbackFrame frame now).integrity.Balanced := by
  unfold FeedbackIntegrityStats.Balanced at balanced ⊢
  unfold MotorHandle.processFeedbackFrame
  dsimp only
  split_ifs
  · exact balanced
  · exact balanced
  · simp only [MotorHandle.rejectJump]
    omega
  · exact balanced

/-- The handles from an address on are balanced, and the motor table has no others. -/
structure Accounts (n : ℕ) (s : Controller) : Prop where
  le : n ≤ s.handles.length
  handles : ∀ address h, n ≤ address → s.handles[address]? = some h → h.integrity.Balanced
  table : ∀ motor ∈ s.motors.entries, n ≤ motor.address

section Accounts

variable {n : ℕ} {s s' : Controller}

/-- A step that leaves the handles alone and adds no motor. -/
theorem Accounts.of_same (accounts : Accounts n s) (handles : s'.handles = s.handles)
    (motors : ∀ motor ∈ s'.motors.entries, motor ∈ s.motors.entries) : Accounts n s' where
  le := handles ▸ accounts.le
  handles address h above found := accounts.handles address h above (handles ▸ found)
  table motor member := accounts.table motor (motors motor member)

theorem Accounts.set (accounts : Accounts n s) {address : ℕ} {h h' : MotorHandle}
    (found : s.handles[address]? = some h) (balanced : h.integrity.Balanced → h'.integrity.Balanced)
    (handles : s'.handles = s.handles.set address h') (motors : s'.motors = s.motors) : Accounts n s' where
  le := by rw [handles, List.length_set]; exact accounts.le
  handles other g above at_ := by
    rw [handles] at at_
    by_cases same : other = address
    · subst same
      rw [List.getElem?_set_self (lt_length_of_getElem? found)] at at_
      cases at_
      exact balanced (accounts.handles other h above found)
    · rw [List.getElem?_set_ne (Ne.symm same)] at at_
      exact accounts.handles other g above at_
  table motor member := accounts.table motor (motors ▸ member)

theorem Accounts.receiveBy (accounts : Accounts n s) (frame : CanFrame) (motors : List MotorRef) :
    Accounts n (receiveBy frame motors s) := by
  induction motors generalizing s with
  | nil => exact accounts
  | cons motor rest ih =>
    unfold Controller.receiveBy
    cases found : s.handles[motor.address]? with
    | none => exact ih accounts
    | some h =>
      dsimp only
      split_ifs
      · exact accounts.set found
          (fun balanced => (h.acceptsFrame frame).2.balanced_processFeedbackFrame
            (h.balanced_acceptsFrame balanced frame) frame s.now) rfl rfl
      · exact ih (accounts.set found (fun balanced => h.balanced_acceptsFrame balanced frame) rfl rfl)

theorem Accounts.install (accounts : Accounts n s) {h : MotorHandle} (balanced : h.integrity.Balanced) :
    Accounts n (s.install h) where
  le := by
    simp only [Controller.install, List.length_append]
    exact Nat.le_add_right_of_le accounts.le
  handles address g above found := by
    by_cases old : address < s.handles.length
    · exact accounts.handles address g above ((List.getElem?_append_left old).symm.trans found)
    · have bound := lt_length_of_getElem? found
      simp only [Controller.install, List.length_append, List.length_singleton] at bound
      obtain rfl : address = s.handles.length := by omega
      cases List.getElem?_concat_length.symm.trans found
      exact balanced
  table motor member := by
    rcases mem_of_mem_emplaceRef member with rfl | member
    · exact accounts.le
    · exact accounts.table motor member

theorem Accounts.moves (accounts : Accounts n s) (moves : Moves False s s') : Accounts n s' := by
  cases moves with
  | receive frame => exact accounts.receiveBy frame _
  | add allowed h => exact allowed.elim
  | _ => exact accounts.of_same rfl fun _ member => member

theorem Accounts.meanwhile {site : ControllerSite} (accounts : Accounts n s) (meanwhile : Meanwhile False site s s') :
    Accounts n s' := by
  induction meanwhile with
  | refl => exact accounts
  | tail _ move ih => exact ih.moves move

end Accounts

/-! ## Discoveries -/

/-- Every section of the program keeps the accounts. -/
def KeepsAccounts {α : Type} (n : ℕ) (p : ControllerProgram α) : Prop :=
  p.Every fun _ _ act => ∀ i s, Accounts n s → Accounts n (act i s)

section Sections

variable {n : ℕ}

theorem keepsAccounts_look {α : Type} (site : ControllerSite) (f : Controller → α) :
    KeepsAccounts n (Controller.look site f) :=
  every_atomic fun _ _ accounts => accounts

theorem keepsAccounts_requestFeedback (motor : MotorRef) : KeepsAccounts n (requestFeedback motor) := by
  refine every_await fun i s accounts => ?_
  dsimp only
  cases i.refusal with
  | some refusal => exact accounts.of_same rfl fun _ member => member
  | none => exact accounts

theorem keepsAccounts_requestPending (probes : List Probe) : KeepsAccounts n (requestPending probes) := by
  induction probes with
  | nil => trivial
  | cons probe rest ih =>
    unfold requestPending
    split
    · exact every_bind (keepsAccounts_requestFeedback _) fun _ => ih
    · exact ih

theorem keepsAccounts_awaitProbe (attempt retryCount deadline : ℕ) (probe : Probe) (address : ℕ) :
    KeepsAccounts n (awaitProbe attempt retryCount deadline probe address) := by
  refine every_bind (every_await fun _ _ accounts => accounts) fun received => every_ite ?_ trivial
  refine every_bind (keepsAccounts_look _ _) fun state => every_ite trivial ?_
  exact every_bind (keepsAccounts_look _ _) fun _ => trivial

theorem keepsAccounts_awaitPending (attempt retryCount deadline : ℕ) (probes : List Probe) :
    KeepsAccounts n (awaitPending attempt retryCount deadline probes) := by
  induction probes with
  | nil => trivial
  | cons probe rest ih =>
    unfold awaitPending
    split
    · exact every_bind (keepsAccounts_awaitProbe _ _ _ _ _) fun _ => every_bind ih fun _ => trivial
    · exact every_bind ih fun _ => trivial

theorem keepsAccounts_attempts (timeout retryCount left : ℕ) (probes : List Probe) :
    KeepsAccounts n (attempts timeout retryCount left probes) := by
  induction left generalizing probes with
  | zero => trivial
  | succ left ih =>
    unfold attempts
    refine every_ite (every_bind (keepsAccounts_look _ _) fun _ => ?_) trivial
    exact every_bind (keepsAccounts_requestPending probes) fun _ =>
      every_bind (keepsAccounts_awaitPending _ _ _ probes) fun probes => ih probes

theorem accounts_setUp (candidates : List MotorCandidate) {s : Controller} (accounts : Accounts n s) :
    Accounts n (setUp candidates s).2 := by
  induction candidates generalizing s with
  | nil => exact accounts
  | cons candidate rest ih =>
    unfold setUp
    split_ifs
    · exact ih accounts
    · cases made : makeMotorHandle candidate.motorId candidate.feedbackId candidate.model with
      | error what => exact accounts
      | ok h =>
        refine ih (accounts.install ?_)
        cases limits : modelLimits candidate.model with
        | error what => simp [makeMotorHandle, limits, Except.map] at made
        | ok limits' =>
          simp only [makeMotorHandle, limits, Except.map] at made
          obtain rfl := Except.ok.inj made
          rfl

theorem accounts_eraseActive (candidates : List MotorCandidate) {table : MotorTable} {s : Controller}
    (accounts : Accounts n s) (within : ∀ motor ∈ table.entries, motor ∈ s.motors.entries) :
    Accounts n { s with motors := eraseActive candidates table } :=
  accounts.of_same rfl fun motor member => within motor (mem_eraseActive.mp member).1

theorem keepsAccounts_finalize (candidates : List MotorCandidate) (probes : List Probe) :
    KeepsAccounts n (await .finalize (fun _ => true) fun _ s => finalize candidates probes s) := by
  refine every_await fun _ s accounts => ?_
  have within : ∀ motor ∈ (settle probes s.motors).2.2.entries, motor ∈ s.motors.entries := fun motor member =>
    (((settled probes s.motors).table motor).mp member).1
  unfold finalize
  dsimp only
  split_ifs
  · exact accounts.of_same rfl within
  · exact accounts_eraseActive candidates accounts within

theorem keepsAccounts_discoverDamiaoMotors (candidates : List MotorCandidate) (timeout retryCount : ℕ) :
    KeepsAccounts n (discoverDamiaoMotors candidates timeout retryCount) := by
  unfold discoverDamiaoMotors
  refine every_ite trivial (every_ite trivial ?_)
  cases checkCandidates [] [] [] candidates with
  | error what => trivial
  | ok checks =>
    refine every_bind (every_await fun _ s accounts => ?_) fun _ => every_tryCatch ?_ fun error => ?_
    · dsimp only
      split_ifs <;> exact accounts
    · refine every_bind (every_await fun _ s accounts => accounts_setUp candidates accounts) fun probes => ?_
      refine every_bind (every_ite (every_await fun i s accounts => ?_) trivial) fun _ =>
        every_bind (keepsAccounts_attempts _ _ _ _) fun probes => keepsAccounts_finalize candidates probes
      dsimp only
      split_ifs
      · exact accounts
      · exact accounts.of_same rfl fun _ member => member
      · exact accounts.of_same rfl fun _ member => member
    · refine every_bind (every_atomic fun _ s accounts => ?_) fun _ => trivial
      dsimp only
      split_ifs
      · exact accounts
      · exact accounts_eraseActive candidates accounts fun _ member => member

end Sections

/-! ## Receptions -/

/-- A received frame, and whether a motor has sent it as its feedback. -/
structure Reception where
  frame : CanFrame
  feedback : Bool

/-- No motor with a smaller identifier takes the frame. -/
def Reaches (s : Controller) (motor : MotorRef) (frame : CanFrame) : Prop :=
  ∀ other ∈ s.motors.entries, other.motorId.toNat < motor.motorId.toNat →
    ∀ g, s.handles[other.address]? = some g → ¬ g.Takes frame

/-- Feedback of the motor that reads as a register frame. -/
structure Mistakable (h : MotorHandle) (r : Reception) : Prop where
  feedback : r.feedback = true
  signs : h.Signs r.frame
  length : r.frame.dlc = 8
  register : (isRegisterReply r.frame.data || isRegisterWriteAck r.frame.data) = true

/-- The reception of a frame has exactly one effect on the handle of a motor, and feedback of the motor is neither
consumed nor rejected as a register frame. -/
structure Accounted (s : Controller) (motor : MotorRef) (h : MotorHandle) (r : Reception) : Prop where
  effect : ∃! effect, ∃ h', (s.receive r.frame).handles[motor.address]? = some h' ∧
    h.Affected r.frame s.now effect h'
  sensor : r.feedback = true → h.Signs r.frame → ∀ effect h',
    (s.receive r.frame).handles[motor.address]? = some h' → h.Affected r.frame s.now effect h' → effect.Sensed

section Receptions

variable {s : Controller} {motor : MotorRef} {h : MotorHandle} {r : Reception}

/-- The handles of the table are at different addresses. -/
theorem nodup_addresses (valid : s.TableValid) : (s.motors.entries.map MotorRef.address).Nodup := by
  refine List.Nodup.map_on (fun motor member other member' same => ?_) (List.Nodup.of_map _ s.motors.nodup)
  obtain ⟨h, found, id⟩ := valid motor member
  obtain ⟨h', found', id'⟩ := valid other member'
  rw [same] at found
  cases found.symm.trans found'
  exact List.inj_on_of_nodup_map s.motors.nodup member member' (id.symm.trans id')

/-- The motors before one in the table are those with smaller identifiers. -/
theorem exists_split (member : motor ∈ s.motors.entries) : ∃ earlier later,
    s.motors.entries = earlier ++ motor :: later ∧
      ∀ other, other ∈ earlier ↔ other ∈ s.motors.entries ∧ other.motorId.toNat < motor.motorId.toNat := by
  obtain ⟨earlier, later, split⟩ := List.append_of_mem member
  refine ⟨earlier, later, split, fun other => ?_⟩
  have sorted := s.motors.sorted
  rw [split, List.pairwise_append] at sorted
  obtain ⟨-, after, before⟩ := sorted
  constructor
  · intro first
    exact ⟨split ▸ List.mem_append_left _ first, before other first motor List.mem_cons_self⟩
  · rintro ⟨listed, less⟩
    rw [split] at listed
    rcases List.mem_append.mp listed with first | last
    · exact first
    rcases List.mem_cons.mp last with rfl | last
    · exact absurd less (lt_irrefl _)
    · exact absurd ((List.pairwise_cons.mp after).1 other last) (by omega)

/-- What a frame that is received leaves at an address of the table. -/
theorem handles_receive (valid : s.TableValid) (member : motor ∈ s.motors.entries)
    (found : s.handles[motor.address]? = some h) (frame : CanFrame) :
    (Reaches s motor frame →
      (s.receive frame).handles[motor.address]? = some (h.arrive (frame, s.now)).1) ∧
    (¬ Reaches s motor frame → (s.receive frame).handles[motor.address]? = some h) := by
  obtain ⟨earlier, later, split, smaller⟩ := exists_split member
  have distinct := nodup_addresses valid
  rw [split] at distinct
  unfold Controller.receive
  rw [split]
  refine ⟨fun reaches => ?_, fun taken => ?_⟩
  · refine handles_receiveBy distinct found fun other first g at_ => ?_
    obtain ⟨listed, less⟩ := (smaller other).mp first
    exact reaches other listed less g at_
  · refine (handles_receiveBy_of_taken distinct ?_).trans found
    simp only [Reaches, not_forall, not_not] at taken
    obtain ⟨other, listed, less, g, at_, takes⟩ := taken
    exact ⟨other, (smaller other).mpr ⟨listed, less⟩, g, at_, takes⟩

/-- A frame that reaches a handle is accounted for unless it can be mistaken. -/
theorem accounted_iff (standard : r.frame.isExtended = false)
    (addressed : matchesFeedbackArbitrationId r.frame.id h.feedbackId h.motorId = true)
    (arrives : (s.receive r.frame).handles[motor.address]? = some (h.arrive (r.frame, s.now)).1) :
    Accounted s motor h r ↔ ¬ Mistakable h r := by
  have affected : h.Affected r.frame s.now (h.effectOf r.frame s.now) (h.arrive (r.frame, s.now)).1 :=
    MotorHandle.affected_arrive standard addressed
  constructor
  · rintro accounted ⟨feedback, signs, length, register⟩
    exact (MotorHandle.sensed_effectOf_iff signs).mp (accounted.sensor feedback signs _ _ arrives affected) length register
  · refine fun clear => ⟨⟨_, ⟨_, arrives, affected⟩, ?_⟩, fun feedback signs effect h' at_ other => ?_⟩
    · rintro effect ⟨h', at_, other⟩
      cases arrives.symm.trans at_
      exact other.unique affected
    · cases arrives.symm.trans at_
      rw [other.unique affected]
      exact (MotorHandle.sensed_effectOf_iff signs).mpr fun length register => clear ⟨feedback, signs, length, register⟩

/-- Of a frame that leaves the handle alone, only a register reply can be accounted for. -/
theorem not_accounted_of_unchanged (noReply : r.frame.replies = none)
    (unchanged : (s.receive r.frame).handles[motor.address]? = some h) : ¬ Accounted s motor h r := by
  intro accounted
  obtain ⟨effect, ⟨h', at_, affected⟩, -⟩ := accounted.effect
  have replied := affected.register.1 (affected.eq_registerReply (Option.some.inj (at_.symm.trans unchanged)))
  rw [noReply] at replied
  cases replied

end Receptions

/-- For every discovery that returns and every later state of its controller: the rejections that a handle of the
table counts are the sum of their reasons; a frame that is addressed to the handle and not taken by a motor with a
smaller identifier is accounted for unless it is feedback that reads as a register frame; a frame that such a motor
takes leaves the handle alone; and so only these frames are accounted for, register replies apart, of which a repeated
one leaves the handle alone as well. -/
theorem frame_accounting (candidates : List MotorCandidate) (timeout retryCount : ℕ) (s found s' : Controller)
    (trace : ControllerTrace) (results : List MotorDiscoveryResult)
    (runs : (discoverDamiaoMotors candidates timeout retryCount).Runs (Meanwhile False) s trace (.ok results) found)
    (later : Relation.ReflTransGen (Moves False) found s') (motor : MotorRef) (member : motor ∈ s'.motors.entries)
    (h : MotorHandle) (at_ : s'.handles[motor.address]? = some h) :
    h.integrity.Balanced ∧
    ∀ r : Reception, r.frame.isExtended = false →
      matchesFeedbackArbitrationId r.frame.id h.feedbackId h.motorId = true →
        (Reaches s' motor r.frame → (Accounted s' motor h r ↔ ¬ Mistakable h r)) ∧
        (¬ Reaches s' motor r.frame → (s'.receive r.frame).handles[motor.address]? = some h) ∧
        (r.frame.replies = none → (Accounted s' motor h r ↔ Reaches s' motor r.frame ∧ ¬ Mistakable h r)) := by
  have can : s.CanDiscover := by
    by_contra cannot
    exact (wp_iff.mp (wp_forbidden cannot) trace _ found runs).1 results rfl
  have meanwhile : Meanwhile False .sorted found s' := later
  have start : Accounts s.handles.length s :=
    ⟨le_rfl, fun address h above at_ => absurd (lt_length_of_getElem? at_) (by omega),
      fun motor listed => absurd (can.1 ▸ listed) List.not_mem_nil⟩
  have accounts : Accounts s.handles.length s' :=
    ((runs.keeps (fun _ _ _ meanwhile accounts => accounts.meanwhile meanwhile)
      (keepsAccounts_discoverDamiaoMotors candidates timeout retryCount) start).1).meanwhile meanwhile
  have complete := (wp_iff.mp (wp_discoverDamiaoMotors can) trace _ found runs).1 results rfl
  have valid : s'.TableValid := by
    refine meanwhile.tableValid fun motor listed => ?_
    obtain ⟨candidate, -, -, -, id, h, at_, motorId, -⟩ := serves_of_complete complete motor listed
    exact ⟨h, at_, motorId.trans id⟩
  refine ⟨accounts.handles _ h (accounts.table motor member) at_, fun r standard addressed => ?_⟩
  obtain ⟨reached, passed⟩ := handles_receive valid member at_ r.frame
  have exactly : Reaches s' motor r.frame → (Accounted s' motor h r ↔ ¬ Mistakable h r) :=
    fun reaches => accounted_iff standard addressed (reached reaches)
  refine ⟨exactly, passed, fun noReply => ⟨fun accounted => ?_, fun both => (exactly both.1).mpr both.2⟩⟩
  have reaches : Reaches s' motor r.frame := by
    by_contra taken
    exact not_accounted_of_unchanged noReply (passed taken) accounted
  exact ⟨reaches, (exactly reaches).mp accounted⟩

/-- The handle of motor 1 after the discovery. -/
def foundHandle : MotorHandle := (firstHandle.arrive (sensorFrame 0x11 1, 0)).1

/-- Another sensor frame of motor 1 after its discovery. -/
theorem frame_accounting_first : Accounted { firstFound with discoveryFinalized := true } ⟨1, 0⟩ foundHandle
    ⟨sensorFrame 0x11 1, true⟩ := by
  obtain ⟨trace, runs⟩ := runs_first
  obtain ⟨-, accounting⟩ := frame_accounting firstRequired 10 0 noMotors _ _ trace _ runs .refl ⟨1, 0⟩
    (by decide +kernel) foundHandle rfl
  refine ((accounting ⟨sensorFrame 0x11 1, true⟩ rfl (by decide +kernel)).1 ?_).mpr ?_
  · intro other listed less
    obtain rfl : other = ⟨1, 0⟩ := List.mem_singleton.mp listed
    exact absurd less (lt_irrefl _)
  · rintro ⟨-, -, -, register⟩
    revert register
    decide +kernel

/-- Feedback of motor 1, enabled and near the lower limit, that is rejected as a register frame of another motor. -/
theorem frame_accounting_mistaken :
    let frame := standardFrame 0x11 #v[0x11, 0, 0x33, 0x0A, 0, 0x80, 0x20, 0x20]
    (∃ trace results, (discoverDamiaoMotors firstRequired 10 0).Runs (Meanwhile False) noMotors trace (.ok results)
      { firstFound with discoveryFinalized := true }) ∧
    matchesFeedbackArbitrationId frame.id foundHandle.feedbackId foundHandle.motorId = true ∧
    foundHandle.Signs frame ∧
    ¬ Accounted { firstFound with discoveryFinalized := true } ⟨1, 0⟩ foundHandle ⟨frame, true⟩ := by
  intro frame
  obtain ⟨trace, runs⟩ := runs_first
  have signs : foundHandle.Signs frame := by
    unfold MotorHandle.Signs
    decide +kernel
  have addressed : matchesFeedbackArbitrationId frame.id foundHandle.feedbackId foundHandle.motorId = true := by
    decide +kernel
  refine ⟨⟨trace, _, runs⟩, addressed, signs, fun accounted => ?_⟩
  have only : ∀ other ∈ ({ firstFound with discoveryFinalized := true } : Controller).motors.entries, other = ⟨1, 0⟩ :=
    fun other listed => List.mem_singleton.mp listed
  have valid : ({ firstFound with discoveryFinalized := true } : Controller).TableValid := by
    intro motor listed
    obtain rfl := only motor listed
    exact ⟨foundHandle, rfl, rfl⟩
  have reaches : Reaches { firstFound with discoveryFinalized := true } ⟨1, 0⟩ frame := by
    intro other listed less
    obtain rfl := only other listed
    exact absurd less (lt_irrefl _)
  have arrives := (handles_receive valid List.mem_cons_self (h := foundHandle) rfl frame).1 reaches
  exact (accounted_iff rfl addressed arrives).mp accounted ⟨rfl, signs, rfl, by decide +kernel⟩

end MotorDrive.Damiao
