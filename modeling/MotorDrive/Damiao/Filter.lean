import MotorDrive.Damiao.Feedback

/-!
# The filter of position jumps

What a handle does with the frames that arrive one after another.  A sensor frame is stored, unless its position is
too far from the last one that was stored; the distance that is allowed grows with the time since then, so no
rejection lasts.
-/

namespace MotorDrive.Damiao

open History

/-! ## Decoded values -/

/-- A code is decoded to a value between the limits. -/
theorem uintToFloat_mem {code bits : ℕ} {xMin xMax : ℚ} (ordered : xMin ≤ xMax) (codeLe : code ≤ 2 ^ bits - 1) :
    xMin ≤ uintToFloat code xMin xMax bits ∧ uintToFloat code xMin xMax bits ≤ xMax := by
  unfold uintToFloat
  have span : 0 ≤ xMax - xMin := sub_nonneg.mpr ordered
  have codeLe : (code : ℚ) ≤ (2 ^ bits - 1 : ℕ) := Nat.cast_le.mpr codeLe
  refine ⟨le_add_of_nonneg_left ?_, ?_⟩
  · positivity
  · have scaled : (code : ℚ) * (xMax - xMin) / (2 ^ bits - 1 : ℕ) ≤ xMax - xMin := by
      refine div_le_of_le_mul₀ (Nat.cast_nonneg _) span ?_
      rw [mul_comm]
      exact mul_le_mul_of_nonneg_left codeLe span
    linarith

theorem decoded_pos_mem {limits : Limits} (ordered : limits.pMin ≤ limits.pMax) (data : Payload) :
    limits.pMin ≤ (decodeSensorFeedback data limits).pos ∧ (decodeSensorFeedback data limits).pos ≤ limits.pMax := by
  refine uintToFloat_mem ordered ?_
  have high := data[1].toNat_lt
  have low := data[2].toNat_lt
  omega

/-- The limits of every model are ordered, and a motor can move. -/
theorem limits_of_model {model : String} {limits : Limits} (known : modelLimits model = .ok limits) :
    limits.pMin ≤ limits.pMax ∧ 0 < limits.vMax := by
  unfold modelLimits at known
  split_ifs at known <;> cases known <;> norm_num

/-! ## Arriving frames -/

/-- A frame arrives at a time: it is processed if it is accepted. -/
def MotorHandle.arrive (h : MotorHandle) (arrival : CanFrame × ℕ) : MotorHandle × Bool :=
  let (accepted, h') := h.acceptsFrame arrival.1
  (if accepted then h'.processFeedbackFrame arrival.1 arrival.2 else h', accepted)

/-- An arrival in a run. -/
abbrev Arrival := Entry MotorHandle (CanFrame × ℕ) Bool

/-- The arrival is stored as the state of the motor. -/
def Stores (e : Arrival) : Prop := e.before.feedbackUpdateCount < e.after.feedbackUpdateCount

/-- The handle accepts the frame, and it is no register frame. -/
structure MotorHandle.Senses (h : MotorHandle) (frame : CanFrame) : Prop where
  accepted : (h.acceptsFrame frame).1 = true
  reply : isRegisterReply frame.data = false
  ack : isRegisterWriteAck frame.data = false

/-- The state, its time and the number of states. -/
def MotorHandle.feedback (h : MotorHandle) : Option MotorState × Option ℕ × ℕ :=
  (h.state, h.stateTime, h.feedbackUpdateCount)

/-- What holds of a handle: its last state is within the limits and has a time. -/
structure Tracked (limits : Limits) (h : MotorHandle) : Prop where
  sameLimits : h.limits = limits
  timed : h.state.isSome = h.stateTime.isSome
  position : ∀ state, h.state = some state → limits.pMin ≤ state.pos ∧ state.pos ≤ limits.pMax

/-- The position of a frame is as near to the last one as the filter asks. -/
def Plausible (limits : Limits) (previous state : MotorState) (elapsed : ℕ) : Prop :=
  |state.pos - previous.pos| ≤ max (15 / 100) (3 / 100 +
    max (max |previous.vel| |state.vel| * 4) (|limits.vMax| * (3 / 2)) * (elapsed / (1000 * millisecond : ℕ)))

/-- What an arrival may do. -/
inductive Arrives (h : MotorHandle) (arrival : CanFrame × ℕ) (h' : MotorHandle) : Prop
  | ignored (feedback : h'.feedback = h.feedback) (limits : h'.limits = h.limits)
      (jump : h.Senses arrival.1 → h.jumps arrival.2 (decodeSensorFeedback arrival.1.data h.limits) = true)
  | stored (state : MotorState) (senses : h.Senses arrival.1)
      (position : state.pos = (decodeSensorFeedback arrival.1.data h.limits).pos)
      (feedback : h'.feedback = (some state, some arrival.2, h.feedbackUpdateCount + 1)) (limits : h'.limits = h.limits)
      (near : ∀ previous time, h.state = some previous → h.stateTime = some time →
        Plausible h.limits previous state (arrival.2 - time))

section Arrive

theorem feedback_acceptsFrame (h : MotorHandle) (frame : CanFrame) :
    (h.acceptsFrame frame).2.feedback = h.feedback ∧ (h.acceptsFrame frame).2.limits = h.limits := by
  unfold MotorHandle.acceptsFrame
  split_ifs <;> exact ⟨rfl, rfl⟩

theorem eq_of_acceptsFrame {h : MotorHandle} {frame : CanFrame} (accepted : (h.acceptsFrame frame).1 = true) :
    (h.acceptsFrame frame).2 = h := by
  unfold MotorHandle.acceptsFrame at accepted ⊢
  split_ifs at accepted ⊢
  rfl

theorem arrives (h : MotorHandle) (arrival : CanFrame × ℕ) : Arrives h arrival (h.arrive arrival).1 := by
  have arrived : (h.arrive arrival).1 = if (h.acceptsFrame arrival.1).1 then
      (h.acceptsFrame arrival.1).2.processFeedbackFrame arrival.1 arrival.2 else (h.acceptsFrame arrival.1).2 := rfl
  rw [arrived]
  split_ifs with accepted
  · rw [eq_of_acceptsFrame accepted]
    unfold MotorHandle.processFeedbackFrame
    dsimp only
    split_ifs with reply ack jump
    · refine .ignored rfl rfl fun senses => ?_
      rw [senses.reply] at reply
      cases reply
    · refine .ignored rfl rfl fun senses => ?_
      rw [senses.ack] at ack
      cases ack
    · exact .ignored rfl rfl fun _ => jump
    · refine .stored _ ⟨accepted, by simpa using reply, by simpa using ack⟩ rfl rfl rfl fun previous time at_ timed => ?_
      simp only [MotorHandle.jumps, at_, timed, decide_eq_true_eq, not_lt] at jump
      exact jump
  · obtain ⟨feedback, limits⟩ := feedback_acceptsFrame h arrival.1
    exact .ignored feedback limits fun senses => absurd senses.accepted accepted

/-- An arrival keeps the state within the limits. -/
theorem Tracked.arrive {limits : Limits} {h : MotorHandle} (tracked : Tracked limits h)
    (ordered : limits.pMin ≤ limits.pMax) (arrival : CanFrame × ℕ) : Tracked limits (h.arrive arrival).1 := by
  cases arrives h arrival with
  | ignored feedback same =>
    simp only [MotorHandle.feedback, Prod.mk.injEq] at feedback
    refine ⟨same.trans tracked.sameLimits, ?_, fun state at_ => ?_⟩
    · rw [feedback.1, feedback.2.1, tracked.timed]
    · exact tracked.position state (feedback.1 ▸ at_)
  | stored state senses position feedback same =>
    simp only [MotorHandle.feedback, Prod.mk.injEq] at feedback
    refine ⟨same.trans tracked.sameLimits, ?_, fun state' at_ => ?_⟩
    · rw [feedback.1, feedback.2.1]
      rfl
    · cases feedback.1.symm.trans at_
      rw [position, tracked.sameLimits]
      exact decoded_pos_mem ordered arrival.1.data

/-- No frame that arrives long enough after the last one that was stored jumps. -/
theorem not_jumps {limits : Limits} {h : MotorHandle} (tracked : Tracked limits h)
    (ordered : limits.pMin ≤ limits.pMax) (moves : 0 < limits.vMax) {now time : ℕ} (timed : h.stateTime = some time)
    (late : (limits.pMax - limits.pMin) / (3 / 2 * limits.vMax) ≤ ((now - time : ℕ) : ℚ) / (1000 * millisecond : ℕ))
    (data : Payload) : h.jumps now (decodeSensorFeedback data limits) = false := by
  obtain ⟨previous, at_⟩ := Option.isSome_iff_exists.mp (tracked.timed.trans (timed ▸ rfl))
  obtain ⟨low, high⟩ := decoded_pos_mem ordered data
  obtain ⟨previousLow, previousHigh⟩ := tracked.position previous at_
  have span : |(decodeSensorFeedback data limits).pos - previous.pos| ≤ limits.pMax - limits.pMin :=
    abs_sub_le_iff.mpr ⟨by linarith, by linarith⟩
  have far : limits.pMax - limits.pMin ≤
      3 / 2 * limits.vMax * (((now - time : ℕ) : ℚ) / (1000 * millisecond : ℕ)) := by
    rwa [div_le_iff₀' (by positivity)] at late
  have bounded : 3 / 2 * limits.vMax ≤
      max (max |previous.vel| |(decodeSensorFeedback data limits).vel| * 4) (|limits.vMax| * (3 / 2)) := by
    rw [abs_of_pos moves, mul_comm]
    exact le_max_right _ _
  have elapsed : 0 ≤ ((now - time : ℕ) : ℚ) / (1000 * millisecond : ℕ) := by positivity
  simp only [MotorHandle.jumps, at_, timed, decide_eq_false_iff_not, not_lt, MotorHandle.allowedDelta,
    tracked.sameLimits]
  refine span.trans (far.trans (le_max_of_le_right ?_))
  exact (mul_le_mul_of_nonneg_right bounded elapsed).trans (le_add_of_nonneg_left (by norm_num))

end Arrive

/-! ## Runs -/

section Run

/-- The arrivals of a list of frames at a handle. -/
def arrivals (h : MotorHandle) (frames : List (CanFrame × ℕ)) : List Arrival := run MotorHandle.arrive h frames

/-- The handle after a list of frames. -/
def afterArrivals (h : MotorHandle) (frames : List (CanFrame × ℕ)) : MotorHandle := final MotorHandle.arrive h frames

variable {motorId feedbackId : UInt16} {model : String} {h : MotorHandle}

theorem tracked_afterArrivals (made : makeMotorHandle motorId feedbackId model = .ok h)
    (frames : List (CanFrame × ℕ)) : ∃ limits, modelLimits model = .ok limits ∧ h.limits = limits ∧
      Tracked limits (afterArrivals h frames) := by
  cases known : modelLimits model with
  | error what => simp [makeMotorHandle, known, Except.map] at made
  | ok limits =>
    simp only [makeMotorHandle, known, Except.map] at made
    obtain rfl := Except.ok.inj made
    refine ⟨limits, rfl, rfl, ?_⟩
    exact history_induction MotorHandle.arrive (H := fun _ h => Tracked limits h) ⟨rfl, rfl, fun _ none => by cases none⟩
      (fun _ _ arrival tracked => tracked.arrive (limits_of_model known).1 arrival) frames

/-- An arrival of a run that is not stored leaves the state, its time and the number of states alone. -/
theorem feedback_of_not_stores {frames : List (CanFrame × ℕ)} {e : Arrival} (listed : e ∈ arrivals h frames)
    (rejected : ¬ Stores e) : e.after.feedback = e.before.feedback := by
  obtain ⟨before, arrival, rfl⟩ := exists_entry_of_mem MotorHandle.arrive listed
  cases arrives before arrival with
  | ignored feedback => exact feedback
  | stored state senses position feedback =>
    simp only [MotorHandle.feedback, Prod.mk.injEq] at feedback
    refine absurd (?_ : before.feedbackUpdateCount < (before.arrive arrival).1.feedbackUpdateCount) rejected
    rw [feedback.2.2]
    exact Nat.lt_succ_self _

/-- What an arrival that is stored leaves. -/
theorem stored_of_stores {frames : List (CanFrame × ℕ)} {e : Arrival} (listed : e ∈ arrivals h frames)
    (stores : Stores e) : ∃ state, e.after.state = some state ∧ e.after.stateTime = some e.call.2 ∧
      ∀ previous time, e.before.state = some previous → e.before.stateTime = some time →
        Plausible e.before.limits previous state (e.call.2 - time) := by
  obtain ⟨before, arrival, rfl⟩ := exists_entry_of_mem MotorHandle.arrive listed
  cases arrives before arrival with
  | ignored feedback =>
    simp only [MotorHandle.feedback, Prod.mk.injEq] at feedback
    have more : before.feedbackUpdateCount < (before.arrive arrival).1.feedbackUpdateCount := stores
    rw [feedback.2.2] at more
    exact absurd more (lt_irrefl _)
  | stored state senses position feedback limits near =>
    simp only [MotorHandle.feedback, Prod.mk.injEq] at feedback
    exact ⟨state, feedback.1, feedback.2.1, near⟩

end Run

/-- For every handle and every sequence of frames with their times: a frame that is not stored leaves the state, its
time and the number of states alone; the positions of two states that follow each other are as near as the filter
asks, by the time and the velocities of both; and a sensor frame that arrives `(p_max - p_min) / (1.5 v_max)` seconds
after the last one that was stored is stored, whatever came between. -/
theorem position_filter (motorId feedbackId : UInt16) (model : String) (h : MotorHandle)
    (made : makeMotorHandle motorId feedbackId model = .ok h) (frames : List (CanFrame × ℕ)) :
    (∀ e ∈ arrivals h frames, ¬ Stores e → e.after.state = e.before.state ∧ e.after.stateTime = e.before.stateTime ∧
      e.after.feedbackUpdateCount = e.before.feedbackUpdateCount) ∧
    (∀ (i j : ℕ) (first last : Arrival), i < j → (arrivals h frames)[i]? = some first →
      (arrivals h frames)[j]? = some last → Stores first → Stores last →
      (∀ k e, i < k → k < j → (arrivals h frames)[k]? = some e → ¬ Stores e) →
        ∃ previous state, first.after.state = some previous ∧ last.after.state = some state ∧
          Plausible h.limits previous state (last.call.2 - first.call.2)) ∧
    ∀ (frame : CanFrame) (now time : ℕ), (afterArrivals h frames).stateTime = some time →
      (h.limits.pMax - h.limits.pMin) / (3 / 2 * h.limits.vMax) ≤
        ((now - time : ℕ) : ℚ) / (1000 * millisecond : ℕ) →
        (afterArrivals h frames).Senses frame →
          ((afterArrivals h frames).arrive (frame, now)).1.stateTime = some now ∧
            ((afterArrivals h frames).arrive (frame, now)).1.feedbackUpdateCount =
              (afterArrivals h frames).feedbackUpdateCount + 1 := by
  refine ⟨fun e listed rejected => ?_, fun i j first last before found found' stores stores' rejected => ?_,
    fun frame now time timed late senses => ?_⟩
  · have feedback := feedback_of_not_stores listed rejected
    simpa only [MotorHandle.feedback, Prod.mk.injEq] using feedback
  · obtain ⟨previous, at_, timed, -⟩ := stored_of_stores (List.mem_of_getElem? found) stores
    obtain ⟨state, at_', -, near⟩ := stored_of_stores (List.mem_of_getElem? found') stores'
    have kept := kept_between MotorHandle.arrive MotorHandle.feedback before found found' fun k e after until_j at_k =>
      feedback_of_not_stores (List.mem_of_getElem? at_k) (rejected k e after until_j at_k)
    simp only [MotorHandle.feedback, Prod.mk.injEq] at kept
    refine ⟨previous, state, at_, at_', ?_⟩
    have limits : last.before.limits = h.limits := by
      obtain ⟨older, newer, split⟩ := List.append_of_mem (List.mem_of_getElem? found')
      obtain ⟨earlier, arrival, later, -, -, rfl⟩ := run_split MotorHandle.arrive split
      obtain ⟨limits, -, same, tracked⟩ := tracked_afterArrivals made earlier
      exact tracked.sameLimits.trans same.symm
    exact limits ▸ near previous first.call.2 (kept.1.trans at_) (kept.2.1.trans timed)
  · obtain ⟨limits, known, same, tracked⟩ := tracked_afterArrivals made frames
    obtain ⟨ordered, moves⟩ := limits_of_model known
    rw [same] at late
    cases arrives (afterArrivals h frames) (frame, now) with
    | ignored feedback same jumping =>
      have jump := jumping senses
      rw [tracked.sameLimits, not_jumps tracked ordered moves timed late] at jump
      cases jump
    | stored state senses position feedback =>
      simp only [MotorHandle.feedback, Prod.mk.injEq] at feedback
      exact feedback.2

/-- Motor 1 at its lower limit, and at its upper limit two seconds later. -/
theorem position_filter_swing :
    let low := standardFrame 0x11 #v[1, 0, 0, 0x80, 0, 0x80, 0, 0]
    let high := standardFrame 0x11 #v[1, 0xFF, 0xFF, 0x80, 0, 0x80, 0, 0]
    ((afterArrivals firstHandle [(low, 0), (high, 1000)]).arrive (high, 2000000000)).1.feedbackUpdateCount =
      (afterArrivals firstHandle [(low, 0), (high, 1000)]).feedbackUpdateCount + 1 := by
  intro low high
  have made : makeMotorHandle 1 0x11 "4340P" = .ok firstHandle := by
    simp [makeMotorHandle, modelLimits, Except.map, firstHandle]
  refine ((position_filter 1 0x11 "4340P" firstHandle made [(low, 0), (high, 1000)]).2.2 high 2000000000 0 ?_ ?_
    ⟨?_, ?_, ?_⟩).2
  · decide +kernel
  · norm_num [firstHandle, millisecond]
  · decide +kernel
  · decide +kernel
  · decide +kernel

end MotorDrive.Damiao
