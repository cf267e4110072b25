import MotorDrive.Damiao.Feedback

/-!
# Bulk disable and shutdown

`disable_all` and `shutdown` of `runtime.cpp`.  A send that is refused ends the loop of `disable_all`, so the
motors after it are not addressed (`addressed`); a failing receive does not.
-/

namespace MotorDrive.Damiao

open Proc History

namespace Controller

/-- The handle at an address remembers that its motor was told to disable. -/
def hintDisabled (address : ℕ) (s : Controller) : Controller :=
  { s with handles := s.handles.modify address fun h => { h with disabledHint := true } }

/-- `MotorHandle::disable`. -/
def disable (motor : MotorRef) : ControllerProgram Unit :=
  send (.disable motor.motorId) (hintDisabled motor.address)

/-- `poll_feedback_once`: the frames that are there, and possibly a failure of the transport. -/
def pollFeedbackOnce : ControllerProgram Unit :=
  await .pollFeedback (fun _ => true) fun i s =>
    let received := i.frames.foldl receive s
    match i.refusal with
    | some refusal => (.error (.transport refusal), received.recordReceiveError refusal)
    | none => (.ok (), received)

/-- `try { ... } catch (...) { }`. -/
def guarded (p : ControllerProgram Unit) : ControllerProgram Unit := tryCatch p fun _ => ret ()

/-- The loop of `disable_all`. -/
def disableEach : List MotorRef → ControllerProgram Unit
  | [] => ret ()
  | motor :: rest => do
    let _ ← disable motor
    let _ ← guarded pollFeedbackOnce
    let _ ← Proc.when (rest ≠ []) (look .pause fun _ => ())
    disableEach rest

/-- `disable_all`. -/
def disableAll : ControllerProgram Unit := do
  let motors ← sortedMotors
  disableEach motors

/-- `stop_polling`. -/
def stopPolling : ControllerProgram Unit := atomic .stopPolling fun _ s => ((), { s with pollingActive := false })

/-- `PacingBus::shutdown`, and `bus_closed_` after it. -/
def busShutdown : ControllerProgram Unit :=
  await .busShutdown (fun _ => true) fun i s =>
    match i.refusal with
    | some refusal =>
      let failed := s.recordReceiveError refusal
      (.error (.transport refusal), { failed with health := { failed.health with connected := false } })
    | none => (.ok (), { s with health := { s.health with connected := false }, busClosed := true })

/-- `shutdown`. -/
def shutdown : ControllerProgram Unit := do
  let closed ← look .lifecycle Controller.busClosed
  if closed then ret () else
    let _ ← stopPolling
    let _ ← guarded disableAll
    busShutdown

end Controller

/-! ## The motors that are addressed -/

/-- The motor of a disable frame. -/
def ControllerSite.disabled : ControllerSite → Option UInt16
  | .disable motorId => some motorId
  | _ => none

/-- The motors a call attempted to send a disable frame to, in order. -/
def attempted (trace : ControllerTrace) : List UInt16 := trace.filterMap fun taken => taken.label.disabled

/-- The sends of disable frames are refused as the pattern says. -/
def FollowsPattern (refuses : UInt16 → Option Refusal) (trace : ControllerTrace) : Prop :=
  ∀ taken ∈ trace, ∀ motorId, taken.label = .disable motorId → taken.input.refusal = refuses motorId

/-- The motors up to the first that is refused. -/
def addressed (refuses : UInt16 → Option Refusal) : List UInt16 → List UInt16
  | [] => []
  | motorId :: rest => motorId :: if refuses motorId = none then addressed refuses rest else []

variable {R : ControllerSite → Controller → Controller → Prop} {refuses : UInt16 → Option Refusal} {s s' : Controller}
  {trace : ControllerTrace} {r : Except ControllerError Unit}

theorem attempted_append (first rest : ControllerTrace) :
    attempted (first ++ rest) = attempted first ++ attempted rest := List.filterMap_append

/-- A program without disable frames. -/
theorem attempted_of_quiet {α : Type} {p : ControllerProgram α} {r : Except ControllerError α}
    (runs : p.Runs R s trace r s') (quiet : p.Every fun site _ _ => site.disabled = none) : attempted trace = [] :=
  List.filterMap_eq_nil_iff.mpr (runs.every quiet)

theorem FollowsPattern.mono {fewer : ControllerTrace} (follows : FollowsPattern refuses trace)
    (within : ∀ taken ∈ fewer, taken ∈ trace) : FollowsPattern refuses fewer :=
  fun taken member => follows taken (within taken member)

theorem returns_of_guarded {p : ControllerProgram Unit} (runs : (Controller.guarded p).Runs R s trace r s') :
    r = .ok () := by
  obtain ⟨e, middle, first, rest, -, ⟨-, answer, -⟩, -⟩ | ⟨a, -, answer⟩ := runs_tryCatch.mp runs
  · exact answer
  · exact answer

/-- A program without disable frames that always returns, before another one. -/
theorem runs_quiet_bind {p : ControllerProgram Unit} {f : Unit → ControllerProgram Unit}
    (quiet : p.Every fun site _ _ => site.disabled = none)
    (returns : ∀ s trace r s', p.Runs R s trace r s' → r = .ok ()) (runs : (p.bind f).Runs R s trace r s') :
    ∃ middle first rest, (f ()).Runs R middle rest r s' ∧ trace = first ++ rest ∧ attempted first = [] := by
  obtain ⟨_, middle, first, rest, ran, later, split⟩ | ⟨e, ran, -⟩ := runs_bind.mp runs
  · exact ⟨middle, first, rest, later, split, attempted_of_quiet ran quiet⟩
  · cases returns _ _ _ _ ran

theorem quiet_guardedPoll :
    (Controller.guarded Controller.pollFeedbackOnce).Every fun site _ _ => site.disabled = none :=
  every_tryCatch (every_await rfl) fun _ => trivial

theorem returns_of_pause {condition : Bool} {s s' : Controller} {trace : ControllerTrace}
    {r : Except ControllerError Unit}
    (runs : (Proc.when condition (Controller.look .pause fun _ => ())).Runs R s trace r s') : r = .ok () := by
  unfold Proc.when at runs
  split_ifs at runs
  · obtain ⟨i, found, -, -, answer, -⟩ := runs_atomic.mp runs
    exact answer
  · exact runs.2.1

/-- The loop addresses the motors up to the first that is refused. -/
theorem attempted_disableEach {motors : List MotorRef} (runs : (Controller.disableEach motors).Runs R s trace r s')
    (follows : FollowsPattern refuses trace) :
    attempted trace = addressed refuses (motors.map MotorRef.motorId) := by
  induction motors generalizing s trace with
  | nil => exact congrArg attempted runs.1
  | cons motor rest ih =>
    obtain ⟨i, found, later, -, -, rfl, answered⟩ := runs_await_bind.mp runs
    have pattern : i.refusal = refuses motor.motorId := follows _ List.mem_cons_self _ rfl
    rcases answered with ⟨_, sent, afterSend⟩ | ⟨e, refused, rfl, -⟩
    · have accepted : refuses motor.motorId = none := by
        rw [← pattern]
        cases refusal : i.refusal with
        | none => rfl
        | some refusal' => simp [refusal] at sent
      obtain ⟨_, polls, later', afterPoll, rfl, quiet⟩ := runs_quiet_bind quiet_guardedPoll
        (fun _ _ _ _ => returns_of_guarded) afterSend
      obtain ⟨_, pauses, more, afterPause, rfl, quiet'⟩ := runs_quiet_bind (every_when (every_atomic rfl))
        (fun _ _ _ _ => returns_of_pause) afterPoll
      have others := ih afterPause (follows.mono fun taken member =>
        List.mem_cons_of_mem _ (List.mem_append_right _ (List.mem_append_right _ member)))
      change motor.motorId :: attempted (polls ++ (pauses ++ more)) = _
      rw [attempted_append, attempted_append, quiet, quiet', others, List.map_cons, addressed, if_pos accepted]
      rfl
    · have declined : refuses motor.motorId ≠ none := by
        rw [← pattern]
        intro accepted
        simp [accepted] at refused
      rw [List.map_cons, addressed, if_neg declined]
      rfl

/-- All motors are addressed if and only if no motor but the last is refused. -/
theorem addressed_complete (refuses : UInt16 → Option Refusal) {ids : List UInt16} (nodup : ids.Nodup) :
    (∀ motorId ∈ ids, motorId ∈ addressed refuses ids) ↔ ∀ motorId ∈ ids.dropLast, refuses motorId = none := by
  induction ids with
  | nil => exact ⟨fun _ _ member => absurd member List.not_mem_nil, fun _ _ member => absurd member List.not_mem_nil⟩
  | cons first rest ih =>
    obtain ⟨new, nodup⟩ := List.nodup_cons.mp nodup
    cases rest with
    | nil => simp [addressed]
    | cons second rest =>
      rw [List.dropLast_cons_cons, addressed]
      by_cases accepted : refuses first = none
      · rw [if_pos accepted]
        constructor
        · intro all motorId member
          rcases List.mem_cons.mp member with rfl | member
          · exact accepted
          · refine (ih nodup).mp (fun other later => ?_) motorId member
            exact (List.mem_cons.mp (all other (List.mem_cons_of_mem _ later))).resolve_left
              fun same => new (same ▸ later)
        · intro all motorId member
          rcases List.mem_cons.mp member with rfl | member
          · exact List.mem_cons_self
          · exact List.mem_cons_of_mem _ ((ih nodup).mpr (fun other later => all other (List.mem_cons_of_mem _ later))
              motorId member)
      · rw [if_neg accepted]
        refine ⟨fun all => absurd ?_ new, fun all => absurd (all first List.mem_cons_self) accepted⟩
        have only := List.mem_singleton.mp (all second (List.mem_cons_of_mem _ List.mem_cons_self))
        exact only ▸ List.mem_cons_self

/-! ## Best effort -/

/-- A disable frame was attempted for every motor of the table. -/
def AllAttempted (table : MotorTable) (trace : ControllerTrace) : Prop :=
  ∀ motor ∈ table.entries, motor.motorId ∈ attempted trace

/-- No motor but the last one of the table is refused. -/
def OnlyLastRefused (refuses : UInt16 → Option Refusal) (table : MotorTable) : Prop :=
  ∀ motor ∈ table.entries.dropLast, refuses motor.motorId = none

theorem allAttempted_disableAll (runs : Controller.disableAll.Runs (Meanwhile False) s trace r s')
    (follows : FollowsPattern refuses trace) : AllAttempted s.motors trace ↔ OnlyLastRefused refuses s.motors := by
  obtain ⟨i, found, rest, between, rfl, later⟩ := runs_atomic_bind.mp runs
  dsimp only at later
  rw [between.still.motors] at later
  have is : attempted rest = addressed refuses (s.motors.entries.map MotorRef.motorId) :=
    attempted_disableEach later (follows.mono fun taken member => List.mem_cons_of_mem _ member)
  have same : attempted (⟨.sorted, i, found⟩ :: rest) = attempted rest := rfl
  have complete := addressed_complete refuses s.motors.nodup
  rw [← List.map_dropLast] at complete
  simpa only [AllAttempted, OnlyLastRefused, same, is, List.forall_mem_map] using complete

/-- The call found the bus closed and returned, or it closed the bus in its last section, after what it attempted. -/
def ShutdownAttempts (table : MotorTable) (refuses : UInt16 → Option Refusal) (trace : ControllerTrace) : Prop :=
  (∃ only, trace = [only] ∧ only.label = .lifecycle ∧ only.found.busClosed = true) ∨
    ∃ before last, trace = before ++ [last] ∧ last.label = .busShutdown ∧
      (AllAttempted table before ↔ OnlyLastRefused refuses table)

theorem shutdownAttempts (runs : Controller.shutdown.Runs (Meanwhile False) s trace r s')
    (follows : FollowsPattern refuses trace) : ShutdownAttempts s.motors refuses trace := by
  obtain ⟨i, found, rest, between, rfl, later⟩ := runs_atomic_bind.mp runs
  have table := between.still.motors
  cases closed : found.busClosed with
  | true =>
    simp only [closed, if_true] at later
    exact .inl ⟨_, by rw [later.1], rfl, closed⟩
  | false =>
    simp only [closed, Bool.false_eq_true, if_false] at later
    obtain ⟨j, found', rest', between', rfl, stopped⟩ := runs_atomic_bind.mp later
    obtain ⟨_, middle, disables, closes, disabled, closing, rfl⟩ | ⟨e, disabled, -⟩ := runs_bind.mp stopped
    · obtain ⟨k, last, -, -, rfl, -⟩ := runs_await.mp closing
      refine .inr ⟨⟨.lifecycle, i, found⟩ :: ⟨.stopPolling, j, found'⟩ :: disables, _, rfl, rfl, ?_⟩
      have same : ({ found' with pollingActive := false } : Controller).motors = s.motors := between'.still.motors.trans table
      have within : FollowsPattern refuses disables := follows.mono fun taken member =>
        List.mem_cons_of_mem _ (List.mem_cons_of_mem _ (List.mem_append_left _ member))
      change AllAttempted s.motors disables ↔ _
      rw [← same]
      obtain ⟨e, middle', first, none, thrown, ⟨rfl, -, -⟩, rfl⟩ | ⟨a, returned, -⟩ := runs_tryCatch.mp disabled
      · rw [List.append_nil] at within ⊢
        exact allAttempted_disableAll thrown within
      · exact allAttempted_disableAll returned within
    · cases returns_of_guarded disabled

/-- `disable_all` attempts a disable frame to every motor of the table, and `shutdown` does before it closes the bus,
if and only if no motor but the last of the table is refused. -/
theorem bulk_disable_best_effort (refuses : UInt16 → Option Refusal) :
    (∀ s trace r s', Controller.disableAll.Runs (Meanwhile False) s trace r s' → FollowsPattern refuses trace →
      (AllAttempted s.motors trace ↔ OnlyLastRefused refuses s.motors)) ∧
    ∀ s trace r s', Controller.shutdown.Runs (Meanwhile False) s trace r s' → FollowsPattern refuses trace →
      ShutdownAttempts s.motors refuses trace :=
  ⟨fun _ _ _ _ => allAttempted_disableAll, fun _ _ _ _ => shutdownAttempts⟩

/-- Motor 2 cannot be sent to. -/
def lastRefused (motorId : UInt16) : Option Refusal :=
  if motorId = 2 then some (.exception "injected send failure") else none

/-- A refused send to the last motor of the table leaves out no motor. -/
theorem bulk_disable_best_effort_last : ∃ trace r s', Controller.disableAll.Runs (Meanwhile False) twoMotors trace r s' ∧
    FollowsPattern lastRefused trace ∧ AllAttempted twoMotors.motors trace := by
  let quiet : ControllerInput := ⟨none, []⟩
  let refused : ControllerInput := ⟨some (.exception "injected send failure"), []⟩
  let sends : ControllerTrace := [⟨.sorted, quiet, twoMotors⟩, ⟨.disable 1, quiet, twoMotors⟩,
    ⟨.pollFeedback, quiet, twoMotors⟩, ⟨.pause, quiet, twoMotors⟩, ⟨.disable 2, refused, twoMotors⟩]
  have runs : ∃ r s', Controller.disableAll.Runs (Meanwhile False) twoMotors sends r s' :=
    ⟨_, _, quiet, twoMotors, _, .refl, rfl, rfl, quiet, twoMotors, _, .refl, rfl, rfl, quiet, twoMotors, _, .refl, rfl,
      rfl, quiet, twoMotors, _, .refl, rfl, rfl, refused, twoMotors, _, .refl, rfl, rfl, rfl, rfl, rfl⟩
  obtain ⟨r, s', runs⟩ := runs
  have follows : FollowsPattern lastRefused sends := by
    simp [FollowsPattern, sends, lastRefused, refused, quiet]
  have last : OnlyLastRefused lastRefused twoMotors.motors := by
    unfold OnlyLastRefused
    decide
  exact ⟨sends, r, s', runs, follows, ((bulk_disable_best_effort lastRefused).1 _ _ _ _ runs follows).mpr last⟩

/-- Motor 1 cannot be sent to. -/
def firstRefused (motorId : UInt16) : Option Refusal :=
  if motorId = 1 then some (.exception "injected send failure") else none

/-- One refused send keeps `disable_all` from addressing the other motor, and `shutdown` closes the bus without
having addressed it. -/
theorem bulk_disable_stops :
    (∃ trace r s', Controller.disableAll.Runs (Meanwhile False) twoMotors trace r s' ∧
      FollowsPattern firstRefused trace ∧ ¬ AllAttempted twoMotors.motors trace) ∧
    ∃ before last s', Controller.shutdown.Runs (Meanwhile False) twoMotors (before ++ [last]) (.ok ()) s' ∧
      FollowsPattern firstRefused (before ++ [last]) ∧ last.label = .busShutdown ∧
      ¬ AllAttempted twoMotors.motors before := by
  let quiet : ControllerInput := ⟨none, []⟩
  let refused : ControllerInput := ⟨some (.exception "injected send failure"), []⟩
  let stopped : Controller := { twoMotors with pollingActive := false }
  let failed : Controller := stopped.recordSendError (.exception "injected send failure")
  have missing : ∀ trace, attempted trace = [1] → ¬ AllAttempted twoMotors.motors trace := by
    intro trace is all
    have second := all ⟨2, 1⟩ (List.mem_cons_of_mem _ (List.mem_singleton_self _))
    rw [is] at second
    exact absurd second (by decide)
  refine ⟨⟨[⟨.sorted, quiet, twoMotors⟩, ⟨.disable 1, refused, twoMotors⟩], _, _,
    ⟨quiet, twoMotors, _, .refl, rfl, rfl, refused, twoMotors, _, .refl, rfl, rfl, rfl, rfl, rfl⟩, ?_, missing _ rfl⟩,
    [⟨.lifecycle, quiet, twoMotors⟩, ⟨.stopPolling, quiet, twoMotors⟩, ⟨.sorted, quiet, stopped⟩,
      ⟨.disable 1, refused, stopped⟩], ⟨.busShutdown, quiet, failed⟩, _,
    ⟨quiet, twoMotors, _, .refl, rfl, rfl, quiet, twoMotors, _, .refl, rfl, rfl, quiet, stopped, _, .refl, rfl, rfl,
      refused, stopped, _, .refl, rfl, rfl, quiet, failed, _, .refl, rfl, rfl, rfl, rfl, rfl⟩, ?_, rfl, missing _ rfl⟩
  · simp [FollowsPattern, firstRefused, refused]
  · simp [FollowsPattern, firstRefused, refused]

end MotorDrive.Damiao
