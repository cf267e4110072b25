import MotorDrive.Dds.Neutral

/-!
# The motion event protocol

A finite motion is accepted by the control worker, which publishes `MOTION_ACCEPTED` and records the
request, and finished by whichever thread takes it from the record: the I/O thread when a published
state says that the motion arrived or when the lease is lost, the worker when the motion is stopped or
its lease turns out to be lost.

`motionProtocol_of_reach`: in every run whose sections keep to `KeepsProtocol`, every accepted request
is tracked or has had exactly one terminal event, `MOTION_COMPLETED` is only published for a motion
that completed, and no state publication leaves a request recorded whose motion had ended otherwise.
The record has one slot and is not looked at when a motion ends, so a run that does not keep to it
loses a terminal event (`overwritten_not_tracked`).
-/

namespace MotorDrive.Dds

open Threads Threads.Discipline History Proc Service

/-! ## What the log says about motions -/

/-- The entries of the log about motions. -/
def Event.isMotion : Event → Bool
  | .motion .. | .motionEvent .. | .stateRead _ | .statePublished _ => true
  | _ => false

/-- The entry is an event published for the request. -/
def Event.isEventOf (key : RequestKey) : Event → Bool
  | .motionEvent key' _ _ _ => key' = key
  | _ => false

/-- The entry is the `MOTION_ACCEPTED` of the request. -/
def Event.isAccepted (key : RequestKey) : Event → Bool
  | .motionEvent key' kind _ _ => key' = key ∧ kind = .accepted
  | _ => false

/-- The entry is a terminal event of the request. -/
def Event.isTerminal (key : RequestKey) : Event → Bool
  | .motionEvent key' kind _ _ => key' = key ∧ kind ≠ .accepted
  | _ => false

/-- The last state the Runtime gave the motion of the request. -/
def motionState (key : RequestKey) : List Event → Option MotionState
  | .motion key' state :: log => if key' = key then some state else motionState key log
  | _ :: log => motionState key log
  | [] => none

/-- The motion of the request has ended in `CANCELLED` or `FAULT`. -/
def ended (key : RequestKey) (log : List Event) : Bool :=
  motionState key log = some .cancelled ∨ motionState key log = some .fault

/-- The motion of the request has reached its completed state. -/
def reached (key : RequestKey) (log : List Event) : Bool := .motion key .completed ∈ log

/-- The log before the last state was read. -/
def beforeRead : List Event → List Event
  | .stateRead _ :: log => log
  | _ :: log => beforeRead log
  | [] => []

/-- Whether a state publication is in progress, and whether the state it read had arrived. -/
def publishing : List Event → Option Bool
  | .stateRead arrived :: _ => some arrived
  | .statePublished _ :: _ => none
  | _ :: log => publishing log
  | [] => none

namespace Service

def motionLog (s : Service) : List Event := s.log.filter Event.isMotion

/-- The request is in the record, or in the hands of a thread. -/
def Tracked (s : Service) (key : RequestKey) : Prop :=
  s.pendingMotion = some key ∨ ∃ t, s.handover t = some key

theorem motionLog_record_motion {s : Service} {e : Event} (motion : e.isMotion = true) :
    (s.record e).motionLog = e :: s.motionLog := by
  simp [motionLog, record, motion]

theorem motionLog_record_other {s : Service} {e : Event} (other : e.isMotion = false) :
    (s.record e).motionLog = s.motionLog := by
  simp [motionLog, record, other]

end Service

/-! ## The protocol -/

/-- Every accepted request is tracked, or has had one terminal event after its `MOTION_ACCEPTED`. -/
def OneTerminal (s : Service) : Prop :=
  ∀ key newer older e, s.motionLog = newer ++ e :: older → e.isAccepted key = true →
    (newer.countP (Event.isTerminal key) = 0 ∧ s.Tracked key) ∨
      newer.countP (Event.isTerminal key) = 1

/-- `MOTION_COMPLETED` is published for a motion that reached its completed state. -/
def CompletedOwn (e : Event) (older : List Event) : Prop :=
  ∀ key error message, e = .motionEvent key .completed error message → reached key older = true

/-- After a state publication no request is recorded whose motion had ended when it began. -/
def NoneEndedPending (e : Event) (older : List Event) : Prop :=
  ∀ key, e = .statePublished (some key) → ended key (beforeRead older) = false

/-- The motion event protocol. -/
def MotionProtocol (s : Service) : Prop :=
  OneTerminal s ∧ Always CompletedOwn s.motionLog ∧ Always NoneEndedPending s.motionLog

/-- The sections that break the protocol: a request is recorded over another, under the number that
stands for none, or with a motion that had ended or not completed when the state being published was
read; an event is published for a client and request number that has one; a terminal event cannot be
written; a state is read while the recorded request's motion is neither completed nor running. -/
def breaksProtocol (site : Site) (i : Input) (s : Service) : Bool :=
  match site with
  | .pendingRecord request =>
    s.pendingMotionRequest ≠ 0 || request.requestId = 0 || (publishing s.motionLog).any fun arrived =>
      ended request.key (beforeRead s.motionLog) || (arrived && !reached request.key s.motionLog)
  | .motionWrite .accepted key | .motionWrite .failed key => s.motionLog.any (Event.isEventOf key)
  | .motionWrite .completed _ | .motionWrite .cancelled _ => !i.status.isOk
  | .stateRead => s.pendingMotion.any fun key =>
    !(motionState key s.motionLog = some .completed || s.motion = some ⟨key, .running⟩)
  | _ => false

/-- The section keeps to the protocol. -/
def KeepsProtocol (_ : Thread) (site : Site) (i : Input) (s : Service) : Prop :=
  breaksProtocol site i s = false

/-! ## The invariant -/

/-- `MOTION_ACCEPTED` is the first event of its request. -/
def FirstEvent (e : Event) (older : List Event) : Prop :=
  ∀ key, e.isAccepted key = true → older.any (Event.isEventOf key) = false

/-- What holds of the record, the hand-overs and the log in every state. -/
structure MotionInv (s : Service) : Prop where
  tracked : ∀ key, s.Tracked key → s.motionLog.any (Event.isAccepted key) = true ∧
    s.motionLog.countP (Event.isTerminal key) = 0
  exclusive : ∀ t key, s.handover t = some key → s.pendingMotion ≠ some key ∧
    ∀ u, s.handover u = some key → u = t
  settled : ∀ key, s.motionLog.any (Event.isAccepted key) = true → s.Tracked key ∨
    s.motionLog.countP (Event.isTerminal key) = 1
  first : Always FirstEvent s.motionLog
  completed : Always CompletedOwn s.motionLog
  published : Always NoneEndedPending s.motionLog
  current : ∀ motion, s.motion = some motion → motionState motion.key s.motionLog = some motion.state
  reading : ∀ arrived key, publishing s.motionLog = some arrived → s.pendingMotion = some key →
    ended key (beforeRead s.motionLog) = false ∧ (arrived = true → reached key s.motionLog = true)

section Entries

variable {key : RequestKey} {e : Event} {log : List Event}

theorem isEventOf_of_isTerminal (terminal : e.isTerminal key = true) : e.isEventOf key = true := by
  cases e <;> simp_all [Event.isTerminal, Event.isEventOf]

theorem isEventOf_of_isAccepted (accepted : e.isAccepted key = true) : e.isEventOf key = true := by
  cases e <;> simp_all [Event.isAccepted, Event.isEventOf]

theorem countP_eq_zero_of_noEvent (none : log.any (Event.isEventOf key) = false) :
    log.countP (Event.isTerminal key) = 0 := by
  rw [List.countP_eq_zero]
  intro e found terminal
  have := List.any_eq_false.mp none e found
  exact this (isEventOf_of_isTerminal terminal)

theorem not_accepted_of_noEvent (none : log.any (Event.isEventOf key) = false) :
    ¬ log.any (Event.isAccepted key) = true := by
  rw [List.any_eq_true]
  rintro ⟨e, found, accepted⟩
  have := List.any_eq_false.mp none e found
  exact this (isEventOf_of_isAccepted accepted)

/-- The last state of a motion is in the log. -/
theorem mem_of_motionState {state : MotionState} (last : motionState key log = some state) :
    .motion key state ∈ log := by
  induction log with
  | nil => cases last
  | cons e log ih =>
    cases e with
    | motion key' state' =>
      simp only [motionState] at last
      split_ifs at last with same
      · obtain rfl := Option.some.inj last
        rw [same]
        exact List.mem_cons_self
      · exact List.mem_cons_of_mem _ (ih last)
    | _ => exact List.mem_cons_of_mem _ (ih last)

theorem reached_cons (reaches : reached key log = true) : reached key (e :: log) = true := by
  simp only [reached, decide_eq_true_eq] at reaches ⊢
  exact List.mem_cons_of_mem _ reaches

end Entries

/-- The invariant gives the protocol. -/
theorem MotionInv.protocol {s : Service} (inv : MotionInv s) : MotionProtocol s := by
  refine ⟨fun key newer older e split accepted => ?_, inv.completed, inv.published⟩
  have first := inv.first
  rw [split] at first
  have older_zero := countP_eq_zero_of_noEvent (first.split key accepted)
  have e_zero : e.isTerminal key = false := by
    cases e <;> simp_all [Event.isAccepted, Event.isTerminal]
  have count : s.motionLog.countP (Event.isTerminal key) = newer.countP (Event.isTerminal key) := by
    rw [split, List.countP_append, List.countP_cons_of_neg (by simp [e_zero]), older_zero,
      Nat.add_zero]
  have found : s.motionLog.any (Event.isAccepted key) = true := by
    rw [split]
    simp [accepted]
  rw [← count]
  rcases inv.settled key found with tracked | once
  · exact Or.inl ⟨(inv.tracked key tracked).2, tracked⟩
  · exact Or.inr once

/-! ## Sections that leave the record alone -/

/-- The record, the hand-overs and the events are the same; the Runtime may have moved its motion on,
or be another one. -/
structure MotionSame (s s' : Service) : Prop where
  request : s'.pendingMotionRequest = s.pendingMotionRequest
  client : s'.pendingMotionClient = s.pendingMotionClient
  handover : s'.handover = s.handover
  log : (s'.motionLog = s.motionLog ∧ (s'.motion = s.motion ∨ s'.motion = none)) ∨
    ∃ key state, s'.motionLog = .motion key state :: s.motionLog ∧ s'.motion = some ⟨key, state⟩

namespace MotionSame

theorem of_eq {s s' : Service} (request : s'.pendingMotionRequest = s.pendingMotionRequest)
    (client : s'.pendingMotionClient = s.pendingMotionClient)
    (handover : s'.handover = s.handover) (log : s'.motionLog = s.motionLog)
    (motion : s'.motion = s.motion) : MotionSame s s' :=
  ⟨request, client, handover, Or.inl ⟨log, Or.inl motion⟩⟩

theorem refl (s : Service) : MotionSame s s := of_eq rfl rfl rfl rfl rfl

theorem record (s : Service) {e : Event} (other : e.isMotion = false) :
    MotionSame s (s.record e) :=
  of_eq rfl rfl rfl (motionLog_record_other other) rfl

theorem applyOutcome (s : Service) (o : Outcome) : MotionSame s (s.applyOutcome o) := by
  unfold Service.applyOutcome
  split
  · exact refl s
  · split_ifs
    · exact refl s
    · exact ⟨rfl, rfl, rfl, Or.inr ⟨_, _, motionLog_record_motion rfl, rfl⟩⟩

theorem pendingMotion {s s' : Service} (same : MotionSame s s') :
    s'.pendingMotion = s.pendingMotion := by
  simp only [Service.pendingMotion, same.request, same.client]

theorem tracked {s s' : Service} (same : MotionSame s s') {key : RequestKey} :
    s'.Tracked key ↔ s.Tracked key := by
  simp only [Tracked, same.pendingMotion, same.handover]

end MotionSame

/-- The invariant survives what leaves the record alone. -/
theorem MotionInv.same {s s' : Service} (inv : MotionInv s) (same : MotionSame s s') :
    MotionInv s' := by
  have handover := same.handover
  have pending := same.pendingMotion
  rcases same.log with ⟨log, motion⟩ | ⟨key, state, log, motion⟩
  · refine ⟨?_, ?_, ?_, log ▸ inv.first, log ▸ inv.completed, log ▸ inv.published, ?_, ?_⟩
    · simpa only [same.tracked, log] using inv.tracked
    · simpa only [handover, pending] using inv.exclusive
    · simpa only [same.tracked, log] using inv.settled
    · rcases motion with motion | motion
      · simpa only [motion, log] using inv.current
      · simp [motion]
    · simpa only [log, pending] using inv.reading
  · refine ⟨?_, ?_, ?_, ?_, ?_, ?_, ?_, ?_⟩
    · intro key' tracked
      have := inv.tracked key' (same.tracked.mp tracked)
      simpa [log, Event.isAccepted, Event.isTerminal] using this
    · simpa only [handover, pending] using inv.exclusive
    · intro key' accepted
      have := inv.settled key' (by simpa [log, Event.isAccepted] using accepted)
      simpa [log, Event.isTerminal, same.tracked] using this
    · rw [log]
      exact ⟨nofun, inv.first⟩
    · rw [log]
      exact ⟨nofun, inv.completed⟩
    · rw [log]
      exact ⟨nofun, inv.published⟩
    · rw [motion, log]
      intro motion' same'
      obtain rfl := Option.some.inj same'
      simp [motionState]
    · rw [log, pending]
      intro arrived key' publishes recorded
      obtain ⟨alive, reaches⟩ := inv.reading arrived key' publishes recorded
      exact ⟨alive, fun true => reached_cons (reaches true)⟩

/-! ## Sections that move a request -/

section Hold

variable (s : Service) (t u : Thread) (key : Option RequestKey)

@[simp] theorem handover_hold_self : (s.hold t key).handover t = key := if_pos rfl

theorem handover_hold_ne (other : u ≠ t) : (s.hold t key).handover u = s.handover u := if_neg other

@[simp] theorem motionLog_hold : (s.hold t key).motionLog = s.motionLog := rfl

@[simp] theorem pendingMotion_hold : (s.hold t key).pendingMotion = s.pendingMotion := rfl

@[simp] theorem motion_hold : (s.hold t key).motion = s.motion := rfl

end Hold

theorem pendingMotion_recordPending {s : Service} {request : ControlRequest}
    (numbered : request.requestId ≠ 0) :
    (s.recordPending request).pendingMotion = some request.key := by
  simp [Service.recordPending, pendingMotion, hold, numbered, ControlRequest.key]

/-- Moving a request between the record and a thread's hands keeps it tracked. -/
theorem MotionInv.move {s s' : Service} (inv : MotionInv s) (log : s'.motionLog = s.motionLog)
    (motion : s'.motion = s.motion) (tracked : ∀ key, s'.Tracked key ↔ s.Tracked key)
    (exclusive : ∀ t key, s'.handover t = some key → s'.pendingMotion ≠ some key ∧
      ∀ u, s'.handover u = some key → u = t)
    (reading : ∀ arrived key, publishing s.motionLog = some arrived → s'.pendingMotion = some key →
      ended key (beforeRead s.motionLog) = false ∧
        (arrived = true → reached key s.motionLog = true)) : MotionInv s' := by
  refine ⟨?_, exclusive, ?_, log ▸ inv.first, log ▸ inv.completed, log ▸ inv.published, ?_, ?_⟩
  · simpa only [tracked, log] using inv.tracked
  · simpa only [tracked, log] using inv.settled
  · simpa only [motion, log] using inv.current
  · simpa only [log] using reading

theorem MotionInv.take {s : Service} (inv : MotionInv s) {t : Thread} (idle : s.handover t = none) :
    MotionInv (s.takePending t) := by
  have pending : (s.takePending t).pendingMotion = none := rfl
  have mine : (s.takePending t).handover t = s.pendingMotion := handover_hold_self ..
  have others : ∀ u, u ≠ t → (s.takePending t).handover u = s.handover u := fun u other =>
    handover_hold_ne _ _ _ _ other
  refine inv.move rfl rfl (fun key => ?_) (fun u key held => ⟨by simp [pending], fun v held' => ?_⟩)
    (by simp [pending])
  · constructor
    · rintro (recorded | ⟨u, held⟩)
      · rw [pending] at recorded
        cases recorded
      · by_cases same : u = t
        · subst same
          exact Or.inl (mine ▸ held)
        · exact Or.inr ⟨u, others u same ▸ held⟩
    · rintro (recorded | ⟨u, held⟩)
      · exact Or.inr ⟨t, mine.trans recorded⟩
      · refine Or.inr ⟨u, ?_⟩
        rw [others u]
        · exact held
        · rintro rfl
          rw [idle] at held
          cases held
  · by_cases same : u = t <;> by_cases same' : v = t
    · rw [same, same']
    · rw [same, mine] at held
      rw [others v same'] at held'
      exact absurd held (inv.exclusive v key held').1
    · rw [same', mine] at held'
      rw [others u same] at held
      exact absurd held' (inv.exclusive u key held).1
    · rw [others u same] at held
      rw [others v same'] at held'
      exact (inv.exclusive u key held).2 v held'

theorem MotionInv.record {s : Service} (inv : MotionInv s) {request : ControlRequest}
    (held : s.handover .worker = some request.key) (empty : s.pendingMotion = none)
    (numbered : request.requestId ≠ 0)
    (reading : ∀ arrived, publishing s.motionLog = some arrived →
      ended request.key (beforeRead s.motionLog) = false ∧
        (arrived = true → reached request.key s.motionLog = true)) :
    MotionInv (s.recordPending request) := by
  have pending := pendingMotion_recordPending (s := s) numbered
  have mine : (s.recordPending request).handover .worker = none := handover_hold_self ..
  have others : ∀ u, u ≠ .worker → (s.recordPending request).handover u = s.handover u :=
    fun u other => handover_hold_ne _ _ _ _ other
  refine inv.move rfl rfl (fun key => ?_) (fun u key held' => ?_) ?_
  · constructor
    · rintro (recorded | ⟨u, held'⟩)
      · exact Or.inr ⟨.worker, held.trans (pending.symm.trans recorded)⟩
      · by_cases same : u = .worker
        · rw [same, mine] at held'
          cases held'
        · exact Or.inr ⟨u, others u same ▸ held'⟩
    · rintro (recorded | ⟨u, held'⟩)
      · rw [empty] at recorded
        cases recorded
      · by_cases same : u = .worker
        · subst same
          exact Or.inl (pending.trans (held.symm.trans held'))
        · exact Or.inr ⟨u, (others u same).trans held'⟩
  · by_cases same : u = .worker
    · rw [same, mine] at held'
      cases held'
    · rw [others u same] at held'
      refine ⟨?_, fun v held'' => ?_⟩
      · rw [pending]
        intro key_eq
        have := (inv.exclusive u key held').2 .worker (held.trans key_eq)
        exact same this.symm
      · by_cases same' : v = .worker
        · rw [same', mine] at held''
          cases held''
        · exact (inv.exclusive u key held').2 v (others v same' ▸ held'')
  · intro arrived key publishes recorded
    obtain rfl := Option.some.inj (pending.symm.trans recorded)
    exact reading arrived publishes

section WriteEvent

variable {s : Service} {t : Thread} {key : RequestKey} {kind : MotionEventKind}
  {error : ProtocolError} {message : String}

theorem motionLog_writeEvent : (s.writeEvent t key kind error message).motionLog =
    .motionEvent key kind error message :: s.motionLog :=
  motionLog_record_motion rfl

/-- An event keeps everything but what it says about its own request. -/
theorem MotionInv.event (inv : MotionInv s)
    (tracked : ∀ key', (s.writeEvent t key kind error message).Tracked key' →
      (s.writeEvent t key kind error message).motionLog.any (Event.isAccepted key') = true ∧
        (s.writeEvent t key kind error message).motionLog.countP (Event.isTerminal key') = 0)
    (exclusive : ∀ u key', (s.writeEvent t key kind error message).handover u = some key' →
      s.pendingMotion ≠ some key' ∧
        ∀ v, (s.writeEvent t key kind error message).handover v = some key' → v = u)
    (settled : ∀ key', (s.writeEvent t key kind error message).motionLog.any
        (Event.isAccepted key') = true →
      (s.writeEvent t key kind error message).Tracked key' ∨
        (s.writeEvent t key kind error message).motionLog.countP (Event.isTerminal key') = 1)
    (first : kind = .accepted → s.motionLog.any (Event.isEventOf key) = false)
    (completed : kind = .completed → reached key s.motionLog = true) :
    MotionInv (s.writeEvent t key kind error message) := by
  refine ⟨tracked, exclusive, settled, ?_, ?_, ?_, ?_, ?_⟩
  · rw [motionLog_writeEvent]
    refine ⟨fun key' accepted => ?_, inv.first⟩
    simp only [Event.isAccepted, decide_eq_true_eq] at accepted
    exact accepted.1 ▸ first accepted.2
  · rw [motionLog_writeEvent]
    refine ⟨fun key' error' message' same => ?_, inv.completed⟩
    obtain ⟨rfl, kind', -, -⟩ := Event.motionEvent.inj same
    exact completed kind'
  · rw [motionLog_writeEvent]
    exact ⟨nofun, inv.published⟩
  · rw [motionLog_writeEvent]
    exact inv.current
  · rw [motionLog_writeEvent]
    intro arrived key' publishes recorded
    obtain ⟨alive, reaches⟩ := inv.reading arrived key' publishes recorded
    exact ⟨alive, fun true => reached_cons (reaches true)⟩

theorem handover_writeEvent_self :
    (s.writeEvent t key kind error message).handover t = if kind = .accepted then some key else none :=
  handover_hold_self ..

theorem handover_writeEvent_ne {u : Thread} (other : u ≠ t) :
    (s.writeEvent t key kind error message).handover u = s.handover u :=
  handover_hold_ne _ _ _ _ other

theorem pendingMotion_writeEvent :
    (s.writeEvent t key kind error message).pendingMotion = s.pendingMotion := rfl

/-- Events of one request say nothing about another. -/
theorem any_accepted_writeEvent {key' : RequestKey} (other : key' ≠ key) :
    (s.writeEvent t key kind error message).motionLog.any (Event.isAccepted key') =
      s.motionLog.any (Event.isAccepted key') := by
  simp [motionLog_writeEvent, Event.isAccepted, other.symm]

theorem countP_terminal_writeEvent {key' : RequestKey} (other : key' ≠ key) :
    (s.writeEvent t key kind error message).motionLog.countP (Event.isTerminal key') =
      s.motionLog.countP (Event.isTerminal key') := by
  simp [motionLog_writeEvent, Event.isTerminal, other.symm]

/-- The terminal event of a request in a thread's hands. -/
theorem MotionInv.terminal (inv : MotionInv s) (held : s.handover t = some key)
    (terminal : kind ≠ .accepted) (completed : kind = .completed → reached key s.motionLog = true) :
    MotionInv (s.writeEvent t key kind error message) := by
  obtain ⟨notRecorded, only⟩ := inv.exclusive t key held
  obtain ⟨accepted, none⟩ := inv.tracked key (Or.inr ⟨t, held⟩)
  have mine : (s.writeEvent t key kind error message).handover t = Option.none := by
    rw [handover_writeEvent_self, if_neg terminal]
  have untracked : ¬ (s.writeEvent t key kind error message).Tracked key := by
    rintro (recorded | ⟨u, held'⟩)
    · exact notRecorded recorded
    · by_cases same : u = t
      · rw [same, mine] at held'
        cases held'
      · exact same (only u (handover_writeEvent_ne same ▸ held'))
  have others : ∀ key', key' ≠ key →
      ((s.writeEvent t key kind error message).Tracked key' ↔ s.Tracked key') := by
    intro key' other
    refine or_congr Iff.rfl (exists_congr fun u => ?_)
    by_cases same : u = t
    · subst same
      rw [mine, held]
      simp [other.symm]
    · rw [handover_writeEvent_ne same]
  refine inv.event (fun key' tracked => ?_) (fun u key' held' => ?_) (fun key' accepted' => ?_)
    (fun first => absurd first terminal) completed
  · have other : key' ≠ key := by
      rintro rfl
      exact untracked tracked
    rw [any_accepted_writeEvent other, countP_terminal_writeEvent other]
    exact inv.tracked key' ((others key' other).mp tracked)
  · have notMine : u ≠ t := by
      rintro rfl
      rw [mine] at held'
      cases held'
    rw [handover_writeEvent_ne notMine] at held'
    obtain ⟨notRecorded', only'⟩ := inv.exclusive u key' held'
    refine ⟨notRecorded', fun v held'' => only' v ?_⟩
    by_cases same : v = t
    · rw [same, mine] at held''
      cases held''
    · rwa [handover_writeEvent_ne same] at held''
  · by_cases same : key' = key
    · subst same
      refine Or.inr ?_
      rw [motionLog_writeEvent, List.countP_cons_of_pos (by simp [Event.isTerminal, terminal]), none]
    · rw [any_accepted_writeEvent same] at accepted'
      rw [countP_terminal_writeEvent same, others key' same]
      exact inv.settled key' accepted'

/-- A request with no event is not tracked. -/
theorem MotionInv.not_tracked (inv : MotionInv s)
    (noEvent : s.motionLog.any (Event.isEventOf key) = false) : ¬ s.Tracked key := fun tracked =>
  not_accepted_of_noEvent noEvent (inv.tracked key tracked).1

/-- The `MOTION_FAILED` of a request that was not accepted. -/
theorem MotionInv.failed (inv : MotionInv s) (idle : s.handover t = none)
    (noEvent : s.motionLog.any (Event.isEventOf key) = false) :
    MotionInv (s.writeEvent t key .failed error message) := by
  have handover : (s.writeEvent t key .failed error message).handover = s.handover := by
    funext u
    by_cases same : u = t
    · subst same
      rw [handover_writeEvent_self, idle, if_neg (by decide)]
    · exact handover_writeEvent_ne same
  have tracks : ∀ key', (s.writeEvent t key .failed error message).Tracked key' ↔ s.Tracked key' := by
    intro key'
    rw [Tracked, Tracked, handover, pendingMotion_writeEvent]
  have accepts : ∀ key', (s.writeEvent t key .failed error message).motionLog.any
      (Event.isAccepted key') = s.motionLog.any (Event.isAccepted key') := by
    intro key'
    simp [motionLog_writeEvent, Event.isAccepted]
  refine inv.event (fun key' tracked => ?_) ?_ (fun key' accepted => ?_) nofun nofun
  · have tracked' := (tracks key').mp tracked
    have other : key' ≠ key := by
      rintro rfl
      exact inv.not_tracked noEvent tracked'
    rw [accepts, countP_terminal_writeEvent other]
    exact inv.tracked key' tracked'
  · rw [handover]
    exact inv.exclusive
  · rw [accepts] at accepted
    have other : key' ≠ key := by
      rintro rfl
      exact not_accepted_of_noEvent noEvent accepted
    rw [tracks, countP_terminal_writeEvent other]
    exact inv.settled key' accepted

/-- The `MOTION_ACCEPTED` of a request puts it into the thread's hands. -/
theorem MotionInv.accepted (inv : MotionInv s) (idle : s.handover t = none)
    (noEvent : s.motionLog.any (Event.isEventOf key) = false) :
    MotionInv (s.writeEvent t key .accepted error message) := by
  have mine : (s.writeEvent t key .accepted error message).handover t = some key := by
    rw [handover_writeEvent_self, if_pos rfl]
  have untracked := inv.not_tracked noEvent
  have others : ∀ key', key' ≠ key →
      ((s.writeEvent t key .accepted error message).Tracked key' ↔ s.Tracked key') := by
    intro key' other
    refine or_congr Iff.rfl (exists_congr fun u => ?_)
    by_cases same : u = t
    · subst same
      rw [mine, idle]
      simp [other.symm]
    · rw [handover_writeEvent_ne same]
  have zero : (s.writeEvent t key .accepted error message).motionLog.countP
      (Event.isTerminal key) = 0 := by
    rw [motionLog_writeEvent, List.countP_cons_of_neg (by simp [Event.isTerminal])]
    exact countP_eq_zero_of_noEvent noEvent
  refine inv.event (fun key' tracked => ?_) (fun u key' held => ?_) (fun key' accepted => ?_)
    (fun _ => noEvent) nofun
  · by_cases same : key' = key
    · subst same
      exact ⟨by simp [motionLog_writeEvent, Event.isAccepted], zero⟩
    · rw [any_accepted_writeEvent same, countP_terminal_writeEvent same]
      exact inv.tracked key' ((others key' same).mp tracked)
  · by_cases same : u = t
    · subst same
      obtain rfl := Option.some.inj (mine.symm.trans held)
      refine ⟨fun recorded => untracked (Or.inl recorded), fun v held' => ?_⟩
      by_contra other
      exact untracked (Or.inr ⟨v, handover_writeEvent_ne other ▸ held'⟩)
    · rw [handover_writeEvent_ne same] at held
      obtain ⟨notRecorded, only⟩ := inv.exclusive u key' held
      refine ⟨notRecorded, fun v held' => ?_⟩
      by_cases same' : v = t
      · subst same'
        obtain rfl := Option.some.inj (mine.symm.trans held')
        exact absurd (Or.inr ⟨u, held⟩) untracked
      · exact only v (handover_writeEvent_ne same' ▸ held')
  · by_cases same : key' = key
    · subst same
      exact Or.inl (Or.inr ⟨t, mine⟩)
    · rw [any_accepted_writeEvent same] at accepted
      rw [others key' same, countP_terminal_writeEvent same]
      exact inv.settled key' accepted

end WriteEvent

/-! ## The discipline -/

/-- What a thread relies on: its hand-over is its own, a state publication is the I/O thread's, and
the log only grows. -/
structure MotionRely (t : Thread) (s s' : Service) : Prop where
  handover : s'.handover t = s.handover t
  publishing : t = .io → publishing s'.motionLog = publishing s.motionLog
  log : s.motionLog <:+ s'.motionLog

/-- The discipline of the motion events. -/
def motionDiscipline : Discipline Thread Service Input Site where
  inv := MotionInv
  rely := MotionRely
  allowed := KeepsProtocol
  rest t s := s.handover t = none

/-- The thread holds no request. -/
def Idle (t : Thread) (s : Service) : Prop := s.handover t = none

/-- The thread holds a request, whose motion has completed if it is to be told so. -/
def Holding (t : Thread) (key : RequestKey) (kind : MotionEventKind) (s : Service) : Prop :=
  s.handover t = some key ∧ (kind = .completed → reached key s.motionLog = true)

/-- The I/O thread publishes a state it has read, and holds no request. -/
def Publishing (arrived : Bool) (s : Service) : Prop :=
  Idle .io s ∧ publishing s.motionLog = some arrived

theorem reached_of_suffix {key : RequestKey} {log log' : List Event} (suffix : log <:+ log')
    (reaches : reached key log = true) : reached key log' = true := by
  simp only [reached, decide_eq_true_eq] at reaches ⊢
  exact suffix.subset reaches

theorem stable_idle (t : Thread) : motionDiscipline.Stable t (Idle t) := fun _ _ _ rely idle =>
  rely.handover.trans idle

theorem stable_holding (t : Thread) (key : RequestKey) (kind : MotionEventKind) :
    motionDiscipline.Stable t (Holding t key kind) := fun _ _ _ rely holding =>
  ⟨rely.handover.trans holding.1, fun completed => reached_of_suffix rely.log (holding.2 completed)⟩

theorem stable_publishing (arrived : Bool) : motionDiscipline.Stable .io (Publishing arrived) :=
  fun _ _ _ rely holds => ⟨rely.handover.trans holds.1, (rely.publishing rfl).trans holds.2⟩

theorem MotionSame.publishing {s s' : Service} (same : MotionSame s s') :
    publishing s'.motionLog = publishing s.motionLog := by
  rcases same.log with ⟨log, -⟩ | ⟨_, _, log, -⟩
  · rw [log]
  · rw [log]
    rfl

theorem MotionSame.suffix {s s' : Service} (same : MotionSame s s') :
    s.motionLog <:+ s'.motionLog := by
  rcases same.log with ⟨log, -⟩ | ⟨_, _, log, -⟩
  · exact log ▸ List.suffix_rfl
  · rw [log]
    exact List.suffix_cons _ _

theorem MotionSame.rely {s s' : Service} (same : MotionSame s s') (t : Thread) : MotionRely t s s' :=
  ⟨by rw [same.handover], fun _ => same.publishing, same.suffix⟩

theorem motionLog_of_log {s s' : Service} (log : s'.log = s.log) : s'.motionLog = s.motionLog := by
  rw [motionLog, log, motionLog]

/-- Neutral sections leave the record alone. -/
theorem neutral_motionSame : Neutral MotionSame where
  tick _ _ _ same := ⟨same.request, same.client, same.handover, same.log⟩
  frame _ _ frame := ⟨frame.request, frame.client, frame.handover,
    Or.inl ⟨motionLog_of_log frame.log, frame.motion⟩⟩
  reply s _ _ _ := .record s rfl
  outcome := .applyOutcome
  motion _ _ := ⟨rfl, rfl, rfl, Or.inr ⟨_, _, motionLog_record_motion rfl, rfl⟩⟩
  control _ _ _ _ _ _ := .of_eq rfl rfl rfl rfl rfl
  refresh _ _ _ _ := .of_eq rfl rfl rfl rfl rfl

/-- Every section leaves the record alone. -/
abbrev MotionQuiet {α : Type} (p : Program α) : Prop := p.Every (Along MotionSame)

/-- A program that keeps the assertion. -/
def KeepsMotion (t : Thread) (A : Service → Prop) {α : Type} (p : Program α) : Prop :=
  motionDiscipline.Triple t p A (fun _ => A) fun _ => A

/-- A program that leaves the record alone keeps what a thread knows. -/
theorem keepsMotion_quiet {t : Thread} {A : Service → Prop} {α : Type} {p : Program α}
    (stable : motionDiscipline.Stable t A) (quiet : MotionQuiet p) : KeepsMotion t A p := by
  refine .of_every stable (quiet.mono fun _ _ f same i s inv holds _ _ => ?_)
  exact ⟨inv.same (same i s), fun u _ => (same i s).rely u,
    stable s _ inv ((same i s).rely t) holds⟩

theorem keepsMotion_idle {t : Thread} {α : Type} {p : Program α} (quiet : MotionQuiet p) :
    KeepsMotion t (Idle t) p :=
  keepsMotion_quiet (stable_idle t) quiet

theorem MotionInv.tick {s : Service} (inv : MotionInv s) (i : Input) : MotionInv (s.tick i) :=
  inv.same (.of_eq rfl rfl rfl rfl rfl)

theorem rely_writeEvent {s : Service} {t u : Thread} {key : RequestKey} {kind : MotionEventKind}
    {error : ProtocolError} {message : String} (other : u ≠ t) :
    MotionRely u s (s.writeEvent t key kind error message) where
  handover := handover_writeEvent_ne other
  publishing _ := by
    rw [motionLog_writeEvent]
    rfl
  log := by
    rw [motionLog_writeEvent]
    exact List.suffix_cons _ _

theorem rely_tick {s s' : Service} {u : Thread} {i : Input} (rely : MotionRely u (s.tick i) s') :
    MotionRely u s s' :=
  ⟨rely.handover, rely.publishing, rely.log⟩

/-- The clock plays no part in the protocol. -/
theorem keepsProtocol_tick {t : Thread} {site : Site} {i : Input} {s : Service}
    (keeps : KeepsProtocol t site i s) : KeepsProtocol t site i (s.tick i) := keeps

/-- Publishing an event: a failed write throws and leaves the state. -/
theorem triple_publishMotionEvent {t : Thread} {key : RequestKey} {kind : MotionEventKind}
    {error : ProtocolError} {message : String} {A B E : Service → Prop}
    (clock : ∀ s i, A s → A (s.tick i)) (stable : motionDiscipline.Stable t B)
    (stableThrown : motionDiscipline.Stable t E)
    (written : ∀ s, MotionInv s → A s → ∀ i, KeepsProtocol t (.motionWrite kind key) i s →
      MotionInv (s.writeEvent t key kind error message) ∧
        B (s.writeEvent t key kind error message))
    (thrown : ∀ s, A s → ∀ i, KeepsProtocol t (.motionWrite kind key) i s →
      i.status.isOk = false → E s) :
    motionDiscipline.Triple t (publishMotionEvent t key kind error message) A (fun _ => B)
      fun _ => E := by
  refine .await (fun _ => stable) (fun _ => stableThrown) fun i s inv holds _ allowed => ?_
  have inv := inv.tick i
  have holds := clock s i holds
  have allowed : KeepsProtocol t (.motionWrite kind key) i (s.tick i) := keepsProtocol_tick allowed
  simp only [publish]
  cases status : i.status with
  | ok _ =>
    obtain ⟨inv', post⟩ := written (s.tick i) inv holds i allowed
    exact ⟨inv', fun u other => rely_tick (rely_writeEvent other), post⟩
  | error _ =>
    refine ⟨inv, fun u _ => rely_tick ((MotionSame.refl _).rely u), ?_⟩
    exact thrown (s.tick i) holds i allowed (by rw [status]; rfl)

theorem triple_terminal {t : Thread} {key : RequestKey} {kind : MotionEventKind}
    {error : ProtocolError} {message : String} (terminal : kind = .completed ∨ kind = .cancelled) :
    motionDiscipline.Triple t (publishMotionEvent t key kind error message) (Holding t key kind)
      (fun _ => Idle t) fun _ => Idle t := by
  have other : kind ≠ .accepted := by rcases terminal with rfl | rfl <;> decide
  refine triple_publishMotionEvent (fun _ _ holds => holds) (stable_idle t) (stable_idle t) ?_ ?_
  · intro s inv holding i _
    refine ⟨inv.terminal holding.1 other holding.2, ?_⟩
    exact handover_writeEvent_self.trans (if_neg other)
  · intro s _ i allowed failed
    rcases terminal with rfl | rfl <;>
      simp [KeepsProtocol, breaksProtocol, failed] at allowed

theorem triple_accepted {key : RequestKey} {error : ProtocolError} {message : String} :
    motionDiscipline.Triple .worker (publishMotionEvent .worker key .accepted error message)
      (Idle .worker) (fun _ => Holding .worker key .accepted) fun _ => Idle .worker := by
  refine triple_publishMotionEvent (fun _ _ holds => holds) (stable_holding _ _ _) (stable_idle _) ?_
    fun s idle _ _ _ => idle
  intro s inv idle i allowed
  exact ⟨inv.accepted idle allowed, handover_writeEvent_self, nofun⟩

theorem triple_failed {key : RequestKey} {error : ProtocolError} {message : String} :
    KeepsMotion .worker (Idle .worker)
      (publishMotionEvent .worker key .failed error message) := by
  refine triple_publishMotionEvent (fun _ _ holds => holds) (stable_idle _) (stable_idle _) ?_
    fun s idle _ _ _ => idle
  intro s inv idle i allowed
  exact ⟨inv.failed idle allowed, handover_writeEvent_self⟩

/-- A thread that takes the recorded request publishes its terminal event. -/
theorem triple_finishPendingMotion {t : Thread} {kind : MotionEventKind} {error : ProtocolError}
    {message : String} {A : Service → Prop} (terminal : kind = .completed ∨ kind = .cancelled)
    (idle : ∀ s, A s → Idle t s) (clock : ∀ s i, A s → A (s.tick i))
    (reaches : ∀ s, MotionInv s → A s → ∀ key, s.pendingMotion = some key → kind = .completed →
      reached key s.motionLog = true) :
    motionDiscipline.Triple t (finishPendingMotion t kind error message) A (fun _ => Idle t)
      fun _ => Idle t := by
  refine Triple.bind (Q := fun pending s => pending.elim (Idle t s) fun key => Holding t key kind s) ?_
    fun pending => ?_
  · refine .atomic (fun pending => ?_) fun i s inv holds _ => ?_
    · cases pending with
      | none => exact stable_idle t
      | some key => exact stable_holding t key kind
    · have inv := inv.tick i
      have holds := clock s i holds
      simp only
      split_ifs with empty
      · exact ⟨inv, fun u _ => rely_tick ((MotionSame.refl _).rely u), idle _ holds⟩
      · refine ⟨inv.take (idle _ holds), fun u other => rely_tick (i := i) ?_, ?_⟩
        · exact ⟨handover_hold_ne _ _ _ _ other, fun _ => rfl, List.suffix_rfl⟩
        · have pending : (s.tick i).pendingMotion = some ⟨s.pendingMotionClient,
            s.pendingMotionRequest⟩ := if_neg empty
          rw [pending]
          refine ⟨(handover_hold_self ..).trans pending, fun completed => ?_⟩
          exact reaches _ inv holds _ pending completed
  · cases pending with
    | none => exact fun _ _ holds => holds
    | some key => exact triple_terminal terminal

/-! ## The programs -/

theorem cancelPendingMotion_keeps (t : Thread) (error : ProtocolError) (message : String) :
    KeepsMotion t (Idle t) (cancelPendingMotion t error message) :=
  triple_finishPendingMotion (Or.inr rfl) (fun _ idle => idle) (fun _ _ idle => idle)
    fun _ _ _ _ _ completed => nomatch completed

theorem onLost_keeps (reason : String) : KeepsMotion .io (Idle .io) (onLost reason) := by
  have neutral := neutral_motionSame
  refine Triple.bind (keepsMotion_idle (neutral.act fun _ _ => .of_eq rfl rfl rfl rfl rfl)) fun _ => ?_
  refine Triple.bind (keepsMotion_idle neutral.runtimeSnapshot) fun runtime => ?_
  refine Triple.bind (keepsMotion_idle (every_when (neutral.act fun _ s => .applyOutcome s _)))
    fun _ => ?_
  exact cancelPendingMotion_keeps .io .noLease reason

theorem notifyLost_keeps (lost : Option String) : KeepsMotion .io (Idle .io) (notifyLost lost) := by
  cases lost with
  | none => exact fun _ _ idle => idle
  | some reason => exact onLost_keeps reason

theorem handleRequest_keeps (config : ServiceConfig) (request : ControlRequest) :
    KeepsMotion .io (Idle .io) (handleRequest config request) := by
  have neutral := neutral_motionSame
  refine .ite (fun _ => keepsMotion_idle (neutral.finishReply ..)) fun _ => ?_
  split
  · refine keepsMotion_idle (every_bind neutral.clockNow fun now => every_bind ?_ fun acquired => ?_)
    · exact neutral.act fun _ _ => .of_eq rfl rfl rfl rfl rfl
    · cases acquired <;> exact neutral.finishReply ..
  · refine keepsMotion_idle (every_bind neutral.clockNow fun now => every_bind ?_ fun _ => ?_)
    · exact neutral.act fun _ _ => .of_eq rfl rfl rfl rfl rfl
    · exact neutral.finishReply ..
  · refine Triple.bind (keepsMotion_idle (neutral.act fun _ _ => .of_eq rfl rfl rfl rfl rfl))
      fun out => ?_
    refine Triple.bind (notifyLost_keeps _) fun _ => keepsMotion_idle (neutral.finishReply ..)
  · exact keepsMotion_idle (neutral.handleQueued request)

theorem takeControlRequests_keeps (config : ServiceConfig) :
    KeepsMotion .io (Idle .io) (takeControlRequests config) := by
  refine Triple.loop ?_ 32
  refine Triple.bind (keepsMotion_idle (neutral_motionSame.act fun _ s => .refl s)) fun sample => ?_
  cases sample with
  | none => exact fun _ _ idle => idle
  | some request => exact (handleRequest_keeps config request).bind fun _ _ _ idle => idle

theorem quiet_takeStreamCommands (config : ServiceConfig) : MotionQuiet (takeStreamCommands config) := by
  have neutral := neutral_motionSame
  refine every_loop (every_bind (neutral.act fun _ s => .refl s) fun sample => ?_) 64
  cases sample with
  | none => trivial
  | some wire =>
    refine every_bind neutral.clockNow fun receivedAt => every_bind (every_when ?_) fun _ => trivial
    refine every_bind (neutral.act fun _ s => ?_) fun error => every_when ?_
    · simp only
      split_ifs
      · exact .of_eq rfl rfl rfl (motionLog_record_other rfl) rfl
      · exact .of_eq rfl rfl rfl rfl rfl
    · exact neutral.act fun _ _ => .of_eq rfl rfl rfl rfl rfl

theorem MotionSame.deliver (s : Service) (now : Time) (command : StreamCommand) (i : Input) :
    MotionSame s (s.deliver now command i).2 := by
  have same := MotionSame.applyOutcome (s.record (.pumped now s.lease.active true (some command)))
    i.outcome
  unfold Service.deliver
  cases i.status with
  | ok _ => exact ⟨same.request, same.client, same.handover, same.log⟩
  | error _ => exact ⟨same.request, same.client, same.handover, same.log⟩

theorem quiet_pumpLatest : MotionQuiet pumpLatest := by
  have neutral := neutral_motionSame
  refine every_bind neutral.clockNow fun now => every_bind (neutral.act fun _ s => .refl s)
    fun busy => every_ite trivial ?_
  refine every_bind (neutral.act fun _ _ => .of_eq rfl rfl rfl rfl rfl) fun command => ?_
  refine every_bind (neutral.act fun _ s => ?_) fun runtime => ?_
  · simp only
    split_ifs
    · exact .refl s
    · exact .record s rfl
  · split
    · exact neutral.act fun i s => .deliver s _ _ i
    · trivial

/-- Taking the recorded request and publishing its event are not part of a state publication. -/
theorem publishing_finishPendingMotion {t : Thread} {kind : MotionEventKind} {error : ProtocolError}
    {message : String} (reading : Option Bool) :
    (finishPendingMotion t kind error message).Every fun _ _ act =>
      ∀ i s, publishing s.motionLog = reading → publishing (act i s).motionLog = reading := by
  refine every_bind (every_atomic fun i s holds => ?_) fun pending => ?_
  · simp only
    split_ifs <;> exact holds
  · cases pending with
    | none => trivial
    | some key =>
      refine every_await fun i s holds => ?_
      simp only [publish]
      cases i.status with
      | ok _ =>
        simp only [motionLog_writeEvent]
        exact holds
      | error _ => exact holds

theorem triple_completed :
    motionDiscipline.Triple .io (finishPendingMotion .io .completed .ok "motion completed")
      (Publishing true) (fun _ => Publishing true) fun _ => Idle .io := by
  have finished : motionDiscipline.Triple .io
      (finishPendingMotion .io .completed .ok "motion completed") (Publishing true)
      (fun _ => Idle .io) fun _ => Idle .io := by
    refine triple_finishPendingMotion (Or.inl rfl) (fun _ holds => holds.1) (fun _ _ holds => holds) ?_
    intro s inv holds key recorded _
    exact (inv.reading true key holds.2 recorded).2 rfl
  have framed := finished.frame (F := fun s => publishing s.motionLog = some true)
    (fun s s' _ rely holds => (rely.publishing rfl).trans holds)
    (publishing_finishPendingMotion (some true))
  refine framed.conseq (fun s _ holds => ⟨holds, holds.2⟩) ?_ ?_
  · exact fun _ s _ holds => holds
  · exact fun _ s _ holds => holds.1

/-- Reading a state: the recorded request is running or completed. -/
theorem MotionInv.read {s : Service} (inv : MotionInv s)
    (keeps : (s.pendingMotion.any fun key =>
      !(motionState key s.motionLog = some .completed || s.motion = some ⟨key, .running⟩)) = false) :
    MotionInv (s.record (.stateRead s.motionArrived)) := by
  have log : (s.record (.stateRead s.motionArrived)).motionLog =
    .stateRead s.motionArrived :: s.motionLog := motionLog_record_motion rfl
  refine ⟨?_, inv.exclusive, ?_, ?_, ?_, ?_, ?_, ?_⟩
  · rw [log]
    exact inv.tracked
  · rw [log]
    exact inv.settled
  · rw [log]
    exact ⟨nofun, inv.first⟩
  · rw [log]
    exact ⟨nofun, inv.completed⟩
  · rw [log]
    exact ⟨nofun, inv.published⟩
  · rw [log]
    exact inv.current
  · rw [log]
    intro arrived key publishes recorded
    obtain rfl := Option.some.inj publishes
    have recorded : s.pendingMotion = some key := recorded
    rw [recorded] at keeps
    simp only [Option.any_some, Bool.not_eq_false', Bool.or_eq_true, decide_eq_true_eq] at keeps
    rcases keeps with completed | running
    · refine ⟨by simp [beforeRead, ended, completed], fun _ => reached_cons ?_⟩
      simpa only [reached, decide_eq_true_eq] using mem_of_motionState completed
    · have last := inv.current _ running
      refine ⟨by simp [beforeRead, ended, last], fun arrived => ?_⟩
      simp [motionArrived, running] at arrived

/-- The end of a state publication. -/
theorem MotionInv.publish {s : Service} (inv : MotionInv s) {arrived : Bool}
    (reading : publishing s.motionLog = some arrived) :
    MotionInv (s.record (.statePublished s.pendingMotion)) := by
  have log : (s.record (.statePublished s.pendingMotion)).motionLog =
    .statePublished s.pendingMotion :: s.motionLog := motionLog_record_motion rfl
  refine ⟨?_, inv.exclusive, ?_, ?_, ?_, ?_, ?_, ?_⟩
  · rw [log]
    exact inv.tracked
  · rw [log]
    exact inv.settled
  · rw [log]
    exact ⟨nofun, inv.first⟩
  · rw [log]
    exact ⟨nofun, inv.completed⟩
  · rw [log]
    refine ⟨fun key same => ?_, inv.published⟩
    exact (inv.reading arrived key reading (Event.statePublished.inj same)).1
  · rw [log]
    exact inv.current
  · rw [log]
    exact nofun

theorem rely_record {s : Service} {e : Event} {u : Thread} (motion : e.isMotion = true)
    (other : u ≠ .io) : MotionRely u s (s.record e) where
  handover := rfl
  publishing io := absurd io other
  log := by
    rw [motionLog_record_motion motion]
    exact List.suffix_cons _ _

theorem triple_stateRead :
    motionDiscipline.Triple .io (act .stateRead fun i s =>
      match i.status with
      | .ok _ => (some s.motionArrived, s.record (.stateRead s.motionArrived))
      | .error _ => (none, s)) (Idle .io) (fun state s => match state with
        | none => Idle .io s
        | some arrived => Publishing arrived s) fun _ => Idle .io := by
  refine .atomic (fun state => ?_) fun i s inv idle allowed => ?_
  · cases state with
    | none => exact stable_idle .io
    | some arrived => exact stable_publishing arrived
  · have inv := inv.tick i
    have allowed : KeepsProtocol .io .stateRead i (s.tick i) := keepsProtocol_tick allowed
    simp only
    cases i.status with
    | ok _ =>
      refine ⟨inv.read allowed, fun u other => rely_tick (rely_record rfl other), idle, ?_⟩
      rw [motionLog_record_motion rfl]
      rfl
    | error _ => exact ⟨inv, fun u _ => rely_tick ((MotionSame.refl _).rely u), idle⟩

theorem publishState_keeps : KeepsMotion .io (Idle .io) publishState := by
  have neutral := neutral_motionSame
  refine Triple.bind (keepsMotion_idle neutral.runtimeSnapshot) fun runtime => ?_
  refine .ite (fun _ _ _ idle => idle) fun _ => Triple.bind triple_stateRead fun state => ?_
  cases state with
  | none => exact fun _ _ idle => idle
  | some arrived =>
    have write : MotionQuiet (actThrow .stateWrite fun i s =>
        match i.status with
        | .ok _ => (.ok (), s)
        | .error _ => (.error "write state", s)) := by
      refine neutral.actThrow fun i s => ?_
      cases i.status <;> exact .refl s
    refine Triple.bind (Q := fun _ => Publishing arrived) ?_ fun _ => ?_
    · exact (keepsMotion_quiet (stable_publishing arrived) write).conseq (fun _ _ holds => holds)
        (fun _ _ _ holds => holds) fun _ _ _ holds => holds.1
    refine Triple.bind (Q := fun _ => Publishing arrived) ?_ fun _ => ?_
    · refine .when (fun arrives => ?_) fun _ _ _ holds => holds
      subst arrives
      exact triple_completed
    · refine .atomic (fun _ => stable_idle .io) fun i s inv holds _ => ?_
      have inv := inv.tick i
      exact ⟨inv.publish holds.2, fun u other => rely_tick (rely_record rfl other),
        holds.1⟩

theorem runIteration_keeps (config : ServiceConfig) :
    KeepsMotion .io (Idle .io) (runIteration config) := by
  have neutral := neutral_motionSame
  refine Triple.tryCatch (E := fun _ => Idle .io) ?_ fun _ => keepsMotion_idle neutral.runReturns
  refine Triple.bind (keepsMotion_idle (neutral.await fun _ _ => rfl)) fun now => ?_
  refine Triple.bind (keepsMotion_idle (neutral.act fun _ _ => .of_eq rfl rfl rfl rfl rfl))
    fun lost => ?_
  refine Triple.bind (notifyLost_keeps lost) fun _ => ?_
  refine Triple.bind (keepsMotion_idle (neutral.act fun _ s => .refl s)) fun count => ?_
  refine .ite (fun _ => keepsMotion_idle neutral.runReturns) fun _ => ?_
  refine Triple.bind (Q := fun _ => Idle .io) ?_ fun _ => ?_
  · refine .when (fun _ => ?_) fun _ _ _ idle => idle
    exact (takeControlRequests_keeps config).bind fun _ =>
      keepsMotion_idle (quiet_takeStreamCommands config)
  refine Triple.bind (keepsMotion_idle quiet_pumpLatest) fun _ => ?_
  refine Triple.bind (keepsMotion_idle (neutral.act fun _ s => .refl s)) fun due => ?_
  exact .when (fun _ => publishState_keeps) fun _ _ _ idle => idle

theorem runShutdown_keeps : KeepsMotion .io (Idle .io) runShutdown := by
  have neutral := neutral_motionSame
  refine Triple.bind (keepsMotion_idle (neutral.await fun _ _ => rfl)) fun _ => ?_
  refine Triple.bind (keepsMotion_idle neutral.stopControlWorker) fun _ => ?_
  refine Triple.bind (keepsMotion_idle (neutral.act fun _ _ => .of_eq rfl rfl rfl rfl rfl))
    fun lost => ?_
  refine Triple.bind (notifyLost_keeps lost) fun _ => keepsMotion_idle ?_
  refine every_bind (neutral.act fun _ _ => .of_eq rfl rfl rfl rfl rfl) fun _ => ?_
  refine every_bind neutral.runtimeSnapshot fun runtime => every_bind (every_when ?_) fun _ =>
    neutral.runReturns
  refine every_bind (neutral.act fun _ s => .applyOutcome s _) fun _ => neutral.act fun _ s => ?_
  split_ifs
  · exact .of_eq rfl rfl rfl rfl rfl
  · exact .refl s

/-! ### The control worker -/

theorem triple_pendingRecord (request : ControlRequest) {E : String → Service → Prop} :
    motionDiscipline.Triple .worker (act (.pendingRecord request) fun _ s =>
      ((), s.recordPending request)) (Holding .worker request.key .accepted)
      (fun _ => Idle .worker) E := by
  refine .atomic (fun _ => stable_idle _) fun i s inv holding allowed => ?_
  have inv := inv.tick i
  have allowed : KeepsProtocol .worker (.pendingRecord request) i (s.tick i) :=
    keepsProtocol_tick allowed
  simp only [KeepsProtocol, breaksProtocol, Bool.or_eq_false_iff, decide_eq_false_iff_not,
    not_not] at allowed
  obtain ⟨⟨empty, numbered⟩, reading⟩ := allowed
  refine ⟨inv.record holding.1 (if_pos empty) numbered fun arrived publishes => ?_, fun u other =>
    rely_tick (i := i) ?_, handover_hold_self ..⟩
  · simp only [publishes, Option.any_some, Bool.or_eq_false_iff, Bool.and_eq_false_iff,
      Bool.not_eq_false'] at reading
    refine ⟨reading.1, fun arrives => ?_⟩
    rcases reading.2 with early | reaches
    · rw [arrives] at early
      cases early
    · exact reaches
  · exact ⟨handover_hold_ne _ _ _ _ other, fun _ => rfl, List.suffix_rfl⟩

theorem finishMotion_keeps (request : ControlRequest) (status : Except Failure Unit)
    (leaseError : ProtocolError) :
    KeepsMotion .worker (Idle .worker) (finishMotion request status leaseError) := by
  refine .ite (fun _ => .ite (fun _ => ?_) fun _ => triple_failed) fun _ => ?_
  · refine Triple.bind triple_accepted fun _ => ?_
    refine Triple.bind (triple_pendingRecord request) fun _ => ?_
    refine Triple.bind (keepsMotion_idle (neutral_motionSame.checkLease request)) fun lost => ?_
    exact .when (fun _ => cancelPendingMotion_keeps _ _ _) fun _ _ _ idle => idle
  · exact .when (fun _ => cancelPendingMotion_keeps _ _ _) fun _ _ _ idle => idle

theorem executeQueuedRequest_keeps (config : ServiceConfig) (request : ControlRequest) :
    KeepsMotion .worker (Idle .worker) (executeQueuedRequest config request) := by
  have neutral := neutral_motionSame
  refine Triple.bind (keepsMotion_idle (every_ite trivial (neutral.checkLease request)))
    fun lost => ?_
  refine .ite (fun _ => keepsMotion_idle (neutral.finishReply ..)) fun _ => ?_
  refine .ite (fun _ => keepsMotion_idle (neutral.finishReply ..)) fun _ => ?_
  refine Triple.bind (keepsMotion_idle (neutral.runtimeFor config request)) fun runtime => ?_
  cases runtime with
  | none =>
    exact keepsMotion_idle (every_bind (neutral.act fun _ s => .refl s) fun _ =>
      neutral.finishReply ..)
  | some runtime =>
    refine Triple.bind (keepsMotion_idle (neutral.execute request)) fun status => ?_
    refine Triple.bind (keepsMotion_idle (neutral.refreshLease request)) fun leaseError => ?_
    refine Triple.bind (finishMotion_keeps request status leaseError) fun _ => keepsMotion_idle ?_
    refine every_bind (neutral.replyAfter ..) fun _ => every_when ?_
    exact neutral.act fun _ _ => .of_eq rfl rfl rfl rfl rfl

theorem controlWorkerIteration_keeps (config : ServiceConfig) :
    KeepsMotion .worker (Idle .worker) (controlWorkerIteration config) := by
  have neutral := neutral_motionSame
  refine Triple.bind (keepsMotion_idle (every_await fun i s =>
    neutral.tick s i _ (neutral.popRequest _))) fun request => ?_
  match request with
  | none => exact fun _ _ idle => idle
  | some none =>
    exact keepsMotion_idle (every_bind neutral.clockNow fun now => neutral.ensureRuntime config now)
  | some (some request) =>
    refine Triple.bind (keepsMotion_idle (neutral.act fun _ _ => .of_eq rfl rfl rfl rfl rfl))
      fun _ => ?_
    refine Triple.bind (Q := fun _ => Idle .worker) ?_ fun _ =>
      keepsMotion_idle (neutral.act fun _ _ => .of_eq rfl rfl rfl rfl rfl)
    exact Triple.tryCatch (executeQueuedRequest_keeps config request) fun _ =>
      keepsMotion_idle (neutral.act fun _ _ => .of_eq rfl rfl rfl rfl rfl)

theorem motionInv_start (config : ServiceConfig) : MotionInv (service config).start := by
  have untracked : ∀ key, ¬ (service config).start.Tracked key := by
    rintro key (recorded | ⟨t, held⟩)
    · cases recorded
    · cases held
  refine ⟨fun key tracked => absurd tracked (untracked key), nofun, ?_, trivial, trivial, trivial,
    nofun, nofun⟩
  intro key accepted
  cases accepted

/-- The service follows the discipline of the motion events. -/
theorem governs_motion (config : ServiceConfig) : motionDiscipline.Governs (service config) where
  start := motionInv_start config
  rests _ := rfl
  resting := stable_idle
  body op := by
    cases op with
    | runIteration => exact runIteration_keeps config
    | runShutdown => exact runShutdown_keeps
    | controlWorkerIteration => exact controlWorkerIteration_keeps config
    | runtimeStep => exact keepsMotion_idle neutral_motionSame.runtimeStep

/-- In every run whose sections keep to the protocol's condition, for every interleaving and every
outcome of the Runtime, the motion event protocol holds in every state. -/
theorem motionProtocol_of_reach (config : ServiceConfig)
    (c : Config Thread Service Input Site String)
    (reach : (service config).Reach KeepsProtocol c) : MotionProtocol c.shared :=
  ((governs_motion config).inv_of_reach reach).protocol

namespace Scenario

/-- Motion request number `requestId` of the first client. -/
def move (requestId : ℕ) : ControlRequest := ⟨identity "a" requestId, requestId, 1, .movePose⟩

/-- The I/O thread takes one request and pumps. -/
def submit (request : ControlRequest) : List (Move Thread Input Op) :=
  .start .runIteration :: go .io 2 ++ io { count := 1 } ++ io { request := some request } ++ go .io 10

/-- The worker executes a motion request up to its reply. -/
def workMove : List (Move Thread Input Op) := .start .controlWorkerIteration :: go .worker 14

/-- The Runtime's motion arrives. -/
def complete : List (Move Thread Input Op) :=
  [.start .runtimeStep, .advance .runtime { outcome := .complete }]

/-- A client enables the robot, and its first motion is accepted and arrives. -/
def moveOnce : List (Move Thread Input Op) :=
  connect ++ submit (acquire "a") ++ submit enable ++
    .start .controlWorkerIteration :: go .worker 10 ++ submit (move 3) ++ workMove ++ complete

/-- An iteration of the I/O thread that publishes a state. -/
def publication : List (Move Thread Input Op) :=
  .start .runIteration :: go .io 7 ++ io { due := true } ++ go .io 6

end Scenario

open Scenario in
/-- A motion that is accepted, arrives and is published as completed. -/
theorem motionProtocol_of_reach_once : ∃ c, (service config).Reach KeepsProtocol c ∧
    c.shared.motionLog = [.statePublished none,
      .motionEvent ⟨"a", 3⟩ .completed .ok "motion completed", .stateRead true,
      .motion ⟨"a", 3⟩ .completed, .motionEvent ⟨"a", 3⟩ .accepted .ok "motion accepted",
      .motion ⟨"a", 3⟩ .running] ∧ MotionProtocol c.shared := by
  obtain ⟨c, reach, seen⟩ := Machine.exists_reach_of_run (M := service config)
    (b := [.statePublished none, .motionEvent ⟨"a", 3⟩ .completed .ok "motion completed",
      .stateRead true, .motion ⟨"a", 3⟩ .completed,
      .motionEvent ⟨"a", 3⟩ .accepted .ok "motion accepted", .motion ⟨"a", 3⟩ .running])
    (fun _ site i s => !breaksProtocol site i s) motionLog (moveOnce ++ publication)
    (fun _ _ _ _ passed => by simpa [KeepsProtocol] using passed) (by rfl)
  exact ⟨c, reach, seen, motionProtocol_of_reach config c reach⟩

/-! ## A request without a terminal event -/

open Scenario in
/-- The first motion arrives, and before the next state publication the second one is accepted and
recorded over it: the first request is no longer recorded and has had no terminal event. -/
theorem overwritten_not_tracked :
    ¬ ∀ c, (service config).Reach (fun _ _ _ _ => True) c → MotionProtocol c.shared := by
  intro holds
  obtain ⟨c, reach, seen⟩ := Machine.exists_reach_of_run (M := service config)
    (b := ([.motionEvent ⟨"a", 4⟩ .accepted .ok "motion accepted", .motion ⟨"a", 4⟩ .running,
      .motion ⟨"a", 3⟩ .completed, .motionEvent ⟨"a", 3⟩ .accepted .ok "motion accepted",
      .motion ⟨"a", 3⟩ .running], some ⟨"a", 4⟩, none, none, none))
    (fun _ _ _ _ => true) (fun s => (s.motionLog, s.pendingMotion, s.handover .io,
      s.handover .worker, s.handover .runtime)) (moveOnce ++ submit (move 4) ++ workMove)
    (fun _ _ _ _ _ => trivial) (by rfl)
  simp only [Prod.mk.injEq] at seen
  obtain ⟨log, pending, io, worker, runtime⟩ := seen
  rcases (holds c reach).1 ⟨"a", 3⟩ [.motionEvent ⟨"a", 4⟩ .accepted .ok "motion accepted",
    .motion ⟨"a", 4⟩ .running, .motion ⟨"a", 3⟩ .completed] _ _ log rfl with tracked | once
  · rcases tracked.2 with recorded | ⟨t, held⟩
    · rw [pending] at recorded
      exact absurd recorded (by decide)
    · cases t <;> simp_all
  · exact absurd once (by decide)

end MotorDrive.Dds
