import MotorDrive.Trajectory.Frames
import MotorDrive.Trajectory.Run

/-!
# Where the motions go

Every operation moves motions between the active slot, the FIFO and the history (`Moved`): a motion that
starts enters with the next id, an ended one is archived, and only a motion that is replaced while it runs
leaves without a trace.
-/

namespace MotorDrive.Trajectory

open Validate

variable {K : Type}

/-! ## Motions of a state -/

/-- The states of a motion that has ended. -/
def MotionState.Terminal : MotionState → Prop
  | .completed | .cancelled | .fault => True
  | .idle | .queued | .running => False

theorem Ending.terminal (ending : Ending) : ending.state.Terminal := by
  cases ending <;> trivial

/-- The motions in the active slot and the FIFO. -/
def Engine.live (s : Engine K) : List ℕ :=
  (s.trajectoryControl.id :: s.trajectoryQueue.map TrajectoryControl.id).filter (· ≠ 0)

/-- The number of motions that the FIFO takes. -/
def queueCapacity : ℕ := 64

theorem one_le_queueCapacity : 1 ≤ queueCapacity := by decide

/-- The states that the slots allow. -/
structure Engine.WellFormed (s : Engine K) : Prop where
  counted : s.nextMotionId ≠ 0
  short : s.trajectoryQueue.length ≤ queueCapacity
  idle : s.trajectoryControl.id = 0 → s.trajectoryControl.state = .idle
  active : s.trajectoryControl.id ≠ 0 → s.trajectoryControl.state ≠ .idle ∧ s.trajectoryControl.state ≠ .queued
  queued : ∀ q ∈ s.trajectoryQueue, q.id ≠ 0 ∧ q.state = .queued

theorem Engine.WellFormed.terminal {s : Engine K} (wf : s.WellFormed) (numbered : s.trajectoryControl.id ≠ 0)
    (stopped : s.trajectoryControl.state ≠ .running) : s.trajectoryControl.state.Terminal := by
  have allowed := wf.active numbered
  cases shape : s.trajectoryControl.state <;> simp_all [MotionState.Terminal]

theorem Engine.WellFormed.numbered {s : Engine K} (wf : s.WellFormed)
    (busy : s.trajectoryControl.state ≠ .idle) : s.trajectoryControl.id ≠ 0 := fun zero => busy (wf.idle zero)

theorem Engine.WellFormed.live_queue {s : Engine K} (wf : s.WellFormed) :
    (s.trajectoryQueue.map TrajectoryControl.id).filter (· ≠ 0) = s.trajectoryQueue.map TrajectoryControl.id := by
  refine List.filter_eq_self.mpr fun id member => ?_
  obtain ⟨q, queued, rfl⟩ := List.mem_map.mp member
  exact decide_eq_true (wf.queued q queued).1

theorem Engine.WellFormed.live_eq {s : Engine K} (wf : s.WellFormed) :
    s.live = [s.trajectoryControl.id].filter (· ≠ 0) ++ s.trajectoryQueue.map TrajectoryControl.id := by
  rw [Engine.live, ← List.singleton_append, List.filter_append, wf.live_queue]

theorem Engine.WellFormed.live_eq_cons {s : Engine K} (wf : s.WellFormed) (numbered : s.trajectoryControl.id ≠ 0) :
    s.live = s.trajectoryControl.id :: s.trajectoryQueue.map TrajectoryControl.id := by
  rw [Engine.live, List.filter_cons_of_pos (by simpa using numbered), wf.live_queue]

/-! ## The bounded history -/

theorem drop_oldest_append {α : Type} (n : ℕ) (older newer : List α) :
    (older.drop (older.length - n) ++ newer).drop ((older.drop (older.length - n) ++ newer).length - n) =
      (older ++ newer).drop ((older ++ newer).length - n) := by
  have whole : older ++ newer =
      older.take (older.length - n) ++ (older.drop (older.length - n) ++ newer) := by
    rw [← List.append_assoc, List.take_append_drop]
  have kept : (older ++ newer).length - n = (older.take (older.length - n)).length +
      ((older.drop (older.length - n) ++ newer).length - n) := by
    simp only [List.length_append, List.length_drop, List.length_take]
    omega
  rw [kept, whole, List.drop_length_add_append]

theorem keepNewest_append (older newer : List (MotionStatus K)) :
    keepNewest (keepNewest older ++ newer) = keepNewest (older ++ newer) :=
  drop_oldest_append historyCapacity older newer

/-! ## Moves -/

/-- The motions `fresh` enter, the motions `dropped` leave, and the entries `ended` are archived. -/
structure Moved (s s' : Engine K) (fresh dropped : List ℕ) (ended : List (MotionStatus K)) : Prop where
  wellFormed : s'.WellFormed
  next : s.nextMotionId ≤ s'.nextMotionId
  entered : ∀ id ∈ fresh, s.nextMotionId ≤ id ∧ id < s'.nextMotionId
  history : ∀ log, s.trajectoryHistory = keepNewest log → s'.trajectoryHistory = keepNewest (log ++ ended)
  terminal : ∀ status ∈ ended, status.state.Terminal
  few : ended.length ≤ queueCapacity
  conserved : (fresh ++ s.live).Perm (s'.live ++ (ended.map MotionStatus.motionId ++ dropped))

/-- An operation that leaves the motions where they are. -/
theorem moved_of_same {s s' : Engine K} (wellFormed : s'.WellFormed) (next : s'.nextMotionId = s.nextMotionId)
    (history : s'.trajectoryHistory = s.trajectoryHistory) (queue : s'.trajectoryQueue = s.trajectoryQueue)
    (id : s'.trajectoryControl.id = s.trajectoryControl.id) : Moved s s' [] [] [] where
  wellFormed := wellFormed
  next := next.ge
  entered := nofun
  history := fun log same => by rw [history, same, List.append_nil]
  terminal := nofun
  few := Nat.zero_le _
  conserved := by simp [Engine.live, queue, id]

/-- A move after an operation that leaves the motions where they are. -/
theorem Moved.trans {s s₁ s₂ : Engine K} {ended : List (MotionStatus K)} (first : Moved s s₁ [] [] [])
    (second : Moved s₁ s₂ [] [] ended) : Moved s s₂ [] [] ended where
  wellFormed := second.wellFormed
  next := first.next.trans second.next
  entered := nofun
  history := fun log same => by
    rw [second.history _ (first.history log same), List.append_nil]
  terminal := second.terminal
  few := second.few
  conserved := by
    have conserved := first.conserved
    rw [List.map_nil, List.append_nil, List.append_nil] at conserved
    exact conserved.trans second.conserved

/-- The engine with another trajectory in the active slot that is numbered alike. -/
theorem moved_of_update {s : Engine K} (wf : s.WellFormed) (trajectory : TrajectoryControl K)
    (id : trajectory.id = s.trajectoryControl.id)
    (state : trajectory.state = s.trajectoryControl.state ∨
      s.trajectoryControl.state ≠ .idle ∧ trajectory.state ≠ .idle ∧ trajectory.state ≠ .queued) :
    Moved s { s with trajectoryControl := trajectory } [] [] [] := by
  refine moved_of_same ⟨wf.counted, wf.short, fun zero => ?_, fun numbered => ?_, wf.queued⟩ rfl rfl rfl id
  · rcases state with same | ⟨busy, -⟩
    · exact same.trans (wf.idle (id.symm.trans zero))
    · exact absurd (wf.idle (id.symm.trans zero)) busy
  · rcases state with same | ⟨-, allowed⟩
    · simpa [same] using wf.active (id ▸ numbered)
    · exact allowed

variable [Field K] [LinearOrder K]

/-! ## The operations -/

theorem foldl_archive_trajectoryHistory {f : TrajectoryControl K → TrajectoryControl K}
    {queue : List (TrajectoryControl K)} (numbered : ∀ q ∈ queue, (f q).id ≠ 0) {s : Engine K}
    {log : List (MotionStatus K)} (same : s.trajectoryHistory = keepNewest log) :
    (queue.foldl (fun s q => s.archive (f q)) s).trajectoryHistory =
      keepNewest (log ++ queue.map fun q => (f q).status) := by
  induction queue generalizing s log with
  | nil => simpa using same
  | cons q queue ih =>
    have first := archive_trajectoryHistory s (f q) (numbered q (List.mem_cons_self ..))
    rw [same, keepNewest_append] at first
    rw [List.foldl_cons, ih (fun q' member => numbered q' (List.mem_cons_of_mem _ member)) first]
    simp

/-- The end of all motions. -/
theorem moved_terminate {s : Engine K} (wf : s.WellFormed) (ending : Ending) (error : String) :
    Moved s (s.terminate ending error) [] [] (s.trajectoryQueue.map fun q => (q.cancelQueued error).status) := by
  refine ⟨⟨?_, Nat.zero_le _, fun zero => ?_, fun some => ?_, ?_⟩, ?_, nofun, fun log same => ?_, ?_, ?_, ?_⟩
  · rw [terminate_nextMotionId]
    exact wf.counted
  · rw [terminate_trajectoryControl, terminate_id] at zero
    simp [TrajectoryControl.terminate, wf.idle zero]
  · rw [terminate_trajectoryControl] at some ⊢
    rw [terminate_id] at some
    have allowed := wf.active some
    unfold TrajectoryControl.terminate
    split_ifs
    · cases ending <;> simp [Ending.state]
    · exact allowed
  · simp
  · simp
  · have numbered : ∀ q ∈ s.trajectoryQueue, (q.cancelQueued error).id ≠ 0 := fun q member =>
      (wf.queued q member).1
    exact foldl_archive_trajectoryHistory (f := fun q => q.cancelQueued error) numbered
      (s := { s with trajectoryControl := s.trajectoryControl.terminate ending error }) same
  · intro status member
    obtain ⟨q, -, rfl⟩ := List.mem_map.mp member
    trivial
  · simpa using wf.short
  · rw [wf.live_eq]
    simp [Engine.live, Function.comp_def, TrajectoryControl.status, TrajectoryControl.cancelQueued]

/-- A stopped motion gives its slot to the first queued one. -/
theorem moved_activateNext {s : Engine K} (wf : s.WellFormed) (numbered : s.trajectoryControl.id ≠ 0)
    (stopped : s.trajectoryControl.state ≠ .running) (now : K) :
    ∃ ended, Moved s (s.activateNext now) [] [] ended := by
  unfold Engine.activateNext
  split
  · exact ⟨[], moved_of_same wf rfl rfl rfl rfl⟩
  · rename_i next rest queue
    have second : next.id ≠ 0 := (wf.queued next (queue ▸ List.mem_cons_self ..)).1
    have wf' : (({ s.archive s.trajectoryControl with trajectoryQueue := rest } : Engine K).activate
        next now).WellFormed := by
      refine ⟨?_, ?_, fun zero => absurd zero second, fun _ => ⟨nofun, nofun⟩, fun q later => ?_⟩
      · simpa [Engine.activate] using wf.counted
      · have short := wf.short
        rw [queue] at short
        exact Nat.le_of_succ_le short
      · exact wf.queued q (queue ▸ List.mem_cons_of_mem _ later)
    refine ⟨[s.trajectoryControl.status], wf', ?_, nofun, fun log same => ?_, ?_, one_le_queueCapacity, ?_⟩
    · simp [Engine.activate]
    · simp only [Engine.activate, archive_trajectoryHistory s _ numbered, same, keepNewest_append]
    · intro status found
      rw [List.mem_singleton.mp found]
      exact wf.terminal numbered stopped
    · rw [wf.live_eq_cons numbered, wf'.live_eq_cons second, queue]
      exact (List.perm_append_singleton s.trajectoryControl.id _).symm

omit [Field K] [LinearOrder K] in
/-- A motion that starts behind a running one. -/
theorem moved_enqueue {s : Engine K} (wf : s.WellFormed) (room : s.trajectoryQueue.length < queueCapacity) {prepared : TrajectoryControl K}
    (id : prepared.id = s.nextMotionId) (state : prepared.state = .queued) :
    Moved s { s with nextMotionId := s.nextMotionId + 1, trajectoryQueue := s.trajectoryQueue ++ [prepared] }
      [s.nextMotionId] [] [] := by
  have wf' : ({ s with
      nextMotionId := s.nextMotionId + 1, trajectoryQueue := s.trajectoryQueue ++ [prepared] } : Engine K).WellFormed := by
    refine ⟨Nat.succ_ne_zero _, by simpa [Nat.succ_le_iff] using room, wf.idle, wf.active, fun q member => ?_⟩
    rcases List.mem_append.mp member with older | newest
    · exact wf.queued q older
    · rw [List.mem_singleton.mp newest]
      exact ⟨id ▸ wf.counted, state⟩
  refine ⟨wf', Nat.le_succ _, by simp, fun log same => by simpa using same, nofun, Nat.zero_le _, ?_⟩
  rw [wf.live_eq, wf'.live_eq, List.map_append, ← List.append_assoc _ _ (List.map _ [prepared])]
  simp only [List.map_cons, List.map_nil, id, List.append_nil]
  exact List.perm_append_comm

omit [LinearOrder K] in
/-- A motion that starts in the slot of a running one. -/
theorem moved_replace {s : Engine K} (wf : s.WellFormed) (running : s.trajectoryControl.state = .running)
    {prepared : TrajectoryControl K} (id : prepared.id = s.nextMotionId) (now : K) :
    Moved s (({ s with nextMotionId := s.nextMotionId + 1 } : Engine K).activate prepared now)
      [s.nextMotionId] [s.trajectoryControl.id] [] := by
  have numbered := wf.numbered (running.symm ▸ nofun)
  have wf' : (({ s with nextMotionId := s.nextMotionId + 1 } : Engine K).activate prepared now).WellFormed :=
    ⟨Nat.succ_ne_zero _, wf.short, fun zero => absurd (id.symm.trans zero) wf.counted,
      fun _ => ⟨nofun, nofun⟩, wf.queued⟩
  refine ⟨wf', Nat.le_succ _, by simp [Engine.activate], fun log same => by simpa [Engine.activate] using same,
    nofun, Nat.zero_le _, ?_⟩
  rw [wf.live_eq_cons numbered, wf'.live_eq_cons (id ▸ wf.counted)]
  simp only [Engine.activate, id]
  exact (List.perm_append_singleton s.trajectoryControl.id _).symm.cons _

/-- A motion that starts in the slot of a stopped one. -/
theorem moved_succeed {s : Engine K} (wf : s.WellFormed) (stopped : s.trajectoryControl.state ≠ .running)
    {prepared : TrajectoryControl K} (id : prepared.id = s.nextMotionId) (now : K) :
    ∃ ended, Moved s ((({ s with nextMotionId := s.nextMotionId + 1 } : Engine K).archive
      s.trajectoryControl).activate prepared now) [s.nextMotionId] [] ended := by
  have wf' : ((({ s with nextMotionId := s.nextMotionId + 1 } : Engine K).archive
      s.trajectoryControl).activate prepared now).WellFormed := by
    refine ⟨?_, ?_, fun zero => absurd (id.symm.trans zero) wf.counted, fun _ => ⟨nofun, nofun⟩, ?_⟩
    · simp [Engine.activate]
    · simpa [Engine.activate] using wf.short
    · simpa [Engine.activate] using wf.queued
  have live := wf'.live_eq_cons (id ▸ wf.counted)
  by_cases numbered : s.trajectoryControl.id = 0
  · refine ⟨[], wf', ?_, by simp [Engine.activate], fun log same => ?_, nofun, Nat.zero_le _, ?_⟩
    · simp [Engine.activate]
    · simpa [Engine.activate, Engine.archive, numbered] using same
    · rw [wf.live_eq, live]
      simp [Engine.activate, id, numbered]
  · refine ⟨[s.trajectoryControl.status], wf', ?_, by simp [Engine.activate], fun log same => ?_, ?_,
      one_le_queueCapacity, ?_⟩
    · simp [Engine.activate]
    · simp only [Engine.activate, archive_trajectoryHistory _ _ numbered, same, keepNewest_append]
    · intro status found
      rw [List.mem_singleton.mp found]
      exact wf.terminal numbered stopped
    · rw [wf.live_eq_cons numbered, live]
      simp only [Engine.activate, id, archive_trajectoryQueue]
      exact (List.perm_append_singleton s.trajectoryControl.id _).symm.cons _

/-- The start of a motion: only one that runs and is replaced leaves without an entry of the history. -/
theorem moved_install {s : Engine K} (wf : s.WellFormed) (request : Request K) (plan : Plan K) {enqueue : Bool}
    (room : enqueue = true → s.trajectoryQueue.length < queueCapacity) (now : K) : ∃ ended, Moved s
      (({ s with nextMotionId := s.nextMotionId + 1 } : Engine K).install
        (preparedTrajectory s.nextMotionId request plan) enqueue now)
      [s.nextMotionId]
      (if enqueue = false ∧ s.trajectoryControl.state = .running then [s.trajectoryControl.id] else []) ended := by
  unfold Engine.install
  simp only
  by_cases running : s.trajectoryControl.state = .running
  · cases enqueue with
    | true =>
      rw [if_pos ⟨rfl, running⟩, if_neg (by simp)]
      exact ⟨[], moved_enqueue wf (room rfl) rfl rfl⟩
    | false =>
      rw [if_neg (by simp), if_pos running, if_pos ⟨rfl, running⟩]
      exact ⟨[], moved_replace wf running rfl now⟩
  · rw [if_neg (fun both => running both.2), if_neg running, if_neg (fun both => running both.2)]
    exact moved_succeed wf running rfl now

/-- A queued motion that is cancelled, from a queue with the same motions. -/
theorem moved_dequeue {s : Engine K} (wf : s.WellFormed) {queue : List (TrajectoryControl K)}
    (ids : queue.map TrajectoryControl.id = s.trajectoryQueue.map TrajectoryControl.id)
    (states : ∀ q ∈ queue, q.state = .queued) {index : ℕ} {queued : TrajectoryControl K}
    (found : s.trajectoryQueue[index]? = some queued) :
    ∃ ended, Moved s (({ s with trajectoryQueue := queue } : Engine K).dequeue index queued) [] [] ended := by
  set cancelled : TrajectoryControl K := { queued with state := .cancelled, error := "queued motion cancelled" }
    with cancelled_eq
  have numbered : cancelled.id ≠ 0 := (wf.queued queued (List.mem_of_getElem? found)).1
  have allNumbered : ∀ q ∈ queue, q.id ≠ 0 := by
    intro q member
    obtain ⟨q', member', same⟩ := List.mem_map.mp (ids ▸ List.mem_map_of_mem (f := TrajectoryControl.id) member)
    exact same ▸ (wf.queued q' member').1
  have wf' : (({ s with trajectoryQueue := queue } : Engine K).dequeue index queued).WellFormed := by
    refine ⟨?_, ?_, ?_, ?_, fun q member => ?_⟩
    · simpa [Engine.dequeue] using wf.counted
    · have short := wf.short
      rw [← List.length_map (f := TrajectoryControl.id), ← ids, List.length_map] at short
      exact (List.eraseIdx_sublist _ _).length_le.trans short
    · simpa [Engine.dequeue] using wf.idle
    · simpa [Engine.dequeue] using wf.active
    · have before := List.mem_of_mem_eraseIdx member
      exact ⟨allNumbered q before, states q before⟩
  refine ⟨[cancelled.status], wf', ?_, nofun, fun log same => ?_, ?_, one_le_queueCapacity, ?_⟩
  · simp [Engine.dequeue]
  · simp only [Engine.dequeue, ← cancelled_eq]
    refine (archive_trajectoryHistory _ cancelled numbered).trans ?_
    simp only [same, keepNewest_append]
  · intro status member
    rw [List.mem_singleton.mp member]
    trivial
  · have place : (s.trajectoryQueue.map TrajectoryControl.id)[index]? = some queued.id := by
      rw [List.getElem?_map, found, Option.map_some]
    obtain ⟨bound, queuedId⟩ := List.getElem?_eq_some_iff.mp place
    have leaves := List.getElem_cons_eraseIdx_perm bound
    rw [queuedId] at leaves
    have rest : (({ s with trajectoryQueue := queue } : Engine K).dequeue index queued).trajectoryQueue.map
        TrajectoryControl.id = (s.trajectoryQueue.map TrajectoryControl.id).eraseIdx index := by
      rw [← ids, List.eraseIdx_map]
      rfl
    have control : (({ s with trajectoryQueue := queue } : Engine K).dequeue index queued).trajectoryControl =
      s.trajectoryControl := by simp [Engine.dequeue]
    rw [wf.live_eq, wf'.live_eq, rest, control, List.nil_append, List.append_nil, List.append_assoc]
    exact (leaves.symm.trans (List.perm_append_singleton _ _).symm).append_left _

/-- `cancel_motion` archives what it removes from the FIFO. -/
theorem moved_cancelMotion (sqrt : K → K) {s : Engine K} (wf : s.WellFormed) (id : ℕ) :
    ∃ ended, Moved s (s.cancelMotion sqrt id).2 [] [] ended := by
  have states : ∀ q ∈ s.trajectoryQueue, q.state = .queued := fun q member => (wf.queued q member).2
  have done := cancels sqrt s id
  generalize s.cancelMotion sqrt id = result at done
  cases done with
  | refused error => exact ⟨[], moved_of_same wf rfl rfl rfl rfl⟩
  | ended => exact ⟨[], moved_of_same wf rfl rfl rfl rfl⟩
  | active running same => exact ⟨_, moved_terminate wf _ _⟩
  | last index queued found last => exact moved_dequeue wf rfl states found
  | detached index queued successor rebound found next ok =>
    obtain ⟨sample, first, rest, -, -, -, -, rfl⟩ := detach_eq_ok ok
    refine moved_dequeue wf ?_ (fun q member => ?_) found
    · have place : (s.trajectoryQueue.map TrajectoryControl.id)[index + 1]? = some successor.id := by
        rw [List.getElem?_map, next, Option.map_some]
      obtain ⟨bound, successorId⟩ := List.getElem?_eq_some_iff.mp place
      have kept := List.set_getElem_self bound
      rw [successorId] at kept
      rw [List.map_set]
      exact kept
    · rcases List.mem_or_eq_of_mem_set member with before | rebound
      · exact states q before
      · exact rebound ▸ states successor (List.mem_of_getElem? next)

/-- A control cycle archives the motion whose slot it gives away and the ones that it ends. -/
theorem moved_cycle (roles : Motor → Option String) {s : Engine K} (wf : s.WellFormed) (input : CycleInput K) :
    ∃ ended, Moved s (s.cycle roles input).2 [] [] ended := by
  have done := cycled_cycle roles s input
  generalize (s.cycle roles input).2 = s' at done
  cases done with
  | kept plan state =>
    refine ⟨[], moved_of_update wf _ plan.id (state.imp_right ?_)⟩
    rintro ⟨first, second⟩
    refine ⟨?_, ?_, ?_⟩
    · rcases first with first | first <;> simp [first]
    · rcases second with second | second <;> simp [second]
    · rcases second with second | second <;> simp [second]
  | terminated plan state ending error =>
    have updated := moved_of_update wf _ plan.id (.inl state)
    exact ⟨_, updated.trans (moved_terminate updated.wellFormed ending error)⟩
  | completed plan running state =>
    have updated := moved_of_update wf _ plan.id (.inr ⟨running ▸ nofun, state ▸ nofun, state ▸ nofun⟩)
    have numbered : s.trajectoryControl.id ≠ 0 := wf.numbered (running ▸ nofun)
    obtain ⟨ended, activated⟩ := moved_activateNext updated.wellFormed (plan.id ▸ numbered) (state ▸ nofun)
      input.now
    exact ⟨_, updated.trans activated⟩

/-- The tests of a start on the motions. -/
structure StartChecked (s : Engine K) (replace : ℕ) (enqueue : Bool) : Prop where
  free : enqueue = false → s.trajectoryControl.state = .running → replace ≠ 0
  target : replace ≠ 0 → s.trajectoryControl.state = .running ∧ s.trajectoryControl.id = replace
  room : enqueue = true → s.trajectoryQueue.length < queueCapacity

omit [Field K] [LinearOrder K] in
theorem startChecked {s : Engine K} {request : Request K} {replace : ℕ} {enqueue : Bool}
    {conditions : StartConditions K} (checked : s.checkStart request replace enqueue conditions = .ok ()) :
    StartChecked s replace enqueue := by
  unfold Engine.checkStart at checked
  cases allowed : conditions.commandAllowed with
  | error message =>
    rw [allowed] at checked
    cases checked
  | ok allowance =>
  rw [allowed] at checked
  obtain ⟨-, checked⟩ := reject_bind_eq_ok checked
  obtain ⟨-, checked⟩ := reject_bind_eq_ok checked
  obtain ⟨-, checked⟩ := reject_bind_eq_ok checked
  obtain ⟨free, checked⟩ := reject_bind_eq_ok checked
  obtain ⟨target, full⟩ := reject_bind_eq_ok checked
  have room := reject_eq_ok.mp full
  refine ⟨?_, fun replaces => ?_, fun enqueued => ?_⟩
  · rintro rfl running rfl
    exact free ⟨nofun, running, .inl rfl⟩
  · have kept := not_and.mp target replaces
    rwa [not_or, not_not, not_not] at kept
  · exact not_le.mp fun long => room ⟨enqueued, long⟩

/-- A start that answers an id takes that id; it leaves out of the history only the motion that it replaces. -/
theorem moved_startTrajectory {arms : List Motor} {s s' : Engine K} (wf : s.WellFormed) {request : Request K}
    {replace : ℕ} {enqueue : Bool} {conditions : StartConditions K} {now : K} {id : ℕ}
    (ok : s.startTrajectory arms request replace enqueue conditions now = (.ok id, s')) :
    ∃ ended, Moved s s' [id] (if replace = 0 then [] else [replace]) ended := by
  obtain ⟨plan, started⟩ := started_of_ok ok
  have checked := startChecked started.checked
  have same : (if enqueue = false ∧ s.trajectoryControl.state = .running then [s.trajectoryControl.id] else []) =
      if replace = 0 then [] else [replace] := by
    by_cases none : replace = 0
    · rw [if_pos none, if_neg fun both => checked.free both.1 both.2 none]
    · obtain ⟨running, target⟩ := checked.target none
      have direct : enqueue = false := Bool.eq_false_iff.mpr fun enqueued => started.single ⟨enqueued, none⟩
      rw [if_neg none, if_pos ⟨direct, running⟩, target]
  obtain ⟨ended, moved⟩ := moved_install wf request plan checked.room now
  rw [same, ← started.after, ← started.id_eq] at moved
  exact ⟨ended, moved⟩

theorem moved_startTrajectory_error {arms : List Motor} {s s' : Engine K} (wf : s.WellFormed)
    {request : Request K} {replace : ℕ} {enqueue : Bool} {conditions : StartConditions K} {now : K}
    {error : StartError K}
    (failed : s.startTrajectory arms request replace enqueue conditions now = (.error error, s')) :
    Moved s s' [] [] [] := by
  rcases startTrajectory_error failed with rfl | rfl
  · exact moved_of_same wf rfl rfl rfl rfl
  · refine ⟨⟨Nat.succ_ne_zero _, wf.short, wf.idle, wf.active, wf.queued⟩, Nat.le_succ _, nofun,
      fun log same => by rw [List.append_nil, same], nofun, Nat.zero_le _, ?_⟩
    simp [Engine.live]

end MotorDrive.Trajectory
