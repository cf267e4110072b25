import MotorDrive.Trajectory.Motions
import MotorDrive.Trajectory.Recovery

/-!
# The bookkeeping of motion ids

The motions that a run has started are in the active slot, in the FIFO, in the archive or were replaced while
they ran (`Accounted`).  The history is the newest part of the archive.
-/

namespace MotorDrive.Trajectory

open History

variable {K : Type} [Field K] [LinearOrder K]

/-- The id that an operation answers. -/
def startedId (e : Entry K) : Option ℕ :=
  match e.answer with
  | .started (.ok id) => some id
  | _ => none

/-- The running motion that an operation replaces. -/
def replacedId (e : Entry K) : Option ℕ :=
  match e.call, e.answer with
  | .start _ replace _ _ _, .started (.ok _) => if replace = 0 then none else some replace
  | _, _ => none

section Step

variable (arms : List Motor) (roles : Motor → Option String) (sqrt : K → K)

theorem moved_step {s : Engine K} (wf : s.WellFormed) (event : Event K) :
    ∃ ended, Moved s (step arms roles sqrt s event).1 (startedId (entry (step arms roles sqrt) s event)).toList
      (replacedId (entry (step arms roles sqrt) s event)).toList ended := by
  cases event with
  | start request replace enqueue conditions now =>
    cases started : s.startTrajectory arms request replace enqueue conditions now with
    | mk result s' =>
      cases result with
      | error error =>
        have moved := moved_startTrajectory_error wf started
        exact ⟨[], by simpa [step, startedId, replacedId, started] using moved⟩
      | ok id =>
        obtain ⟨ended, moved⟩ := moved_startTrajectory wf started
        refine ⟨ended, ?_⟩
        simp only [step, startedId, replacedId, entry_answer, entry_call, started]
        split_ifs at moved ⊢ <;> exact moved
  | cancel id => exact moved_cancelMotion sqrt wf id
  | cancelAll => exact ⟨_, moved_terminate wf _ _⟩
  | terminate ending error => exact ⟨_, moved_terminate wf _ _⟩
  | power mode disabled =>
    have ended := moved_terminate wf .cancelled "trajectory cancelled by a motor power change"
    exact ⟨_, ⟨ended.wellFormed.counted, ended.wellFormed.short, ended.wellFormed.idle, ended.wellFormed.active,
      ended.wellFormed.queued⟩, ended.next, ended.entered, ended.history, ended.terminal, ended.few, ended.conserved⟩
  | cycle input => exact moved_cycle roles wf input

variable (mode : ControlMode) (events : List (Event K))

omit [LinearOrder K] in
theorem wellFormed_initial : (Engine.initial mode : Engine K).WellFormed :=
  ⟨Nat.one_ne_zero, Nat.zero_le _, fun _ => rfl, fun numbered => absurd rfl numbered,
    fun _ member => absurd member List.not_mem_nil⟩

/-- Where the motions of a run are. -/
structure Accounted (h : List (Entry K)) (s : Engine K) (log : List (MotionStatus K)) : Prop where
  wellFormed : s.WellFormed
  history : s.trajectoryHistory = keepNewest log
  increasing : (h.filterMap startedId).Pairwise (· < ·)
  below : ∀ id ∈ h.filterMap startedId, id ≠ 0 ∧ id < s.nextMotionId
  terminal : ∀ status ∈ log, status.state.Terminal
  conserved : (h.filterMap startedId).Perm
    (s.live ++ (log.map MotionStatus.motionId ++ h.filterMap replacedId))

omit [LinearOrder K] in
theorem accounted_initial : Accounted [] (Engine.initial mode : Engine K) [] where
  wellFormed := wellFormed_initial mode
  history := by simp [keepNewest, Engine.initial]
  increasing := .nil
  below := fun _ member => absurd member List.not_mem_nil
  terminal := fun _ member => absurd member List.not_mem_nil
  conserved := by simp [Engine.live, Engine.initial, idleTrajectory]

/-- One more operation. -/
theorem accounted_append {h : List (Entry K)} {s : Engine K} {log : List (MotionStatus K)}
    (accounted : Accounted h s log) (event : Event K) :
    ∃ ended : List (MotionStatus K), ended.length ≤ queueCapacity ∧
      Accounted (h ++ [entry (step arms roles sqrt) s event]) (step arms roles sqrt s event).1 (log ++ ended) := by
  obtain ⟨ended, moved⟩ := moved_step arms roles sqrt accounted.wellFormed event
  have starts : (h ++ [entry (step arms roles sqrt) s event]).filterMap startedId =
      h.filterMap startedId ++ (startedId (entry (step arms roles sqrt) s event)).toList := by
    rw [List.filterMap_append]
    cases first : startedId (entry (step arms roles sqrt) s event) <;> simp [first]
  have replaced : (h ++ [entry (step arms roles sqrt) s event]).filterMap replacedId =
      h.filterMap replacedId ++ (replacedId (entry (step arms roles sqrt) s event)).toList := by
    rw [List.filterMap_append]
    cases first : replacedId (entry (step arms roles sqrt) s event) <;> simp [first]
  refine ⟨ended, moved.few, moved.wellFormed, moved.history log accounted.history, ?_, ?_, ?_, ?_⟩
  · rw [starts]
    refine List.pairwise_append.mpr ⟨accounted.increasing, ?_, fun older before newer after => ?_⟩
    · cases startedId (entry (step arms roles sqrt) s event) <;> simp
    · exact (accounted.below older before).2.trans_le (moved.entered newer after).1
  · rw [starts]
    intro id member
    rcases List.mem_append.mp member with before | after
    · exact ⟨(accounted.below id before).1, (accounted.below id before).2.trans_le moved.next⟩
    · obtain ⟨first, last⟩ := moved.entered id after
      exact ⟨fun zero => accounted.wellFormed.counted (Nat.le_zero.mp (zero ▸ first)), last⟩
  · intro status member
    exact (List.mem_append.mp member).elim (accounted.terminal status) (moved.terminal status)
  · rw [starts, replaced, List.map_append]
    refine List.perm_iff_count.mpr fun id => ?_
    have before := accounted.conserved.count_eq id
    have step := moved.conserved.count_eq id
    simp only [List.count_append] at before step ⊢
    omega

/-- What the operations of a run have archived, operation by operation. -/
theorem exists_archived : ∃ ended : List (List (MotionStatus K)), ended.length = events.length ∧
    (∀ statuses ∈ ended, statuses.length ≤ queueCapacity) ∧ ∀ n ≤ events.length,
      Accounted (run arms roles sqrt mode (events.take n)) (final arms roles sqrt mode (events.take n))
        (ended.take n).flatten := by
  induction events using List.reverseRecOn with
  | nil =>
    refine ⟨[], rfl, nofun, fun n _ => ?_⟩
    rw [List.take_nil, List.take_nil]
    exact accounted_initial mode
  | append_singleton events event ih =>
    obtain ⟨ended, length, few, accounted⟩ := ih
    have whole := accounted events.length le_rfl
    rw [List.take_length, ← length, List.take_length] at whole
    obtain ⟨newest, newestFew, accountedNewest⟩ := accounted_append arms roles sqrt whole event
    refine ⟨ended ++ [newest], by simp [length], fun statuses member => ?_, fun n bound => ?_⟩
    · rcases List.mem_append.mp member with before | after
      · exact few statuses before
      · exact List.mem_singleton.mp after ▸ newestFew
    · rcases Nat.lt_or_ge events.length n with beyond | within
      · rw [List.take_of_length_le (by simpa using beyond), List.take_of_length_le (by simpa [length] using beyond),
          run, final, run_append, final_append, List.flatten_append, List.flatten_singleton]
        exact accountedNewest
      · rw [List.take_append_of_le_length within, List.take_append_of_le_length (length ▸ within)]
        exact accounted n within

end Step

/-! ## What a client sees of a motion -/

/-- The number of records of a motion in the active slot, in the FIFO and in the archive. -/
def Engine.records (s : Engine K) (log : List (MotionStatus K)) (id : ℕ) : ℕ :=
  (s.trajectoryControl.id :: (s.trajectoryQueue.map TrajectoryControl.id ++ log.map MotionStatus.motionId)).count id

/-- Fewer motions than the history keeps were archived after a motion. -/
def Recent (log : List (MotionStatus K)) (id : ℕ) : Prop :=
  ∀ (older : List (MotionStatus K)) (entry : MotionStatus K) (later : List (MotionStatus K)),
    log = older ++ entry :: later → entry.motionId = id → later.length < historyCapacity

/-- The motion has one record, and while it is recent its status is known. -/
structure Bookkept (s : Engine K) (log : List (MotionStatus K)) (id : ℕ) : Prop where
  once : s.records log id = 1
  known : Recent log id → (s.motionStatus id).state ≠ .idle

omit [Field K] [LinearOrder K] in
theorem mem_keepNewest {older later : List (MotionStatus K)} {entry : MotionStatus K}
    (recent : later.length < historyCapacity) : entry ∈ keepNewest (older ++ entry :: later) := by
  have first : (older ++ entry :: later).length - historyCapacity ≤ older.length := by
    rw [List.length_append, List.length_cons]
    omega
  rw [keepNewest, List.drop_append_of_le_length first]
  exact List.mem_append_right _ (List.mem_cons_self ..)

omit [Field K] [LinearOrder K] in
theorem mem_of_mem_keepNewest {log : List (MotionStatus K)} {status : MotionStatus K}
    (member : status ∈ keepNewest log) : status ∈ log := List.mem_of_mem_drop member

variable {h : List (Entry K)} {s : Engine K} {log : List (MotionStatus K)}

omit [Field K] [LinearOrder K] in
theorem Accounted.records_add (accounted : Accounted h s log) {id : ℕ} (started : id ∈ h.filterMap startedId) :
    s.records log id + (h.filterMap replacedId).count id = 1 := by
  have once : (h.filterMap startedId).count id = 1 :=
    List.count_eq_one_of_mem (accounted.increasing.imp Nat.ne_of_lt) started
  have split := accounted.conserved.count_eq id
  have numbered := (accounted.below id started).1
  have live : s.live.count id =
      (s.trajectoryControl.id :: s.trajectoryQueue.map TrajectoryControl.id).count id :=
    List.count_filter (by simpa using numbered)
  rw [once, List.count_append, List.count_append, live] at split
  rw [Engine.records, ← List.cons_append, List.count_append]
  omega

theorem Accounted.status_of_record (accounted : Accounted h s log) {id : ℕ} (numbered : id ≠ 0)
    (recent : Recent log id) (recorded : s.records log id ≠ 0) : (s.motionStatus id).state ≠ .idle := by
  have wf := accounted.wellFormed
  unfold Engine.motionStatus
  split_ifs with active
  · exact (wf.active (active ▸ numbered)).1
  split
  · rename_i queued found
    have state := (wf.queued queued (List.mem_of_find?_eq_some found)).2
    rw [TrajectoryControl.status, state]
    rintro ⟨⟩
  · rename_i unqueued
    split
    · rename_i status found
      have member := List.mem_reverse.mp (List.mem_of_find?_eq_some found)
      rw [accounted.history] at member
      have terminal := accounted.terminal status (mem_of_mem_keepNewest member)
      intro idle
      rw [idle] at terminal
      exact terminal
    · rename_i unarchived
      refine absurd (List.count_eq_zero.mpr fun member => ?_) recorded
      rcases List.mem_cons.mp member with same | member
      · exact active same.symm
      rcases List.mem_append.mp member with waiting | archived
      · obtain ⟨queued, place, same⟩ := List.mem_map.mp waiting
        simpa [same] using List.find?_eq_none.mp unqueued queued place
      · obtain ⟨status, place, same⟩ := List.mem_map.mp archived
        obtain ⟨older, later, split⟩ := List.append_of_mem place
        have kept : status ∈ s.trajectoryHistory := by
          rw [accounted.history, split]
          exact mem_keepNewest (recent older status later split same)
        simpa [same] using List.find?_eq_none.mp unarchived status (List.mem_reverse.mpr kept)

theorem Accounted.bookkept_iff (accounted : Accounted h s log) {id : ℕ} (started : id ∈ h.filterMap startedId) :
    Bookkept s log id ↔ id ∉ h.filterMap replacedId := by
  have split := accounted.records_add started
  rw [← List.count_eq_zero]
  constructor
  · intro bookkept
    rw [bookkept.once] at split
    omega
  · intro kept
    have once : s.records log id = 1 := by omega
    exact ⟨once, fun recent => accounted.status_of_record (accounted.below id started).1 recent (by omega)⟩

omit [Field K] [LinearOrder K] in
theorem Accounted.once (accounted : Accounted h s log) : (log.map MotionStatus.motionId).Nodup := by
  have starts : (h.filterMap startedId).Nodup := accounted.increasing.imp Nat.ne_of_lt
  have places := accounted.conserved.nodup_iff.mp starts
  exact (places.of_append_right).of_append_left

omit [Field K] [LinearOrder K] in
theorem Accounted.replaced_subset (accounted : Accounted h s log) :
    h.filterMap replacedId ⊆ h.filterMap startedId := fun _ replaced =>
  accounted.conserved.mem_iff.mpr (List.mem_append_right _ (List.mem_append_right _ replaced))

/-- The ids of a run increase, each of its motions enters the archive at most once and with a terminal state,
and the history is the newest part of the archive.  A motion keeps its record exactly if no start replaces it
while it runs. -/
theorem motions_bookkept (arms : List Motor) (roles : Motor → Option String) (sqrt : K → K) (mode : ControlMode)
    (events : List (Event K)) :
    ∃ ended : List (List (MotionStatus K)), ended.length = events.length ∧
      (∀ statuses ∈ ended, statuses.length ≤ queueCapacity) ∧ ∀ n ≤ events.length,
        let h := run arms roles sqrt mode (events.take n)
        let s := final arms roles sqrt mode (events.take n)
        let log := (ended.take n).flatten
        (h.filterMap startedId).Pairwise (· < ·) ∧ s.trajectoryHistory = keepNewest log ∧
          (log.map MotionStatus.motionId).Nodup ∧ (∀ status ∈ log, status.state.Terminal) ∧
          h.filterMap replacedId ⊆ h.filterMap startedId ∧
          ∀ id ∈ h.filterMap startedId, Bookkept s log id ↔ id ∉ h.filterMap replacedId := by
  obtain ⟨ended, length, few, accounted⟩ := exists_archived arms roles sqrt mode events
  refine ⟨ended, length, few, fun n bound => ?_⟩
  have reached := accounted n bound
  exact ⟨reached.increasing, reached.history, reached.once, reached.terminal, reached.replaced_subset,
    fun id started => reached.bookkept_iff started⟩

/-- A request of half a radian. -/
def stepRequest : Request ℚ where
  mode := .pv
  operation := .moveLinear
  execution := .quintic
  pvReferenceVelocity := 1
  pvReferenceAcceleration := 1
  pvDriveVelocityLimit := 1
  allowOutOfLimitStartRecovery := false
  approachSegmentCount := 0
  approachDeadline := 0
  completionDeadline := 0
  cartesianTrackingJointMask := 0
  joints := [unitJoint]
  waypoints := [⟨0, [0], [0], [0], 1, 1⟩, ⟨1, [1 / 2], [0], [0], 1, 1⟩]
  approachConvergenceCheck := false
  finalConvergenceCheck := false

/-- The second start replaces the motion of the first one. -/
def replacingEvents : List (Event ℚ) :=
  [.start stepRequest 0 false (ready 0 0) 0, .start stepRequest 1 false (ready 0 0) (1 / 10)]

/-- The replaced motion is gone: its status is the one of an unknown id. -/
theorem motions_bookkept_replaced :
    (run [7] (fun _ => none) id .pv replacingEvents).filterMap startedId = [1, 2] ∧
      (final [7] (fun _ => none) id .pv replacingEvents).records [] 1 = 0 ∧
      (final [7] (fun _ => none) id .pv replacingEvents).trajectoryHistory.length = 0 ∧
      ((final [7] (fun _ => none) id .pv replacingEvents).motionStatus 1).state = .idle := by
  decide +kernel

end MotorDrive.Trajectory
