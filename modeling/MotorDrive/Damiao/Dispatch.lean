import MotorDrive.Damiao.Group

/-!
# The dispatch of batches

What a group has done is a sequence of calls, one after another (`Serial`): a call that is rejected sends nothing; a
call that is accepted hands every worker its sub-batch once, and returns when all workers have finished, with their
errors.  The invariant says for every worker how far it is in the call under way.
-/

namespace MotorDrive.Damiao

/-! ## Partitions -/

namespace GroupCall

variable {n : ℕ} {call : GroupCall n} {i : Fin n} {position : ℕ} {unique : List ℕ}
  {commands : List call.kind.Command} {batches : Fin n → List call.kind.Command} {command : call.kind.Command}

theorem mem_ownedFrom : command ∈ call.ownedFrom i position commands ↔
    ∃ index, commands[index]? = some command ∧ call.owner (position + index) = some i := by
  induction commands generalizing position with
  | nil => simp [ownedFrom]
  | cons first rest ih =>
    have later : (∃ index, (first :: rest)[index]? = some command ∧ call.owner (position + index) = some i) ↔
        first = command ∧ call.owner position = some i ∨
          ∃ index, rest[index]? = some command ∧ call.owner (position + 1 + index) = some i := by
      constructor
      · rintro ⟨index, found, owned⟩
        cases index with
        | zero => exact .inl ⟨Option.some.inj found, owned⟩
        | succ index => exact .inr ⟨index, found, by rwa [Nat.add_right_comm]⟩
      · rintro (⟨same, owned⟩ | ⟨index, found, owned⟩)
        · exact ⟨0, congrArg some same, owned⟩
        · exact ⟨index + 1, found, by rwa [← Nat.add_assoc, Nat.add_right_comm]⟩
    rw [later, ← ih, ownedFrom]
    split_ifs with owned
    · rw [List.mem_cons]
      exact or_congr_left ⟨fun same => ⟨same.symm, owned⟩, fun same => same.1.symm⟩
    · exact ⟨.inr, fun either => either.resolve_left fun first => owned first.2⟩

/-- A sub-batch keeps the order of the call. -/
theorem ownedFrom_sublist : (call.ownedFrom i position commands).Sublist commands := by
  induction commands generalizing position with
  | nil => exact List.Sublist.refl _
  | cons command rest ih =>
    unfold ownedFrom
    split_ifs
    · exact ih.cons_cons command
    · exact ih.cons command

/-- What the loop of a partition that succeeds has found. -/
structure Assigned (call : GroupCall n) (position : ℕ) (unique : List ℕ) (commands : List call.kind.Command)
    (batches batches' : Fin n → List call.kind.Command) : Prop where
  batches : ∀ i, batches' i = batches i ++ call.ownedFrom i position commands
  fresh : ∀ command ∈ commands, ∃ motor, call.kind.motor command = some motor ∧ motor ∉ unique
  nodup : (commands.map call.kind.motor).Nodup
  owned : ∀ index < commands.length, ∃ i, call.owner (position + index) = some i

theorem assigned_of_ok (ok : (call.assign position unique commands batches).1 = .ok ()) :
    call.Assigned position unique commands batches (call.assign position unique commands batches).2 := by
  induction commands generalizing position unique batches with
  | nil => exact ⟨fun i => (List.append_nil _).symm, by simp, List.nodup_nil, by simp⟩
  | cons command rest ih =>
    unfold assign at ok ⊢
    cases motor : call.kind.motor command with
    | none => simp [motor] at ok
    | some address =>
      simp only [motor] at ok ⊢
      split_ifs at ok ⊢ with known
      cases owner : call.owner position with
      | none => simp [owner] at ok
      | some j =>
        simp only [owner] at ok ⊢
        split_ifs at ok ⊢ with full
        have assigned := ih ok
        refine ⟨fun i => ?_, ?_, ?_, fun index bound => ?_⟩
        · rw [assigned.batches i, ownedFrom, owner]
          by_cases same : i = j
          · subst same
            rw [Function.update_self, if_pos rfl, List.append_assoc, List.singleton_append]
          · rw [Function.update_of_ne same, if_neg fun other => same (Option.some.inj other).symm]
        · refine List.forall_mem_cons.mpr ⟨⟨address, motor, known⟩, fun other member => ?_⟩
          obtain ⟨address', motor', new⟩ := assigned.fresh other member
          exact ⟨address', motor', fun old => new (List.mem_cons_of_mem _ old)⟩
        · rw [List.map_cons, List.nodup_cons, motor]
          refine ⟨fun member => ?_, assigned.nodup⟩
          obtain ⟨other, listed, same⟩ := List.mem_map.mp member
          obtain ⟨address', motor', new⟩ := assigned.fresh other listed
          rw [same] at motor'
          exact new (Option.some.inj motor' ▸ List.mem_cons_self)
        · cases index with
          | zero => exact ⟨j, owner⟩
          | succ index =>
            obtain ⟨i, owned⟩ := assigned.owned index (Nat.lt_of_succ_lt_succ bound)
            exact ⟨i, by rwa [← Nat.add_assoc, Nat.add_right_comm]⟩

/-- The call is accepted. -/
def Accepts (call : GroupCall n) : Prop := (call.partition fun _ => []).1 = .ok ()

theorem Accepts.assigned (accepts : call.Accepts) :
    call.Assigned 0 [] call.commands (fun _ => []) (call.partition fun _ => []).2 := by
  unfold Accepts partition at accepts
  unfold partition
  split_ifs at accepts ⊢
  exact assigned_of_ok accepts

/-- The batches of an accepted call are its sub-batches. -/
theorem Accepts.partition_eq (accepts : call.Accepts) : (call.partition fun _ => []).2 = call.sub :=
  funext fun i => (accepts.assigned.batches i).trans (List.nil_append _)

/-- Every command of an accepted call belongs to exactly one sub-batch. -/
theorem Accepts.existsUnique_sub (accepts : call.Accepts) (member : command ∈ call.commands) :
    ∃! i, command ∈ call.sub i := by
  obtain ⟨index, found⟩ := List.mem_iff_getElem?.mp member
  obtain ⟨i, owned⟩ := accepts.assigned.owned index (List.getElem?_eq_some_iff.mp found).1
  refine ⟨i, mem_ownedFrom.mpr ⟨index, found, owned⟩, fun j other => ?_⟩
  obtain ⟨index', found', owned'⟩ := mem_ownedFrom.mp other
  have once : call.commands.Nodup := .of_map _ accepts.assigned.nodup
  obtain rfl : index = index' :=
    (List.getElem?_inj (List.getElem?_eq_some_iff.mp found).1 once).mp (found.trans found'.symm)
  exact Option.some.inj (owned'.symm.trans owned)

end GroupCall

/-! ## Logs -/

section Logs

variable {θ : Type} {n : ℕ}

/-- The event, if it is one of a worker. -/
def GroupEvent.of (i : Fin n) : GroupEvent θ n → Option WorkerEvent
  | .worker j event => if j = i then some event else none
  | _ => none

/-- The events of a worker. -/
def eventsOf (i : Fin n) (log : List (GroupEvent θ n)) : List WorkerEvent := log.filterMap (GroupEvent.of i)

theorem eventsOf_append (i : Fin n) (log log' : List (GroupEvent θ n)) :
    eventsOf i (log ++ log') = eventsOf i log ++ eventsOf i log' := List.filterMap_append

/-- What a worker does for a batch, and its error: it sends the commands in order, all of them if there is no error. -/
inductive WorkerRun (kind : TaskKind) (batch : List kind.Command) : List WorkerEvent → String → Prop
  | intro (sent rest : List kind.Command) (error : String) (split : batch = sent ++ rest)
    (whole : error = "" → rest = []) :
    WorkerRun kind batch (.handed kind batch :: sent.map (.sent kind) ++ [.finished error]) error

/-- What happens for an accepted call until it returns, and the errors of the workers. -/
structure Dispatched (call : GroupCall n) (events : List (GroupEvent θ n)) (errors : Fin n → String) : Prop where
  workers : ∀ event ∈ events, ∃ i e, event = .worker i e
  runs : ∀ i, WorkerRun call.kind (call.sub i) (eventsOf i events) (errors i)

/-- Calls that follow one another: a rejected one is one event, an accepted one returns with the errors of its
workers. -/
inductive Serial : List (GroupEvent θ n) → Prop
  | nil : Serial []
  | rejected {log : List (GroupEvent θ n)} (serial : Serial log) (t : θ) (call : GroupCall n) (what : String)
    (refused : (call.partition fun _ => []).1 = .error what) : Serial (log ++ [.rejected t call what])
  | dispatched {log : List (GroupEvent θ n)} (serial : Serial log) (t : θ) (call : GroupCall n)
    (accepts : call.Accepts) (events : List (GroupEvent θ n)) (errors : Fin n → String)
    (dispatched : Dispatched call events errors) :
    Serial (log ++ .accepted t call :: (events ++ [.returned t (raise errors)]))

end Logs

/-! ## The invariant -/

section Inv

variable {θ : Type} {n : ℕ}

/-- How far a worker is in the call of a generation: its events, and its error once it has finished. -/
inductive Working (call : GroupCall n) (i : Fin n) (generation : UInt64) :
    WorkerState → List WorkerEvent → Option String → Prop
  | asleep (seen : UInt64) (behind : generation ≠ seen) : Working call i generation ⟨seen, .waiting⟩ [] none
  | sending (sent rest : List call.kind.Command) (fresh : Bool) (split : call.sub i = sent ++ rest) :
    Working call i generation ⟨generation, .sending call.kind fresh rest⟩
      (.handed call.kind (call.sub i) :: sent.map (.sent call.kind)) none
  | ended (sent rest : List call.kind.Command) (error : String) (split : call.sub i = sent ++ rest)
    (whole : error = "" → rest = []) : Working call i generation ⟨generation, .ended error⟩
      (.handed call.kind (call.sub i) :: sent.map (.sent call.kind)) none
  | finished (events : List WorkerEvent) (error : String) (run : WorkerRun call.kind (call.sub i) events error) :
    Working call i generation ⟨generation, .waiting⟩ events (some error)

/-- A call that has been accepted and has not returned. -/
structure Underway (s : GroupState θ n) (call : GroupCall n) (events : List (GroupEvent θ n))
    (outcome : Fin n → Option String) : Prop where
  accepts : call.Accepts
  kind : s.taskKind = call.kind
  batches : s.batches call.kind = call.sub
  workers : ∀ event ∈ events, ∃ i e, event = .worker i e
  working : ∀ i, Working call i s.generation (s.workers i) (eventsOf i events) (outcome i)
  completed : s.completed = (Finset.univ.filter fun i => (outcome i).isSome).card
  errors : ∀ i error, outcome i = some error → s.errors i = error

/-- No worker has anything to do. -/
def Resting (s : GroupState θ n) : Prop := ∀ i, s.workers i = ⟨s.generation, .waiting⟩

/-- What holds while a caller that is in some place has the call mutex. -/
inductive Holding (s : GroupState θ n) (t : θ) : CallerState n → Prop
  | calling (call : GroupCall n) (rests : Resting s) (serial : Serial s.log) : Holding s t (.calling call)
  | refused (what : String) (rests : Resting s) (serial : Serial s.log) : Holding s t (.refused what)
  | waiting (call : GroupCall n) (before events : List (GroupEvent θ n)) (outcome : Fin n → Option String)
    (log : s.log = before ++ .accepted t call :: events) (serial : Serial before)
    (underway : Underway s call events outcome) : Holding s t .waiting
  | raising (call : GroupCall n) (before events : List (GroupEvent θ n)) (errors : Fin n → String)
    (log : s.log = before ++ .accepted t call :: events) (serial : Serial before) (accepts : call.Accepts)
    (dispatched : Dispatched call events errors) (rests : Resting s) : Holding s t (.raising errors)

/-- What holds of every state that a group reaches. -/
structure GroupInv (s : GroupState θ n) : Prop where
  outside : ∀ u, s.callMutex ≠ some u → s.callers u = .outside
  free : s.callMutex = none → Resting s ∧ Serial s.log
  held : ∀ t, s.callMutex = some t → Holding s t (s.callers t)

variable {s s' : GroupState θ n} {call : GroupCall n} {events : List (GroupEvent θ n)}
  {outcome : Fin n → Option String} {i : Fin n}

/-- A worker moves on in the call. -/
theorem Underway.advance (underway : Underway s call events outcome) {worker : WorkerState}
    (more : List WorkerEvent) (workers : s'.workers = Function.update s.workers i worker)
    (generation : s'.generation = s.generation) (kind : s'.taskKind = s.taskKind) (batches : s'.batches = s.batches)
    {ended : Option String}
    (working : Working call i s.generation worker (eventsOf i events ++ more) ended)
    (completed : s'.completed =
      (Finset.univ.filter fun j => (Function.update outcome i ended j).isSome).card)
    (errors : ∀ j error, Function.update outcome i ended j = some error → s'.errors j = error) :
    Underway s' call (events ++ more.map (.worker i)) (Function.update outcome i ended) where
  accepts := underway.accepts
  kind := kind.trans underway.kind
  batches := by rw [batches, underway.batches]
  workers event member := by
    rcases List.mem_append.mp member with old | new
    · exact underway.workers event old
    · obtain ⟨e, -, rfl⟩ := List.mem_map.mp new
      exact ⟨i, e, rfl⟩
  working j := by
    rw [generation, workers, eventsOf_append]
    by_cases same : j = i
    · subst same
      have mine : eventsOf j (more.map (GroupEvent.worker (θ := θ) j)) = more := by
        simp [eventsOf, List.filterMap_map, Function.comp_def, GroupEvent.of]
      rw [Function.update_self, Function.update_self, mine]
      exact working
    · have theirs : eventsOf j (more.map (GroupEvent.worker (θ := θ) i)) = [] := by
        simp [eventsOf, List.filterMap_map, Function.comp_def, GroupEvent.of, Ne.symm same]
      rw [Function.update_of_ne same, Function.update_of_ne same, theirs, List.append_nil]
      exact underway.working j
  completed := completed
  errors := errors

/-- A worker that has not finished moves on without finishing. -/
theorem Underway.advance_unfinished (underway : Underway s call events outcome) {worker : WorkerState}
    (more : List WorkerEvent) (workers : s'.workers = Function.update s.workers i worker)
    (generation : s'.generation = s.generation) (kind : s'.taskKind = s.taskKind) (batches : s'.batches = s.batches)
    (completed : s'.completed = s.completed) (errors : s'.errors = s.errors) (unfinished : outcome i = none)
    (working : Working call i s.generation worker (eventsOf i events ++ more) none) :
    Underway s' call (events ++ more.map (.worker i)) outcome := by
  have same : Function.update outcome i none = outcome := by rw [← unfinished, Function.update_eq_self]
  have advanced := underway.advance more workers generation kind batches working
    (by rw [same, completed, underway.completed]) fun j error ended => by
      rw [errors]
      exact underway.errors j error (same ▸ ended)
  rwa [same] at advanced

/-- A worker that has sent its batch finishes. -/
theorem Underway.report (underway : Underway s call events outcome) {error : String}
    (ended : (s.workers i).phase = .ended error) :
    Underway (s.report i error) call (events ++ [.worker i (.finished error)])
      (Function.update outcome i (some error)) := by
  have working := underway.working i
  obtain ⟨unfinished, run, generation⟩ : outcome i = none ∧
      WorkerRun call.kind (call.sub i) (eventsOf i events ++ [.finished error]) error ∧
        (s.workers i).seenGeneration = s.generation := by
    generalize s.workers i = worker, eventsOf i events = trace, outcome i = result at working ended ⊢
    cases working with
    | asleep => cases ended
    | sending => cases ended
    | finished => cases ended
    | ended sent rest _ split whole =>
      cases ended
      exact ⟨rfl, .intro sent rest error split whole, rfl⟩
  have workers : (s.report i error).workers =
      Function.update s.workers i { s.workers i with phase := .waiting } := rfl
  refine underway.advance [.finished error] workers rfl rfl rfl ?_ ?_ fun j error' result => ?_
  · dsimp only
    rw [generation]
    exact .finished _ error run
  · have more : (Finset.univ.filter fun j => (Function.update outcome i (some error) j).isSome) =
        insert i (Finset.univ.filter fun j => (outcome j).isSome) := by
      ext j
      by_cases same : j = i
      · subst same
        simp
      · simp [same]
    rw [more, Finset.card_insert_of_notMem (by simp [unfinished]), ← underway.completed]
    rfl
  · change Function.update s.errors i error j = error'
    by_cases same : j = i
    · subst same
      rw [Function.update_self] at result ⊢
      exact Option.some.inj result
    · rw [Function.update_of_ne same] at result ⊢
      exact underway.errors j error' result

/-- When all workers have finished, the call is dispatched. -/
theorem Underway.dispatched (underway : Underway s call events outcome) (done : s.completed = n) :
    Dispatched call events s.errors ∧ Resting s := by
  have all : ∀ i, (outcome i).isSome := by
    have full : (Finset.univ.filter fun i => (outcome i).isSome).card = (Finset.univ : Finset (Fin n)).card := by
      rw [← underway.completed, done, Finset.card_univ, Fintype.card_fin]
    have whole := Finset.eq_of_subset_of_card_le (Finset.filter_subset _ _) full.ge
    intro i
    have member : i ∈ Finset.univ.filter fun i => (outcome i).isSome := by
      rw [whole]
      exact Finset.mem_univ i
    exact (Finset.mem_filter.mp member).2
  have ends (i : Fin n) : WorkerRun call.kind (call.sub i) (eventsOf i events) (s.errors i) ∧
      s.workers i = ⟨s.generation, .waiting⟩ := by
    obtain ⟨error, ended⟩ := Option.isSome_iff_exists.mp (all i)
    have working := underway.working i
    rw [ended] at working
    rw [underway.errors i error ended]
    generalize s.workers i = worker, eventsOf i events = trace at working ⊢
    cases working with
    | finished _ _ run => exact ⟨run, rfl⟩
  exact ⟨⟨underway.workers, fun i => (ends i).1⟩, fun i => (ends i).2⟩

theorem Resting.working (rests : Resting s) {generation : UInt64} (next : generation ≠ s.generation) (i : Fin n) :
    Working call i generation (s.workers i) [] none := by
  rw [rests i]
  exact .asleep s.generation next

theorem succ_ne (generation : UInt64) : generation + 1 ≠ generation := by
  intro same
  have same := congrArg UInt64.toNat same
  have bound := generation.toNat_lt
  rw [UInt64.toNat_add] at same
  simp only [UInt64.reduceToNat] at same
  omega

theorem BatchFailure.text_ne (g : ControllerGroup n) (i : Fin n) (failure : BatchFailure) : failure.text g i ≠ "" := by
  intro empty
  have length := congrArg String.length empty
  cases failure with
  | unknown => simp [text] at empty
  | _ =>
    simp only [text, String.length_append] at length
    simp at length

variable {t : θ}

theorem groupInv_initial : GroupInv (GroupState.initial θ n) where
  outside _ _ := rfl
  free _ := ⟨fun _ => rfl, .nil⟩
  held _ held := by cases held

/-- The caller that is not outside holds the call mutex. -/
theorem GroupInv.holds (inv : GroupInv s) (inside : s.callers t ≠ .outside) : s.callMutex = some t := by
  by_contra other
  exact inside (inv.outside t other)

/-- Where a caller is that is not outside. -/
theorem GroupInv.holding (inv : GroupInv s) {caller : CallerState n} (at_ : s.callers t = caller)
    (inside : caller ≠ .outside) : Holding s t caller :=
  at_ ▸ inv.held t (inv.holds (at_ ▸ inside))

theorem GroupInv.others (inv : GroupInv s) (mutex : s.callMutex = some t) (u : θ) (ne : u ≠ t) :
    s.callers u = .outside :=
  inv.outside u fun same => ne (Option.some.inj (mutex.symm.trans same)).symm

/-- A worker that has something to do works for a call. -/
theorem GroupInv.underway_of_busy (inv : GroupInv s) (busy : s.workers i ≠ ⟨s.generation, .waiting⟩) :
    ∃ t call before events outcome, s.callMutex = some t ∧ s.callers t = .waiting ∧
      s.log = before ++ .accepted t call :: events ∧ Serial before ∧ Underway s call events outcome := by
  cases mutex : s.callMutex with
  | none => exact absurd ((inv.free mutex).1 i) busy
  | some t =>
    have holding := inv.held t mutex
    generalize at_ : s.callers t = caller at holding
    cases holding with
    | calling _ rests => exact absurd (rests i) busy
    | refused _ rests => exact absurd (rests i) busy
    | raising _ _ _ _ _ _ _ _ rests => exact absurd (rests i) busy
    | waiting call before events outcome log serial underway =>
      exact ⟨t, call, before, events, outcome, rfl, at_, log, serial, underway⟩

/-- The invariant after a worker has moved on in a call. -/
theorem GroupInv.of_worker (inv : GroupInv s) {before : List (GroupEvent θ n)} (mutex : s.callMutex = some t)
    (caller : s.callers t = .waiting) (log : s.log = before ++ .accepted t call :: events) (serial : Serial before)
    (more : List WorkerEvent) (sameMutex : s'.callMutex = s.callMutex) (sameCallers : s'.callers = s.callers)
    (logged : s'.log = s.log ++ more.map (.worker i))
    (underway : Underway s' call (events ++ more.map (.worker i)) outcome) : GroupInv s' where
  outside u other := by
    rw [sameCallers]
    exact inv.outside u (sameMutex ▸ other)
  free none := by simp [sameMutex, mutex] at none
  held u held := by
    obtain rfl := Option.some.inj (mutex.symm.trans (sameMutex ▸ held))
    rw [sameCallers, caller]
    refine .waiting call before _ outcome ?_ serial underway
    rw [logged, log, List.append_assoc, List.cons_append]

/-- A worker wakes up for the call. -/
theorem GroupInv.wake (inv : GroupInv s) (asleep : (s.workers i).phase = .waiting)
    (signalled : s.generation ≠ (s.workers i).seenGeneration) : GroupInv (s.wake i) := by
  obtain ⟨t, call, before, events, outcome, mutex, caller, log, serial, underway⟩ :=
    inv.underway_of_busy (i := i) fun same => signalled (by rw [same])
  obtain ⟨none, quiet⟩ : outcome i = none ∧ eventsOf i events = [] := by
    have working := underway.working i
    generalize s.workers i = worker, eventsOf i events = trace, outcome i = ended at working asleep signalled ⊢
    cases working with
    | asleep => exact ⟨rfl, rfl⟩
    | sending => cases asleep
    | ended => cases asleep
    | finished => exact absurd rfl signalled
  have woken (kind : TaskKind) (same : s.taskKind = kind) (batch : List kind.Command)
      (copied : s.batches kind i = batch) : s.wake i =
      ({ s with workers := Function.update s.workers i ⟨s.generation, .sending kind true batch⟩ } :
        GroupState θ n).note (.worker i (.handed kind batch)) := by
    subst same copied
    rfl
  rw [woken call.kind underway.kind (call.sub i) (congrFun underway.batches i)]
  refine inv.of_worker mutex caller log serial [.handed call.kind (call.sub i)] rfl rfl rfl
    (underway.advance_unfinished _ rfl rfl rfl rfl rfl rfl none ?_)
  rw [quiet]
  exact .sending [] (call.sub i) true rfl

/-- What a worker that is sending has sent, and how the invariant is kept when it moves on. -/
theorem GroupInv.of_sending (inv : GroupInv s) {kind : TaskKind} {fresh : Bool} {rest : List kind.Command}
    (sending : (s.workers i).phase = .sending kind fresh rest) {phase : WorkerPhase} (more : List WorkerEvent)
    (workers : s'.workers = (s.setPhase i phase).workers)
    (others : s'.callMutex = s.callMutex ∧ s'.callers = s.callers ∧ s'.generation = s.generation ∧
      s'.completed = s.completed ∧ s'.taskKind = s.taskKind ∧ s'.batches = s.batches ∧ s'.errors = s.errors)
    (logged : s'.log = s.log ++ more.map (.worker i))
    (working : ∀ (call : GroupCall n) (sent left : List call.kind.Command), call.sub i = sent ++ left →
      (⟨kind, rest⟩ : Σ kind : TaskKind, List kind.Command) = ⟨call.kind, left⟩ →
        Working call i s.generation ⟨s.generation, phase⟩
          (.handed call.kind (call.sub i) :: sent.map (.sent call.kind) ++ more) none) : GroupInv s' := by
  obtain ⟨t, call, before, events, outcome, mutex, caller, log, serial, underway⟩ :=
    inv.underway_of_busy (i := i) fun same => by simp [same] at sending
  obtain ⟨sent, left, split, same, unfinished, trace, generation⟩ : ∃ sent left, call.sub i = sent ++ left ∧
      (⟨kind, rest⟩ : Σ kind : TaskKind, List kind.Command) = ⟨call.kind, left⟩ ∧ outcome i = none ∧
        eventsOf i events = .handed call.kind (call.sub i) :: sent.map (.sent call.kind) ∧
          (s.workers i).seenGeneration = s.generation := by
    have working := underway.working i
    generalize s.workers i = worker, eventsOf i events = trace, outcome i = ended at working sending ⊢
    cases working with
    | asleep => cases sending
    | ended => cases sending
    | finished => cases sending
    | sending sent left _ split =>
      cases sending
      exact ⟨sent, left, split, rfl, rfl, rfl, rfl⟩
  obtain ⟨sameMutex, sameCallers, sameGeneration, completed, taskKind, batches, errors⟩ := others
  have moved : s'.workers = Function.update s.workers i ⟨s.generation, phase⟩ := by
    rw [workers, ← generation]
    rfl
  refine inv.of_worker mutex caller log serial more sameMutex sameCallers logged
    (underway.advance_unfinished more moved sameGeneration taskKind batches completed errors unfinished ?_)
  rw [trace]
  exact working call sent left split same

section Steps

open GroupState

variable [DecidableEq θ] {g : ControllerGroup n}

/-- The invariant after the holder of the call mutex has moved. -/
theorem GroupInv.of_caller {caller : CallerState n} (outside : ∀ u, u ≠ t → s.callers u = .outside)
    (callers : s'.callers = Function.update s.callers t caller) (mutex : s'.callMutex = some t)
    (holding : Holding s' t caller) : GroupInv s' where
  outside u other := by
    have ne : u ≠ t := fun same => other (same ▸ mutex)
    rw [callers, Function.update_of_ne ne]
    exact outside u ne
  free none := by simp [mutex] at none
  held u held := by
    obtain rfl := Option.some.inj (mutex.symm.trans held)
    rw [callers, Function.update_self]
    exact holding

/-- The invariant after the holder of the call mutex has left. -/
theorem GroupInv.of_left (outside : ∀ u, u ≠ t → s.callers u = .outside)
    (callers : s'.callers = Function.update s.callers t .outside) (mutex : s'.callMutex = none) (rests : Resting s')
    (serial : Serial s'.log) : GroupInv s' where
  outside u _ := by
    rw [callers]
    by_cases same : u = t
    · rw [same, Function.update_self]
    · rw [Function.update_of_ne same]
      exact outside u same
  free _ := ⟨rests, serial⟩
  held u held := by simp [mutex] at held

theorem GroupInv.prepare (inv : GroupInv s) (calling : s.callers t = .calling call) : GroupInv (s.prepare t call) := by
  have mutex := inv.holds (t := t) (by simp [calling])
  cases inv.holding calling (by simp) with
  | calling _ rests serial =>
    unfold GroupState.prepare
    cases partition : call.partition fun _ => [] with
    | mk answer batches =>
      cases answer with
      | error what =>
        refine .of_caller (inv.others mutex) rfl mutex (.refused what rests ?_)
        exact serial.rejected t call what (by rw [partition])
      | ok _ =>
        have accepts : call.Accepts := by
          rw [GroupCall.Accepts, partition]
        have whole : batches = call.sub := by
          rw [← accepts.partition_eq, partition]
        refine .of_caller (inv.others mutex) rfl mutex (.waiting call s.log [] (fun _ => none) rfl serial ?_)
        refine ⟨accepts, rfl, ?_, by simp, rests.working (succ_ne _), by simp [setCaller, note], by simp⟩
        exact (Function.update_self ..).trans whole

/-- A step of a group keeps the invariant. -/
theorem GroupInv.step (inv : GroupInv s) (step : Step g s s') : GroupInv s' := by
  cases step with
  | lock t call outside free =>
    obtain ⟨rests, serial⟩ := inv.free free
    exact .of_caller (fun u _ => inv.outside u (by simp [free])) rfl rfl (.calling call rests serial)
  | prepare t call calling => exact inv.prepare calling
  | refuse t what refused =>
    have mutex := inv.holds (t := t) (by simp [refused])
    cases inv.holding refused (by simp) with
    | refused _ rests serial => exact .of_left (inv.others mutex) rfl rfl rests serial
  | wake i asleep signalled => exact inv.wake asleep signalled
  | transmit i kind fresh command rest sending =>
    refine inv.of_sending sending [.sent kind command] rfl ⟨rfl, rfl, rfl, rfl, rfl, rfl, rfl⟩ rfl ?_
    rintro call sent left split ⟨⟩
    have later : Working call i s.generation _ _ none := .sending (sent ++ [command]) rest false
      (by rw [split, List.append_assoc, List.singleton_append])
    rwa [List.map_append] at later
  | fail i kind fresh rest failure sending possible =>
    refine inv.of_sending sending [] rfl ⟨rfl, rfl, rfl, rfl, rfl, rfl, rfl⟩ (List.append_nil _).symm ?_
    rintro call sent left split ⟨⟩
    rw [List.append_nil]
    exact .ended sent _ _ split fun empty => absurd empty (failure.text_ne g i)
  | complete i kind fresh sending =>
    refine inv.of_sending sending [] rfl ⟨rfl, rfl, rfl, rfl, rfl, rfl, rfl⟩ (List.append_nil _).symm ?_
    rintro call sent left split ⟨⟩
    rw [List.append_nil]
    exact .ended sent [] _ split fun _ => rfl
  | report i error ended =>
    obtain ⟨t, call, before, events, outcome, mutex, caller, log, serial, underway⟩ :=
      inv.underway_of_busy (i := i) fun same => by simp [same] at ended
    exact inv.of_worker mutex caller log serial [.finished error] rfl rfl rfl (underway.report ended)
  | collect t waiting done =>
    have mutex := inv.holds (t := t) (by simp [waiting])
    cases inv.holding waiting (by simp) with
    | waiting call before events outcome log serial underway =>
      obtain ⟨dispatched, rests⟩ := underway.dispatched done
      exact .of_caller (inv.others mutex) rfl mutex
        (.raising call before events s.errors log serial underway.accepts dispatched rests)
  | release t errors raising =>
    have mutex := inv.holds (t := t) (by simp [raising])
    cases inv.holding raising (by simp) with
    | raising call before events _ log serial accepts dispatched rests =>
      refine .of_left (inv.others mutex) rfl rfl rests ?_
      have ended := serial.dispatched t call accepts events errors dispatched
      have logged : s.log ++ [.returned t (raise errors)] =
          before ++ .accepted t call :: (events ++ [.returned t (raise errors)]) := by
        rw [log, List.append_assoc, List.cons_append]
      rwa [← logged] at ended

theorem groupInv_of_reach (reach : Reach g s) : GroupInv s := by
  induction reach with
  | refl => exact groupInv_initial
  | tail _ step ih => exact ih.step step

end Steps

end Inv

/-! ## Dispatches -/

section Dispatch

variable {θ : Type} {n : ℕ}

/-- What has happened for an accepted call that has not returned. -/
structure Begun (call : GroupCall n) (events : List (GroupEvent θ n)) : Prop where
  workers : ∀ event ∈ events, ∃ i e, event = .worker i e
  runs : ∀ i, ∃ trace error, WorkerRun call.kind (call.sub i) trace error ∧ eventsOf i events <+: trace

theorem Working.begun {call : GroupCall n} {i : Fin n} {generation : UInt64} {worker : WorkerState}
    {events : List WorkerEvent} {ended : Option String} (working : Working call i generation worker events ended) :
    ∃ trace error, WorkerRun call.kind (call.sub i) trace error ∧ events <+: trace := by
  have whole : WorkerRun call.kind (call.sub i) _ "" :=
    .intro (call.sub i) [] "" (List.append_nil _).symm fun _ => rfl
  cases working with
  | asleep => exact ⟨_, _, whole, List.nil_prefix⟩
  | sending sent rest _ split =>
    refine ⟨_, _, whole, ?_⟩
    rw [split, List.map_append, ← List.cons_append, List.append_assoc]
    exact List.prefix_append _ _
  | ended sent rest error split cause => exact ⟨_, _, .intro sent rest error split cause, List.prefix_append _ _⟩
  | finished _ error run => exact ⟨_, _, run, List.prefix_rfl⟩

/-- A worker has something left to do for a call that waits, or the call can return. -/
theorem Underway.busy {s : GroupState θ n} {call : GroupCall n} {events : List (GroupEvent θ n)}
    {outcome : Fin n → Option String} (underway : Underway s call events outcome) : s.completed = n ∨
      ∃ i, (s.workers i).phase ≠ .waiting ∨ s.generation ≠ (s.workers i).seenGeneration := by
  by_contra stuck
  obtain ⟨unfinished, idle⟩ := not_or.mp stuck
  refine unfinished (underway.completed.trans ?_)
  have all (i : Fin n) : (outcome i).isSome = true := by
    obtain ⟨waits, current⟩ := not_or.mp (not_exists.mp idle i)
    have working := underway.working i
    generalize s.workers i = worker, eventsOf i events = trace, outcome i = ended at working waits current ⊢
    cases working with
    | asleep seen behind => exact absurd behind current
    | sending => simp at waits
    | ended => simp at waits
    | finished => rfl
  rw [Finset.filter_true_of_mem fun i _ => all i, Finset.card_univ, Fintype.card_fin]

open GroupState

/-- Whatever the callers and the workers of a group do: its calls follow one another; a call that is rejected is
handed to no worker; every worker sends the sub-batch of an accepted call once, in the order of the call, and the call
returns after all of them, with their errors; every command of the call is in exactly one sub-batch.  While a call
waits, a worker has something left to do or the call can return. -/
theorem dispatch_exactly_once [DecidableEq θ] (g : ControllerGroup n) (s : GroupState θ n) (reach : Reach g s) :
    (Serial s.log ∨ ∃ before t call events, s.log = before ++ .accepted t call :: events ∧ Serial before ∧
      call.Accepts ∧ Begun call events) ∧
    (∀ call : GroupCall n, call.Accepts → (∀ i, (call.sub i).Sublist call.commands) ∧
      ∀ command ∈ call.commands, ∃! i, command ∈ call.sub i) ∧
    ∀ t, s.callers t = .waiting → s.completed = n ∨
      ∃ i, (s.workers i).phase ≠ .waiting ∨ s.generation ≠ (s.workers i).seenGeneration := by
  have inv := groupInv_of_reach reach
  refine ⟨?_, fun call accepts => ⟨fun i => GroupCall.ownedFrom_sublist, fun command => accepts.existsUnique_sub⟩,
    fun t waiting => ?_⟩
  · cases mutex : s.callMutex with
    | none => exact .inl (inv.free mutex).2
    | some t =>
      have holding := inv.held t mutex
      generalize s.callers t = caller at holding
      cases holding with
      | calling _ _ serial => exact .inl serial
      | refused _ _ serial => exact .inl serial
      | waiting call before events outcome log serial underway =>
        exact .inr ⟨before, t, call, events, log, serial, underway.accepts, underway.workers, fun i =>
          (underway.working i).begun⟩
      | raising call before events errors log serial accepts dispatched =>
        exact .inr ⟨before, t, call, events, log, serial, accepts, dispatched.workers, fun i =>
          ⟨_, _, dispatched.runs i, List.prefix_rfl⟩⟩
  · cases inv.holding waiting (by simp) with
    | waiting _ _ _ _ _ _ underway => exact underway.busy

/-- Two controllers. -/
def twoControllers : ControllerGroup 2 where
  endpointLabel i := if i = 0 then "can0" else "can1"
  motorId address := if address = 0 then 1 else 2

/-- A command for the motor of each. -/
def pairCall : GroupCall 2 where
  kind := .posVel
  commands := [⟨some 0, 1, 2⟩, ⟨some 1, 3, 4⟩]
  owns position i := position = i.val

/-- A call that has returned, though the send to the second controller was refused. -/
theorem dispatch_exactly_once_pair : ∃ s : GroupState Unit 2, Reach twoControllers s ∧
    (∃ what before, s.log = before ++ [.returned () (.error what)]) ∧
    (Serial s.log ∨ ∃ before t call events, s.log = before ++ .accepted t call :: events ∧ Serial before ∧
      call.Accepts ∧ Begun call events) := by
  have run : ∃ s : GroupState Unit 2, Reach twoControllers s ∧
      ∃ what before, s.log = before ++ [.returned () (.error what)] := by
    refine ⟨_, .tail (.tail (.tail (.tail (.tail (.tail (.tail (.tail (.tail (.tail (.tail .refl
      (.lock () pairCall rfl rfl)) (.prepare () pairCall rfl)) (.wake 0 rfl (by decide))) (.wake 1 rfl (by decide)))
      (.transmit 0 .posVel true ⟨some 0, 1, 2⟩ [] rfl)) (.complete 0 .posVel false rfl)) (.report 0 "" rfl))
      (.fail 1 .posVel true [⟨some 1, 3, 4⟩] .closed rfl rfl)) (.report 1 "can1 is closed" rfl))
      (.collect () rfl rfl)) (.release () _ rfl), ?_⟩
    exact ⟨_, _, rfl⟩
  obtain ⟨s, reach, returned⟩ := run
  exact ⟨s, reach, returned, (dispatch_exactly_once twoControllers s reach).1⟩

end Dispatch

end MotorDrive.Damiao
