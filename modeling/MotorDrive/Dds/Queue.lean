import MotorDrive.Library.Watch
import MotorDrive.Dds.Service

/-!
# The control queue

A request is validated, authorized and queued on the I/O thread; the control worker takes it from the
queue, looks at the lease again, executes it, renews the lease and replies.  Between the two the lease can
be lost, the queue can overflow, a handler can throw and the service can stop.

The service is watched by a `Record` of what became of every request.  `disciplined_of_reach`: in every run
the operations that change something are executed in the order of their sequence numbers under their lease,
each at most once and only for the client whose lease was live when the request was taken from the queue;
the queue never holds more than 32 requests; and every received request is replied to at most once, and
exactly once unless a handler threw or the service stopped first.
-/

namespace MotorDrive.Dds

open Threads Threads.Discipline Proc Service

/-- The request changes something, and is executed under a lease only. -/
def ControlRequest.Mutates (request : ControlRequest) : Prop := request.operation.queryOnly = false

instance (request : ControlRequest) : Decidable request.Mutates := inferInstanceAs (Decidable (_ = _))

/-! ## The record -/

/-- The lease that the worker read for a request, and the first reading of the clock after it. -/
structure Check where
  lease : Option LeaseSnapshot
  now : Option Time := none
  deriving DecidableEq, Repr

/-- The lease was the one of the request, and had not expired. -/
def Check.Live (check : Check) (request : ControlRequest) : Prop :=
  ∃ now, check.now = some now ∧ leaseLost check.lease request now = false

/-- An operation that was handed to the Runtime, and what the worker had read of the lease. -/
structure Execution where
  request : ControlRequest
  check : Option Check
  deriving DecidableEq, Repr

/-- What has become of the requests: received, queued and taken by the worker (oldest first), executed, and
lost without a reply.  `held` is the request that a thread is at. -/
structure Record where
  received : List RequestKey := []
  pushed : List ControlRequest := []
  popped : List ControlRequest := []
  executed : List Execution := []
  lost : List RequestKey := []
  held : Thread → Option RequestKey := fun _ => none
  check : Option Check := none

namespace Record

def hold (record : Record) (t : Thread) (key : Option RequestKey) : Record :=
  { record with held := fun u => if u = t then key else record.held u }

/-- A thread is done with its request; a request that it did not reply to is lost. -/
def finish (record : Record) (t : Thread) (replied : Bool) : Record :=
  { record with lost := if replied then record.lost else (record.held t).toList ++ record.lost }.hold t none

/-- The worker reads the clock. -/
def readClock (record : Record) (now : Time) : Record :=
  { record with check := record.check.map fun check => { check with now := some (check.now.getD now) } }

/-- What a section adds to the record. -/
def see (t : Thread) (site : Site) (i : Input) (s s' : Service) (record : Record) : Record :=
  match site with
  | .takeRequest => i.request.elim record fun request =>
      { record with received := request.key :: record.received }.hold t (some request.key)
  | .queuePush => if s'.controlQueue = s.controlQueue then record else
      { record with pushed := record.pushed ++ s'.controlQueue.drop s.controlQueue.length }.hold t none
  | .queuePop => if s.controlWorkerStop then record else
      s.controlQueue.head?.elim record fun request =>
        { record with popped := record.popped ++ [request], check := none }.hold t (some request.key)
  | .leaseSnapshot => { record with check := some { lease := s.lease.active } }
  | .clockNow => if t = .worker then record.readClock s'.now else record
  | .execute request => { record with executed := record.executed ++ [⟨request, record.check⟩] }
  | .replyWrite => record.finish t i.status.isOk
  | .motionWrite _ _ => if i.status.isOk then record else record.finish t false
  | .workerStop => { record with lost := s.controlQueue.map ControlRequest.key ++ record.lost }
  | _ => record

theorem held_hold (record : Record) (t : Thread) (key : Option RequestKey) : (record.hold t key).held t = key :=
  if_pos rfl

theorem see_queuePush_same {t : Thread} {i : Input} {s s' : Service} {record : Record}
    (same : s'.controlQueue = s.controlQueue) : record.see t .queuePush i s s' = record :=
  if_pos same

theorem see_queuePush_append {t : Thread} {i : Input} {s s' : Service} {record : Record} {request : ControlRequest}
    (queued : s'.controlQueue = s.controlQueue ++ [request]) : record.see t .queuePush i s s' =
      { record with pushed := record.pushed ++ [request] }.hold t none := by
  have longer : s.controlQueue ++ [request] ≠ s.controlQueue := by simp
  simp only [see]
  rw [queued, if_neg longer, List.drop_left]

end Record

/-- The service beside the record of its requests. -/
def watched (config : ServiceConfig) : Machine Thread (Service × Record) Input Site String Op :=
  (service config).watch Record.see {}

/-! ## What the record says -/

/-- The replies to a request. -/
def replies (key : RequestKey) (log : List Event) : ℕ :=
  log.countP fun e => match e with
    | .reply key' _ _ => key' = key
    | _ => false

/-- Two requests that change something under one lease are in the order of their sequence numbers. -/
def InOrder (first second : ControlRequest) : Prop :=
  first.Mutates → second.Mutates → first.leaseId = second.leaseId →
    first.identity.sequence < second.identity.sequence

/-- A thread is at the request. -/
def Record.inHand (record : Record) (t : Thread) (key : RequestKey) : ℕ := (record.held t).toList.count key

/-- Every received request has been replied to, waits in the queue, is in the hand of a thread, or is lost. -/
def Balanced (s : Service × Record) : Prop := ∀ key, s.2.received.count key =
  replies key s.1.log + (s.1.controlQueue.map ControlRequest.key).count key + s.2.inHand .io key +
    s.2.inHand .worker key + s.2.lost.count key

/-- The discipline of the control queue. -/
structure Disciplined (s : Service × Record) : Prop where
  ordered : (s.2.executed.map Execution.request).Pairwise InOrder
  live : ∀ execution ∈ s.2.executed, execution.request.Mutates →
    ∃ check, execution.check = some check ∧ check.Live execution.request
  capacity : s.1.controlQueue.length ≤ kControlQueueCapacity
  balanced : Balanced s

/-! ## The lease over a section -/

namespace LeaseManager

/-- The lease stays with its holder, whose sequence numbers do not fall, or gets a new number. -/
structure Advances (m m' : LeaseManager) : Prop where
  next : m.nextLeaseId ≤ m'.nextLeaseId
  holder : ∀ id, m'.holder = some id → m.nextLeaseId ≤ id ∧ id < m'.nextLeaseId ∨
    m.holder = some id ∧ ∀ last, m.lastControlSequence = some last →
      ∃ last', m'.lastControlSequence = some last' ∧ last ≤ last'

theorem Advances.refl (m : LeaseManager) : m.Advances m :=
  ⟨le_rfl, fun _ held => .inr ⟨held, fun last found => ⟨last, found, le_rfl⟩⟩⟩

theorem advances_of_effect {m m' : LeaseManager} {call : Call} {a : Answer} (eff : Effect m call m' a) :
    m.Advances m' := by
  cases eff with
  | acquireRefused | refused | unexpired => exact .refl m
  | issued clientId now =>
    refine ⟨Nat.le_succ _, fun id held => .inl ?_⟩
    rw [holder_issue] at held
    obtain rfl := Option.some.inj held
    exact ⟨le_rfl, Nat.lt_succ_self _⟩
  | extended | refreshed =>
    exact ⟨le_rfl, fun id held => .inr ⟨by simpa using held, fun last found => ⟨last, found, le_rfl⟩⟩⟩
  | accepted call r lease request admissible =>
    refine ⟨(nextLeaseId_accept m r).ge, fun id held => .inr ⟨by simpa using held, fun last found => ?_⟩⟩
    have after := lastSequence_accept m r .control
    by_cases control : r.channel = .control
    · rw [if_pos control.symm] at after
      refine ⟨r.sequence, after, (admissible.newer last ?_).le⟩
      rw [control]
      exact found
    · rw [if_neg (Ne.symm control)] at after
      exact ⟨last, after.trans found, le_rfl⟩
  | released | expired | revoked | revokedVacant => exact ⟨le_rfl, fun id held => by cases held⟩

theorem advances_step (m : LeaseManager) (call : Call) : m.Advances (m.step call).1 :=
  advances_of_effect (effect m call)

/-- The holder of the lease and its last control request are the same. -/
structure SameOwner (m m' : LeaseManager) : Prop where
  next : m'.nextLeaseId = m.nextLeaseId
  holder : m'.holder = m.holder
  last : m'.lastControlSequence = m.lastControlSequence

theorem SameOwner.refl (m : LeaseManager) : m.SameOwner m := ⟨rfl, rfl, rfl⟩

theorem sameOwner_refreshAfterControl (m : LeaseManager) (clientId : String) (leaseId : ℕ) (now : Time) :
    m.SameOwner (m.refreshAfterControl clientId leaseId now).1 := by
  unfold refreshAfterControl
  split_ifs
  · exact ⟨rfl, holder_refresh m now, rfl⟩
  · exact .refl m

end LeaseManager

/-! ## The invariant -/

/-- What the queue, the record and the lease have to do with each other. -/
structure QueueInv (s : Service × Record) : Prop where
  capacity : s.1.controlQueue.length ≤ kControlQueueCapacity
  whole : s.1.controlWorkerStop = false → s.2.popped ++ s.1.controlQueue = s.2.pushed
  stopped : s.1.controlWorkerStop = true → s.1.controlQueue = []
  before : s.2.popped <+: s.2.pushed
  executed : (s.2.executed.map Execution.request).Sublist s.2.popped
  increasing : s.2.pushed.Pairwise InOrder
  numbered : ∀ request ∈ s.2.pushed, request.Mutates → request.leaseId < s.1.lease.nextLeaseId
  registered : ∀ request ∈ s.2.pushed, request.Mutates → s.1.lease.holder = some request.leaseId →
    ∃ last, s.1.lease.lastControlSequence = some last ∧ request.identity.sequence ≤ last
  fresh : ∀ id, s.1.lease.holder = some id → id < s.1.lease.nextLeaseId
  live : ∀ execution ∈ s.2.executed, execution.request.Mutates →
    ∃ check, execution.check = some check ∧ check.Live execution.request
  balanced : Balanced s

theorem QueueInv.disciplined {s : Service × Record} (inv : QueueInv s) : Disciplined s where
  ordered := (inv.increasing.sublist inv.before.sublist).sublist inv.executed
  live := inv.live
  capacity := inv.capacity
  balanced := inv.balanced

/-- A section of a thread that moves no request. -/
structure Quiet (t : Thread) (s s' : Service) : Prop where
  queue : s'.controlQueue = s.controlQueue
  stop : s'.controlWorkerStop = s.controlWorkerStop
  answered : ∀ key, replies key s'.log = replies key s.log
  lease : s.lease.Advances s'.lease
  same : t ≠ .io → s.lease.SameOwner s'.lease

theorem Quiet.of_log {t : Thread} {s s' : Service} (queue : s'.controlQueue = s.controlQueue)
    (stop : s'.controlWorkerStop = s.controlWorkerStop) (log : ∀ key, replies key s'.log = replies key s.log)
    (lease : s'.lease = s.lease) : Quiet t s s' :=
  ⟨queue, stop, log, lease ▸ .refl _, fun _ => lease ▸ .refl _⟩

theorem Quiet.refl (t : Thread) (s : Service) : Quiet t s s := .of_log rfl rfl (fun _ => rfl) rfl

theorem replies_record {s : Service} {e : Event} (other : ∀ key error message, e ≠ .reply key error message)
    (key : RequestKey) : replies key (s.record e).log = replies key s.log := by
  cases e with
  | reply key error message => exact absurd rfl (other key error message)
  | _ => exact List.countP_cons_of_neg (by simp)

theorem Quiet.applyOutcome (t : Thread) (s : Service) (o : Outcome) : Quiet t s (s.applyOutcome o) := by
  unfold Service.applyOutcome
  split
  · exact .refl t s
  · split_ifs
    · exact .refl t s
    · exact .of_log rfl rfl (replies_record (by rintro _ _ _ ⟨⟩)) rfl

/-- What the record keeps over a section that moves no request: the worker may read the clock. -/
structure Record.Calm (t : Thread) (g g' : Record) : Prop where
  received : g'.received = g.received
  pushed : g'.pushed = g.pushed
  popped : g'.popped = g.popped
  executed : g'.executed = g.executed
  lost : g'.lost = g.lost
  held : g'.held = g.held
  check : g'.check = g.check ∨ t = .worker ∧ ∃ now, g' = g.readClock now

/-- The section moves no request. -/
def Site.calm : Site → Bool
  | .takeRequest | .queuePush | .queuePop | .leaseSnapshot | .execute _ | .replyWrite | .motionWrite _ _
  | .workerStop => false
  | _ => true

theorem Record.calm_see (t : Thread) (site : Site) (i : Input) (s s' : Service) (g : Record)
    (calm : site.calm = true) : g.Calm t (g.see t site i s s') := by
  cases site with
  | clockNow =>
    by_cases worker : t = .worker
    · simp only [see, if_pos worker]
      exact ⟨rfl, rfl, rfl, rfl, rfl, rfl, .inr ⟨worker, _, rfl⟩⟩
    · simp only [see, if_neg worker]
      exact ⟨rfl, rfl, rfl, rfl, rfl, rfl, .inl rfl⟩
  | _ => first | (cases calm; done) | exact ⟨rfl, rfl, rfl, rfl, rfl, rfl, .inl rfl⟩

theorem QueueInv.quiet {t : Thread} {s s' : Service} {g g' : Record} (inv : QueueInv (s, g)) (quiet : Quiet t s s')
    (calm : g.Calm t g') : QueueInv (s', g') where
  capacity := quiet.queue ▸ inv.capacity
  whole running := by
    rw [calm.popped, calm.pushed, quiet.queue]
    exact inv.whole (quiet.stop ▸ running)
  stopped stop := quiet.queue.trans (inv.stopped (quiet.stop ▸ stop))
  before := by
    rw [calm.popped, calm.pushed]
    exact inv.before
  executed := by
    rw [calm.popped, calm.executed]
    exact inv.executed
  increasing := by
    rw [calm.pushed]
    exact inv.increasing
  numbered request found mutates :=
    (inv.numbered request (calm.pushed ▸ found) mutates).trans_le quiet.lease.next
  registered request found mutates held := by
    have found : request ∈ g.pushed := calm.pushed ▸ found
    obtain ⟨after, -⟩ | ⟨held, advances⟩ := quiet.lease.holder _ held
    · exact absurd (inv.numbered request found mutates) (not_lt_of_ge after)
    · obtain ⟨last, register, bound⟩ := inv.registered request found mutates held
      obtain ⟨last', register', more⟩ := advances last register
      exact ⟨last', register', bound.trans more⟩
  fresh id held := by
    obtain ⟨-, bound⟩ | ⟨held, -⟩ := quiet.lease.holder id held
    · exact bound
    · exact (inv.fresh id held).trans_le quiet.lease.next
  live := by
    rw [calm.executed]
    exact inv.live
  balanced key := by
    have balanced := inv.balanced key
    simp only [Record.inHand, calm.received, calm.held, calm.lost, quiet.answered, quiet.queue] at balanced ⊢
    exact balanced

/-! ## The discipline -/

/-- What a thread relies on: the request it is at is its own, the I/O thread alone queues requests and
gives the lease away, the worker alone takes and executes them. -/
structure QueueRely (t : Thread) (s s' : Service × Record) : Prop where
  held : s'.2.held t = s.2.held t
  pushed : t = .io → s'.2.pushed = s.2.pushed
  lease : t = .io → s.1.lease.SameOwner s'.1.lease
  popped : t = .worker → s'.2.popped = s.2.popped
  executed : t = .worker → s'.2.executed = s.2.executed
  check : t = .worker → s'.2.check = s.2.check

def queueDiscipline : Discipline Thread (Service × Record) Input Site where
  inv := QueueInv
  rely := QueueRely
  allowed _ _ _ _ := True
  rest t s := s.2.held t = none

theorem QueueRely.of_quiet {t u : Thread} {s s' : Service} {g g' : Record} (other : u ≠ t) (quiet : Quiet t s s')
    (calm : g.Calm t g') : QueueRely u (s, g) (s', g') where
  held := by rw [calm.held]
  pushed _ := calm.pushed
  lease io := quiet.same fun same => other (io.trans same.symm)
  popped _ := calm.popped
  executed _ := calm.executed
  check worker := calm.check.resolve_right fun mine => other (worker.trans mine.1.symm)

/-- A program of the thread beside the record. -/
abbrev QueueTriple (t : Thread) {α : Type} (p : Program α) (A : Service × Record → Prop)
    (Q : α → Service × Record → Prop) (E : String → Service × Record → Prop) : Prop :=
  queueDiscipline.Watches Record.see t p A Q E

/-- The thread is at the request, or at none. -/
def Holds (t : Thread) (key : Option RequestKey) (s : Service × Record) : Prop := s.2.held t = key

theorem stable_holds (t : Thread) (key : Option RequestKey) : queueDiscipline.Stable t (Holds t key) :=
  fun _ _ _ rely holds => rely.held.trans holds

/-- An assertion that the thread's quiet sections keep. -/
def Steady (t : Thread) (A : Service × Record → Prop) : Prop :=
  ∀ s s' g g', Quiet t s s' → g.Calm t g' → A (s, g) → A (s', g')

/-- The program moves no request and does not throw. -/
def QuietProgram (t : Thread) {α : Type} (p : Program α) : Prop :=
  ∀ A, queueDiscipline.Stable t A → Steady t A → ∀ E, QueueTriple t p A (fun _ => A) E

theorem guarantees_quiet {t : Thread} {s s' : Service} {g g' : Record} (quiet : Quiet t s s')
    (calm : g.Calm t g') : queueDiscipline.Guarantees t (s, g) (s', g') :=
  fun _ other => .of_quiet other quiet calm

section Quiet

variable {t : Thread} {α β : Type}

theorem Quiet.act {site : Site} {f : Input → Service → α × Service} (calm : site.calm = true)
    (quiet : ∀ i s, Quiet t s (f i s).2) : QuietProgram t (act site f) := by
  intro A stable steady E
  refine Watches.atomic (fun _ => stable) fun i s g inv holds _ => ?_
  have calm := Record.calm_see t _ i s (f i (s.tick i)).2 g calm
  have quiet : Quiet t s (f i (s.tick i)).2 :=
    have quiet := quiet i (s.tick i)
    ⟨quiet.queue, quiet.stop, quiet.answered, quiet.lease, quiet.same⟩
  exact ⟨QueueInv.quiet inv quiet calm, guarantees_quiet quiet calm, steady _ _ _ _ quiet calm holds⟩

/-- A section that only waits. -/
theorem Quiet.await {site : Site} {ready : Service → Bool} {f : Input → Service → Except String α × Service}
    (calm : site.calm = true) (returns : ∀ i s, ∃ a, (f i s).1 = .ok a)
    (same : ∀ i s, (f i s).2 = s.tick i) : QuietProgram t (.await site ready f) := by
  intro A stable steady E i s inv holds isReady allowed
  have calm := Record.calm_see t _ i s.1 (f i s.1).2 s.2 calm
  have quiet : Quiet t s.1 (f i s.1).2 := by
    rw [same]
    exact .of_log rfl rfl (fun _ => rfl) rfl
  refine ⟨QueueInv.quiet inv quiet calm, guarantees_quiet quiet calm, A, stable,
    steady _ _ _ _ quiet calm holds, ?_⟩
  obtain ⟨a, returned⟩ := returns i s.1
  simp only [returned]
  exact fun _ _ holds => holds

theorem QuietProgram.ret (a : α) : QuietProgram t (.ret a) := fun _ _ _ _ => fun _ _ holds => holds

theorem QuietProgram.bind {p : Program α} {f : α → Program β} (first : QuietProgram t p)
    (rest : ∀ a, QuietProgram t (f a)) : QuietProgram t (p.bind f) :=
  fun A stable steady E => (first A stable steady E).bind fun a => rest a A stable steady E

theorem QuietProgram.ite {c : Prop} [Decidable c] {p q : Program α} (first : QuietProgram t p)
    (second : QuietProgram t q) : QuietProgram t (if c then p else q) :=
  fun A stable steady E => Watches.ite (fun _ => first A stable steady E) fun _ => second A stable steady E

theorem QuietProgram.when {condition : Bool} {p : Program Unit} (quiet : QuietProgram t p) :
    QuietProgram t (Proc.when condition p) :=
  fun A stable steady E => Watches.when (fun _ => quiet A stable steady E) fun _ _ _ holds => holds

theorem QuietProgram.loop {body : Program Bool} (quiet : QuietProgram t body) (n : ℕ) :
    QuietProgram t (Proc.loop body n) :=
  fun A stable steady E => Watches.loop (quiet A stable steady E) n

end Quiet

theorem steady_holds (t : Thread) (key : Option RequestKey) : Steady t (Holds t key) :=
  fun _ _ g g' _ calm holds => by
    change g'.held t = key
    rw [calm.held]
    exact holds

theorem QuietProgram.holds {t : Thread} {α : Type} {p : Program α} (quiet : QuietProgram t p)
    (key : Option RequestKey) (E : String → Service × Record → Prop) :
    QueueTriple t p (Holds t key) (fun _ => Holds t key) E :=
  quiet _ (stable_holds t key) (steady_holds t key) E

/-! ## Replies and exceptions -/

theorem inHand_hold (g : Record) (t u : Thread) (held : Option RequestKey) (key : RequestKey) :
    (g.hold t held).inHand u key = if u = t then held.toList.count key else g.inHand u key := by
  simp only [Record.inHand, Record.hold]
  split_ifs <;> rfl

/-- A section that moves a request out of a thread's hand only. -/
theorem QueueInv.settle {s s' : Service} {g g' : Record} (inv : QueueInv (s, g))
    (queue : s'.controlQueue = s.controlQueue) (stop : s'.controlWorkerStop = s.controlWorkerStop)
    (lease : s'.lease = s.lease) (pushed : g'.pushed = g.pushed)
    (popped : g'.popped = g.popped) (executed : g'.executed = g.executed) (balanced : Balanced (s', g')) :
    QueueInv (s', g') := by
  obtain ⟨capacity, whole, stopped, before, done, increasing, numbered, registered, fresh, live, -⟩ := inv
  simp only at capacity whole stopped before done increasing numbered registered fresh live
  rw [← queue] at capacity whole stopped
  rw [← stop] at whole stopped
  rw [← pushed] at whole before increasing numbered registered
  rw [← popped] at whole before done
  rw [← executed] at done live
  rw [← lease] at numbered registered fresh
  exact ⟨capacity, whole, stopped, before, done, increasing, numbered, registered, fresh, live, balanced⟩

theorem QueueRely.settle {t u : Thread} {s s' : Service} {g g' : Record} (other : u ≠ t)
    (lease : s'.lease = s.lease) (pushed : g'.pushed = g.pushed) (popped : g'.popped = g.popped)
    (executed : g'.executed = g.executed) (check : g'.check = g.check)
    (held : ∀ u, u ≠ t → g'.held u = g.held u) : QueueRely u (s, g) (s', g') :=
  ⟨held u other, fun _ => pushed, fun _ => lease ▸ .refl _, fun _ => popped, fun _ => executed, fun _ => check⟩

theorem held_finish_ne (g : Record) {t u : Thread} (replied : Bool) (other : u ≠ t) :
    (g.finish t replied).held u = g.held u := if_neg other

theorem held_finish_self (g : Record) (t : Thread) (replied : Bool) : (g.finish t replied).held t = none :=
  if_pos rfl

theorem inHand_finish (g : Record) (t u : Thread) (replied : Bool) (key : RequestKey) :
    (g.finish t replied).inHand u key = if u = t then 0 else g.inHand u key := by
  simp only [Record.finish, inHand_hold]
  split_ifs <;> rfl

theorem count_lost_finish (g : Record) (t : Thread) (key : RequestKey) :
    (g.finish t false).lost.count key = g.inHand t key + g.lost.count key := by
  rw [Record.inHand, ← List.count_append]
  rfl

theorem replies_reply (s : Service) (key key' : RequestKey) (error : ProtocolError) (message : String) :
    replies key' (s.record (.reply key error message)).log = replies key' s.log + [key].count key' := by
  rw [replies, replies, Service.record, List.countP_cons, List.count_singleton]
  by_cases same : key = key'
  · simp [same]
  · simp [same]

/-- A request that is replied to leaves the hand of its thread. -/
theorem Balanced.reply {t : Thread} {s : Service} {g : Record} {key : RequestKey} (balanced : Balanced (s, g))
    (real : t ≠ .runtime) (holds : g.held t = some key) (error : ProtocolError) (message : String) :
    Balanced (s.record (.reply key error message), g.finish t true) := by
  intro key'
  have before := balanced key'
  have mine : g.inHand t key' = [key].count key' := by rw [Record.inHand, holds]; rfl
  simp only [replies_reply, inHand_finish]
  cases t with
  | io =>
    simp only [Service.record, Record.finish, Record.hold, if_true, reduceCtorEq, if_false] at before ⊢
    omega
  | worker =>
    simp only [Service.record, Record.finish, Record.hold, if_true, reduceCtorEq, if_false] at before ⊢
    omega
  | runtime => exact absurd rfl real

/-- A request whose handler throws is lost. -/
theorem Balanced.lose {t : Thread} {s : Service} {g : Record} (balanced : Balanced (s, g)) (real : t ≠ .runtime) :
    Balanced (s, g.finish t false) := by
  intro key
  have before := balanced key
  simp only [count_lost_finish, inHand_finish]
  cases t with
  | io =>
    simp only [Record.finish, Record.hold, if_true, reduceCtorEq, if_false] at before ⊢
    omega
  | worker =>
    simp only [Record.finish, Record.hold, if_true, reduceCtorEq, if_false] at before ⊢
    omega
  | runtime => exact absurd rfl real

theorem Balanced.tick {s : Service} {g : Record} (balanced : Balanced (s, g)) (i : Input) :
    Balanced (s.tick i, g) :=
  balanced

theorem QueueInv.tick {s : Service} {g : Record} (inv : QueueInv (s, g)) (i : Input) : QueueInv (s.tick i, g) where
  capacity := inv.capacity
  whole := inv.whole
  stopped := inv.stopped
  before := inv.before
  executed := inv.executed
  increasing := inv.increasing
  numbered := inv.numbered
  registered := inv.registered
  fresh := inv.fresh
  live := inv.live
  balanced := inv.balanced.tick i

theorem triple_finishReply {t : Thread} (real : t ≠ .runtime) (request : ControlRequest) (error : ProtocolError)
    (message : String) : QueueTriple t (finishReply request error message) (Holds t (some request.key))
      (fun _ => Holds t none) fun _ => Holds t none := by
  refine Watches.await (fun _ => stable_holds t none) (fun _ => stable_holds t none) fun i s g inv holds _ => ?_
  have finished (replied : Bool) : Holds t none (s, g.finish t replied) := held_finish_self g t replied
  simp only [Record.see]
  cases status : i.status with
  | ok _ =>
    refine ⟨QueueInv.settle inv rfl rfl rfl rfl rfl rfl ((inv.balanced.tick i).reply real holds error message),
      fun u other => .settle other rfl rfl rfl rfl rfl fun u other => held_finish_ne g true other, finished true⟩
  | error _ =>
    refine ⟨QueueInv.settle inv rfl rfl rfl rfl rfl rfl ((inv.balanced.tick i).lose real),
      fun u other => .settle other rfl rfl rfl rfl rfl fun u other => held_finish_ne g false other, finished false⟩

theorem replies_writeEvent (s : Service) (t : Thread) (key : RequestKey) (kind : MotionEventKind)
    (error : ProtocolError) (message : String) (key' : RequestKey) :
    replies key' (s.writeEvent t key kind error message).log = replies key' s.log := by
  unfold Service.writeEvent
  exact replies_record (by rintro _ _ _ ⟨⟩) key'

/-- A motion event leaves the request in the hand of the thread, unless its write throws. -/
theorem triple_publishMotionEvent' {t : Thread} (real : t ≠ .runtime) (held : Option RequestKey) (key : RequestKey)
    (kind : MotionEventKind) (error : ProtocolError) (message : String) :
    QueueTriple t (publishMotionEvent t key kind error message) (Holds t held) (fun _ => Holds t held)
      fun _ => Holds t none := by
  refine Watches.await (fun _ => stable_holds t held) (fun _ => stable_holds t none) fun i s g inv holds _ => ?_
  simp only [Record.see, publish]
  cases status : i.status with
  | ok _ =>
    have balanced : Balanced ((s.tick i).writeEvent t key kind error message, g) := fun key' => by
      have before := inv.balanced.tick i key'
      rw [← replies_writeEvent (s.tick i) t key kind error message key'] at before
      exact before
    exact ⟨QueueInv.settle inv rfl rfl rfl rfl rfl rfl balanced,
      fun u other => .settle other rfl rfl rfl rfl rfl fun _ _ => rfl, holds⟩
  | error _ =>
    exact ⟨QueueInv.settle inv rfl rfl rfl rfl rfl rfl ((inv.balanced.tick i).lose real),
      fun u other => .settle other rfl rfl rfl rfl rfl fun u other => held_finish_ne g false other,
      held_finish_self g t false⟩

/-! ## The quiet programs -/

theorem quiet_clockNow (t : Thread) : QuietProgram t clockNow := Quiet.act rfl fun _ s => .refl t s

theorem quiet_runtimeSnapshot (t : Thread) : QuietProgram t runtimeSnapshot := Quiet.act rfl fun _ s => .refl t s

/-- A section that changes neither the lease nor the log. -/
theorem quiet_act {t : Thread} {α : Type} {site : Site} {f : Input → Service → α × Service}
    (calm : site.calm = true) (queue : ∀ i s, (f i s).2.controlQueue = s.controlQueue)
    (stop : ∀ i s, (f i s).2.controlWorkerStop = s.controlWorkerStop) (log : ∀ i s, (f i s).2.log = s.log)
    (lease : ∀ i s, (f i s).2.lease = s.lease) : QuietProgram t (act site f) :=
  Quiet.act calm fun i s => .of_log (queue i s) (stop i s) (fun _ => by rw [log]) (lease i s)

/-- An operation of the lease on the I/O thread. -/
theorem Quiet.step (s : Service) (call : LeaseManager.Call) : Quiet .io s (s.setLease (s.lease.step call).1) :=
  ⟨rfl, rfl, fun _ => rfl, LeaseManager.advances_step s.lease call, fun other => absurd rfl other⟩

theorem quiet_retryLater (t : Thread) (config : ServiceConfig) (now : Time) (failure : Failure) :
    QuietProgram t (retryLater config now failure) :=
  quiet_act rfl (fun _ _ => rfl) (fun _ _ => rfl) (fun _ _ => rfl) fun _ _ => rfl

theorem quiet_createRuntime (t : Thread) (config : ServiceConfig) (now : Time) :
    QuietProgram t (createRuntime config now) := by
  refine QuietProgram.bind (Quiet.act rfl fun _ s => .refl t s) fun created => ?_
  cases created with
  | error failure => exact quiet_retryLater t config now failure
  | ok _ =>
    refine QuietProgram.bind (Quiet.act rfl fun _ s => .refl t s) fun connected => ?_
    cases connected with
    | error failure => exact quiet_retryLater t config now failure
    | ok _ => exact quiet_act rfl (fun _ _ => rfl) (fun _ _ => rfl) (fun _ _ => rfl) fun _ _ => rfl

theorem quiet_ensureRuntime (t : Thread) (config : ServiceConfig) (now : Time) :
    QuietProgram t (ensureRuntime config now) :=
  QuietProgram.bind (Quiet.act rfl fun _ s => .refl t s) fun _ => (quiet_createRuntime t config now).when

theorem quiet_runtimeFor (t : Thread) (config : ServiceConfig) (request : ControlRequest) :
    QuietProgram t (runtimeFor config request) := by
  refine (quiet_runtimeSnapshot t).bind fun runtime => QuietProgram.ite ?_ (.ret _)
  refine (quiet_clockNow t).bind fun now => ?_
  refine (quiet_act rfl (fun _ _ => rfl) (fun _ _ => rfl) (fun _ _ => rfl) fun _ _ => rfl).bind fun _ => ?_
  exact (quiet_ensureRuntime t config now).bind fun _ => quiet_runtimeSnapshot t

theorem quiet_refreshLease (request : ControlRequest) : QuietProgram .worker (refreshLease request) := by
  refine QuietProgram.ite (.ret _) ((quiet_clockNow .worker).bind fun now => ?_)
  refine Quiet.act rfl fun _ s => ?_
  exact ⟨rfl, rfl, fun _ => rfl, LeaseManager.advances_step s.lease (.refreshAfterControl _ _ _),
    fun _ => LeaseManager.sameOwner_refreshAfterControl s.lease _ _ _⟩

theorem quiet_replyMessage (t : Thread) (request : ControlRequest) (status : Except Failure Unit) :
    QuietProgram t (replyMessage request status) :=
  QuietProgram.ite (.ret _) (Quiet.act rfl fun _ s => .refl t s)

theorem quiet_takeStreamCommand (config : ServiceConfig) : QuietProgram .io (takeStreamCommand config) := by
  refine QuietProgram.bind (Quiet.act rfl fun _ s => .refl .io s) fun sample => ?_
  cases sample with
  | none => exact .ret _
  | some wire =>
    refine (quiet_clockNow .io).bind fun receivedAt => ?_
    refine QuietProgram.bind (QuietProgram.when (QuietProgram.bind (Quiet.act rfl fun _ s => ?_) fun error => ?_))
      fun _ => .ret _
    · have step := Quiet.step s (.authorize wire.identity.clientId wire.leaseId wire.identity.sequence .stream true
        receivedAt)
      simp only
      split_ifs
      · exact ⟨step.queue, step.stop, replies_record (by rintro _ _ _ ⟨⟩), step.lease, step.same⟩
      · exact step
    · exact (quiet_act rfl (fun _ _ => rfl) (fun _ _ => rfl) (fun _ _ => rfl) fun _ _ => rfl).when

theorem quiet_deliver (t : Thread) (s : Service) (now : Time) (command : StreamCommand) (i : Input) :
    Quiet t s (s.deliver now command i).2 := by
  have outcome := Quiet.applyOutcome t (s.record (.pumped now s.lease.active true (some command))) i.outcome
  have answered : ∀ key, replies key ((s.record (.pumped now s.lease.active true (some command))).applyOutcome
      i.outcome).log = replies key s.log := fun key =>
    (outcome.answered key).trans (replies_record (by rintro _ _ _ ⟨⟩) key)
  unfold Service.deliver
  cases i.status <;> exact ⟨outcome.queue, outcome.stop, answered, outcome.lease, outcome.same⟩

theorem quiet_pump (t : Thread) : QuietProgram t pumpLatest := by
  refine (quiet_clockNow t).bind fun now => QuietProgram.bind (Quiet.act rfl fun _ s => .refl t s) fun busy => ?_
  refine QuietProgram.ite (.ret _) (QuietProgram.bind ?_ fun command => QuietProgram.bind ?_ fun runtime => ?_)
  · exact quiet_act rfl (fun _ _ => rfl) (fun _ _ => rfl) (fun _ _ => rfl) fun _ _ => rfl
  · refine Quiet.act rfl fun _ s => ?_
    simp only
    split_ifs
    · exact .refl t s
    · exact .of_log rfl rfl (replies_record (by rintro _ _ _ ⟨⟩)) rfl
  · cases command with
    | none => exact .ret _
    | some command =>
      cases runtime with
      | none => exact .ret _
      | some runtime => exact Quiet.act rfl fun i s => quiet_deliver t s now command i

/-! ## The I/O thread -/

theorem triple_finishPending {t : Thread} (real : t ≠ .runtime) (held : Option RequestKey)
    (kind : MotionEventKind) (error : ProtocolError) (message : String) :
    QueueTriple t (finishPendingMotion t kind error message) (Holds t held) (fun _ => Holds t held)
      fun _ => Holds t none := by
  refine Watches.bind (QuietProgram.holds (Quiet.act rfl fun _ s => ?_) held _) fun pending => ?_
  · split_ifs
    · exact .refl t s
    · exact .of_log rfl rfl (fun _ => rfl) rfl
  · cases pending with
    | none => exact Watches.ret fun _ _ holds => holds
    | some key => exact triple_publishMotionEvent' real held key kind error message

theorem triple_onLost (held : Option RequestKey) (reason : String) :
    QueueTriple .io (onLost reason) (Holds .io held) (fun _ => Holds .io held) fun _ => Holds .io none := by
  refine Watches.bind (QuietProgram.holds ?_ held _) fun _ => ?_
  · exact quiet_act rfl (fun _ _ => rfl) (fun _ _ => rfl) (fun _ _ => rfl) fun _ _ => rfl
  refine Watches.bind ((quiet_runtimeSnapshot .io).holds held _) fun runtime => ?_
  refine Watches.bind (QuietProgram.holds (QuietProgram.when ?_) held _) fun _ => ?_
  · exact Quiet.act rfl fun _ s => .applyOutcome .io s .cancel
  · exact triple_finishPending (by decide) held _ _ _

theorem triple_notifyLost (held : Option RequestKey) (lost : Option String) :
    QueueTriple .io (notifyLost lost) (Holds .io held) (fun _ => Holds .io held) fun _ => Holds .io none := by
  cases lost with
  | none => exact Watches.ret fun _ _ holds => holds
  | some reason => exact triple_onLost held reason

/-- The request is authorized: it is later than the requests that were queued under its lease. -/
structure Authorized (request : ControlRequest) (s : Service × Record) : Prop where
  later : ∀ earlier ∈ s.2.pushed, InOrder earlier request
  numbered : request.leaseId < s.1.lease.nextLeaseId
  registered : s.1.lease.holder = some request.leaseId →
    ∃ last, s.1.lease.lastControlSequence = some last ∧ request.identity.sequence ≤ last

/-- The I/O thread is at the request, which is authorized if it changes something. -/
def AtAuthorized (request : ControlRequest) (s : Service × Record) : Prop :=
  Holds .io (some request.key) s ∧ (request.Mutates → Authorized request s)

theorem stable_atAuthorized (request : ControlRequest) : queueDiscipline.Stable .io (AtAuthorized request) := by
  intro s s' _ rely ⟨holds, authorized⟩
  refine ⟨rely.held.trans holds, fun mutates => ?_⟩
  obtain ⟨later, numbered, registered⟩ := authorized mutates
  have same := rely.lease rfl
  refine ⟨?_, by rwa [same.next], ?_⟩
  · rw [rely.pushed rfl]
    exact later
  · rw [same.holder, same.last]
    exact registered

/-- What the lease has accepted is later than what was queued under it. -/
theorem authorized_of_accept {request : ControlRequest} {s : Service} {g : Record} (inv : QueueInv (s, g))
    {r : LeaseManager.Request} {lease : LeaseSnapshot} (control : r.channel = .control)
    (number : r.leaseId = request.leaseId) (sequence : r.sequence = request.identity.sequence)
    (admissible : s.lease.Admissible r lease) : Authorized request (s.setLease (s.lease.accept r), g) := by
  have holder : s.lease.holder = some request.leaseId := by
    rw [LeaseManager.holder, admissible.active, Option.map_some, admissible.number, number]
  have last : (s.lease.accept r).lastControlSequence = some request.identity.sequence := by
    have after := LeaseManager.lastSequence_accept s.lease r .control
    rw [if_pos control.symm, sequence] at after
    exact after
  refine ⟨fun earlier found mutates _ same => ?_, ?_, fun _ => ⟨_, last, le_rfl⟩⟩
  · obtain ⟨last, register, bound⟩ := inv.registered earlier found mutates (same ▸ holder)
    have newer := admissible.newer last (by rw [control]; exact register)
    rw [sequence] at newer
    exact bound.trans_lt newer
  · change _ < (s.lease.accept r).nextLeaseId
    rw [LeaseManager.nextLeaseId_accept]
    exact inv.fresh _ holder

theorem triple_authorizeControl (request : ControlRequest) {E : String → Service × Record → Prop} :
    QueueTriple .io (authorizeControl request) (Holds .io (some request.key))
      (fun error s => Holds .io (some request.key) s ∧ (error = .ok → AtAuthorized request s)) E := by
  refine Watches.ite (fun query => ?_) fun _ => ?_
  · refine Watches.ret fun s _ holds => ⟨holds, fun _ => ⟨holds, fun mutates => ?_⟩⟩
    rw [ControlRequest.Mutates, query] at mutates
    cases mutates
  refine Watches.bind ((quiet_clockNow .io).holds _ _) fun now => ?_
  refine Watches.atomic (fun error s s' inv rely both => ?_) fun i s g inv holds _ => ?_
  · exact ⟨stable_holds _ _ s s' inv rely both.1, fun ok => stable_atAuthorized request s s' inv rely (both.2 ok)⟩
  let r : LeaseManager.Request :=
    ⟨request.identity.clientId, request.leaseId, request.identity.sequence, .control, false, now⟩
  have quiet : Quiet .io s ((s.tick i).setLease (s.lease.authorize r.clientId r.leaseId r.sequence r.channel
      r.refresh r.now).1) :=
    have step := Quiet.step (s.tick i) (.authorize r.clientId r.leaseId r.sequence r.channel r.refresh r.now)
    ⟨step.queue, step.stop, step.answered, step.lease, step.same⟩
  have calm := Record.calm_see .io .leaseAuthorize i s ((s.tick i).setLease (s.lease.authorize r.clientId r.leaseId r.sequence
    r.channel r.refresh r.now).1) g rfl
  refine ⟨QueueInv.quiet inv quiet calm, guarantees_quiet quiet calm, holds, fun ok => ⟨holds, fun _ => ?_⟩⟩
  change (s.lease.authorize r.clientId r.leaseId r.sequence r.channel r.refresh r.now).2 = .ok at ok
  change Authorized request ((s.tick i).setLease (s.lease.authorize r.clientId r.leaseId r.sequence r.channel
    r.refresh r.now).1, g)
  obtain out | out | ⟨out, lease, admissible⟩ := LeaseManager.authorize_cases s.lease r
  · rw [out] at ok
    cases ok
  · rw [out] at ok
    cases ok
  · rw [out]
    exact authorized_of_accept (inv.tick i) rfl rfl rfl admissible

/-- A request is queued. -/
theorem QueueInv.push {request : ControlRequest} {s : Service} {g : Record} (inv : QueueInv (s, g))
    (running : s.controlWorkerStop = false) (room : s.controlQueue.length < kControlQueueCapacity)
    (at' : AtAuthorized request (s, g)) : QueueInv ({ s with controlQueue := s.controlQueue ++ [request] },
      { g with pushed := g.pushed ++ [request] }.hold .io none) where
  capacity := by
    rw [List.length_append]
    exact room
  whole _ := by
    change g.popped ++ (s.controlQueue ++ [request]) = g.pushed ++ [request]
    rw [← List.append_assoc]
    exact congrArg (· ++ [request]) (inv.whole running)
  stopped stop := by
    cases running.symm.trans stop
  before := inv.before.trans (List.prefix_append _ _)
  executed := inv.executed
  increasing := by
    refine List.pairwise_append.mpr ⟨inv.increasing, List.pairwise_singleton .., fun earlier found later same => ?_⟩
    obtain rfl := List.mem_singleton.mp same
    exact fun first mutates => (at'.2 mutates).later earlier found first mutates
  numbered later found mutates := by
    obtain found | same := List.mem_append.mp found
    · exact inv.numbered later found mutates
    · obtain rfl := List.mem_singleton.mp same
      exact (at'.2 mutates).numbered
  registered later found mutates holder := by
    obtain found | same := List.mem_append.mp found
    · exact inv.registered later found mutates holder
    · obtain rfl := List.mem_singleton.mp same
      exact (at'.2 mutates).registered holder
  fresh := inv.fresh
  live := inv.live
  balanced key := by
    have before := inv.balanced key
    have mine : g.inHand .io key = [request.key].count key := by
      have holds : g.held .io = some request.key := at'.1
      rw [Record.inHand, holds]
      rfl
    simp only [inHand_hold, if_true, reduceCtorEq, if_false, Option.toList_none, List.count_nil, List.map_append,
      List.map_cons, List.map_nil, List.count_append] at before ⊢
    change g.received.count key = _ + _ + 0 + g.inHand .worker key + g.lost.count key
    omega

theorem triple_enqueueControlRequest (request : ControlRequest) {E : String → Service × Record → Prop} :
    QueueTriple .io (enqueueControlRequest request) (AtAuthorized request)
      (fun queued => Holds .io (if queued then none else some request.key)) E := by
  refine Watches.atomic (fun _ => stable_holds _ _) fun i s g inv at' _ => ?_
  by_cases refused : s.controlWorkerStop ∨ kControlQueueCapacity ≤ s.controlQueue.length
  · have same : (s.tick i).controlWorkerStop = true ∨ kControlQueueCapacity ≤ (s.tick i).controlQueue.length :=
      refused
    simp only [if_pos same]
    have kept : g.see .io .queuePush i s (s.tick i) = g := Record.see_queuePush_same rfl
    rw [kept]
    exact ⟨QueueInv.tick inv i, guarantees_quiet (.of_log rfl rfl (fun _ => rfl) rfl)
      ⟨rfl, rfl, rfl, rfl, rfl, rfl, .inl rfl⟩, at'.1⟩
  · have same : ¬ ((s.tick i).controlWorkerStop = true ∨ kControlQueueCapacity ≤ (s.tick i).controlQueue.length) :=
      refused
    obtain ⟨running, room⟩ := not_or.mp refused
    simp only [if_neg same]
    rw [Record.see_queuePush_append rfl]
    have ticked : AtAuthorized request (s.tick i, g) := ⟨at'.1, fun mutates =>
      ⟨(at'.2 mutates).later, (at'.2 mutates).numbered, (at'.2 mutates).registered⟩⟩
    refine ⟨(QueueInv.tick inv i).push (eq_false_of_ne_true running) (not_le.mp room) ticked, fun u other => ?_,
      Record.held_hold ..⟩
    exact ⟨if_neg other, fun io => absurd io other, fun io => absurd io other, fun _ => rfl, fun _ => rfl,
      fun _ => rfl⟩

theorem triple_handleQueued (request : ControlRequest) :
    QueueTriple .io (handleQueued request) (Holds .io (some request.key)) (fun _ => Holds .io none)
      fun _ => Holds .io none := by
  refine Watches.bind (triple_authorizeControl request) fun error => ?_
  refine Watches.ite (fun _ => ?_) fun ok => ?_
  · exact (triple_finishReply (by decide) request error "").pre fun _ _ both => both.1
  refine Watches.bind ((triple_enqueueControlRequest request).pre fun _ _ both => both.2 (not_not.mp ok))
    fun queued => ?_
  cases queued with
  | false => exact triple_finishReply (by decide) request _ _
  | true => exact Watches.ret fun _ _ holds => holds

theorem triple_handleRequest (config : ServiceConfig) (request : ControlRequest) :
    QueueTriple .io (handleRequest config request) (Holds .io (some request.key)) (fun _ => Holds .io none)
      fun _ => Holds .io none := by
  have reply (error : ProtocolError) (message : String) :=
    triple_finishReply (t := .io) (by decide) request error message
  refine Watches.ite (fun _ => reply _ _) fun _ => ?_
  cases request.operation with
  | acquireLease =>
    refine Watches.bind ((quiet_clockNow .io).holds _ _) fun now => ?_
    refine Watches.bind (QuietProgram.holds ?_ _ _) fun acquired => ?_
    · exact Quiet.act rfl fun _ s => Quiet.step s (.acquire request.identity.clientId now)
    · cases acquired with
      | error failure => exact reply _ _
      | ok _ => exact reply _ _
  | heartbeat =>
    refine Watches.bind ((quiet_clockNow .io).holds _ _) fun now => ?_
    refine Watches.bind (QuietProgram.holds ?_ _ _) fun error => reply _ _
    exact Quiet.act rfl fun _ s =>
      Quiet.step s (.heartbeat request.identity.clientId request.leaseId request.identity.sequence now)
  | releaseLease =>
    refine Watches.bind (QuietProgram.holds ?_ _ _) fun answer => ?_
    · exact Quiet.act rfl fun _ s =>
        Quiet.step s (.release request.identity.clientId request.leaseId "lease released")
    · exact Watches.bind (triple_notifyLost _ answer.2) fun _ => reply _ _
  | _ => exact triple_handleQueued request

/-- A request is received. -/
theorem QueueInv.receive {s : Service} {g : Record} (inv : QueueInv (s, g)) (rests : g.held .io = none)
    (key : RequestKey) : QueueInv (s, { g with received := key :: g.received }.hold .io (some key)) where
  capacity := inv.capacity
  whole := inv.whole
  stopped := inv.stopped
  before := inv.before
  executed := inv.executed
  increasing := inv.increasing
  numbered := inv.numbered
  registered := inv.registered
  fresh := inv.fresh
  live := inv.live
  balanced key' := by
    have before := inv.balanced key'
    have mine : g.inHand .io key' = 0 := by rw [Record.inHand, rests]; rfl
    simp only [inHand_hold, if_true, reduceCtorEq, if_false] at before ⊢
    change (key :: g.received).count key' = _ + _ + [key].count key' + g.inHand .worker key' + g.lost.count key'
    rw [← List.singleton_append, List.count_append]
    omega

theorem triple_takeControlRequest (config : ServiceConfig) :
    QueueTriple .io (takeControlRequest config) (Holds .io none) (fun _ => Holds .io none)
      fun _ => Holds .io none := by
  refine Watches.bind (Q := fun sample => Holds .io (sample.map ControlRequest.key)) ?_ fun sample => ?_
  · refine Watches.atomic (fun _ => stable_holds _ _) fun i s g inv holds _ => ?_
    simp only [Record.see]
    cases i.request with
    | none =>
      exact ⟨QueueInv.tick inv i, guarantees_quiet (.of_log rfl rfl (fun _ => rfl) rfl)
        ⟨rfl, rfl, rfl, rfl, rfl, rfl, .inl rfl⟩, holds⟩
    | some request =>
      exact ⟨(QueueInv.tick inv i).receive holds request.key, fun u other => .settle other rfl rfl rfl rfl rfl
        fun u other => if_neg other, Record.held_hold ..⟩
  · cases sample with
    | none => exact Watches.ret fun _ _ holds => holds
    | some request => exact (triple_handleRequest config request).bind fun _ => Watches.ret fun _ _ holds => holds

theorem triple_publishState : QueueTriple .io publishState (Holds .io none) (fun _ => Holds .io none)
    fun _ => Holds .io none := by
  refine Watches.bind ((quiet_runtimeSnapshot .io).holds none _) fun runtime => ?_
  refine Watches.ite (fun _ => Watches.ret fun _ _ holds => holds) fun _ => ?_
  refine Watches.bind (QuietProgram.holds (Quiet.act rfl fun i s => ?_) none _) fun state => ?_
  · cases i.status with
    | ok _ => exact .of_log rfl rfl (replies_record (by rintro _ _ _ ⟨⟩)) rfl
    | error _ => exact .refl .io s
  cases state with
  | none => exact Watches.ret fun _ _ holds => holds
  | some arrived =>
    refine Watches.bind (Q := fun _ => Holds .io none) ?_ fun _ => ?_
    · refine Watches.await (fun _ => stable_holds _ _) (fun _ => stable_holds _ _) fun i s g inv holds _ => ?_
      have guarantees : queueDiscipline.Guarantees .io (s, g) (s.tick i, g) :=
        guarantees_quiet (.of_log rfl rfl (fun _ => rfl) rfl) ⟨rfl, rfl, rfl, rfl, rfl, rfl, .inl rfl⟩
      simp only [Record.see]
      cases i.status with
      | ok _ => exact ⟨QueueInv.tick inv i, guarantees, holds⟩
      | error _ => exact ⟨QueueInv.tick inv i, guarantees, holds⟩
    refine Watches.bind (Watches.when (fun _ => triple_finishPending (by decide) none _ _ _)
      fun _ _ _ holds => holds) fun _ => ?_
    exact QuietProgram.holds (Quiet.act rfl fun i s => .of_log rfl rfl (replies_record (by rintro _ _ _ ⟨⟩)) rfl)
      none _

theorem quiet_runReturns (t : Thread) : QuietProgram t runReturns :=
  quiet_act rfl (fun _ _ => rfl) (fun _ _ => rfl) (fun _ _ => rfl) fun _ _ => rfl

theorem triple_runIteration (config : ServiceConfig) :
    QueueTriple .io (runIteration config) (Holds .io none) (fun _ => Holds .io none) fun _ => Holds .io none := by
  refine Watches.tryCatch ?_ fun _ => (quiet_runReturns .io).holds none _
  refine Watches.bind (QuietProgram.holds (Quiet.await rfl (fun _ _ => ⟨_, rfl⟩) fun _ _ => rfl) none _)
    fun now => ?_
  refine Watches.bind (QuietProgram.holds (Quiet.act rfl fun _ s => Quiet.step s (.expireIfNeeded now)) none _)
    fun lost => ?_
  refine Watches.bind (triple_notifyLost none lost) fun _ => ?_
  refine Watches.bind (QuietProgram.holds (Quiet.act rfl fun _ s => .refl .io s) none _) fun count => ?_
  refine Watches.ite (fun _ => (quiet_runReturns .io).holds none _) fun _ => ?_
  refine Watches.bind (Q := fun _ => Holds .io none) (Watches.when (fun _ => ?_) fun _ _ _ holds => holds)
    fun _ => ?_
  · refine Watches.bind (Watches.loop (triple_takeControlRequest config) _) fun _ => ?_
    exact ((quiet_takeStreamCommand config).loop _).holds none _
  refine Watches.bind ((quiet_pump .io).holds none _) fun _ => ?_
  refine Watches.bind (QuietProgram.holds (Quiet.act rfl fun _ s => .refl .io s) none _) fun due => ?_
  exact Watches.when (fun _ => triple_publishState) fun _ _ _ holds => holds

/-- The control worker is told to stop: what waits in the queue is lost. -/
theorem QueueInv.stop {s : Service} {g : Record} (inv : QueueInv (s, g)) :
    QueueInv ({ s with controlWorkerStop := true, controlQueue := [] },
      { g with lost := s.controlQueue.map ControlRequest.key ++ g.lost }) where
  capacity := Nat.zero_le _
  whole running := by cases running
  stopped _ := rfl
  before := inv.before
  executed := inv.executed
  increasing := inv.increasing
  numbered := inv.numbered
  registered := inv.registered
  fresh := inv.fresh
  live := inv.live
  balanced key := by
    have before := inv.balanced key
    simp only [List.count_append, List.map_nil, List.count_nil] at before ⊢
    change g.received.count key = replies key s.log + 0 + g.inHand .io key + g.inHand .worker key + _
    omega

theorem triple_stopControlWorker : QueueTriple .io stopControlWorker (Holds .io none) (fun _ => Holds .io none)
    fun _ => Holds .io none := by
  refine Watches.bind (Q := fun _ => Holds .io none) ?_ fun _ => ?_
  · refine Watches.atomic (fun _ => stable_holds _ _) fun i s g inv holds _ => ?_
    exact ⟨(QueueInv.tick inv i).stop, fun u other => .settle other rfl rfl rfl rfl rfl fun _ _ => rfl, holds⟩
  · exact QuietProgram.holds (Quiet.await rfl (fun _ _ => ⟨_, rfl⟩) fun _ _ => rfl) none _

theorem triple_runShutdown :
    QueueTriple .io runShutdown (Holds .io none) (fun _ => Holds .io none) fun _ => Holds .io none := by
  refine Watches.bind (QuietProgram.holds (Quiet.await rfl (fun _ _ => ⟨_, rfl⟩) fun _ _ => rfl) none _) fun _ => ?_
  refine Watches.bind triple_stopControlWorker fun _ => ?_
  refine Watches.bind (QuietProgram.holds (Quiet.act rfl fun _ s => ?_) none _) fun lost => ?_
  · exact Quiet.step s (.revoke "runtime service is stopping")
  refine Watches.bind (triple_notifyLost none lost) fun _ => ?_
  refine Watches.bind (QuietProgram.holds ?_ none _) fun _ => ?_
  · exact quiet_act rfl (fun _ _ => rfl) (fun _ _ => rfl) (fun _ _ => rfl) fun _ _ => rfl
  refine Watches.bind ((quiet_runtimeSnapshot .io).holds none _) fun runtime => ?_
  refine Watches.bind (QuietProgram.holds (QuietProgram.when ?_) none _) fun _ =>
    (quiet_runReturns .io).holds none _
  refine QuietProgram.bind (Quiet.act rfl fun _ s => .applyOutcome .io s .cancel) fun _ => ?_
  refine Quiet.act rfl fun _ s => ?_
  split_ifs
  · exact .of_log rfl rfl (fun _ => rfl) rfl
  · exact .refl .io s

/-! ## The control worker -/

/-- The worker is at a request that it has taken and not yet executed. -/
structure TakenRequest (request : ControlRequest) (s : Service × Record) : Prop where
  holds : Holds .worker (some request.key) s
  next : (s.2.executed.map Execution.request ++ [request]).Sublist s.2.popped

theorem stable_takenRequest (request : ControlRequest) : queueDiscipline.Stable .worker (TakenRequest request) :=
  fun _ _ _ rely taken => ⟨rely.held.trans taken.holds, by
    rw [rely.executed rfl, rely.popped rfl]
    exact taken.next⟩

theorem steady_takenRequest (request : ControlRequest) : Steady .worker (TakenRequest request) := by
  intro s s' g g' quiet calm taken
  refine ⟨steady_holds _ _ s s' g g' quiet calm taken.holds, ?_⟩
  change (g'.executed.map Execution.request ++ [request]).Sublist g'.popped
  rw [calm.executed, calm.popped]
  exact taken.next

theorem QuietProgram.takenRequest {α : Type} {p : Program α} (quiet : QuietProgram .worker p)
    (request : ControlRequest) (E : String → Service × Record → Prop) :
    QueueTriple .worker p (TakenRequest request) (fun _ => TakenRequest request) E :=
  quiet _ (stable_takenRequest request) (steady_takenRequest request) E

/-- What the worker has read of the lease. -/
def Checked (check : Check) (s : Service × Record) : Prop := s.2.check = some check

theorem stable_checked (check : Check) : queueDiscipline.Stable .worker (Checked check) :=
  fun _ _ _ rely checked => (rely.check rfl).trans checked

theorem stable_and {t : Thread} {A B : Service × Record → Prop} (first : queueDiscipline.Stable t A)
    (second : queueDiscipline.Stable t B) : queueDiscipline.Stable t fun s => A s ∧ B s :=
  fun s s' inv rely both => ⟨first s s' inv rely both.1, second s s' inv rely both.2⟩

/-- The lease that the worker found was the one of the request. -/
def FoundLive (request : ControlRequest) (s : Service × Record) : Prop :=
  ∃ check, Checked check s ∧ check.Live request

theorem stable_foundLive (request : ControlRequest) : queueDiscipline.Stable .worker (FoundLive request) :=
  fun s s' inv rely ⟨check, checked, live⟩ => ⟨check, stable_checked check s s' inv rely checked, live⟩

theorem QueueInv.check {s : Service} {g : Record} (inv : QueueInv (s, g)) (check : Option Check) :
    QueueInv (s, { g with check }) :=
  QueueInv.settle inv rfl rfl rfl rfl rfl rfl inv.balanced

/-- The worker compares the lease with the request. -/
theorem triple_checkLease (request : ControlRequest) {A : Service × Record → Prop}
    (stable : queueDiscipline.Stable .worker A) (steady : Steady .worker A)
    (free : ∀ s g check, A (s, g) → A (s, { g with check })) {E : String → Service × Record → Prop} :
    QueueTriple .worker (checkLease request) A
      (fun lost s => A s ∧ (lost = false → FoundLive request s)) E := by
  refine Watches.bind (Q := fun lease s => A s ∧ Checked { lease } s) ?_ fun lease => ?_
  · refine Watches.atomic (fun lease => stable_and stable (stable_checked _)) fun i s g inv holds _ => ?_
    have quiet : Quiet .worker s (s.tick i) := .of_log rfl rfl (fun _ => rfl) rfl
    refine ⟨(QueueInv.tick inv i).check _, fun u other => ?_, free _ _ _ ?_, rfl⟩
    · exact ⟨rfl, fun _ => rfl, fun _ => .refl _, fun _ => rfl, fun _ => rfl, fun worker => absurd worker other⟩
    · exact steady _ _ _ _ quiet ⟨rfl, rfl, rfl, rfl, rfl, rfl, .inl rfl⟩ holds
  refine Watches.bind (Q := fun now s => A s ∧ Checked { lease, now := some now } s) ?_ fun now => ?_
  · refine Watches.atomic (fun now => stable_and stable (stable_checked _)) fun i s g inv both _ => ?_
    have quiet : Quiet .worker s (s.tick i) := .of_log rfl rfl (fun _ => rfl) rfl
    have calm := Record.calm_see .worker .clockNow i s (s.tick i) g rfl
    refine ⟨QueueInv.quiet inv quiet calm, guarantees_quiet quiet calm, steady _ _ _ _ quiet calm both.1, ?_⟩
    have checked : g.check = some { lease } := both.2
    simp only [Checked, Record.see, if_true, Record.readClock, checked, Option.map_some, Option.getD_none]
  · refine Watches.ret fun s _ both => ⟨both.1, fun kept => ⟨_, both.2, now, rfl, kept⟩⟩

/-- The request is executed only under its lease. -/
def Cleared (request : ControlRequest) (s : Service × Record) : Prop :=
  TakenRequest request s ∧ (request.Mutates → FoundLive request s)

theorem triple_lostInQueue (request : ControlRequest) {E : String → Service × Record → Prop} :
    QueueTriple .worker (lostInQueue request) (TakenRequest request)
      (fun lost s => TakenRequest request s ∧ (lost = false → Cleared request s)) E := by
  refine Watches.ite (fun query => ?_) fun _ => ?_
  · refine Watches.ret fun s _ taken => ⟨taken, fun _ => ⟨taken, fun mutates => ?_⟩⟩
    rw [ControlRequest.Mutates, query] at mutates
    cases mutates
  · refine (triple_checkLease request (stable_takenRequest request) (steady_takenRequest request)
      fun _ _ _ taken => ⟨taken.holds, taken.next⟩).post (fun lost s _ both => ?_) fun _ _ _ thrown => thrown
    exact ⟨both.1, fun kept => ⟨both.1, fun _ => both.2 kept⟩⟩

theorem quiet_execute (s : Service) (request : ControlRequest) (i : Input) :
    Quiet .worker s (s.execute request i).2 := by
  unfold Service.execute
  split
  · simp only
    split_ifs
    · exact .refl .worker s
    · exact .applyOutcome .worker s _
  · split_ifs
    · exact .refl .worker s
    · exact .of_log rfl rfl (replies_record (by rintro _ _ _ ⟨⟩)) rfl
    · exact .applyOutcome .worker s _
    · exact .applyOutcome .worker s _

/-- A request is executed. -/
theorem QueueInv.execute {s : Service} {g : Record} {request : ControlRequest} (inv : QueueInv (s, g))
    (next : (g.executed.map Execution.request ++ [request]).Sublist g.popped)
    (live : request.Mutates → ∃ check, g.check = some check ∧ check.Live request) :
    QueueInv (s, { g with executed := g.executed ++ [⟨request, g.check⟩] }) where
  capacity := inv.capacity
  whole := inv.whole
  stopped := inv.stopped
  before := inv.before
  executed := by
    rw [List.map_append]
    exact next
  increasing := inv.increasing
  numbered := inv.numbered
  registered := inv.registered
  fresh := inv.fresh
  live execution found mutates := by
    obtain found | same := List.mem_append.mp found
    · exact inv.live execution found mutates
    · obtain rfl := List.mem_singleton.mp same
      exact live mutates
  balanced := inv.balanced

theorem stable_cleared (request : ControlRequest) : queueDiscipline.Stable .worker (Cleared request) :=
  fun s s' inv rely both => ⟨stable_takenRequest request s s' inv rely both.1, fun mutates =>
    stable_foundLive request s s' inv rely (both.2 mutates)⟩

theorem triple_execute (request : ControlRequest) {E : String → Service × Record → Prop} :
    QueueTriple .worker (execute request) (Cleared request) (fun _ => Holds .worker (some request.key)) E := by
  refine Watches.atomic (fun _ => stable_holds _ _) fun i s g inv cleared _ => ?_
  have quiet : Quiet .worker s ((s.tick i).execute request i).2 :=
    have done := quiet_execute (s.tick i) request i
    ⟨done.queue, done.stop, done.answered, done.lease, done.same⟩
  have calm : g.Calm .worker g := ⟨rfl, rfl, rfl, rfl, rfl, rfl, .inl rfl⟩
  refine ⟨(QueueInv.quiet inv quiet calm).execute cleared.1.next fun mutates => ?_, fun u other => ?_,
    cleared.1.holds⟩
  · exact cleared.2 mutates
  · exact ⟨rfl, fun _ => rfl, fun _ => quiet.same (by decide), fun _ => rfl, fun worker => absurd worker other,
      fun _ => rfl⟩

theorem triple_finishMotionRequest (request : ControlRequest) (status : Except Failure Unit)
    (leaseError : ProtocolError) : QueueTriple .worker (finishMotionRequest request status leaseError)
      (Holds .worker (some request.key)) (fun _ => Holds .worker (some request.key)) fun _ => Holds .worker none := by
  have event := triple_publishMotionEvent' (t := .worker) (by decide) (some request.key) request.key
  refine Watches.ite (fun _ => ?_) fun _ => event _ _ _
  refine Watches.bind (event _ _ _) fun _ => Watches.bind (QuietProgram.holds ?_ _ _) fun _ => ?_
  · exact quiet_act rfl (fun _ _ => rfl) (fun _ _ => rfl) (fun _ _ => rfl) fun _ _ => rfl
  refine Watches.bind (triple_checkLease request (stable_holds _ _) (steady_holds _ _) fun _ _ _ holds => holds)
    fun lost => Watches.when (fun _ => ?_) fun _ _ _ both => both.1
  exact (triple_finishPending (by decide) _ _ _ _).pre fun _ _ both => both.1

theorem triple_finishMotion (request : ControlRequest) (status : Except Failure Unit) (leaseError : ProtocolError) :
    QueueTriple .worker (finishMotion request status leaseError) (Holds .worker (some request.key))
      (fun _ => Holds .worker (some request.key)) fun _ => Holds .worker none := by
  refine Watches.ite (fun _ => triple_finishMotionRequest request status leaseError) fun _ => ?_
  exact Watches.when (fun _ => triple_finishPending (by decide) _ _ _ _) fun _ _ _ holds => holds

theorem triple_replyAfter (request : ControlRequest) (status : Except Failure Unit) (leaseError : ProtocolError) :
    QueueTriple .worker (replyAfter request status leaseError) (Holds .worker (some request.key))
      (fun _ => Holds .worker none) fun _ => Holds .worker none := by
  refine Watches.bind ((quiet_replyMessage .worker request status).holds _ _) fun message => ?_
  exact Watches.ite (fun _ => triple_finishReply (by decide) request _ _) fun _ =>
    triple_finishReply (by decide) request _ _

theorem triple_executeOnRuntime (request : ControlRequest) (runtime : ℕ) :
    QueueTriple .worker (executeOnRuntime request runtime) (Cleared request) (fun _ => Holds .worker none)
      fun _ => Holds .worker none := by
  refine Watches.bind (triple_execute request) fun status => ?_
  refine Watches.bind ((quiet_refreshLease request).holds _ _) fun leaseError => ?_
  refine Watches.bind (triple_finishMotion request status leaseError) fun _ => ?_
  refine Watches.bind (triple_replyAfter request status leaseError) fun _ => ?_
  refine (QuietProgram.when ?_).holds none _
  exact quiet_act rfl (fun _ _ => rfl) (fun _ _ => rfl) (fun _ _ => rfl) fun _ _ => rfl

/-- The Runtime is looked up between the check of the lease and the execution: the worker reads the clock
again, but keeps its first reading. -/
theorem steady_cleared (request : ControlRequest) : Steady .worker (Cleared request) := by
  intro s s' g g' quiet calm ⟨taken, live⟩
  refine ⟨steady_takenRequest request s s' g g' quiet calm taken, fun mutates => ?_⟩
  obtain ⟨check, checked, now, read, kept⟩ := live mutates
  obtain same | ⟨-, later, rfl⟩ := calm.check
  · exact ⟨check, same.trans checked, now, read, kept⟩
  · have checked : g.check = some check := checked
    refine ⟨check, ?_, now, read, kept⟩
    simp only [Checked, Record.readClock, checked, Option.map_some, read, Option.getD_some]
    rw [← read]

theorem triple_executeQueuedRequest (config : ServiceConfig) (request : ControlRequest) :
    QueueTriple .worker (executeQueuedRequest config request) (TakenRequest request) (fun _ => Holds .worker none)
      fun _ => Holds .worker none := by
  have reply (error : ProtocolError) (message : String) :=
    triple_finishReply (t := .worker) (by decide) request error message
  refine Watches.bind (triple_lostInQueue request) fun lost => ?_
  refine Watches.ite (fun _ => (reply _ _).pre fun _ _ both => both.1.holds) fun kept => ?_
  refine Watches.ite (fun _ => (reply _ _).pre fun _ _ both => both.1.holds) fun _ => ?_
  refine Watches.pre (A := Cleared request) ?_ fun _ _ both => both.2 (eq_false_of_ne_true kept)
  refine Watches.bind (quiet_runtimeFor .worker config request _ (stable_cleared request) (steady_cleared request) _)
    fun runtime => ?_
  cases runtime with
  | some runtime => exact triple_executeOnRuntime request runtime
  | none =>
    refine Watches.bind (QuietProgram.holds (t := .worker) (Quiet.act rfl fun _ s => .refl .worker s) _ _ |>.pre
      fun _ _ cleared => cleared.1.holds) fun detail => ?_
    exact reply _ _

/-- The worker takes a request. -/
theorem QueueInv.pop {s : Service} {g : Record} {request : ControlRequest} {queue : List ControlRequest}
    (inv : QueueInv (s, g)) (running : s.controlWorkerStop = false) (waits : s.controlQueue = request :: queue)
    (rests : g.held .worker = none) : QueueInv ({ s with controlQueue := queue },
      { g with popped := g.popped ++ [request], check := none }.hold .worker (some request.key)) := by
  have whole : g.popped ++ [request] ++ queue = g.pushed := by
    rw [List.append_assoc]
    exact (congrArg (g.popped ++ ·) waits).symm.trans (inv.whole running)
  exact {
    capacity := by
      have capacity := inv.capacity
      simp only [waits, List.length_cons] at capacity
      exact (Nat.le_succ _).trans capacity
    whole := fun _ => whole
    stopped := fun stop => by cases running.symm.trans stop
    before := ⟨queue, whole⟩
    executed := inv.executed.trans (List.sublist_append_left ..)
    increasing := inv.increasing
    numbered := inv.numbered
    registered := inv.registered
    fresh := inv.fresh
    live := inv.live
    balanced := fun key => by
      have before := inv.balanced key
      have mine : g.inHand .worker key = 0 := by rw [Record.inHand, rests]; rfl
      simp only [waits, List.map_cons, inHand_hold, if_true, reduceCtorEq, if_false] at before ⊢
      change g.received.count key = replies key s.log + (queue.map ControlRequest.key).count key +
        g.inHand .io key + [request.key].count key + g.lost.count key
      rw [← List.singleton_append, List.count_append] at before
      omega }

/-- What the worker has after it looked at the queue. -/
def Popped : Option (Option ControlRequest) → Service × Record → Prop
  | some (some request) => TakenRequest request
  | _ => Holds .worker none

theorem stable_popped (answer : Option (Option ControlRequest)) : queueDiscipline.Stable .worker (Popped answer) := by
  obtain _ | _ | request := answer
  · exact stable_holds .worker none
  · exact stable_holds .worker none
  · exact stable_takenRequest request

theorem triple_popRequest : QueueTriple .worker
    (Proc.await .queuePop (fun s => !s.controlWorkerExited)
      fun i s => (.ok (s.tick i).popRequest.1, (s.tick i).popRequest.2)) (Holds .worker none) Popped
    fun _ => Holds .worker none := by
  refine Watches.await stable_popped (fun _ => stable_holds _ _) fun i s g inv holds _ => ?_
  have calm : g.Calm .worker g := ⟨rfl, rfl, rfl, rfl, rfl, rfl, .inl rfl⟩
  cases stop : s.controlWorkerStop with
  | true =>
    have stopping : (s.tick i).popRequest = (none, { s.tick i with controlWorkerExited := true }) := if_pos stop
    have quiet : Quiet .worker s { s.tick i with controlWorkerExited := true } := .of_log rfl rfl (fun _ => rfl) rfl
    simp only [stopping, Record.see, stop, if_true]
    exact ⟨QueueInv.quiet inv quiet calm, guarantees_quiet quiet calm, holds⟩
  | false =>
    cases waits : s.controlQueue with
    | nil =>
      have empty : (s.tick i).popRequest = (some none, s.tick i) := by
        simp only [Service.popRequest, Service.tick, stop, waits, Bool.false_eq_true, if_false]
      have quiet : Quiet .worker s (s.tick i) := .of_log rfl rfl (fun _ => rfl) rfl
      simp only [empty, Record.see, stop, waits, Bool.false_eq_true, if_false, List.head?_nil, Option.elim_none]
      exact ⟨QueueInv.quiet inv quiet calm, guarantees_quiet quiet calm, holds⟩
    | cons request queue =>
      have taken : (s.tick i).popRequest = (some (some request), { s.tick i with controlQueue := queue }) := by
        simp only [Service.popRequest, Service.tick, stop, waits, Bool.false_eq_true, if_false]
      simp only [taken, Record.see, stop, waits, Bool.false_eq_true, if_false, List.head?_cons, Option.elim_some]
      refine ⟨(QueueInv.tick inv i).pop stop waits holds, fun u other => ?_, Record.held_hold .., ?_⟩
      · exact ⟨if_neg other, fun _ => rfl, fun _ => .refl _, fun worker => absurd worker other, fun _ => rfl,
          fun worker => absurd worker other⟩
      · exact inv.executed.append (List.Sublist.refl [request])

theorem triple_controlWorkerIteration (config : ServiceConfig) :
    QueueTriple .worker (controlWorkerIteration config) (Holds .worker none) (fun _ => Holds .worker none)
      fun _ => Holds .worker none := by
  refine Watches.bind triple_popRequest fun answer => ?_
  obtain _ | _ | request := answer
  · exact Watches.ret fun _ _ holds => holds
  · exact ((quiet_clockNow .worker).bind fun now => quiet_ensureRuntime .worker config now).holds none _
  · refine Watches.bind (Q := fun _ => TakenRequest request) (QuietProgram.takenRequest ?_ request _) fun _ => ?_
    · exact quiet_act rfl (fun _ _ => rfl) (fun _ _ => rfl) (fun _ _ => rfl) fun _ _ => rfl
    refine Watches.bind (Watches.tryCatch (triple_executeQueuedRequest config request) fun error => ?_) fun _ => ?_
    · refine QuietProgram.holds ?_ none _
      exact quiet_act rfl (fun _ _ => rfl) (fun _ _ => rfl) (fun _ _ => rfl) fun _ _ => rfl
    · refine QuietProgram.holds ?_ none _
      exact quiet_act rfl (fun _ _ => rfl) (fun _ _ => rfl) (fun _ _ => rfl) fun _ _ => rfl

/-! ## All runs -/

theorem governs_queue (config : ServiceConfig) : queueDiscipline.Governs (watched config) where
  start := {
    capacity := Nat.zero_le _
    whole := fun _ => rfl
    stopped := fun stop => by cases stop
    before := List.prefix_rfl
    executed := .slnil
    increasing := .nil
    numbered := fun _ found => by cases found
    registered := fun _ found => by cases found
    fresh := fun _ held => by cases held
    live := fun _ found => by cases found
    balanced := fun _ => rfl }
  rests _ := rfl
  resting t := stable_holds t none
  body op := by
    cases op with
    | runIteration => exact triple_runIteration config
    | runShutdown => exact triple_runShutdown
    | controlWorkerIteration => exact triple_controlWorkerIteration config
    | runtimeStep =>
      have step : QuietProgram .runtime runtimeStep := Quiet.act rfl fun i s => .applyOutcome .runtime s i.outcome
      exact step.holds none _

/-- In every run the control queue is disciplined, and a thread that is idle has no request in hand. -/
theorem disciplined_of_reach (config : ServiceConfig) {c : Config Thread (Service × Record) Input Site String}
    (reach : (watched config).Reach (fun _ _ _ _ => True) c) :
    Disciplined c.shared ∧ ∀ t, c.slots t = none → c.shared.2.held t = none :=
  ⟨((governs_queue config).inv_of_reach reach).disciplined, fun _ idle =>
    (governs_queue config).rest_of_idle reach idle⟩

/-- A client acquires the lease and enables the robot. -/
def Scenario.enableOnce : List (Move Thread Input Op) :=
  connect ++
  .start .runIteration :: go .io 2 ++ io { count := 1 } ++ io { request := some (acquire "a") } ++ go .io 3 ++
    io { request := some enable } ++ go .io 3 ++
  .start .controlWorkerIteration :: go .worker 10

theorem disciplined_of_reach_enabled : ∃ c : Config Thread (Service × Record) Input Site String,
    c.shared.2.executed.map Execution.request = [Scenario.enable] ∧ Disciplined c.shared ∧
      ∀ t, c.slots t = none → c.shared.2.held t = none := by
  obtain ⟨c, reach, executed⟩ : ∃ c, (watched Scenario.config).Reach (fun _ _ _ _ => True) c ∧
      c.shared.2.executed.map Execution.request = [Scenario.enable] := (watched Scenario.config).exists_reach_of_run
    (fun _ _ _ _ => true) (fun s => s.2.executed.map Execution.request) Scenario.enableOnce (fun _ _ _ _ _ => trivial)
    (show _ = some [Scenario.enable] by decide)
  exact ⟨c, executed, disciplined_of_reach Scenario.config reach⟩

/-- The queue of the service never holds more than 32 requests. -/
theorem capacity_of_reach (config : ServiceConfig) {c : Config Thread Service Input Site String}
    (reach : (service config).Reach (fun _ _ _ _ => True) c) :
    c.shared.controlQueue.length ≤ kControlQueueCapacity := by
  obtain ⟨d, watched, shows⟩ := Machine.exists_watched Record.see {} reach
  rw [← shows.shared]
  exact ((governs_queue config).inv_of_reach watched).capacity

end MotorDrive.Dds
