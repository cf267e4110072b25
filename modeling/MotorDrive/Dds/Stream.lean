import MotorDrive.Dds.Neutral

/-!
# The path of streamed commands

A stream command is authorized when the I/O thread receives it and handed to the Runtime later, by
`pump_latest`, from the one-slot mailbox.  Only the I/O thread touches the mailbox, and the control
worker changes nothing of the lease but its expiry, so what the worker and the Runtime do between two
sections of the I/O thread leaves everything that delivery depends on alone (`StreamSame`).

`streamDiscipline` and `governs_stream` turn that into a rule: a property of delivery holds in every
run once the operations of the I/O thread keep it.  `StreamRecord` is the part of such a property that
ties the log to the lease: numbers and sequences in the log are behind the lease's registers.
-/

namespace MotorDrive.Dds

open Threads Threads.Discipline History Proc

/-- The entries of the log about stream commands. -/
def Event.isStream : Event → Bool
  | .authorized _ | .pumped .. => true
  | _ => false

namespace Service

/-- What the log says about stream commands. -/
def streamLog (s : Service) : List Event := s.log.filter Event.isStream

theorem streamLog_record_stream {s : Service} {e : Event} (stream : e.isStream = true) :
    (s.record e).streamLog = e :: s.streamLog := by
  simp [streamLog, record, stream]

theorem streamLog_record_other {s : Service} {e : Event} (other : e.isStream = false) :
    (s.record e).streamLog = s.streamLog := by
  simp [streamLog, record, other]

end Service

open Service

/-- Nothing that delivery depends on differs, and the clock has not gone back. -/
structure StreamSame (s s' : Service) : Prop where
  mailbox : s'.mailbox = s.mailbox
  owner : s'.lease.owner = s.lease.owner
  sequence : s'.lease.lastStreamSequence = s.lease.lastStreamSequence
  next : s'.lease.nextLeaseId = s.lease.nextLeaseId
  log : s'.streamLog = s.streamLog
  clock : s.now ≤ s'.now

theorem StreamSame.refl (s : Service) : StreamSame s s := ⟨rfl, rfl, rfl, rfl, rfl, le_rfl⟩

theorem StreamSame.trans {s s' s'' : Service} (first : StreamSame s s')
    (second : StreamSame s' s'') : StreamSame s s'' :=
  ⟨second.mailbox.trans first.mailbox, second.owner.trans first.owner,
    second.sequence.trans first.sequence, second.next.trans first.next,
    second.log.trans first.log, first.clock.trans second.clock⟩

theorem streamSame_tick (s : Service) (i : Input) : StreamSame s (s.tick i) :=
  ⟨rfl, rfl, rfl, rfl, rfl, Nat.le_add_right _ _⟩

theorem streamSame_applyOutcome (s : Service) (o : Outcome) : StreamSame s (s.applyOutcome o) := by
  unfold Service.applyOutcome
  split
  · exact .refl s
  · split_ifs
    · exact .refl s
    · exact ⟨rfl, rfl, rfl, rfl, streamLog_record_other rfl, le_rfl⟩

theorem streamSame_lease {s : Service} {lease : LeaseManager} (owner : lease.owner = s.lease.owner)
    (sequence : lease.lastStreamSequence = s.lease.lastStreamSequence)
    (next : lease.nextLeaseId = s.lease.nextLeaseId) : StreamSame s (s.setLease lease) :=
  ⟨rfl, owner, sequence, next, rfl, le_rfl⟩

/-- A request on the control channel leaves the stream channel alone. -/
theorem streamSame_authorize_control (s : Service) (clientId : String) (leaseId sequence : ℕ)
    (refresh : Bool) (now : Time) : StreamSame s
      (s.setLease (s.lease.authorize clientId leaseId sequence .control refresh now).1) := by
  rcases LeaseManager.authorize_cases s.lease
    ⟨clientId, leaseId, sequence, .control, refresh, now⟩ with out | out | ⟨out, -⟩
  · rw [out]
    exact .refl s
  · rw [out]
    exact .refl s
  · rw [out]
    refine streamSame_lease (by simp) ?_ (by simp)
    exact LeaseManager.lastSequence_accept s.lease _ .stream

theorem streamSame_refreshAfterControl (s : Service) (clientId : String) (leaseId : ℕ) (now : Time) :
    StreamSame s (s.setLease (s.lease.refreshAfterControl clientId leaseId now).1) := by
  unfold LeaseManager.refreshAfterControl
  split_ifs
  · exact streamSame_lease (by simp) rfl rfl
  · exact .refl s

theorem streamLog_of_log {s s' : Service} (log : s'.log = s.log) : s'.streamLog = s.streamLog := by
  rw [streamLog, log, streamLog]

/-- Neutral sections leave delivery alone. -/
theorem neutral_streamSame : Neutral StreamSame where
  tick s i _ same := (streamSame_tick s i).trans same
  frame _ _ frame := ⟨frame.mailbox, by rw [frame.lease], by rw [frame.lease], by rw [frame.lease],
    streamLog_of_log frame.log, frame.now.ge⟩
  reply _ _ _ _ := ⟨rfl, rfl, rfl, rfl, streamLog_record_other rfl, le_rfl⟩
  outcome := streamSame_applyOutcome
  motion _ _ := ⟨rfl, rfl, rfl, rfl, streamLog_record_other rfl, le_rfl⟩
  control := streamSame_authorize_control
  refresh := streamSame_refreshAfterControl

/-! ## Programs that leave delivery alone -/

/-- Every section leaves alone what delivery depends on. -/
abbrev StreamQuiet {α : Type} (p : Program α) : Prop := p.Every (Along StreamSame)

theorem quiet_publishMotionEvent (t : Thread) (key : RequestKey) (kind : MotionEventKind)
    (error : ProtocolError) (message : String) :
    StreamQuiet (publishMotionEvent t key kind error message) := by
  refine neutral_streamSame.actThrow fun i s => ?_
  unfold publish
  cases i.status with
  | ok _ => exact ⟨rfl, rfl, rfl, rfl, streamLog_record_other rfl, le_rfl⟩
  | error _ => exact .refl s

theorem quiet_finishPendingMotion (t : Thread) (kind : MotionEventKind) (error : ProtocolError)
    (message : String) : StreamQuiet (finishPendingMotion t kind error message) := by
  refine every_bind (neutral_streamSame.act fun i s => ?_) fun pending => ?_
  · split_ifs
    · exact .refl s
    · exact ⟨rfl, rfl, rfl, rfl, rfl, le_rfl⟩
  · cases pending with
    | none => trivial
    | some key => exact quiet_publishMotionEvent ..

theorem quiet_finishMotion (request : ControlRequest) (status : Except Failure Unit)
    (leaseError : ProtocolError) : StreamQuiet (finishMotion request status leaseError) := by
  refine every_ite (every_ite ?_ (quiet_publishMotionEvent ..))
    (every_when (quiet_finishPendingMotion ..))
  refine every_bind (quiet_publishMotionEvent ..) fun _ => ?_
  refine every_bind (neutral_streamSame.act fun _ _ => ⟨rfl, rfl, rfl, rfl, rfl, le_rfl⟩) fun _ => ?_
  exact every_bind (neutral_streamSame.checkLease request) fun _ =>
    every_when (quiet_finishPendingMotion ..)

theorem quiet_executeQueuedRequest (config : ServiceConfig) (request : ControlRequest) :
    StreamQuiet (executeQueuedRequest config request) := by
  have neutral := neutral_streamSame
  refine every_bind (every_ite trivial (neutral.checkLease request)) fun lost => ?_
  refine every_ite (neutral.finishReply ..) (every_ite (neutral.finishReply ..) ?_)
  refine every_bind (neutral.runtimeFor config request) fun runtime => ?_
  cases runtime with
  | none => exact every_bind (neutral.act fun _ s => .refl s) fun _ => neutral.finishReply ..
  | some runtime =>
    refine every_bind (neutral.execute request) fun status => ?_
    refine every_bind (neutral.refreshLease request) fun leaseError => ?_
    refine every_bind (quiet_finishMotion ..) fun _ => every_bind (neutral.replyAfter ..) fun _ => ?_
    exact every_when (neutral.act fun _ _ => ⟨rfl, rfl, rfl, rfl, rfl, le_rfl⟩)

/-- The control worker leaves delivery alone. -/
theorem quiet_controlWorkerIteration (config : ServiceConfig) :
    StreamQuiet (controlWorkerIteration config) := by
  have neutral := neutral_streamSame
  refine every_bind (every_await fun i s => (streamSame_tick s i).trans (neutral.popRequest _))
    fun request => ?_
  match request with
  | none => trivial
  | some none => exact every_bind neutral.clockNow fun now => neutral.ensureRuntime config now
  | some (some request) =>
    refine every_bind (neutral.act fun _ _ => ⟨rfl, rfl, rfl, rfl, rfl, le_rfl⟩) fun _ => ?_
    refine every_bind (every_tryCatch (quiet_executeQueuedRequest config request) fun _ => ?_)
      fun _ => neutral.act fun _ _ => ⟨rfl, rfl, rfl, rfl, rfl, le_rfl⟩
    exact neutral.act fun _ _ => ⟨rfl, rfl, rfl, rfl, rfl, le_rfl⟩

theorem quiet_publishState : StreamQuiet publishState := by
  have neutral := neutral_streamSame
  refine every_bind neutral.runtimeSnapshot fun runtime => every_ite trivial ?_
  refine every_bind (neutral.act fun i s => ?_) fun state => ?_
  · cases i.status with
    | ok _ => exact ⟨rfl, rfl, rfl, rfl, streamLog_record_other rfl, le_rfl⟩
    | error _ => exact .refl s
  · cases state with
    | none => trivial
    | some arrived =>
      refine every_bind (neutral.actThrow fun i s => ?_) fun _ => ?_
      · cases i.status <;> exact .refl s
      · exact every_bind (every_when (quiet_finishPendingMotion ..)) fun _ => neutral.act fun _ s =>
          ⟨rfl, rfl, rfl, rfl, streamLog_record_other rfl, le_rfl⟩

/-! ## Disciplines of the I/O thread -/

/-- A discipline in which only the I/O thread makes assumptions: an invariant, what holds between two
of its iterations, and the sections it takes. -/
def streamDiscipline (inv rest : Service → Prop) (allowed : Site → Input → Service → Prop) :
    Discipline Thread Service Input Site where
  inv := inv
  rely t s s' := t = .io → StreamSame s s'
  allowed _ := allowed
  rest t s := t = .io → rest s

section Discipline

variable {inv rest : Service → Prop} {allowed : Site → Input → Service → Prop} {α : Type}
  {p : Program α} {A : Service → Prop}

/-- An assertion that survives what leaves delivery alone. -/
def StreamStable (A : Service → Prop) : Prop := ∀ s s', StreamSame s s' → A s → A s'

theorem stable_io (stable : StreamStable A) : (streamDiscipline inv rest allowed).Stable .io A :=
  fun s s' _ rely holds => stable s s' (rely rfl) holds

theorem guarantees_io (s s' : Service) : (streamDiscipline inv rest allowed).Guarantees .io s s' :=
  fun _ other => fun same => absurd same other

/-- A program that leaves delivery alone keeps every stable assertion. -/
theorem triple_quiet (kept : StreamStable inv) (stable : StreamStable A)
    (quiet : StreamQuiet p) :
    (streamDiscipline inv rest allowed).Triple .io p A (fun _ => A) fun _ => A := by
  refine .of_every (stable_io stable) (quiet.mono fun _ _ f same i s holds holdsA _ _ => ?_)
  exact ⟨kept _ _ (same i s) holds, guarantees_io _ _, stable _ _ (same i s) holdsA⟩

/-- A section of the I/O thread, with the clock moved on. -/
theorem triple_act {site : Site} {f : Input → Service → α × Service} {Q : α → Service → Prop}
    {E : String → Service → Prop} (kept : StreamStable inv) (stable : StreamStable A)
    (stablePost : ∀ a, StreamStable (Q a))
    (sound : ∀ i s, inv (s.tick i) → A (s.tick i) → allowed site i s →
      inv (f i (s.tick i)).2 ∧ Q (f i (s.tick i)).1 (f i (s.tick i)).2) :
    (streamDiscipline inv rest allowed).Triple .io (act site f) A Q E := by
  refine .atomic (fun a => stable_io (stablePost a)) fun i s holds holdsA permitted => ?_
  have same := streamSame_tick s i
  obtain ⟨holds', post⟩ := sound i s (kept _ _ same holds) (stable _ _ same holdsA) permitted
  exact ⟨holds', guarantees_io _ _, post⟩

/-- A thread other than the I/O thread that leaves delivery alone. -/
theorem triple_other {t : Thread} (other : t ≠ .io) (kept : StreamStable inv)
    (quiet : StreamQuiet p) :
    (streamDiscipline inv rest allowed).Triple t p (fun s => t = .io → rest s)
      (fun _ s => t = .io → rest s) fun _ s => t = .io → rest s := by
  refine .of_every (fun _ _ _ _ _ same => absurd same other)
    (quiet.mono fun _ _ f same i s holds _ _ _ => ?_)
  exact ⟨kept _ _ (same i s) holds, fun _ _ _ => same i s, fun same => absurd same other⟩

theorem triple_io {p : Program Unit} (triple : (streamDiscipline inv rest allowed).Triple .io p rest
    (fun _ => rest) fun _ => rest) :
    (streamDiscipline inv rest allowed).Triple .io p (fun s => Thread.io = .io → rest s)
      (fun _ s => Thread.io = .io → rest s) fun _ s => Thread.io = .io → rest s := by
  refine triple.conseq ?_ ?_ ?_
  · intro s _ holds
    exact holds rfl
  · intro _ s _ holds _
    exact holds
  · intro _ s _ holds _
    exact holds

/-- What is left to show of a discipline: how the I/O thread's two operations behave. -/
theorem governs_stream {config : ServiceConfig} (kept : StreamStable inv) (stable : StreamStable rest)
    (start : inv (service config).start) (rests : rest (service config).start)
    (iteration : (streamDiscipline inv rest allowed).Triple .io (runIteration config) rest
      (fun _ => rest) fun _ => rest)
    (shutdown : (streamDiscipline inv rest allowed).Triple .io runShutdown rest
      (fun _ => rest) fun _ => rest) :
    (streamDiscipline inv rest allowed).Governs (service config) where
  start := start
  rests _ _ := rests
  resting _ := fun s s' _ rely holds same => stable s s' (rely same) (holds same)
  body op := by
    cases op with
    | runIteration => exact triple_io iteration
    | runShutdown => exact triple_io shutdown
    | controlWorkerIteration =>
      exact triple_other (t := .worker) (by decide) kept (quiet_controlWorkerIteration config)
    | runtimeStep => exact triple_other (t := .runtime) (by decide) kept neutral_streamSame.runtimeStep

end Discipline

/-! ## What the log and the lease say about each other -/

/-- The numbers and sequences of the log are behind the lease's counter and stream register. -/
structure StreamRecord (s : Service) : Prop where
  next : ∀ clientId leaseId, s.lease.owner = some (clientId, leaseId) →
    s.lease.nextLeaseId = leaseId + 1
  bound : ∀ command, .authorized command ∈ s.streamLog → command.leaseId < s.lease.nextLeaseId
  register : ∀ command clientId, .authorized command ∈ s.streamLog →
    s.lease.owner = some (clientId, command.leaseId) →
    ∃ last, s.lease.lastStreamSequence = some last ∧ command.identity.sequence ≤ last

theorem streamStable_record : StreamStable StreamRecord := by
  intro s s' same record
  constructor
  · simpa only [same.owner, same.next] using record.next
  · simpa only [same.log, same.next] using record.bound
  · simpa only [same.log, same.owner, same.sequence] using record.register

theorem StreamRecord.of_eq {s s' : Service} (record : StreamRecord s) (lease : s'.lease = s.lease)
    (log : s'.streamLog = s.streamLog) : StreamRecord s' := by
  constructor
  · simpa only [lease] using record.next
  · simpa only [log, lease] using record.bound
  · simpa only [log, lease] using record.register

theorem StreamRecord.reset {s : Service} (record : StreamRecord s) :
    StreamRecord (s.setLease s.lease.reset) where
  next := nofun
  bound := record.bound
  register _ _ _ := nofun

theorem StreamRecord.issue {s : Service} (record : StreamRecord s) (clientId : String) (now : Time) :
    StreamRecord (s.setLease (s.lease.issue clientId now)) where
  next clientId' leaseId owner := by
    simp only [setLease, LeaseManager.owner, LeaseManager.issue, LeaseManager.newLease,
      Option.map_some, Option.some.injEq, Prod.mk.injEq] at owner
    simp only [setLease, LeaseManager.issue]
    omega
  bound command found := by
    have := record.bound command found
    simp only [setLease, LeaseManager.issue]
    omega
  register command clientId' found owner := by
    have := record.bound command found
    simp only [setLease, LeaseManager.owner, LeaseManager.issue, LeaseManager.newLease,
      Option.map_some, Option.some.injEq, Prod.mk.injEq] at owner
    omega

/-- The request a stream command makes of the lease. -/
def StreamCommand.request (command : StreamCommand) : LeaseManager.Request :=
  ⟨command.identity.clientId, command.leaseId, command.identity.sequence, .stream, true,
    command.receivedAt⟩

/-- The service after it has authorized a stream command. -/
def Service.acceptStream (s : Service) (command : StreamCommand) : Service :=
  (s.setLease (s.lease.accept command.request)).record (.authorized command)

theorem streamLog_acceptStream (s : Service) (command : StreamCommand) :
    (s.acceptStream command).streamLog = .authorized command :: s.streamLog :=
  streamLog_record_stream rfl

theorem owner_acceptStream (s : Service) (command : StreamCommand) :
    (s.acceptStream command).lease.owner = s.lease.owner :=
  LeaseManager.owner_accept ..

theorem lastStreamSequence_acceptStream (s : Service) (command : StreamCommand) :
    (s.acceptStream command).lease.lastStreamSequence = some command.identity.sequence :=
  LeaseManager.lastSequence_accept s.lease command.request .stream

theorem nextLeaseId_acceptStream (s : Service) (command : StreamCommand) :
    (s.acceptStream command).lease.nextLeaseId = s.lease.nextLeaseId :=
  LeaseManager.nextLeaseId_accept ..

theorem owner_of_admissible {s : Service} {command : StreamCommand} {lease : LeaseSnapshot}
    (admissible : s.lease.Admissible command.request lease) :
    s.lease.owner = some (command.identity.clientId, command.leaseId) := by
  have client : lease.clientId = command.identity.clientId := admissible.client
  have number : lease.leaseId = command.leaseId := admissible.number
  simp [LeaseManager.owner, admissible.active, client, number]

/-- An authorized command is past every one authorized under its lease before. -/
theorem StreamRecord.sequence_lt {s : Service} (record : StreamRecord s) {command : StreamCommand}
    {lease : LeaseSnapshot} (admissible : s.lease.Admissible command.request lease)
    {command' : StreamCommand} (found : .authorized command' ∈ s.streamLog)
    (same : command'.leaseId = command.leaseId) :
    command'.identity.sequence < command.identity.sequence := by
  obtain ⟨last, register, bound⟩ := record.register command' command.identity.clientId found
    (same ▸ owner_of_admissible admissible)
  have : last < command.identity.sequence := admissible.newer last register
  omega

theorem StreamRecord.accept {s : Service} (record : StreamRecord s) {command : StreamCommand}
    {lease : LeaseSnapshot} (admissible : s.lease.Admissible command.request lease) :
    StreamRecord (s.acceptStream command) where
  next := by
    rw [owner_acceptStream, nextLeaseId_acceptStream]
    exact record.next
  bound command' found := by
    rw [streamLog_acceptStream] at found
    rw [nextLeaseId_acceptStream]
    rcases List.mem_cons.mp found with new | old
    · obtain rfl := Event.authorized.inj new
      have := record.next _ _ (owner_of_admissible admissible)
      omega
    · exact record.bound command' old
  register command' clientId found owner := by
    rw [streamLog_acceptStream] at found
    rw [owner_acceptStream, owner_of_admissible admissible, Option.some.injEq, Prod.mk.injEq] at owner
    rw [lastStreamSequence_acceptStream]
    refine ⟨_, rfl, ?_⟩
    rcases List.mem_cons.mp found with new | old
    · obtain rfl := Event.authorized.inj new
      exact le_rfl
    · exact (record.sequence_lt admissible old owner.2.symm).le

/-- The three outcomes of the authorization of a stream command. -/
theorem authorize_stream_cases (s : Service) (command : StreamCommand) :
    (∃ error, error ≠ .ok ∧ s.lease.authorize command.identity.clientId command.leaseId
      command.identity.sequence .stream true command.receivedAt = (s.lease, error)) ∨
    (s.lease.authorize command.identity.clientId command.leaseId command.identity.sequence .stream
      true command.receivedAt = (s.lease.accept command.request, .ok) ∧
      ∃ lease, s.lease.Admissible command.request lease) := by
  rcases LeaseManager.authorize_cases s.lease command.request with out | out | out
  · exact Or.inl ⟨_, by decide, out⟩
  · exact Or.inl ⟨_, by decide, out⟩
  · exact Or.inr out

/-- A pump leaves the record alone. -/
theorem StreamRecord.pumped {s : Service} (record : StreamRecord s) (now : Time)
    (active : Option LeaseSnapshot) (runtime : Bool) (delivered : Option StreamCommand) :
    StreamRecord (s.record (.pumped now active runtime delivered)) := by
  have log : (s.record (.pumped now active runtime delivered)).streamLog =
    .pumped now active runtime delivered :: s.streamLog := streamLog_record_stream rfl
  have old : ∀ c, Event.authorized c ∈ Event.pumped now active runtime delivered :: s.streamLog →
      Event.authorized c ∈ s.streamLog := fun c found => by simpa using found
  constructor
  · exact record.next
  · rw [log]
    exact fun c found => record.bound c (old c found)
  · rw [log]
    exact fun c clientId found => record.register c clientId (old c found)

/-- What the Runtime answers to a delivery leaves the rest alone. -/
theorem streamSame_afterDelivery (s : Service) (now : Time) (command : StreamCommand) (i : Input) :
    StreamSame (s.record (.pumped now s.lease.active true (some command)))
      (s.deliver now command i).2 := by
  unfold Service.deliver
  refine (streamSame_applyOutcome _ i.outcome).trans ?_
  cases i.status with
  | ok _ => exact .refl _
  | error _ => exact ⟨rfl, rfl, rfl, rfl, rfl, le_rfl⟩

/-! ## Properties of the I/O thread -/

/-- No lease is active. -/
def LeaseEnded (s : Service) : Prop := s.lease.owner = none

theorem streamStable_leaseEnded : StreamStable LeaseEnded := fun _ _ same ended =>
  same.owner.trans ended

/-- What a discipline has to show of the sections that touch the lease or the mailbox. -/
structure StreamRules (inv rest : Service → Prop) (allowed : Site → Input → Service → Prop) :
    Prop where
  inv_stable : StreamStable inv
  rest_stable : StreamStable rest
  reset : ∀ s, inv s → inv (s.setLease s.lease.reset)
  clear : ∀ s, inv s → LeaseEnded s →
    inv { s with mailbox := s.mailbox.clear } ∧ rest { s with mailbox := s.mailbox.clear }
  issue : ∀ clientId now i s, inv (s.tick i) → rest (s.tick i) →
    allowed (.leaseAcquire clientId now) i s → LeaseManager.validClientId clientId →
    (∀ lease, s.lease.active = some lease → lease.expiresAt ≤ now) →
    inv ((s.tick i).setLease (s.lease.issue clientId now)) ∧
      rest ((s.tick i).setLease (s.lease.issue clientId now))
  receive : ∀ command, (streamDiscipline inv rest allowed).Triple .io (authorizeAndStore command)
    rest (fun _ => rest) fun _ => rest
  pump : (streamDiscipline inv rest allowed).Triple .io pumpLatest rest (fun _ => rest) fun _ => rest

namespace StreamRules

variable {inv rest : Service → Prop} {allowed : Site → Input → Service → Prop}

/-- A program of the I/O thread that keeps what holds between two iterations. -/
def Keeps (inv rest : Service → Prop) (allowed : Site → Input → Service → Prop) {α : Type}
    (p : Program α) : Prop :=
  (streamDiscipline inv rest allowed).Triple .io p rest (fun _ => rest) fun _ => rest

section

variable (rules : StreamRules inv rest allowed)
include rules

theorem keeps_quiet {α : Type} {p : Program α} (quiet : StreamQuiet p) :
    Keeps inv rest allowed p :=
  triple_quiet rules.inv_stable rules.rest_stable quiet

/-- The lost callback empties the mailbox before anything else. -/
theorem onLost (reason : String) :
    (streamDiscipline inv rest allowed).Triple .io (onLost reason) LeaseEnded
      (fun _ s => LeaseEnded s ∧ rest s) fun _ => rest := by
  have stable : StreamStable fun s => LeaseEnded s ∧ rest s := fun s s' same holds =>
    ⟨streamStable_leaseEnded s s' same holds.1, rules.rest_stable s s' same holds.2⟩
  refine Triple.bind (Q := fun _ s => LeaseEnded s ∧ rest s) ?_ fun _ => ?_
  · refine triple_act rules.inv_stable streamStable_leaseEnded (fun _ => stable)
      fun i s holds ended _ => ?_
    obtain ⟨holds', rests⟩ := rules.clear _ holds ended
    exact ⟨holds', ended, rests⟩
  · have quiet : (do
        let runtime ← runtimeSnapshot
        Proc.when runtime.isSome (act .onControlLost fun _ s => ((), s.applyOutcome .cancel))
        cancelPendingMotion .io .noLease reason : Program Unit).Every (Along StreamSame) := by
      refine every_bind neutral_streamSame.runtimeSnapshot fun runtime => ?_
      exact every_bind (every_when (neutral_streamSame.act fun _ s => streamSame_applyOutcome s _)) fun _ =>
        quiet_finishPendingMotion ..
    refine (triple_quiet rules.inv_stable stable quiet).conseq ?_ ?_ ?_
    · exact fun _ _ holds => holds
    · exact fun _ _ _ holds => holds
    · exact fun _ _ _ holds => holds.2

/-- A lease operation either changes nothing or ends the lease and tells so. -/
theorem lossy {α : Type} {site : Site} {f : Service → α × Service} (lost : α → Option String)
    (cases : ∀ s, (lost (f s).1 = none ∧ (f s).2 = s) ∨
      (∃ reason, lost (f s).1 = some reason) ∧ (f s).2 = s.setLease s.lease.reset)
    {p : α → Program Unit} (later : ∀ a, Keeps inv rest allowed (p a)) :
    Keeps inv rest allowed (do
      let a ← act site fun _ s => f s
      notifyLost (lost a)
      p a) := by
  refine Triple.bind (Q := fun a s => (lost a).elim (rest s) fun _ => LeaseEnded s) ?_
    fun a => Triple.bind (Q := fun _ => rest) ?_ fun _ => later a
  · refine triple_act rules.inv_stable rules.rest_stable (fun a => ?_) fun i s holds rests _ => ?_
    · cases lost a with
      | none => exact rules.rest_stable
      | some _ => exact streamStable_leaseEnded
    · rcases cases (s.tick i) with ⟨none, same⟩ | ⟨⟨reason, some⟩, ended⟩
      · rw [none, same]
        exact ⟨holds, rests⟩
      · rw [some, ended]
        exact ⟨rules.reset _ holds, rfl⟩
  · cases lost a with
    | none => exact fun _ _ holds => holds
    | some reason =>
      refine (rules.onLost reason).conseq (fun _ _ holds => holds) ?_ fun _ _ _ holds => holds
      exact fun _ _ _ holds => holds.2

theorem acquire (clientId : String) (now : Time) :
    Keeps inv rest allowed (act (.leaseAcquire clientId now) fun _ s =>
      let (lease, acquired) := s.lease.acquire clientId now
      (acquired, s.setLease lease)) := by
  refine triple_act rules.inv_stable rules.rest_stable (fun _ => rules.rest_stable)
    fun i s holds rests permitted => ?_
  have eff := LeaseManager.effect_acquire (s.tick i).lease clientId now
  revert eff
  generalize (s.tick i).lease.acquire clientId now = result
  obtain ⟨lease, answer⟩ := result
  simp only
  intro eff
  cases eff with
  | acquireRefused => exact ⟨holds, rests⟩
  | extended =>
    have same : StreamSame (s.tick i) ((s.tick i).setLease ((s.tick i).lease.refresh now)) :=
      streamSame_lease (by simp) rfl rfl
    exact ⟨rules.inv_stable _ _ same holds, rules.rest_stable _ _ same rests⟩
  | issued _ _ valid timedOut => exact rules.issue clientId now i s holds rests permitted valid timedOut

theorem handleRequest (config : ServiceConfig) (request : ControlRequest) :
    Keeps inv rest allowed (handleRequest config request) := by
  refine .ite (fun _ => rules.keeps_quiet (neutral_streamSame.finishReply ..)) fun _ => ?_
  split
  · refine Triple.bind (rules.keeps_quiet neutral_streamSame.clockNow) fun now => ?_
    refine Triple.bind (rules.acquire _ now) fun acquired => ?_
    cases acquired <;> exact rules.keeps_quiet (neutral_streamSame.finishReply ..)
  · refine Triple.bind (rules.keeps_quiet neutral_streamSame.clockNow) fun now => ?_
    refine rules.keeps_quiet (every_bind ?_ fun _ => neutral_streamSame.finishReply ..)
    exact neutral_streamSame.act fun _ s => streamSame_authorize_control s _ _ _ _ now
  · refine rules.lossy Prod.snd (fun s => ?_)
      fun out => rules.keeps_quiet (neutral_streamSame.finishReply ..)
    simp only [LeaseManager.release]
    split_ifs
    · exact Or.inr ⟨⟨_, rfl⟩, rfl⟩
    · exact Or.inl ⟨rfl, rfl⟩
  · exact rules.keeps_quiet (neutral_streamSame.handleQueued request)

theorem takeControlRequests (config : ServiceConfig) :
    Keeps inv rest allowed (takeControlRequests config) := by
  refine Triple.loop ?_ 32
  refine Triple.bind (rules.keeps_quiet (neutral_streamSame.act fun _ s => .refl s)) fun sample => ?_
  cases sample with
  | none => exact fun _ _ holds => holds
  | some request => exact (rules.handleRequest config request).bind fun _ _ _ holds => holds

theorem takeStreamCommands (config : ServiceConfig) :
    Keeps inv rest allowed (takeStreamCommands config) := by
  refine Triple.loop ?_ 64
  refine Triple.bind (rules.keeps_quiet (neutral_streamSame.act fun _ s => .refl s)) fun sample => ?_
  cases sample with
  | none => exact fun _ _ holds => holds
  | some wire =>
    refine Triple.bind (rules.keeps_quiet neutral_streamSame.clockNow) fun receivedAt => ?_
    refine Triple.bind (Q := fun _ => rest) ?_ fun _ _ _ holds => holds
    exact .when (fun _ => rules.receive _) fun _ _ _ holds => holds

/-- One iteration of the I/O thread. -/
theorem runIteration (config : ServiceConfig) : Keeps inv rest allowed (runIteration config) := by
  refine Triple.tryCatch (E := fun _ => rest) ?_ fun _ => rules.keeps_quiet neutral_streamSame.runReturns
  refine Triple.bind (rules.keeps_quiet (neutral_streamSame.await fun _ _ => rfl)) fun now => ?_
  refine rules.lossy id (fun s => ?_) fun _ => ?_
  · simp only [LeaseManager.expireIfNeeded]
    split_ifs
    · exact Or.inr ⟨⟨_, rfl⟩, rfl⟩
    · exact Or.inl ⟨rfl, rfl⟩
  refine Triple.bind (rules.keeps_quiet (neutral_streamSame.act fun _ s => .refl s)) fun count => ?_
  refine .ite (fun _ => rules.keeps_quiet neutral_streamSame.runReturns) fun _ => ?_
  refine Triple.bind (Q := fun _ => rest) ?_ fun _ => ?_
  · refine .when (fun _ => ?_) fun _ _ _ holds => holds
    exact (rules.takeControlRequests config).bind fun _ => rules.takeStreamCommands config
  refine Triple.bind rules.pump fun _ => rules.keeps_quiet ?_
  exact every_bind (neutral_streamSame.act fun _ s => .refl s) fun _ => every_when quiet_publishState

/-- After `revoke` no lease is active, whether or not one was. -/
theorem revoke (reason : String) {E : String → Service → Prop} :
    (streamDiscipline inv rest allowed).Triple .io (act .leaseRevoke fun _ s =>
      let (lease, lost) := s.lease.revoke reason
      (lost, s.setLease lease)) rest (fun _ => LeaseEnded) E :=
  triple_act rules.inv_stable rules.rest_stable (fun _ => streamStable_leaseEnded)
    fun _ _ holds _ _ => ⟨rules.reset _ holds, rfl⟩

theorem runShutdown : Keeps inv rest allowed runShutdown := by
  refine Triple.bind (rules.keeps_quiet (neutral_streamSame.await fun _ _ => rfl)) fun _ => ?_
  refine Triple.bind (rules.keeps_quiet ?_) fun _ => ?_
  · exact neutral_streamSame.stopControlWorker
  refine Triple.bind (rules.revoke _) fun lost => ?_
  refine Triple.bind (Q := fun _ => LeaseEnded) ?_ fun _ => ?_
  · cases lost with
    | none => exact fun _ _ holds => holds
    | some reason =>
      refine (rules.onLost reason).conseq (fun _ _ holds => holds) ?_ fun _ _ _ holds => holds
      exact fun _ _ _ holds => holds.1
  refine Triple.bind (Q := fun _ => rest) ?_ fun _ => rules.keeps_quiet ?_
  · exact triple_act rules.inv_stable streamStable_leaseEnded (fun _ => rules.rest_stable)
      fun i s holds ended _ => rules.clear _ holds ended
  · refine every_bind neutral_streamSame.runtimeSnapshot fun runtime => every_bind (every_when ?_) fun _ =>
      neutral_streamSame.runReturns
    refine every_bind (neutral_streamSame.act fun _ s => streamSame_applyOutcome s _) fun _ => neutral_streamSame.act fun _ s => ?_
    split_ifs
    · exact ⟨rfl, rfl, rfl, rfl, rfl, le_rfl⟩
    · exact .refl s

/-- The rules are enough: the discipline governs the whole service. -/
theorem governs (config : ServiceConfig) (start : inv (service config).start)
    (rests : rest (service config).start) :
    (streamDiscipline inv rest allowed).Governs (service config) :=
  governs_stream rules.inv_stable rules.rest_stable start rests (rules.runIteration config)
    rules.runShutdown

end

end StreamRules

theorem streamRecord_start (config : ServiceConfig) : StreamRecord (service config).start where
  next := nofun
  bound _ found := absurd found (by simp [streamLog, service])
  register _ _ found := absurd found (by simp [streamLog, service])

end MotorDrive.Dds
