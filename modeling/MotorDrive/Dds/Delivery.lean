import MotorDrive.Dds.Stream

/-!
# Delivery safety

`deliverySafe_of_reach`: a command that `pump_latest` hands to the Runtime was authorized under the
lease that is active at its delivery, is within its lifespan, and is newer than all delivered under
that lease, in every run in which no `acquire` replaces a timed-out lease over a mailbox whose command
is still within its lifespan.

A command is authorized with a fresh lease period, which is longer than its lifespan, so such an
`acquire` only happens when a late `refresh_after_control` has moved the expiry back
(`staleRefresh_not_safe`).
-/

namespace MotorDrive.Dds

open Threads Threads.Discipline History Proc Service

/-- The command was handed to the Runtime. -/
def Delivered (command : StreamCommand) (log : List Event) : Prop :=
  ∃ now active runtime, .pumped now active runtime (some command) ∈ log

/-- A delivered command was authorized under the lease active at its delivery, is within its lifespan
and has a higher sequence than all delivered before under its lease. -/
def SafeDelivery (e : Event) (older : List Event) : Prop :=
  ∀ now active runtime command, e = .pumped now active runtime (some command) →
    (∃ lease, active = some lease ∧ lease.leaseId = command.leaseId ∧
      lease.clientId = command.identity.clientId) ∧
    .authorized command ∈ older ∧ now - command.receivedAt ≤ kStreamLifespan ∧
    ∀ command', Delivered command' older → command'.leaseId = command.leaseId →
      command'.identity.sequence < command.identity.sequence

/-- Every delivery so far was safe. -/
def DeliverySafe (s : Service) : Prop := Always SafeDelivery s.streamLog

theorem authorized_of_delivered {command : StreamCommand} {log : List Event}
    (safe : Always SafeDelivery log) (delivered : Delivered command log) :
    .authorized command ∈ log := by
  obtain ⟨now, active, runtime, found⟩ := delivered
  induction log with
  | nil => cases found
  | cons e older ih =>
    refine List.mem_cons_of_mem _ ?_
    rcases List.mem_cons.mp found with rfl | earlier
    · exact (safe.1 _ _ _ _ rfl).2.1
    · exact ih safe.2 earlier

/-- An `acquire` that finds a timed-out lease in place, which it replaces, while the mailbox holds a
command within its lifespan. -/
def replacesOverFresh (site : Site) (i : Input) (s : Service) : Bool :=
  match site with
  | .leaseAcquire clientId now =>
    LeaseManager.validClientId clientId &&
      s.lease.active.any (fun lease => lease.expiresAt ≤ now) &&
      s.mailbox.any fun command => (s.tick i).now - command.receivedAt ≤ kStreamLifespan
  | _ => false

/-- A lease is not replaced while the mailbox holds a command within its lifespan. -/
def NoReplacementOverFresh (site : Site) (i : Input) (s : Service) : Prop :=
  replacesOverFresh site i s = false

theorem lifespan_lt_of_noReplacement {clientId : String} {now : Time} {i : Input} {s : Service}
    (allowed : NoReplacementOverFresh (.leaseAcquire clientId now) i s)
    (valid : LeaseManager.validClientId clientId) {lease : LeaseSnapshot}
    (active : s.lease.active = some lease) (timedOut : lease.expiresAt ≤ now)
    {command : StreamCommand} (found : s.mailbox = some command) :
    kStreamLifespan < (s.tick i).now - command.receivedAt := by
  simp only [NoReplacementOverFresh, replacesOverFresh, valid, active, timedOut, found,
    Option.any_some, decide_true, Bool.and_true, Bool.true_and, decide_eq_false_iff_not] at allowed
  exact not_le.mp allowed

/-- The command belongs to the active lease and is newer than what was delivered under it. -/
def Live (s : Service) (command : StreamCommand) : Prop :=
  s.lease.owner = some (command.identity.clientId, command.leaseId) ∧
    ∀ command', Delivered command' s.streamLog → command'.leaseId = command.leaseId →
      command'.identity.sequence < command.identity.sequence

/-- What the mailbox holds at `now` was authorized and is past its lifespan or live. -/
def MailboxSafe (now : Time) (s : Service) : Prop :=
  ∀ command, s.mailbox = some command → .authorized command ∈ s.streamLog ∧
    (kStreamLifespan < now - command.receivedAt ∨ Live s command)

theorem Live.same {s s' : Service} (same : StreamSame s s') {command : StreamCommand}
    (live : Live s command) : Live s' command := by
  unfold Live
  rw [same.owner, same.log]
  exact live

theorem streamStable_mailboxSafe (now : Time) : StreamStable (MailboxSafe now) := by
  intro s s' same safe command found
  rw [same.mailbox] at found
  obtain ⟨authorized, fate⟩ := safe command found
  exact ⟨same.log ▸ authorized, fate.imp_right (Live.same same)⟩

theorem MailboxSafe.mono {now now' : Time} (later : now ≤ now') {s : Service}
    (safe : MailboxSafe now s) : MailboxSafe now' s := by
  intro command found
  obtain ⟨authorized, stale | live⟩ := safe command found
  · exact ⟨authorized, Or.inl (stale.trans_le (Nat.sub_le_sub_right later _))⟩
  · exact ⟨authorized, Or.inr live⟩

theorem mailboxSafe_of_empty {now : Time} {s : Service} (empty : s.mailbox = none) :
    MailboxSafe now s := by
  intro command found
  rw [empty] at found
  cases found

/-- What holds between two iterations of the I/O thread. -/
def DeliveryRest (s : Service) : Prop := MailboxSafe s.now s

theorem streamStable_deliveryRest : StreamStable DeliveryRest := fun s s' same rest =>
  (streamStable_mailboxSafe s.now s s' same rest).mono same.clock

/-- The invariant: the record, and the safety of what was delivered. -/
def DeliveryInv (s : Service) : Prop := StreamRecord s ∧ DeliverySafe s

theorem streamStable_deliveryInv : StreamStable DeliveryInv := by
  intro s s' same inv
  refine ⟨streamStable_record s s' same inv.1, ?_⟩
  unfold DeliverySafe
  rw [same.log]
  exact inv.2

theorem DeliveryInv.of_eq {s s' : Service} (inv : DeliveryInv s) (lease : s'.lease = s.lease)
    (log : s'.streamLog = s.streamLog) : DeliveryInv s' := by
  refine ⟨inv.1.of_eq lease log, ?_⟩
  unfold DeliverySafe
  rw [log]
  exact inv.2

/-- The discipline of delivery. -/
def deliveryDiscipline : Discipline Thread Service Input Site :=
  streamDiscipline DeliveryInv DeliveryRest NoReplacementOverFresh

/-- Resetting the lease keeps the invariant. -/
theorem DeliveryInv.reset {s : Service} (inv : DeliveryInv s) :
    DeliveryInv (s.setLease s.lease.reset) :=
  ⟨inv.1.reset, inv.2⟩

/-- Without a lease, what the mailbox holds is past its lifespan. -/
theorem MailboxSafe.of_ended {now : Time} {s : Service} (safe : MailboxSafe now s)
    (ended : LeaseEnded s) (lease : LeaseManager) : MailboxSafe now (s.setLease lease) := by
  intro command found
  obtain ⟨authorized, stale | live⟩ := safe command found
  · exact ⟨authorized, Or.inl stale⟩
  · exact absurd (live.1.symm.trans ended) (by simp)

/-- A new lease finds the mailbox empty or its command past its lifespan. -/
theorem deliveryRest_issue (clientId : String) (now : Time) (i : Input) (s : Service)
    (rest : DeliveryRest (s.tick i))
    (allowed : NoReplacementOverFresh (.leaseAcquire clientId now) i s)
    (valid : LeaseManager.validClientId clientId)
    (timedOut : ∀ lease, s.lease.active = some lease → lease.expiresAt ≤ now) :
    DeliveryRest ((s.tick i).setLease (s.lease.issue clientId now)) := by
  cases active : s.lease.active with
  | none => exact MailboxSafe.of_ended rest (by simp [LeaseEnded, LeaseManager.owner, tick, active]) _
  | some lease =>
    intro command found
    refine ⟨(rest command found).1, Or.inl ?_⟩
    exact lifespan_lt_of_noReplacement allowed valid active (timedOut lease active) found

/-- The command is authorized and live, and may be stored. -/
def Storable (command : StreamCommand) (s : Service) : Prop :=
  .authorized command ∈ s.streamLog ∧ Live s command

theorem streamStable_storable (command : StreamCommand) : StreamStable (Storable command) :=
  fun _ _ same storable => ⟨same.log ▸ storable.1, storable.2.same same⟩

section Accept

variable {s : Service} {command : StreamCommand} {lease : LeaseSnapshot}

theorem delivered_acceptStream {command' : StreamCommand} :
    Delivered command' (s.acceptStream command).streamLog ↔ Delivered command' s.streamLog := by
  simp [streamLog_acceptStream, Delivered]

theorem DeliveryInv.accept (inv : DeliveryInv s)
    (admissible : s.lease.Admissible command.request lease) :
    DeliveryInv (s.acceptStream command) := by
  refine ⟨inv.1.accept admissible, ?_⟩
  unfold DeliverySafe
  rw [streamLog_acceptStream]
  exact ⟨nofun, inv.2⟩

theorem DeliveryRest.accept (rest : DeliveryRest s) : DeliveryRest (s.acceptStream command) := by
  intro stored found
  obtain ⟨authorized, fate⟩ := rest stored found
  rw [streamLog_acceptStream]
  refine ⟨List.mem_cons_of_mem _ authorized, fate.imp_right fun live => ⟨?_, ?_⟩⟩
  · rw [owner_acceptStream]
    exact live.1
  · intro command' delivered
    exact live.2 command' (delivered_acceptStream.mp delivered)

theorem storable_accept (inv : DeliveryInv s)
    (admissible : s.lease.Admissible command.request lease) :
    Storable command (s.acceptStream command) := by
  refine ⟨streamLog_acceptStream s command ▸ List.mem_cons_self, ?_, ?_⟩
  · rw [owner_acceptStream]
    exact owner_of_admissible admissible
  · intro command' delivered same
    have found := authorized_of_delivered inv.2 (delivered_acceptStream.mp delivered)
    exact inv.1.sequence_lt admissible found same

/-- The slot holds the stored command or what it held. -/
theorem MailboxSafe.store {now : Time} (safe : MailboxSafe now s) (storable : Storable command s) :
    MailboxSafe now { s with mailbox := s.mailbox.store command } := by
  intro held found
  rcases Mailbox.store_eq s.mailbox command with new | ⟨latest, old, kept, -⟩
  · obtain rfl := Option.some.inj (new.symm.trans found)
    exact ⟨storable.1, Or.inr storable.2⟩
  · obtain rfl := Option.some.inj (kept.symm.trans found)
    exact safe latest old

end Accept

/-- A received command is authorized under the active lease and then stored. -/
theorem delivery_receive (command : StreamCommand) :
    deliveryDiscipline.Triple .io (authorizeAndStore command) DeliveryRest (fun _ => DeliveryRest)
      fun _ => DeliveryRest := by
  have stable : ∀ error, StreamStable fun s =>
      DeliveryRest s ∧ (error = ProtocolError.ok → Storable command s) := fun error s s' same holds =>
    ⟨streamStable_deliveryRest s s' same holds.1,
      fun ok => streamStable_storable command s s' same (holds.2 ok)⟩
  refine Triple.bind (Q := fun error s =>
    DeliveryRest s ∧ (error = ProtocolError.ok → Storable command s)) ?_ fun error => ?_
  · refine triple_act streamStable_deliveryInv streamStable_deliveryRest stable
      fun i s inv holds _ => ?_
    rcases authorize_stream_cases (s.tick i) command with
      ⟨error, refused, out⟩ | ⟨out, lease, admissible⟩
    · simp only [out, if_neg refused]
      exact ⟨inv, holds, fun ok => absurd ok refused⟩
    · simp only [out, if_true]
      exact ⟨inv.accept admissible, holds.accept, fun _ => storable_accept inv admissible⟩
  · refine .when (fun ok => ?_) fun _ s _ holds => holds.1
    refine triple_act streamStable_deliveryInv (stable error) (fun _ => streamStable_deliveryRest)
      fun i s inv holds _ => ⟨inv.of_eq rfl rfl, ?_⟩
    exact holds.1.store (holds.2 (by simpa using ok))

/-- The command has been taken from the mailbox by a pump that read the clock at `now`. -/
def Taken (now : Time) (command : Option StreamCommand) (s : Service) : Prop :=
  s.mailbox = none ∧ ∀ c, command = some c → Storable c s ∧ now - c.receivedAt ≤ kStreamLifespan

theorem streamStable_taken (now : Time) (command : Option StreamCommand) :
    StreamStable (Taken now command) := by
  intro s s' same taken
  refine ⟨same.mailbox.trans taken.1, fun c found => ?_⟩
  obtain ⟨storable, fresh⟩ := taken.2 c found
  exact ⟨streamStable_storable c s s' same storable, fresh⟩

theorem taken_take {now : Time} {s : Service} (safe : MailboxSafe now s) :
    Taken now (s.mailbox.take now).2 { s with mailbox := (s.mailbox.take now).1 } := by
  refine ⟨Mailbox.take_fst .., fun c found => ?_⟩
  obtain ⟨held, fresh⟩ := Mailbox.take_snd found
  obtain ⟨authorized, stale | live⟩ := safe c held
  · exact absurd fresh (not_le.mpr stale)
  · exact ⟨⟨authorized, live⟩, fresh⟩

/-- A pump that hands nothing over. -/
theorem DeliveryInv.pumped_none {s : Service} (inv : DeliveryInv s) (now : Time) (runtime : Bool) :
    DeliveryInv (s.record (.pumped now s.lease.active runtime none)) := by
  refine ⟨inv.1.pumped now _ runtime none, ?_⟩
  unfold DeliverySafe
  rw [streamLog_record_stream rfl]
  exact ⟨by simp [SafeDelivery], inv.2⟩

/-- A pump that hands over the command it has taken. -/
theorem DeliveryInv.pumped_some {s : Service} (inv : DeliveryInv s) {now : Time}
    {command : StreamCommand} (taken : Taken now (some command) s) :
    DeliveryInv (s.record (.pumped now s.lease.active true (some command))) := by
  obtain ⟨⟨authorized, owner, newer⟩, fresh⟩ := taken.2 command rfl
  refine ⟨inv.1.pumped now _ true (some command), ?_⟩
  unfold DeliverySafe
  rw [streamLog_record_stream rfl]
  refine ⟨fun now' active runtime c same => ?_, inv.2⟩
  obtain ⟨rfl, rfl, -, found⟩ := Event.pumped.inj same
  obtain rfl := Option.some.inj found
  obtain ⟨lease, active, number⟩ := Option.map_eq_some_iff.mp owner
  rw [Prod.mk.injEq] at number
  exact ⟨⟨lease, active, number.2, number.1⟩, authorized, fresh, newer⟩

theorem delivery_deliver (now : Time) (command : StreamCommand) {E : String → Service → Prop} :
    deliveryDiscipline.Triple .io (act (.deliver command) fun i s => s.deliver now command i)
      (Taken now (some command)) (fun _ => DeliveryRest) E := by
  refine triple_act streamStable_deliveryInv (streamStable_taken now _)
    (fun _ => streamStable_deliveryRest) fun i s inv taken _ => ?_
  have same := streamSame_afterDelivery (s.tick i) now command i
  exact ⟨streamStable_deliveryInv _ _ same (inv.pumped_some taken),
    streamStable_deliveryRest _ _ same (mailboxSafe_of_empty taken.1)⟩

/-- What a pump that read the clock at `now` knows before it takes. -/
def Pumping (now : Time) (s : Service) : Prop := MailboxSafe now s ∧ DeliveryRest s

theorem streamStable_pumping (now : Time) : StreamStable (Pumping now) := fun s s' same holds =>
  ⟨streamStable_mailboxSafe now s s' same holds.1, streamStable_deliveryRest s s' same holds.2⟩

/-- What a pump knows once it has looked for a Runtime. -/
def Handing (now : Time) (command : Option StreamCommand) (runtime : Option ℕ) (s : Service) : Prop :=
  s.mailbox = none ∧ (command.isSome ∧ runtime.isSome → Taken now command s)

theorem streamStable_handing (now : Time) (command : Option StreamCommand) (runtime : Option ℕ) :
    StreamStable (Handing now command runtime) := fun s s' same holds =>
  ⟨same.mailbox.trans holds.1, fun both => streamStable_taken now command s s' same (holds.2 both)⟩

theorem delivery_pump :
    deliveryDiscipline.Triple .io pumpLatest DeliveryRest (fun _ => DeliveryRest)
      fun _ => DeliveryRest := by
  refine Triple.bind (Q := Pumping) ?_ fun now => ?_
  · exact triple_act streamStable_deliveryInv streamStable_deliveryRest streamStable_pumping
      fun i s inv holds _ => ⟨inv, holds, holds⟩
  refine Triple.bind (Q := fun _ => Pumping now) ?_ fun busy => ?_
  · exact triple_act streamStable_deliveryInv (streamStable_pumping now)
      (fun _ => streamStable_pumping now) fun i s inv holds _ => ⟨inv, holds⟩
  refine .ite (fun _ s _ holds => holds.2) fun _ => ?_
  refine Triple.bind (Q := Taken now) ?_ fun command => ?_
  · exact triple_act streamStable_deliveryInv (streamStable_pumping now) (streamStable_taken now)
      fun i s inv holds _ => ⟨inv.of_eq rfl rfl, taken_take holds.1⟩
  refine Triple.bind (Q := fun runtime => Handing now command runtime) ?_ fun runtime => ?_
  · refine triple_act streamStable_deliveryInv (streamStable_taken now command)
      (streamStable_handing now command) fun i s inv taken _ => ?_
    simp only
    split_ifs with present
    · exact ⟨inv, taken.1, fun _ => taken⟩
    · exact ⟨inv.pumped_none now _, taken.1, fun both => absurd both.symm present⟩
  match command, runtime with
  | some command, some runtime =>
    exact (delivery_deliver now command).pre fun s _ holds => holds.2 ⟨rfl, rfl⟩
  | none, _ => exact fun s _ holds => mailboxSafe_of_empty holds.1
  | some command, none => exact fun s _ holds => mailboxSafe_of_empty holds.1

theorem deliveryRules : StreamRules DeliveryInv DeliveryRest NoReplacementOverFresh where
  inv_stable := streamStable_deliveryInv
  rest_stable := streamStable_deliveryRest
  reset _ inv := inv.reset
  clear _ inv _ := ⟨inv.of_eq rfl rfl, mailboxSafe_of_empty rfl⟩
  issue clientId now i s inv rest allowed valid timedOut :=
    ⟨⟨inv.1.issue clientId now, inv.2⟩, deliveryRest_issue clientId now i s rest allowed valid timedOut⟩
  receive := delivery_receive
  pump := delivery_pump

theorem governs_delivery (config : ServiceConfig) :
    deliveryDiscipline.Governs (service config) :=
  deliveryRules.governs config ⟨streamRecord_start config, trivial⟩ (mailboxSafe_of_empty rfl)

/-- In every run in which no lease is replaced over a mailbox that holds a command within its
lifespan, every delivery is safe. -/
theorem deliverySafe_of_reach (config : ServiceConfig)
    (c : Config Thread Service Input Site String)
    (reach : (service config).Reach (fun _ => NoReplacementOverFresh) c) : DeliverySafe c.shared :=
  ((governs_delivery config).inv_of_reach reach).2

open Scenario in
/-- A command received after its client acquired the lease, and delivered at once. -/
theorem deliverySafe_of_reach_once : ∃ c,
    (service config).Reach (fun _ => NoReplacementOverFresh) c ∧
    c.shared.streamLog.head? = some (.pumped 0 (some ⟨"a", 1, milliseconds 250⟩) true
      (some (streamed "a" 1 7 0))) ∧ DeliverySafe c.shared := by
  obtain ⟨c, reach, seen⟩ := Machine.exists_reach_of_run (M := service config)
    (fun _ site i s => !replacesOverFresh site i s) (fun s => s.streamLog.head?) streamOnce
    (fun _ _ _ _ passed => by simpa [NoReplacementOverFresh] using passed) (by rfl)
  exact ⟨c, reach, seen, deliverySafe_of_reach config c reach⟩

/-! ## A delivery under the wrong lease -/

namespace Scenario

/-- The control worker reads the clock for `refresh_after_control` and is held up before it takes the
lease's mutex; a command authorized 240 ms later is stored; then the refresh moves the expiry back,
and the next `acquire` replaces the lease while the command is 10 ms old. -/
def staleRefresh : List (Move Thread Input Op) :=
  connect ++
  .start .runIteration :: go .io 2 ++ io { count := 1 } ++ io { request := some (acquire "a") } ++
    go .io 3 ++ io { request := some enable } ++ go .io 10 ++
  .start .controlWorkerIteration :: go .worker 7 ++
  .start .runIteration :: io { elapsed := milliseconds 240 } ++ go .io 1 ++ io { count := 1 } ++
    go .io 1 ++ io { command := some (streamed "a" 1 1 0) } ++ go .io 7 ++
  go .worker 3 ++
  .start .runIteration :: io { elapsed := milliseconds 9 } ++ go .io 1 ++
    io { elapsed := milliseconds 1, count := 1 } ++ io { request := some (acquire "b") } ++ go .io 10

end Scenario

open Scenario in
/-- The command of the first client's lease is delivered under the second client's. -/
theorem staleRefresh_not_safe :
    ¬ ∀ c, (service config).Reach (fun _ _ _ _ => True) c → DeliverySafe c.shared := by
  intro safe
  obtain ⟨c, reach, seen⟩ := Machine.exists_reach_of_run (M := service config)
    (b := some (.pumped (milliseconds 250) (some ⟨"b", 2, milliseconds 500⟩) true
      (some (streamed "a" 1 1 (milliseconds 240)))))
    (fun _ _ _ _ => true) (fun s => s.streamLog.head?) staleRefresh (fun _ _ _ _ _ => trivial)
    (by decide)
  have delivered := safe c reach
  unfold DeliverySafe at delivered
  cases log : c.shared.streamLog with
  | nil => simp [log] at seen
  | cons e older =>
    rw [log] at seen delivered
    obtain ⟨lease, active, number, -⟩ := (delivered.1 _ _ _ _ (Option.some.inj seen)).1
    obtain rfl := Option.some.inj active
    exact absurd number (by decide)

end MotorDrive.Dds
