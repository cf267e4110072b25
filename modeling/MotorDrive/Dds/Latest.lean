import MotorDrive.Dds.Stream

/-!
# The latest command wins

`latestWins_of_reach`: the first pump with an idle control worker and a Runtime after a command was
authorized under the lease still active, with none newer under it, delivers exactly that command if
it is within its lifespan, in every run in which no command is stored over one with a higher or equal
sequence and no pump takes a command while there is no Runtime.

Sequences restart with each lease and the mailbox compares them across leases, so a command left
behind by a replaced lease shadows the first commands of the next one (`shadowed_not_delivered`).
-/

namespace MotorDrive.Dds

open Threads Threads.Discipline History Proc Service

/-- The command is the last authorized under its lease, and no pump with a Runtime has run since. -/
def Awaits (command : StreamCommand) : List Event → Prop
  | .authorized command' :: log =>
    command' = command ∨ (command'.leaseId ≠ command.leaseId ∧ Awaits command log)
  | .pumped _ _ true _ :: _ => False
  | _ :: log => Awaits command log
  | [] => False

/-- A pump with a Runtime delivers the command that awaits it under the active lease. -/
def LatestDelivered (e : Event) (older : List Event) : Prop :=
  ∀ now active delivered command, e = .pumped now active true delivered → Awaits command older →
    active.map LeaseSnapshot.leaseId = some command.leaseId →
    now - command.receivedAt ≤ kStreamLifespan → delivered = some command

/-- Every pump so far delivered the latest command. -/
def LatestWins (s : Service) : Prop := Always LatestDelivered s.streamLog

/-- A command is stored while the mailbox holds one with the same or a higher sequence, or taken from
the mailbox while there is no Runtime. -/
def losesCommand (site : Site) (s : Service) : Bool :=
  match site with
  | .mailboxStore command =>
    s.mailbox.any fun latest => command.identity.sequence ≤ latest.identity.sequence
  | .pumpRuntime command => command.isSome && s.runtime.isNone
  | _ => false

/-- No command is lost at the section. -/
def LosesNothing (site : Site) (_ : Input) (s : Service) : Prop := losesCommand site s = false

theorem authorized_of_awaits {command : StreamCommand} {log : List Event}
    (awaits : Awaits command log) : .authorized command ∈ log := by
  induction log with
  | nil => exact awaits.elim
  | cons e log ih =>
    cases e with
    | authorized command' =>
      rcases awaits with rfl | ⟨-, awaits⟩
      · exact List.mem_cons_self
      · exact List.mem_cons_of_mem _ (ih awaits)
    | pumped now active runtime delivered =>
      cases runtime with
      | true => exact awaits.elim
      | false => exact List.mem_cons_of_mem _ (ih awaits)
    | motion | motionEvent | stateRead | statePublished | reply =>
      exact List.mem_cons_of_mem _ (ih awaits)

/-- The command awaits the pump under the active lease. -/
def AwaitsPump (s : Service) (command : StreamCommand) : Prop :=
  Awaits command s.streamLog ∧ s.lease.holder = some command.leaseId

/-- At `now`, what awaits the pump is in the mailbox or past its lifespan. -/
def Waiting (now : Time) (s : Service) : Prop :=
  ∀ command, AwaitsPump s command →
    s.mailbox = some command ∨ kStreamLifespan < now - command.receivedAt

theorem holder_eq_owner (m : LeaseManager) : m.holder = m.owner.map Prod.snd := by
  simp [LeaseManager.holder, LeaseManager.owner, Function.comp_def]

theorem awaitsPump_same {s s' : Service} (same : StreamSame s s') {command : StreamCommand} :
    AwaitsPump s' command ↔ AwaitsPump s command := by
  unfold AwaitsPump
  rw [holder_eq_owner, holder_eq_owner, same.owner, same.log]

theorem streamStable_waiting (now : Time) : StreamStable (Waiting now) := by
  intro s s' same waiting command awaits
  rw [same.mailbox]
  exact waiting command ((awaitsPump_same same).mp awaits)

theorem Waiting.mono {now now' : Time} (later : now ≤ now') {s : Service} (waiting : Waiting now s) :
    Waiting now' s := fun command awaits =>
  (waiting command awaits).imp_right fun stale => stale.trans_le (Nat.sub_le_sub_right later _)

/-- What holds between two iterations of the I/O thread. -/
def LatestRest (s : Service) : Prop := Waiting s.now s

theorem streamStable_latestRest : StreamStable LatestRest := fun s s' same rest =>
  (streamStable_waiting s.now s s' same rest).mono same.clock

/-- The invariant: the record, and what the pumps delivered. -/
def LatestInv (s : Service) : Prop := StreamRecord s ∧ LatestWins s

theorem LatestInv.of_eq {s s' : Service} (inv : LatestInv s) (record : StreamRecord s')
    (log : s'.streamLog = s.streamLog) : LatestInv s' := by
  refine ⟨record, ?_⟩
  unfold LatestWins
  rw [log]
  exact inv.2

theorem streamStable_latestInv : StreamStable LatestInv := fun s s' same inv =>
  inv.of_eq (streamStable_record s s' same inv.1) same.log

/-- The discipline of the latest command. -/
def latestDiscipline : Discipline Thread Service Input Site :=
  streamDiscipline LatestInv LatestRest LosesNothing

/-- Without a lease nothing awaits the pump. -/
theorem waiting_of_ended {now : Time} {s : Service} (ended : LeaseEnded s) : Waiting now s := by
  rintro command ⟨-, held⟩
  rw [holder_eq_owner, ended] at held
  cases held

/-- Under a new lease nothing awaits the pump. -/
theorem waiting_issue {s : Service} (record : StreamRecord s) (clientId : String) (now now' : Time) :
    Waiting now' (s.setLease (s.lease.issue clientId now)) := by
  rintro command ⟨awaits, held⟩
  have bound := record.bound command (authorized_of_awaits awaits)
  rw [setLease, LeaseManager.holder_issue, Option.some.injEq] at held
  omega

/-- Only the command itself awaits the pump once it is authorized. -/
theorem eq_of_awaitsPump_accept {s : Service} {command command' : StreamCommand}
    {lease : LeaseSnapshot} (admissible : s.lease.Admissible command.request lease)
    (awaits : AwaitsPump (s.acceptStream command) command') : command' = command := by
  obtain ⟨awaits, held⟩ := awaits
  rw [streamLog_acceptStream] at awaits
  rw [holder_eq_owner, owner_acceptStream, owner_of_admissible admissible] at held
  rcases awaits with same | ⟨other, -⟩
  · exact same.symm
  · exact absurd (Option.some.inj held) other

theorem LatestInv.accept {s : Service} (inv : LatestInv s) {command : StreamCommand}
    {lease : LeaseSnapshot} (admissible : s.lease.Admissible command.request lease) :
    LatestInv (s.acceptStream command) := by
  refine ⟨inv.1.accept admissible, ?_⟩
  unfold LatestWins
  rw [streamLog_acceptStream]
  exact ⟨nofun, inv.2⟩

/-- After its authorization, only the command awaits the pump. -/
def OnlyAwaits (command : StreamCommand) (s : Service) : Prop :=
  ∀ command', AwaitsPump s command' → command' = command

theorem streamStable_onlyAwaits (command : StreamCommand) : StreamStable (OnlyAwaits command) :=
  fun _ _ same only command' awaits => only command' ((awaitsPump_same same).mp awaits)

theorem store_of_losesNothing {command : StreamCommand} {i : Input} {s : Service}
    (allowed : LosesNothing (.mailboxStore command) i s) :
    s.mailbox.store command = some command := by
  rcases Mailbox.store_eq s.mailbox command with new | ⟨latest, found, -, older⟩
  · exact new
  · simp [LosesNothing, losesCommand, found] at allowed
    omega

theorem latest_receive (command : StreamCommand) :
    latestDiscipline.Triple .io (authorizeAndStore command) LatestRest (fun _ => LatestRest)
      fun _ => LatestRest := by
  have stable : ∀ error : ProtocolError, StreamStable fun s =>
      (error = .ok → OnlyAwaits command s) ∧ (error ≠ .ok → LatestRest s) :=
    fun error s s' same holds => ⟨fun ok => streamStable_onlyAwaits command s s' same (holds.1 ok),
      fun refused => streamStable_latestRest s s' same (holds.2 refused)⟩
  refine Triple.bind (Q := fun error s =>
    (error = .ok → OnlyAwaits command s) ∧ (error ≠ .ok → LatestRest s)) ?_ fun error => ?_
  · refine triple_act streamStable_latestInv streamStable_latestRest stable fun i s inv holds _ => ?_
    rcases authorize_stream_cases (s.tick i) command with
      ⟨error, refused, out⟩ | ⟨out, lease, admissible⟩
    · simp only [out, if_neg refused]
      exact ⟨inv, fun ok => absurd ok refused, fun _ => holds⟩
    · simp only [out, if_true]
      refine ⟨inv.accept admissible, fun _ => ?_, fun refused => absurd rfl refused⟩
      exact fun command' awaits => eq_of_awaitsPump_accept admissible awaits
  · refine .when (fun ok => ?_) fun refused s _ holds => holds.2 (by simpa using refused)
    refine triple_act streamStable_latestInv (stable error) (fun _ => streamStable_latestRest)
      fun i s inv holds allowed => ⟨inv.of_eq (inv.1.of_eq rfl rfl) rfl, fun command' awaits => ?_⟩
    obtain rfl := holds.1 (by simpa using ok) command' awaits
    exact Or.inl (store_of_losesNothing (i := i) allowed)

/-- The pump that read the clock at `now` has taken what awaits it. -/
def TakenLatest (now : Time) (command : Option StreamCommand) (s : Service) : Prop :=
  now ≤ s.now ∧ ∀ command', AwaitsPump s command' →
    now - command'.receivedAt ≤ kStreamLifespan → command = some command'

theorem streamStable_takenLatest (now : Time) (command : Option StreamCommand) :
    StreamStable (TakenLatest now command) := fun _ _ same taken =>
  ⟨taken.1.trans same.clock,
    fun command' awaits => taken.2 command' ((awaitsPump_same same).mp awaits)⟩

theorem takenLatest_take {now : Time} {s : Service} (past : now ≤ s.now) (waiting : Waiting now s) :
    TakenLatest now (s.mailbox.take now).2 { s with mailbox := (s.mailbox.take now).1 } := by
  refine ⟨past, fun command awaits fresh => ?_⟩
  rcases waiting command awaits with held | stale
  · rw [held]
    exact Mailbox.take_some fresh
  · exact absurd fresh (not_le.mpr stale)

/-- A pump with a Runtime hands over what it has taken. -/
theorem LatestInv.pumped {s : Service} (inv : LatestInv s) {now : Time}
    {command : Option StreamCommand} (taken : TakenLatest now command s) :
    LatestInv (s.record (.pumped now s.lease.active true command)) := by
  refine ⟨inv.1.pumped now _ true command, ?_⟩
  unfold LatestWins
  rw [streamLog_record_stream rfl]
  refine ⟨fun now' active delivered command' same awaits held fresh => ?_, inv.2⟩
  obtain ⟨rfl, rfl, -, rfl⟩ := Event.pumped.inj same
  exact taken.2 command' ⟨awaits, held⟩ fresh

theorem waiting_pumped (now now' : Time) (s : Service) (active : Option LeaseSnapshot)
    (delivered : Option StreamCommand) :
    Waiting now' (s.record (.pumped now active true delivered)) := by
  rintro command ⟨awaits, -⟩
  rw [streamLog_record_stream rfl] at awaits
  exact awaits.elim

/-- A pump without a Runtime that took nothing leaves what awaits. -/
theorem latest_pumped_absent {s : Service} (inv : LatestInv s) {now : Time}
    (taken : TakenLatest now none s) :
    LatestInv (s.record (.pumped now s.lease.active false none)) ∧
      LatestRest (s.record (.pumped now s.lease.active false none)) := by
  refine ⟨⟨inv.1.pumped now _ false none, ?_⟩, fun command awaits => Or.inr ?_⟩
  · unfold LatestWins
    rw [streamLog_record_stream rfl]
    exact ⟨by simp [LatestDelivered], inv.2⟩
  · have awaits' : AwaitsPump s command := by
      rw [AwaitsPump, streamLog_record_stream rfl] at awaits
      exact awaits
    refine lt_of_lt_of_le (not_le.mp fun fresh => ?_) (Nat.sub_le_sub_right taken.1 _)
    cases taken.2 command awaits' fresh

/-- What a pump knows once it has looked for a Runtime. -/
def HandingLatest (now : Time) (command : Option StreamCommand) (runtime : Option ℕ) (s : Service) :
    Prop :=
  (command.isSome ∧ runtime.isSome → TakenLatest now command s) ∧
    (¬(command.isSome ∧ runtime.isSome) → LatestRest s)

theorem streamStable_handingLatest (now : Time) (command : Option StreamCommand)
    (runtime : Option ℕ) : StreamStable (HandingLatest now command runtime) := fun s s' same holds =>
  ⟨fun both => streamStable_takenLatest now command s s' same (holds.1 both),
    fun missing => streamStable_latestRest s s' same (holds.2 missing)⟩

/-- The look for a Runtime: a command is only taken where there is one. -/
theorem latest_pumpRuntime (now : Time) (command : Option StreamCommand)
    {E : String → Service → Prop} :
    latestDiscipline.Triple .io (act (.pumpRuntime command) fun _ s =>
      (s.runtime, if s.runtime.isSome ∧ command.isSome then s
        else s.record (.pumped now s.lease.active s.runtime.isSome none)))
      (TakenLatest now command) (HandingLatest now command) E := by
  refine triple_act streamStable_latestInv (streamStable_takenLatest now command)
    (streamStable_handingLatest now command) fun i s inv taken allowed => ?_
  simp only
  split_ifs with both
  · exact ⟨inv, fun _ => taken, fun missing => absurd both.symm missing⟩
  cases command with
  | some command =>
    cases runtime : s.runtime with
    | none => simp [LosesNothing, losesCommand, runtime] at allowed
    | some runtime' => exact absurd ⟨by simp [tick, runtime], rfl⟩ both
  | none =>
    cases runtime : (s.tick i).runtime with
    | none =>
      obtain ⟨inv', rest⟩ := latest_pumped_absent inv taken
      exact ⟨inv', nofun, fun _ => rest⟩
    | some runtime' => exact ⟨inv.pumped taken, nofun, fun _ => waiting_pumped _ _ _ _ _⟩

theorem latest_deliver (now : Time) (command : StreamCommand) {E : String → Service → Prop} :
    latestDiscipline.Triple .io (act (.deliver command) fun i s => s.deliver now command i)
      (TakenLatest now (some command)) (fun _ => LatestRest) E := by
  refine triple_act streamStable_latestInv (streamStable_takenLatest now _)
    (fun _ => streamStable_latestRest) fun i s inv taken _ => ?_
  have same := streamSame_afterDelivery (s.tick i) now command i
  exact ⟨streamStable_latestInv _ _ same (inv.pumped taken),
    streamStable_latestRest _ _ same (waiting_pumped _ _ _ _ _)⟩

/-- What a pump that read the clock at `now` knows before it takes. -/
def PumpingLatest (now : Time) (s : Service) : Prop := now ≤ s.now ∧ Waiting now s

theorem streamStable_pumpingLatest (now : Time) : StreamStable (PumpingLatest now) :=
  fun s s' same holds => ⟨holds.1.trans same.clock, streamStable_waiting now s s' same holds.2⟩

theorem latest_pump :
    latestDiscipline.Triple .io pumpLatest LatestRest (fun _ => LatestRest) fun _ => LatestRest := by
  refine Triple.bind (Q := PumpingLatest) ?_ fun now => ?_
  · exact triple_act streamStable_latestInv streamStable_latestRest streamStable_pumpingLatest
      fun i s inv holds _ => ⟨inv, le_rfl, holds⟩
  refine Triple.bind (Q := fun _ => PumpingLatest now) ?_ fun busy => ?_
  · exact triple_act streamStable_latestInv (streamStable_pumpingLatest now)
      (fun _ => streamStable_pumpingLatest now) fun i s inv holds _ => ⟨inv, holds⟩
  refine .ite (fun _ s _ holds => holds.2.mono holds.1) fun _ => ?_
  refine Triple.bind (Q := TakenLatest now) ?_ fun command => ?_
  · exact triple_act streamStable_latestInv (streamStable_pumpingLatest now)
      (streamStable_takenLatest now) fun i s inv holds _ =>
        ⟨inv.of_eq (inv.1.of_eq rfl rfl) rfl, takenLatest_take holds.1 holds.2⟩
  refine Triple.bind (latest_pumpRuntime now command) fun runtime => ?_
  match command, runtime with
  | some command, some runtime =>
    exact (latest_deliver now command).pre fun s _ holds => holds.1 ⟨rfl, rfl⟩
  | none, _ => exact fun s _ holds => holds.2 nofun
  | some command, none => exact fun s _ holds => holds.2 nofun

theorem latestRules : StreamRules LatestInv LatestRest LosesNothing where
  inv_stable := streamStable_latestInv
  rest_stable := streamStable_latestRest
  reset _ inv := inv.of_eq inv.1.reset rfl
  clear _ inv ended := ⟨inv.of_eq (inv.1.of_eq rfl rfl) rfl, waiting_of_ended ended⟩
  issue clientId now _ _ inv _ _ _ _ :=
    ⟨inv.of_eq (inv.1.issue clientId now) rfl, waiting_issue inv.1 clientId now _⟩
  receive := latest_receive
  pump := latest_pump

/-- In every run in which no command is stored over one with a higher or equal sequence, and none is
taken while there is no Runtime, every pump delivers the latest command. -/
theorem latestWins_of_reach (config : ServiceConfig)
    (c : Config Thread Service Input Site String)
    (reach : (service config).Reach (fun _ => LosesNothing) c) : LatestWins c.shared :=
  ((latestRules.governs config ⟨streamRecord_start config, trivial⟩
    (waiting_of_ended rfl)).inv_of_reach reach).2

open Scenario in
/-- A command received after its client acquired the lease, and delivered at once. -/
theorem latestWins_of_reach_once : ∃ c,
    (service config).Reach (fun _ => LosesNothing) c ∧
    c.shared.streamLog.head? = some (.pumped 0 (some ⟨"a", 1, milliseconds 250⟩) true
      (some (streamed "a" 1 7 0))) ∧ LatestWins c.shared := by
  obtain ⟨c, reach, seen⟩ := Machine.exists_reach_of_run (M := service config)
    (fun _ site _ s => !losesCommand site s) (fun s => s.streamLog.head?) streamOnce
    (fun _ _ i _ passed => show LosesNothing _ i _ by simpa [LosesNothing] using passed) (by rfl)
  exact ⟨c, reach, seen, latestWins_of_reach config c reach⟩

/-! ## A command that is shadowed -/

namespace Scenario

/-- A command of the first lease stays in the mailbox while the worker is busy; the lease times out
and is replaced between two expiry polls, and the first command of the second lease is received. -/
def shadowed : List (Move Thread Input Op) :=
  connect ++
  .start .runIteration :: go .io 2 ++ io { count := 1 } ++ io { request := some (acquire "a") } ++
    go .io 3 ++ io { request := some enable } ++ go .io 10 ++
  .start .controlWorkerIteration :: go .worker 5 ++
  .start .runIteration :: io { elapsed := milliseconds 1 } ++ go .io 1 ++ io { count := 1 } ++
    go .io 1 ++ io { command := some (streamed "a" 1 100 0) } ++ go .io 7 ++
  .start .runIteration :: io { elapsed := milliseconds 249 } ++ go .io 1 ++
    io { elapsed := milliseconds 2, count := 1 } ++ io { request := some (acquire "b") } ++
    go .io 4 ++ io { command := some (streamed "b" 2 1 0) } ++ go .io 7 ++
  go .worker 5 ++
  .start .runIteration :: io { elapsed := milliseconds 1 } ++ go .io 7

end Scenario

open Scenario in
/-- The first command of the second lease is lost: the next pump delivers nothing. -/
theorem shadowed_not_delivered :
    ¬ ∀ c, (service config).Reach (fun _ _ _ _ => True) c → LatestWins c.shared := by
  intro wins
  obtain ⟨c, reach, seen⟩ := Machine.exists_reach_of_run (M := service config)
    (b := [.pumped (milliseconds 253) (some ⟨"b", 2, milliseconds 502⟩) true none,
      .authorized (streamed "b" 2 1 (milliseconds 252)),
      .authorized (streamed "a" 1 100 (milliseconds 1)),
      .pumped 0 (some ⟨"a", 1, milliseconds 250⟩) true none])
    (fun _ _ _ _ => true) streamLog shadowed (fun _ _ _ _ _ => trivial) (by decide)
  have delivered := wins c reach
  rw [LatestWins, seen] at delivered
  have lost := delivered.1 _ _ _ (streamed "b" 2 1 (milliseconds 252)) rfl (Or.inl rfl) rfl (by decide)
  cases lost

end MotorDrive.Dds
