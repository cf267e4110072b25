import MotorDrive.Library.Threads
import MotorDrive.Dds.Lease

/-!
# The DDS service

`CycloneService::Impl` of `dds/src/cyclone_service.cpp` as a system of threads: the DDS I/O thread
(`run`), the control worker (`control_worker_loop`) and the Runtime behind them.  A section is what
one thread does while it holds one of the service's mutexes, one clock reading, one DDS call or one
call of the Runtime; between two sections of a thread any other thread may run.

The Runtime is seen through the calls the service makes and the motion status it reports: what it
answers and how its motions end is an input.  The log records what the service authorizes, hands to
the Runtime and publishes, newest first.
-/

namespace MotorDrive.Dds

open Threads

/-- `articore_wire_ControlOperation`, in the order of the IDL. -/
inductive ControlOperation
  | acquireLease | heartbeat | releaseLease | connect | disconnect | configureMode | enable | disable
  | setZero | clearFaults | estop | recover | setSpeedPercent | setMaxSpeed | setMaxAcceleration
  | solveIk | movePose | moveLinear | moveCircular | stopMotion | setGrippers | setTcpOffset
  | resetTcpOffset | startGravityCompensation | stopGravityCompensation | startBimanualFollow
  | stopBimanualFollow | queryState | queryHealth | getPose | getTcpOffset | getJointLimits
  | getSpeedPercent | getMaxSpeed | getMaxAcceleration | hasGrippers | getGravityStatus
  | getBimanualStatus | getHardwareTopology
  deriving DecidableEq, Repr

/-- `operation >= articore_wire_QUERY_STATE`. -/
def ControlOperation.queryOnly : ControlOperation → Bool
  | .queryState | .queryHealth | .getPose | .getTcpOffset | .getJointLimits | .getSpeedPercent
  | .getMaxSpeed | .getMaxAcceleration | .hasGrippers | .getGravityStatus | .getBimanualStatus
  | .getHardwareTopology => true
  | _ => false

/-- `finite_motion`. -/
def ControlOperation.finiteMotion : ControlOperation → Bool
  | .movePose | .moveLinear | .moveCircular => true
  | _ => false

/-- `requires_pv_percentage_limit_semantics`. -/
def ControlOperation.requiresPvPercentageLimitSemantics : ControlOperation → Bool
  | .setMaxSpeed | .setMaxAcceleration | .getMaxSpeed | .getMaxAcceleration => true
  | _ => false

/-- `diagnostic_operation`. -/
def ControlOperation.diagnosticOperation : ControlOperation → Option String
  | .configureMode => some "CONFIGURE_MODE"
  | .clearFaults => some "CLEAR_FAULTS"
  | .setGrippers => some "SET_GRIPPERS"
  | _ => none

def kPvPercentageLimitsProtocolMinor : ℕ := 3

/-- The fields of `articore_wire_ControlRequest` that the service reads itself; the operands go to
the Runtime unread. -/
structure ControlRequest where
  identity : MessageIdentity
  requestId : ℕ
  leaseId : ℕ
  operation : ControlOperation
  deriving DecidableEq, Repr

/-- `articore_wire_MotionEventKind`. -/
inductive MotionEventKind
  | accepted | completed | cancelled | failed
  deriving DecidableEq, Repr

/-- The client and number of a motion request. -/
structure RequestKey where
  clientId : String
  requestId : ℕ
  deriving DecidableEq, Repr

def ControlRequest.key (request : ControlRequest) : RequestKey :=
  ⟨request.identity.clientId, request.requestId⟩

/-- `ArticoreMotionState` of a motion that has been started. -/
inductive MotionState
  | running | completed | cancelled | fault
  deriving DecidableEq, Repr

/-- What the Runtime does to its current motion in one step. -/
inductive Outcome
  | keep | complete | resume | cancel | fault
  deriving DecidableEq, Repr

/-- A completed motion may resume, and `terminate_trajectory_locked` ends a running or a completed
one; a cancelled or failed motion stays as it is. -/
def MotionState.apply : MotionState → Outcome → MotionState
  | .running, .complete => .completed
  | .completed, .resume => .running
  | .running, .cancel | .completed, .cancel => .cancelled
  | .running, .fault | .completed, .fault => .fault
  | state, _ => state

/-- A motion of the Runtime, by the request that started it. -/
structure Motion where
  key : RequestKey
  state : MotionState
  deriving DecidableEq, Repr

/-- One entry of the log. -/
inductive Event
  | authorized (command : StreamCommand)
  | pumped (now : Time) (active : Option LeaseSnapshot) (runtime : Bool)
      (delivered : Option StreamCommand)
  | motion (key : RequestKey) (state : MotionState)
  | motionEvent (key : RequestKey) (kind : MotionEventKind) (error : ProtocolError)
      (message : String)
  | stateRead (arrived : Bool)
  | statePublished (pending : Option RequestKey)
  | reply (key : RequestKey) (error : ProtocolError) (message : String)
  deriving DecidableEq, Repr

/-- What the service does not choose at a section: the time since the last section of any thread, the
samples DDS hands over, whether a DDS or Runtime call succeeds, the text of
`describe_runtime_rejection` and what the Runtime does meanwhile. -/
structure Input where
  elapsed : Time := 0
  count : ℤ := 0
  request : Option ControlRequest := none
  command : Option StreamCommand := none
  status : Except Failure Unit := .ok ()
  rejection : Option String := none
  outcome : Outcome := .keep
  due : Bool := false

/-- `ServiceConfig`. -/
structure ServiceConfig where
  robotId : String
  canRetryInitial : Time := milliseconds 250
  canRetryMax : Time := milliseconds 5000
  deriving DecidableEq, Repr

/-- The threads. -/
inductive Thread
  | io | worker | runtime
  deriving DecidableEq, Repr

/-- `CycloneService::Impl` with the clock, the Runtime's motion and the log.  `handover` is the
request a thread holds between the two halves of a hand-over: accepted and not yet recorded, or taken
from the record and its terminal event not yet written. -/
structure Service where
  now : Time := 0
  lease : LeaseManager := .initial kLeasePeriod
  mailbox : Mailbox := none
  runtime : Option ℕ := none
  nextRuntime : ℕ := 0
  motion : Option Motion := none
  runtimeSuspended : Bool := false
  runtimeError : String := ""
  nextRuntimeRetry : Time := 0
  retryDelay : Time := milliseconds 250
  controlQueue : List ControlRequest := []
  controlWorkerStop : Bool := false
  controlWorkerExited : Bool := false
  controlBusy : Bool := false
  pendingMotionRequest : ℕ := 0
  pendingMotionClient : String := ""
  stopped : Bool := false
  handover : Thread → Option RequestKey := fun _ => none
  log : List Event := []

def kControlQueueCapacity : ℕ := 32

/-- The sections, by what they do. -/
inductive Site
  | clockNow
  | leaseExpire
  | leaseAcquire (clientId : String) (now : Time)
  | leaseHeartbeat | leaseRelease | leaseAuthorize | leaseSnapshot
  | leaseRefresh | leaseRevoke
  | authorizeStream (command : StreamCommand)
  | mailboxClear
  | mailboxStore (command : StreamCommand)
  | mailboxTake
  | busyRead | busyWrite
  | pumpRuntime (command : Option StreamCommand)
  | deliver (command : StreamCommand)
  | runtimeSnapshot | runtimeWrite | runtimeCreate | runtimeConnect
  | runtimeHealth | onControlLost | execute (request : ControlRequest) | runtimeStep
  | stateRead | stateWrite
  | pendingTake (kind : MotionEventKind)
  | pendingRecord (request : ControlRequest)
  | motionWrite (kind : MotionEventKind) (key : RequestKey)
  | replyWrite
  | wait | takeRequest | takeCommand | due | published
  | queuePush | queuePop | workerStop | workerJoin | stop
  deriving DecidableEq

/-- A program of the service. -/
abbrev Program := Proc Service Input Site String

namespace Service

/-- The clock moves on before every section. -/
def tick (s : Service) (i : Input) : Service := { s with now := s.now + i.elapsed }

/-- The log with one more entry. -/
def record (s : Service) (e : Event) : Service := { s with log := e :: s.log }

/-- The service with another state of the lease. -/
def setLease (s : Service) (lease : LeaseManager) : Service := { s with lease }

/-- What a thread holds in a hand-over. -/
def hold (s : Service) (t : Thread) (key : Option RequestKey) : Service :=
  { s with handover := fun u => if u = t then key else s.handover u }

/-- The request in the pending-motion record; number 0 stands for none. -/
def pendingMotion (s : Service) : Option RequestKey :=
  if s.pendingMotionRequest = 0 then none else some ⟨s.pendingMotionClient, s.pendingMotionRequest⟩

/-- The pending section of `finish_pending_motion`. -/
def takePending (s : Service) (t : Thread) : Service :=
  { s with pendingMotionRequest := 0, pendingMotionClient := "" }.hold t s.pendingMotion

/-- The recording section of `execute_queued_request`. -/
def recordPending (s : Service) (request : ControlRequest) : Service :=
  { s with
    pendingMotionRequest := request.requestId
    pendingMotionClient := request.identity.clientId }.hold .worker none

/-- The write of a motion event, which ends or begins a hand-over. -/
def writeEvent (s : Service) (t : Thread) (key : RequestKey) (kind : MotionEventKind)
    (error : ProtocolError) (message : String) : Service :=
  (s.hold t (if kind = .accepted then some key else none)).record (.motionEvent key kind error message)

/-- `publish_motion_event`: a failed write throws. -/
def publish (s : Service) (t : Thread) (key : RequestKey) (kind : MotionEventKind)
    (error : ProtocolError) (message : String) (i : Input) : Except String Unit × Service :=
  match i.status with
  | .ok _ => (.ok (), s.writeEvent t key kind error message)
  | .error _ => (.error "write motion event", s)

/-- The Runtime's motion after an outcome, which the log records when it changes the motion. -/
def applyOutcome (s : Service) (o : Outcome) : Service :=
  match s.motion with
  | none => s
  | some motion =>
    if motion.state.apply o = motion.state then s
    else { s with motion := some { motion with state := motion.state.apply o } }.record
      (.motion motion.key (motion.state.apply o))

/-- `trajectory_queue_.empty()` and the trajectory idle or completed; a motion is never queued by the
service's operations. -/
def motionArrived (s : Service) : Bool :=
  match s.motion with
  | none => true
  | some motion => motion.state = .completed

/-- `execute`: a motion is started unless one is running (`move_pose`, `move_linear` and
`move_circular` do not enqueue), `stop_motion` cancels, and every other operation answers as the
Runtime does and may end the current motion. -/
def execute (s : Service) (request : ControlRequest) (i : Input) : Except Failure Unit × Service :=
  match i.status with
  | .error failure =>
    (.error failure, if request.operation.finiteMotion ∨ request.operation = .stopMotion then s
      else s.applyOutcome i.outcome)
  | .ok _ =>
    if request.operation.finiteMotion then
      if s.motion.any fun motion => motion.state = .running then
        (.error ⟨.wrongState, "arm commands are owned by an active native trajectory"⟩, s)
      else (.ok (), { s with motion := some ⟨request.key, .running⟩ }.record
        (.motion request.key .running))
    else if request.operation = .stopMotion then (.ok (), s.applyOutcome .cancel)
    else (.ok (), s.applyOutcome i.outcome)

/-- `set_joint_pv`, `set_joint_mit_fast` or `set_joint_mit` of a streamed command, whose status goes
to `runtime_error_`. -/
def deliver (s : Service) (now : Time) (command : StreamCommand) (i : Input) : Unit × Service :=
  let s := (s.record (.pumped now s.lease.active true (some command))).applyOutcome i.outcome
  match i.status with
  | .ok _ => ((), s)
  | .error failure => ((), { s with runtimeError := failure.message })

/-- The queue section of `control_worker_loop`: `none` when the worker is to stop. -/
def popRequest (s : Service) : Option (Option ControlRequest) × Service :=
  if s.controlWorkerStop then (none, { s with controlWorkerExited := true })
  else match s.controlQueue with
    | [] => (some none, s)
    | request :: queue => (some (some request), { s with controlQueue := queue })

end Service

open Service

/-- One section that cannot throw. -/
def act {α : Type} (site : Site) (f : Input → Service → α × Service) : Program α :=
  Proc.atomic site fun i s => f i (s.tick i)

/-- One section that may throw. -/
def actThrow {α : Type} (site : Site) (f : Input → Service → Except String α × Service) :
    Program α :=
  Proc.await site (fun _ => true) fun i s => f i (s.tick i)

/-- `Clock::now()`. -/
def clockNow : Program Time := act .clockNow fun _ s => (s.now, s)

/-- `runtime_snapshot`. -/
def runtimeSnapshot : Program (Option ℕ) := act .runtimeSnapshot fun _ s => (s.runtime, s)

/-! ## Motion events -/

/-- `publish_motion_event`. -/
def publishMotionEvent (t : Thread) (key : RequestKey) (kind : MotionEventKind)
    (error : ProtocolError) (message : String) : Program Unit :=
  actThrow (.motionWrite kind key) fun i s => s.publish t key kind error message i

/-- `finish_pending_motion`. -/
def finishPendingMotion (t : Thread) (kind : MotionEventKind) (error : ProtocolError)
    (message : String) : Program Unit := do
  let pending ← act (.pendingTake kind) fun _ s =>
    if s.pendingMotionRequest = 0 then (none, s) else (s.pendingMotion, s.takePending t)
  match pending with
  | none => pure ()
  | some key => publishMotionEvent t key kind error message

/-- `cancel_pending_motion`. -/
def cancelPendingMotion (t : Thread) (error : ProtocolError) (message : String) : Program Unit :=
  finishPendingMotion t .cancelled error message

/-- The lost callback of the constructor; `on_control_lost` stops the motion and disables. -/
def onLost (reason : String) : Program Unit := do
  act .mailboxClear fun _ s => ((), { s with mailbox := s.mailbox.clear })
  let runtime ← runtimeSnapshot
  Proc.when runtime.isSome (act .onControlLost fun _ s => ((), s.applyOutcome .cancel))
  cancelPendingMotion .io .noLease reason

/-- `notify_lost` after a lease operation. -/
def notifyLost : Option String → Program Unit
  | none => pure ()
  | some reason => onLost reason

section Programs

variable (config : ServiceConfig)

/-! ## Requests on the I/O thread -/

/-- `finish_reply`. -/
def finishReply (request : ControlRequest) (error : ProtocolError) (message : String) :
    Program Unit :=
  actThrow .replyWrite fun i s =>
    match i.status with
    | .ok _ => (.ok (), s.record (.reply request.key error message))
    | .error _ => (.error "write control reply", s)

/-- `enqueue_control_request`. -/
def enqueueControlRequest (request : ControlRequest) : Program Bool :=
  act .queuePush fun _ s =>
    if s.controlWorkerStop ∨ kControlQueueCapacity ≤ s.controlQueue.length then (false, s)
    else (true, { s with controlQueue := s.controlQueue ++ [request] })

/-- The authorization of a request that changes something. -/
def authorizeControl (request : ControlRequest) : Program ProtocolError :=
  if request.operation.queryOnly then pure .ok else do
    let now ← clockNow
    act .leaseAuthorize fun _ s =>
      let (lease, error) := s.lease.authorize request.identity.clientId request.leaseId
        request.identity.sequence .control false now
      (error, s.setLease lease)

/-- `handle_request` after the lease operations. -/
def handleQueued (request : ControlRequest) : Program Unit := do
  let error ← authorizeControl request
  if error ≠ .ok then finishReply request error "" else do
    let queued ← enqueueControlRequest request
    Proc.when (!queued) (finishReply request .busy "control request queue is full")

/-- `handle_request`. -/
def handleRequest (request : ControlRequest) : Program Unit :=
  let error := validateIdentity request.identity config.robotId
  if error ≠ .ok then
    finishReply request error "request identity or protocol version rejected"
  else
    match request.operation with
    | .acquireLease => do
      let now ← clockNow
      let acquired ← act (.leaseAcquire request.identity.clientId now) fun _ s =>
        let (lease, acquired) := s.lease.acquire request.identity.clientId now
        (acquired, s.setLease lease)
      match acquired with
      | .error failure => finishReply request (mapRuntimeError failure.code) failure.message
      | .ok _ => finishReply request .ok ""
    | .heartbeat => do
      let now ← clockNow
      let error ← act .leaseHeartbeat fun _ s =>
        let (lease, error) := s.lease.heartbeat request.identity.clientId request.leaseId
          request.identity.sequence now
        (error, s.setLease lease)
      finishReply request error ""
    | .releaseLease => do
      let (error, lost) ← act .leaseRelease fun _ s =>
        let (lease, error, lost) := s.lease.release request.identity.clientId request.leaseId
          "lease released"
        ((error, lost), s.setLease lease)
      notifyLost lost
      finishReply request error ""
    | _ => handleQueued request

/-- One turn of the loop of `take_control_requests`; it says whether to go on. -/
def takeControlRequest : Program Bool := do
  let sample ← act .takeRequest fun i s => (i.request, s)
  match sample with
  | none => pure false
  | some request => do
    handleRequest config request
    pure true

/-- `take_control_requests`. -/
def takeControlRequests : Program Unit := Proc.loop (takeControlRequest config) 32

/-! ## Stream commands -/

/-- The authorization of a valid stream command, and its storing. -/
def authorizeAndStore (command : StreamCommand) : Program Unit := do
  let error ← act (.authorizeStream command) fun _ s =>
    let (lease, error) := s.lease.authorize command.identity.clientId command.leaseId
      command.identity.sequence .stream true command.receivedAt
    (error, if error = .ok then (s.setLease lease).record (.authorized command) else s.setLease lease)
  Proc.when (error = .ok)
    (act (.mailboxStore command) fun _ s => ((), { s with mailbox := s.mailbox.store command }))

/-- One turn of the loop of `take_stream_commands`; it says whether to go on. -/
def takeStreamCommand : Program Bool := do
  let sample ← act .takeCommand fun i s => (i.command, s)
  match sample with
  | none => pure false
  | some wire => do
    let receivedAt ← clockNow
    let command := { wire with receivedAt }
    Proc.when (validateStream command config.robotId = .ok) (authorizeAndStore command)
    pure true

/-- `take_stream_commands`. -/
def takeStreamCommands : Program Unit := Proc.loop (takeStreamCommand config) 64

/-- `pump_latest`, with the clock reading its caller passes. -/
def pumpLatest : Program Unit := do
  let now ← clockNow
  let busy ← act .busyRead fun _ s => (s.controlBusy, s)
  if busy then pure () else
    let command ← act .mailboxTake fun _ s =>
      let (mailbox, command) := s.mailbox.take now
      (command, { s with mailbox })
    let runtime ← act (.pumpRuntime command) fun _ s =>
      (s.runtime, if s.runtime.isSome ∧ command.isSome then s
        else s.record (.pumped now s.lease.active s.runtime.isSome none))
    match command, runtime with
    | some command, some _ => act (.deliver command) fun i s => s.deliver now command i
    | _, _ => pure ()

/-! ## State publication -/

/-- `publish_state`; the payload besides `motion_arrived` is not read back. -/
def publishState : Program Unit := do
  let runtime ← runtimeSnapshot
  if runtime.isNone then pure () else
    let state ← act .stateRead fun i s =>
      match i.status with
      | .ok _ => (some s.motionArrived, s.record (.stateRead s.motionArrived))
      | .error _ => (none, s)
    match state with
    | none => pure ()
    | some arrived =>
      actThrow .stateWrite fun i s =>
        match i.status with
        | .ok _ => (.ok (), s)
        | .error _ => (.error "write state", s)
      Proc.when arrived (finishPendingMotion .io .completed .ok "motion completed")
      act .published fun _ s => ((), s.record (.statePublished s.pendingMotion))

/-! ## The I/O thread -/

/-- `run` returns. -/
def runReturns : Program Unit := act .stop fun _ s => ((), { s with stopped := true })

/-- One iteration of the loop of `run`. -/
def runIteration : Program Unit :=
  Proc.tryCatch (do
    let now ← Proc.await .clockNow (fun s => !s.stopped)
      fun i s => (.ok (s.tick i).now, s.tick i)
    let lost ← act .leaseExpire fun _ s =>
      let (lease, _, lost) := s.lease.expireIfNeeded now
      (lost, s.setLease lease)
    notifyLost lost
    let count ← act .wait fun i s => (i.count, s)
    if count < 0 then runReturns else
      Proc.when (0 < count) do
        takeControlRequests config
        takeStreamCommands config
      pumpLatest
      let due ← act .due fun i s => (i.due, s)
      Proc.when due publishState) fun _ => runReturns

/-- `stop_control_worker`. -/
def stopControlWorker : Program Unit := do
  act .workerStop fun _ s => ((), { s with controlWorkerStop := true, controlQueue := [] })
  Proc.await .workerJoin (fun s => s.controlWorkerExited) fun i s => (.ok (), s.tick i)

/-- The end of `run`, once a stop was requested. -/
def runShutdown : Program Unit := do
  Proc.await .clockNow (fun s => !s.stopped) fun i s => (.ok (), s.tick i)
  stopControlWorker
  let lost ← act .leaseRevoke fun _ s =>
    let (lease, lost) := s.lease.revoke "runtime service is stopping"
    (lost, s.setLease lease)
  notifyLost lost
  act .mailboxClear fun _ s => ((), { s with mailbox := s.mailbox.clear })
  let runtime ← runtimeSnapshot
  Proc.when runtime.isSome do
    act .onControlLost fun _ s => ((), s.applyOutcome .cancel)
    act .runtimeWrite fun _ s =>
      ((), if s.runtime = runtime then { s with runtime := none } else s)
  runReturns

/-! ## The control worker -/

/-- The failure branches of `ensure_runtime`. -/
def retryLater (now : Time) (failure : Failure) : Program Unit :=
  act .runtimeWrite fun _ s =>
    ((), { s with
      runtimeError := failure.message
      nextRuntimeRetry := now + s.retryDelay
      retryDelay := min (s.retryDelay * 2) config.canRetryMax })

/-- `ensure_runtime` past its guard. -/
def createRuntime (now : Time) : Program Unit := do
  let created ← act .runtimeCreate fun i s => (i.status, s)
  match created with
  | .error failure => retryLater config now failure
  | .ok _ => do
    let connected ← act .runtimeConnect fun i s => (i.status, s)
    match connected with
    | .error failure => retryLater config now failure
    | .ok _ => act .runtimeWrite fun _ s =>
      ((), { s with
        runtime := some s.nextRuntime
        nextRuntime := s.nextRuntime + 1
        motion := none
        runtimeError := ""
        retryDelay := config.canRetryInitial })

/-- `ensure_runtime`. -/
def ensureRuntime (now : Time) : Program Unit := do
  let wanted ← act .runtimeSnapshot fun _ s =>
    (!(s.runtime.isSome || s.runtimeSuspended || now < s.nextRuntimeRetry), s)
  Proc.when wanted (createRuntime config now)

/-- `execute`. -/
def execute (request : ControlRequest) : Program (Except Failure Unit) :=
  act (.execute request) fun i s => s.execute request i

/-- Whether the lease is no longer the one a request was made under. -/
def leaseLost (lease : Option LeaseSnapshot) (request : ControlRequest) (now : Time) : Bool :=
  !(lease.any fun lease => lease.clientId = request.identity.clientId ∧
    lease.leaseId = request.leaseId ∧ now < lease.expiresAt)

/-- `lease_.snapshot()` compared with the request, and the clock reading of the comparison. -/
def checkLease (request : ControlRequest) : Program Bool := do
  let lease ← act .leaseSnapshot fun _ s => (s.lease.active, s)
  let now ← clockNow
  pure (leaseLost lease request now)

/-- `protocol_status`. -/
def protocolStatus : Except Failure Unit → ProtocolError
  | .ok _ => .ok
  | .error failure => mapRuntimeError failure.code

/-- `status.message()`. -/
def statusMessage : Except Failure Unit → String
  | .ok _ => ""
  | .error failure => failure.message

/-- The motion events of `execute_queued_request`. -/
def finishMotionRequest (request : ControlRequest) (status : Except Failure Unit)
    (leaseError : ProtocolError) : Program Unit :=
  if status.isOk ∧ leaseError = .ok then do
    publishMotionEvent .worker request.key .accepted .ok "motion accepted"
    act (.pendingRecord request) fun _ s => ((), s.recordPending request)
    let lost ← checkLease request
    Proc.when lost
      (cancelPendingMotion .worker .noLease "control lease expired after motion accepted")
  else
    publishMotionEvent .worker request.key .failed
      (if leaseError ≠ .ok then leaseError else protocolStatus status)
      (if leaseError ≠ .ok then "control lease expired during execution" else statusMessage status)

/-- The refresh of the lease after an operation. -/
def refreshLease (request : ControlRequest) : Program ProtocolError :=
  if request.operation.queryOnly then pure .ok else do
    let now ← clockNow
    act .leaseRefresh fun _ s =>
      let (lease, error) := s.lease.refreshAfterControl request.identity.clientId request.leaseId now
      (error, s.setLease lease)

/-- The motion events after an operation. -/
def finishMotion (request : ControlRequest) (status : Except Failure Unit)
    (leaseError : ProtocolError) : Program Unit :=
  if request.operation.finiteMotion then finishMotionRequest request status leaseError
  else Proc.when (request.operation = .stopMotion ∧ status.isOk)
    (cancelPendingMotion .worker .ok "motion cancelled")

/-- The message of a reply: a failed diagnostic operation describes the Runtime's health. -/
def replyMessage (request : ControlRequest) (status : Except Failure Unit) : Program String :=
  if status.isOk ∨ request.operation.diagnosticOperation.isNone then pure (statusMessage status)
  else act .runtimeHealth fun i s => (i.rejection.getD (statusMessage status), s)

/-- The reply after an operation. -/
def replyAfter (request : ControlRequest) (status : Except Failure Unit)
    (leaseError : ProtocolError) : Program Unit := do
  let message ← replyMessage request status
  if leaseError ≠ .ok then
    finishReply request leaseError "control lease expired during execution"
  else
    finishReply request (protocolStatus status) message

/-- `execute_queued_request` once the Runtime is there. -/
def executeOnRuntime (request : ControlRequest) (runtime : ℕ) : Program Unit := do
  let status ← execute request
  let leaseError ← refreshLease request
  finishMotion request status leaseError
  replyAfter request status leaseError
  Proc.when (request.operation = .disconnect ∧ status.isOk) (act .runtimeWrite fun _ s =>
    ((), { s with
      runtime := if s.runtime = some runtime then none else s.runtime
      runtimeError := ""
      runtimeSuspended := true }))

/-- The Runtime for a request; a `CONNECT` builds a new one. -/
def runtimeFor (request : ControlRequest) : Program (Option ℕ) := do
  let runtime ← runtimeSnapshot
  if request.operation = .connect ∧ runtime.isNone then
    let now ← clockNow
    act .runtimeWrite fun _ s => ((), { s with runtimeSuspended := false, nextRuntimeRetry := now })
    ensureRuntime config now
    runtimeSnapshot
  else pure runtime

/-- Whether a request that changes something lost its lease in the queue. -/
def lostInQueue (request : ControlRequest) : Program Bool :=
  if request.operation.queryOnly then pure false else checkLease request

/-- `execute_queued_request`. -/
def executeQueuedRequest (request : ControlRequest) : Program Unit := do
  let lost ← lostInQueue request
  if lost then
    finishReply request .noLease "control lease expired while request was queued"
  else if request.operation.requiresPvPercentageLimitSemantics ∧
      request.identity.protocolMinor < kPvPercentageLimitsProtocolMinor then
    finishReply request .versionMismatch
      "PV maximum speed and acceleration use percentages in protocol 1.3; upgrade the SDK before calling this operation"
  else
    let runtime ← runtimeFor config request
    match runtime with
    | none => do
      let detail ← act .runtimeSnapshot fun _ s => (s.runtimeError, s)
      finishReply request .transportError (if detail = "" then "CAN is unavailable" else detail)
    | some runtime => executeOnRuntime request runtime

/-- One turn of `control_worker_loop`. -/
def controlWorkerIteration : Program Unit := do
  let request ← Proc.await .queuePop (fun s => !s.controlWorkerExited)
    fun i s => (.ok (s.tick i).popRequest.1, (s.tick i).popRequest.2)
  match request with
  | none => pure ()
  | some none => do
    let now ← clockNow
    ensureRuntime config now
  | some (some request) => do
    act .busyWrite fun _ s => ((), { s with controlBusy := true })
    Proc.tryCatch (executeQueuedRequest config request) fun error =>
      act .runtimeWrite fun _ s => ((), { s with runtimeError := error })
    act .busyWrite fun _ s => ((), { s with controlBusy := false })

end Programs

/-- A step of the Runtime's own threads. -/
def runtimeStep : Program Unit := act .runtimeStep fun i s => ((), s.applyOutcome i.outcome)

/-! ## The system -/

/-- What the threads do, over and over. -/
inductive Op
  | runIteration | runShutdown | controlWorkerIteration | runtimeStep

/-- The service as a system of threads. -/
def service (config : ServiceConfig) : Machine Thread Service Input Site String Op where
  thread
    | .runIteration | .runShutdown => .io
    | .controlWorkerIteration => .worker
    | .runtimeStep => .runtime
  body
    | .runIteration => runIteration config
    | .runShutdown => runShutdown
    | .controlWorkerIteration => controlWorkerIteration config
    | .runtimeStep => runtimeStep
  start := { retryDelay := config.canRetryInitial }

/-! ## Schedules -/

namespace Scenario

/-- A robot, and the messages of two clients. -/
def config : ServiceConfig := { robotId := "yunyi" }

def identity (clientId : String) (sequence : ℕ) : MessageIdentity :=
  { robotId := "yunyi", clientId, sequence }

def acquire (clientId : String) : ControlRequest := ⟨identity clientId 0, 1, 0, .acquireLease⟩

def enable : ControlRequest := ⟨identity "a" 1, 2, 1, .enable⟩

def streamed (clientId : String) (leaseId sequence : ℕ) (receivedAt : Time) : StreamCommand :=
  { identity := identity clientId sequence, leaseId, receivedAt }

/-- `n` sections of a thread with no input. -/
def go (t : Thread) (n : ℕ) : List (Move Thread Input Op) := List.replicate n (.advance t {})

/-- The worker connects the Runtime. -/
def connect : List (Move Thread Input Op) := .start .controlWorkerIteration :: go .worker 6

/-- One section of the I/O thread. -/
def io (i : Input) : List (Move Thread Input Op) := [.advance .io i]

/-- A client acquires the lease, and its first command is delivered. -/
def streamOnce : List (Move Thread Input Op) :=
  connect ++
  .start .runIteration :: go .io 2 ++ io { count := 1 } ++ io { request := some (acquire "a") } ++
    go .io 4 ++ io { command := some (streamed "a" 1 7 0) } ++ go .io 9

end Scenario

end MotorDrive.Dds
