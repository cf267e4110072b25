import MotorDrive.Dds.Service

/-!
# Sections that are neutral

Most sections of the service touch neither the stream path nor the pending-motion record: they read
the clock, move requests through the queue, replace the Runtime, answer, or renew the lease of a
control request.  `Neutral R` says that the relation `R` holds across each of them; the theorems below
then carry `R` through every function that is made of such sections, once for all relations.
-/

namespace MotorDrive.Dds

open Proc Service

/-- Only the handle of the Runtime, the request queue or a flag differs. -/
structure Frame (s s' : Service) : Prop where
  now : s'.now = s.now
  lease : s'.lease = s.lease
  mailbox : s'.mailbox = s.mailbox
  request : s'.pendingMotionRequest = s.pendingMotionRequest
  client : s'.pendingMotionClient = s.pendingMotionClient
  handover : s'.handover = s.handover
  motion : s'.motion = s.motion ∨ s'.motion = none
  log : s'.log = s.log

/-- The relation holds across every neutral section. -/
structure Neutral (R : Service → Service → Prop) : Prop where
  tick : ∀ s i s', R (s.tick i) s' → R s s'
  frame : ∀ s s', Frame s s' → R s s'
  reply : ∀ s key error message, R s (s.record (.reply key error message))
  outcome : ∀ s o, R s (s.applyOutcome o)
  motion : ∀ s key, R s ({ s with motion := some ⟨key, .running⟩ }.record (.motion key .running))
  control : ∀ s clientId leaseId sequence refresh now,
    R s (s.setLease (s.lease.authorize clientId leaseId sequence .control refresh now).1)
  refresh : ∀ s clientId leaseId now,
    R s (s.setLease (s.lease.refreshAfterControl clientId leaseId now).1)

/-- Every section keeps the relation. -/
abbrev Along (R : Service → Service → Prop) (_ : Site) (_ : Service → Bool)
    (f : Input → Service → Service) : Prop :=
  ∀ i s, R s (f i s)

namespace Neutral

variable {R : Service → Service → Prop} (neutral : Neutral R) {α : Type}
include neutral

theorem refl (s : Service) : R s s :=
  neutral.frame s s ⟨rfl, rfl, rfl, rfl, rfl, rfl, Or.inl rfl, rfl⟩

theorem act {site : Site} {f : Input → Service → α × Service} (along : ∀ i s, R s (f i s).2) :
    (act site f).Every (Along R) :=
  every_atomic fun i s => neutral.tick s i _ (along i _)

theorem actThrow {site : Site} {f : Input → Service → Except String α × Service}
    (along : ∀ i s, R s (f i s).2) : (actThrow site f).Every (Along R) :=
  every_await fun i s => neutral.tick s i _ (along i _)

theorem await {site : Site} {ready : Service → Bool} {f : Input → Service → Except String α × Service}
    (same : ∀ i s, (f i s).2 = s.tick i) : (Proc.await site ready f).Every (Along R) := by
  refine every_await fun i s => neutral.tick s i _ ?_
  simp only [same]
  exact neutral.refl _

theorem clockNow : clockNow.Every (Along R) := neutral.act fun _ s => neutral.refl s

theorem runtimeSnapshot : runtimeSnapshot.Every (Along R) := neutral.act fun _ s => neutral.refl s

theorem finishReply (request : ControlRequest) (error : ProtocolError) (message : String) :
    (finishReply request error message).Every (Along R) := by
  refine neutral.actThrow fun i s => ?_
  cases i.status with
  | ok _ => exact neutral.reply ..
  | error _ => exact neutral.refl s

theorem authorizeControl (request : ControlRequest) : (authorizeControl request).Every (Along R) := by
  refine every_ite trivial (every_bind neutral.clockNow fun now => ?_)
  exact neutral.act fun _ s => neutral.control ..

theorem handleQueued (request : ControlRequest) : (handleQueued request).Every (Along R) := by
  refine every_bind (neutral.authorizeControl request) fun error => ?_
  refine every_ite (neutral.finishReply ..) (every_bind (neutral.act fun _ s => ?_) fun queued =>
    every_when (neutral.finishReply ..))
  split_ifs
  · exact neutral.refl s
  · exact neutral.frame _ _ ⟨rfl, rfl, rfl, rfl, rfl, rfl, Or.inl rfl, rfl⟩

theorem checkLease (request : ControlRequest) : (checkLease request).Every (Along R) :=
  every_bind (neutral.act fun _ s => neutral.refl s) fun _ =>
    every_bind neutral.clockNow fun _ => trivial

theorem retryLater (config : ServiceConfig) (now : Time) (failure : Failure) :
    (retryLater config now failure).Every (Along R) :=
  neutral.act fun _ _ => neutral.frame _ _ ⟨rfl, rfl, rfl, rfl, rfl, rfl, Or.inl rfl, rfl⟩

theorem createRuntime (config : ServiceConfig) (now : Time) :
    (createRuntime config now).Every (Along R) := by
  refine every_bind (neutral.act fun _ s => neutral.refl s) fun created => ?_
  cases created with
  | error failure => exact neutral.retryLater config now failure
  | ok _ =>
    refine every_bind (neutral.act fun _ s => neutral.refl s) fun connected => ?_
    cases connected with
    | error failure => exact neutral.retryLater config now failure
    | ok _ => exact neutral.act fun _ _ =>
        neutral.frame _ _ ⟨rfl, rfl, rfl, rfl, rfl, rfl, Or.inr rfl, rfl⟩

theorem ensureRuntime (config : ServiceConfig) (now : Time) :
    (ensureRuntime config now).Every (Along R) :=
  every_bind (neutral.act fun _ s => neutral.refl s) fun _ =>
    every_when (neutral.createRuntime config now)

theorem runtimeFor (config : ServiceConfig) (request : ControlRequest) :
    (runtimeFor config request).Every (Along R) := by
  refine every_bind neutral.runtimeSnapshot fun runtime => every_ite ?_ trivial
  refine every_bind neutral.clockNow fun now => ?_
  refine every_bind (neutral.act fun _ _ =>
    neutral.frame _ _ ⟨rfl, rfl, rfl, rfl, rfl, rfl, Or.inl rfl, rfl⟩) fun _ => ?_
  exact every_bind (neutral.ensureRuntime config now) fun _ => neutral.runtimeSnapshot

theorem execute (request : ControlRequest) : (execute request).Every (Along R) := by
  refine neutral.act fun i s => ?_
  unfold Service.execute
  split
  · simp only
    split_ifs
    · exact neutral.refl s
    · exact neutral.outcome s _
  · split_ifs
    · exact neutral.refl s
    · exact neutral.motion s _
    · exact neutral.outcome s _
    · exact neutral.outcome s _

theorem refreshLease (request : ControlRequest) : (refreshLease request).Every (Along R) := by
  refine every_ite trivial (every_bind neutral.clockNow fun now => ?_)
  exact neutral.act fun _ s => neutral.refresh ..

theorem replyAfter (request : ControlRequest) (status : Except Failure Unit)
    (leaseError : ProtocolError) : (replyAfter request status leaseError).Every (Along R) := by
  refine every_bind ?_ fun _ => every_ite (neutral.finishReply ..) (neutral.finishReply ..)
  exact every_ite trivial (neutral.act fun _ s => neutral.refl s)

theorem popRequest (s : Service) : R s s.popRequest.2 := by
  unfold Service.popRequest
  split_ifs
  · exact neutral.frame _ _ ⟨rfl, rfl, rfl, rfl, rfl, rfl, Or.inl rfl, rfl⟩
  · split
    · exact neutral.refl s
    · exact neutral.frame _ _ ⟨rfl, rfl, rfl, rfl, rfl, rfl, Or.inl rfl, rfl⟩

theorem runtimeStep : runtimeStep.Every (Along R) := neutral.act fun _ s => neutral.outcome s _

theorem runReturns : runReturns.Every (Along R) :=
  neutral.act fun _ _ => neutral.frame _ _ ⟨rfl, rfl, rfl, rfl, rfl, rfl, Or.inl rfl, rfl⟩

theorem stopControlWorker : stopControlWorker.Every (Along R) :=
  every_bind (neutral.act fun _ _ =>
    neutral.frame _ _ ⟨rfl, rfl, rfl, rfl, rfl, rfl, Or.inl rfl, rfl⟩) fun _ => neutral.await fun _ _ => rfl

end Neutral

end MotorDrive.Dds
