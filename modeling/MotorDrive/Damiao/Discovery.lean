import MotorDrive.Damiao.Feedback

/-!
# Motor discovery

`discover_damiao_motors` of `runtime.cpp`: the candidates are put into the motor table, asked for feedback, and
taken out again when they do not answer.  A candidate whose identifier is asked for again is `pending`; the
source keeps the indices of these candidates, and the feedback counts, in lists of their own.
-/

namespace MotorDrive.Damiao

open Proc History

inductive PresencePolicy
  | required
  | optional
  | disabled
  deriving DecidableEq

inductive PresenceState
  | notInstalled
  | present
  | faulted
  deriving DecidableEq

structure MotorCandidate where
  role : String
  motorId : UInt16
  feedbackId : UInt16
  model : String
  policy : PresencePolicy
  deriving DecidableEq

structure MotorDiscoveryResult where
  candidate : MotorCandidate
  state : PresenceState
  /-- The address of the motor's handle. -/
  motor : Option ℕ
  reason : String
  deriving DecidableEq

/-- The checks of the candidates, with the roles and identifiers of those before. -/
def checkCandidates (roles : List String) (motorIds feedbackIds : List UInt16) : List MotorCandidate →
    Except String Unit
  | [] => .ok ()
  | candidate :: rest =>
    if candidate.role = "" then .error "motor discovery candidate role is empty"
    else if candidate.role ∈ roles then .error s!"duplicate motor discovery role: {candidate.role}"
    else if candidate.policy = .disabled then
      checkCandidates (candidate.role :: roles) motorIds feedbackIds rest
    else if candidate.model = "" then .error s!"motor model is empty for role {candidate.role}"
    else if candidate.motorId ∈ motorIds then
      .error s!"duplicate active motor_id in discovery: {candidate.motorId}"
    else if candidate.feedbackId ∈ feedbackIds then
      .error s!"duplicate active feedback_id in discovery: {candidate.feedbackId}"
    else
      checkCandidates (candidate.role :: roles) (candidate.motorId :: motorIds) (candidate.feedbackId :: feedbackIds)
        rest

/-- A candidate during a discovery. -/
structure Probe where
  result : MotorDiscoveryResult
  previousCount : ℕ
  pending : Bool

namespace Controller

/-- Put a new handle into the table. -/
def install (h : MotorHandle) (s : Controller) : Controller :=
  { s with
    handles := s.handles ++ [h]
    motors := s.motors.emplace ⟨h.motorId, s.handles.length⟩ }

/-- Put the candidates into the table. -/
def setUp : List MotorCandidate → Controller → Except ControllerError (List Probe) × Controller
  | [], s => (.ok [], s)
  | candidate :: rest, s =>
    if candidate.policy = .disabled then
      let (answer, s') := setUp rest s
      (answer.map (⟨⟨candidate, .notInstalled, none, "disabled by policy"⟩, 0, false⟩ :: ·), s')
    else
      match makeMotorHandle candidate.motorId candidate.feedbackId candidate.model with
      | .error what => (.error (.invalidArgument what), s)
      | .ok h =>
        let (answer, s') := setUp rest (s.install h)
        (answer.map (⟨⟨candidate, .notInstalled, some s.handles.length, ""⟩, h.feedbackUpdateCount, true⟩ :: ·), s')

/-- Take the candidates out of the table. -/
def eraseActive : List MotorCandidate → MotorTable → MotorTable
  | [], table => table
  | candidate :: rest, table =>
    eraseActive rest (if candidate.policy = .disabled then table else table.erase candidate.motorId)

/-- The check before a discovery. -/
def checkDiscovery : ControllerProgram Unit :=
  await .checkDiscovery (fun _ => true) fun _ s =>
    if s.discoveryFinalized then
      (.error (.logicError "motor discovery is already finalized for this connection"), s)
    else if s.motors.entries ≠ [] then
      (.error (.logicError "motor discovery must run before adding individual motors"), s)
    else (.ok (), s)

/-- `start_polling`.  A thread that cannot be started leaves the flag set. -/
def startPolling : ControllerProgram Unit :=
  await .startPolling (fun _ => true) fun i s =>
    if s.pollingActive then (.ok (), s)
    else if i.refusal = none then (.ok (), { s with pollingActive := true })
    else (.error .systemError, { s with pollingActive := true })

/-- Ask the pending motors for feedback. -/
def requestPending : List Probe → ControllerProgram Unit
  | [] => ret ()
  | probe :: rest =>
    match probe.pending, probe.result.motor with
    | true, some address => do
      let _ ← requestFeedback ⟨probe.result.candidate.motorId, address⟩
      requestPending rest
    | _, _ => requestPending rest

/-- The last feedback has the identity of the candidate. -/
def identityMatches (candidate : MotorCandidate) (state : Option MotorState) : Bool :=
  match state with
  | none => false
  | some state =>
    state.canId = (candidate.motorId &&& 0x0F).toUInt8 &&
      matchesFeedbackArbitrationId state.arbitrationId candidate.feedbackId candidate.motorId

/-- Why the identity does not match. -/
def mismatchReason (candidate : MotorCandidate) (state : Option MotorState) : String :=
  let expected := s!"received feedback with mismatched identity; expected motor_id={candidate.motorId}" ++
    s!" feedback_id={candidate.feedbackId}"
  match state with
  | none => expected
  | some state => expected ++ s!", got can_id={state.canId} arbitration_id={state.arbitrationId}"

/-- Wait for the feedback of a pending motor. -/
def awaitProbe (attempt retryCount deadline : ℕ) (probe : Probe) (address : ℕ) : ControllerProgram Probe := do
  let received ← waitForFeedbackAfter address probe.previousCount deadline
  if received then do
    let state ← look (.latestState address) fun s => s.handles[address]?.bind MotorHandle.state
    if identityMatches probe.result.candidate state then
      ret { probe with result := { probe.result with state := .present, reason := "" }, pending := false }
    else do
      let count ← updateCount address
      ret { probe with
        result := { probe.result with reason := mismatchReason probe.result.candidate state }
        previousCount := count }
  else
    ret { probe with result := { probe.result with
      reason := s!"fresh feedback timed out on attempt {attempt + 1} of {retryCount + 1}" } }

/-- Wait for the feedback of the pending motors. -/
def awaitPending (attempt retryCount deadline : ℕ) : List Probe → ControllerProgram (List Probe)
  | [] => ret []
  | probe :: rest =>
    match probe.pending, probe.result.motor with
    | true, some address => do
      let probe ← awaitProbe attempt retryCount deadline probe address
      let rest ← awaitPending attempt retryCount deadline rest
      ret (probe :: rest)
    | _, _ => do
      let rest ← awaitPending attempt retryCount deadline rest
      ret (probe :: rest)

/-- The attempts that are left. -/
def attempts (timeout retryCount : ℕ) : ℕ → List Probe → ControllerProgram (List Probe)
  | 0, probes => ret probes
  | left + 1, probes =>
    if probes.any Probe.pending then do
      let now ← clock
      let _ ← requestPending probes
      let probes ← awaitPending (retryCount - left) retryCount (now + timeout * millisecond) probes
      attempts timeout retryCount left probes
    else ret probes

/-- The required motors that are missing, the results, and the table without the other missing motors. -/
def settle : List Probe → MotorTable → List MotorDiscoveryResult × List MotorDiscoveryResult × MotorTable
  | [], table => ([], [], table)
  | probe :: rest, table =>
    if probe.pending then
      if probe.result.candidate.policy = .required then
        let (missing, results, table) := settle rest table
        (probe.result :: missing, probe.result :: results, table)
      else
        let (missing, results, table) := settle rest (table.erase probe.result.candidate.motorId)
        (missing, { probe.result with motor := none } :: results, table)
    else
      let (missing, results, table) := settle rest table
      (missing, probe.result :: results, table)

/-- One missing motor in the text of the exception. -/
def missingText (result : MotorDiscoveryResult) : String :=
  s!" {result.candidate.role} (motor_id={result.candidate.motorId}, feedback_id={result.candidate.feedbackId}" ++
    s!", reason={result.reason})"

/-- The last section of a discovery, and what is thrown after it. -/
def finalize (candidates : List MotorCandidate) (probes : List Probe) (s : Controller) :
    Except ControllerError (List MotorDiscoveryResult) × Controller :=
  let (missing, results, table) := settle probes s.motors
  if missing = [] then (.ok results, { s with motors := table, discoveryFinalized := true })
  else
    (.error (.runtimeError (s!"motor discovery failed on {s.endpointLabel}; missing required motors:" ++
      String.join (missing.map missingText))), { s with motors := eraseActive candidates table })

/-- A discovery after the checks. -/
def discoverOn (candidates : List MotorCandidate) (timeout retryCount : ℕ) :
    ControllerProgram (List MotorDiscoveryResult) := do
  let probes ← await .setup (fun _ => true) fun _ s => setUp candidates s
  let _ ← Proc.when (probes.any Probe.pending) startPolling
  let probes ← attempts timeout retryCount (retryCount + 1) probes
  await .finalize (fun _ => true) fun _ s => finalize candidates probes s

/-- What an exception leaves to do. -/
def cleanUp (candidates : List MotorCandidate) : ControllerProgram Unit :=
  atomic .cleanup fun _ s =>
    ((), if s.discoveryFinalized then s else { s with motors := eraseActive candidates s.motors })

/-- `discover_damiao_motors`, with a timeout in milliseconds. -/
def discoverDamiaoMotors (candidates : List MotorCandidate) (timeout retryCount : ℕ) :
    ControllerProgram (List MotorDiscoveryResult) :=
  if timeout = 0 then throw (.invalidArgument "motor discovery timeout must be positive")
  else if 10 < retryCount then throw (.invalidArgument "motor discovery retry_count must be in 0..=10")
  else
    match checkCandidates [] [] [] candidates with
    | .error what => throw (.invalidArgument what)
    | .ok _ => do
      let _ ← checkDiscovery
      tryCatch (discoverOn candidates timeout retryCount) fun error => do
        let _ ← cleanUp candidates
        throw error

end Controller

/-! ## The candidates -/

/-- The motor identifiers of the candidates that are not disabled. -/
def activeIds (candidates : List MotorCandidate) : List UInt16 :=
  (candidates.filter fun candidate => candidate.policy ≠ .disabled).map MotorCandidate.motorId

section Candidates

variable {candidate : MotorCandidate} {candidates rest : List MotorCandidate}

theorem activeIds_cons_of_disabled (disabled : candidate.policy = .disabled) :
    activeIds (candidate :: rest) = activeIds rest := by
  simp [activeIds, disabled]

theorem activeIds_cons_of_active (active : candidate.policy ≠ .disabled) :
    activeIds (candidate :: rest) = candidate.motorId :: activeIds rest := by
  simp [activeIds, active]

/-- Checked candidates have distinct motor identifiers. -/
theorem nodup_of_checkCandidates {roles : List String} {motorIds feedbackIds : List UInt16}
    (checked : checkCandidates roles motorIds feedbackIds candidates = .ok ()) :
    (activeIds candidates).Nodup ∧ ∀ motorId ∈ activeIds candidates, motorId ∉ motorIds := by
  induction candidates generalizing roles motorIds feedbackIds with
  | nil => exact ⟨List.nodup_nil, fun _ member => absurd member List.not_mem_nil⟩
  | cons candidate rest ih =>
    unfold checkCandidates at checked
    split_ifs at checked with empty duplicate disabled model known feedback
    · rw [activeIds_cons_of_disabled disabled]
      exact ih checked
    · obtain ⟨nodup, new⟩ := ih checked
      rw [activeIds_cons_of_active disabled]
      refine ⟨List.nodup_cons.mpr ⟨fun member => new _ member List.mem_cons_self, nodup⟩, fun motorId member => ?_⟩
      rcases List.mem_cons.mp member with rfl | member
      · exact known
      · exact fun old => new motorId member (List.mem_cons_of_mem _ old)

theorem mem_eraseActive {table : MotorTable} {entry : MotorRef} :
    entry ∈ (Controller.eraseActive candidates table).entries ↔
      entry ∈ table.entries ∧ entry.motorId ∉ activeIds candidates := by
  induction candidates generalizing table with
  | nil => simp [Controller.eraseActive, activeIds]
  | cons candidate rest ih =>
    rw [Controller.eraseActive, ih]
    by_cases disabled : candidate.policy = .disabled
    · rw [if_pos disabled, activeIds_cons_of_disabled disabled]
    · rw [if_neg disabled, activeIds_cons_of_active disabled, MotorTable.mem_erase, List.mem_cons]
      tauto

end Candidates

/-! ## The setup -/

/-- The candidate and the address of its handle. -/
def Probe.installed (probe : Probe) : MotorCandidate × Option ℕ := (probe.result.candidate, probe.result.motor)

/-- The handle at the address was made for the candidate and has counted nothing. -/
def Fresh (s : Controller) (candidate : MotorCandidate) (address : ℕ) : Prop :=
  ∃ h, s.handles[address]? = some h ∧ h.motorId = candidate.motorId ∧ h.feedbackId = candidate.feedbackId ∧
    h.feedbackUpdateCount = 0

/-- A controller after the setup, which began with the table `before`. -/
structure Prepared (candidates : List MotorCandidate) (before : MotorTable) (probes : List Probe) (s : Controller) :
    Prop where
  candidates : probes.map (fun probe => probe.result.candidate) = candidates
  started : ∀ probe ∈ probes, probe.result.state = .notInstalled ∧
    (probe.result.candidate.policy = .disabled ∧ probe.result.motor = none ∧ probe.pending = false ∨
      probe.result.candidate.policy ≠ .disabled ∧ probe.pending = true ∧
        ∃ address, probe.result.motor = some address ∧ Fresh s probe.result.candidate address)
  table : ∀ entry, entry ∈ s.motors.entries ↔ entry ∈ before.entries ∨
    ∃ probe ∈ probes, probe.result.motor = some entry.address ∧ probe.result.candidate.motorId = entry.motorId

/-- What a setup leaves, also when it throws. -/
structure SetsUp (candidates : List MotorCandidate) (s : Controller) (answer : Except ControllerError (List Probe))
    (s' : Controller) : Prop where
  onward : Onward s s'
  handles : s.handles <+: s'.handles
  finalized : s'.discoveryFinalized = s.discoveryFinalized
  within : ∀ entry ∈ s'.motors.entries, entry ∈ s.motors.entries ∨ entry.motorId ∈ activeIds candidates
  prepared : ∀ probes, answer = .ok probes → Prepared candidates s.motors probes s'
  unanswered : ∀ e, answer = .error e → ∃ what, e = .invalidArgument what

theorem Fresh.later {s s' : Controller} {candidate : MotorCandidate} {address : ℕ} (fresh : Fresh s candidate address)
    (handles : s.handles <+: s'.handles) : Fresh s' candidate address := by
  obtain ⟨h, found, same⟩ := fresh
  exact ⟨h, getElem?_grows handles found, same⟩

section SetUp

open Controller

variable {s s' : Controller} {candidate : MotorCandidate} {rest : List MotorCandidate}
  {answer : Except ControllerError (List Probe)}

theorem map_ok_cons {probe : Probe} {probes : List Probe} (same : answer.map (probe :: ·) = .ok probes) :
    ∃ others, answer = .ok others ∧ probes = probe :: others := by
  cases answer with
  | ok others => exact ⟨others, rfl, (Except.ok.inj same).symm⟩
  | error e => cases same

theorem map_error_cons {probe : Probe} {e : ControllerError} (same : answer.map (probe :: ·) = .error e) :
    answer = .error e := by
  cases answer with
  | ok others => cases same
  | error e' => exact congrArg _ (Except.error.inj same)

/-- A handle is made with its identity and has counted nothing. -/
theorem made_makeMotorHandle {motorId feedbackId : UInt16} {model : String} {h : MotorHandle}
    (made : makeMotorHandle motorId feedbackId model = .ok h) :
    h.motorId = motorId ∧ h.feedbackId = feedbackId ∧ h.feedbackUpdateCount = 0 := by
  cases limits : modelLimits model with
  | error what => simp [makeMotorHandle, limits, Except.map] at made
  | ok limits' =>
    simp only [makeMotorHandle, limits, Except.map] at made
    obtain rfl := Except.ok.inj made
    exact ⟨rfl, rfl, rfl⟩

theorem SetsUp.skip (others : SetsUp rest s answer s') (disabled : candidate.policy = .disabled) :
    SetsUp (candidate :: rest) s
      (answer.map (⟨⟨candidate, .notInstalled, none, "disabled by policy"⟩, 0, false⟩ :: ·)) s' := by
  refine ⟨others.onward, others.handles, others.finalized, ?_, ?_, fun e same => others.unanswered e (map_error_cons same)⟩
  · rw [activeIds_cons_of_disabled disabled]
    exact others.within
  · intro probes same
    obtain ⟨more, ok, rfl⟩ := map_ok_cons same
    have prepared := others.prepared more ok
    refine ⟨congrArg (candidate :: ·) prepared.candidates, fun probe member => ?_, fun entry => ?_⟩
    · rcases List.mem_cons.mp member with rfl | member
      · exact ⟨rfl, .inl ⟨disabled, rfl, rfl⟩⟩
      · exact prepared.started probe member
    · rw [prepared.table entry]
      simp

theorem SetsUp.add {h : MotorHandle} (others : SetsUp rest (s.install h) answer s')
    (active : candidate.policy ≠ .disabled)
    (made : makeMotorHandle candidate.motorId candidate.feedbackId candidate.model = .ok h)
    (new : ∀ entry ∈ s.motors.entries, entry.motorId ≠ candidate.motorId) :
    SetsUp (candidate :: rest) s (answer.map
      (⟨⟨candidate, .notInstalled, some s.handles.length, ""⟩, h.feedbackUpdateCount, true⟩ :: ·)) s' := by
  obtain ⟨motorId, feedbackId, count⟩ := made_makeMotorHandle made
  have table (entry : MotorRef) : entry ∈ (s.install h).motors.entries ↔
      entry = ⟨candidate.motorId, s.handles.length⟩ ∨ entry ∈ s.motors.entries := by
    rw [← motorId]
    exact mem_emplaceRef fun entry member => motorId ▸ new entry member
  have fresh : Fresh (s.install h) candidate s.handles.length :=
    ⟨h, List.getElem?_concat_length, motorId, feedbackId, count⟩
  refine ⟨(onward_make h _).trans others.onward, (List.prefix_append _ _).trans others.handles, others.finalized,
    fun entry member => ?_, ?_, fun e same => others.unanswered e (map_error_cons same)⟩
  · rw [activeIds_cons_of_active active]
    rcases others.within entry member with before | later
    · rcases (table entry).mp before with rfl | before
      · exact .inr List.mem_cons_self
      · exact .inl before
    · exact .inr (List.mem_cons_of_mem _ later)
  · intro probes same
    obtain ⟨more, ok, rfl⟩ := map_ok_cons same
    have prepared := others.prepared more ok
    refine ⟨congrArg (candidate :: ·) prepared.candidates, fun probe member => ?_, fun entry => ?_⟩
    · rcases List.mem_cons.mp member with rfl | member
      · exact ⟨rfl, .inr ⟨active, rfl, _, rfl, fresh.later others.handles⟩⟩
      · exact prepared.started probe member
    · rw [prepared.table entry, table entry, List.exists_mem_cons_iff]
      have first : entry = ⟨candidate.motorId, s.handles.length⟩ ↔
          some s.handles.length = some entry.address ∧ candidate.motorId = entry.motorId := by
        constructor
        · rintro rfl
          exact ⟨rfl, rfl⟩
        · rintro ⟨address, id⟩
          obtain ⟨_, _⟩ := entry
          exact congrArg₂ MotorRef.mk id.symm (Option.some.inj address).symm
      rw [first]
      tauto

/-- A setup of candidates that are not in the table. -/
theorem setsUp (candidates : List MotorCandidate) (nodup : (activeIds candidates).Nodup)
    (new : ∀ entry ∈ s.motors.entries, entry.motorId ∉ activeIds candidates) :
    SetsUp candidates s (setUp candidates s).1 (setUp candidates s).2 := by
  induction candidates generalizing s with
  | nil =>
    refine ⟨.refl s, List.prefix_rfl, rfl, fun entry member => .inl member, fun probes same => ?_, nofun⟩
    obtain rfl := Except.ok.inj same
    exact ⟨rfl, fun _ member => absurd member List.not_mem_nil, fun entry => by simp [setUp]⟩
  | cons candidate rest ih =>
    unfold setUp
    by_cases disabled : candidate.policy = .disabled
    · rw [if_pos disabled]
      rw [activeIds_cons_of_disabled disabled] at nodup new
      exact (ih nodup new).skip disabled
    · rw [if_neg disabled]
      rw [activeIds_cons_of_active disabled] at nodup new
      obtain ⟨unused, nodup⟩ := List.nodup_cons.mp nodup
      have absent (entry : MotorRef) (member : entry ∈ s.motors.entries) : entry.motorId ≠ candidate.motorId :=
        fun same => new entry member (same ▸ List.mem_cons_self)
      cases made : makeMotorHandle candidate.motorId candidate.feedbackId candidate.model with
      | error what =>
        exact ⟨.refl s, List.prefix_rfl, rfl, fun entry member => .inl member, nofun,
          fun e same => ⟨what, (Except.error.inj same).symm⟩⟩
      | ok h =>
        refine SetsUp.add (ih nodup fun entry member => ?_) disabled made absent
        rcases mem_of_mem_emplaceRef member with rfl | member
        · exact (made_makeMotorHandle made).1 ▸ unused
        · exact fun later => new entry member (List.mem_cons_of_mem _ later)

end SetUp

/-! ## The last section -/

/-- A missing motor that is not required. -/
def Probe.absent (probe : Probe) : Prop := probe.pending = true ∧ probe.result.candidate.policy ≠ .required

/-- What the last section makes of the probes and the table. -/
structure Settled (probes : List Probe) (table : MotorTable) (missing results : List MotorDiscoveryResult)
    (table' : MotorTable) : Prop where
  missing : missing = [] → ∀ probe ∈ probes, probe.pending = true → probe.result.candidate.policy ≠ .required
  candidates : results.map MotorDiscoveryResult.candidate = probes.map fun probe => probe.result.candidate
  results : ∀ result, result ∈ results ↔ ∃ probe ∈ probes,
    (probe.absent ∧ result = { probe.result with motor := none }) ∨ ¬ probe.absent ∧ result = probe.result
  table : ∀ entry, entry ∈ table'.entries ↔ entry ∈ table.entries ∧
    ∀ probe ∈ probes, probe.absent → probe.result.candidate.motorId ≠ entry.motorId

theorem settled (probes : List Probe) (table : MotorTable) :
    Settled probes table (Controller.settle probes table).1 (Controller.settle probes table).2.1
      (Controller.settle probes table).2.2 := by
  induction probes generalizing table with
  | nil => exact ⟨fun _ _ member => absurd member List.not_mem_nil, rfl, by simp [Controller.settle],
      by simp [Controller.settle]⟩
  | cons probe rest ih =>
    unfold Controller.settle
    split_ifs with pending required
    · have present : ¬ probe.absent := fun absent => absent.2 required
      obtain ⟨-, candidates, results, entries⟩ := ih table
      exact ⟨nofun, congrArg (probe.result.candidate :: ·) candidates, by simp [results, present],
        by simp [entries, present]⟩
    · have absent : probe.absent := ⟨pending, required⟩
      obtain ⟨missing, candidates, results, entries⟩ := ih (table.erase probe.result.candidate.motorId)
      refine ⟨fun none => ?_, congrArg (probe.result.candidate :: ·) candidates, by simp [results, absent],
        fun entry => ?_⟩
      · exact List.forall_mem_cons.mpr ⟨fun _ => required, missing none⟩
      · rw [entries, MotorTable.mem_erase, List.forall_mem_cons]
        have : entry.motorId ≠ probe.result.candidate.motorId ↔ probe.result.candidate.motorId ≠ entry.motorId := ne_comm
        tauto
    · have present : ¬ probe.absent := fun absent => pending absent.1
      obtain ⟨missing, candidates, results, entries⟩ := ih table
      refine ⟨fun none => ?_, congrArg (probe.result.candidate :: ·) candidates, by simp [results, present],
        by simp [entries, present]⟩
      exact List.forall_mem_cons.mpr ⟨fun impossible => absurd impossible pending, missing none⟩

end MotorDrive.Damiao
