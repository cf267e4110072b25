import MotorDrive.Damiao.Discovery

/-!
# What a discovery finds

A discovery that returns leaves exactly the motors in the table that are present (`Complete`).  One that throws
leaves an empty table and may be repeated, and one that the state of the controller forbids changes nothing
(`discovery_all_or_nothing`).
-/

namespace MotorDrive.Damiao

open Proc History

/-! ## Probes -/

/-- The motor has answered since the setup left `s₁`. -/
def Answered (s₁ s : Controller) (address : ℕ) : Prop :=
  ∃ h, s₁.handles[address]? = some h ∧ FeedbackCounted address h s₁.accepted s.accepted

/-- What a probe says, since the setup left `s₁`. -/
def Probe.Sound (s₁ s : Controller) (probe : Probe) : Prop :=
  (probe.result.candidate.policy = .disabled ∧ probe.result.motor = none ∧ probe.pending = false ∧
      probe.result.state = .notInstalled) ∨
    probe.result.candidate.policy ≠ .disabled ∧
      ∃ address, probe.result.motor = some address ∧ Fresh s₁ probe.result.candidate address ∧
        (probe.pending = true ∧ probe.result.state = .notInstalled ∨
          probe.pending = false ∧ probe.result.state = .present ∧ Answered s₁ s address)

/-- The probes of a discovery, since the setup left `s₁`. -/
structure Probing (s₁ : Controller) (installed : List (MotorCandidate × Option ℕ)) (probes : List Probe)
    (s : Controller) : Prop where
  still : Still s₁ s
  installed : probes.map Probe.installed = installed
  sound : ∀ probe ∈ probes, probe.Sound s₁ s

variable {s₁ s s' : Controller} {probe : Probe} {probes : List Probe} {installed : List (MotorCandidate × Option ℕ)}
  {candidates : List MotorCandidate} {attempt timeout retryCount deadline : ℕ}

theorem Answered.later {address : ℕ} (answered : Answered s₁ s address) (start : Onward s₁ s) (later : Onward s s') :
    Answered s₁ s' address := by
  obtain ⟨h, found, frame, added, feedback⟩ := answered
  exact ⟨h, found, frame, (added_trans start.accepted later.accepted).mpr (.inl added), feedback⟩

theorem Probe.Sound.later (sound : probe.Sound s₁ s) (start : Onward s₁ s) (later : Onward s s') :
    probe.Sound s₁ s' := by
  rcases sound with skipped | ⟨active, address, motor, fresh, pending | ⟨done, present, answered⟩⟩
  · exact .inl skipped
  · exact .inr ⟨active, address, motor, fresh, .inl pending⟩
  · exact .inr ⟨active, address, motor, fresh, .inr ⟨done, present, answered.later start later⟩⟩

theorem Probing.later (probing : Probing s₁ installed probes s) (later : Still s s') :
    Probing s₁ installed probes s' :=
  ⟨probing.still.trans later, probing.installed,
    fun probe member => (probing.sound probe member).later probing.still.onward later.onward⟩

/-! ## The attempts -/

section Wp

open Controller

theorem still_recordSendError (refusal : Refusal) : Still s (s.recordSendError refusal) :=
  ⟨onward_recordSendError refusal, rfl, rfl⟩

theorem wp_requestPending (still : Still s₁ s) :
    (requestPending probes).wp (Meanwhile False) (fun _ => Still s₁)
      (fun e s' => Still s₁ s' ∧ ∃ refusal, e = .transport refusal) s := by
  induction probes generalizing s with
  | nil => exact still
  | cons probe rest ih =>
    unfold requestPending
    split
    · refine wp_bind.mpr (wp_send (fun found meanwhile => ?_) fun found refusal meanwhile => ?_)
      · exact ih (still.trans meanwhile.still)
      · exact ⟨(still.trans meanwhile.still).trans (still_recordSendError refusal), refusal, rfl⟩
    · exact ih still

/-- Waiting for a motor keeps its probe sound: it is present once its feedback has been counted. -/
theorem wp_awaitProbe {address : ℕ} (still : Still s₁ s) (sound : probe.Sound s₁ s) (pending : probe.pending = true)
    (motor : probe.result.motor = some address) :
    (awaitProbe attempt retryCount deadline probe address).wp (Meanwhile False)
      (fun probe' s' => Still s s' ∧ probe'.installed = probe.installed ∧ probe'.Sound s₁ s') (fun _ _ => False) s := by
  obtain ⟨-, -, impossible, -⟩ | ⟨active, address', motor', fresh, ⟨-, missing⟩ | ⟨impossible, -⟩⟩ := sound
  · rw [pending] at impossible
    cases impossible
  · obtain rfl := Option.some.inj (motor.symm.trans motor')
    refine wp_bind.mpr (wp_waitForFeedbackAfter fun found meanwhile _ => ?_)
    have here := still.trans meanwhile.still
    refine wp_ite.mpr ⟨fun received => wp_bind.mpr (wp_look fun found' meanwhile' => ?_), fun _ => ?_⟩
    · have there := meanwhile.still.trans meanwhile'.still
      refine wp_ite.mpr ⟨fun _ => ⟨there, rfl, .inr ⟨active, address, motor, fresh, .inr ⟨rfl, rfl, ?_⟩⟩⟩, fun _ => ?_⟩
      · have counted : probe.previousCount < found.updateCountAt address := of_decide_eq_true received
        obtain ⟨h, present, motorId, feedbackId, zero⟩ := fresh
        have before : s₁.updateCountAt address = 0 := by simp [updateCountAt, present, zero]
        have answered : Answered s₁ found address :=
          ⟨h, present, counted_of_updateCountAt here.onward (before ▸ (Nat.zero_le _).trans_lt counted) present⟩
        exact answered.later here.onward meanwhile'.still.onward
      · exact wp_bind.mpr (wp_look fun last meanwhile'' => ⟨there.trans meanwhile''.still, rfl,
          .inr ⟨active, address, motor, fresh, .inl ⟨pending, missing⟩⟩⟩)
    · exact ⟨meanwhile.still, rfl, .inr ⟨active, address, motor, fresh, .inl ⟨pending, missing⟩⟩⟩
  · rw [pending] at impossible
    cases impossible

theorem wp_awaitPending (probing : Probing s₁ installed probes s) :
    (awaitPending attempt retryCount deadline probes).wp (Meanwhile False)
      (fun probes' s' => Still s s' ∧ Probing s₁ installed probes' s') (fun _ _ => False) s := by
  induction probes generalizing s installed with
  | nil => exact ⟨.refl s, probing⟩
  | cons probe rest ih =>
    obtain ⟨still, rfl, sound⟩ := probing
    obtain ⟨first, others⟩ := List.forall_mem_cons.mp sound
    unfold awaitPending
    split
    · rename_i address pending motor
      refine wp_bind.mpr ((wp_awaitProbe still first pending motor).mono ?_ fun _ _ thrown => thrown)
      rintro probe' t ⟨here, same, kept⟩
      have between : Probing s₁ (rest.map Probe.installed) rest t := Probing.later ⟨still, rfl, others⟩ here
      refine wp_bind.mpr ((ih between).mono ?_ fun _ _ thrown => thrown)
      rintro rest' u ⟨last, ends, others', sounds⟩
      refine ⟨here.trans last, ends, congrArg₂ (· :: ·) same others', List.forall_mem_cons.mpr ⟨?_, sounds⟩⟩
      exact kept.later (still.trans here).onward last.onward
    · refine wp_bind.mpr ((ih ⟨still, rfl, others⟩).mono ?_ fun _ _ thrown => thrown)
      rintro rest' u ⟨last, ends, others', sounds⟩
      refine ⟨last, ends, congrArg (probe.installed :: ·) others', List.forall_mem_cons.mpr ⟨?_, sounds⟩⟩
      exact first.later still.onward last.onward

theorem wp_attempts {left : ℕ} (probing : Probing s₁ installed probes s) :
    (attempts timeout retryCount left probes).wp (Meanwhile False) (Probing s₁ installed)
      (fun e s' => Still s₁ s' ∧ ∃ refusal, e = .transport refusal) s := by
  induction left generalizing probes s with
  | zero => exact probing
  | succ left ih =>
    refine wp_ite.mpr ⟨fun _ => wp_bind.mpr (wp_look fun found meanwhile => wp_bind.mpr ?_), fun _ => probing⟩
    have here := probing.later meanwhile.still
    refine (wp_requestPending (Still.refl found)).mono (fun _ t later => wp_bind.mpr ?_) fun _ t later =>
      ⟨here.still.trans later.1, later.2⟩
    refine (wp_awaitPending (here.later later)).mono (fun probes' u ⟨_, ends⟩ => ih ends) ?_
    exact fun _ _ impossible => impossible.elim

end Wp

/-! ## The end of a discovery -/

/-- A discovery may begin. -/
def Controller.CanDiscover (s : Controller) : Prop := s.motors.entries = [] ∧ s.discoveryFinalized = false

/-- What a discovery that began in `s` has found. -/
structure Complete (s : Controller) (candidates : List MotorCandidate) (results : List MotorDiscoveryResult)
    (s' : Controller) : Prop where
  finalized : s'.discoveryFinalized = true
  candidates : results.map MotorDiscoveryResult.candidate = candidates
  /-- The table contains exactly the candidates that are present. -/
  table : ∀ entry, entry ∈ s'.motors.entries ↔ ∃ result ∈ results, result.state = .present ∧
    result.candidate.motorId = entry.motorId ∧ result.motor = some entry.address
  required : ∀ result ∈ results, result.candidate.policy = .required → result.state = .present
  present : ∀ result ∈ results, result.state = .present → result.candidate.policy ≠ .disabled ∧
    ∃ address h, result.motor = some address ∧ s'.handles[address]? = some h ∧
      h.motorId = result.candidate.motorId ∧ h.feedbackId = result.candidate.feedbackId ∧
      FeedbackCounted address h s.accepted s'.accepted
  absent : ∀ result ∈ results, result.state ≠ .present → result.motor = none

/-- The motors that may be in the table while a discovery runs. -/
structure Cleanable (candidates : List MotorCandidate) (s : Controller) : Prop where
  within : ∀ entry ∈ s.motors.entries, entry.motorId ∈ activeIds candidates
  unsettled : s.discoveryFinalized = false

theorem Probe.Sound.of_present (sound : probe.Sound s₁ s) (present : probe.result.state = .present) :
    probe.result.candidate.policy ≠ .disabled ∧ probe.pending = false ∧
      ∃ address, probe.result.motor = some address ∧ Fresh s₁ probe.result.candidate address ∧ Answered s₁ s address := by
  obtain ⟨-, -, -, missing⟩ | ⟨active, address, motor, fresh, ⟨-, missing⟩ | ⟨done, -, answered⟩⟩ := sound
  · rw [present] at missing
    cases missing
  · rw [present] at missing
    cases missing
  · exact ⟨active, done, address, motor, fresh, answered⟩

theorem Probe.Sound.not_absent (sound : probe.Sound s₁ s) (present : probe.result.state = .present) :
    ¬ probe.absent := by
  rintro ⟨pending, -⟩
  rw [(sound.of_present present).2.1] at pending
  cases pending

theorem Probe.Sound.active_of_pending (sound : probe.Sound s₁ s) (pending : probe.pending = true) :
    probe.result.candidate.policy ≠ .disabled := by
  rcases sound with ⟨-, -, done, -⟩ | ⟨active, -⟩
  · rw [done] at pending
    cases pending
  · exact active

/-- A probe that is neither present nor pending has no handle. -/
theorem Probe.Sound.of_done (sound : probe.Sound s₁ s) (done : probe.pending = false) :
    probe.result.state = .present ∨ probe.result.candidate.policy = .disabled ∧ probe.result.motor = none := by
  rcases sound with ⟨disabled, motor, -⟩ | ⟨-, _, -, -, ⟨pending, -⟩ | ⟨-, present, -⟩⟩
  · exact .inr ⟨disabled, motor⟩
  · rw [done] at pending
    cases pending
  · exact .inl present

/-- The handle of a motor that has answered, and the frame that was counted. -/
theorem Answered.feedback {before : Controller} {candidate : MotorCandidate} {address : ℕ}
    (answered : Answered s₁ s address) (fresh : Fresh s₁ candidate address) (start : Onward before s₁)
    (later : Onward s₁ s) :
    ∃ h, s.handles[address]? = some h ∧ h.motorId = candidate.motorId ∧ h.feedbackId = candidate.feedbackId ∧
      FeedbackCounted address h before.accepted s.accepted := by
  obtain ⟨h, found, frame, added, feedback⟩ := answered
  obtain ⟨g, same, motorId, feedbackId, -⟩ := fresh
  obtain rfl := Option.some.inj (found.symm.trans same)
  obtain ⟨h', found', on⟩ := later.handles address h found
  refine ⟨h', found', on.same.motorId.trans motorId, on.same.feedbackId.trans feedbackId, frame,
    (added_trans start.accepted later.accepted).mpr (.inr added), feedback.of_same ?_⟩
  exact ⟨on.same.motorId.symm, on.same.feedbackId.symm⟩

section Complete

variable {before : Controller} {probes₁ : List Probe}

theorem candidates_of_probing (prepared : Prepared candidates before.motors probes₁ s₁)
    (probing : Probing s₁ (probes₁.map Probe.installed) probes s) :
    probes.map (fun probe => probe.result.candidate) = candidates := by
  have same := congrArg (List.map Prod.fst) probing.installed
  rw [List.map_map, List.map_map] at same
  exact Eq.trans same prepared.candidates

/-- Probes with distinct identifiers. -/
theorem unique_of_nodup (nodup : (activeIds candidates).Nodup)
    (same : probes.map (fun probe => probe.result.candidate) = candidates) {p q : Probe} (here : p ∈ probes)
    (there : q ∈ probes) (active : p.result.candidate.policy ≠ .disabled)
    (active' : q.result.candidate.policy ≠ .disabled)
    (ids : p.result.candidate.motorId = q.result.candidate.motorId) : p = q := by
  have distinct : ((probes.filter fun probe => probe.result.candidate.policy ≠ .disabled).map fun probe =>
      probe.result.candidate.motorId).Nodup := by
    rw [← same, activeIds, List.filter_map, List.map_map] at nodup
    exact nodup
  exact List.inj_on_of_nodup_map distinct (List.mem_filter.mpr ⟨here, decide_eq_true active⟩)
    (List.mem_filter.mpr ⟨there, decide_eq_true active'⟩) ids

theorem entries_of_probing (empty : before.motors.entries = [])
    (prepared : Prepared candidates before.motors probes₁ s₁)
    (probing : Probing s₁ (probes₁.map Probe.installed) probes s) (entry : MotorRef) :
    entry ∈ s.motors.entries ↔ ∃ probe ∈ probes,
      probe.result.motor = some entry.address ∧ probe.result.candidate.motorId = entry.motorId := by
  have mapped (list : List Probe) : (∃ probe ∈ list, probe.result.motor = some entry.address ∧
      probe.result.candidate.motorId = entry.motorId) ↔
        ∃ pair ∈ list.map Probe.installed, pair.2 = some entry.address ∧ pair.1.motorId = entry.motorId := by
    simp [Probe.installed]
  rw [probing.still.motors, prepared.table, empty, mapped, mapped, probing.installed]
  simp

/-- Sound probes of which no required one is pending, and what the last section makes of them. -/
theorem complete_of_settled {results : List MotorDiscoveryResult} {table : MotorTable}
    (empty : before.motors.entries = []) (start : Onward before s₁) (nodup : (activeIds candidates).Nodup)
    (prepared : Prepared candidates before.motors probes₁ s₁)
    (probing : Probing s₁ (probes₁.map Probe.installed) probes s)
    (settled : Settled probes s.motors [] results table) :
    Complete before candidates results { s with motors := table, discoveryFinalized := true } := by
  have same := candidates_of_probing prepared probing
  have probed (result : MotorDiscoveryResult) (member : result ∈ results) (state : result.state = .present) :
      ∃ probe ∈ probes, result = probe.result := by
    obtain ⟨probe, here, ⟨absent, rfl⟩ | ⟨-, same⟩⟩ := (settled.results _).mp member
    · exact absurd absent ((probing.sound probe here).not_absent state)
    · exact ⟨probe, here, same⟩
  -- A motor that is still pending is not required, since no required one is missing.
  have kept (probe : Probe) (here : probe ∈ probes) (present : ¬ probe.absent) : probe.pending = false := by
    by_contra pending
    rw [Bool.not_eq_false] at pending
    exact present ⟨pending, settled.missing rfl probe here pending⟩
  refine ⟨rfl, settled.candidates.trans same, fun entry => ?_, ?_, ?_, ?_⟩
  · rw [settled.table, entries_of_probing empty prepared probing]
    constructor
    · rintro ⟨⟨probe, here, motor, id⟩, others⟩
      have present : ¬ probe.absent := fun absent => others probe here absent id
      rcases (probing.sound probe here).of_done (kept probe here present) with state | ⟨-, unmade⟩
      · exact ⟨probe.result, (settled.results _).mpr ⟨probe, here, .inr ⟨present, rfl⟩⟩, state, id, motor⟩
      · rw [unmade] at motor
        cases motor
    · rintro ⟨result, member, state, id, motor⟩
      obtain ⟨probe, here, rfl⟩ := probed result member state
      have sound := probing.sound probe here
      refine ⟨⟨probe, here, motor, id⟩, fun other there absent again => sound.not_absent state ?_⟩
      have active := (probing.sound other there).active_of_pending absent.1
      exact unique_of_nodup nodup same there here active (sound.of_present state).1 (again.trans id.symm) ▸ absent
  · intro result member required
    obtain ⟨probe, here, ⟨absent, rfl⟩ | ⟨present, rfl⟩⟩ := (settled.results _).mp member
    · exact absurd required absent.2
    · rcases (probing.sound probe here).of_done (kept probe here present) with state | ⟨disabled, -⟩
      · exact state
      · rw [required] at disabled
        cases disabled
  · intro result member state
    obtain ⟨probe, here, rfl⟩ := probed result member state
    obtain ⟨active, -, address, motor, fresh, answered⟩ := (probing.sound probe here).of_present state
    obtain ⟨h, found, feedback⟩ := answered.feedback fresh start probing.still.onward
    exact ⟨active, address, h, motor, found, feedback⟩
  · intro result member missing
    obtain ⟨probe, here, ⟨-, rfl⟩ | ⟨present, rfl⟩⟩ := (settled.results _).mp member
    · rfl
    · rcases (probing.sound probe here).of_done (kept probe here present) with state | ⟨-, motor⟩
      · exact absurd state missing
      · exact motor

end Complete

/-! ## Discoveries -/

section Discover

open Controller

variable {before : Controller}

theorem Prepared.probing {probes₁ : List Probe} (prepared : Prepared candidates before.motors probes₁ s₁) :
    Probing s₁ (probes₁.map Probe.installed) probes₁ s₁ := by
  refine ⟨.refl s₁, rfl, fun probe member => ?_⟩
  obtain ⟨missing, ⟨disabled, motor, done⟩ | ⟨active, pending, address, motor, fresh⟩⟩ := prepared.started probe member
  · exact .inl ⟨disabled, motor, done, missing⟩
  · exact .inr ⟨active, address, motor, fresh, .inl ⟨pending, missing⟩⟩

theorem eraseActive_of_within {table : MotorTable} (within : ∀ entry ∈ table.entries, entry.motorId ∈ activeIds candidates) :
    (eraseActive candidates table).entries = [] := by
  refine List.eq_nil_iff_forall_not_mem.mpr fun entry member => ?_
  obtain ⟨here, absent⟩ := mem_eraseActive.mp member
  exact absent (within entry here)

/-- The end of a discovery whose probes are sound. -/
theorem wp_finalize {probes₁ : List Probe} (empty : before.motors.entries = []) (start : Onward before s₁)
    (unsettled : s₁.discoveryFinalized = false) (nodup : (activeIds candidates).Nodup)
    (within : ∀ entry ∈ s₁.motors.entries, entry.motorId ∈ activeIds candidates)
    (prepared : Prepared candidates before.motors probes₁ s₁)
    (probing : Probing s₁ (probes₁.map Probe.installed) probes s) :
    (await .finalize (fun _ => true) fun _ s => finalize candidates probes s :
      ControllerProgram (List MotorDiscoveryResult)).wp (Meanwhile False) (Complete before candidates)
      (fun e s' => Cleanable candidates s' ∧ ∀ what, e ≠ .logicError what) s := by
  refine wp_await.mpr fun _ found meanwhile _ => ?_
  have here := probing.later meanwhile.still
  have settles := settled probes found.motors
  unfold finalize
  generalize settle probes found.motors = answer at settles ⊢
  obtain ⟨missing, results, table⟩ := answer
  simp only
  split_ifs with none
  · subst none
    refine ⟨fun results' same => ?_, nofun⟩
    obtain rfl := Except.ok.inj same
    exact complete_of_settled empty start nodup prepared here settles
  · refine ⟨nofun, fun e same => ?_⟩
    obtain rfl := Except.error.inj same
    refine ⟨⟨fun entry member => ?_, here.still.finalized.trans unsettled⟩, nofun⟩
    have inside := (settles.table entry).mp (mem_eraseActive.mp member).1
    exact within entry (here.still.motors ▸ inside.1)

theorem wp_startPolling :
    startPolling.wp (Meanwhile False) (fun _ => Still s) (fun e s' => Still s s' ∧ e = .systemError) s := by
  refine wp_await.mpr fun i found meanwhile _ => ?_
  have started : Still s { found with pollingActive := true } :=
    meanwhile.still.trans ⟨.of_same le_rfl rfl rfl le_rfl le_rfl, rfl, rfl⟩
  split_ifs with active accepted
  · exact ⟨fun _ _ => meanwhile.still, nofun⟩
  · exact ⟨fun _ _ => started, nofun⟩
  · exact ⟨nofun, fun e same => ⟨started, (Except.error.inj same).symm⟩⟩

theorem cleanable_of_still (unsettled : s₁.discoveryFinalized = false)
    (within : ∀ entry ∈ s₁.motors.entries, entry.motorId ∈ activeIds candidates) (still : Still s₁ s) :
    Cleanable candidates s :=
  ⟨fun entry member => within entry (still.motors ▸ member), still.finalized.trans unsettled⟩

/-- A discovery after the checks either is complete or leaves motors that can be taken out of the table. -/
theorem wp_discoverOn (can : before.CanDiscover) (since : Still before s) (nodup : (activeIds candidates).Nodup) :
    (discoverOn candidates timeout retryCount).wp (Meanwhile False) (Complete before candidates)
      (fun e s' => Cleanable candidates s' ∧ ∀ what, e ≠ .logicError what) s := by
  refine wp_bind.mpr (wp_await.mpr fun _ found meanwhile _ => ?_)
  have still := since.trans meanwhile.still
  have empty : found.motors.entries = [] := by rw [still.motors, can.1]
  have sets := setsUp (s := found) candidates nodup fun entry member => absurd (empty ▸ member) List.not_mem_nil
  have unsettled : (setUp candidates found).2.discoveryFinalized = false :=
    sets.finalized.trans (still.finalized.trans can.2)
  have within (entry : MotorRef) (member : entry ∈ (setUp candidates found).2.motors.entries) :
      entry.motorId ∈ activeIds candidates :=
    (sets.within entry member).resolve_left fun before => absurd (empty ▸ before) List.not_mem_nil
  refine ⟨fun probes answer => ?_, fun e answer => ?_⟩
  · have prepared := sets.prepared probes answer
    rw [still.motors] at prepared
    have polled : (Proc.when (probes.any Probe.pending) startPolling).wp (Meanwhile False)
        (fun _ => Still (setUp candidates found).2)
        (fun e s' => Still (setUp candidates found).2 s' ∧ e = .systemError) (setUp candidates found).2 :=
      wp_ite.mpr ⟨fun _ => wp_startPolling, fun _ => Still.refl _⟩
    refine wp_bind.mpr (polled.mono (fun _ t later => wp_bind.mpr ?_) ?_)
    · refine (wp_attempts (prepared.probing.later later)).mono (fun probes' u probing => ?_) ?_
      · exact wp_finalize can.1 (still.onward.trans sets.onward) unsettled nodup within prepared probing
      · rintro e u ⟨ends, refusal, rfl⟩
        exact ⟨cleanable_of_still unsettled within ends, nofun⟩
    · rintro e t ⟨later, rfl⟩
      exact ⟨cleanable_of_still unsettled within later, nofun⟩
  · obtain ⟨what, rfl⟩ := sets.unanswered e answer
    exact ⟨⟨within, unsettled⟩, nofun⟩

/-- A discovery that may begin. -/
theorem wp_discoverDamiaoMotors (can : s.CanDiscover) :
    (discoverDamiaoMotors candidates timeout retryCount).wp (Meanwhile False) (Complete s candidates)
      (fun e s' => s'.CanDiscover ∧ ∀ what, e ≠ .logicError what) s := by
  unfold discoverDamiaoMotors
  refine wp_ite.mpr ⟨fun _ => ⟨can, nofun⟩, fun _ => wp_ite.mpr ⟨fun _ => ⟨can, nofun⟩, fun _ => ?_⟩⟩
  cases checked : checkCandidates [] [] [] candidates with
  | error what => exact ⟨can, nofun⟩
  | ok checks =>
    obtain ⟨nodup, -⟩ := nodup_of_checkCandidates checked
    refine wp_bind.mpr (wp_await.mpr fun _ found meanwhile _ => ?_)
    have still := meanwhile.still
    have empty : found.motors.entries = [] := by rw [still.motors, can.1]
    have unsettled : found.discoveryFinalized = false := still.finalized.trans can.2
    simp only [empty, unsettled, Bool.false_eq_true, if_false, ne_eq, not_true_eq_false]
    refine ⟨fun _ _ => wp_tryCatch.mpr ((wp_discoverOn can still nodup).mono (fun _ _ complete => complete) ?_), nofun⟩
    rintro e t ⟨cleanable, other⟩
    refine wp_bind.mpr (wp_atomic.mpr fun _ last meanwhile' => ?_)
    have still' := meanwhile'.still
    have open' : last.discoveryFinalized = false := still'.finalized.trans cleanable.unsettled
    have within : ∀ entry ∈ last.motors.entries, entry.motorId ∈ activeIds candidates :=
      still'.motors ▸ cleanable.within
    simp only [open', Bool.false_eq_true, if_false]
    exact ⟨⟨eraseActive_of_within within, rfl⟩, other⟩

/-- A discovery that may not begin changes neither the table nor the flag. -/
theorem wp_forbidden (cannot : ¬ s.CanDiscover) :
    (discoverDamiaoMotors candidates timeout retryCount).wp (Meanwhile False) (fun _ _ => False)
      (fun _ s' => s'.motors = s.motors ∧ s'.discoveryFinalized = s.discoveryFinalized) s := by
  unfold discoverDamiaoMotors
  refine wp_ite.mpr ⟨fun _ => ⟨rfl, rfl⟩, fun _ => wp_ite.mpr ⟨fun _ => ⟨rfl, rfl⟩, fun _ => ?_⟩⟩
  cases checkCandidates [] [] [] candidates with
  | error what => exact ⟨rfl, rfl⟩
  | ok checks =>
    refine wp_bind.mpr (wp_await.mpr fun _ found meanwhile _ => ?_)
    have still := meanwhile.still
    have cannot' : ¬ (found.motors.entries = [] ∧ found.discoveryFinalized = false) := by
      rw [still.motors, still.finalized]
      exact cannot
    split_ifs with finalized added
    · exact ⟨nofun, fun _ _ => ⟨still.motors, still.finalized⟩⟩
    · exact ⟨nofun, fun _ _ => ⟨still.motors, still.finalized⟩⟩
    · exact absurd ⟨not_not.mp added, Bool.eq_false_iff.mpr finalized⟩ cannot'

end Discover

/-- While no other motor is added, a discovery that begins with an empty table and is not finalized returns what it
has found (`Complete`), or throws and may be repeated; any other discovery throws and leaves the table and the flag
alone. -/
theorem discovery_all_or_nothing (candidates : List MotorCandidate) (timeout retryCount : ℕ) (s s' : Controller)
    (trace : ControllerTrace) (r : Except ControllerError (List MotorDiscoveryResult))
    (runs : (Controller.discoverDamiaoMotors candidates timeout retryCount).Runs (Meanwhile False) s trace r s') :
    (s.CanDiscover → (∀ results, r = .ok results → Complete s candidates results s') ∧
      ∀ e, r = .error e → s'.CanDiscover ∧ ∀ what, e ≠ .logicError what) ∧
    (¬ s.CanDiscover → (∃ e, r = .error e) ∧ s'.motors = s.motors ∧
      s'.discoveryFinalized = s.discoveryFinalized) := by
  refine ⟨fun can => wp_iff.mp (wp_discoverDamiaoMotors can) trace r s' runs, fun cannot => ?_⟩
  obtain ⟨returns, throws⟩ := wp_iff.mp (wp_forbidden cannot) trace r s' runs
  cases r with
  | ok results => exact (returns results rfl).elim
  | error e => exact ⟨⟨e, rfl⟩, throws e rfl⟩

/-! ## Runs -/

/-- A controller without motors. -/
def noMotors : Controller := { twoMotors with handles := [], motors := MotorTable.empty }

/-- Motor 1 is required. -/
def firstRequired : List MotorCandidate := [⟨"shoulder", 1, 0x11, "4340P", .required⟩]

/-- The handle of motor 1 has been made. -/
def firstInstalled : Controller := noMotors.install firstHandle

/-- Motor 1 has answered. -/
def firstFound : Controller := firstInstalled.receive (sensorFrame 0x11 1)

theorem make_first : makeMotorHandle 1 0x11 "4340P" = .ok firstHandle := by
  simp [makeMotorHandle, modelLimits, Except.map, firstHandle]

/-- The handle of motor 2. -/
def secondHandle (feedbackId : UInt16) : MotorHandle := { firstHandle with motorId := 2, feedbackId }

theorem make_second (feedbackId : UInt16) : makeMotorHandle 2 feedbackId "4340P" = .ok (secondHandle feedbackId) := by
  simp [makeMotorHandle, modelLimits, Except.map, firstHandle, secondHandle]

theorem checked_first : checkCandidates [] [] [] firstRequired = .ok () := by
  simp [checkCandidates, firstRequired]

theorem setUp_first : Controller.setUp firstRequired noMotors =
    (.ok [⟨⟨⟨"shoulder", 1, 0x11, "4340P", .required⟩, .notInstalled, some 0, ""⟩, 0, true⟩], firstInstalled) := by
  simp only [Controller.setUp, firstRequired, make_first, Except.map, reduceCtorEq, if_false]
  rfl

theorem runs_first : ∃ trace, (Controller.discoverDamiaoMotors firstRequired 10 0).Runs (Meanwhile False) noMotors
    trace (.ok [⟨⟨"shoulder", 1, 0x11, "4340P", .required⟩, .present, some 0, ""⟩])
    { firstFound with discoveryFinalized := true } := by
  let quiet : ControllerInput := ⟨none, []⟩
  unfold Controller.discoverDamiaoMotors
  simp only [checked_first]
  have discovers : ∃ trace, (Controller.discoverOn firstRequired 10 0).Runs (Meanwhile False) noMotors trace
      (.ok [⟨⟨"shoulder", 1, 0x11, "4340P", .required⟩, .present, some 0, ""⟩])
      { firstFound with discoveryFinalized := true } := by
    refine ⟨⟨.setup, quiet, noMotors⟩ :: [⟨.startPolling, quiet, firstInstalled⟩, ⟨.clock, quiet, firstInstalled⟩,
      ⟨.requestFeedback 1, quiet, firstInstalled⟩, ⟨.awaitFeedback 0, quiet, firstFound⟩,
      ⟨.latestState 0, quiet, firstFound⟩, ⟨.finalize, quiet, firstFound⟩],
      runs_await_bind.mpr ⟨quiet, noMotors, _, .refl, rfl, rfl, .inl ⟨_, congrArg Prod.fst setUp_first, ?_⟩⟩⟩
    rw [setUp_first]
    exact ⟨quiet, firstInstalled, _, .refl, rfl, rfl, quiet, firstInstalled, _, .refl, rfl, rfl,
      quiet, firstInstalled, _, .refl, rfl, rfl, quiet, firstFound, _, .single (.receive _ _), by decide +kernel, rfl,
      quiet, firstFound, _, .refl, rfl, rfl, quiet, firstFound, _, .refl, rfl, rfl, rfl, rfl, rfl⟩
  obtain ⟨trace, ran⟩ := discovers
  exact ⟨_, quiet, noMotors, _, .refl, rfl, rfl, runs_tryCatch.mpr (.inr ⟨_, ran, rfl⟩)⟩

/-- Motor 1 is required, motor 2 is optional and motor 3 is left out. -/
def threeCandidates : List MotorCandidate :=
  [⟨"shoulder", 1, 0x11, "4340P", .required⟩, ⟨"wrist", 2, 0x12, "4340P", .optional⟩,
    ⟨"spare", 3, 0x13, "4340P", .disabled⟩]

theorem checked_three : checkCandidates [] [] [] threeCandidates = .ok () := by
  simp [checkCandidates, threeCandidates]

theorem setUp_three : Controller.setUp threeCandidates noMotors =
    (.ok [⟨⟨⟨"shoulder", 1, 0x11, "4340P", .required⟩, .notInstalled, some 0, ""⟩, 0, true⟩,
      ⟨⟨⟨"wrist", 2, 0x12, "4340P", .optional⟩, .notInstalled, some 1, ""⟩, 0, true⟩,
      ⟨⟨⟨"spare", 3, 0x13, "4340P", .disabled⟩, .notInstalled, none, "disabled by policy"⟩, 0, false⟩],
      firstInstalled.install (secondHandle 0x12)) := by
  simp only [Controller.setUp, threeCandidates, make_first, make_second, Except.map, reduceCtorEq, if_false, if_true]
  rfl

/-- The first attempt times out, motor 1 answers to the second one, and motor 2 never does. -/
theorem runs_three : ∃ trace results s', (Controller.discoverDamiaoMotors threeCandidates 10 1).Runs (Meanwhile False)
    noMotors trace (.ok results) s' ∧
    results.map MotorDiscoveryResult.state = [.present, .notInstalled, .notInstalled] ∧
      s'.motors.entries = [⟨1, 0⟩] := by
  let quiet : ControllerInput := ⟨none, []⟩
  let installed : Controller := firstInstalled.install (secondHandle 0x12)
  let late : Controller := { installed with now := installed.now + 10 * millisecond }
  let found : Controller := late.receive (sensorFrame 0x11 1)
  let passed : Controller := { found with now := found.now + 10 * millisecond }
  let results : List MotorDiscoveryResult :=
    [⟨⟨"shoulder", 1, 0x11, "4340P", .required⟩, .present, some 0, ""⟩,
      ⟨⟨"wrist", 2, 0x12, "4340P", .optional⟩, .notInstalled, none,
        s!"fresh feedback timed out on attempt {1 - 0 + 1} of {1 + 1}"⟩,
      ⟨⟨"spare", 3, 0x13, "4340P", .disabled⟩, .notInstalled, none, "disabled by policy"⟩]
  unfold Controller.discoverDamiaoMotors
  simp only [checked_three]
  have discovers : ∃ trace results s', (Controller.discoverOn threeCandidates 10 1).Runs (Meanwhile False) noMotors
      trace (.ok results) s' ∧
      results.map MotorDiscoveryResult.state = [.present, .notInstalled, .notInstalled] ∧
        s'.motors.entries = [⟨1, 0⟩] := by
    refine ⟨⟨.setup, quiet, noMotors⟩ :: [⟨.startPolling, quiet, installed⟩, ⟨.clock, quiet, installed⟩,
      ⟨.requestFeedback 1, quiet, installed⟩, ⟨.requestFeedback 2, quiet, installed⟩, ⟨.awaitFeedback 0, quiet, late⟩,
      ⟨.awaitFeedback 1, quiet, late⟩, ⟨.clock, quiet, late⟩, ⟨.requestFeedback 1, quiet, late⟩,
      ⟨.requestFeedback 2, quiet, late⟩, ⟨.awaitFeedback 0, quiet, found⟩, ⟨.latestState 0, quiet, found⟩,
      ⟨.awaitFeedback 1, quiet, passed⟩, ⟨.finalize, quiet, passed⟩], results,
      { passed with motors := passed.motors.erase 2, discoveryFinalized := true },
      runs_await_bind.mpr ⟨quiet, noMotors, _, .refl, rfl, rfl, .inl ⟨_, congrArg Prod.fst setUp_three, ?_⟩⟩, rfl, rfl⟩
    rw [setUp_three]
    exact ⟨quiet, installed, _, .refl, rfl, rfl, quiet, installed, _, .refl, rfl, rfl,
      quiet, installed, _, .refl, rfl, rfl, quiet, installed, _, .refl, rfl, rfl,
      quiet, late, _, .single (.elapse _ _), by decide +kernel, rfl, quiet, late, _, .refl, by decide +kernel, rfl,
      quiet, late, _, .refl, rfl, rfl, quiet, late, _, .refl, rfl, rfl, quiet, late, _, .refl, rfl, rfl,
      quiet, found, _, .single (.receive _ _), by decide +kernel, rfl, quiet, found, _, .refl, rfl, rfl,
      quiet, passed, _, .single (.elapse _ _), by decide +kernel, rfl, quiet, passed, _, .refl, rfl, rfl, rfl, rfl, rfl⟩
  obtain ⟨trace, results, s', ran, states, entries⟩ := discovers
  exact ⟨_, results, s', ⟨quiet, noMotors, _, .refl, rfl, rfl, runs_tryCatch.mpr (.inr ⟨_, ran, rfl⟩)⟩, states, entries⟩

theorem discovery_all_or_nothing_once : ∃ trace results s',
    (Controller.discoverDamiaoMotors threeCandidates 10 1).Runs (Meanwhile False) noMotors trace (.ok results) s' ∧
      results.map MotorDiscoveryResult.state = [.present, .notInstalled, .notInstalled] ∧
      s'.motors.entries = [⟨1, 0⟩] ∧ Complete noMotors threeCandidates results s' := by
  obtain ⟨trace, results, s', runs, states, entries⟩ := runs_three
  have can : noMotors.CanDiscover := ⟨rfl, rfl⟩
  exact ⟨trace, results, s', runs, states, entries,
    ((discovery_all_or_nothing _ _ _ _ _ _ _ runs).1 can).1 _ rfl⟩

/-- A discovery that is repeated after a finalized one throws, and the motors stay in the table. -/
theorem discovery_repeated : ∃ trace s', (Controller.discoverDamiaoMotors firstRequired 10 0).Runs (Meanwhile False)
    { twoMotors with discoveryFinalized := true } trace
    (.error (.logicError "motor discovery is already finalized for this connection")) s' ∧
      s'.motors.entries ≠ [] ∧ s'.discoveryFinalized = true := by
  let quiet : ControllerInput := ⟨none, []⟩
  let finalized : Controller := { twoMotors with discoveryFinalized := true }
  refine ⟨[⟨.checkDiscovery, quiet, finalized⟩], finalized, ?_, by decide, rfl⟩
  unfold Controller.discoverDamiaoMotors
  simp only [checked_first]
  exact ⟨quiet, finalized, _, .refl, rfl, rfl, rfl, rfl, rfl⟩

end MotorDrive.Damiao
