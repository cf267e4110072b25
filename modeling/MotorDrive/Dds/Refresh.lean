import MotorDrive.Dds.Lease

/-!
# Refreshing the lease

The callers of `LeaseManager` read the clock before they wait for its mutex, so the calls of a run may
carry their readings out of order.  A refresh sets the expiry to one period after the reading it carries,
and so moves it back when a later reading was there first.

* `fullPeriod_of_run`: a call that grants a period leaves the lease with a full period from its reading.
* `refreshSound_iff`: no call moves an expiry back if and only if no call that extends the lease is
  overtaken.
-/

namespace MotorDrive.Dds.LeaseManager

open History

/-- A call that grants a period leaves the lease at least one period from the reading it carries. -/
def FullPeriod (timeout : Time) (e : Entry LeaseManager Call Answer) : Prop :=
  ∀ leaseId now, grant e = some (leaseId, now) →
    ∃ lease, e.after.active = some lease ∧ lease.leaseId = leaseId ∧ now + timeout ≤ lease.expiresAt

/-- The call does not move the expiry of the lease back. -/
def KeepsExpiry (e : Entry LeaseManager Call Answer) : Prop :=
  ∀ lease lease', e.before.active = some lease → e.after.active = some lease' →
    lease.leaseId = lease'.leaseId → lease.expiresAt ≤ lease'.expiresAt

/-- Every call of the history grants full periods and moves no expiry back. -/
def RefreshSound (timeout : Time) (h : List (Entry LeaseManager Call Answer)) : Prop :=
  ∀ e ∈ h, FullPeriod timeout e ∧ KeepsExpiry e

/-- The call extends the active lease from a clock reading. -/
def Extends (m : LeaseManager) (lease : LeaseSnapshot) (now : Time) : Call → Prop
  | .acquire clientId reading => validClientId clientId ∧ lease.clientId = clientId ∧ reading = now ∧
      now < lease.expiresAt
  | .refreshAfterControl clientId leaseId reading => m.owns clientId leaseId ∧ reading = now
  | call => ∃ r, call.request = some r ∧ m.Admissible r lease ∧ r.refresh = true ∧ r.now = now

/-- The call extends the active lease from a reading that is older than the one behind its expiry. -/
def Overtaken (m : LeaseManager) (call : Call) : Prop :=
  ∃ lease now, m.active = some lease ∧ now + m.timeout < lease.expiresAt ∧ Extends m lease now call

/-- An admissible request is accepted. -/
theorem authorize_of_admissible {m : LeaseManager} {r : Request} {lease : LeaseSnapshot}
    (admissible : m.Admissible r lease) :
    m.authorize r.clientId r.leaseId r.sequence r.channel r.refresh r.now = (m.accept r, .ok) := by
  have newer : ¬ (m.lastSequence r.channel).any fun last => decide (r.sequence ≤ last) := by
    cases register : m.lastSequence r.channel with
    | none => simp
    | some last => simpa using admissible.newer last register
  simp only [authorize, admissible.active, admissible.client, admissible.number, if_neg newer, accept]
  simp [not_le.mpr admissible.inTime]

theorem active_request (m : LeaseManager) {call : Call} {r : Request} (request : call.request = some r)
    (answers : (step m call).1 =
      (m.authorize r.clientId r.leaseId r.sequence r.channel r.refresh r.now).1) :
    (step m call).1.active = m.active ∨ (step m call).1.active = none ∨
      (∃ lease, (step m call).1.active = some lease ∧ lease.leaseId = m.nextLeaseId) ∨
      ∃ lease now, m.active = some lease ∧ Extends m lease now call ∧
        (step m call).1.active = some { lease with expiresAt := now + m.timeout } := by
  have out := answers
  rcases authorize_cases m r with refused | refused | ⟨accepted, lease, admissible⟩
  · exact .inl (by rw [answers, refused])
  · exact .inl (by rw [answers, refused])
  · rw [accepted] at answers
    by_cases refreshes : r.refresh = true
    · have left : (step m call).1.active = some { lease with expiresAt := r.now + m.timeout } := by
        rw [answers]
        simp [accept, refreshes, refresh, admissible.active]
      refine .inr (.inr (.inr ⟨lease, r.now, admissible.active, ?_, left⟩))
      cases call with
      | authorize | heartbeat => exact ⟨r, request, admissible, refreshes, rfl⟩
      | _ => cases request
    · exact .inl (by rw [answers]; simp [accept, refreshes])

/-- What a call leaves active: the lease as it was, no lease, a lease with a new number, or the lease
extended. -/
theorem active_step (m : LeaseManager) (call : Call) :
    (step m call).1.active = m.active ∨ (step m call).1.active = none ∨
      (∃ lease, (step m call).1.active = some lease ∧ lease.leaseId = m.nextLeaseId) ∨
      ∃ lease now, m.active = some lease ∧ Extends m lease now call ∧
        (step m call).1.active = some { lease with expiresAt := now + m.timeout } := by
  cases call with
  | acquire clientId now =>
    by_cases valid : validClientId clientId = false
    · exact .inl (by simp only [step, acquire, if_pos valid])
    · cases active : m.active with
      | none =>
        have issued : (step m (.acquire clientId now)).1 = m.issue clientId now := by
          simp [step, acquire, valid, active]
        exact .inr (.inr (.inl ⟨m.newLease clientId now, by rw [issued]; rfl, rfl⟩))
      | some lease =>
        by_cases busy : now < lease.expiresAt ∧ lease.clientId ≠ clientId
        · exact .inl (by simp [step, acquire, valid, active, if_pos busy])
        · by_cases replaces : lease.clientId ≠ clientId ∨ lease.expiresAt ≤ now
          · have issued : (step m (.acquire clientId now)).1 = m.issue clientId now := by
              simp only [step, acquire, if_neg valid, active, if_neg busy, if_pos replaces]
            exact .inr (.inr (.inl ⟨m.newLease clientId now, by rw [issued]; rfl, rfl⟩))
          · have extended : (step m (.acquire clientId now)).1 = m.refresh now := by
              simp only [step, acquire, if_neg valid, active, if_neg busy, if_neg replaces]
            rw [not_or, not_not, not_le] at replaces
            refine .inr (.inr (.inr ⟨lease, now, rfl, ⟨by simpa using valid, replaces.1, rfl,
              replaces.2⟩, ?_⟩))
            simp [extended, refresh, active]
  | refreshAfterControl clientId leaseId now =>
    by_cases owns : m.owns clientId leaseId = true
    · obtain ⟨lease, active, -⟩ := exists_active_of_owns owns
      refine .inr (.inr (.inr ⟨lease, now, active, ⟨owns, rfl⟩, ?_⟩))
      simp [step, refreshAfterControl, owns, refresh, active]
    · exact .inl (by simp [step, refreshAfterControl, owns])
  | authorize clientId leaseId sequence channel refresh now =>
    exact active_request m rfl rfl
  | heartbeat clientId leaseId sequence now =>
    exact active_request m rfl rfl
  | release clientId leaseId reason =>
    simp only [step, release]
    split_ifs
    · exact .inr (.inl rfl)
    · exact .inl rfl
  | expireIfNeeded now =>
    simp only [step, expireIfNeeded]
    split_ifs
    · exact .inr (.inl rfl)
    · exact .inl rfl
  | revoke reason => exact .inr (.inl rfl)

/-- A call that extends the active lease sets its expiry to one period after the reading. -/
theorem active_of_extends {m : LeaseManager} {lease : LeaseSnapshot} {now : Time} {call : Call}
    (active : m.active = some lease) (extending : Extends m lease now call) :
    (step m call).1.active = some { lease with expiresAt := now + m.timeout } := by
  have accepted (r : Request) (admissible : m.Admissible r lease) (refreshes : r.refresh = true) :
      (m.authorize r.clientId r.leaseId r.sequence r.channel r.refresh r.now).1.active =
        some { lease with expiresAt := r.now + m.timeout } := by
    rw [authorize_of_admissible admissible]
    simp [accept, refreshes, refresh, active]
  cases call with
  | acquire clientId reading =>
    obtain ⟨valid, owner, rfl, inTime⟩ := extending
    simp [step, acquire, valid, active, owner, not_le.mpr inTime, refresh]
  | refreshAfterControl clientId leaseId reading =>
    obtain ⟨owns, rfl⟩ := extending
    simp [step, refreshAfterControl, owns, refresh, active]
  | authorize clientId leaseId sequence channel refresh reading =>
    obtain ⟨r, request, admissible, refreshes, rfl⟩ := extending
    obtain rfl := Option.some.inj request
    exact accepted _ admissible refreshes
  | heartbeat clientId leaseId sequence reading =>
    obtain ⟨r, request, admissible, refreshes, rfl⟩ := extending
    obtain rfl := Option.some.inj request
    exact accepted _ admissible refreshes
  | release | expireIfNeeded | revoke =>
    obtain ⟨r, request, -⟩ := extending
    cases request

/-- A call keeps the expiry of the lease if and only if it is not overtaken. -/
theorem keepsExpiry_iff {m : LeaseManager} {call : Call}
    (numbered : ∀ id, m.holder = some id → id < m.nextLeaseId) :
    KeepsExpiry (entry step m call) ↔ ¬ Overtaken m call := by
  constructor
  · rintro keeps ⟨lease, now, active, older, extending⟩
    have kept := keeps lease _ active (active_of_extends active extending) rfl
    exact absurd kept (not_le.mpr older)
  · intro inOrder lease lease' before left same
    simp only [entry_before, entry_after] at before left
    obtain unchanged | ended | ⟨issued, left', number⟩ | ⟨held, now, active, extending, left'⟩ :=
      active_step m call
    · obtain rfl := Option.some.inj (before.symm.trans (unchanged.symm.trans left))
      exact le_rfl
    · cases left.symm.trans ended
    · obtain rfl := Option.some.inj (left.symm.trans left')
      have bound := numbered lease.leaseId (by simp [holder, before])
      omega
    · obtain rfl := Option.some.inj (active.symm.trans before)
      rw [← Option.some.inj (left'.symm.trans left)]
      by_contra older
      exact inOrder ⟨held, now, active, not_le.mp older, extending⟩

/-- A call that grants a period leaves the lease active. -/
theorem active_of_grant {m m' : LeaseManager} {call : Call} {a : Answer} {leaseId : ℕ} {now : Time}
    (eff : Effect m call m' a) (granted : grant ⟨m, call, a, m'⟩ = some (leaseId, now)) :
    ∃ lease, m'.active = some lease ∧ lease.leaseId = leaseId := by
  have held : m'.holder = some leaseId := by
    cases eff with
    | acquireRefused | unexpired | released | expired | revoked | revokedVacant => cases granted
    | refused _ error refused =>
      rw [grant_refused call refused] at granted
      cases granted
    | issued => exact congrArg (Option.map Prod.fst) granted
    | extended clientId now lease active =>
      have number : some lease.leaseId = some leaseId := congrArg (Option.map Prod.fst) granted
      rw [holder_refresh, ← number]
      exact congrArg (Option.map LeaseSnapshot.leaseId) active
    | refreshed clientId id now lease active number =>
      have same : some id = some leaseId := congrArg (Option.map Prod.fst) granted
      rw [holder_refresh, ← same, ← number]
      exact congrArg (Option.map LeaseSnapshot.leaseId) active
    | accepted _ r lease request admissible =>
      rw [grant_accepted request] at granted
      split_ifs at granted with refreshes
      have same : some r.leaseId = some leaseId := congrArg (Option.map Prod.fst) granted
      rw [holder_accept, ← same, ← admissible.number]
      exact congrArg (Option.map LeaseSnapshot.leaseId) admissible.active
  obtain ⟨lease, active, number⟩ := Option.map_eq_some_iff.mp held
  exact ⟨lease, active, number⟩

/-- Every call that grants a period leaves a full one. -/
theorem fullPeriod_of_run (timeout : Time) (calls : List Call) :
    ∀ e ∈ run step (initial timeout) calls, FullPeriod timeout e := by
  refine (history_induction (H := fun h m => Record timeout h m ∧ ∀ e ∈ h, FullPeriod timeout e) step
    ⟨record_nil timeout, by simp⟩ ?_ calls).2
  rintro h m call ⟨record, full⟩
  have next : Record timeout (h ++ [entry step m call]) (step m call).1 := record.concat (effect m call)
  refine ⟨next, fun e found => ?_⟩
  rcases List.mem_append.mp found with earlier | last
  · exact full e earlier
  · obtain rfl := List.mem_singleton.mp last
    intro leaseId now granted
    obtain ⟨lease, active, number⟩ := active_of_grant (effect m call) granted
    have expiry := next.expiry lease active
    rw [number, currentExpiry_concat_of_grant granted, Option.some.injEq] at expiry
    exact ⟨lease, active, number, expiry.le⟩

/-- In a run no call moves an expiry back if and only if no call that extends the lease carries a reading
older than the one behind its expiry; every call that grants a period grants a full one. -/
theorem refreshSound_iff (timeout : Time) (calls : List Call) :
    RefreshSound timeout (run step (initial timeout) calls) ↔
      ∀ e ∈ run step (initial timeout) calls, ¬ Overtaken e.before e.call := by
  have numbered := (tenure timeout calls).before_lt
  have entries : ∀ e ∈ run step (initial timeout) calls, KeepsExpiry e ↔ ¬ Overtaken e.before e.call := by
    intro e found
    have bound := numbered e found
    obtain ⟨m, call, rfl⟩ := exists_entry_of_mem step found
    exact keepsExpiry_iff bound
  constructor
  · intro sound e found
    exact (entries e found).mp (sound e found).2
  · intro inOrder e found
    exact ⟨fullPeriod_of_run timeout calls e found, (entries e found).mpr (inOrder e found)⟩

/-- The worker reads the clock at 100 ms and waits for the mutex, while the client's heartbeat of 200 ms is
served. -/
def overtakenRefresh : List Call :=
  [.acquire "a" 0, .heartbeat "a" 1 1 (milliseconds 200), .refreshAfterControl "a" 1 (milliseconds 100)]

theorem overtakenRefresh_not_sound :
    ¬ RefreshSound kLeasePeriod (run step (initial kLeasePeriod) overtakenRefresh) := by
  intro sound
  have last := (sound (entry step (final step (initial kLeasePeriod) (overtakenRefresh.take 2))
    (.refreshAfterControl "a" 1 (milliseconds 100))) (by simp [overtakenRefresh, run, final])).2
  have moved := last ⟨"a", 1, milliseconds 450⟩ ⟨"a", 1, milliseconds 350⟩ (by decide) (by decide)
    rfl
  exact absurd moved (by decide)

end MotorDrive.Dds.LeaseManager
