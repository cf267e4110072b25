import MotorDrive.Library.History
import MotorDrive.Dds.Protocol

/-!
# The control lease

`LeaseManager` of `dds/src/lease.cpp`: one client at a time owns the robot, each ownership has a
number drawn from a counter, and it times out unless it is refreshed.  Every public operation takes
the manager's mutex once, so the manager is a sequential object; an operation that calls
`notify_lost` returns the reason it passes to the callback.

* `lostNotificationExact_iff`: exactly one lost callback is made for every lease that ended, before
  the next lease begins, unless an `acquire` finds a timed-out lease still in place.
* `authorization_safe`: what an accepted `authorize` or `heartbeat` says about the calls before it.
-/

namespace MotorDrive.Dds

open History

/-- `articore::dds::SequenceChannel`. -/
inductive SequenceChannel
  | control | stream
  deriving DecidableEq, Repr

/-- `articore::dds::LeaseSnapshot`. -/
structure LeaseSnapshot where
  clientId : String
  leaseId : ℕ
  expiresAt : Time
  deriving DecidableEq, Repr

/-- `articore::dds::LeaseManager`. -/
structure LeaseManager where
  timeout : Time
  active : Option LeaseSnapshot := none
  lastControlSequence : Option ℕ := none
  lastStreamSequence : Option ℕ := none
  nextLeaseId : ℕ := 1
  deriving DecidableEq, Repr

namespace LeaseManager

/-- `client_id.empty() || client_id.size() > 63` fails. -/
def validClientId (clientId : String) : Bool := clientId ≠ "" ∧ clientId.utf8ByteSize ≤ 63

/-- `active_.reset()` with both sequence registers. -/
def reset (m : LeaseManager) : LeaseManager :=
  { m with active := none, lastControlSequence := none, lastStreamSequence := none }

/-- The snapshot `acquire` installs as a new ownership. -/
def newLease (m : LeaseManager) (clientId : String) (now : Time) : LeaseSnapshot :=
  ⟨clientId, m.nextLeaseId, now + m.timeout⟩

/-- The assignment of a new ownership, whatever was active. -/
def issue (m : LeaseManager) (clientId : String) (now : Time) : LeaseManager :=
  { m with
    active := some (m.newLease clientId now)
    lastControlSequence := none
    lastStreamSequence := none
    nextLeaseId := m.nextLeaseId + 1 }

/-- `active_->expires_at = now + timeout_`. -/
def refresh (m : LeaseManager) (now : Time) : LeaseManager :=
  { m with active := m.active.map fun lease => { lease with expiresAt := now + m.timeout } }

/-- `last_sequence` of a channel. -/
def lastSequence (m : LeaseManager) : SequenceChannel → Option ℕ
  | .control => m.lastControlSequence
  | .stream => m.lastStreamSequence

/-- `last_sequence = sequence` on a channel. -/
def setLastSequence (m : LeaseManager) (sequence : Option ℕ) : SequenceChannel → LeaseManager
  | .control => { m with lastControlSequence := sequence }
  | .stream => { m with lastStreamSequence := sequence }

/-- `LeaseManager::acquire`. -/
def acquire (m : LeaseManager) (clientId : String) (now : Time) :
    LeaseManager × Except Failure LeaseSnapshot :=
  if validClientId clientId = false then
    (m, .error ⟨.invalidArgument, "client_id must contain 1..63 bytes"⟩)
  else
    match m.active with
    | none => (m.issue clientId now, .ok (m.newLease clientId now))
    | some lease =>
      if now < lease.expiresAt ∧ lease.clientId ≠ clientId then
        (m, .error ⟨.busy, "another client owns the robot lease"⟩)
      else if lease.clientId ≠ clientId ∨ lease.expiresAt ≤ now then
        (m.issue clientId now, .ok (m.newLease clientId now))
      else (m.refresh now, .ok { lease with expiresAt := now + m.timeout })

/-- The owner of the active lease, by client and number. -/
def owns (m : LeaseManager) (clientId : String) (leaseId : ℕ) : Bool :=
  m.active.any fun lease => lease.clientId = clientId ∧ lease.leaseId = leaseId

/-- `LeaseManager::authorize`. -/
def authorize (m : LeaseManager) (clientId : String) (leaseId sequence : ℕ)
    (channel : SequenceChannel) (refresh : Bool) (now : Time) : LeaseManager × ProtocolError :=
  match m.active with
  | none => (m, .noLease)
  | some lease =>
    if lease.expiresAt ≤ now ∨ lease.clientId ≠ clientId ∨ lease.leaseId ≠ leaseId then
      (m, .noLease)
    else if (m.lastSequence channel).any fun last => sequence ≤ last then (m, .staleSequence)
    else
      let m := m.setLastSequence (some sequence) channel
      (if refresh then m.refresh now else m, .ok)

/-- `LeaseManager::heartbeat`. -/
def heartbeat (m : LeaseManager) (clientId : String) (leaseId sequence : ℕ) (now : Time) :
    LeaseManager × ProtocolError :=
  m.authorize clientId leaseId sequence .control true now

/-- `LeaseManager::refresh_after_control`. -/
def refreshAfterControl (m : LeaseManager) (clientId : String) (leaseId : ℕ) (now : Time) :
    LeaseManager × ProtocolError :=
  if m.owns clientId leaseId then (m.refresh now, .ok) else (m, .noLease)

/-- `LeaseManager::release`. -/
def release (m : LeaseManager) (clientId : String) (leaseId : ℕ) (reason : String) :
    LeaseManager × ProtocolError × Option String :=
  if m.owns clientId leaseId then (m.reset, .ok, some reason) else (m, .noLease, none)

/-- `LeaseManager::expire_if_needed`. -/
def expireIfNeeded (m : LeaseManager) (now : Time) : LeaseManager × Bool × Option String :=
  if m.active.any fun lease => lease.expiresAt ≤ now then
    (m.reset, true, some "control lease expired")
  else (m, false, none)

/-- `LeaseManager::revoke`. -/
def revoke (m : LeaseManager) (reason : String) : LeaseManager × Option String :=
  (m.reset, if m.active.isSome then some reason else none)

/-- A call of the manager. -/
inductive Call
  | acquire (clientId : String) (now : Time)
  | authorize (clientId : String) (leaseId sequence : ℕ) (channel : SequenceChannel)
      (refresh : Bool) (now : Time)
  | heartbeat (clientId : String) (leaseId sequence : ℕ) (now : Time)
  | refreshAfterControl (clientId : String) (leaseId : ℕ) (now : Time)
  | release (clientId : String) (leaseId : ℕ) (reason : String)
  | expireIfNeeded (now : Time)
  | revoke (reason : String)
  deriving DecidableEq, Repr

/-- What a call returns. -/
inductive Result
  | lease (result : Except Failure LeaseSnapshot)
  | error (error : ProtocolError)
  | expired (expired : Bool)
  | done

/-- What a call returns, and the reason it passes to `on_lost_` if it calls it. -/
structure Answer where
  result : Result
  lost : Option String := none

/-- One call of the manager. -/
def step (m : LeaseManager) : Call → LeaseManager × Answer
  | .acquire clientId now => ((m.acquire clientId now).1, ⟨.lease (m.acquire clientId now).2, none⟩)
  | .authorize clientId leaseId sequence channel refresh now =>
    let (m', error) := m.authorize clientId leaseId sequence channel refresh now
    (m', ⟨.error error, none⟩)
  | .heartbeat clientId leaseId sequence now =>
    let (m', error) := m.heartbeat clientId leaseId sequence now
    (m', ⟨.error error, none⟩)
  | .refreshAfterControl clientId leaseId now =>
    let (m', error) := m.refreshAfterControl clientId leaseId now
    (m', ⟨.error error, none⟩)
  | .release clientId leaseId reason =>
    let (m', error, lost) := m.release clientId leaseId reason
    (m', ⟨.error error, lost⟩)
  | .expireIfNeeded now =>
    let (m', expired, lost) := m.expireIfNeeded now
    (m', ⟨.expired expired, lost⟩)
  | .revoke reason => ((m.revoke reason).1, ⟨.done, (m.revoke reason).2⟩)

/-- The number of the active lease. -/
def holder (m : LeaseManager) : Option ℕ := m.active.map LeaseSnapshot.leaseId

/-- The client and number of the active lease. -/
def owner (m : LeaseManager) : Option (String × ℕ) :=
  m.active.map fun lease => (lease.clientId, lease.leaseId)

/-- The time a call is made at, where it takes one. -/
def Call.time : Call → Option Time
  | .acquire _ now => some now
  | .authorize _ _ _ _ _ now => some now
  | .heartbeat _ _ _ now => some now
  | .refreshAfterControl _ _ now => some now
  | .release _ _ _ => none
  | .expireIfNeeded now => some now
  | .revoke _ => none

/-- The times of the calls do not decrease. -/
def NonDecreasing (calls : List Call) : Prop := (calls.filterMap Call.time).Pairwise (· ≤ ·)

/-- What an `authorize` or a `heartbeat` asks for. -/
structure Request where
  clientId : String
  leaseId : ℕ
  sequence : ℕ
  channel : SequenceChannel
  refresh : Bool
  now : Time
  deriving DecidableEq, Repr

/-- The request an `authorize` or a `heartbeat` makes. -/
def Call.request : Call → Option Request
  | .authorize clientId leaseId sequence channel refresh now =>
    some ⟨clientId, leaseId, sequence, channel, refresh, now⟩
  | .heartbeat clientId leaseId sequence now =>
    some ⟨clientId, leaseId, sequence, .control, true, now⟩
  | _ => none

/-! ## What one call does -/

section Fields

variable (m : LeaseManager) (clientId : String) (now : Time) (sequence : Option ℕ)
  (channel : SequenceChannel)

@[simp] theorem holder_reset : m.reset.holder = none := rfl

@[simp] theorem holder_issue : (m.issue clientId now).holder = some m.nextLeaseId := rfl

@[simp] theorem holder_refresh : (m.refresh now).holder = m.holder := by
  simp [holder, refresh, Function.comp_def]

@[simp] theorem owner_refresh : (m.refresh now).owner = m.owner := by
  simp [owner, refresh, Function.comp_def]

@[simp] theorem owner_setLastSequence : (m.setLastSequence sequence channel).owner = m.owner := by
  cases channel <;> rfl

@[simp] theorem lastStreamSequence_refresh :
    (m.refresh now).lastStreamSequence = m.lastStreamSequence := rfl

@[simp] theorem nextLeaseId_refresh : (m.refresh now).nextLeaseId = m.nextLeaseId := rfl

@[simp] theorem timeout_refresh : (m.refresh now).timeout = m.timeout := rfl

@[simp] theorem lastSequence_refresh : (m.refresh now).lastSequence = m.lastSequence := by
  funext channel
  cases channel <;> rfl

@[simp] theorem lastSequence_issue : (m.issue clientId now).lastSequence channel = none := by
  cases channel <;> rfl

@[simp] theorem active_setLastSequence : (m.setLastSequence sequence channel).active = m.active := by
  cases channel <;> rfl

@[simp] theorem holder_setLastSequence : (m.setLastSequence sequence channel).holder = m.holder := by
  cases channel <;> rfl

@[simp] theorem timeout_setLastSequence :
    (m.setLastSequence sequence channel).timeout = m.timeout := by
  cases channel <;> rfl

@[simp] theorem nextLeaseId_setLastSequence :
    (m.setLastSequence sequence channel).nextLeaseId = m.nextLeaseId := by
  cases channel <;> rfl

theorem lastSequence_setLastSequence (other : SequenceChannel) :
    (m.setLastSequence sequence channel).lastSequence other =
      if other = channel then sequence else m.lastSequence other := by
  cases channel <;> cases other <;> rfl

end Fields

/-- The state an accepted request leaves. -/
def accept (m : LeaseManager) (r : Request) : LeaseManager :=
  if r.refresh then (m.setLastSequence (some r.sequence) r.channel).refresh r.now
  else m.setLastSequence (some r.sequence) r.channel

@[simp] theorem holder_accept (m : LeaseManager) (r : Request) : (m.accept r).holder = m.holder := by
  unfold accept
  split_ifs <;> simp

@[simp] theorem owner_accept (m : LeaseManager) (r : Request) : (m.accept r).owner = m.owner := by
  unfold accept
  split_ifs <;> simp

@[simp] theorem nextLeaseId_accept (m : LeaseManager) (r : Request) :
    (m.accept r).nextLeaseId = m.nextLeaseId := by
  unfold accept
  split_ifs <;> simp

@[simp] theorem timeout_accept (m : LeaseManager) (r : Request) :
    (m.accept r).timeout = m.timeout := by
  unfold accept
  split_ifs <;> simp

theorem lastSequence_accept (m : LeaseManager) (r : Request) (channel : SequenceChannel) :
    (m.accept r).lastSequence channel =
      if channel = r.channel then some r.sequence else m.lastSequence channel := by
  unfold accept
  split_ifs <;> simp_all [lastSequence_setLastSequence]

/-- A request is within the active lease, in time and past the last sequence of its channel. -/
structure Admissible (m : LeaseManager) (r : Request) (lease : LeaseSnapshot) : Prop where
  active : m.active = some lease
  inTime : r.now < lease.expiresAt
  client : lease.clientId = r.clientId
  number : lease.leaseId = r.leaseId
  newer : ∀ last, m.lastSequence r.channel = some last → last < r.sequence

/-- The outcomes of a call: every branch of every operation. -/
inductive Effect (m : LeaseManager) : Call → LeaseManager → Answer → Prop
  | acquireRefused (clientId now) (failure : Failure) :
    Effect m (.acquire clientId now) m ⟨.lease (.error failure), none⟩
  | issued (clientId now) (valid : validClientId clientId)
    (timedOut : ∀ lease, m.active = some lease → lease.expiresAt ≤ now) :
    Effect m (.acquire clientId now) (m.issue clientId now)
      ⟨.lease (.ok (m.newLease clientId now)), none⟩
  | extended (clientId now lease) (active : m.active = some lease)
    (owner : lease.clientId = clientId) (inTime : now < lease.expiresAt) :
    Effect m (.acquire clientId now) (m.refresh now)
      ⟨.lease (.ok { lease with expiresAt := now + m.timeout }), none⟩
  | refused (call error) (refused : error ≠ ProtocolError.ok) :
    Effect m call m ⟨.error error, none⟩
  | accepted (call r lease) (request : call.request = some r) (admissible : m.Admissible r lease) :
    Effect m call (m.accept r) ⟨.error .ok, none⟩
  | refreshed (clientId leaseId now lease) (active : m.active = some lease)
    (number : lease.leaseId = leaseId) :
    Effect m (.refreshAfterControl clientId leaseId now) (m.refresh now) ⟨.error .ok, none⟩
  | released (clientId leaseId reason lease) (active : m.active = some lease) :
    Effect m (.release clientId leaseId reason) m.reset ⟨.error .ok, some reason⟩
  | unexpired (now) : Effect m (.expireIfNeeded now) m ⟨.expired false, none⟩
  | expired (now lease) (active : m.active = some lease) :
    Effect m (.expireIfNeeded now) m.reset ⟨.expired true, some "control lease expired"⟩
  | revoked (reason lease) (active : m.active = some lease) :
    Effect m (.revoke reason) m.reset ⟨.done, some reason⟩
  | revokedVacant (reason) (vacant : m.active = none) :
    Effect m (.revoke reason) m.reset ⟨.done, none⟩

theorem effect_acquire (m : LeaseManager) (clientId : String) (now : Time) :
    Effect m (.acquire clientId now) (m.acquire clientId now).1
      ⟨.lease (m.acquire clientId now).2, none⟩ := by
  by_cases valid : validClientId clientId = false
  · rw [acquire, if_pos valid]
    exact .acquireRefused ..
  · rw [acquire, if_neg valid]
    rw [Bool.not_eq_false] at valid
    cases active : m.active with
    | none => exact .issued _ _ valid (by simp [active])
    | some lease =>
      simp only
      split_ifs with busy other
      · exact .acquireRefused ..
      · refine .issued _ _ valid (fun lease' active' => ?_)
        obtain rfl := Option.some.inj (active.symm.trans active')
        by_contra inTime
        rcases other with other | timedOut
        · exact busy ⟨Nat.lt_of_not_le inTime, other⟩
        · exact inTime timedOut
      · push Not at other
        exact .extended _ _ _ active other.1 other.2

/-- The three outcomes of `authorize`. -/
theorem authorize_cases (m : LeaseManager) (r : Request) :
    (m.authorize r.clientId r.leaseId r.sequence r.channel r.refresh r.now = (m, .noLease)) ∨
    (m.authorize r.clientId r.leaseId r.sequence r.channel r.refresh r.now = (m, .staleSequence)) ∨
    (m.authorize r.clientId r.leaseId r.sequence r.channel r.refresh r.now = (m.accept r, .ok) ∧
      ∃ lease, m.Admissible r lease) := by
  cases active : m.active with
  | none => exact Or.inl (by simp [authorize, active])
  | some lease =>
    by_cases foreign : lease.expiresAt ≤ r.now ∨ lease.clientId ≠ r.clientId ∨
        lease.leaseId ≠ r.leaseId
    · exact Or.inl (by simp only [authorize, active, if_pos foreign])
    by_cases stale : (m.lastSequence r.channel).any fun last => r.sequence ≤ last
    · exact Or.inr (Or.inl (by simp only [authorize, active, if_neg foreign, if_pos stale]))
    · refine Or.inr (Or.inr ⟨?_, lease, ?_⟩)
      · simp only [authorize, active, if_neg foreign, if_neg stale, accept]
      · push Not at foreign
        refine ⟨active, foreign.1, foreign.2.1, foreign.2.2, fun last found => ?_⟩
        simpa [found] using stale

theorem effect_request (m : LeaseManager) (call : Call) (r : Request)
    (request : call.request = some r) :
    Effect m call (m.authorize r.clientId r.leaseId r.sequence r.channel r.refresh r.now).1
      ⟨.error (m.authorize r.clientId r.leaseId r.sequence r.channel r.refresh r.now).2, none⟩ := by
  rcases authorize_cases m r with out | out | ⟨out, lease, admissible⟩
  · rw [out]
    exact .refused _ _ (by simp)
  · rw [out]
    exact .refused _ _ (by simp)
  · rw [out]
    exact .accepted _ _ lease request admissible

theorem exists_active_of_owns {m : LeaseManager} {clientId : String} {leaseId : ℕ}
    (owns : m.owns clientId leaseId) : ∃ lease, m.active = some lease ∧ lease.leaseId = leaseId := by
  cases active : m.active with
  | none => simp [LeaseManager.owns, active] at owns
  | some lease =>
    simp only [LeaseManager.owns, active, Option.any_some, decide_eq_true_eq] at owns
    exact ⟨lease, rfl, owns.2⟩

/-- Every call of the manager has one of the outcomes. -/
theorem effect (m : LeaseManager) (call : Call) : Effect m call (step m call).1 (step m call).2 := by
  cases call with
  | acquire clientId now => exact effect_acquire m clientId now
  | authorize clientId leaseId sequence channel refresh now =>
    exact effect_request m _ ⟨clientId, leaseId, sequence, channel, refresh, now⟩ rfl
  | heartbeat clientId leaseId sequence now =>
    exact effect_request m _ ⟨clientId, leaseId, sequence, .control, true, now⟩ rfl
  | refreshAfterControl clientId leaseId now =>
    simp only [step, refreshAfterControl]
    split_ifs with owns
    · obtain ⟨lease, active, number⟩ := exists_active_of_owns owns
      exact .refreshed _ _ _ lease active number
    · exact .refused _ _ (by simp)
  | release clientId leaseId reason =>
    simp only [step, release]
    split_ifs with owns
    · obtain ⟨lease, active, -⟩ := exists_active_of_owns owns
      exact .released _ _ _ lease active
    · exact .refused _ _ (by simp)
  | expireIfNeeded now =>
    simp only [step, expireIfNeeded]
    split_ifs with timedOut
    · cases active : m.active with
      | none => simp [active] at timedOut
      | some lease => exact .expired _ lease active
    · exact .unexpired now
  | revoke reason =>
    simp only [step, revoke]
    cases active : m.active with
    | none => exact .revokedVacant reason active
    | some lease => exact .revoked reason lease active

/-- A call keeps the active lease, ends it, or issues the next number. -/
theorem numbered : Numbered holder nextLeaseId step := by
  intro m call
  have eff := effect m call
  revert eff
  generalize step m call = out
  obtain ⟨m', a⟩ := out
  intro eff
  cases eff with
  | acquireRefused | refused | unexpired => exact Or.inl ⟨rfl, rfl⟩
  | issued => exact Or.inr (Or.inr ⟨rfl, rfl⟩)
  | extended | refreshed => exact Or.inl ⟨holder_refresh .., rfl⟩
  | accepted => exact Or.inl ⟨holder_accept .., nextLeaseId_accept ..⟩
  | released | expired | revoked | revokedVacant => exact Or.inr (Or.inl ⟨rfl, rfl⟩)

/-- The manager a `CycloneService` starts with, for any lease period. -/
def initial (timeout : Time) : LeaseManager := { timeout }

theorem tenure (timeout : Time) (calls : List Call) :
    Tenure holder nextLeaseId (run step (initial timeout) calls)
      (final step (initial timeout) calls) :=
  tenure_of_run numbered rfl calls

/-! ## Lost notifications -/

/-- The call made the lost callback for the lease `id`. -/
def LostFor (id : ℕ) (e : Entry LeaseManager Call Answer) : Prop :=
  e.before.holder = some id ∧ e.answer.lost.isSome

/-- Every lease that was once active and no longer is has had exactly one lost callback, and the
callback came before any later lease was installed. -/
def LostNotificationExact (h : List (Entry LeaseManager Call Answer)) (m : LeaseManager) : Prop :=
  ∀ p id, At h p (Installs holder id) → m.holder ≠ some id →
    ∃ n, At h n (LostFor id) ∧ (∀ n', At h n' (LostFor id) → n' = n) ∧
      ∀ q id', At h q (Installs holder id') → p < q → n < q

/-- The call is an `acquire` that finds a timed-out lease still in place. -/
def FindsTimedOut (e : Entry LeaseManager Call Answer) : Prop :=
  ∃ clientId now lease, e.call = .acquire clientId now ∧ validClientId clientId ∧
    e.before.active = some lease ∧ lease.expiresAt ≤ now

/-- A call that ends a lease makes the callback, unless it is an `acquire` that replaces it. -/
theorem lostFor_or_findsTimedOut {m m' : LeaseManager} {call : Call} {a : Answer} {id : ℕ}
    (eff : Effect m call m' a) (removes : Removes holder id ⟨m, call, a, m'⟩) :
    LostFor id ⟨m, call, a, m'⟩ ∨ FindsTimedOut ⟨m, call, a, m'⟩ := by
  obtain ⟨held, gone⟩ := removes
  cases eff with
  | acquireRefused | refused | unexpired => exact absurd held gone
  | issued clientId now valid timedOut =>
    obtain ⟨lease, active, -⟩ := Option.map_eq_some_iff.mp held
    exact Or.inr ⟨clientId, now, lease, rfl, valid, active, timedOut lease active⟩
  | extended | refreshed => exact absurd ((holder_refresh ..).trans held) gone
  | accepted => exact absurd ((holder_accept ..).trans held) gone
  | released | expired | revoked => exact Or.inl ⟨held, rfl⟩
  | revokedVacant reason vacant => simp [holder, vacant] at held

/-- A call that makes the callback leaves no lease. -/
theorem vacant_of_lostFor {m m' : LeaseManager} {call : Call} {a : Answer} {id : ℕ}
    (eff : Effect m call m' a) (lost : LostFor id ⟨m, call, a, m'⟩) : m'.holder = none := by
  obtain ⟨-, made⟩ := lost
  cases eff with
  | released | expired | revoked => rfl
  | _ => simp at made

theorem removes_of_lostFor {m m' : LeaseManager} {call : Call} {a : Answer} {id : ℕ}
    (eff : Effect m call m' a) (lost : LostFor id ⟨m, call, a, m'⟩) :
    Removes holder id ⟨m, call, a, m'⟩ :=
  ⟨lost.1, by simp [vacant_of_lostFor eff lost]⟩

/-- An `acquire` that finds a timed-out lease ends it without a callback. -/
theorem removes_of_findsTimedOut {e : Entry LeaseManager Call Answer} {m : LeaseManager} {call : Call}
    (made : e = entry step m call) (bound : ∀ id, e.before.holder = some id → id < e.before.nextLeaseId)
    (found : FindsTimedOut e) :
    ∃ id, Removes holder id e ∧ ¬ LostFor id e := by
  obtain ⟨clientId, now, lease, isAcquire, valid, active, timedOut⟩ := found
  subst made
  obtain rfl : call = .acquire clientId now := isAcquire
  simp only [entry_before] at active bound
  have held : m.holder = some lease.leaseId := by simp [holder, active]
  have issued : (step m (.acquire clientId now)).1 = m.issue clientId now := by
    simp [step, acquire, valid, active, timedOut, not_lt.mpr timedOut]
  refine ⟨lease.leaseId, ⟨held, ?_⟩, fun lost => by simpa [step] using lost.2⟩
  have := bound _ held
  simp only [entry_after, issued, holder_issue]
  intro same
  rw [Option.some.injEq] at same
  omega

/-- Lost notification is exact for a run if and only if no `acquire` of it found a timed-out lease
still in place. -/
theorem lostNotificationExact_iff (timeout : Time) (calls : List Call) :
    LostNotificationExact (run step (initial timeout) calls) (final step (initial timeout) calls) ↔
      ∀ n, ¬ At (run step (initial timeout) calls) n FindsTimedOut := by
  have record := tenure timeout calls
  have effects : ∀ e ∈ run step (initial timeout) calls, Effect e.before e.call e.after e.answer := by
    intro e found
    obtain ⟨m, call, rfl⟩ := exists_entry_of_mem step found
    exact effect m call
  constructor
  · rintro exact n ⟨e, found, timedOut⟩
    have mem := List.mem_of_getElem? found
    obtain ⟨m, call, made⟩ := exists_entry_of_mem step mem
    obtain ⟨id, removes, silent⟩ :=
      removes_of_findsTimedOut made (record.before_lt e mem) timedOut
    have removed : At _ n (Removes holder id) := ⟨e, found, removes⟩
    obtain ⟨p, -, installed⟩ := record.installed_before n id removed
    have gone : (final step (initial timeout) calls).holder ≠ some id := fun held =>
      (record.current id held).1 n removed
    obtain ⟨n', lost, -, -⟩ := exact p id installed gone
    obtain ⟨k, -, -, unique, -⟩ := record.past p id installed gone
    have removed' := lost.mono fun e' mem' => removes_of_lostFor (effects e' mem')
    obtain rfl : n' = n := (unique n' removed').trans (unique n removed).symm
    obtain ⟨e', found', lost'⟩ := lost
    obtain rfl := Option.some.inj (found.symm.trans found')
    exact silent lost'
  · intro kept p id installed gone
    obtain ⟨n, -, removed, unique, before⟩ := record.past p id installed gone
    have lost : At (run step (initial timeout) calls) n (LostFor id) := by
      obtain ⟨e, found, removes⟩ := removed
      rcases lostFor_or_findsTimedOut (effects e (List.mem_of_getElem? found)) removes with
        lost | timedOut
      · exact ⟨e, found, lost⟩
      · exact absurd ⟨e, found, timedOut⟩ (kept n)
    refine ⟨n, lost, ?_, ?_⟩
    · intro n' lost'
      exact unique n' (lost'.mono fun e' mem' => removes_of_lostFor (effects e' mem'))
    · intro q id' installed' later
      refine lt_of_le_of_ne (before q id' installed' later) ?_
      rintro rfl
      obtain ⟨e, found, made⟩ := lost
      obtain ⟨e', found', -, present⟩ := installed'
      obtain rfl := Option.some.inj (found.symm.trans found')
      rw [vacant_of_lostFor (effects e (List.mem_of_getElem? found)) made] at present
      cases present

/-- Two clients whose `acquire`s are one lease period apart: the second replaces the first's lease
and the first's loss is never notified. -/
def replacedInPlace : List Call :=
  [.acquire "a" 0, .acquire "b" kLeasePeriod]

theorem replacedInPlace_not_exact : NonDecreasing replacedInPlace ∧
    ¬ LostNotificationExact (run step (initial kLeasePeriod) replacedInPlace)
      (final step (initial kLeasePeriod) replacedInPlace) := by
  refine ⟨by simp [NonDecreasing, replacedInPlace, Call.time], fun exact => ?_⟩
  obtain ⟨n, ⟨e, found, lost⟩, -⟩ := exact 0 1 ⟨_, rfl, by decide, by decide⟩ (by decide)
  have bound := lt_length_of_getElem? found
  match n with
  | 0 => cases found; exact absurd lost.2 (by decide)
  | 1 => cases found; exact absurd lost.2 (by decide)
  | n + 2 =>
    change n + 2 < 2 at bound
    omega

/-! ## Authorization -/

/-- The call is an `acquire` of `clientId` that issued the lease `leaseId`. -/
def Issues (clientId : String) (leaseId : ℕ) (e : Entry LeaseManager Call Answer) : Prop :=
  Installs holder leaseId e ∧
    ∃ now expiresAt, e.call = .acquire clientId now ∧
      e.answer.result = .lease (.ok ⟨clientId, leaseId, expiresAt⟩)

/-- The call accepted the request. -/
def Accepts (r : Request) (e : Entry LeaseManager Call Answer) : Prop :=
  e.call.request = some r ∧ e.answer.result = .error .ok

/-- The lease number a call gave a new period to, and when. -/
def grant (e : Entry LeaseManager Call Answer) : Option (ℕ × Time) :=
  match e.call, e.answer.result with
  | .acquire _ now, .lease (.ok lease) => some (lease.leaseId, now)
  | .authorize _ leaseId _ _ true now, .error .ok => some (leaseId, now)
  | .heartbeat _ leaseId _ now, .error .ok => some (leaseId, now)
  | .refreshAfterControl _ leaseId now, .error .ok => some (leaseId, now)
  | _, _ => none

/-- The expiry of a lease: one period after the last call that gave it a new period. -/
def currentExpiry (timeout : Time) (h : List (Entry LeaseManager Call Answer)) (leaseId : ℕ) :
    Option Time :=
  ((h.filterMap grant).filter fun g => g.1 = leaseId).getLast?.map fun g => g.2 + timeout

theorem currentExpiry_concat_of_grant {timeout : Time} {h : List (Entry LeaseManager Call Answer)}
    {e : Entry LeaseManager Call Answer} {leaseId : ℕ} {now : Time}
    (granted : grant e = some (leaseId, now)) :
    currentExpiry timeout (h ++ [e]) leaseId = some (now + timeout) := by
  simp [currentExpiry, granted]

theorem currentExpiry_concat_of_none {timeout : Time} {h : List (Entry LeaseManager Call Answer)}
    {e : Entry LeaseManager Call Answer} (granted : grant e = none) (leaseId : ℕ) :
    currentExpiry timeout (h ++ [e]) leaseId = currentExpiry timeout h leaseId := by
  simp [currentExpiry, granted]

/-- What the manager's registers say about the calls made so far. -/
structure Record (timeout : Time) (h : List (Entry LeaseManager Call Answer)) (m : LeaseManager) :
    Prop where
  period : m.timeout = timeout
  holder_lt : ∀ id, m.holder = some id → id < m.nextLeaseId
  issued : ∀ lease, m.active = some lease → ∃ p, At h p (Issues lease.clientId lease.leaseId)
  expiry : ∀ lease, m.active = some lease →
    currentExpiry timeout h lease.leaseId = some lease.expiresAt
  numbered : ∀ n r, At h n (Accepts r) → r.leaseId < m.nextLeaseId
  register : ∀ n r, At h n (Accepts r) → m.holder = some r.leaseId →
    ∃ last, m.lastSequence r.channel = some last ∧ r.sequence ≤ last

theorem record_nil (timeout : Time) : Record timeout [] (initial timeout) where
  period := rfl
  holder_lt := nofun
  issued := nofun
  expiry := nofun
  numbered n r found := absurd found.lt_length (by simp)
  register n r found := absurd found.lt_length (by simp)

section Concat

variable {timeout : Time} {h : List (Entry LeaseManager Call Answer)} {m : LeaseManager}
  {e : Entry LeaseManager Call Answer}

/-- A call that accepts no request keeps what is known of the accepted ones, as long as it keeps the
counter and the registers of the lease it leaves. -/
theorem Record.numbered_concat (record : Record timeout h m) (refuses : ∀ r, ¬ Accepts r e)
    (n : ℕ) (r : Request) (found : At (h ++ [e]) n (Accepts r)) : r.leaseId < m.nextLeaseId := by
  rcases at_concat.mp found with earlier | ⟨-, accepts⟩
  · exact record.numbered n r earlier
  · exact absurd accepts (refuses r)

/-- A call that changes nothing. -/
theorem Record.same (record : Record timeout h m) (nothing : grant e = none)
    (refuses : ∀ r, ¬ Accepts r e) : Record timeout (h ++ [e]) m where
  period := record.period
  holder_lt := record.holder_lt
  issued lease active := by
    obtain ⟨p, issues⟩ := record.issued lease active
    exact ⟨p, at_concat.mpr (Or.inl issues)⟩
  expiry lease active := by
    rw [currentExpiry_concat_of_none nothing]
    exact record.expiry lease active
  numbered := record.numbered_concat refuses
  register n r found held := by
    rcases at_concat.mp found with earlier | ⟨-, accepts⟩
    · exact record.register n r earlier held
    · exact absurd accepts (refuses r)

/-- A call that gives the active lease a new period. -/
theorem Record.refresh (record : Record timeout h m) {lease : LeaseSnapshot} {now : Time}
    (active : m.active = some lease) (granted : grant e = some (lease.leaseId, now))
    (refuses : ∀ r, ¬ Accepts r e) : Record timeout (h ++ [e]) (m.refresh now) where
  period := record.period
  holder_lt := by simpa using record.holder_lt
  issued lease' active' := by
    simp only [LeaseManager.refresh, active, Option.map_some, Option.some.injEq] at active'
    obtain ⟨p, issues⟩ := record.issued lease active
    exact ⟨p, at_concat.mpr (Or.inl (active' ▸ issues))⟩
  expiry lease' active' := by
    simp only [LeaseManager.refresh, active, Option.map_some, Option.some.injEq] at active'
    rw [← active', currentExpiry_concat_of_grant granted, record.period]
  numbered := record.numbered_concat refuses
  register n r found held := by
    rcases at_concat.mp found with earlier | ⟨-, accepts⟩
    · rw [holder_refresh] at held
      simpa using record.register n r earlier held
    · exact absurd accepts (refuses r)

/-- A call that ends the lease. -/
theorem Record.reset (record : Record timeout h m) (refuses : ∀ r, ¬ Accepts r e) :
    Record timeout (h ++ [e]) m.reset where
  period := record.period
  holder_lt := nofun
  issued := nofun
  expiry := nofun
  numbered := record.numbered_concat refuses
  register _ _ _ := nofun

/-- A call that issues a lease. -/
theorem Record.issue (record : Record timeout h m) {clientId : String} {now : Time}
    (issues : Issues clientId m.nextLeaseId e) (granted : grant e = some (m.nextLeaseId, now))
    (refuses : ∀ r, ¬ Accepts r e) : Record timeout (h ++ [e]) (m.issue clientId now) where
  period := record.period
  holder_lt id held := by
    rw [holder_issue, Option.some.injEq] at held
    simp only [LeaseManager.issue]
    omega
  issued lease active := by
    obtain rfl : m.newLease clientId now = lease := Option.some.inj active
    exact ⟨h.length, at_concat.mpr (Or.inr ⟨rfl, issues⟩)⟩
  expiry lease active := by
    obtain rfl : m.newLease clientId now = lease := Option.some.inj active
    rw [newLease, currentExpiry_concat_of_grant granted, record.period]
  numbered n r found := by
    have := record.numbered_concat refuses n r found
    simp only [LeaseManager.issue]
    omega
  register n r found held := by
    have := record.numbered_concat refuses n r found
    rw [holder_issue, Option.some.injEq] at held
    omega

/-- The register of the request's channel moves to its sequence, past all accepted before. -/
theorem Record.accept_register (record : Record timeout h m) {r : Request} {lease : LeaseSnapshot}
    (admissible : m.Admissible r lease) (accepts : ∀ r', Accepts r' e → r' = r) (n : ℕ) (r' : Request)
    (found : At (h ++ [e]) n (Accepts r')) (held : m.holder = some r'.leaseId) :
    ∃ last, (m.accept r).lastSequence r'.channel = some last ∧ r'.sequence ≤ last := by
  rw [lastSequence_accept]
  rcases at_concat.mp found with earlier | ⟨-, accepted⟩
  · obtain ⟨last, register, bound⟩ := record.register n r' earlier held
    split_ifs with same
    · have := admissible.newer last (same ▸ register)
      exact ⟨_, rfl, by omega⟩
    · exact ⟨last, register, bound⟩
  · obtain rfl := accepts r' accepted
    exact ⟨r'.sequence, if_pos rfl, le_rfl⟩

/-- A call that accepts a request. -/
theorem Record.accept (record : Record timeout h m) {r : Request} {lease : LeaseSnapshot}
    (admissible : m.Admissible r lease)
    (granted : grant e = if r.refresh then some (r.leaseId, r.now) else none)
    (accepts : ∀ r', Accepts r' e → r' = r) : Record timeout (h ++ [e]) (m.accept r) where
  period := by rw [timeout_accept, record.period]
  holder_lt := by simpa using record.holder_lt
  issued lease' active' := by
    have same : lease'.clientId = lease.clientId ∧ lease'.leaseId = lease.leaseId := by
      unfold LeaseManager.accept at active'
      split_ifs at active' with refresh
      · simp only [LeaseManager.refresh, active_setLastSequence, admissible.active, Option.map_some,
          Option.some.injEq] at active'
        simp [← active']
      · rw [active_setLastSequence, admissible.active, Option.some.injEq] at active'
        simp [active']
    obtain ⟨p, issues⟩ := record.issued lease admissible.active
    exact ⟨p, at_concat.mpr (Or.inl (by rwa [same.1, same.2]))⟩
  expiry lease' active' := by
    unfold LeaseManager.accept at active'
    split_ifs at granted active' with refresh
    · simp only [LeaseManager.refresh, active_setLastSequence, admissible.active, Option.map_some,
        Option.some.injEq, timeout_setLastSequence] at active'
      rw [← active', admissible.number, currentExpiry_concat_of_grant granted, record.period]
    · rw [active_setLastSequence] at active'
      rw [currentExpiry_concat_of_none granted, record.expiry lease' active']
  numbered n r' found := by
    rw [nextLeaseId_accept]
    rcases at_concat.mp found with earlier | ⟨-, accepted⟩
    · exact record.numbered n r' earlier
    · rw [accepts r' accepted, ← admissible.number]
      exact record.holder_lt _ (by simp [holder, admissible.active])
  register n r' found held := by
    rw [holder_accept] at held
    exact record.accept_register admissible accepts n r' found held

end Concat

theorem grant_accepted {call : Call} {r : Request} (request : call.request = some r)
    (m m' : LeaseManager) : grant ⟨m, call, ⟨.error .ok, none⟩, m'⟩ =
      if r.refresh then some (r.leaseId, r.now) else none := by
  cases call with
  | authorize clientId leaseId sequence channel refresh now =>
    obtain rfl := Option.some.inj request
    cases refresh <;> rfl
  | heartbeat clientId leaseId sequence now =>
    obtain rfl := Option.some.inj request
    rfl
  | _ => cases request

theorem grant_refused (call : Call) {error : ProtocolError} (refused : error ≠ .ok)
    (m m' : LeaseManager) : grant ⟨m, call, ⟨.error error, none⟩, m'⟩ = none := by
  unfold grant
  split
  all_goals simp_all

/-- One call keeps the record. -/
theorem Record.concat {timeout : Time} {h : List (Entry LeaseManager Call Answer)}
    {m m' : LeaseManager} {call : Call} {a : Answer} (record : Record timeout h m)
    (eff : Effect m call m' a) : Record timeout (h ++ [⟨m, call, a, m'⟩]) m' := by
  cases eff with
  | acquireRefused => exact record.same rfl fun r accepts => nomatch accepts.1
  | refused _ error refused =>
    exact record.same (grant_refused call refused m m)
      fun r accepts => refused (Result.error.inj accepts.2)
  | unexpired => exact record.same rfl fun r accepts => nomatch accepts.1
  | issued clientId now =>
    refine record.issue ⟨⟨?_, rfl⟩, now, _, rfl, rfl⟩ rfl fun r accepts => nomatch accepts.1
    exact fun held => absurd (record.holder_lt _ held) (lt_irrefl _)
  | extended clientId now lease active =>
    exact record.refresh active rfl fun r accepts => nomatch accepts.1
  | refreshed clientId leaseId now lease active number =>
    exact record.refresh active (number ▸ rfl) fun r accepts => nomatch accepts.1
  | accepted _ r lease request admissible =>
    refine record.accept admissible (grant_accepted request m _) fun r' accepts => ?_
    exact Option.some.inj (accepts.1.symm.trans request)
  | released | expired | revoked | revokedVacant =>
    exact record.reset fun r accepts => nomatch accepts.1

theorem record_of_run (timeout : Time) (calls : List Call) :
    Record timeout (run step (initial timeout) calls) (final step (initial timeout) calls) :=
  history_induction step (record_nil timeout)
    (fun _ m call record => record.concat (effect m call)) calls

/-- The answer to a request reads no register but its own channel's. -/
theorem step_setLastSequence (m : LeaseManager) {call : Call} {r : Request} {other : SequenceChannel}
    (request : call.request = some r) (distinct : other ≠ r.channel) (sequence : Option ℕ) :
    (step (m.setLastSequence sequence other) call).2 = (step m call).2 := by
  have authorize : ((m.setLastSequence sequence other).authorize r.clientId r.leaseId r.sequence
      r.channel r.refresh r.now).2 =
      (m.authorize r.clientId r.leaseId r.sequence r.channel r.refresh r.now).2 := by
    simp only [LeaseManager.authorize, active_setLastSequence, lastSequence_setLastSequence,
      if_neg distinct.symm]
    cases m.active with
    | none => rfl
    | some lease =>
      simp only
      split_ifs <;> rfl
  cases call with
  | authorize clientId leaseId sequence channel refresh now =>
    obtain rfl := Option.some.inj request
    exact congrArg (fun error => (⟨.error error, none⟩ : Answer)) authorize
  | heartbeat clientId leaseId sequence now =>
    obtain rfl := Option.some.inj request
    exact congrArg (fun error => (⟨.error error, none⟩ : Answer)) authorize
  | _ => cases request

theorem admissible_of_accepts {m m' : LeaseManager} {call : Call} {a : Answer} {r : Request}
    (eff : Effect m call m' a) (accepts : Accepts r ⟨m, call, a, m'⟩) :
    ∃ lease, m.Admissible r lease := by
  obtain ⟨request, ok⟩ := accepts
  cases eff with
  | refused _ _ refused => exact absurd (Result.error.inj ok) refused
  | accepted _ r' lease request' admissible =>
    obtain rfl := Option.some.inj (request'.symm.trans request)
    exact ⟨lease, admissible⟩
  | _ => cases request

theorem eq_of_refused {m m' : LeaseManager} {call : Call} {a : Answer} (eff : Effect m call m' a)
    {error : ProtocolError} (refused : error ≠ .ok) (result : a.result = .error error) : m' = m := by
  cases eff with
  | acquireRefused | refused | unexpired => rfl
  | accepted | refreshed | released => exact absurd (Result.error.inj result).symm refused
  | _ => cases result

/-- A request that is accepted was made by the client the lease was issued to, under the last lease
issued, before its expiry, while it had not ended, and with a sequence past every one accepted on
its channel; the other channel has no say; and a refused call changes nothing. -/
theorem authorization_safe (timeout : Time) (calls : List Call) (call : Call) :
    let h := run step (initial timeout) calls
    let m := final step (initial timeout) calls
    (∀ r, call.request = some r → (step m call).2.result = .error .ok →
      (∃ p, At h p (Issues r.clientId r.leaseId) ∧ ∀ q id, p < q → ¬ At h q (Installs holder id)) ∧
      (∃ expiry, currentExpiry timeout h r.leaseId = some expiry ∧ r.now < expiry) ∧
      (∀ n, ¬ At h n (Removes holder r.leaseId)) ∧
      ∀ n r', At h n (Accepts r') → r'.leaseId = r.leaseId → r'.channel = r.channel →
        r'.sequence < r.sequence) ∧
    (∀ r other sequence, call.request = some r → other ≠ r.channel →
      (step (m.setLastSequence sequence other) call).2 = (step m call).2) ∧
    ((step m call).2.result = .error .noLease ∨ (step m call).2.result = .error .staleSequence →
      (step m call).1 = m) := by
  intro h m
  have record := record_of_run timeout calls
  have kept := tenure timeout calls
  have once := kept.installed_once
  refine ⟨?_, ?_, ?_⟩
  · intro r request accepted
    obtain ⟨lease, admissible⟩ := admissible_of_accepts (effect m call) ⟨request, accepted⟩
    have held : m.holder = some r.leaseId := by simp [holder, admissible.active, admissible.number]
    obtain ⟨kept, p, installed, last⟩ := kept.current r.leaseId held
    obtain ⟨p', issues⟩ := record.issued lease admissible.active
    rw [admissible.client, admissible.number] at issues
    have same := once p p' r.leaseId installed (issues.mono fun _ _ issues => issues.1)
    refine ⟨⟨p', issues, fun q id later installed' => ?_⟩, ⟨lease.expiresAt, ?_, admissible.inTime⟩,
      kept, fun n r' found number channel => ?_⟩
    · have := last q id installed'
      omega
    · rw [← admissible.number]
      exact record.expiry lease admissible.active
    · obtain ⟨last, register, bound⟩ := record.register n r' found (number ▸ held)
      have := admissible.newer last (channel ▸ register)
      omega
  · intro r other sequence request distinct
    exact step_setLastSequence m request distinct sequence
  · rintro (refused | refused)
    · exact eq_of_refused (effect m call) (by decide) refused
    · exact eq_of_refused (effect m call) (by decide) refused

/-- A lease acquired, a stream command under it, and a second one with a higher sequence. -/
theorem authorization_safe_second_command :
    let h := run step (initial kLeasePeriod)
      [.acquire "a" 0, .authorize "a" 1 7 .stream true 1, .heartbeat "a" 1 3 2]
    ∃ p, At h p (Issues "a" 1) ∧ ∀ q id, p < q → ¬ At h q (Installs holder id) :=
  ((authorization_safe kLeasePeriod
    [.acquire "a" 0, .authorize "a" 1 7 .stream true 1, .heartbeat "a" 1 3 2]
    (.authorize "a" 1 8 .stream true 3)).1 _ rfl (by rfl)).1

end LeaseManager

end MotorDrive.Dds
