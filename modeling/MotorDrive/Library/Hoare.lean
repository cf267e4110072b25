import MotorDrive.Library.Calls

/-!
# Weakest preconditions of programs

`Proc.wp R Q E p s` says that a call of `p` that begins in `s`, with other threads that act as `R` allows, can
only end with a value and a state that satisfy `Q` or with an exception and a state that satisfy `E`.  It has
one rule for each way to build a program, and `wp_iff` says that it is what all runs satisfy.

`Within n p` says that every run of `p` has at most `n` sections, and `Spares view p` that a run which throws
leaves a view of the state alone in every section.
-/

namespace Proc

variable {σ ι L ε α β γ : Type}

/-- What must hold before a call for its ends to satisfy `Q` and `E`. -/
def wp (R : L → σ → σ → Prop) (Q : α → σ → Prop) (E : ε → σ → Prop) : Proc σ ι L ε α → σ → Prop
  | ret a, s => Q a s
  | throw e, s => E e s
  | step label ready act next, s => ∀ i found, R label s found → ready found = true →
      wp R Q E (next i found) (act i found)

section Rules

variable {R : L → σ → σ → Prop} {Q Q' : α → σ → Prop} {E E' : ε → σ → Prop} {p : Proc σ ι L ε α} {s : σ}

/-- The weakest precondition is what all runs of the call satisfy. -/
theorem wp_iff : p.wp R Q E s ↔ ∀ trace r s', p.Runs R s trace r s' →
    (∀ a, r = .ok a → Q a s') ∧ ∀ e, r = .error e → E e s' := by
  induction p generalizing s with
  | ret a =>
    constructor
    · rintro holds trace r s' ⟨-, rfl, rfl⟩
      exact ⟨fun a same => Except.ok.inj same ▸ holds, nofun⟩
    · exact fun all => (all [] (.ok a) s ⟨rfl, rfl, rfl⟩).1 a rfl
  | throw e =>
    constructor
    · rintro holds trace r s' ⟨-, rfl, rfl⟩
      exact ⟨nofun, fun e same => Except.error.inj same ▸ holds⟩
    · exact fun all => (all [] (.error e) s ⟨rfl, rfl, rfl⟩).2 e rfl
  | step label ready act next ih =>
    constructor
    · rintro holds trace r s' ⟨i, found, rest, between, isReady, rfl, later⟩
      exact (ih i found).mp (holds i found between isReady) rest r s' later
    · intro all i found between isReady
      exact (ih i found).mpr fun trace r s' later =>
        all _ r s' ⟨i, found, trace, between, isReady, rfl, later⟩

@[simp] theorem wp_ret {a : α} : (ret a : Proc σ ι L ε α).wp R Q E s ↔ Q a s := Iff.rfl

@[simp] theorem wp_throw {e : ε} : (throw e : Proc σ ι L ε α).wp R Q E s ↔ E e s := Iff.rfl

theorem wp_ofExcept {answer : Except ε α} : (ofExcept answer : Proc σ ι L ε α).wp R Q E s ↔
    (∀ a, answer = .ok a → Q a s) ∧ ∀ e, answer = .error e → E e s := by
  cases answer <;> simp [ofExcept]

theorem wp_atomic {label : L} {f : ι → σ → α × σ} : (atomic label f : Proc σ ι L ε α).wp R Q E s ↔
    ∀ i found, R label s found → Q (f i found).1 (f i found).2 :=
  ⟨fun holds i found between => holds i found between rfl, fun holds i found between _ => holds i found between⟩

theorem wp_await {label : L} {ready : σ → Bool} {f : ι → σ → Except ε α × σ} :
    (await label ready f).wp R Q E s ↔ ∀ i found, R label s found → ready found = true →
      (∀ a, (f i found).1 = .ok a → Q a (f i found).2) ∧ ∀ e, (f i found).1 = .error e → E e (f i found).2 := by
  constructor
  · exact fun holds i found between isReady => wp_ofExcept.mp (holds i found between isReady)
  · exact fun holds i found between isReady => wp_ofExcept.mpr (holds i found between isReady)

@[simp] theorem wp_bind {Q : β → σ → Prop} {f : α → Proc σ ι L ε β} :
    (p.bind f).wp R Q E s ↔ p.wp R (fun a => (f a).wp R Q E) E s := by
  induction p generalizing s with
  | ret a => exact Iff.rfl
  | throw e => exact Iff.rfl
  | step label ready act next ih =>
    exact forall_congr' fun i => forall_congr' fun found => forall_congr' fun _ => forall_congr' fun _ => ih i found

@[simp] theorem wp_tryCatch {handler : ε → Proc σ ι L ε α} :
    (p.tryCatch handler).wp R Q E s ↔ p.wp R Q (fun e => (handler e).wp R Q E) s := by
  induction p generalizing s with
  | ret a => exact Iff.rfl
  | throw e => exact Iff.rfl
  | step label ready act next ih =>
    exact forall_congr' fun i => forall_congr' fun found => forall_congr' fun _ => forall_congr' fun _ => ih i found

theorem wp_ite {c : Prop} [Decidable c] {q : Proc σ ι L ε α} :
    (if c then p else q).wp R Q E s ↔ (c → p.wp R Q E s) ∧ (¬ c → q.wp R Q E s) := by
  by_cases holds : c <;> simp [holds]

theorem wp.mono (holds : p.wp R Q E s) (returns : ∀ a s, Q a s → Q' a s) (throws : ∀ e s, E e s → E' e s) :
    p.wp R Q' E' s := by
  induction p generalizing s with
  | ret a => exact returns a s holds
  | throw e => exact throws e s holds
  | step label ready act next ih => exact fun i found between isReady => ih i found (holds i found between isReady)

theorem wp.and (first : p.wp R Q E s) (second : p.wp R Q' E' s) :
    p.wp R (fun a s => Q a s ∧ Q' a s) (fun e s => E e s ∧ E' e s) s := by
  induction p generalizing s with
  | ret a => exact ⟨first, second⟩
  | throw e => exact ⟨first, second⟩
  | step label ready act next ih =>
    exact fun i found between isReady => ih i found (first i found between isReady) (second i found between isReady)

end Rules

/-! ## The number of sections -/

/-- Every run of the program has at most `n` sections. -/
def Within : ℕ → Proc σ ι L ε α → Prop
  | _, ret _ => True
  | _, throw _ => True
  | 0, step _ _ _ _ => False
  | n + 1, step _ _ _ next => ∀ i s, Within n (next i s)

section Within

variable {R : L → σ → σ → Prop} {p : Proc σ ι L ε α} {m n : ℕ}

theorem Within.length_le {s s' : σ} {trace : List (Taken σ ι L)} {r : Except ε α} (bounded : Within n p)
    (runs : p.Runs R s trace r s') : trace.length ≤ n := by
  induction p generalizing n s trace with
  | ret a => exact runs.1 ▸ Nat.zero_le n
  | throw e => exact runs.1 ▸ Nat.zero_le n
  | step label ready act next ih =>
    obtain ⟨i, found, rest, -, -, rfl, later⟩ := runs
    cases n with
    | zero => cases bounded
    | succ n => exact Nat.succ_le_succ (ih i found (bounded i found) later)

theorem within_ret (n : ℕ) (a : α) : Within n (ret a : Proc σ ι L ε α) := by cases n <;> trivial

theorem within_throw (n : ℕ) (e : ε) : Within n (throw e : Proc σ ι L ε α) := by cases n <;> trivial

theorem within_ofExcept (n : ℕ) (answer : Except ε α) : Within n (ofExcept answer : Proc σ ι L ε α) := by
  cases answer with
  | ok a => exact within_ret n a
  | error e => exact within_throw n e

theorem within_atomic (label : L) (f : ι → σ → α × σ) : Within 1 (atomic label f : Proc σ ι L ε α) :=
  fun i s => within_ret 0 (f i s).1

theorem within_await (label : L) (ready : σ → Bool) (f : ι → σ → Except ε α × σ) :
    Within 1 (await label ready f) :=
  fun i s => within_ofExcept 0 (f i s).1

theorem Within.mono (bounded : Within m p) (more : m ≤ n) : Within n p := by
  induction p generalizing m n with
  | ret a => exact within_ret n a
  | throw e => exact within_throw n e
  | step label ready act next ih =>
    cases m with
    | zero => cases bounded
    | succ m =>
      obtain ⟨n, rfl⟩ : ∃ k, n = k + 1 := ⟨n - 1, by omega⟩
      exact fun i s => ih i s (bounded i s) (by omega)

theorem Within.bind {f : α → Proc σ ι L ε β} (first : Within m p) (rest : ∀ a, Within n (f a)) :
    Within (m + n) (p.bind f) := by
  induction p generalizing m with
  | ret a => exact (rest a).mono (Nat.le_add_left n m)
  | throw e => exact within_throw _ e
  | step label ready act next ih =>
    cases m with
    | zero => cases first
    | succ m =>
      rw [Nat.succ_add]
      exact fun i s => ih i s (first i s)

theorem Within.tryCatch {handler : ε → Proc σ ι L ε α} (body : Within m p) (handled : ∀ e, Within n (handler e)) :
    Within (m + n) (p.tryCatch handler) := by
  induction p generalizing m with
  | ret a => exact within_ret _ a
  | throw e => exact (handled e).mono (Nat.le_add_left n m)
  | step label ready act next ih =>
    cases m with
    | zero => cases body
    | succ m =>
      rw [Nat.succ_add]
      exact fun i s => ih i s (body i s)

theorem Within.ite {c : Prop} [Decidable c] {q : Proc σ ι L ε α} (first : Within n p) (second : Within n q) :
    Within n (if c then p else q) := by
  split_ifs
  · exact first
  · exact second

end Within

/-! ## Programs that throw -/

/-- No run of the program throws. -/
def Returns : Proc σ ι L ε α → Prop
  | ret _ => True
  | throw _ => False
  | step _ _ _ next => ∀ i s, Returns (next i s)

/-- A run of the program that throws leaves the view alone in every section. -/
def Spares (view : σ → β) : Proc σ ι L ε α → Prop
  | ret _ => True
  | throw _ => True
  | step _ _ act next => ∀ i s, Returns (next i s) ∨ view (act i s) = view s ∧ Spares view (next i s)

/-- The sections of a trace, taken by the program, leave the view alone. -/
def LeavesAlone (view : σ → β) : Proc σ ι L ε α → List (Taken σ ι L) → Prop
  | step _ _ act next, taken :: rest =>
    view (act taken.input taken.found) = view taken.found ∧
      LeavesAlone view (next taken.input taken.found) rest
  | _, _ => True

section Spares

variable {R : L → σ → σ → Prop} {view : σ → β} {p : Proc σ ι L ε α} {s s' : σ} {trace : List (Taken σ ι L)} {e : ε}

theorem Returns.not_throws (returns : p.Returns) (runs : p.Runs R s trace (.error e) s') : False := by
  induction p generalizing s trace with
  | ret a => cases runs.2.1
  | throw e => exact returns
  | step label ready act next ih =>
    obtain ⟨i, found, rest, -, -, -, later⟩ := runs
    exact ih i found (returns i found) later

theorem Spares.leavesAlone (spares : p.Spares view) (runs : p.Runs R s trace (.error e) s') :
    p.LeavesAlone view trace := by
  induction p generalizing s trace with
  | ret a => trivial
  | throw e => trivial
  | step label ready act next ih =>
    obtain ⟨i, found, rest, -, -, rfl, later⟩ := runs
    obtain returns | ⟨kept, spares⟩ := spares i found
    · exact (returns.not_throws later).elim
    · exact ⟨kept, ih i found spares later⟩

theorem returns_atomic (label : L) (f : ι → σ → α × σ) : (atomic label f : Proc σ ι L ε α).Returns :=
  fun _ _ => trivial

theorem Returns.bind {f : α → Proc σ ι L ε γ} (first : p.Returns) (rest : ∀ a, (f a).Returns) : (p.bind f).Returns := by
  induction p with
  | ret a => exact rest a
  | throw e => exact first.elim
  | step label ready act next ih => exact fun i s => ih i s (first i s)

theorem Returns.tryCatch {handler : ε → Proc σ ι L ε α} (body : p.Returns) : (p.tryCatch handler).Returns := by
  induction p with
  | ret a => trivial
  | throw e => exact body.elim
  | step label ready act next ih => exact fun i s => ih i s (body i s)

/-- A section that leaves the view alone when it throws, before what returns. -/
theorem spares_await_bind {label : L} {ready : σ → Bool} {f : ι → σ → Except ε α × σ} {g : α → Proc σ ι L ε γ}
    (kept : ∀ i s e, (f i s).1 = .error e → view (f i s).2 = view s) (rest : ∀ a, (g a).Returns) :
    ((await label ready f).bind g).Spares view := by
  intro i s
  cases answer : (f i s).1 with
  | ok a =>
    refine .inl ?_
    simp only [answer]
    exact rest a
  | error e =>
    refine .inr ⟨kept i s e answer, ?_⟩
    simp only [answer]
    trivial

/-- A program that leaves the view alone, before what spares it. -/
theorem Spares.of_keeps_bind {f : α → Proc σ ι L ε γ}
    (first : p.Every fun _ _ act => ∀ i s, view (act i s) = view s) (rest : ∀ a, (f a).Spares view) :
    (p.bind f).Spares view := by
  induction p with
  | ret a => exact rest a
  | throw e => trivial
  | step label ready act next ih => exact fun i s => .inr ⟨first.1 i s, ih i s (first.2 i s)⟩

theorem spares_of_returns (returns : p.Returns) : p.Spares view := by
  cases p with
  | ret a => trivial
  | throw e => trivial
  | step label ready act next => exact fun i s => .inl (returns i s)

theorem Spares.bind_returns {f : α → Proc σ ι L ε γ} (first : p.Spares view) (rest : ∀ a, (f a).Returns) :
    (p.bind f).Spares view := by
  induction p with
  | ret a => exact spares_of_returns (rest a)
  | throw e => trivial
  | step label ready act next ih =>
    intro i s
    obtain returns | ⟨kept, spares⟩ := first i s
    · exact .inl (returns.bind rest)
    · exact .inr ⟨kept, ih i s spares⟩

theorem Spares.tryCatch {handler : ε → Proc σ ι L ε α} (body : p.Spares view) (handled : ∀ e, (handler e).Spares view) :
    (p.tryCatch handler).Spares view := by
  induction p with
  | ret a => trivial
  | throw e => exact handled e
  | step label ready act next ih =>
    intro i s
    obtain returns | ⟨kept, spares⟩ := body i s
    · exact .inl returns.tryCatch
    · exact .inr ⟨kept, ih i s spares⟩

end Spares

end Proc
