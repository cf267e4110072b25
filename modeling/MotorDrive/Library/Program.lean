import MotorDrive.Library.Numerals

/-!
# Programs of atomic sections

`Proc σ ι L ε α` is a thread's program over a shared state `σ`.  It is a tree of atomic sections:
each carries a label, waits until it is `ready` (a lock is free, a queue is not empty), takes an
input `ι` that the program does not choose (a clock reading, an answer of the hardware), updates the
shared state and goes on with what it has seen.  A program ends with a value or with an exception.

Programs are a monad with exceptions, so a function of a threaded program is written in the order of
its source: `atomic label f` is one section, `do` composes them, `Proc.tryCatch` is a handler.

`Every S p` says that each section of `p` satisfies `S`; it has one rule for each way to build a
program.
-/

/-- A program of atomic sections. -/
inductive Proc (σ ι L ε α : Type) : Type
  | ret (a : α)
  | throw (e : ε)
  | step (label : L) (ready : σ → Bool) (act : ι → σ → σ) (next : ι → σ → Proc σ ι L ε α)

namespace Proc

variable {σ ι L ε α β : Type}

/-- Sequential composition. -/
def bind : Proc σ ι L ε α → (α → Proc σ ι L ε β) → Proc σ ι L ε β
  | ret a, f => f a
  | throw e, _ => throw e
  | step label ready act next, f => step label ready act fun i s => bind (next i s) f

/-- Run `handler` on an exception of the program. -/
def tryCatch : Proc σ ι L ε α → (ε → Proc σ ι L ε α) → Proc σ ι L ε α
  | ret a, _ => ret a
  | throw e, handler => handler e
  | step label ready act next, handler =>
    step label ready act fun i s => tryCatch (next i s) handler

instance : Monad (Proc σ ι L ε) where
  pure := ret
  bind := bind

/-- What a section's answer is as a program. -/
def ofExcept : Except ε α → Proc σ ι L ε α
  | .ok a => ret a
  | .error e => throw e

/-- A section that waits until it is `ready` and may throw. -/
def await (label : L) (ready : σ → Bool) (f : ι → σ → Except ε α × σ) : Proc σ ι L ε α :=
  step label ready (fun i s => (f i s).2) fun i s => ofExcept (f i s).1

/-- A section that is always ready and does not throw. -/
def atomic (label : L) (f : ι → σ → α × σ) : Proc σ ι L ε α :=
  step label (fun _ => true) (fun i s => (f i s).2) fun i s => ret (f i s).1

/-- Run the program only if the condition holds. -/
def when (condition : Bool) (p : Proc σ ι L ε Unit) : Proc σ ι L ε Unit :=
  if condition then p else ret ()

/-- Repeat `body` at most `n` times, until it says to stop. -/
def loop (body : Proc σ ι L ε Bool) : ℕ → Proc σ ι L ε Unit
  | 0 => ret ()
  | n + 1 => bind body fun more => if more then loop body n else ret ()

@[simp] theorem pure_eq (a : α) : (pure a : Proc σ ι L ε α) = ret a := rfl

@[simp] theorem bind_eq (p : Proc σ ι L ε α) (f : α → Proc σ ι L ε β) : p >>= f = bind p f := rfl

/-! ## Properties of all sections -/

/-- Every section of the program satisfies `S`. -/
def Every (S : L → (σ → Bool) → (ι → σ → σ) → Prop) : Proc σ ι L ε α → Prop
  | ret _ => True
  | throw _ => True
  | step label ready act next => S label ready act ∧ ∀ i s, Every S (next i s)

section Rules

variable {S : L → (σ → Bool) → (ι → σ → σ) → Prop}

theorem every_bind {p : Proc σ ι L ε α} {f : α → Proc σ ι L ε β} (first : p.Every S)
    (rest : ∀ a, (f a).Every S) : (p.bind f).Every S := by
  induction p with
  | ret a => exact rest a
  | throw e => trivial
  | step label ready act next ih => exact ⟨first.1, fun i s => ih i s (first.2 i s)⟩

theorem every_tryCatch {p : Proc σ ι L ε α} {handler : ε → Proc σ ι L ε α} (body : p.Every S)
    (handled : ∀ e, (handler e).Every S) : (p.tryCatch handler).Every S := by
  induction p with
  | ret a => trivial
  | throw e => exact handled e
  | step label ready act next ih => exact ⟨body.1, fun i s => ih i s (body.2 i s)⟩

theorem every_atomic {label : L} {f : ι → σ → α × σ} (sound : S label (fun _ => true) fun i s => (f i s).2) :
    (atomic label f : Proc σ ι L ε α).Every S :=
  ⟨sound, fun _ _ => trivial⟩

theorem every_ofExcept (answer : Except ε α) : (ofExcept answer : Proc σ ι L ε α).Every S := by
  cases answer <;> trivial

theorem every_await {label : L} {ready : σ → Bool} {f : ι → σ → Except ε α × σ}
    (sound : S label ready fun i s => (f i s).2) : (await label ready f).Every S := by
  exact ⟨sound, fun i s => every_ofExcept _⟩

theorem every_when {condition : Bool} {p : Proc σ ι L ε Unit} (every : p.Every S) :
    (when condition p).Every S := by
  unfold when
  split_ifs
  · exact every
  · trivial

theorem every_ite {c : Prop} [Decidable c] {p q : Proc σ ι L ε α} (first : p.Every S)
    (second : q.Every S) : (if c then p else q).Every S := by
  split_ifs
  · exact first
  · exact second

theorem every_loop {body : Proc σ ι L ε Bool} (sound : body.Every S) (n : ℕ) :
    (loop body n).Every S := by
  induction n with
  | zero => trivial
  | succ n ih =>
    refine every_bind sound fun more => ?_
    cases more
    · trivial
    · exact ih

theorem Every.mono {S' : L → (σ → Bool) → (ι → σ → σ) → Prop}
    (weaker : ∀ label ready act, S label ready act → S' label ready act)
    {p : Proc σ ι L ε α} (every : p.Every S) : p.Every S' := by
  induction p with
  | ret a => trivial
  | throw e => trivial
  | step label ready act next ih => exact ⟨weaker _ _ _ every.1, fun i s => ih i s (every.2 i s)⟩

/-- Every value the program may end with satisfies `V`. -/
def Yields (V : α → Prop) : Proc σ ι L ε α → Prop
  | ret a => V a
  | throw _ => True
  | step _ _ _ next => ∀ i s, Yields V (next i s)

end Rules

end Proc
