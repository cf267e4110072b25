import MotorDrive.Library.Threads
import MotorDrive.Library.Hoare

/-!
# A lock and what it guards

`Lock` says which part of a shared state is a lock.  `locked` runs a program under it and frees it also when
the program throws.  A `Guard` adds what holds whenever the lock is free, and what the threads do without the lock.

`triple_locked` has a thread that runs a program under the lock start with what the lock guards and end with
it; `good_of_reach` concludes that it holds in every configuration that a run reaches while the lock is free.
-/

namespace Threads

variable {θ σ ι L ε Ω α : Type}

/-- A lock of a shared state. -/
structure Lock (θ σ : Type) where
  holder : σ → Option θ
  take : θ → σ → σ
  free : σ → σ
  holder_take : ∀ t s, holder (take t s) = some t
  holder_free : ∀ s, holder (free s) = none

/-- Run a program under the lock. -/
def Lock.locked (lock : Lock θ σ) (acquire release : L) (t : θ) (body : Proc σ ι L ε α) : Proc σ ι L ε α := do
  let _ ← Proc.await acquire (fun s => (lock.holder s).isNone) fun _ s => (.ok (), lock.take t s)
  let a ← Proc.tryCatch body fun error => do
    let _ ← Proc.atomic release fun _ s => ((), lock.free s)
    Proc.throw error
  let _ ← Proc.atomic release fun _ s => ((), lock.free s)
  Proc.ret a

/-- What a lock guards, and what the threads do without it. -/
structure Guard (θ σ : Type) extends Lock θ σ where
  good : σ → Prop
  beside : σ → σ → Prop
  good_take : ∀ t s, good s → good (take t s)
  good_free : ∀ s, good s → good (free s)
  holder_beside : ∀ s s', beside s s' → holder s' = holder s
  good_beside : ∀ s s', beside s s' → good s → good s'

/-- An answer that is known keeps what holds. -/
theorem Discipline.Triple.ofExcept {D : Discipline θ σ ι L} {t : θ} {A : σ → Prop} {answer : Except ε α} :
    D.Triple t (Proc.ofExcept answer) A (fun _ => A) fun _ => A := by
  cases answer <;> exact fun _ _ holds => holds

namespace Guard

variable (G : Guard θ σ)

/-- The thread does not have the lock. -/
def Idle (t : θ) (s : σ) : Prop := G.holder s ≠ some t

/-- What the lock guards holds while it is free; a thread with the lock relies on the others to do only what
they may do without it. -/
def discipline : Discipline θ σ ι L where
  inv s := G.holder s = none → G.good s
  rely t s s' := (G.holder s = some t → G.beside s s') ∧ (G.holder s ≠ some t → G.holder s' ≠ some t)
  allowed _ _ _ _ := True
  rest := G.Idle

/-- The thread has the lock, and something else holds. -/
def Owned (t : θ) (F : σ → Prop) (s : σ) : Prop := G.holder s = some t ∧ F s

variable {G} {t : θ} {F F' : σ → Prop} {label : L} {s s' : σ}

/-- The others keep what is closed under what they may do without the lock. -/
theorem stable_owned (closed : ∀ s s', G.beside s s' → F s → F s') :
    (G.discipline : Discipline θ σ ι L).Stable t (G.Owned t F) :=
  fun s s' _ rely owned => ⟨(G.holder_beside s s' (rely.1 owned.1)).trans owned.1, closed s s' (rely.1 owned.1) owned.2⟩

theorem stable_rest : (G.discipline : Discipline θ σ ι L).Stable t (G.Idle t) :=
  fun _ _ _ rely resting => rely.2 resting

/-- No other thread has the lock before a step of the owner, nor after it. -/
theorem guarantees_owner (before : G.holder s = some t) (after : G.holder s' = some t ∨ G.holder s' = none) :
    (G.discipline : Discipline θ σ ι L).Guarantees t s s' := by
  intro u other
  have absent : G.holder s ≠ some u := fun same => other (Option.some.inj (same.symm.trans before))
  refine ⟨fun same => absurd same absent, fun _ same => ?_⟩
  rcases after with after | after
  · exact other (Option.some.inj (same.symm.trans after))
  · rw [same] at after
    cases after

/-- A section of the thread with the lock. -/
theorem triple_owner {ready : σ → Bool} {f : ι → σ → Except ε α × σ} {Q : α → σ → Prop} {E : ε → σ → Prop}
    (closed : ∀ a s s', G.beside s s' → Q a s → Q a s') (closedThrown : ∀ e s s', G.beside s s' → E e s → E e s')
    (holder : ∀ i s, G.holder (f i s).2 = G.holder s)
    (returns : ∀ i s a, F s → (f i s).1 = .ok a → Q a (f i s).2)
    (throws : ∀ i s e, F s → (f i s).1 = .error e → E e (f i s).2) :
    G.discipline.Triple t (Proc.await label ready f) (G.Owned t F) (fun a => G.Owned t (Q a))
      fun e => G.Owned t (E e) := by
  refine Discipline.Triple.await (fun a => stable_owned (closed a)) (fun e => stable_owned (closedThrown e)) ?_
  intro i s _ owned _ _
  have held : G.holder (f i s).2 = some t := (holder i s).trans owned.1
  refine ⟨fun none => ?_, guarantees_owner owned.1 (.inl held), ?_⟩
  · rw [held] at none
    cases none
  · cases answer : (f i s).1 with
    | ok a => exact ⟨held, returns i s a owned.2 answer⟩
    | error e => exact ⟨held, throws i s e owned.2 answer⟩

theorem triple_owner_atomic {f : ι → σ → α × σ} {Q : α → σ → Prop} {E : ε → σ → Prop}
    (closed : ∀ a s s', G.beside s s' → Q a s → Q a s') (holder : ∀ i s, G.holder (f i s).2 = G.holder s)
    (returns : ∀ i s, F s → Q (f i s).1 (f i s).2) :
    G.discipline.Triple t (Proc.atomic label f) (G.Owned t F) (fun a => G.Owned t (Q a)) E := by
  refine Discipline.Triple.atomic (fun a => stable_owned (closed a)) fun i s _ owned _ => ?_
  have held : G.holder (f i s).2 = some t := (holder i s).trans owned.1
  refine ⟨fun none => ?_, guarantees_owner owned.1 (.inl held), held, returns i s owned.2⟩
  rw [held] at none
  cases none

/-- The owner frees the lock once what it guards holds again. -/
theorem triple_release :
    G.discipline.Triple t (Proc.atomic label fun _ s => ((), G.free s) : Proc σ ι L ε Unit) (G.Owned t G.good)
      (fun _ => G.Idle t) fun _ => G.Idle t := by
  refine Discipline.Triple.atomic (fun _ => stable_rest) fun i s _ owned _ => ?_
  have freed := G.holder_free s
  refine ⟨fun _ => G.good_free s owned.2, guarantees_owner owned.1 (.inr freed), fun same => ?_⟩
  rw [freed] at same
  cases same

/-- A program under the lock starts with what the lock guards and ends with it, also when it throws. -/
theorem triple_locked {acquire release : L} {body : Proc σ ι L ε α}
    (sound : G.discipline.Triple t body (G.Owned t G.good) (fun _ => G.Owned t G.good) fun _ => G.Owned t G.good) :
    G.discipline.Triple t (G.locked acquire release t body) (G.Idle t)
      (fun _ => G.Idle t) fun _ => G.Idle t := by
  have acquires : G.discipline.Triple t
      (Proc.await acquire (fun s => (G.holder s).isNone) fun _ s => (.ok (), G.take t s) : Proc σ ι L ε Unit)
      (G.Idle t) (fun _ => G.Owned t G.good)
      fun _ => G.Idle t := by
    refine Discipline.Triple.await (fun _ => stable_owned G.good_beside) (fun _ => stable_rest) ?_
    intro i s guarded _ isFree _
    have none : G.holder s = none := Option.isNone_iff_eq_none.mp isFree
    have taken := G.holder_take t s
    refine ⟨fun impossible => ?_, fun u other => ⟨fun same => ?_, fun _ same => ?_⟩, taken, G.good_take t s (guarded none)⟩
    · rw [taken] at impossible
      cases impossible
    · rw [none] at same
      cases same
    · exact other (Option.some.inj (same.symm.trans taken))
  refine acquires.bind fun _ => Discipline.Triple.bind (Q := fun _ => G.Owned t G.good) (sound.tryCatch fun e => ?_) fun a => ?_
  · exact triple_release.bind fun _ => Discipline.Triple.throw fun _ _ resting => resting
  · exact triple_release.bind fun _ => Discipline.Triple.ret fun _ _ resting => resting

/-- A section that a thread takes without the lock. -/
theorem triple_beside {ready : σ → Bool} {f : ι → σ → Except ε α × σ}
    (beside : ∀ i s, G.beside s (f i s).2) :
    G.discipline.Triple t (Proc.await label ready f) (G.Idle t)
      (fun _ => G.Idle t) fun _ => G.Idle t := by
  refine Discipline.Triple.await (fun _ => stable_rest) (fun _ => stable_rest) fun i s guarded resting _ _ => ?_
  have same := G.holder_beside s _ (beside i s)
  have rested : G.holder (f i s).2 ≠ some t := same ▸ resting
  refine ⟨fun none => G.good_beside s _ (beside i s) (guarded (same ▸ none)),
    fun u _ => ⟨fun _ => beside i s, fun absent => same ▸ absent⟩, ?_⟩
  cases (f i s).1 with
  | ok a => exact rested
  | error e => exact rested

/-- What the lock guards holds wherever a run has the lock free. -/
theorem good_of_reach [DecidableEq θ] {M : Machine θ σ ι L ε Ω} (unlocked : G.holder M.start = none)
    (start : G.good M.start)
    (body : ∀ op, G.discipline.Triple (M.thread op) (M.body op) (G.Idle (M.thread op))
      (fun _ => G.Idle (M.thread op)) fun _ => G.Idle (M.thread op))
    {c : Config θ σ ι L ε} (reach : M.Reach (fun _ _ _ _ => True) c) (isFree : G.holder c.shared = none) :
    G.good c.shared := by
  have governs : (G.discipline : Discipline θ σ ι L).Governs M := by
    refine ⟨fun _ => start, fun t same => ?_, fun _ => stable_rest, body⟩
    rw [unlocked] at same
    cases same
  exact governs.inv_of_reach reach isFree

end Guard

/-- A program under a lock leaves alone what the lock is not part of, if the program itself does. -/
theorem Lock.spares_locked {β : Type} {view : σ → β} (lock : Lock θ σ) {acquire release : L} {t : θ}
    {body : Proc σ ι L ε α} (take : ∀ s, view (lock.take t s) = view s) (free : ∀ s, view (lock.free s) = view s)
    (spares : body.Spares view) : (lock.locked acquire release t body).Spares view := by
  refine Proc.Spares.of_keeps_bind (Proc.every_await fun _ => take) fun _ => ?_
  refine Proc.Spares.bind_returns (spares.tryCatch fun e => ?_) fun a => ?_
  · exact Proc.Spares.of_keeps_bind (Proc.every_atomic fun _ => free) fun _ => trivial
  · exact (Proc.returns_atomic _ _).bind fun _ => trivial

end Threads
