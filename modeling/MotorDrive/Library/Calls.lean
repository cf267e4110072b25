import MotorDrive.Library.Flow

/-!
# Calls of a program

`Proc.Runs R p s trace r s'` says that `p`, started in `s`, takes the sections of `trace`, ends with the
answer `r` and leaves `s'`.  Between two sections the other threads may act: `R label s found` says that
they may take the state from `s` to what the section `label` finds.  A fact about all runs with an `R`
that holds of everything is a fact about every behaviour of the other threads.

There is one rule for each way to build a program.  A program that follows a flow has linked runs
(`Linked`): each section acts as the flow says.  `Machine.runs_of_executes` says that a thread of a
machine that executes a program runs it, with what the moves of the other threads do between its sections
(`Machine.Between`).
-/

/-- One section of a call: its label, its input and the state it finds. -/
structure Taken (σ ι L : Type) where
  label : L
  input : ι
  found : σ

namespace Proc

variable {σ ι L ε α β : Type}

/-- A run of a program. -/
def Runs (R : L → σ → σ → Prop) :
    Proc σ ι L ε α → σ → List (Taken σ ι L) → Except ε α → σ → Prop
  | ret a, s, trace, r, s' => trace = [] ∧ r = .ok a ∧ s' = s
  | throw e, s, trace, r, s' => trace = [] ∧ r = .error e ∧ s' = s
  | step label ready act next, s, trace, r, s' => ∃ i found rest, R label s found ∧
      ready found = true ∧ trace = ⟨label, i, found⟩ :: rest ∧
      Runs R (next i found) (act i found) rest r s'

/-- The other threads do nothing between the sections. -/
def undisturbed (_ : L) (s found : σ) : Prop := found = s

/-- Run a program with given inputs, with nothing between its sections. -/
def exec : Proc σ ι L ε α → σ → List ι → Option (List (Taken σ ι L) × Except ε α × σ)
  | ret a, s, [] => some ([], .ok a, s)
  | throw e, s, [] => some ([], .error e, s)
  | step label ready act next, s, i :: inputs =>
    if ready s then
      (exec (next i s) (act i s) inputs).map fun (trace, r, s') => (⟨label, i, s⟩ :: trace, r, s')
    else none
  | _, _, _ => none

/-- A view of what a program does on given inputs. -/
def shows {γ : Type} (p : Proc σ ι L ε α) (s : σ) (inputs : List ι)
    (view : List (Taken σ ι L) → Except ε α → σ → γ) : Option γ :=
  (p.exec s inputs).map fun (trace, r, s') => view trace r s'

section Rules

variable {R : L → σ → σ → Prop} {s s' : σ} {trace : List (Taken σ ι L)} {r : Except ε α}

theorem runs_ret {a : α} :
    (ret a : Proc σ ι L ε α).Runs R s trace r s' ↔ trace = [] ∧ r = .ok a ∧ s' = s := Iff.rfl

theorem runs_ofExcept {answer : Except ε α} :
    (ofExcept answer : Proc σ ι L ε α).Runs R s trace r s' ↔ trace = [] ∧ r = answer ∧ s' = s := by
  cases answer <;> exact Iff.rfl

theorem runs_atomic {label : L} {f : ι → σ → α × σ} :
    (atomic label f : Proc σ ι L ε α).Runs R s trace r s' ↔ ∃ i found, R label s found ∧
      trace = [⟨label, i, found⟩] ∧ r = .ok (f i found).1 ∧ s' = (f i found).2 := by
  constructor
  · rintro ⟨i, found, rest, between, -, rfl, rfl, answer, left⟩
    exact ⟨i, found, between, rfl, answer, left⟩
  · rintro ⟨i, found, between, rfl, answer, left⟩
    exact ⟨i, found, [], between, rfl, rfl, rfl, answer, left⟩

theorem runs_await {label : L} {ready : σ → Bool} {f : ι → σ → Except ε α × σ} :
    (await label ready f).Runs R s trace r s' ↔ ∃ i found, R label s found ∧ ready found = true ∧
      trace = [⟨label, i, found⟩] ∧ r = (f i found).1 ∧ s' = (f i found).2 := by
  constructor
  · rintro ⟨i, found, rest, between, isReady, rfl, later⟩
    obtain ⟨rfl, answer, left⟩ := runs_ofExcept.mp later
    exact ⟨i, found, between, isReady, rfl, answer, left⟩
  · rintro ⟨i, found, between, isReady, rfl, answer, left⟩
    exact ⟨i, found, [], between, isReady, rfl, runs_ofExcept.mpr ⟨rfl, answer, left⟩⟩

theorem runs_atomic_bind {label : L} {f : ι → σ → α × σ} {g : α → Proc σ ι L ε β} {r : Except ε β} :
    ((atomic label f).bind g).Runs R s trace r s' ↔ ∃ i found rest, R label s found ∧
      trace = ⟨label, i, found⟩ :: rest ∧ (g (f i found).1).Runs R (f i found).2 rest r s' := by
  constructor
  · rintro ⟨i, found, rest, between, -, rfl, later⟩
    exact ⟨i, found, rest, between, rfl, later⟩
  · rintro ⟨i, found, rest, between, rfl, later⟩
    exact ⟨i, found, rest, between, rfl, rfl, later⟩

theorem runs_await_bind {label : L} {ready : σ → Bool} {f : ι → σ → Except ε α × σ}
    {g : α → Proc σ ι L ε β} {r : Except ε β} :
    ((await label ready f).bind g).Runs R s trace r s' ↔ ∃ i found rest, R label s found ∧
      ready found = true ∧ trace = ⟨label, i, found⟩ :: rest ∧
      ((∃ a, (f i found).1 = .ok a ∧ (g a).Runs R (f i found).2 rest r s') ∨
        ∃ e, (f i found).1 = .error e ∧ rest = [] ∧ r = .error e ∧ s' = (f i found).2) := by
  have answered : ∀ (answer : Except ε α) (s : σ) (trace : List (Taken σ ι L)),
      (((ofExcept answer).bind g).Runs R s trace r s' ↔ (∃ a, answer = .ok a ∧ (g a).Runs R s trace r s') ∨
        ∃ e, answer = .error e ∧ trace = [] ∧ r = .error e ∧ s' = s) := by
    intro answer s trace
    cases answer with
    | ok a =>
      constructor
      · exact fun runs => .inl ⟨a, rfl, runs⟩
      · rintro (⟨a', same, runs⟩ | ⟨e, impossible, -⟩)
        · exact Except.ok.inj same ▸ runs
        · cases impossible
    | error e =>
      constructor
      · exact fun ends => .inr ⟨e, rfl, ends⟩
      · rintro (⟨a, impossible, -⟩ | ⟨e', same, ends⟩)
        · cases impossible
        · exact Except.error.inj same ▸ ends
  constructor
  · rintro ⟨i, found, rest, between, isReady, rfl, later⟩
    exact ⟨i, found, rest, between, isReady, rfl, (answered _ _ _).mp later⟩
  · rintro ⟨i, found, rest, between, isReady, rfl, later⟩
    exact ⟨i, found, rest, between, isReady, rfl, (answered _ _ _).mpr later⟩

/-- A composition runs the first program and, when it returns, the rest. -/
theorem runs_bind {p : Proc σ ι L ε α} {f : α → Proc σ ι L ε β} {r : Except ε β} :
    (p.bind f).Runs R s trace r s' ↔
      (∃ a middle first rest, p.Runs R s first (.ok a) middle ∧ (f a).Runs R middle rest r s' ∧
        trace = first ++ rest) ∨
      ∃ e, p.Runs R s trace (.error e) s' ∧ r = .error e := by
  induction p generalizing s trace with
  | ret a =>
    constructor
    · exact fun later => .inl ⟨a, s, [], trace, ⟨rfl, rfl, rfl⟩, later, rfl⟩
    · rintro (⟨a', middle, first, rest, ⟨rfl, same, rfl⟩, later, rfl⟩ | ⟨e, ⟨-, impossible, -⟩, -⟩)
      · obtain rfl := Except.ok.inj same
        exact later
      · cases impossible
  | throw e =>
    constructor
    · rintro ⟨none, thrown, left⟩
      exact .inr ⟨e, ⟨none, rfl, left⟩, thrown⟩
    · rintro (⟨a, middle, first, rest, ⟨-, impossible, -⟩, -⟩ | ⟨e', ⟨none, same, left⟩, thrown⟩)
      · cases impossible
      · obtain rfl := Except.error.inj same
        exact ⟨none, thrown, left⟩
  | step label ready act next ih =>
    constructor
    · rintro ⟨i, found, rest, between, isReady, rfl, later⟩
      obtain ⟨a, middle, first, last, before, after, rfl⟩ | ⟨e, before, thrown⟩ := (ih i found).mp later
      · exact .inl ⟨a, middle, _ :: first, last, ⟨i, found, first, between, isReady, rfl, before⟩, after,
          rfl⟩
      · exact .inr ⟨e, ⟨i, found, rest, between, isReady, rfl, before⟩, thrown⟩
    · rintro (⟨a, middle, first, last, ⟨i, found, rest, between, isReady, rfl, before⟩, after, rfl⟩ |
        ⟨e, ⟨i, found, rest, between, isReady, rfl, before⟩, thrown⟩)
      · exact ⟨i, found, rest ++ last, between, isReady, rfl,
          (ih i found).mpr (.inl ⟨a, middle, rest, last, before, after, rfl⟩)⟩
      · exact ⟨i, found, rest, between, isReady, rfl, (ih i found).mpr (.inr ⟨e, before, thrown⟩)⟩

/-- A composition that returns has run both programs. -/
theorem runs_bind_ok {p : Proc σ ι L ε α} {f : α → Proc σ ι L ε β} {b : β}
    (runs : (p.bind f).Runs R s trace (.ok b) s') : ∃ a middle first rest, p.Runs R s first (.ok a) middle ∧
      (f a).Runs R middle rest (.ok b) s' ∧ trace = first ++ rest := by
  obtain returns | ⟨e, -, impossible⟩ := runs_bind.mp runs
  · exact returns
  · cases impossible

/-- A handler runs when the program throws. -/
theorem runs_tryCatch {p : Proc σ ι L ε α} {handler : ε → Proc σ ι L ε α} :
    (p.tryCatch handler).Runs R s trace r s' ↔
      (∃ e middle first rest, p.Runs R s first (.error e) middle ∧
        (handler e).Runs R middle rest r s' ∧ trace = first ++ rest) ∨
      ∃ a, p.Runs R s trace (.ok a) s' ∧ r = .ok a := by
  induction p generalizing s trace with
  | ret a =>
    constructor
    · rintro ⟨none, answer, left⟩
      exact .inr ⟨a, ⟨none, rfl, left⟩, answer⟩
    · rintro (⟨e, middle, first, rest, ⟨-, impossible, -⟩, -⟩ | ⟨a', ⟨none, same, left⟩, answer⟩)
      · cases impossible
      · obtain rfl := Except.ok.inj same
        exact ⟨none, answer, left⟩
  | throw e =>
    constructor
    · exact fun later => .inl ⟨e, s, [], trace, ⟨rfl, rfl, rfl⟩, later, rfl⟩
    · rintro (⟨e', middle, first, rest, ⟨rfl, same, rfl⟩, later, rfl⟩ | ⟨a, ⟨-, impossible, -⟩, -⟩)
      · obtain rfl := Except.error.inj same
        exact later
      · cases impossible
  | step label ready act next ih =>
    constructor
    · rintro ⟨i, found, rest, between, isReady, rfl, later⟩
      obtain ⟨e, middle, first, last, before, after, rfl⟩ | ⟨a, before, answer⟩ := (ih i found).mp later
      · exact .inl ⟨e, middle, _ :: first, last, ⟨i, found, first, between, isReady, rfl, before⟩, after,
          rfl⟩
      · exact .inr ⟨a, ⟨i, found, rest, between, isReady, rfl, before⟩, answer⟩
    · rintro (⟨e, middle, first, last, ⟨i, found, rest, between, isReady, rfl, before⟩, after, rfl⟩ |
        ⟨a, ⟨i, found, rest, between, isReady, rfl, before⟩, answer⟩)
      · exact ⟨i, found, rest ++ last, between, isReady, rfl,
          (ih i found).mpr (.inl ⟨e, middle, rest, last, before, after, rfl⟩)⟩
      · exact ⟨i, found, rest, between, isReady, rfl, (ih i found).mpr (.inr ⟨a, before, answer⟩)⟩

/-- Other threads that may do less give fewer runs. -/
theorem Runs.mono {R' : L → σ → σ → Prop} (more : ∀ label s found, R label s found → R' label s found)
    {p : Proc σ ι L ε α} (runs : p.Runs R s trace r s') : p.Runs R' s trace r s' := by
  induction p generalizing s trace with
  | ret a => exact runs
  | throw e => exact runs
  | step label ready act next ih =>
    obtain ⟨i, found, rest, between, isReady, same, later⟩ := runs
    exact ⟨i, found, rest, more label s found between, isReady, same, ih i found later⟩

/-- Every section of a run finds what the other threads may leave to it. -/
theorem Runs.found {p : Proc σ ι L ε α} (runs : p.Runs R s trace r s') :
    ∀ taken ∈ trace, ∃ before, R taken.label before taken.found := by
  induction p generalizing s trace with
  | ret a => exact runs.1 ▸ nofun
  | throw e => exact runs.1 ▸ nofun
  | step label ready act next ih =>
    obtain ⟨i, found, rest, between, -, rfl, later⟩ := runs
    intro taken member
    rcases List.mem_cons.mp member with rfl | member
    · exact ⟨s, between⟩
    · exact ih i found later taken member

/-- What every section of a program satisfies, every section of its runs does. -/
theorem Runs.every {P : L → Prop} {p : Proc σ ι L ε α} (runs : p.Runs R s trace r s')
    (every : p.Every fun label _ _ => P label) : ∀ taken ∈ trace, P taken.label := by
  induction p generalizing s trace with
  | ret a => exact runs.1 ▸ nofun
  | throw e => exact runs.1 ▸ nofun
  | step label ready act next ih =>
    obtain ⟨i, found, rest, -, -, rfl, later⟩ := runs
    intro taken member
    rcases List.mem_cons.mp member with rfl | member
    · exact every.1
    · exact ih i found later (every.2 i found) taken member

/-- What the other threads and every section keep holds wherever the call has been. -/
theorem Runs.keeps {I : σ → Prop} {p : Proc σ ι L ε α} (runs : p.Runs R s trace r s')
    (others : ∀ label s found, R label s found → I s → I found)
    (own : p.Every fun _ _ act => ∀ i s, I s → I (act i s)) (start : I s) :
    I s' ∧ ∀ taken ∈ trace, I taken.found := by
  induction p generalizing s trace with
  | ret a =>
    obtain ⟨rfl, -, rfl⟩ := runs
    exact ⟨start, fun _ member => absurd member List.not_mem_nil⟩
  | throw e =>
    obtain ⟨rfl, -, rfl⟩ := runs
    exact ⟨start, fun _ member => absurd member List.not_mem_nil⟩
  | step label ready act next ih =>
    obtain ⟨i, found, rest, between, -, rfl, later⟩ := runs
    have here := others label s found between start
    obtain ⟨left, met⟩ := ih i found later (own.2 i found) (own.1 i found here)
    refine ⟨left, fun taken member => ?_⟩
    rcases List.mem_cons.mp member with rfl | member
    · exact here
    · exact met taken member

/-- The states of a call follow a preorder that the other threads and every section follow. -/
theorem Runs.ordered {le : σ → σ → Prop} (refl : ∀ s, le s s) (trans : ∀ s t u, le s t → le t u → le s u)
    {p : Proc σ ι L ε α} (runs : p.Runs R s trace r s')
    (others : ∀ label s found, R label s found → le s found)
    (own : p.Every fun _ _ act => ∀ i s, le s (act i s)) :
    le s s' ∧ ∀ taken ∈ trace, le s taken.found ∧ le taken.found s' := by
  induction p generalizing s trace with
  | ret a =>
    obtain ⟨rfl, -, rfl⟩ := runs
    exact ⟨refl s', fun _ member => absurd member List.not_mem_nil⟩
  | throw e =>
    obtain ⟨rfl, -, rfl⟩ := runs
    exact ⟨refl s', fun _ member => absurd member List.not_mem_nil⟩
  | step label ready act next ih =>
    obtain ⟨i, found, rest, between, -, rfl, later⟩ := runs
    have before := others label s found between
    have here := own.1 i found
    obtain ⟨left, met⟩ := ih i found later (own.2 i found)
    refine ⟨trans _ _ _ before (trans _ _ _ here left), fun taken member => ?_⟩
    rcases List.mem_cons.mp member with rfl | member
    · exact ⟨before, trans _ _ _ here left⟩
    · exact ⟨trans _ _ _ before (trans _ _ _ here (met taken member).1), (met taken member).2⟩

/-- What a program does on given inputs with nothing between its sections is one of its runs. -/
theorem runs_of_exec {p : Proc σ ι L ε α} {inputs : List ι}
    (executed : p.exec s inputs = some (trace, r, s')) : p.Runs undisturbed s trace r s' := by
  induction p generalizing s trace inputs with
  | ret a =>
    cases inputs with
    | nil => simp_all [exec, Runs]
    | cons => simp [exec] at executed
  | throw e =>
    cases inputs with
    | nil => simp_all [exec, Runs]
    | cons => simp [exec] at executed
  | step label ready act next ih =>
    cases inputs with
    | nil => simp [exec] at executed
    | cons i inputs =>
      simp only [exec] at executed
      split_ifs at executed with isReady
      obtain ⟨⟨rest, answer, left⟩, later, same⟩ := Option.map_eq_some_iff.mp executed
      simp only [Prod.mk.injEq] at same
      obtain ⟨rfl, rfl, rfl⟩ := same
      exact ⟨i, s, rest, rfl, isReady, rfl, ih i s later⟩

/-- Inputs whose run shows some view give a run with that view. -/
theorem exists_runs_of_exec {γ : Type} {b : γ} (p : Proc σ ι L ε α) (s : σ) (inputs : List ι)
    (view : List (Taken σ ι L) → Except ε α → σ → γ)
    (executed : p.shows s inputs view = some b) :
    ∃ trace r s', p.Runs undisturbed s trace r s' ∧ view trace r s' = b := by
  obtain ⟨⟨trace, r, s'⟩, ran, seen⟩ := Option.map_eq_some_iff.mp executed
  exact ⟨trace, r, s', runs_of_exec ran, seen⟩

/-! ### Programs that always return -/

/-- Every run of the program returns, with a trace and a value that satisfy `P`. -/
def Gives (p : Proc σ ι L ε α) (P : List (Taken σ ι L) → α → Prop) : Prop :=
  ∀ (R : L → σ → σ → Prop) s trace r s', p.Runs R s trace r s' → ∃ a, r = .ok a ∧ P trace a

variable {p : Proc σ ι L ε α} {P Q : List (Taken σ ι L) → α → Prop}

theorem Gives.ret {a : α} (holds : P [] a) : (ret a : Proc σ ι L ε α).Gives P := by
  rintro R s trace r s' ⟨rfl, answer, -⟩
  exact ⟨a, answer, holds⟩

theorem Gives.atomic {label : L} {f : ι → σ → α × σ}
    (holds : ∀ i found, P [⟨label, i, found⟩] (f i found).1) :
    (atomic label f : Proc σ ι L ε α).Gives P := by
  intro R s trace r s' runs
  obtain ⟨i, found, -, rfl, answer, -⟩ := runs_atomic.mp runs
  exact ⟨_, answer, holds i found⟩

theorem Gives.conseq (gives : p.Gives P) (weaker : ∀ trace a, P trace a → Q trace a) : p.Gives Q := by
  intro R s trace r s' runs
  obtain ⟨a, answer, holds⟩ := gives R s trace r s' runs
  exact ⟨a, answer, weaker trace a holds⟩

theorem Gives.bind {f : α → Proc σ ι L ε β} {Q : List (Taken σ ι L) → β → Prop} (first : p.Gives P)
    (rest : ∀ before a, P before a → (f a).Gives fun after b => Q (before ++ after) b) :
    (p.bind f).Gives Q := by
  intro R s trace r s' runs
  obtain ⟨a, middle, before, after, ran, later, rfl⟩ | ⟨e, ran, -⟩ := runs_bind.mp runs
  · obtain ⟨a', same, holds⟩ := first R s before (.ok a) middle ran
    obtain rfl := Except.ok.inj same
    exact rest before a holds R middle after r s' later
  · obtain ⟨a, impossible, -⟩ := first R s trace (.error e) s' ran
    cases impossible

theorem Gives.ite {c : Prop} [Decidable c] {q : Proc σ ι L ε α} (first : c → p.Gives P)
    (second : ¬ c → q.Gives P) : (if c then p else q).Gives P := by
  split_ifs with holds
  · exact first holds
  · exact second holds

end Rules

end Proc

/-! ## Calls of a program that follows a flow -/

namespace Threads

variable {θ σ ι L ε Φ α : Type}

/-- The sections of a trace act as a flow says, from one local state and shared state to another. -/
inductive Linked (F : Flow θ σ ι L Φ) (t : θ) (R : L → σ → σ → Prop) :
    Φ → σ → List (Taken σ ι L) → Φ → σ → Prop
  | nil (φ : Φ) (s : σ) : Linked F t R φ s [] φ s
  | cons {φ φ' : Φ} {s s' : σ} {taken : Taken σ ι L} {rest : List (Taken σ ι L)}
    (between : R taken.label s taken.found) (fits : F.fits t φ taken.label)
    (isReady : F.ready taken.label taken.found = true)
    (later : Linked F t R (F.step t φ taken.label taken.input taken.found)
      (F.act t taken.label taken.input taken.found) rest φ' s') :
    Linked F t R φ s (taken :: rest) φ' s'

variable {F : Flow θ σ ι L Φ} {t : θ} {R : L → σ → σ → Prop} {φ φ' : Φ} {s s' : σ}
  {trace : List (Taken σ ι L)}

/-- A run of a program that follows a flow is linked, and ends where the flow says. -/
theorem Flow.Path.linked {p : Proc σ ι L ε α} {Q : α → Φ → Prop} {E : ε → Φ → Prop} {r : Except ε α}
    (path : F.Path t p φ Q E) (runs : p.Runs R s trace r s') : ∃ φ', Linked F t R φ s trace φ' s' ∧
      (∀ a, r = .ok a → Q a φ') ∧ ∀ e, r = .error e → E e φ' := by
  induction p generalizing φ s trace with
  | ret a =>
    obtain ⟨rfl, rfl, rfl⟩ := runs
    exact ⟨φ, .nil φ s', fun a same => Except.ok.inj same ▸ path, nofun⟩
  | throw e =>
    obtain ⟨rfl, rfl, rfl⟩ := runs
    exact ⟨φ, .nil φ s', nofun, fun e same => Except.error.inj same ▸ path⟩
  | step label ready act next ih =>
    obtain ⟨i, found, rest, between, isReady, rfl, later⟩ := runs
    obtain ⟨sameReady, sameAct, onward⟩ := path.2 i found
    obtain ⟨φ', linked, returned, thrown⟩ := ih i found (onward isReady) later
    rw [sameAct] at linked
    exact ⟨φ', .cons between path.1 (sameReady ▸ isReady) linked, returned, thrown⟩

namespace Linked

/-- What the other threads and every section keep is kept by the call. -/
theorem keeps {β : Type} {view : σ → β} (linked : Linked F t R φ s trace φ' s')
    (others : ∀ label s found, R label s found → view found = view s)
    (own : ∀ taken ∈ trace, view (F.act t taken.label taken.input taken.found) = view taken.found) :
    view s' = view s := by
  induction linked with
  | nil => rfl
  | cons between _ _ _ ih =>
    rw [ih fun taken member => own taken (List.mem_cons_of_mem _ member), own _ List.mem_cons_self,
      others _ _ _ between]

/-- The last section finds what the other threads and the sections before it keep. -/
theorem last_found {β : Type} {view : σ → β} {last : Taken σ ι L}
    (linked : Linked F t R φ s (trace ++ [last]) φ' s')
    (others : ∀ label s found, R label s found → view found = view s)
    (own : ∀ taken ∈ trace, view (F.act t taken.label taken.input taken.found) = view taken.found) :
    view last.found = view s ∧ s' = F.act t last.label last.input last.found := by
  induction trace generalizing φ s with
  | nil =>
    cases linked with
    | cons between _ _ later =>
      cases later
      exact ⟨others _ _ _ between, rfl⟩
  | cons taken trace ih =>
    cases linked with
    | cons between _ _ later =>
      obtain ⟨same, left⟩ := ih later fun taken member => own taken (List.mem_cons_of_mem _ member)
      exact ⟨by rw [same, own taken List.mem_cons_self, others _ _ _ between], left⟩

end Linked

end Threads

/-! ## Calls in a machine -/

namespace Threads

variable {θ σ ι L ε Ω : Type} [DecidableEq θ]

namespace Machine

variable (M : Machine θ σ ι L ε Ω) (allowed : θ → L → ι → σ → Prop) (t : θ)

/-- The thread of a move. -/
def mover : Move θ ι Ω → θ
  | .start op => M.thread op
  | .advance u _ => u

/-- The other threads move from a configuration to another. -/
inductive Others : Config θ σ ι L ε → Config θ σ ι L ε → Prop
  | refl (c : Config θ σ ι L ε) : Others c c
  | next {c c₁ c₂ : Config θ σ ι L ε} {m : Move θ ι Ω} (others : Others c c₁)
    (moved : M.next c₁ m = some c₂) (permitted : Permits allowed c₁ m) (other : M.mover m ≠ t) :
    Others c c₂

/-- What comes after a program on its thread, or what catches its exceptions. -/
def Context {α : Type} (K : Proc σ ι L ε α → Proc σ ι L ε Unit) : Prop :=
  ∀ label ready act next, K (.step label ready act next) = .step label ready act fun i s => K (next i s)

/-- Thread `t` executes a program in a context, beginning in one configuration and ending in another,
while the other threads move between its sections. -/
def Executes {α : Type} (K : Proc σ ι L ε α → Proc σ ι L ε Unit) :
    Proc σ ι L ε α → Config θ σ ι L ε → List (Taken σ ι L) → Except ε α → Config θ σ ι L ε → Prop
  | .ret a, c, trace, r, c' => trace = [] ∧ r = .ok a ∧ c' = c
  | .throw e, c, trace, r, c' => trace = [] ∧ r = .error e ∧ c' = c
  | .step label ready act next, c, trace, r, c' => ∃ c₁ i rest, M.Others allowed t c c₁ ∧
      ready c₁.shared = true ∧ allowed t label i c₁.shared ∧ trace = ⟨label, i, c₁.shared⟩ :: rest ∧
      Executes K (next i c₁.shared) (c₁.set t (settle (K (next i c₁.shared))) (act i c₁.shared)) rest r c'

/-- What the moves of the other threads do in some run before thread `t` takes a section. -/
def Between (label : L) (s found : σ) : Prop :=
  ∃ c c₁ : Config θ σ ι L ε, M.Reach allowed c ∧ c.shared = s ∧ M.Others allowed t c c₁ ∧
    c₁.shared = found ∧ c₁.label t = some label

variable {M allowed t}

theorem Others.reach {c c₁ : Config θ σ ι L ε} (others : M.Others allowed t c c₁)
    (reach : M.Reach allowed c) : M.Reach allowed c₁ := by
  induction others with
  | refl => exact reach
  | next _ moved permitted _ ih => exact ih.next moved permitted

/-- The other threads leave the slot of thread `t` alone. -/
theorem Others.slot {c c₁ : Config θ σ ι L ε} (others : M.Others allowed t c c₁) :
    c₁.slots t = c.slots t := by
  induction others with
  | refl => rfl
  | @next c₁ c₂ m _ moved _ other ih =>
    rw [← ih]
    cases m with
    | start op =>
      simp only [Machine.next] at moved
      split at moved
      · obtain rfl := Option.some.inj moved
        exact if_neg (Ne.symm other)
      · cases moved
    | advance u i =>
      simp only [Machine.next] at moved
      split at moved
      · split_ifs at moved
        obtain rfl := Option.some.inj moved
        exact if_neg (Ne.symm other)
      · cases moved

/-- What holds across each move of another thread holds across all of them. -/
theorem Others.rel {P : σ → σ → Prop} {c c₁ : Config θ σ ι L ε} (others : M.Others allowed t c c₁)
    (reach : M.Reach allowed c) (refl : ∀ s, P s s)
    (step : ∀ {s : σ} {c c' : Config θ σ ι L ε} {m : Move θ ι Ω}, M.Reach allowed c → M.next c m = some c' →
      Permits allowed c m → M.mover m ≠ t → P s c.shared → P s c'.shared) : P c.shared c₁.shared := by
  induction others with
  | refl => exact refl _
  | next earlier moved permitted other ih => exact step (earlier.reach reach) moved permitted other ih

variable {α : Type} {K : Proc σ ι L ε α → Proc σ ι L ε Unit} {p : Proc σ ι L ε α}
  {c c' : Config θ σ ι L ε} {trace : List (Taken σ ι L)} {r : Except ε α}

/-- A thread that executes a program runs it, with the moves of the other threads between its sections. -/
theorem runs_of_executes (context : Context K) (reach : M.Reach allowed c)
    (slot : c.slots t = settle (K p)) (executes : M.Executes allowed t K p c trace r c') :
    p.Runs (M.Between allowed t) c.shared trace r c'.shared ∧ M.Reach allowed c' := by
  induction p generalizing c trace with
  | ret a =>
    obtain ⟨none, answer, rfl⟩ := executes
    exact ⟨⟨none, answer, rfl⟩, reach⟩
  | throw e =>
    obtain ⟨none, answer, rfl⟩ := executes
    exact ⟨⟨none, answer, rfl⟩, reach⟩
  | step label ready act next ih =>
    obtain ⟨c₁, i, rest, others, isReady, permitted, rfl, later⟩ := executes
    have here : c₁.slots t = some (.step label ready act fun i s => K (next i s)) := by
      rw [others.slot, slot, context]
      rfl
    have at_label : c₁.label t = some label := by simp only [Config.label, here]
    have reach₁ := others.reach reach
    have moved : M.next c₁ (.advance t i) =
        some (c₁.set t (settle (K (next i c₁.shared))) (act i c₁.shared)) := by
      simp only [Machine.next, here, isReady, if_true]
    have reach₂ := reach₁.next moved fun l found => by
      obtain rfl := Option.some.inj (at_label.symm.trans found)
      exact permitted
    obtain ⟨runs, reach'⟩ := ih i c₁.shared reach₂ (if_pos rfl) later
    exact ⟨⟨i, c₁.shared, rest, ⟨c, c₁, reach, rfl, others, rfl, at_label⟩, isReady, rfl, runs⟩, reach'⟩

/-- The moves of a schedule between two sections of a thread, none of them its own. -/
theorem others_of_run {check : θ → L → ι → σ → Bool}
    (sound : ∀ t label i s, check t label i s = true → allowed t label i s) {moves : List (Move θ ι Ω)}
    (theirs : ∀ m ∈ moves, M.mover m ≠ t) (others : M.Others allowed t c c') {c'' : Config θ σ ι L ε}
    (ran : M.run check moves c' = some c'') : M.Others allowed t c c'' := by
  induction moves generalizing c' with
  | nil =>
    obtain rfl := Option.some.inj ran
    exact others
  | cons m moves ih =>
    simp only [run] at ran
    split_ifs at ran with passed
    cases moved : M.next c' m with
    | none => simp [moved] at ran
    | some c₁ =>
      simp only [moved] at ran
      exact ih (fun m member => theirs m (List.mem_cons_of_mem _ member))
        (others.next moved (permits_of_passes sound passed) (theirs m List.mem_cons_self)) ran

variable (M) in
/-- Run a program as a thread, with given moves of the other threads before each of its sections. -/
def among (check : θ → L → ι → σ → Bool) (t : θ) (K : Proc σ ι L ε α → Proc σ ι L ε Unit) :
    Proc σ ι L ε α → Config θ σ ι L ε → List (List (Move θ ι Ω) × ι) →
      Option (List (Taken σ ι L) × Except ε α × Config θ σ ι L ε)
  | .ret a, c, [] => some ([], .ok a, c)
  | .throw e, c, [] => some ([], .error e, c)
  | .step label ready act next, c, (moves, i) :: rest =>
    match M.run check moves c with
    | none => none
    | some c₁ =>
      if moves.all (fun m => M.mover m ≠ t) && ready c₁.shared && check t label i c₁.shared then
        (among check t K (next i c₁.shared)
          (c₁.set t (settle (K (next i c₁.shared))) (act i c₁.shared)) rest).map
          fun (trace, r, c') => (⟨label, i, c₁.shared⟩ :: trace, r, c')
      else none
  | _, _, _ => none

/-- What a program does among given moves is an execution. -/
theorem executes_of_among {check : θ → L → ι → σ → Bool}
    (sound : ∀ t label i s, check t label i s = true → allowed t label i s)
    {schedule : List (List (Move θ ι Ω) × ι)}
    (executed : M.among check t K p c schedule = some (trace, r, c')) : M.Executes allowed t K p c trace r c' := by
  induction p generalizing c trace schedule with
  | ret a =>
    cases schedule with
    | nil => simp_all [among, Executes]
    | cons => simp [among] at executed
  | throw e =>
    cases schedule with
    | nil => simp_all [among, Executes]
    | cons => simp [among] at executed
  | step label ready act next ih =>
    cases schedule with
    | nil => simp [among] at executed
    | cons head rest =>
      obtain ⟨moves, i⟩ := head
      simp only [among] at executed
      split at executed
      · cases executed
      · rename_i c₁ ran
        split_ifs at executed with permitted
        simp only [Bool.and_eq_true, List.all_eq_true, decide_eq_true_eq] at permitted
        obtain ⟨⟨trace', r', c''⟩, later, same⟩ := Option.map_eq_some_iff.mp executed
        simp only [Prod.mk.injEq] at same
        obtain ⟨rfl, rfl, rfl⟩ := same
        exact ⟨c₁, i, trace', others_of_run sound permitted.1.1 (.refl c) ran, permitted.1.2,
          sound _ _ _ _ permitted.2, rfl, ih i c₁.shared later⟩

end Machine

end Threads
