import MotorDrive.Library.Threads

/-!
# Where the threads are

A `Flow` describes the sections of a machine by their labels: when a section is ready, what it does to
the shared state, and what it does to a local state of its thread, which records where the thread is in
its operation and what it has seen.  `fits` says at which local states a section may be taken.

`Follows F t p A Q E` says that the program `p` of thread `t` follows the flow from every local state
with `A`, and ends with `Q` or throws with `E`.  It has one rule for each way to build a program.  When
every operation follows the flow, an invariant of the shared state and all local states needs one
proof for each label (`Invariant`), and `Invariant.reach` concludes for every run.
-/

namespace Threads

variable {θ σ ι L ε Ω Φ α β : Type}

/-- The sections of a machine by their labels, and the local states of its threads. -/
structure Flow (θ σ ι L Φ : Type) where
  ready : L → σ → Bool
  act : θ → L → ι → σ → σ
  fits : θ → Φ → L → Prop
  step : θ → Φ → L → ι → σ → Φ
  rest : Φ → Prop

namespace Flow

variable (F : Flow θ σ ι L Φ) (t : θ)

/-- The program follows the flow from a local state. -/
def Path : Proc σ ι L ε α → Φ → (α → Φ → Prop) → (ε → Φ → Prop) → Prop
  | .ret a, φ, Q, _ => Q a φ
  | .throw e, φ, _, E => E e φ
  | .step label ready act next, φ, Q, E => F.fits t φ label ∧
      ∀ i s, ready s = F.ready label s ∧ act i s = F.act t label i s ∧
        (ready s = true → Path (next i s) (F.step t φ label i s) Q E)

/-- The program follows the flow from the local states with `A`. -/
def Follows (p : Proc σ ι L ε α) (A : Φ → Prop) (Q : α → Φ → Prop) (E : ε → Φ → Prop) : Prop :=
  ∀ φ, A φ → F.Path t p φ Q E

variable {F t} {p : Proc σ ι L ε α} {A A' : Φ → Prop} {Q Q' : α → Φ → Prop} {E E' : ε → Φ → Prop}

theorem Path.mono {φ : Φ} (path : F.Path t p φ Q E) (post : ∀ a φ, Q a φ → Q' a φ)
    (thrown : ∀ e φ, E e φ → E' e φ) : F.Path t p φ Q' E' := by
  induction p generalizing φ with
  | ret a => exact post a φ path
  | throw e => exact thrown e φ path
  | step label ready act next ih =>
    refine ⟨path.1, fun i s => ?_⟩
    obtain ⟨sameReady, sameAct, rest⟩ := path.2 i s
    exact ⟨sameReady, sameAct, fun isReady => ih i s (rest isReady)⟩

/-- The rule of consequence. -/
theorem Follows.conseq (follows : F.Follows t p A Q E) (pre : ∀ φ, A' φ → A φ)
    (post : ∀ a φ, Q a φ → Q' a φ) (thrown : ∀ e φ, E e φ → E' e φ) : F.Follows t p A' Q' E' :=
  fun φ holds => (follows φ (pre φ holds)).mono post thrown

theorem Follows.ret {a : α} (post : ∀ φ, A φ → Q a φ) :
    F.Follows t (.ret a : Proc σ ι L ε α) A Q E :=
  post

theorem Follows.throw {e : ε} (post : ∀ φ, A φ → E e φ) :
    F.Follows t (.throw e : Proc σ ι L ε α) A Q E :=
  post

theorem Follows.bind {f : α → Proc σ ι L ε β} {R : β → Φ → Prop} (first : F.Follows t p A Q E)
    (rest : ∀ a, F.Follows t (f a) (Q a) R E) : F.Follows t (p.bind f) A R E := by
  intro φ holds
  have path := first φ holds
  clear first holds
  induction p generalizing φ with
  | ret a => exact rest a φ path
  | throw e => exact path
  | step label ready act next ih =>
    refine ⟨path.1, fun i s => ?_⟩
    obtain ⟨sameReady, sameAct, later⟩ := path.2 i s
    exact ⟨sameReady, sameAct, fun isReady => ih i s _ (later isReady)⟩

theorem Follows.tryCatch {handler : ε → Proc σ ι L ε α} {B : ε → Φ → Prop}
    (body : F.Follows t p A Q E) (handled : ∀ e, F.Follows t (handler e) (E e) Q B) :
    F.Follows t (p.tryCatch handler) A Q B := by
  intro φ holds
  have path := body φ holds
  clear body holds
  induction p generalizing φ with
  | ret a => exact path
  | throw e => exact handled e φ path
  | step label ready act next ih =>
    refine ⟨path.1, fun i s => ?_⟩
    obtain ⟨sameReady, sameAct, later⟩ := path.2 i s
    exact ⟨sameReady, sameAct, fun isReady => ih i s _ (later isReady)⟩

/-- One section, with what its answer says of the local state it leaves. -/
theorem Follows.await {label : L} {ready : σ → Bool} {f : ι → σ → Except ε α × σ}
    (sameReady : ∀ s, ready s = F.ready label s) (sameAct : ∀ i s, (f i s).2 = F.act t label i s)
    (fits : ∀ φ, A φ → F.fits t φ label)
    (post : ∀ i s φ a, A φ → (f i s).1 = .ok a → Q a (F.step t φ label i s))
    (thrown : ∀ i s φ e, A φ → (f i s).1 = .error e → E e (F.step t φ label i s)) :
    F.Follows t (.await label ready f) A Q E := by
  intro φ holds
  refine ⟨fits φ holds, fun i s => ⟨sameReady s, sameAct i s, fun _ => ?_⟩⟩
  cases answer : (f i s).1 with
  | ok a => simpa only [answer, Proc.ofExcept, Path] using post i s φ a holds answer
  | error e => simpa only [answer, Proc.ofExcept, Path] using thrown i s φ e holds answer

theorem Follows.atomic {label : L} {f : ι → σ → α × σ} (sameReady : ∀ s, F.ready label s = true)
    (sameAct : ∀ i s, (f i s).2 = F.act t label i s) (fits : ∀ φ, A φ → F.fits t φ label)
    (post : ∀ i s φ, A φ → Q (f i s).1 (F.step t φ label i s)) :
    F.Follows t (.atomic label f) A Q E :=
  fun φ holds => ⟨fits φ holds, fun i s => ⟨(sameReady s).symm, sameAct i s, fun _ => post i s φ holds⟩⟩

theorem Follows.when {condition : Bool} {p : Proc σ ι L ε Unit} {Q : Unit → Φ → Prop}
    (sound : condition = true → F.Follows t p A Q E)
    (skipped : condition = false → ∀ φ, A φ → Q () φ) : F.Follows t (.when condition p) A Q E := by
  unfold Proc.when
  split_ifs with holds
  · exact sound holds
  · exact skipped (by simpa using holds)

theorem Follows.ite {c : Prop} [Decidable c] {q : Proc σ ι L ε α} (first : c → F.Follows t p A Q E)
    (second : ¬ c → F.Follows t q A Q E) : F.Follows t (if c then p else q) A Q E := by
  split_ifs with holds
  · exact first holds
  · exact second holds

end Flow

/-! ## Invariants -/

variable [DecidableEq θ]

/-- An invariant of the shared state and of the local states of all threads: every section that fits
keeps it where it is allowed. -/
structure Invariant (F : Flow θ σ ι L Φ) (allowed : θ → L → ι → σ → Prop) (start : σ) (idle : Φ)
    (I : σ → (θ → Φ) → Prop) : Prop where
  start : I start fun _ => idle
  keeps : ∀ t label i s φ, I s φ → F.ready label s = true → F.fits t (φ t) label →
    allowed t label i s → I (F.act t label i s) (Function.update φ t (F.step t (φ t) label i s))

variable {F : Flow θ σ ι L Φ} {allowed : θ → L → ι → σ → Prop} {M : Machine θ σ ι L ε Ω} {idle : Φ}

/-- An invariant that holds in every run holds in the runs with allowed sections. -/
theorem Invariant.mono {allowed' : θ → L → ι → σ → Prop} {start : σ} {I : σ → (θ → Φ) → Prop}
    (invariant : Invariant F allowed start idle I)
    (stronger : ∀ t label i s, allowed' t label i s → allowed t label i s) :
    Invariant F allowed' start idle I where
  start := invariant.start
  keeps t label i s φ holds isReady fits permitted :=
    invariant.keeps t label i s φ holds isReady fits (stronger t label i s permitted)

/-- An invariant whose proof uses another one. -/
theorem Invariant.and {start : σ} {K I : σ → (θ → Φ) → Prop} (known : Invariant F allowed start idle K)
    (holds : I start fun _ => idle)
    (keeps : ∀ t label i s φ, K s φ → I s φ → F.ready label s = true → F.fits t (φ t) label →
      allowed t label i s → I (F.act t label i s) (Function.update φ t (F.step t (φ t) label i s))) :
    Invariant F allowed start idle fun s φ => K s φ ∧ I s φ where
  start := ⟨known.start, holds⟩
  keeps t label i s φ both isReady fits permitted :=
    ⟨known.keeps t label i s φ both.1 isReady fits permitted,
      keeps t label i s φ both.1 both.2 isReady fits permitted⟩

/-- Two invariants together. -/
theorem Invariant.both {start : σ} {I J : σ → (θ → Φ) → Prop} (first : Invariant F allowed start idle I)
    (second : Invariant F allowed start idle J) :
    Invariant F allowed start idle fun s φ => I s φ ∧ J s φ where
  start := ⟨first.start, second.start⟩
  keeps t label i s φ holds isReady fits permitted :=
    ⟨first.keeps t label i s φ holds.1 isReady fits permitted,
      second.keeps t label i s φ holds.2 isReady fits permitted⟩

/-- What holds of the local state of a thread: it rests, or what the thread has left to do follows the
flow. -/
def Flow.Fits (F : Flow θ σ ι L Φ) (t : θ) (φ : Φ) : Option (Proc σ ι L ε Unit) → Prop
  | none => F.rest φ
  | some p => F.Path t p φ (fun _ => F.rest) fun _ => F.rest

omit [DecidableEq θ] in
theorem Flow.fits_settle {t : θ} {φ : Φ} {p : Proc σ ι L ε Unit}
    (path : F.Path t p φ (fun _ => F.rest) fun _ => F.rest) : F.Fits t φ (settle p) := by
  cases p with
  | ret a => exact path
  | throw e => exact path
  | step label ready act next => exact path

/-- When every operation follows the flow, an invariant holds in every configuration that a run
reaches, with local states at rest on the idle threads. -/
theorem Invariant.reach {I : σ → (θ → Φ) → Prop} (invariant : Invariant F allowed M.start idle I)
    (rests : F.rest idle)
    (follows : ∀ op, F.Follows (M.thread op) (M.body op) F.rest (fun _ => F.rest) fun _ => F.rest)
    {c : Config θ σ ι L ε} (reach : M.Reach allowed c) :
    ∃ φ, I c.shared φ ∧ ∀ t, F.Fits t (φ t) (c.slots t) := by
  induction reach with
  | initial => exact ⟨fun _ => idle, invariant.start, fun _ => rests⟩
  | @next c c' m _ moved permitted ih =>
    obtain ⟨φ, holds, fits⟩ := ih
    cases m with
    | start op =>
      cases slot : c.slots (M.thread op) with
      | some p => simp [Machine.next, slot] at moved
      | none =>
        simp only [Machine.next, slot, Option.some.injEq] at moved
        subst moved
        refine ⟨φ, holds, fun t => ?_⟩
        by_cases same : t = M.thread op
        · subst same
          have resting := fits (M.thread op)
          rw [slot] at resting
          simp only [Config.set, if_true]
          exact Flow.fits_settle (follows op _ resting)
        · simp only [Config.set, if_neg same]
          exact fits t
    | advance t i =>
      cases slot : c.slots t with
      | none => simp [Machine.next, slot] at moved
      | some p =>
        cases p with
        | ret a => simp [Machine.next, slot] at moved
        | throw e => simp [Machine.next, slot] at moved
        | step label ready act next =>
          simp only [Machine.next, slot] at moved
          split_ifs at moved with isReady
          simp only [Option.some.injEq] at moved
          subst moved
          have path := fits t
          rw [slot] at path
          obtain ⟨sameReady, sameAct, later⟩ := path.2 i c.shared
          refine ⟨Function.update φ t (F.step t (φ t) label i c.shared), ?_, fun u => ?_⟩
          · simp only [Config.set]
            rw [sameAct]
            exact invariant.keeps t label i c.shared φ holds (sameReady ▸ isReady) path.1
              (permitted label (by simp [Config.label, slot]))
          · by_cases same : u = t
            · subst same
              simp only [Config.set, if_true, Function.update_self]
              exact Flow.fits_settle (later isReady)
            · simp only [Config.set, if_neg same, Function.update_of_ne same]
              exact fits u

/-- A thread of a run that moves takes the section it is at, which fits and is allowed. -/
theorem Invariant.section_of_advance {I : σ → (θ → Φ) → Prop}
    (invariant : Invariant F allowed M.start idle I) (rests : F.rest idle)
    (follows : ∀ op, F.Follows (M.thread op) (M.body op) F.rest (fun _ => F.rest) fun _ => F.rest)
    {c c' : Config θ σ ι L ε} {t : θ} {i : ι} {label : L} (reach : M.Reach allowed c)
    (moved : M.next c (.advance t i) = some c') (permitted : Machine.Permits allowed c (.advance t i : Move θ ι Ω))
    (here : c.label t = some label) :
    ∃ φ, I c.shared φ ∧ F.ready label c.shared ∧ F.fits t (φ t) label ∧ allowed t label i c.shared ∧
      c'.shared = F.act t label i c.shared := by
  obtain ⟨φ, holds, fits⟩ := invariant.reach rests follows reach
  have path := fits t
  simp only [Config.label] at here
  split at here
  · rename_i label' ready act next slot
    obtain rfl := Option.some.inj here
    simp only [Machine.next, slot] at moved
    split_ifs at moved with isReady
    obtain rfl := Option.some.inj moved
    rw [slot] at path
    obtain ⟨sameReady, sameAct, -⟩ := path.2 i c.shared
    exact ⟨φ, holds, sameReady ▸ isReady, path.1, permitted _ (by simp [Config.label, slot]), sameAct⟩
  · cases here

/-- A move of a run starts an operation or takes one section that fits and is allowed. -/
theorem Invariant.section_of_next {I : σ → (θ → Φ) → Prop} (invariant : Invariant F allowed M.start idle I)
    (rests : F.rest idle)
    (follows : ∀ op, F.Follows (M.thread op) (M.body op) F.rest (fun _ => F.rest) fun _ => F.rest)
    {c c' : Config θ σ ι L ε} {m : Move θ ι Ω} (reach : M.Reach allowed c)
    (moved : M.next c m = some c') (permitted : Machine.Permits allowed c m) :
    c'.shared = c.shared ∨ ∃ t label i φ, c.label t = some label ∧ m = .advance t i ∧ I c.shared φ ∧
      F.ready label c.shared ∧ F.fits t (φ t) label ∧ allowed t label i c.shared ∧
      c'.shared = F.act t label i c.shared := by
  cases m with
  | start op =>
    cases slot : c.slots (M.thread op) with
    | some p => simp [Machine.next, slot] at moved
    | none =>
      simp only [Machine.next, slot, Option.some.injEq] at moved
      subst moved
      exact .inl rfl
  | advance t i =>
    cases here : c.label t with
    | some label =>
      obtain ⟨φ, found⟩ := invariant.section_of_advance rests follows reach moved permitted here
      exact .inr ⟨t, label, i, φ, here, rfl, found⟩
    | none =>
      simp only [Config.label] at here
      split at here
      · cases here
      · simp only [Machine.next] at moved
        cases moved

end Threads
