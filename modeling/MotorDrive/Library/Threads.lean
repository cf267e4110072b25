import MotorDrive.Library.Program

/-!
# Threads that share a state

A `Machine` is a set of operations, each a program that runs on one thread.  A configuration holds
the shared state and what every thread has left to do; `next` starts an operation on an idle thread
or advances one thread by one section.  `Reach allowed c` says that a run leads to `c` in which every
section was `allowed` where it was taken.

`Discipline` collects what a proof about all interleavings needs: an invariant, what each thread
relies on the others for, and what holds of the state while a thread is idle.  `Triple D t p A Q E`
says that `p`, run by thread `t` from a state with `A`, keeps the invariant and the reliance of the
other threads at every section, and ends with `Q` or throws with `E`.  `inv_of_reach` concludes for
every configuration that a run reaches.
-/

namespace Threads

variable {θ σ ι L ε Ω : Type}

/-- The operations of a system, the thread that runs each and the initial state. -/
structure Machine (θ σ ι L ε Ω : Type) where
  thread : Ω → θ
  body : Ω → Proc σ ι L ε Unit
  start : σ

/-- The shared state, and what each thread has left to do. -/
structure Config (θ σ ι L ε : Type) where
  shared : σ
  slots : θ → Option (Proc σ ι L ε Unit)

/-- A choice of the scheduler. -/
inductive Move (θ ι Ω : Type)
  | start (op : Ω)
  | advance (t : θ) (i : ι)

/-- A program that has ended leaves its thread idle. -/
def settle : Proc σ ι L ε Unit → Option (Proc σ ι L ε Unit)
  | .ret _ => none
  | .throw _ => none
  | .step label ready act next => some (.step label ready act next)

/-- The label of the section a thread is at. -/
def Config.label (c : Config θ σ ι L ε) (t : θ) : Option L :=
  match c.slots t with
  | some (.step label _ _ _) => some label
  | _ => none

section Semantics

variable [DecidableEq θ]

/-- Give thread `t` a program. -/
def Config.set (c : Config θ σ ι L ε) (t : θ) (p : Option (Proc σ ι L ε Unit)) (s : σ) :
    Config θ σ ι L ε :=
  ⟨s, fun u => if u = t then p else c.slots u⟩

namespace Machine

variable (M : Machine θ σ ι L ε Ω)

def initial : Config θ σ ι L ε := ⟨M.start, fun _ => none⟩

/-- One move of the scheduler, if it is possible. -/
def next (c : Config θ σ ι L ε) : Move θ ι Ω → Option (Config θ σ ι L ε)
  | .start op =>
    match c.slots (M.thread op) with
    | none => some (c.set (M.thread op) (settle (M.body op)) c.shared)
    | some _ => none
  | .advance t i =>
    match c.slots t with
    | some (.step _ ready act next) =>
      if ready c.shared then some (c.set t (settle (next i c.shared)) (act i c.shared)) else none
    | _ => none

/-- The move takes a section only where it is allowed. -/
def Permits (allowed : θ → L → ι → σ → Prop) (c : Config θ σ ι L ε) : Move θ ι Ω → Prop
  | .start _ => True
  | .advance t i => ∀ label, c.label t = some label → allowed t label i c.shared

/-- The configurations that the runs with allowed sections lead to. -/
inductive Reach (allowed : θ → L → ι → σ → Prop) : Config θ σ ι L ε → Prop
  | initial : Reach allowed M.initial
  | next {c c' : Config θ σ ι L ε} {m : Move θ ι Ω} (reach : Reach allowed c)
    (moved : M.next c m = some c') (permitted : Permits allowed c m) : Reach allowed c'

/-- The move passes a check of the section it takes. -/
def passes (check : θ → L → ι → σ → Bool) (c : Config θ σ ι L ε) : Move θ ι Ω → Bool
  | .start _ => true
  | .advance t i => (c.label t).all fun label => check t label i c.shared

/-- Run a schedule whose moves pass a check. -/
def run (check : θ → L → ι → σ → Bool) :
    List (Move θ ι Ω) → Config θ σ ι L ε → Option (Config θ σ ι L ε)
  | [], c => some c
  | m :: moves, c =>
    if passes check c m then
      match M.next c m with
      | some c' => run check moves c'
      | none => none
    else none

variable {M} {allowed : θ → L → ι → σ → Prop}

theorem Reach.mono {allowed' : θ → L → ι → σ → Prop}
    (weaker : ∀ t label i s, allowed t label i s → allowed' t label i s) {c : Config θ σ ι L ε}
    (reach : M.Reach allowed c) : M.Reach allowed' c := by
  induction reach with
  | initial => exact .initial
  | @next c c' m _ moved permitted ih =>
    refine .next ih moved ?_
    cases m with
    | start op => trivial
    | advance t i => exact fun label found => weaker _ _ _ _ (permitted label found)

omit [DecidableEq θ] in
theorem permits_of_passes {check : θ → L → ι → σ → Bool}
    (sound : ∀ t label i s, check t label i s = true → allowed t label i s)
    {c : Config θ σ ι L ε} {m : Move θ ι Ω} (passed : passes check c m = true) :
    Permits allowed c m := by
  cases m with
  | start op => trivial
  | advance t i =>
    intro label found
    simp only [passes, found, Option.all_some] at passed
    exact sound t label i c.shared passed

/-- A schedule that runs is a run. -/
theorem reach_of_run {check : θ → L → ι → σ → Bool}
    (sound : ∀ t label i s, check t label i s = true → allowed t label i s)
    {moves : List (Move θ ι Ω)} {c c' : Config θ σ ι L ε} (reach : M.Reach allowed c)
    (ran : M.run check moves c = some c') : M.Reach allowed c' := by
  induction moves generalizing c with
  | nil =>
    obtain rfl := Option.some.inj ran
    exact reach
  | cons m moves ih =>
    simp only [run] at ran
    split_ifs at ran with passed
    cases moved : M.next c m with
    | none => simp [moved] at ran
    | some c'' =>
      simp only [moved] at ran
      exact ih (reach.next moved (permits_of_passes sound passed)) ran

/-- A schedule whose run shows some view of its last configuration leads to a configuration with that
view. -/
theorem exists_config_of_run {β : Type} {b : β} (check : θ → L → ι → σ → Bool)
    (view : Config θ σ ι L ε → β) (moves : List (Move θ ι Ω))
    (sound : ∀ t label i s, check t label i s = true → allowed t label i s)
    (ran : (M.run check moves M.initial).map view = some b) : ∃ c, M.Reach allowed c ∧ view c = b := by
  obtain ⟨c, ran, seen⟩ := Option.map_eq_some_iff.mp ran
  exact ⟨c, reach_of_run sound .initial ran, seen⟩

/-- A schedule whose run shows some view of the state leads to a configuration with that view. -/
theorem exists_reach_of_run {β : Type} {b : β} (check : θ → L → ι → σ → Bool) (view : σ → β)
    (moves : List (Move θ ι Ω))
    (sound : ∀ t label i s, check t label i s = true → allowed t label i s)
    (ran : (M.run check moves M.initial).map (fun c => view c.shared) = some b) :
    ∃ c, M.Reach allowed c ∧ view c.shared = b :=
  exists_config_of_run check (fun c => view c.shared) moves sound ran

end Machine

end Semantics

/-! ## Rely and guarantee -/

/-- What a proof about all interleavings fixes. -/
structure Discipline (θ σ ι L : Type) where
  inv : σ → Prop
  rely : θ → σ → σ → Prop
  allowed : θ → L → ι → σ → Prop
  rest : θ → σ → Prop

namespace Discipline

variable (D : Discipline θ σ ι L) (t : θ)

/-- The other threads keep the assertion. -/
def Stable (A : σ → Prop) : Prop := ∀ s s', D.inv s → D.rely t s s' → A s → A s'

/-- Every other thread may rely on the step. -/
def Guarantees (s s' : σ) : Prop := ∀ u, u ≠ t → D.rely u s s'

variable {α β : Type}

/-- The program is sound from `A`: it ends with `Q` or throws with `E`. -/
def Triple : Proc σ ι L ε α → (σ → Prop) → (α → σ → Prop) → (ε → σ → Prop) → Prop
  | .ret a, A, Q, _ => ∀ s, D.inv s → A s → Q a s
  | .throw e, A, _, E => ∀ s, D.inv s → A s → E e s
  | .step label ready act next, A, Q, E => ∀ i s, D.inv s → A s → ready s = true →
      D.allowed t label i s → D.inv (act i s) ∧ D.Guarantees t s (act i s) ∧
        ∃ A', D.Stable t A' ∧ A' (act i s) ∧ Triple (next i s) A' Q E

variable {D t} {p : Proc σ ι L ε α} {A A' : σ → Prop} {Q Q' : α → σ → Prop} {E E' : ε → σ → Prop}

/-- The rule of consequence. -/
theorem Triple.conseq (triple : D.Triple t p A Q E) (pre : ∀ s, D.inv s → A' s → A s)
    (post : ∀ a s, D.inv s → Q a s → Q' a s) (thrown : ∀ e s, D.inv s → E e s → E' e s) :
    D.Triple t p A' Q' E' := by
  induction p generalizing A A' with
  | ret a => exact fun s inv holds => post a s inv (triple s inv (pre s inv holds))
  | throw e => exact fun s inv holds => thrown e s inv (triple s inv (pre s inv holds))
  | step label ready act next ih =>
    intro i s inv holds isReady allowed
    obtain ⟨inv', guarantees, A'', stable, holds', rest⟩ :=
      triple i s inv (pre s inv holds) isReady allowed
    exact ⟨inv', guarantees, A'', stable, holds', ih i s rest fun _ _ holds => holds⟩

theorem Triple.pre (triple : D.Triple t p A Q E) (weaker : ∀ s, D.inv s → A' s → A s) :
    D.Triple t p A' Q E :=
  triple.conseq weaker (fun _ _ _ holds => holds) fun _ _ _ holds => holds

theorem Triple.bind {f : α → Proc σ ι L ε β} {R : β → σ → Prop} (first : D.Triple t p A Q E)
    (rest : ∀ a, D.Triple t (f a) (Q a) R E) : D.Triple t (p.bind f) A R E := by
  induction p generalizing A with
  | ret a => exact (rest a).pre fun s inv holds => first s inv holds
  | throw e => exact first
  | step label ready act next ih =>
    intro i s inv holds isReady allowed
    obtain ⟨inv', guarantees, A', stable, holds', later⟩ := first i s inv holds isReady allowed
    exact ⟨inv', guarantees, A', stable, holds', ih i s later⟩

theorem Triple.tryCatch {handler : ε → Proc σ ι L ε α} (body : D.Triple t p A Q E)
    (handled : ∀ e, D.Triple t (handler e) (E e) Q E') :
    D.Triple t (p.tryCatch handler) A Q E' := by
  induction p generalizing A with
  | ret a => exact body
  | throw e => exact (handled e).pre fun s inv holds => body s inv holds
  | step label ready act next ih =>
    intro i s inv holds isReady allowed
    obtain ⟨inv', guarantees, A', stable, holds', later⟩ := body i s inv holds isReady allowed
    exact ⟨inv', guarantees, A', stable, holds', ih i s later⟩

theorem Triple.ret {a : α} (post : ∀ s, D.inv s → A s → Q a s) :
    D.Triple t (.ret a : Proc σ ι L ε α) A Q E :=
  post

theorem Triple.throw {e : ε} (post : ∀ s, D.inv s → A s → E e s) :
    D.Triple t (.throw e : Proc σ ι L ε α) A Q E :=
  post

/-- One section with a stable postcondition. -/
theorem Triple.await {label : L} {ready : σ → Bool} {f : ι → σ → Except ε α × σ}
    (stable : ∀ a, D.Stable t (Q a)) (stableThrown : ∀ e, D.Stable t (E e))
    (sound : ∀ i s, D.inv s → A s → ready s = true → D.allowed t label i s →
      D.inv (f i s).2 ∧ D.Guarantees t s (f i s).2 ∧
        match (f i s).1 with
        | .ok a => Q a (f i s).2
        | .error e => E e (f i s).2) :
    D.Triple t (.await label ready f) A Q E := by
  intro i s inv holds isReady allowed
  obtain ⟨inv', guarantees, post⟩ := sound i s inv holds isReady allowed
  refine ⟨inv', guarantees, ?_⟩
  cases answer : (f i s).1 with
  | ok a =>
    rw [answer] at post
    refine ⟨Q a, stable a, post, ?_⟩
    simp only [answer]
    exact fun _ _ holds => holds
  | error e =>
    rw [answer] at post
    refine ⟨E e, stableThrown e, post, ?_⟩
    simp only [answer]
    exact fun _ _ holds => holds

theorem Triple.atomic {label : L} {f : ι → σ → α × σ} (stable : ∀ a, D.Stable t (Q a))
    (sound : ∀ i s, D.inv s → A s → D.allowed t label i s →
      D.inv (f i s).2 ∧ D.Guarantees t s (f i s).2 ∧ Q (f i s).1 (f i s).2) :
    D.Triple t (.atomic label f) A Q E := by
  intro i s inv holds _ allowed
  obtain ⟨inv', guarantees, post⟩ := sound i s inv holds allowed
  exact ⟨inv', guarantees, Q (f i s).1, stable _, post, fun s inv holds => holds⟩

theorem Triple.when {condition : Bool} {p : Proc σ ι L ε Unit} {Q : Unit → σ → Prop}
    (sound : condition = true → D.Triple t p A Q E)
    (skipped : condition = false → ∀ s, D.inv s → A s → Q () s) :
    D.Triple t (.when condition p) A Q E := by
  unfold Proc.when
  split_ifs with holds
  · exact sound holds
  · exact skipped (by simpa using holds)

theorem Triple.ite {c : Prop} [Decidable c] {q : Proc σ ι L ε α} (first : c → D.Triple t p A Q E)
    (second : ¬ c → D.Triple t q A Q E) : D.Triple t (if c then p else q) A Q E := by
  split_ifs with holds
  · exact first holds
  · exact second holds

/-- A loop keeps what its body keeps. -/
theorem Triple.loop {body : Proc σ ι L ε Bool} (sound : D.Triple t body A (fun _ => A) E) (n : ℕ) :
    D.Triple t (.loop body n) A (fun _ => A) E := by
  induction n with
  | zero => exact fun _ _ holds => holds
  | succ n ih =>
    refine sound.bind fun more => ?_
    cases more
    · exact fun _ _ holds => holds
    · exact ih

/-- A section that keeps the invariant, the reliance of the others and the assertion. -/
def Keeps (D : Discipline θ σ ι L) (t : θ) (A : σ → Prop) (label : L) (ready : σ → Bool)
    (act : ι → σ → σ) : Prop :=
  ∀ i s, D.inv s → A s → ready s = true → D.allowed t label i s →
    D.inv (act i s) ∧ D.Guarantees t s (act i s) ∧ A (act i s)

/-- A program all of whose sections keep a stable assertion keeps it. -/
theorem Triple.of_every (stable : D.Stable t A) (every : p.Every (D.Keeps t A)) :
    D.Triple t p A (fun _ => A) fun _ => A := by
  induction p with
  | ret a => exact fun _ _ holds => holds
  | throw e => exact fun _ _ holds => holds
  | step label ready act next ih =>
    intro i s inv holds isReady allowed
    obtain ⟨inv', guarantees, holds'⟩ := every.1 i s inv holds isReady allowed
    exact ⟨inv', guarantees, A, stable, holds', ih i s (every.2 i s)⟩

/-- The frame rule: what the others and every section of the program keep stays true beside what the
program does. -/
theorem Triple.frame {F : σ → Prop} (triple : D.Triple t p A Q E) (stable : D.Stable t F)
    (every : p.Every fun _ _ act => ∀ i s, F s → F (act i s)) :
    D.Triple t p (fun s => A s ∧ F s) (fun a s => Q a s ∧ F s) fun e s => E e s ∧ F s := by
  induction p generalizing A with
  | ret a => exact fun s inv holds => ⟨triple s inv holds.1, holds.2⟩
  | throw e => exact fun s inv holds => ⟨triple s inv holds.1, holds.2⟩
  | step label ready act next ih =>
    intro i s inv holds isReady allowed
    obtain ⟨inv', guarantees, A', stable', holds', rest⟩ := triple i s inv holds.1 isReady allowed
    refine ⟨inv', guarantees, fun s => A' s ∧ F s, ?_, ⟨holds', every.1 i s holds.2⟩, ?_⟩
    · exact fun s s' inv rely both => ⟨stable' s s' inv rely both.1, stable s s' inv rely both.2⟩
    · exact ih i s rest (every.2 i s)

/-! ## Runs -/

/-- What holds of a thread: it rests, or what it has left to do is sound. -/
def Fits (D : Discipline θ σ ι L) (t : θ) (s : σ) : Option (Proc σ ι L ε Unit) → Prop
  | none => D.rest t s
  | some p => ∃ A, D.Stable t A ∧ A s ∧ D.Triple t p A (fun _ => D.rest t) fun _ => D.rest t

theorem fits_settle {t : θ} {s : σ} {p : Proc σ ι L ε Unit} {A : σ → Prop} (inv : D.inv s)
    (stable : D.Stable t A) (holds : A s)
    (triple : D.Triple t p A (fun _ => D.rest t) fun _ => D.rest t) : D.Fits t s (settle p) := by
  cases p with
  | ret a => exact triple s inv holds
  | throw e => exact triple s inv holds
  | step label ready act next => exact ⟨A, stable, holds, triple⟩

theorem Fits.stable {s s' : σ} {slot : Option (Proc σ ι L ε Unit)} (fits : D.Fits t s slot)
    (resting : D.Stable t (D.rest t)) (inv : D.inv s) (rely : D.rely t s s') : D.Fits t s' slot := by
  cases slot with
  | none => exact resting s s' inv rely fits
  | some p =>
    obtain ⟨A, stable, holds, triple⟩ := fits
    exact ⟨A, stable, stable s s' inv rely holds, triple⟩

/-- The operations of the machine follow the discipline. -/
structure Governs [DecidableEq θ] (D : Discipline θ σ ι L) (M : Machine θ σ ι L ε Ω) : Prop where
  start : D.inv M.start
  rests : ∀ t, D.rest t M.start
  resting : ∀ t, D.Stable t (D.rest t)
  body : ∀ op, D.Triple (M.thread op) (M.body op) (D.rest (M.thread op))
    (fun _ => D.rest (M.thread op)) fun _ => D.rest (M.thread op)

variable [DecidableEq θ] {M : Machine θ σ ι L ε Ω}

/-- The invariant holds in every configuration a run reaches, and every thread fits. -/
theorem Governs.reach (governs : D.Governs M) {c : Config θ σ ι L ε}
    (reach : M.Reach D.allowed c) : D.inv c.shared ∧ ∀ t, D.Fits t c.shared (c.slots t) := by
  induction reach with
  | initial => exact ⟨governs.start, governs.rests⟩
  | @next c c' m _ moved permitted ih =>
    obtain ⟨inv, fits⟩ := ih
    cases m with
    | start op =>
      cases slot : c.slots (M.thread op) with
      | some p => simp [Machine.next, slot] at moved
      | none =>
        simp only [Machine.next, slot, Option.some.injEq] at moved
        subst moved
        refine ⟨inv, fun t => ?_⟩
        by_cases same : t = M.thread op
        · subst same
          have rests := fits (M.thread op)
          rw [slot] at rests
          simp only [Config.set, if_true]
          exact fits_settle inv (governs.resting _) rests (governs.body op)
        · simp only [Config.set, if_neg same]
          exact fits t
    | advance t i =>
      cases slot : c.slots t with
      | none => simp [Machine.next, slot] at moved
      | some p =>
        cases p with
        | ret a => simp [Machine.next, slot] at moved
        | throw e => simp [Machine.next, slot] at moved
        | step label ready act next =>
          simp only [Machine.next, slot] at moved
          split_ifs at moved with isReady
          simp only [Option.some.injEq] at moved
          subst moved
          have running := fits t
          rw [slot] at running
          obtain ⟨A, -, holds, triple⟩ := running
          have allowed := permitted label (by simp [Config.label, slot])
          obtain ⟨inv', guarantees, A', stable, holds', rest⟩ :=
            triple i c.shared inv holds isReady allowed
          refine ⟨inv', fun u => ?_⟩
          by_cases same : u = t
          · subst same
            simp only [Config.set, if_true]
            exact fits_settle inv' stable holds' rest
          · simp only [Config.set, if_neg same]
            exact (fits u).stable (governs.resting u) inv (guarantees u same)

theorem Governs.inv_of_reach (governs : D.Governs M) {c : Config θ σ ι L ε}
    (reach : M.Reach D.allowed c) : D.inv c.shared :=
  (governs.reach reach).1

/-- When every thread is idle, every thread's resting assertion holds. -/
theorem Governs.rest_of_idle (governs : D.Governs M) {c : Config θ σ ι L ε}
    (reach : M.Reach D.allowed c) {t : θ} (idle : c.slots t = none) : D.rest t c.shared := by
  have fits := (governs.reach reach).2 t
  rwa [idle] at fits

end Discipline

end Threads
