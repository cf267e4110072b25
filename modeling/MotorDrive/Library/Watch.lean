import MotorDrive.Library.Threads

/-!
# A record beside the run

What a property says about the past need not be in the state: `M.watch see record` runs the machine `M`
beside a record that every section updates by what it saw.  The programs do not read the record, so every
run has a watched run (`exists_watched`).

`D.Watches see t p A Q E` is the triple of a program beside the record; it has the rules of a triple.
-/

variable {σ ι L ε α β γ : Type}

namespace Proc

/-- The program beside a record that each section updates by its label, its input and the states before
and after. -/
def watch (see : L → ι → σ → σ → γ → γ) : Proc σ ι L ε α → Proc (σ × γ) ι L ε α
  | ret a => ret a
  | throw e => throw e
  | step label ready act next => step label (fun s => ready s.1)
      (fun i s => (act i s.1, see label i s.1 (act i s.1) s.2)) fun i s => watch see (next i s.1)

variable (see : L → ι → σ → σ → γ → γ)

theorem watch_bind (p : Proc σ ι L ε α) (f : α → Proc σ ι L ε β) :
    (p.bind f).watch see = (p.watch see).bind fun a => (f a).watch see := by
  induction p with
  | ret a => rfl
  | throw e => rfl
  | step label ready act next ih => simp only [bind, watch, ih]

theorem watch_tryCatch (p : Proc σ ι L ε α) (handler : ε → Proc σ ι L ε α) :
    (p.tryCatch handler).watch see = (p.watch see).tryCatch fun e => (handler e).watch see := by
  induction p with
  | ret a => rfl
  | throw e => rfl
  | step label ready act next ih => simp only [tryCatch, watch, ih]

theorem watch_ofExcept (answer : Except ε α) :
    (ofExcept answer : Proc σ ι L ε α).watch see = ofExcept answer := by
  cases answer <;> rfl

/-- The sections of a watched program. -/
theorem every_watch {S : L → (σ × γ → Bool) → (ι → σ × γ → σ × γ) → Prop} {p : Proc σ ι L ε α}
    (every : p.Every fun label ready act => S label (fun s => ready s.1)
      fun i s => (act i s.1, see label i s.1 (act i s.1) s.2)) : (p.watch see).Every S := by
  induction p with
  | ret a => trivial
  | throw e => trivial
  | step label ready act next ih => exact ⟨every.1, fun i s => ih i s.1 (every.2 i s.1)⟩

end Proc

namespace Threads

variable {θ Ω : Type}

/-- The machine beside a record. -/
def Machine.watch (M : Machine θ σ ι L ε Ω) (see : θ → L → ι → σ → σ → γ → γ) (record : γ) :
    Machine θ (σ × γ) ι L ε Ω where
  thread := M.thread
  body op := (M.body op).watch (see (M.thread op))
  start := (M.start, record)

/-- A configuration of the machine, and one of the watched machine. -/
structure Shows (see : θ → L → ι → σ → σ → γ → γ) (c : Config θ σ ι L ε) (d : Config θ (σ × γ) ι L ε) : Prop where
  shared : d.shared.1 = c.shared
  slots : ∀ t, d.slots t = (c.slots t).map (Proc.watch (see t))

section Runs

variable [DecidableEq θ] {M : Machine θ σ ι L ε Ω} {see : θ → L → ι → σ → σ → γ → γ} {record : γ}

omit [DecidableEq θ] in
theorem settle_watch (t : θ) (p : Proc σ ι L ε Unit) :
    settle (p.watch (see t)) = (settle p).map (Proc.watch (see t)) := by
  cases p <;> rfl

/-- What the watched machine does when the machine moves. -/
theorem Shows.next {c c' : Config θ σ ι L ε} {d : Config θ (σ × γ) ι L ε} {m : Move θ ι Ω}
    (matching : Shows see c d) (moved : M.next c m = some c') : ∃ d', (M.watch see record).next d m = some d' ∧ Shows see c' d' := by
  have set {t : θ} {p : Option (Proc σ ι L ε Unit)} {s : σ × γ} :
      Shows see (c.set t p s.1) (d.set t (p.map (Proc.watch (see t))) s) := by
    refine ⟨rfl, fun u => ?_⟩
    by_cases here : u = t
    · subst here
      simp [Config.set]
    · simp [Config.set, here, matching.slots u]
  cases m with
  | start op =>
    have slots := matching.slots (M.thread op)
    simp only [Machine.next] at moved ⊢
    cases slot : c.slots (M.thread op) with
    | some p => simp [slot] at moved
    | none =>
      rw [slot] at moved slots
      obtain rfl := Option.some.inj moved
      refine ⟨_, by simp only [Machine.watch, slots, Option.map_none]; rfl, ?_⟩
      rw [settle_watch, ← matching.shared]
      exact set
  | advance t i =>
    have slots := matching.slots t
    simp only [Machine.next] at moved ⊢
    cases slot : c.slots t with
    | none => simp [slot] at moved
    | some p =>
      rw [slot] at moved slots
      cases p with
      | ret a => simp at moved
      | throw e => simp at moved
      | step label ready act next =>
        simp only at moved
        split_ifs at moved with isReady
        obtain rfl := Option.some.inj moved
        simp only [Option.map_some, Proc.watch] at slots
        rw [← matching.shared] at isReady
        refine ⟨_, by rw [slots]; exact if_pos isReady, ?_⟩
        rw [settle_watch, ← matching.shared]
        exact set (s := (act i d.shared.1, see t label i d.shared.1 (act i d.shared.1) d.shared.2))

variable (see record) in
/-- Every run can be watched. -/
theorem Machine.exists_watched {allowed : θ → L → ι → σ → Prop} {c : Config θ σ ι L ε}
    (reach : M.Reach allowed c) : ∃ d : Config θ (σ × γ) ι L ε,
      (M.watch see record).Reach (fun t label i s => allowed t label i s.1) d ∧ Shows see c d := by
  induction reach with
  | initial => exact ⟨_, .initial, rfl, fun _ => rfl⟩
  | @next c c' m _ moved permitted ih =>
    obtain ⟨d, reach, matching⟩ := ih
    obtain ⟨d', moved', after⟩ : ∃ d', (M.watch see record).next d m = some d' ∧ Shows see c' d' := matching.next moved
    refine ⟨d', .next reach moved' ?_, after⟩
    cases m with
    | start op => trivial
    | advance t i =>
      intro label found
      rw [matching.shared]
      refine permitted label ?_
      have slots := matching.slots t
      simp only [Config.label] at found ⊢
      cases slot : c.slots t with
      | none => simp [slots, slot] at found
      | some p =>
        rw [slots, slot] at found
        cases p <;> exact found

end Runs

/-! ## Triples beside the record -/

namespace Discipline

variable (D : Discipline θ (σ × γ) ι L) (see : θ → L → ι → σ → σ → γ → γ) (t : θ)

/-- The triple of a program beside the record. -/
def Watches (p : Proc σ ι L ε α) (A : σ × γ → Prop) (Q : α → σ × γ → Prop) (E : ε → σ × γ → Prop) : Prop :=
  D.Triple t (p.watch (see t)) A Q E

variable {D see t} {p : Proc σ ι L ε α} {A : σ × γ → Prop} {Q : α → σ × γ → Prop} {E : ε → σ × γ → Prop}

theorem Watches.bind {f : α → Proc σ ι L ε β} {R : β → σ × γ → Prop} (first : D.Watches see t p A Q E)
    (rest : ∀ a, D.Watches see t (f a) (Q a) R E) : D.Watches see t (p.bind f) A R E := by
  rw [Watches, Proc.watch_bind]
  exact Triple.bind first rest

theorem Watches.tryCatch {handler : ε → Proc σ ι L ε α} {E' : ε → σ × γ → Prop}
    (body : D.Watches see t p A Q E) (handled : ∀ e, D.Watches see t (handler e) (E e) Q E') :
    D.Watches see t (p.tryCatch handler) A Q E' := by
  rw [Watches, Proc.watch_tryCatch]
  exact Triple.tryCatch body handled

theorem Watches.pre {A' : σ × γ → Prop} (watches : D.Watches see t p A Q E)
    (weaker : ∀ s, D.inv s → A' s → A s) : D.Watches see t p A' Q E :=
  Triple.pre watches weaker

theorem Watches.post {Q' : α → σ × γ → Prop} {E' : ε → σ × γ → Prop} (watches : D.Watches see t p A Q E)
    (post : ∀ a s, D.inv s → Q a s → Q' a s) (thrown : ∀ e s, D.inv s → E e s → E' e s) :
    D.Watches see t p A Q' E' :=
  Triple.conseq watches (fun _ _ holds => holds) post thrown

theorem Watches.ret {a : α} (post : ∀ s, D.inv s → A s → Q a s) :
    D.Watches see t (.ret a : Proc σ ι L ε α) A Q E :=
  post

theorem Watches.ite {c : Prop} [Decidable c] {q : Proc σ ι L ε α} (first : c → D.Watches see t p A Q E)
    (second : ¬ c → D.Watches see t q A Q E) : D.Watches see t (if c then p else q) A Q E := by
  split_ifs with holds
  · exact first holds
  · exact second holds

theorem Watches.when {condition : Bool} {p : Proc σ ι L ε Unit} {Q : Unit → σ × γ → Prop}
    (sound : condition = true → D.Watches see t p A Q E)
    (skipped : condition = false → ∀ s, D.inv s → A s → Q () s) : D.Watches see t (.when condition p) A Q E := by
  unfold Proc.when
  split_ifs with holds
  · exact sound holds
  · exact skipped (by simpa using holds)

theorem Watches.loop {body : Proc σ ι L ε Bool} (sound : D.Watches see t body A (fun _ => A) E) (n : ℕ) :
    D.Watches see t (.loop body n) A (fun _ => A) E := by
  induction n with
  | zero => exact fun _ _ holds => holds
  | succ n ih =>
    refine sound.bind fun more => ?_
    cases more
    · exact fun _ _ holds => holds
    · exact ih

theorem Watches.atomic {label : L} {f : ι → σ → α × σ} (stable : ∀ a, D.Stable t (Q a))
    (sound : ∀ i s g, D.inv (s, g) → A (s, g) → D.allowed t label i (s, g) →
      D.inv ((f i s).2, see t label i s (f i s).2 g) ∧
        D.Guarantees t (s, g) ((f i s).2, see t label i s (f i s).2 g) ∧
        Q (f i s).1 ((f i s).2, see t label i s (f i s).2 g)) :
    D.Watches see t (.atomic label f) A Q E :=
  Triple.atomic (f := fun i (s : σ × γ) => ((f i s.1).1, ((f i s.1).2, see t label i s.1 (f i s.1).2 s.2))) stable
    fun i s inv holds allowed => sound i s.1 s.2 inv holds allowed

theorem Watches.await {label : L} {ready : σ → Bool} {f : ι → σ → Except ε α × σ}
    (stable : ∀ a, D.Stable t (Q a)) (stableThrown : ∀ e, D.Stable t (E e))
    (sound : ∀ i s g, D.inv (s, g) → A (s, g) → D.allowed t label i (s, g) →
      D.inv ((f i s).2, see t label i s (f i s).2 g) ∧
        D.Guarantees t (s, g) ((f i s).2, see t label i s (f i s).2 g) ∧
        match (f i s).1 with
        | .ok a => Q a ((f i s).2, see t label i s (f i s).2 g)
        | .error e => E e ((f i s).2, see t label i s (f i s).2 g)) :
    D.Watches see t (.await label ready f) A Q E := by
  have same : (Proc.await label ready f).watch (see t) = Proc.await label (fun s => ready s.1)
      fun i (s : σ × γ) => ((f i s.1).1, ((f i s.1).2, see t label i s.1 (f i s.1).2 s.2)) := by
    simp only [Proc.await, Proc.watch, Proc.watch_ofExcept]
  rw [Watches, same]
  exact Triple.await stable stableThrown fun i s inv holds _ allowed => sound i s.1 s.2 inv holds allowed

/-- A program all of whose sections keep a stable assertion beside the record keeps it. -/
theorem Watches.of_every (stable : D.Stable t A)
    (every : p.Every fun label _ act => ∀ i s g, D.inv (s, g) → A (s, g) →
      D.inv (act i s, see t label i s (act i s) g) ∧ D.Guarantees t (s, g) (act i s, see t label i s (act i s) g) ∧
        A (act i s, see t label i s (act i s) g)) :
    D.Watches see t p A (fun _ => A) fun _ => A := by
  refine Triple.of_every stable (Proc.every_watch _ (every.mono fun label ready act keeps i s inv holds _ _ => ?_))
  exact keeps i s.1 s.2 inv holds

end Discipline

end Threads
