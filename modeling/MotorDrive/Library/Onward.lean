import MotorDrive.Library.Flow

/-!
# What stays from some point of a run on

`Leads allowed c c'` says that a run goes on from `c` to `c'`.  A property of the shared state that every
section keeps beside an invariant of the whole run stays from the first configuration that has it on.
-/

namespace Threads

variable {θ σ ι L ε Ω Φ : Type} [DecidableEq θ]

/-- The configurations that the runs from `c` with allowed sections lead to. -/
inductive Machine.Leads (M : Machine θ σ ι L ε Ω) (allowed : θ → L → ι → σ → Prop) (c : Config θ σ ι L ε) :
    Config θ σ ι L ε → Prop
  | refl : Leads M allowed c c
  | next {c' c'' : Config θ σ ι L ε} {m : Move θ ι Ω} (leads : Leads M allowed c c')
    (moved : M.next c' m = some c'') (permitted : Machine.Permits allowed c' m) : Leads M allowed c c''

variable {M : Machine θ σ ι L ε Ω} {allowed : θ → L → ι → σ → Prop}

/-- A run that goes on is a run. -/
theorem Machine.Leads.reach {c c' : Config θ σ ι L ε} (leads : M.Leads allowed c c')
    (reach : M.Reach allowed c) : M.Reach allowed c' := by
  induction leads with
  | refl => exact reach
  | next _ moved permitted ih => exact ih.next moved permitted

/-- A schedule that runs goes on. -/
theorem Machine.leads_of_run {check : θ → L → ι → σ → Bool}
    (sound : ∀ t label i s, check t label i s = true → allowed t label i s)
    {moves : List (Move θ ι Ω)} {c c' c'' : Config θ σ ι L ε} (leads : M.Leads allowed c c')
    (ran : M.run check moves c' = some c'') : M.Leads allowed c c'' := by
  induction moves generalizing c' with
  | nil =>
    obtain rfl := Option.some.inj ran
    exact leads
  | cons m moves ih =>
    simp only [Machine.run] at ran
    split_ifs at ran with passed
    cases moved : M.next c' m with
    | none => simp [moved] at ran
    | some d =>
      simp only [moved] at ran
      exact ih (leads.next moved (Machine.permits_of_passes sound passed)) ran

/-- Three configurations of one run: two that a move connects, and a later one. -/
theorem Machine.exists_leads_of_run {β : Type} {b : β} (check : θ → L → ι → σ → Bool)
    (view : Config θ σ ι L ε → Config θ σ ι L ε → β) (moves : List (Move θ ι Ω)) (m : Move θ ι Ω)
    (later : List (Move θ ι Ω)) (sound : ∀ t label i s, check t label i s = true → allowed t label i s)
    (ran : ((M.run check moves M.initial).bind fun c => (M.next c m).bind fun c₁ =>
      (M.run check later c₁).map fun c₂ => view c c₂) = some b) :
    ∃ c c₁ c₂, M.Reach allowed c ∧ M.next c m = some c₁ ∧ M.Leads allowed c₁ c₂ ∧ view c c₂ = b := by
  obtain ⟨c, ran, rest⟩ := Option.bind_eq_some_iff.mp ran
  obtain ⟨c₁, moved, rest⟩ := Option.bind_eq_some_iff.mp rest
  obtain ⟨c₂, onward, seen⟩ := Option.map_eq_some_iff.mp rest
  exact ⟨c, c₁, c₂, reach_of_run sound .initial ran, moved, leads_of_run sound .refl onward, seen⟩

/-- What every section keeps beside an invariant stays. -/
theorem Invariant.stays {F : Flow θ σ ι L Φ} {idle : Φ} {I : σ → (θ → Φ) → Prop} {P : σ → Prop}
    (invariant : Invariant F allowed M.start idle I) (rests : F.rest idle)
    (follows : ∀ op, F.Follows (M.thread op) (M.body op) F.rest (fun _ => F.rest) fun _ => F.rest)
    (keeps : ∀ t label i s φ, I s φ → P s → F.fits t (φ t) label → allowed t label i s → P (F.act t label i s))
    {c c' : Config θ σ ι L ε} (reach : M.Reach allowed c) (leads : M.Leads allowed c c') (holds : P c.shared) :
    P c'.shared := by
  induction leads with
  | refl => exact holds
  | next leads moved permitted ih =>
    obtain same | ⟨t, label, i, φ, -, -, known, -, fits, may, same⟩ :=
      invariant.section_of_next rests follows (leads.reach reach) moved permitted
    · rw [same]
      exact ih
    · rw [same]
      exact keeps t label i _ φ known ih fits may

end Threads
