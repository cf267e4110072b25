import MotorDrive.Library.Calls
import MotorDrive.Runtime.Frame

/-!
# Calls of the Runtime

What one call of the Runtime does: the sections it takes, in order, with the answers of the backend and
the states they find.  There is one rule for each way a section is built and one for `command_mutex_`,
then the functions of the trace that the results about calls are stated with.
-/

namespace MotorDrive.Runtime

open Threads SafetyRuntime Proc

/-- The sections of a call. -/
abbrev Trace := List (Taken SafetyRuntime Input Site)

/-- What other threads may do before a section. -/
abbrev Interference := Site → SafetyRuntime → SafetyRuntime → Prop

section Sections

variable {R : Interference} {s s' : SafetyRuntime} {trace : Trace} {α β : Type}

theorem runs_act {site : Site} {f : Input → SafetyRuntime → α × SafetyRuntime} {r : Except String α} :
    (act site f).Runs R s trace r s' ↔ ∃ i found, R site s found ∧ trace = [⟨site, i, found⟩] ∧
      r = .ok (f i found.tick).1 ∧ s' = noteCleared site found (f i found.tick).2 :=
  runs_atomic

theorem runs_act_bind {site : Site} {f : Input → SafetyRuntime → α × SafetyRuntime} {g : α → Program β}
    {r : Except String β} :
    ((act site f).bind g).Runs R s trace r s' ↔ ∃ i found rest, R site s found ∧
      trace = ⟨site, i, found⟩ :: rest ∧
      (g (f i found.tick).1).Runs R (noteCleared site found (f i found.tick).2) rest r s' :=
  runs_atomic_bind

theorem runs_actThrow_bind {site : Site} {f : Input → SafetyRuntime → Except String α × SafetyRuntime}
    {g : α → Program β} {r : Except String β}
    (runs : ((actThrow site f).bind g).Runs R s trace r s') : ∃ i found rest, R site s found ∧
      trace = ⟨site, i, found⟩ :: rest ∧
      ((∃ a, (f i found.tick).1 = .ok a ∧
          (g a).Runs R (noteCleared site found (f i found.tick).2) rest r s') ∨
        ∃ e, (f i found.tick).1 = .error e ∧ rest = [] ∧ r = .error e ∧
          s' = noteCleared site found (f i found.tick).2) := by
  obtain ⟨i, found, rest, between, -, same, later⟩ := runs_await_bind.mp runs
  exact ⟨i, found, rest, between, same, later⟩

theorem runs_update_bind {site : Site} {f : Input → SafetyRuntime → SafetyRuntime}
    {g : Unit → Program β} {r : Except String β} :
    ((update site f).bind g).Runs R s trace r s' ↔ ∃ i found rest, R site s found ∧
      trace = ⟨site, i, found⟩ :: rest ∧
      (g ()).Runs R (noteCleared site found (f i found.tick)) rest r s' :=
  runs_act_bind

theorem runs_lookAt_bind {site : Site} {f : Input → SafetyRuntime → α} {g : α → Program β}
    {r : Except String β} :
    ((lookAt site f).bind g).Runs R s trace r s' ↔ ∃ i found rest, R site s found ∧
      trace = ⟨site, i, found⟩ :: rest ∧
      (g (f i found.tick)).Runs R (noteCleared site found found.tick) rest r s' :=
  runs_act_bind

/-- What a program does under `command_mutex_`: it takes the mutex, runs and releases it. -/
theorem runs_withCommand {t : Thread} {p : Program α} {r : Except String α}
    (runs : (withCommand t p).Runs R s trace r s') : ∃ i found j left start middle body,
      trace = ⟨.lock, i, found⟩ :: (body ++ [⟨.unlock, j, left⟩]) ∧ p.Runs R start body r middle ∧
        R .unlock middle left ∧ s' = noteCleared .unlock left { left.tick with commandOwner := none } := by
  obtain ⟨i, found, rest, -, -, rfl, later⟩ := runs
  have later : (Proc.bind (Proc.tryCatch p fun error => unlockCommand.bind fun _ => .throw error)
      fun a => unlockCommand.bind fun _ => .ret a).Runs R
        (noteCleared .lock found { found.tick with commandOwner := some t }) rest r s' := later
  have unlocked : ∀ {γ : Type} {g : Unit → Program γ} {s s' : SafetyRuntime} {trace : Trace}
      {r : Except String γ}, (unlockCommand.bind g).Runs R s trace r s' → ∃ j left rest,
        R .unlock s left ∧ trace = ⟨.unlock, j, left⟩ :: rest ∧
        (g ()).Runs R (noteCleared .unlock left { left.tick with commandOwner := none }) rest r s' := by
    intro γ g s s' trace r runs
    obtain ⟨j, left, rest, between, same, later⟩ := runs_update_bind.mp runs
    exact ⟨j, left, rest, between, same, later⟩
  obtain ⟨a, middle, first, last, body, returns, rfl⟩ | ⟨e, body, rfl⟩ := runs_bind.mp later
  · obtain ⟨e, start, before, after, -, thrown, -⟩ | ⟨a', body, same⟩ := runs_tryCatch.mp body
    · obtain ⟨j, left, rest, -, -, -, impossible, -⟩ := unlocked thrown
      cases impossible
    · obtain rfl := Except.ok.inj same
      obtain ⟨j, left, rest, between, rfl, rfl, rfl, same⟩ := unlocked returns
      exact ⟨i, found, j, left, _, middle, first, rfl, body, between, same⟩
  · obtain ⟨e', middle, first, last, body, thrown, rfl⟩ | ⟨a, -, impossible⟩ := runs_tryCatch.mp body
    · obtain ⟨j, left, rest, between, rfl, rfl, same, left'⟩ := unlocked thrown
      obtain rfl := Except.error.inj same
      exact ⟨i, found, j, left, _, middle, first, rfl, body, between, left'⟩
    · cases impossible

theorem gives_act {site : Site} {f : Input → SafetyRuntime → α × SafetyRuntime} {P : Trace → α → Prop}
    (holds : ∀ i found, P [⟨site, i, found⟩] (f i found.tick).1) : (act site f).Gives P :=
  .atomic holds

theorem gives_lookAt {site : Site} {f : Input → SafetyRuntime → α} {P : Trace → α → Prop}
    (holds : ∀ i found, P [⟨site, i, found⟩] (f i found.tick)) : (lookAt site f).Gives P :=
  gives_act holds

theorem gives_update {site : Site} {f : Input → SafetyRuntime → SafetyRuntime} {P : Trace → Unit → Prop}
    (holds : ∀ i found, P [⟨site, i, found⟩] ()) : (update site f).Gives P :=
  gives_act holds

theorem every_act {site : Site} {f : Input → SafetyRuntime → α × SafetyRuntime} {P : Site → Prop}
    (holds : P site) : (act site f).Every fun label _ _ => P label :=
  every_atomic holds

theorem every_actThrow {site : Site} {f : Input → SafetyRuntime → Except String α × SafetyRuntime}
    {P : Site → Prop} (holds : P site) : (actThrow site f).Every fun label _ _ => P label :=
  every_await holds

theorem every_withCommand {t : Thread} {p : Program α} {P : Site → Prop} (lock : P .lock) (unlock : P .unlock)
    (inner : p.Every fun label _ _ => P label) : (withCommand t p).Every fun label _ _ => P label := by
  have unlocks : unlockCommand.Every fun label _ _ => P label := ⟨unlock, fun _ _ => trivial⟩
  exact every_bind (every_await lock) fun _ => every_bind
    (every_tryCatch inner fun _ => every_bind unlocks fun _ => trivial) fun _ => every_bind unlocks fun _ => trivial

/-- A feedback transaction and what follows it. -/
theorem runs_feedback_bind {config : RuntimeConfig} {g : Bool × List MissingMotor → Program β}
    {r : Except String β} :
    ((requestFeedbackParallel config).bind g).Runs R s trace r s' ↔ ∃ i found rest, R .feedback s found ∧
      trace = ⟨.feedback, i, found⟩ :: rest ∧
      (g (requestComplete config i, missingOn config i 0 ++ missingOn config i 1)).Runs R
        (after config .lifecycle .feedback i found) rest r s' :=
  runs_act_bind

end Sections

/-! ## What a trace shows -/

/-- The frames that change the power state of motors. -/
inductive PowerAction
  | enable (motors : List Handle)
  | disable (motors : List Handle)
  deriving DecidableEq, Repr

/-- The action attempts to disable the motor. -/
def PowerAction.disables (motor : Handle) : PowerAction → Bool
  | .enable _ => false
  | .disable motors => motors.contains motor

/-- The action attempts to enable the motor. -/
def PowerAction.enables (motor : Handle) : PowerAction → Bool
  | .enable motors => motors.contains motor
  | .disable _ => false

/-- The action that a section attempts. -/
def Site.action? : Site → Option PowerAction
  | .enableMotors motors => some (.enable motors)
  | .disableMotors motors => some (.disable motors)
  | _ => none

/-- The actions that a call attempts, in order. -/
def actions (trace : Trace) : List PowerAction := trace.filterMap fun taken => taken.label.action?

/-- The sections before the first action. -/
def beforeAction (trace : Trace) : Trace := trace.takeWhile fun taken => taken.label.action?.isNone

/-- The input of the last section whose label passes a test. -/
def lastInput (test : Site → Bool) (trace : Trace) : Option Input :=
  (trace.filter fun taken => test taken.label).getLast?.map Taken.input

/-- The input of the first section whose label passes a test. -/
def firstInput (test : Site → Bool) (trace : Trace) : Option Input :=
  (trace.find? fun taken => test taken.label).map Taken.input

section Trace

variable {trace more : Trace} {test : Site → Bool} {taken : Taken SafetyRuntime Input Site}

@[simp] theorem actions_nil : actions [] = [] := rfl

@[simp] theorem actions_append : actions (trace ++ more) = actions trace ++ actions more :=
  List.filterMap_append

@[simp] theorem actions_cons : actions (taken :: trace) = taken.label.action?.toList ++ actions trace := by
  cases action : taken.label.action? <;> simp [actions, action]

theorem beforeAction_append (none : actions trace = []) {action : PowerAction}
    (first : taken.label.action? = some action) : beforeAction (trace ++ taken :: more) = trace := by
  induction trace with
  | nil => simp [beforeAction, first]
  | cons head trace ih =>
    simp only [actions_cons, List.append_eq_nil_iff, Option.toList_eq_nil_iff] at none
    have tail : beforeAction (trace ++ taken :: more) = trace := ih none.2
    simp only [beforeAction] at tail
    simp [beforeAction, none.1, tail]

/-- What follows an action does not change what comes before the first one. -/
theorem beforeAction_of_actions (some : actions trace ≠ []) :
    beforeAction (trace ++ more) = beforeAction trace := by
  induction trace with
  | nil => exact absurd rfl some
  | cons head trace ih =>
    cases action : head.label.action? with
    | some first => simp [beforeAction, action]
    | none =>
      have tail : beforeAction (trace ++ more) = beforeAction trace := ih (by simpa [action] using some)
      simp only [beforeAction] at tail
      simp [beforeAction, action, tail]

@[simp] theorem lastInput_nil : lastInput test [] = none := rfl

theorem lastInput_append :
    lastInput test (trace ++ more) = (lastInput test more).or (lastInput test trace) := by
  simp only [lastInput, List.filter_append, List.getLast?_append, Option.map_or]

theorem lastInput_cons :
    lastInput test (taken :: trace) =
      (lastInput test trace).or (if test taken.label then some taken.input else none) := by
  rw [← List.singleton_append, lastInput_append]
  congr 1
  by_cases passes : test taken.label = true <;> simp [lastInput, passes]

theorem lastInput_eq_none (never : ∀ taken ∈ trace, test taken.label = false) : lastInput test trace = none := by
  have empty : (trace.filter fun taken => test taken.label) = [] :=
    List.filter_eq_nil_iff.mpr fun taken member => by simp [never taken member]
  rw [lastInput, empty]
  rfl

@[simp] theorem firstInput_nil : firstInput test [] = none := rfl

theorem firstInput_cons : firstInput test (taken :: trace) =
    if test taken.label then some taken.input else firstInput test trace := by
  by_cases passes : test taken.label = true <;> simp [firstInput, passes]

theorem firstInput_append :
    firstInput test (trace ++ more) = (firstInput test trace).or (firstInput test more) := by
  simp only [firstInput, List.find?_append, Option.map_or]

/-- What comes before every action comes before the first one. -/
theorem beforeAction_prepend (none : actions trace = []) :
    beforeAction (trace ++ more) = trace ++ beforeAction more := by
  refine List.takeWhile_append_of_pos fun taken member => ?_
  rw [List.filterMap_eq_nil_iff.mp none taken member]
  rfl

theorem beforeAction_subset : beforeAction trace ⊆ beforeAction (trace ++ more) := by
  by_cases none : actions trace = []
  · rw [beforeAction_prepend none]
    exact fun taken member => List.mem_append_left _ (List.takeWhile_subset _ member)
  · rw [beforeAction_of_actions none]
    exact fun taken member => member

end Trace

/-! ## Calls among the other threads -/

/-- What the worker and the clients do, in some run, before a section of a lifecycle call. -/
abbrev Around (config : RuntimeConfig) : Interference := (runtime config).Between anySection .lifecycle

section Around

variable {config : RuntimeConfig} {allowed : Condition} {I : SafetyRuntime → (Thread → Local) → Prop}

/-- What holds across every section of the other threads holds across their moves. -/
theorem others_rel (carried : Carried config allowed I) {P : SafetyRuntime → SafetyRuntime → Prop}
    (refl : ∀ s, P s s)
    (step : ∀ {s found : SafetyRuntime} {φ : Thread → Local} {u : Thread} {site : Site} {i : Input},
      u ≠ .lifecycle → I found φ → (φ u).fits u site → site.ready found = true → allowed u site i found →
        P s found → P s (after config u site i found))
    {c c₁ : Config Thread SafetyRuntime Input Site String} (reach : (runtime config).Reach allowed c)
    (others : (runtime config).Others allowed .lifecycle c c₁) : P c.shared c₁.shared := by
  refine others.rel reach refl fun {s c c' m} reach moved permitted other holds => ?_
  obtain same | ⟨u, site, i, φ, -, rfl, inv, isReady, fits, allows, left⟩ :=
    carried.section_of_next reach moved permitted
  · rwa [same]
  · rw [left]
    exact step other inv fits isReady allows holds

/-- What holds across every section of the other threads holds across what they do before a section of
the lifecycle thread. -/
theorem between_rel (carried : Carried config allowed I) {P : SafetyRuntime → SafetyRuntime → Prop}
    (refl : ∀ s, P s s)
    (step : ∀ {s found : SafetyRuntime} {φ : Thread → Local} {u : Thread} {site : Site} {i : Input},
      u ≠ .lifecycle → I found φ → (φ u).fits u site → site.ready found = true → allowed u site i found →
        P s found → P s (after config u site i found))
    {label : Site} {s found : SafetyRuntime}
    (between : (runtime config).Between allowed .lifecycle label s found) : P s found := by
  obtain ⟨c, c₁, reach, rfl, others, rfl, -⟩ := between
  exact others_rel carried refl step reach others

/-- An invariant holds of what a section of the lifecycle thread finds, and the section fits. -/
theorem fits_of_between (carried : Carried config allowed I) {label : Site} {s found : SafetyRuntime}
    (between : (runtime config).Between allowed .lifecycle label s found) :
    ∃ φ, I found φ ∧ (φ .lifecycle).fits .lifecycle label := by
  obtain ⟨c, c₁, reach, rfl, others, rfl, at_label⟩ := between
  have rests : (runtimeFlow config).rest {} := ⟨rfl, rfl, rfl, rfl, rfl⟩
  obtain ⟨φ, holds, fits⟩ := Invariant.reach carried rests (runtime_follows config) (others.reach reach)
  have path := fits .lifecycle
  refine ⟨φ, holds, ?_⟩
  simp only [Config.label] at at_label
  split at at_label
  · rename_i slot
    obtain rfl := Option.some.inj at_label
    rw [slot] at path
    exact path.1
  · cases at_label

/-- Only lifecycle calls write the emergency stop latch. -/
theorem between_emergency {label : Site} {s found : SafetyRuntime}
    (between : (runtime config).Between allowed .lifecycle label s found) :
    found.flags.emergencyStopLatched = s.flags.emergencyStopLatched := by
  refine between_rel (P := fun s found => found.flags.emergencyStopLatched = s.flags.emergencyStopLatched)
    (locks_carried config).under (fun _ => rfl)
    (fun {s found φ u site i} other _ fits _ _ same => ?_) between
  rw [← same]
  refine (after_footprint config u site i found).emergency ?_
  cases site <;> first | rfl | exact absurd (lifecycle_of_fits fits rfl) other

/-- What comes after the body of a lifecycle call. -/
def lifecycleContext (p : Program Unit) : Program Unit :=
  (p.tryCatch fun error => (update .returned fun _ s => { s with lifecycleLocked := false }).bind fun _ =>
    .throw error).bind fun _ => update .returned fun _ s => { s with lifecycleLocked := false }

theorem lifecycleContext_context : Machine.Context lifecycleContext := fun _ _ _ _ => rfl

variable (config) in
/-- A lifecycle call from where a schedule leaves the lifecycle thread idle, with given moves of the other
threads and inputs, is a call among the other threads. -/
theorem exists_call_among {β : Type} {b : β} (check : Thread → Site → Input → SafetyRuntime → Bool)
    (sound : ∀ t label i s, check t label i s = true → allowed t label i s) (call : LifecycleCall)
    (moves : List (Move Thread Input Op)) (schedule : List (List (Move Thread Input Op) × Input))
    (view : Trace → Except String Unit → SafetyRuntime → β)
    (ran : ((runtime config).run check moves (runtime config).initial).map (fun c =>
      ((c.slots .lifecycle).isNone && check .lifecycle .call {} c.shared,
        ((runtime config).among check .lifecycle lifecycleContext (lifecycleBody config call)
          (c.set .lifecycle (settle (lifecycleContext (lifecycleBody config call)))
            (after config .lifecycle .call {} c.shared)) schedule).map
          fun (trace, r, c') => view trace r c'.shared)) = some (true, some b)) :
    ∃ s trace r s', (lifecycleBody config call).Runs ((runtime config).Between allowed .lifecycle) s trace r s' ∧
      view trace r s' = b := by
  obtain ⟨c, reach, seen⟩ := Machine.exists_config_of_run (M := runtime config) check _ moves sound ran
  obtain ⟨starts, shown⟩ := Prod.mk.inj seen
  obtain ⟨idle, permitted⟩ := Bool.and_eq_true_iff.mp starts
  have none : c.slots .lifecycle = none := by simpa using idle
  obtain ⟨c₁, c₁_eq⟩ : ∃ c₁, c₁ = c.set .lifecycle (settle (withLifecycle (lifecycleBody config call)))
    c.shared := ⟨_, rfl⟩
  have started : (runtime config).next c (.start (.lifecycle call)) = some c₁ := by
    simp only [Machine.next, runtime, none, c₁_eq]
  obtain ⟨c₂, c₂_eq⟩ : ∃ c₂, c₂ = c₁.set .lifecycle (settle (lifecycleContext (lifecycleBody config call)))
    (after config .lifecycle .call {} c.shared) := ⟨_, rfl⟩
  have called : (runtime config).next c₁ (.advance .lifecycle {}) = some c₂ := by
    rw [c₂_eq, c₁_eq]
    rfl
  have reach₂ := (reach.next started trivial).next called fun label found => by
    rw [c₁_eq] at found
    obtain rfl := Option.some.inj found
    rw [c₁_eq]
    exact sound _ _ _ _ permitted
  have same : c₂ = c.set .lifecycle (settle (lifecycleContext (lifecycleBody config call)))
      (after config .lifecycle .call {} c.shared) := by
    rw [c₂_eq, c₁_eq]
    simp only [Config.set, Config.mk.injEq, true_and]
    funext u
    split_ifs <;> rfl
  rw [← same] at shown
  obtain ⟨⟨trace, r, c'⟩, executed, viewed⟩ := Option.map_eq_some_iff.mp shown
  obtain ⟨runs, -⟩ := Machine.runs_of_executes lifecycleContext_context reach₂ (by rw [c₂_eq]; rfl)
    (Machine.executes_of_among sound executed)
  exact ⟨c₂.shared, trace, r, c'.shared, runs, viewed⟩

end Around

end MotorDrive.Runtime
