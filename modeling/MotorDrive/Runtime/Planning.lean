import MotorDrive.Library.Onward
import MotorDrive.Runtime.Ownership

/-!
# Planning transactions

A command that is planned outside `command_mutex_` is committed with the token that
`begin_command_planning` issued for it.  Other commands are refused while a token is active, and a token
that is not the active one is refused, so that a plan is committed at most once and by nobody but the
last planner.  The starts of gravity compensation and bimanual follow do not look at the token.
-/

namespace MotorDrive.Runtime

open Threads SafetyRuntime

/-! ## Tokens in the log -/

/-- The event may stand between the issue of a token and its commit. -/
def Event.bystands : Event → Bool
  | .planned _ => false
  | .accepted _ token kind => token = 0 ∧ kind = .arm
  | _ => true

/-- A token has been issued, and nothing that excludes it has happened since. -/
def Pending (token : ℕ) (log : List Event) : Prop :=
  ∃ newer older, log = newer ++ .planned token :: older ∧ ∀ e ∈ newer, e.bystands = true

/-- Tokens are issued in increasing order, and a command commits a token only while it is pending. -/
def Isolated : List Event → Prop
  | [] => True
  | .planned token :: older => (∀ earlier, .planned earlier ∈ older → earlier < token) ∧ Isolated older
  | .accepted _ token _ :: older => (token ≠ 0 → Pending token older) ∧ Isolated older
  | _ :: older => Isolated older

/-- The event commits a token. -/
def Event.commits (token : ℕ) : Event → Bool
  | .accepted _ committed _ => committed = token
  | _ => false

namespace Pending

variable {token : ℕ} {log : List Event}

theorem issued (log : List Event) : Pending token (.planned token :: log) :=
  ⟨[], log, rfl, by simp⟩

theorem cons {e : Event} (pending : Pending token log) (bystands : e.bystands = true) :
    Pending token (e :: log) := by
  obtain ⟨newer, older, rfl, all⟩ := pending
  exact ⟨e :: newer, older, rfl, List.forall_mem_cons.mpr ⟨bystands, all⟩⟩

theorem append {added : List Event} (pending : Pending token log)
    (bystand : ∀ e ∈ added, e.bystands = true) : Pending token (added ++ log) := by
  induction added with
  | nil => exact pending
  | cons e added ih =>
    rw [List.forall_mem_cons] at bystand
    exact (ih bystand.2).cons bystand.1

/-- The token of a pending plan is the last one issued. -/
theorem mem (pending : Pending token log) : .planned token ∈ log := by
  obtain ⟨newer, older, rfl, -⟩ := pending
  simp

end Pending

theorem isolated_cons {e : Event} {log : List Event} (isolated : Isolated (e :: log)) : Isolated log := by
  cases e with
  | planned _ | accepted _ _ _ => exact isolated.2
  | _ => exact isolated

/-- What neither issues nor commits a token keeps the order of tokens. -/
theorem Isolated.cons {e : Event} {log : List Event} (isolated : Isolated log)
    (bystands : e.bystands = true) : Isolated (e :: log) := by
  cases e with
  | planned token => cases bystands
  | accepted client token kind =>
    refine ⟨fun issued => absurd ?_ issued, isolated⟩
    simp only [Event.bystands, decide_eq_true_eq] at bystands
    exact bystands.1
  | _ => exact isolated

theorem Isolated.append {added log : List Event} (isolated : Isolated log)
    (bystand : ∀ e ∈ added, e.bystands = true) : Isolated (added ++ log) := by
  induction added with
  | nil => exact isolated
  | cons e added ih =>
    rw [List.forall_mem_cons] at bystand
    exact (ih bystand.2).cons bystand.1

/-- A token that is committed has been issued before. -/
theorem Isolated.issued {token : ℕ} {log : List Event} (isolated : Isolated log) (real : token ≠ 0) {e : Event}
    (found : e ∈ log) (commits : e.commits token = true) : .planned token ∈ log := by
  induction log with
  | nil => cases found
  | cons newest log ih =>
    obtain rfl | older := List.mem_cons.mp found
    · cases e with
      | accepted client committed kind =>
        obtain rfl : committed = token := of_decide_eq_true commits
        exact List.mem_cons_of_mem _ (isolated.1 real).mem
      | _ => cases commits
    · exact List.mem_cons_of_mem _ (ih (isolated_cons isolated) older)

/-- A pending plan has not been committed. -/
theorem Isolated.uncommitted {token : ℕ} {log : List Event} (isolated : Isolated log) (real : token ≠ 0)
    (pending : Pending token log) : ∀ e ∈ log, e.commits token = false := by
  obtain ⟨newer, older, rfl, all⟩ := pending
  induction newer with
  | nil =>
    intro e found
    by_contra commits
    obtain rfl | older := List.mem_cons.mp found
    · exact commits rfl
    · have issued := isolated.2.issued real older (by simpa using commits)
      exact absurd (isolated.1 token issued) (lt_irrefl token)
  | cons newest newer ih =>
    rw [List.forall_mem_cons] at all
    intro e found
    obtain rfl | found := List.mem_cons.mp found
    · cases e with
      | accepted client committed kind =>
        have bystands := all.1
        simp only [Event.bystands, decide_eq_true_eq] at bystands
        simpa [Event.commits, bystands.1] using Ne.symm real
      | _ => rfl
    · exact ih all.2 (isolated_cons isolated) e found

/-- No token is committed twice. -/
theorem Isolated.once {token : ℕ} {log : List Event} (isolated : Isolated log) (real : token ≠ 0) :
    log.countP (Event.commits token) ≤ 1 := by
  induction log with
  | nil => simp
  | cons e log ih =>
    cases commits : e.commits token with
    | false =>
      rw [List.countP_cons_of_neg (by simp [commits])]
      exact ih (isolated_cons isolated)
    | true =>
      rw [List.countP_cons_of_pos commits]
      have pending : Pending token log := by
        cases e with
        | accepted client committed kind =>
          obtain rfl : committed = token := of_decide_eq_true commits
          exact isolated.1 real
        | _ => cases commits
      have none : log.countP (Event.commits token) = 0 := by
        rw [List.countP_eq_zero]
        intro e found
        simp [(isolated_cons isolated).uncommitted real pending e found]
      rw [none]

/-! ## Tokens of a run -/

/-- The section issues, commits or drops a token, or asks for none to be active. -/
def Site.plans : Site → Bool
  | .beginPlanning _ | .cancelPlanning _ | .initializeEnabled _ _ | .disableCommit _ _ | .stopStart
  | .install _ _ _ | .trajectoryStart _ _ _ _ | .gripperInstall | .rawGripperAccept => true
  | _ => false

/-- The other sections leave the tokens alone. -/
theorem tokens_after (config : RuntimeConfig) (t : Thread) {site : Site} (i : Input) (s : SafetyRuntime)
    (other : site.plans = false) :
    (after config t site i s).progress.activeCommandPlanningToken = s.progress.activeCommandPlanningToken ∧
      (after config t site i s).progress.nextCommandPlanningToken = s.progress.nextCommandPlanningToken := by
  by_cases writes : site.writesProgress = true
  · cases site with
    | safeHoldInstall since mode commands =>
      simp only [after, effect, enterSafeHold]
      split <;> exact ⟨rfl, rfl⟩
    | enterSafeStop =>
      simp only [after, effect, SafetyRuntime.enterSafeStop]
      split_ifs <;> exact ⟨rfl, rfl⟩
    | gripperSent time commands =>
      simp only [after, effect, SafetyRuntime.commitGrippers]
      split_ifs <;> exact ⟨rfl, rfl⟩
    | _ =>
      first
      | (cases writes; done)
      | (cases other; done)
      | exact ⟨rfl, rfl⟩
  · rw [(after_footprint config t site i s).progress (by simpa using writes)]
    exact ⟨rfl, rfl⟩

theorem bystands_after (config : RuntimeConfig) (t : Thread) {site : Site} (i : Input) (s : SafetyRuntime)
    (other : site.plans = false) : Grows Event.bystands s.log (after config t site i s).log := by
  cases site with
  | submit mode streaming =>
    refine .ite ?_ rfl
    simp only [effect, SafetyRuntime.submit]
    split
    · exact .same _ _
    · split_ifs
      · exact .same _ _
      · exact .same _ _
      · exact .cons (.same _ _) rfl
  | gravityStart since | bimanualStart since => exact .ite (.cons (.same _ _) rfl) rfl
  | beginPlanning _ | install _ _ _ | trajectoryStart _ _ _ _ | gripperInstall | rawGripperAccept => cases other
  | _ =>
    refine (after_logs config t _ i s).mono fun e records => ?_
    cases e with
    | planned _ | accepted _ _ _ => cases records
    | _ => rfl

/-- What a section does to the tokens. -/
inductive Plans (s s' : SafetyRuntime) : Prop
  | keeps (next : s'.progress.nextCommandPlanningToken = s.progress.nextCommandPlanningToken)
    (active : s'.progress.activeCommandPlanningToken = 0 ∨
      s'.progress.activeCommandPlanningToken = s.progress.activeCommandPlanningToken)
    (log : Grows Event.bystands s.log s'.log)
  | issues (next : s'.progress.nextCommandPlanningToken = s.progress.nextCommandPlanningToken + 1)
    (active : s'.progress.activeCommandPlanningToken = s.progress.nextCommandPlanningToken)
    (log : Grows Event.bystands (.planned s.progress.nextCommandPlanningToken :: s.log) s'.log)
  | commits (token : ℕ) (client : Bool) (kind : Accepted)
    (next : s'.progress.nextCommandPlanningToken = s.progress.nextCommandPlanningToken)
    (active : s'.progress.activeCommandPlanningToken = 0)
    (current : token = 0 ∨ s.progress.activeCommandPlanningToken = token)
    (log : Grows Event.bystands (.accepted client token kind :: s.log) s'.log)

/-- What is accepted is accepted under the active token, or while there is none. -/
theorem active_of_requireState {s : SafetyRuntime} {allowGravity allowTrajectory : Bool} {planningToken : ℕ}
    (ok : s.requireStateForCommand allowGravity allowTrajectory planningToken = .ok ()) :
    s.progress.activeCommandPlanningToken = 0 ∨ s.progress.activeCommandPlanningToken = planningToken := by
  unfold requireStateForCommand at ok
  split_ifs at ok with closed owned
  exact or_iff_not_imp_left.mpr fun real => by_contra fun other => owned ⟨real, other⟩

theorem active_of_requirePlanning {s : SafetyRuntime} {planningToken : ℕ}
    (ok : s.requirePlanning planningToken = .ok ()) :
    planningToken = 0 ∨ s.progress.activeCommandPlanningToken = planningToken := by
  unfold requirePlanning at ok
  split_ifs at ok with stale
  exact or_iff_not_imp_left.mpr fun real => by_contra fun other => stale ⟨real, other⟩

/-- After a commit no token is active. -/
theorem active_endPlanning {s : SafetyRuntime} {planningToken : ℕ}
    (state : s.progress.activeCommandPlanningToken = 0 ∨ s.progress.activeCommandPlanningToken = planningToken) :
    (endPlanning s.progress planningToken).activeCommandPlanningToken = 0 := by
  unfold endPlanning
  split_ifs with none
  · exact state.elim id fun same => same.trans none
  · rfl

theorem next_endPlanning (progress : Progress) (planningToken : ℕ) :
    (endPlanning progress planningToken).nextCommandPlanningToken = progress.nextCommandPlanningToken := by
  unfold endPlanning
  split_ifs <;> rfl

theorem plans_effect (config : RuntimeConfig) (t : Thread) {site : Site} (i : Input) (s : SafetyRuntime)
    (plans : site.plans = true) : Plans s (effect config t site i s) := by
  cases site with
  | beginPlanning allowTrajectory =>
    simp only [effect, SafetyRuntime.beginPlanning]
    split
    · exact .keeps rfl (.inr rfl) (.same _ _)
    · exact .issues rfl rfl (.same _ _)
  | cancelPlanning token =>
    simp only [effect, SafetyRuntime.cancelPlanning]
    split_ifs
    · exact .keeps rfl (.inl rfl) (.same _ _)
    · exact .keeps rfl (.inr rfl) (.same _ _)
  | initializeEnabled _ _ => exact .keeps rfl (.inl rfl) (.cons (.same _ _) rfl)
  | disableCommit confirmed preserveFault => exact .keeps rfl (.inl rfl) (.ite (.cons (.same _ _) rfl) rfl)
  | stopStart => exact .keeps rfl (.inl rfl) (.same _ _)
  | install mode planningToken client =>
    simp only [effect, SafetyRuntime.install]
    split
    · exact .keeps rfl (.inr rfl) (.same _ _)
    · exact .keeps rfl (.inr rfl) (.same _ _)
    · rename_i token state
      split_ifs
      · exact .keeps rfl (.inr rfl) (.same _ _)
      · exact .keeps rfl (.inr rfl) (.same _ _)
      · exact .keeps rfl (.inr rfl) (.same _ _)
      · exact .keeps rfl (.inr rfl) (.same _ _)
      · exact .commits planningToken client .arm (next_endPlanning _ _)
          (active_endPlanning (active_of_requireState state)) (active_of_requirePlanning token) (.same _ _)
  | trajectoryStart mode enqueue replace planningToken =>
    simp only [effect, SafetyRuntime.startTrajectory]
    split
    · exact .keeps rfl (.inr rfl) (.same _ _)
    · rename_i ok
      simp only [SafetyRuntime.checkTrajectory] at ok
      split at ok
      · cases ok
      · cases ok
      · rename_i token state
        split_ifs
        · exact .commits planningToken true .fifo (next_endPlanning _ _)
            (active_endPlanning (active_of_requireState state)) (active_of_requirePlanning token) (.same _ _)
        · exact .commits planningToken true .arm (next_endPlanning _ _)
            (active_endPlanning (active_of_requireState state)) (active_of_requirePlanning token) (.same _ _)
  | gripperInstall =>
    simp only [effect, SafetyRuntime.installGrippers]
    split
    · exact .keeps rfl (.inr rfl) (.same _ _)
    · rename_i state
      exact .commits 0 true .gripper rfl ((active_of_requireState state).elim id id) (.inl rfl) (.same _ _)
  | rawGripperAccept =>
    simp only [effect, SafetyRuntime.acceptRawGripper]
    split
    · exact .keeps rfl (.inr rfl) (.same _ _)
    · rename_i state
      exact .commits 0 true .gripper rfl ((active_of_requireState state).elim id id) (.inl rfl) (.same _ _)
  | _ => cases plans

theorem plans_after (config : RuntimeConfig) (t : Thread) (site : Site) (i : Input) (s : SafetyRuntime) :
    Plans s (after config t site i s) := by
  by_cases plans : site.plans = true
  · obtain ⟨next, active, log⟩ | ⟨next, active, log⟩ | ⟨token, client, kind, next, active, current, log⟩ :=
      plans_effect config t i s.tick plans
    · exact .keeps next active (log.ite rfl)
    · exact .issues next active (log.ite rfl)
    · exact .commits token client kind next active current (log.ite rfl)
  · obtain ⟨active, next⟩ := tokens_after config t i s (by simpa using plans)
    exact .keeps next (.inr active) (bystands_after config t i s (by simpa using plans))

/-- The active token is the pending one. -/
structure Planning (s : SafetyRuntime) : Prop where
  positive : 0 < s.progress.nextCommandPlanningToken
  fresh : ∀ token, .planned token ∈ s.log → token < s.progress.nextCommandPlanningToken
  active : s.progress.activeCommandPlanningToken ≠ 0 → Pending s.progress.activeCommandPlanningToken s.log
  isolated : Isolated s.log

theorem Planning.keeps {s s' : SafetyRuntime} (planning : Planning s) (plans : Plans s s') : Planning s' := by
  have old {token : ℕ} {log added : List Event} (bystand : ∀ e ∈ added, e.bystands = true)
      (found : .planned token ∈ added ++ log) : .planned token ∈ log :=
    (List.mem_append.mp found).resolve_left fun new => by cases bystand _ new
  obtain ⟨next, active, added, log, bystand⟩ | ⟨next, active, added, log, bystand⟩ |
    ⟨token, client, kind, next, active, current, added, log, bystand⟩ := plans
  · refine ⟨next ▸ planning.positive, fun token found => ?_, fun real => ?_, ?_⟩
    · rw [next]
      exact planning.fresh token (old bystand (log ▸ found))
    · have same := active.resolve_left real
      rw [log, same]
      exact (planning.active (same ▸ real)).append bystand
    · rw [log]
      exact planning.isolated.append bystand
  · have issued : Isolated (.planned s.progress.nextCommandPlanningToken :: s.log) :=
      ⟨planning.fresh, planning.isolated⟩
    refine ⟨next ▸ Nat.succ_pos _, fun token found => ?_, fun _ => ?_, ?_⟩
    · rw [next]
      obtain new | before := List.mem_cons.mp (old bystand (log ▸ found))
      · cases new
        exact Nat.lt_succ_self _
      · exact (planning.fresh token before).trans (Nat.lt_succ_self _)
    · rw [log, active]
      exact (Pending.issued _).append bystand
    · rw [log]
      exact issued.append bystand
  · have committed : Isolated (.accepted client token kind :: s.log) := by
      refine ⟨fun real => ?_, planning.isolated⟩
      have same := current.resolve_left real
      exact same ▸ planning.active (same ▸ real)
    refine ⟨next ▸ planning.positive, fun token found => ?_, fun real => absurd active real, ?_⟩
    · rw [next]
      obtain new | before := List.mem_cons.mp (old bystand (log ▸ found))
      · cases new
      · exact planning.fresh token before
    · rw [log]
      exact committed.append bystand

theorem planning_carried (config : RuntimeConfig) : Carried config anySection fun s _ => Planning s where
  start := ⟨Nat.one_pos, by simp, fun real => absurd rfl real, trivial⟩
  keeps t site i s _ planning _ _ _ := planning.keeps (plans_after config t site i s)

/-- In every run a planned command commits the token that was issued last, with no gripper command, queued
motion or other planned command since, and no token is committed twice. -/
theorem isolated_of_reach (config : RuntimeConfig) {c : Config Thread SafetyRuntime Input Site String}
    (reach : (runtime config).Reach anySection c) : Isolated c.shared.log ∧
      ∀ token, token ≠ 0 → c.shared.log.countP (Event.commits token) ≤ 1 := by
  obtain ⟨φ, planning, -⟩ := (planning_carried config).reach reach
  exact ⟨planning.isolated, fun token real => planning.isolated.once real⟩

/-- A connected robot, and a client that has begun to plan a joint command. -/
def Scenario.planning : List Scenario.Move :=
  Scenario.partlyEnabled ++ .start (.client 0 true (.setJointPlanned .pv)) ::
    Scenario.advance (.client 0) 3 (Scenario.powered 1)

theorem isolated_of_reach_planned :
    ∃ c, (runtime Scenario.config).Reach anySection c ∧ c.shared.log.countP (Event.commits 1) = 1 ∧
      Isolated c.shared.log ∧ ∀ token, token ≠ 0 → c.shared.log.countP (Event.commits token) ≤ 1 := by
  obtain ⟨c, reach, seen⟩ := Machine.exists_reach_of_run (M := runtime Scenario.config)
    (fun _ _ _ _ => true) (fun s => s.log.countP (Event.commits 1))
    (Scenario.planning ++ Scenario.advance (.client 0) 4 (Scenario.powered 1)) (fun _ _ _ _ _ => trivial)
    (b := 1) (by rfl)
  exact ⟨c, reach, seen, isolated_of_reach Scenario.config reach⟩

/-! ## Plans of an earlier session -/

/-- The token has been issued and dropped, after `n` commits. -/
structure Spent (token n : ℕ) (s : SafetyRuntime) : Prop where
  issued : token < s.progress.nextCommandPlanningToken
  dropped : s.progress.activeCommandPlanningToken ≠ token
  count : s.log.countP (Event.commits token) = n

theorem countP_bystands {token : ℕ} {added log : List Event} (real : token ≠ 0)
    (bystand : ∀ e ∈ added, e.bystands = true) :
    (added ++ log).countP (Event.commits token) = log.countP (Event.commits token) := by
  have none : added.countP (Event.commits token) = 0 := by
    rw [List.countP_eq_zero]
    intro e found
    have bystands := bystand e found
    cases e with
    | accepted client committed kind =>
      simp only [Event.bystands, decide_eq_true_eq] at bystands
      simpa [Event.commits, bystands.1] using Ne.symm real
    | _ => simp [Event.commits]
  rw [List.countP_append, none, zero_add]

theorem Spent.keeps {token n : ℕ} {s s' : SafetyRuntime} (spent : Spent token n s) (real : token ≠ 0)
    (plans : Plans s s') : Spent token n s' := by
  obtain ⟨next, active, added, log, bystand⟩ | ⟨next, active, added, log, bystand⟩ |
    ⟨committed, client, kind, next, active, current, added, log, bystand⟩ := plans
  · refine ⟨next ▸ spent.issued, ?_, ?_⟩
    · obtain off | same := active
      · rw [off]
        exact Ne.symm real
      · exact same ▸ spent.dropped
    · rw [log, countP_bystands real bystand, spent.count]
  · refine ⟨next ▸ spent.issued.trans (Nat.lt_succ_self _), active ▸ Ne.symm (ne_of_lt spent.issued), ?_⟩
    rw [log, countP_bystands real bystand, List.countP_cons_of_neg (by simp [Event.commits]),
      spent.count]
  · refine ⟨next ▸ spent.issued, active ▸ Ne.symm real, ?_⟩
    have other : committed ≠ token := by
      rintro rfl
      exact current.elim real spent.dropped
    rw [log, countP_bystands real bystand, List.countP_cons_of_neg (by simp [Event.commits, other]),
      spent.count]

/-- A session ends: `enable` initializes the next one, `disable` commits, or `close` stops the worker. -/
def Site.endsSession : Site → Bool
  | .initializeEnabled _ _ | .disableCommit _ _ | .stopStart => true
  | _ => false

theorem endSession_after (config : RuntimeConfig) (t : Thread) {site : Site} (i : Input) (s : SafetyRuntime)
    (ends : site.endsSession = true) :
    (after config t site i s).progress.activeCommandPlanningToken = 0 ∧
      (after config t site i s).progress.nextCommandPlanningToken = s.progress.nextCommandPlanningToken ∧
      Grows Event.bystands s.log (after config t site i s).log := by
  cases site with
  | initializeEnabled _ _ => exact ⟨rfl, rfl, .ite (.cons (.same _ _) rfl) rfl⟩
  | disableCommit _ _ => exact ⟨rfl, rfl, .ite (.ite (.cons (.same _ _) rfl) rfl) rfl⟩
  | stopStart => exact ⟨rfl, rfl, .ite (.same _ _) rfl⟩
  | _ => cases ends

/-- In every run, a plan that was begun before an `enable`, a `disable` or a `close` took effect is never
committed after it. -/
theorem plans_end {config : RuntimeConfig} {c c₁ c₂ : Config Thread SafetyRuntime Input Site String}
    {t : Thread} {i : Input} {site : Site} (reach : (runtime config).Reach anySection c)
    (moved : (runtime config).next c (.advance t i) = some c₁) (here : c.label t = some site)
    (ends : site.endsSession = true) (leads : (runtime config).Leads anySection c₁ c₂) {token : ℕ}
    (begun : .planned token ∈ c.shared.log) (real : token ≠ 0) :
    c₂.shared.log.countP (Event.commits token) = c.shared.log.countP (Event.commits token) := by
  have permitted : Machine.Permits anySection c (.advance t i : Move Thread Input Op) := fun _ _ => trivial
  obtain ⟨φ, planning, -, -, -, same⟩ := (planning_carried config).section_of_advance reach moved permitted here
  have rests : (runtimeFlow config).rest {} := ⟨rfl, rfl, rfl, rfl, rfl⟩
  have spent : Spent token (c.shared.log.countP (Event.commits token)) c₁.shared := by
    obtain ⟨active, next, added, log, bystand⟩ := endSession_after config t i c.shared ends
    rw [same]
    refine ⟨next ▸ planning.fresh token begun, active ▸ Ne.symm real, ?_⟩
    rw [log, countP_bystands real bystand]
  have stays := (planning_carried config).stays (P := Spent token (c.shared.log.countP (Event.commits token)))
    rests (runtime_follows config)
    (fun t site i s _ _ spent _ _ => spent.keeps real (plans_after config t site i s))
    (reach.next moved permitted) leads spent
  exact stays.count

/-- The robot is disabled while the client plans, and the command is refused. -/
theorem plans_end_disabled :
    ∃ c c₂ : Config Thread SafetyRuntime Input Site String,
      (runtime Scenario.config).Reach anySection c ∧ .planned 1 ∈ c.shared.log ∧
      c₂.slots (.client 0) = none ∧
      c₂.shared.log.countP (Event.commits 1) = c.shared.log.countP (Event.commits 1) := by
  obtain ⟨c, c₁, c₂, reach, moved, leads, seen⟩ := Machine.exists_leads_of_run (M := runtime Scenario.config)
    (fun _ _ _ _ => true)
    (fun c c₂ => (c.label .lifecycle, decide (.planned 1 ∈ c.shared.log), (c₂.slots (.client 0)).isNone))
    (Scenario.planning ++ Scenario.call .disable 10 (Scenario.powered 0)) (.advance .lifecycle (Scenario.powered 0))
    (Scenario.advance (.client 0) 4 (Scenario.powered 1)) (fun _ _ _ _ _ => trivial)
    (b := (some (.disableCommit true false), true, true)) (by rfl)
  simp only [Prod.mk.injEq, decide_eq_true_eq, Option.isNone_iff_eq_none] at seen
  obtain ⟨here, begun, idle⟩ := seen
  exact ⟨c, c₂, reach, begun, idle, plans_end reach moved here rfl leads begun Nat.one_ne_zero⟩

end MotorDrive.Runtime
