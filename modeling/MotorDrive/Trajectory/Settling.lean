import MotorDrive.Trajectory.Restabilize

/-!
# The evidence of a completion

A motion completes where its joints have arrived and have been at rest for a while.  The while is kept as an instant and
as the extremes of the positions since then; `Settled` says what these stand for in the history of a run, and every cycle
keeps it that does not start the window again without the feedback of some joint (`Blinds`).
-/

namespace MotorDrive.Trajectory

variable {K : Type} [Field K] [LinearOrder K]

/-! ## Goals -/

/-- What a motion has to reach in a mode: its joints with their targets, without the disabled motors. -/
structure Aim (K : Type) where
  mode : ControlMode
  disabled : List Motor
  goals : List (TrajectoryJoint K × K)

/-- The joints with their targets at the end of a segment. -/
def goalsOf (joints : List (TrajectoryJoint K)) (segment : Option (Segment K)) : List (TrajectoryJoint K × K) :=
  joints.mapIdx fun index joint => (joint, (segment.map fun segment => (segment.joint index).sample 1).getD 0)

/-- The segment at whose end the motion comes to rest next. -/
def TrajectoryControl.restSegment (trajectory : TrajectoryControl K) : Option (Segment K) :=
  if trajectory.approachComplete = true ∨ trajectory.approachSegmentCount = 0 ∨
      trajectory.estimatedApproach < trajectory.approachDuration then trajectory.segments.getLast?
  else trajectory.segments[trajectory.approachSegmentCount - 1]?

/-- What the active motion has to reach next. -/
def Engine.aim (s : Engine K) : Aim K :=
  ⟨s.mode, s.intentionallyDisabled, goalsOf s.trajectoryControl.joints s.trajectoryControl.restSegment⟩

/-- What the active motion has to reach in the end: its final waypoint. -/
def Engine.finalAim (s : Engine K) : Aim K :=
  ⟨s.mode, s.intentionallyDisabled, goalsOf s.trajectoryControl.joints s.trajectoryControl.segments.getLast?⟩

/-- The position of a joint. -/
def actualPosition (feedback : Motor → MotorFeedback K) (joint : TrajectoryJoint K) : K :=
  joint.direction * (feedback joint.motor).position

/-- The speed of a joint. -/
def actualSpeed (feedback : Motor → MotorFeedback K) (joint : TrajectoryJoint K) : K :=
  |joint.direction * (feedback joint.motor).velocity * joint.velocityFeedbackScale|

section Aim

variable (aim : Aim K) (feedback : Motor → MotorFeedback K)

/-- Every joint that counts has usable feedback, and is where it should be. -/
def Aim.Reached : Prop :=
  ∀ goal ∈ aim.goals, goal.1.motor ∉ aim.disabled →
    (feedback goal.1.motor).usable = true ∧ |actualPosition feedback goal.1 - goal.2| ≤ positionTolerance aim.mode

/-- The positions of the joints that count keep to a relation. -/
def Aim.Within (within : ℕ → K → Prop) : Prop :=
  ∀ (index : ℕ) (goal : TrajectoryJoint K × K), aim.goals[index]? = some goal → goal.1.motor ∉ aim.disabled →
    within index (actualPosition feedback goal.1)

end Aim

/-! ## What a cycle sees -/

/-- What the feedback says about a goal. -/
inductive Viewed (aim : Aim K) (feedback : Motor → MotorFeedback K) (role : TrajectoryJoint K → String)
    (goal : TrajectoryJoint K × K) (view : JointView K) : Prop
  | disabled (off : goal.1.motor ∈ aim.disabled) (marked : view.intentionallyDisabled = true)
      (unread : view.actual = none)
  | missing (counts : goal.1.motor ∉ aim.disabled) (missing : (feedback goal.1.motor).usable = false)
      (unmarked : view.intentionallyDisabled = false) (unread : view.actual = none)
      (away : view.positionArrived = false)
  | read (counts : goal.1.motor ∉ aim.disabled) (usable : (feedback goal.1.motor).usable = true)
      (unmarked : view.intentionallyDisabled = false) (available : view.available = true)
      (actual : view.actual = some (actualPosition feedback goal.1))
      (position : view.positionArrived = decide (|actualPosition feedback goal.1 - goal.2| ≤ positionTolerance aim.mode))
      (velocity : view.velocityArrived = decide (actualSpeed feedback goal.1 ≤ velocityTolerance aim.mode))
      (ready : view.finalPositionReady = (decide (aim.mode = .mit) ||
        decide (|actualPosition feedback goal.1 - goal.2| ≤ finalPositionTolerance (isLoadedJoint4Role (role goal.1)))))

/-- What a cycle has seen is the feedback of the goals. -/
structure Shows (aim : Aim K) (feedback : Motor → MotorFeedback K) (role : TrajectoryJoint K → String)
    (seen : Seen K) : Prop where
  mode : seen.mode = aim.mode
  length : seen.views.length = aim.goals.length
  viewed : ∀ (index : ℕ) (goal : TrajectoryJoint K × K), aim.goals[index]? = some goal → ∃ view, seen.views[index]? = some view ∧
    Viewed aim feedback role goal view

omit [LinearOrder K] in
theorem length_goalsOf (joints : List (TrajectoryJoint K)) (segment : Option (Segment K)) :
    (goalsOf joints segment).length = joints.length := List.length_mapIdx

/-- The observation of a motion shows what the motion has to reach. -/
theorem shows_observation (s : Engine K) (roles : Motor → Option String) (trajectory : TrajectoryControl K)
    (feedback : Motor → MotorFeedback K) (verdict : Bool) :
    Shows ⟨s.mode, s.intentionallyDisabled, goalsOf trajectory.joints trajectory.finalSegment⟩ feedback
      (arrivalRole roles) ((s.observation roles trajectory).see feedback verdict) := by
  refine ⟨rfl, ?_, fun index goal found => ?_⟩
  · simp [Observation.see, Engine.observation, goalsOf]
  · simp only [goalsOf, List.getElem?_mapIdx, Option.map_eq_some_iff] at found
    obtain ⟨joint, at_index, rfl⟩ := found
    have arrives : (s.observation roles trajectory).arrivals[index]? = some ⟨joint, (trajectory.finalSegment.map
        fun segment => (segment.joint index).sample 1).getD 0, joint.motor ∈ s.intentionallyDisabled,
        arrivalRole roles joint⟩ := by
      simp only [Engine.observation, List.getElem?_mapIdx, at_index, Option.map_some]
    have shown := congrArg (Option.map ((s.observation roles trajectory).view feedback index)) arrives
    rw [← List.getElem?_mapIdx] at shown
    refine ⟨_, shown, ?_⟩
    unfold Observation.view
    simp only
    by_cases off : joint.motor ∈ s.intentionallyDisabled
    · rw [if_pos (decide_eq_true off)]
      exact .disabled off rfl rfl
    · rw [if_neg (by simpa using off)]
      cases usable : (feedback joint.motor).usable with
      | false =>
        rw [if_pos Bool.not_false]
        exact .missing off usable rfl rfl rfl
      | true =>
        rw [if_neg (by simp)]
        exact .read off usable rfl rfl rfl rfl rfl rfl

section Shows

variable {aim : Aim K} {feedback : Motor → MotorFeedback K} {role : TrajectoryJoint K → String} {seen : Seen K}
  (shows : Shows aim feedback role seen)

include shows

theorem Shows.reached (arrived : seen.allPositionsArrived = true) : aim.Reached feedback := by
  intro goal member counts
  obtain ⟨index, found⟩ := List.getElem?_of_mem member
  obtain ⟨view, at_index, viewed⟩ := shows.viewed index goal found
  have position := List.all_eq_true.mp arrived view (List.mem_of_getElem? at_index)
  cases viewed with
  | disabled off marked unread => exact absurd off counts
  | missing counts' missing unmarked unread away => exact absurd (away.symm.trans position) nofun
  | read counts' usable unmarked available actual position' velocity ready =>
    exact ⟨usable, of_decide_eq_true (position'.symm.trans position)⟩

/-- Joints that have all arrived stand still. -/
theorem Shows.still (arrived : seen.allArrived = true) :
    ∀ goal ∈ aim.goals, goal.1.motor ∉ aim.disabled → actualSpeed feedback goal.1 ≤ velocityTolerance aim.mode := by
  intro goal member counts
  obtain ⟨index, found⟩ := List.getElem?_of_mem member
  obtain ⟨view, at_index, viewed⟩ := shows.viewed index goal found
  have both := List.all_eq_true.mp arrived view (List.mem_of_getElem? at_index)
  rw [Bool.and_eq_true] at both
  cases viewed with
  | disabled off marked unread => exact absurd off counts
  | missing counts' missing unmarked unread away => exact absurd (away.symm.trans both.1) nofun
  | read counts' usable unmarked available actual position velocity ready =>
    exact of_decide_eq_true (velocity.symm.trans both.2)

/-- A joint with usable feedback has a position. -/
theorem Shows.actual {index : ℕ} {goal : TrajectoryJoint K × K} (found : aim.goals[index]? = some goal)
    (counts : goal.1.motor ∉ aim.disabled) (usable : (feedback goal.1.motor).usable = true) :
    seen.actualPositions[index]? = some (some (actualPosition feedback goal.1)) := by
  obtain ⟨view, at_index, viewed⟩ := shows.viewed index goal found
  rw [Seen.actualPositions, List.getElem?_map, at_index]
  cases viewed with
  | disabled off marked unread => exact absurd off counts
  | missing counts' missing unmarked unread away => exact absurd (missing.symm.trans usable) nofun
  | read counts' usable' unmarked available actual position velocity ready => exact congrArg some actual

/-- The range of a position that counts is not too wide in a window that is stable. -/
theorem Shows.narrow {trajectory : TrajectoryControl K} (stable : trajectory.rangeStable seen = true)
    (mode : aim.mode = .pv) {index : ℕ} {goal : TrajectoryJoint K × K} (found : aim.goals[index]? = some goal)
    (counts : goal.1.motor ∉ aim.disabled) : trajectory.jointUnstable index = false := by
  obtain ⟨view, at_index, viewed⟩ := shows.viewed index goal found
  have unmarked : view.intentionallyDisabled = false := by
    cases viewed with
    | disabled off marked unread => exact absurd off counts
    | missing counts' missing unmarked unread away => exact unmarked
    | read counts' usable unmarked available actual position velocity ready => exact unmarked
  unfold TrajectoryControl.rangeStable at stable
  rw [shows.mode, mode, decide_eq_false nofun, Bool.false_or, Bool.not_eq_true', List.any_eq_false] at stable
  have kept := stable (view, index) (List.mk_mem_zipIdx_iff_getElem?.mpr at_index)
  simp only [unmarked, Bool.not_false, Bool.true_and, Bool.not_eq_true] at kept
  exact kept

/-- A window whose range is too wide is one of a PV motion, and a joint that counts has moved. -/
theorem Shows.wide {trajectory : TrajectoryControl K} (unstable : trajectory.rangeStable seen = false) :
    aim.mode = .pv ∧ ∃ index goal, aim.goals[index]? = some goal ∧ goal.1.motor ∉ aim.disabled ∧
      trajectory.jointUnstable index = true := by
  unfold TrajectoryControl.rangeStable at unstable
  rw [Bool.or_eq_false_iff, decide_eq_false_iff_not, shows.mode, Bool.not_eq_false', List.any_eq_true] at unstable
  obtain ⟨mode, ⟨view, index⟩, member, both⟩ := unstable
  rw [Bool.and_eq_true, Bool.not_eq_true'] at both
  have at_index := List.mk_mem_zipIdx_iff_getElem?.mp member
  have inside : index < aim.goals.length := shows.length ▸ (List.getElem?_eq_some_iff.mp at_index).1
  obtain ⟨view', at_index', viewed⟩ := shows.viewed index _ (List.getElem?_eq_getElem inside)
  obtain rfl : view = view' := Option.some.inj (at_index.symm.trans at_index')
  refine ⟨?_, index, _, List.getElem?_eq_getElem inside, ?_, both.2⟩
  · cases h : aim.mode with
    | pv => rfl
    | mit => exact absurd h mode
  · cases viewed with
    | disabled off marked unread => exact absurd (marked.symm.trans both.1) nofun
    | missing counts missing unmarked unread away => exact counts
    | read counts usable unmarked available actual position velocity ready => exact counts

end Shows

/-! ## The extremes -/

/-- The extremes of an index are positions, and hold a position between them. -/
def TrajectoryControl.Covers (trajectory : TrajectoryControl K) (index : ℕ) (x : K) : Prop :=
  ∃ low high, trajectory.settlingPositionMin[index]? = some (.position low) ∧
    trajectory.settlingPositionMax[index]? = some (.position high) ∧ low ≤ x ∧ x ≤ high

/-- The extremes of the joints that count are no `NaN`s. -/
def TrajectoryControl.Readable (trajectory : TrajectoryControl K) (aim : Aim K) : Prop :=
  ∀ (index : ℕ) (goal : TrajectoryJoint K × K), aim.goals[index]? = some goal → goal.1.motor ∉ aim.disabled →
    ∃ low high, trajectory.settlingPositionMin[index]? = some low ∧
      trajectory.settlingPositionMax[index]? = some high ∧ low ≠ .nan ∧ high ≠ .nan

/-- Two motions have the same window. -/
structure SameWindow (first second : TrajectoryControl K) : Prop where
  since : second.settlingStableStartedAt = first.settlingStableStartedAt
  low : second.settlingPositionMin = first.settlingPositionMin
  high : second.settlingPositionMax = first.settlingPositionMax

section Extremes

variable {trajectory first second : TrajectoryControl K} {aim : Aim K} {index : ℕ} {x : K} {actual : List (Option K)}

omit [Field K] in
theorem SameWindow.covers (same : SameWindow first second) (covers : first.Covers index x) : second.Covers index x := by
  unfold TrajectoryControl.Covers
  rw [same.low, same.high]
  exact covers

omit [Field K] [LinearOrder K] in
theorem SameWindow.readable (same : SameWindow first second) (readable : first.Readable aim) : second.Readable aim := by
  unfold TrajectoryControl.Readable
  rw [same.low, same.high]
  exact readable

omit [Field K] in
theorem lower_position (extreme : Extreme K) (number : extreme ≠ .nan) (x : K) :
    ∃ low, extreme.lower x = .position low ∧ low ≤ x := by
  cases extreme with
  | unset => exact ⟨x, rfl, le_rfl⟩
  | position y => exact ⟨min y x, rfl, min_le_right y x⟩
  | nan => exact absurd rfl number

omit [Field K] in
theorem upper_position (extreme : Extreme K) (number : extreme ≠ .nan) (x : K) :
    ∃ high, extreme.upper x = .position high ∧ x ≤ high := by
  cases extreme with
  | unset => exact ⟨x, rfl, le_rfl⟩
  | position y => exact ⟨max y x, rfl, le_max_right y x⟩
  | nan => exact absurd rfl number

omit [Field K] in
/-- What has been recorded stays covered. -/
theorem TrajectoryControl.Covers.recordPositions (covers : trajectory.Covers index x) (actual : List (Option K)) :
    (trajectory.recordPositions actual).Covers index x := by
  obtain ⟨low, high, at_low, at_high, above, below⟩ := covers
  unfold TrajectoryControl.Covers TrajectoryControl.recordPositions
  simp only [List.getElem?_mapIdx, at_low, at_high, Option.map_some]
  cases (actual[index]?).join with
  | none => exact ⟨low, high, rfl, rfl, above, below⟩
  | some y => exact ⟨min low y, max high y, rfl, rfl, (min_le_left _ _).trans above, below.trans (le_max_left _ _)⟩

omit [Field K] in
theorem TrajectoryControl.Readable.recordPositions (readable : trajectory.Readable aim) (actual : List (Option K)) :
    (trajectory.recordPositions actual).Readable aim := by
  intro index goal found counts
  obtain ⟨low, high, at_low, at_high, number, number'⟩ := readable index goal found counts
  unfold TrajectoryControl.recordPositions
  simp only [List.getElem?_mapIdx, at_low, at_high, Option.map_some]
  cases (actual[index]?).join with
  | none => exact ⟨low, high, rfl, rfl, number, number'⟩
  | some y =>
    obtain ⟨low', eq, -⟩ := lower_position low number y
    obtain ⟨high', eq', -⟩ := upper_position high number' y
    exact ⟨_, _, rfl, rfl, fun same => absurd (eq.symm.trans same) nofun, fun same => absurd (eq'.symm.trans same) nofun⟩

omit [Field K] in
/-- A recorded position is covered. -/
theorem covers_recordPositions {low high : Extreme K} (at_low : trajectory.settlingPositionMin[index]? = some low)
    (at_high : trajectory.settlingPositionMax[index]? = some high) (number : low ≠ .nan) (number' : high ≠ .nan)
    (recorded : actual[index]? = some (some x)) : (trajectory.recordPositions actual).Covers index x := by
  obtain ⟨low', eq, above⟩ := lower_position low number x
  obtain ⟨high', eq', below⟩ := upper_position high number' x
  refine ⟨low', high', ?_, ?_, above, below⟩
  · simp only [TrajectoryControl.recordPositions, List.getElem?_mapIdx, at_low, recorded, Option.map_some,
      Option.join_some, Option.elim_some, eq]
  · simp only [TrajectoryControl.recordPositions, List.getElem?_mapIdx, at_high, recorded, Option.map_some,
      Option.join_some, Option.elim_some, eq']

omit [Field K] in
/-- A window that starts from positions covers them. -/
theorem covers_restartPositions (recorded : actual[index]? = some (some x)) :
    (trajectory.restartPositions actual).Covers index x := by
  refine ⟨x, x, ?_, ?_, le_rfl, le_rfl⟩ <;>
    simp only [TrajectoryControl.restartPositions, List.getElem?_map, recorded, Option.map_some, Extreme.ofActual]

omit [Field K] [LinearOrder K] in
theorem readable_resetPositions (trajectory : TrajectoryControl K) {count : ℕ} (enough : count = aim.goals.length) :
    (trajectory.resetPositions count).Readable aim := by
  intro index goal found counts
  have inside : index < count := enough ▸ (List.getElem?_eq_some_iff.mp found).1
  refine ⟨.unset, .unset, ?_, ?_, nofun, nofun⟩ <;>
    exact (List.getElem?_replicate).trans (if_pos inside)

/-- Positions between the extremes of a stable window lie close together. -/
theorem jointUnstable_eq_false (stable : trajectory.jointUnstable index = false) {low high : K}
    (at_low : trajectory.settlingPositionMin[index]? = some (.position low))
    (at_high : trajectory.settlingPositionMax[index]? = some (.position high)) :
    high - low ≤ pvStablePositionRange := by
  unfold TrajectoryControl.jointUnstable at stable
  rw [at_low, at_high] at stable
  exact not_lt.mp (of_decide_eq_false stable)

end Extremes

/-! ## Windows -/

/-- The update of an entry has seen the feedback of its cycle. -/
def Sees (e : Entry K) (input : CycleInput K) (seen : Seen K) : Prop :=
  e.call = .cycle input ∧ ∃ outcome, e.answer = .cycled outcome (some seen)

/-- An entry opens a window at an instant: its positions keep to the window, and new feedback has reached the aim. -/
def Aim.Opens (aim : Aim K) (within : ℕ → K → Prop) (since : K) (e : Entry K) : Prop :=
  ∃ input seen, Sees e input seen ∧ input.now = since ∧ aim.Within input.feedback within ∧
    (seen.anyFeedbackNew = true → aim.Reached input.feedback)

/-- New feedback of an entry has reached the aim, and its positions keep to the window. -/
def Aim.Confirms (aim : Aim K) (within : ℕ → K → Prop) (e : Entry K) : Prop :=
  ∀ input seen, Sees e input seen → seen.anyFeedbackNew = true →
    aim.Reached input.feedback ∧ aim.Within input.feedback within

/-- The window that a motion keeps stands for a window of the history. -/
structure Settled (aim : Aim K) (h : List (Entry K)) (trajectory : TrajectoryControl K) : Prop where
  readable : trajectory.Readable aim
  window : ∀ since, trajectory.settlingStableStartedAt = some since →
    History.Since (aim.Opens trajectory.Covers since) (aim.Confirms trajectory.Covers) h

section Windows

variable {aim : Aim K} {h : List (Entry K)} {e : Entry K} {trajectory : TrajectoryControl K} {input : CycleInput K}
  {seen : Seen K} {role : TrajectoryJoint K → String} {within within' : ℕ → K → Prop}

omit [Field K] [LinearOrder K] in
theorem Sees.unique {input' : CycleInput K} {seen' : Seen K} (sees : Sees e input seen) (sees' : Sees e input' seen') :
    input' = input ∧ seen' = seen := by
  obtain ⟨called, outcome, answered⟩ := sees
  obtain ⟨called', outcome', answered'⟩ := sees'
  obtain ⟨-, same⟩ := Reply.cycled.inj (answered'.symm.trans answered)
  exact ⟨Event.cycle.inj (called'.symm.trans called), Option.some.inj same⟩

omit [LinearOrder K] in
theorem Aim.Within.mono {feedback : Motor → MotorFeedback K} (keeps : aim.Within feedback within)
    (wider : ∀ index x, within index x → within' index x) : aim.Within feedback within' :=
  fun index goal found counts => wider index _ (keeps index goal found counts)

theorem Aim.Opens.mono {since : K} (opens : aim.Opens within since e)
    (wider : ∀ index x, within index x → within' index x) : aim.Opens within' since e := by
  obtain ⟨input, seen, sees, now, keeps, reached⟩ := opens
  exact ⟨input, seen, sees, now, keeps.mono wider, reached⟩

theorem Aim.Confirms.mono (confirms : aim.Confirms within e)
    (wider : ∀ index x, within index x → within' index x) : aim.Confirms within' e := by
  intro input seen sees fresh
  obtain ⟨reached, keeps⟩ := confirms input seen sees fresh
  exact ⟨reached, keeps.mono wider⟩

theorem Settled.same {second : TrajectoryControl K} (settled : Settled aim h trajectory)
    (same : SameWindow trajectory second) : Settled aim h second := by
  refine ⟨same.readable settled.readable, fun since opened => ?_⟩
  have wider (index : ℕ) (x : K) : trajectory.Covers index x → second.Covers index x := same.covers
  exact (settled.window since (same.since.symm.trans opened)).mono (fun a opens => opens.mono wider)
    fun a confirms => confirms.mono wider

/-- An entry that sees nothing new keeps the window. -/
theorem Settled.unseen (settled : Settled aim h trajectory)
    (unseen : ∀ input seen, Sees e input seen → seen.anyFeedbackNew = false) : Settled aim (h ++ [e]) trajectory := by
  refine ⟨settled.readable, fun since opened => (settled.window since opened).concat fun input seen sees fresh => ?_⟩
  exact absurd ((unseen input seen sees).symm.trans fresh) nofun

omit [Field K] in
/-- What opens a window starts it now, or leaves it as it was. -/
theorem openWindow_cases (readable : trajectory.Readable aim) (length : seen.views.length = aim.goals.length) (now : K) :
    ((trajectory.openWindow seen now).settlingStableStartedAt = some now ∧
        (trajectory.openWindow seen now).Readable aim) ∨
      SameWindow trajectory (trajectory.openWindow seen now) := by
  unfold TrajectoryControl.openWindow
  split_ifs with deadline closed inactive
  · exact .inl ⟨rfl, readable_resetPositions trajectory length⟩
  · exact .inr ⟨rfl, rfl, rfl⟩
  · exact .inl ⟨rfl, readable_resetPositions trajectory length⟩
  · cases opened : trajectory.settlingStableStartedAt with
    | none => exact .inl ⟨rfl, readable⟩
    | some since => exact .inr ⟨opened.symm, rfl, rfl⟩

omit [Field K] in
/-- A cycle that has seen nothing new leaves the window as it was. -/
theorem updateWindow_unseen (unseen : seen.anyFeedbackNew = false) (now : K) :
    trajectory.updateWindow seen now = trajectory := by
  have stale : trajectory.freshFinalFeedback seen = false := by
    rw [TrajectoryControl.freshFinalFeedback, unseen, Bool.and_false, Bool.false_and]
  rw [TrajectoryControl.updateWindow, stale, unseen, Bool.false_and, if_neg Bool.false_ne_true,
    if_neg Bool.false_ne_true]

/-- The window of a motion stands for a window of the history after another cycle. -/
theorem Settled.updateWindow (settled : Settled aim h trajectory) (shows : Shows aim input.feedback role seen)
    (sees : Sees e input seen) : Settled aim (h ++ [e]) (trajectory.updateWindow seen input.now) := by
  cases fresh : seen.anyFeedbackNew with
  | false =>
    rw [updateWindow_unseen fresh]
    exact settled.unseen fun input' seen' sees' => (sees.unique sees').2 ▸ fresh
  | true =>
    unfold TrajectoryControl.updateWindow
    split_ifs with final leaves
    · have arrived : seen.allPositionsArrived = true := by
        simp only [TrajectoryControl.freshFinalFeedback, Bool.and_eq_true] at final
        exact final.1.1
      have reached := shows.reached arrived
      have cases := openWindow_cases settled.readable shows.length input.now
      set opened := trajectory.openWindow seen input.now with opened_eq
      have readable : opened.Readable aim := cases.elim And.right fun same => same.readable settled.readable
      have keeps : aim.Within input.feedback (opened.recordPositions seen.actualPositions).Covers := by
        intro index goal found counts
        obtain ⟨low, high, at_low, at_high, number, number'⟩ := readable index goal found counts
        have usable := (reached goal (List.mem_of_getElem? found) counts).1
        exact covers_recordPositions at_low at_high number number' (shows.actual found counts usable)
      refine ⟨readable.recordPositions _, fun since started => ?_⟩
      change opened.settlingStableStartedAt = some since at started
      change History.Since (aim.Opens (opened.recordPositions seen.actualPositions).Covers since)
        (aim.Confirms (opened.recordPositions seen.actualPositions).Covers) (h ++ [e])
      rcases cases with ⟨now, -⟩ | same
      · obtain rfl : input.now = since := Option.some.inj (now.symm.trans started)
        exact History.since_concat ⟨input, seen, sees, rfl, keeps, fun _ => reached⟩
      · have wider (index : ℕ) (x : K) (covers : opened.Covers index x) :
            (opened.recordPositions seen.actualPositions).Covers index x := covers.recordPositions _
        refine History.Since.concat (((settled.same same).window since started).mono (fun a opens => opens.mono wider)
          fun a confirms => confirms.mono wider) fun input' seen' sees' _ => ?_
        obtain ⟨rfl, rfl⟩ := sees.unique sees'
        exact ⟨reached, keeps⟩
    · exact ⟨readable_resetPositions trajectory shows.length, nofun⟩
    · rw [fresh, Bool.true_and, Bool.not_eq_true', Bool.not_eq_false, Bool.and_eq_true] at leaves
      refine absurd ?_ final
      simp [TrajectoryControl.freshFinalFeedback, fresh, leaves]

/-- A window that starts again stands for a window of one entry, if the joints that count have usable feedback. -/
theorem Settled.restartWindow (settled : Settled aim (h ++ [e]) trajectory)
    (shows : Shows aim input.feedback role seen) (sees : Sees e input seen)
    (sighted : trajectory.stableDurationMet input.now = true → trajectory.rangeStable seen = false →
      ∀ goal ∈ aim.goals, goal.1.motor ∉ aim.disabled → (input.feedback goal.1.motor).usable = true) :
    Settled aim (h ++ [e]) (trajectory.restartWindow seen input.now) := by
  unfold TrajectoryControl.restartWindow
  split_ifs with restarts
  · rw [Bool.and_eq_true, Bool.not_eq_true'] at restarts
    obtain ⟨due, wide⟩ := restarts
    have usable := sighted due wide
    have keeps : aim.Within input.feedback (trajectory.restartPositions seen.actualPositions).Covers :=
      fun index goal found counts => covers_restartPositions
        (shows.actual found counts (usable goal (List.mem_of_getElem? found) counts))
    refine ⟨fun index goal found counts => ?_, fun since started => ?_⟩
    · obtain ⟨low, high, at_low, at_high, -, -⟩ := keeps index goal found counts
      exact ⟨_, _, at_low, at_high, nofun, nofun⟩
    · obtain rfl : input.now = since := Option.some.inj started
      refine History.since_concat ⟨input, seen, sees, rfl, keeps, fun fresh => ?_⟩
      obtain ⟨opened, at_opened, -⟩ := (Option.any_eq_true _ _).mp due
      rcases (settled.window opened at_opened).last with opens | confirms
      · obtain ⟨input', seen', sees', -, -, reached⟩ := opens
        obtain ⟨rfl, rfl⟩ := sees.unique sees'
        exact reached fresh
      · exact (confirms input seen sees fresh).1
  · exact settled

end Windows

/-! ## Cycles -/

/-- The window of the active motion is to start again in a cycle without new feedback and without usable feedback of a
joint that counts. -/
structure Blinds (s : Engine K) (input : CycleInput K) : Prop where
  running : s.trajectoryControl.state = .running
  mode : s.mode = .pv
  due : s.trajectoryControl.stableDurationMet input.now = true
  wide : ∃ index joint, s.trajectoryControl.joints[index]? = some joint ∧ joint.motor ∉ s.intentionallyDisabled ∧
    s.trajectoryControl.jointUnstable index = true
  initialized : s.trajectoryControl.settlingFeedbackInitialized = true
  stale : ∀ (index : ℕ) (joint : TrajectoryJoint K) (previous : ℕ), s.trajectoryControl.joints[index]? = some joint →
    joint.motor ∉ s.intentionallyDisabled → (input.feedback joint.motor).usable = true →
    s.trajectoryControl.settlingFeedbackUpdates[index]? = some previous →
    (input.feedback joint.motor).updateCount = previous
  missing : ∃ joint ∈ s.trajectoryControl.joints, joint.motor ∉ s.intentionallyDisabled ∧
    (input.feedback joint.motor).usable = false

section Cycle

variable {s : Engine K} {trajectory second : TrajectoryControl K} {now : K}

theorem restSegment_eq (same : SamePlan trajectory second)
    (approach : second.approachComplete = trajectory.approachComplete) :
    second.restSegment = trajectory.restSegment := by
  unfold TrajectoryControl.restSegment
  rw [approach, same.approachSegmentCount, same.estimatedApproach, same.approachDuration, same.segments]

/-- At an end of its reference a motion waits for the segment at whose end it comes to rest. -/
theorem finalSegment_eq (scheduled : Scheduled trajectory) (running : trajectory.state ≠ .completed)
    (atEnd : AtEnd trajectory now) : trajectory.finalSegment = trajectory.restSegment := by
  have waiting := waitingAtApproach_iff scheduled running atEnd
  unfold TrajectoryControl.finalSegment TrajectoryControl.restSegment
  by_cases final : trajectory.approachComplete = true ∨ trajectory.approachSegmentCount = 0 ∨
      trajectory.estimatedApproach < trajectory.approachDuration
  · rw [if_pos final, waiting.mpr final, if_neg Bool.false_ne_true]
  · rw [if_neg final, if_pos (Bool.of_not_eq_false fun open' => final (waiting.mp open'))]

theorem aim_eq (same : SameMotion s.trajectoryControl trajectory) :
    ({ s with trajectoryControl := trajectory } : Engine K).aim = s.aim := by
  unfold Engine.aim
  simp only [same.joints, restSegment_eq same.toSamePlan same.approachComplete]

/-- The update of a running motion sees the feedback of what the motion has to reach. -/
theorem shows_seen (roles : Motor → Option String) {input : CycleInput K} (scheduled : Scheduled s.trajectoryControl)
    (running : s.trajectoryControl.state = .running) (atEnd : AtEnd s.trajectoryControl input.now) :
    Shows s.aim input.feedback (arrivalRole roles) (s.seen roles input) := by
  have same := sameMotion_beginSettling s.trajectoryControl input.now
  have final : (s.trajectoryControl.beginSettling input.now).finalSegment = s.trajectoryControl.restSegment := by
    rw [← finalSegment_eq scheduled (running ▸ nofun) atEnd]
    unfold TrajectoryControl.finalSegment
    rw [waitingAtApproach_beginSettling, same.segments, same.approachSegmentCount]
  have shows := shows_observation s roles (s.trajectoryControl.beginSettling input.now) input.feedback input.verdict
  rw [final, same.joints] at shows
  exact shows

/-- Settling begins with a window that is not open. -/
theorem Settled.beginSettling {aim : Aim K} {h : List (Entry K)}
    (settled : trajectory.settlingStartedAt ≠ none → Settled aim h trajectory) (running : trajectory.state = .running)
    (length : trajectory.joints.length = aim.goals.length) (now : K) : Settled aim h (trajectory.beginSettling now) := by
  unfold TrajectoryControl.beginSettling
  split_ifs with begins
  · refine ⟨fun index goal found counts => ⟨.unset, .unset, ?_, ?_, nofun, nofun⟩, nofun⟩ <;>
    · have inside : index < trajectory.joints.length := length ▸ (List.getElem?_eq_some_iff.mp found).1
      simp only [List.getElem?_map, List.getElem?_eq_getElem inside, Option.map_some]
  · exact settled fun none => begins ⟨running ▸ nofun, none⟩

omit [Field K] [LinearOrder K] in
theorem sameWindow_placed (s : Engine K) (seen : Seen K) :
    SameWindow s.trajectoryControl ((s.placed seen).rememberUpdates seen) := by
  unfold TrajectoryControl.rememberUpdates
  split_ifs <;> exact ⟨rfl, rfl, rfl⟩

/-- Where no feedback is new, the usable feedback is that of the last update. -/
theorem stale_of_unseen (roles : Motor → Option String) {feedback : Motor → MotorFeedback K} {verdict : Bool}
    (unseen : ((s.observation roles trajectory).see feedback verdict).anyFeedbackNew = false) :
    trajectory.settlingFeedbackInitialized = true ∧ ∀ (index : ℕ) (joint : TrajectoryJoint K) (previous : ℕ),
      trajectory.joints[index]? = some joint → joint.motor ∉ s.intentionallyDisabled →
      (feedback joint.motor).usable = true → trajectory.settlingFeedbackUpdates[index]? = some previous →
      (feedback joint.motor).updateCount = previous := by
  unfold Seen.anyFeedbackNew at unseen
  rw [Bool.or_eq_false_iff, Bool.not_eq_false'] at unseen
  obtain ⟨initialized, unseen⟩ := unseen
  change trajectory.settlingFeedbackInitialized = true at initialized
  refine ⟨initialized, fun index joint previous found counts usable remembered => ?_⟩
  obtain ⟨inside, rfl⟩ := List.getElem?_eq_some_iff.mp found
  by_contra other
  refine List.any_eq_false.mp unseen _ (List.mem_mapIdx.mpr ⟨index, ?_, rfl⟩) ?_
  · simpa [Engine.observation] using inside
  · simp [Observation.view, Engine.observation, counts, usable, initialized, remembered, other]

theorem Blinds.of_tracked {input : CycleInput K} (tracked : Tracked s.trajectoryControl trajectory)
    (blinds : Blinds ({ s with trajectoryControl := trajectory } : Engine K) input) : Blinds s input := by
  have unstable (index : ℕ) : trajectory.jointUnstable index = s.trajectoryControl.jointUnstable index := by
    unfold TrajectoryControl.jointUnstable
    rw [tracked.settlingPositionMin, tracked.settlingPositionMax]
  obtain ⟨running, mode, due, wide, initialized, stale, missing⟩ := blinds
  dsimp only at running due wide initialized stale missing
  rw [tracked.joints] at wide stale missing
  rw [tracked.settlingFeedbackUpdates] at stale
  simp only [unstable] at wide
  refine ⟨tracked.state.symm.trans running, mode, ?_, wide, tracked.settlingFeedbackInitialized.symm.trans initialized,
    stale, missing⟩
  rw [TrajectoryControl.stableDurationMet, ← tracked.settlingStableStartedAt]
  exact due

/-! ### The update of a running motion -/

variable (roles : Motor → Option String) {input : CycleInput K} {h : List (Entry K)} {e : Entry K}

/-- The window after the feedback of a cycle stands for a window of the history. -/
theorem settled_window (scheduled : Scheduled s.trajectoryControl) (running : s.trajectoryControl.state = .running)
    (atEnd : AtEnd s.trajectoryControl input.now)
    (settled : s.trajectoryControl.settlingStartedAt ≠ none → Settled s.aim h s.trajectoryControl)
    (sees : Sees e input (s.seen roles input)) :
    Settled s.aim (h ++ [e]) ((s.begun input.now).window (s.seen roles input) input.now) := by
  have begun := Settled.beginSettling settled running (length_goalsOf _ _).symm input.now
  exact (begun.same (sameWindow_placed (s.begun input.now) (s.seen roles input))).updateWindow
    (shows_seen roles scheduled running atEnd) sees

/-- A window that is to start again has the feedback of all joints that count. -/
theorem usable_of_restart (scheduled : Scheduled s.trajectoryControl)
    (running : s.trajectoryControl.state = .running) (atEnd : AtEnd s.trajectoryControl input.now)
    (settled : Settled s.aim (h ++ [e]) ((s.begun input.now).window (s.seen roles input) input.now))
    (sees : Sees e input (s.seen roles input)) (sighted : ¬ Blinds s input)
    (due : ((s.begun input.now).window (s.seen roles input) input.now).stableDurationMet input.now = true)
    (wide : ((s.begun input.now).window (s.seen roles input) input.now).rangeStable (s.seen roles input) = false) :
    ∀ goal ∈ s.aim.goals, goal.1.motor ∉ s.aim.disabled → (input.feedback goal.1.motor).usable = true := by
  cases fresh : (s.seen roles input).anyFeedbackNew with
  | true =>
    obtain ⟨since, opened, -⟩ := (Option.any_eq_true _ _).mp due
    have reached : s.aim.Reached input.feedback := by
      rcases (settled.window since opened).last with opens | confirms
      · obtain ⟨input', seen', sees', -, -, reached⟩ := opens
        obtain ⟨rfl, rfl⟩ := sees.unique sees'
        exact reached fresh
      · exact (confirms input _ sees fresh).1
    exact fun goal member counts => (reached goal member counts).1
  | false =>
    have kept : (s.begun input.now).window (s.seen roles input) input.now =
        (s.begun input.now).placed (s.seen roles input) := by
      unfold Engine.window
      rw [updateWindow_unseen fresh, TrajectoryControl.rememberUpdates, fresh, if_neg Bool.false_ne_true]
    have begun : s.trajectoryControl.beginSettling input.now = s.trajectoryControl := by
      unfold TrajectoryControl.beginSettling
      refine if_neg fun begins => ?_
      rw [kept] at due
      change (s.trajectoryControl.beginSettling input.now).stableDurationMet input.now = true at due
      rw [TrajectoryControl.beginSettling, if_pos begins] at due
      exact absurd due nofun
    rw [kept] at due wide
    have shows := shows_seen roles scheduled running atEnd
    obtain ⟨mode, index, goal, found, counts, unstable⟩ := shows.wide wide
    have same : (s.begun input.now).trajectoryControl = s.trajectoryControl := begun
    intro missed member counted
    by_contra missing
    have unseen := fresh
    rw [Engine.seen, begun] at unseen
    obtain ⟨initialized, stale⟩ := stale_of_unseen roles unseen
    have joint {index : ℕ} {goal : TrajectoryJoint K × K} (found : s.aim.goals[index]? = some goal) :
        s.trajectoryControl.joints[index]? = some goal.1 := by
      simp only [Engine.aim, goalsOf, List.getElem?_mapIdx, Option.map_eq_some_iff] at found
      obtain ⟨joint, at_index, rfl⟩ := found
      exact at_index
    refine sighted ⟨running, mode, ?_, ⟨index, goal.1, joint found, counts, ?_⟩, initialized, stale, missed.1, ?_,
      counted, Bool.eq_false_iff.mpr missing⟩
    · rw [← same]
      exact due
    · rw [← same]
      exact unstable
    · obtain ⟨index', found'⟩ := List.getElem?_of_mem member
      exact List.mem_of_getElem? (joint found')

/-- The window that a cycle leaves stands for a window of the history. -/
theorem settled_settled (scheduled : Scheduled s.trajectoryControl) (running : s.trajectoryControl.state = .running)
    (atEnd : AtEnd s.trajectoryControl input.now)
    (settled : s.trajectoryControl.settlingStartedAt ≠ none → Settled s.aim h s.trajectoryControl)
    (sees : Sees e input (s.seen roles input)) (sighted : ¬ Blinds s input)
    (active : (s.seen roles input).hasActiveJoint = true) :
    Settled s.aim (h ++ [e]) ((s.begun input.now).settled (s.seen roles input) input.now) := by
  have window := settled_window roles scheduled running atEnd settled sees
  rw [Engine.settled, if_pos active]
  exact window.restartWindow (shows_seen roles scheduled running atEnd) sees
    (usable_of_restart roles scheduled running atEnd window sees sighted)

end Cycle

/-! ## Runs -/

/-- The window of a running motion that has begun to settle stands for a window of the history. -/
def Attested (h : List (Entry K)) (s : Engine K) : Prop :=
  s.trajectoryControl.state = .running → s.trajectoryControl.settlingStartedAt ≠ none →
    Settled s.aim h s.trajectoryControl

section Attest

variable {s : Engine K} {h : List (Entry K)} {e : Entry K}

/-- A change beside the active motion that sees no feedback. -/
theorem Attested.frame {s' : Engine K} (attested : Attested h s) (unseen : ∀ input seen, ¬ Sees e input seen)
    (control : s'.trajectoryControl = s.trajectoryControl) (mode : s'.mode = s.mode)
    (disabled : s'.intentionallyDisabled = s.intentionallyDisabled) : Attested (h ++ [e]) s' := by
  have aim : s'.aim = s.aim := by
    unfold Engine.aim
    rw [control, mode, disabled]
  intro running begun
  rw [aim, control]
  rw [control] at running begun
  exact (attested running begun).unseen fun input seen sees => absurd sees (unseen input seen)

/-- A motion that goes on with its window as it was. -/
theorem Attested.tracked {trajectory : TrajectoryControl K} (attested : Attested h s)
    (tracked : Tracked s.trajectoryControl trajectory) :
    Attested h ({ s with trajectoryControl := trajectory } : Engine K) := by
  intro running begun
  rw [aim_eq tracked.toSameMotion]
  have before : s.trajectoryControl.settlingStartedAt ≠ none := fun none => begun (tracked.settlingStartedAt.trans none)
  exact (attested (tracked.state.symm.trans running) before).same
    ⟨tracked.settlingStableStartedAt, tracked.settlingPositionMin, tracked.settlingPositionMax⟩

theorem attested_terminate (h : List (Entry K)) (s : Engine K) (ending : Ending) (error : String) :
    Attested h (s.terminate ending error) := by
  intro running
  rw [terminate_trajectoryControl, TrajectoryControl.terminate] at running
  split_ifs at running with monitored
  · cases ending <;> cases running
  · exact absurd (.inl running) monitored

/-- A motion that becomes active has not begun to settle. -/
theorem attested_activate (h : List (Entry K)) (s : Engine K) (trajectory : TrajectoryControl K) (now : K) :
    Attested h (s.activate trajectory now) := fun _ begun => absurd rfl begun

theorem attested_activateNext (h : List (Entry K)) (completed : s.trajectoryControl.state = .completed) (now : K) :
    Attested h (s.activateNext now) := by
  unfold Engine.activateNext
  cases s.trajectoryQueue with
  | nil => exact fun running => absurd (running.symm.trans completed) nofun
  | cons next rest => exact attested_activate h _ next now

/-- The watch over a hold leaves a running motion with a window that is not open. -/
theorem settled_watchHold {aim : Aim K} {trajectory : TrajectoryControl K} {seen : Seen K} {now : K}
    (completed : trajectory.state = .completed) (length : seen.views.length = aim.goals.length)
    (running : (trajectory.watchHold seen now).2.state = .running) :
    Settled aim h (trajectory.watchHold seen now).2 := by
  have readable := readable_resetPositions trajectory length
  unfold TrajectoryControl.watchHold at running ⊢
  simp only at running ⊢
  split_ifs at running ⊢
  · exact absurd (running.symm.trans completed) nofun
  · exact absurd (running.symm.trans completed) nofun
  · split at running
    · exact absurd (running.symm.trans completed) nofun
    · split_ifs at running ⊢
      · exact absurd (running.symm.trans completed) nofun
      · exact ⟨readable, nofun⟩

variable [IsStrictOrderedRing K] (roles : Motor → Option String) {input : CycleInput K}

omit [IsStrictOrderedRing K] in
/-- The update of a completed motion opens no window. -/
theorem attested_held (completed : s.trajectoryControl.state = .completed) :
    Attested h (s.updateCompletion roles input).2 := by
  have begun := beginSettling_completed completed input.now
  have done := updates roles s input
  generalize s.updateCompletion roles input = result at done
  cases done with
  | unmonitored => exact fun running => absurd (running.symm.trans completed) nofun
  | handoff next rest queue running handsOff => exact absurd (running.symm.trans completed) nofun
  | interrupted ending => exact attested_terminate h _ ending _
  | settled =>
    have state : (s.begun input.now).trajectoryControl.state = .completed := by
      unfold Engine.begun
      rw [begun]
      exact completed
    have shows := shows_observation s roles (s.trajectoryControl.beginSettling input.now) input.feedback input.verdict
    have length : (s.seen roles input).views.length = (s.begun input.now).trajectoryControl.joints.length :=
      shows.length.trans (length_goalsOf _ _)
    have settled := settles (s.begun input.now) (s.seen roles input) input.now
    generalize (s.begun input.now).settle (s.seen roles input) input.now = result at settled
    cases settled with
    | changed other => exact fun running => absurd (running.symm.trans state) nofun
    | watched hold completed' same =>
      intro running started
      have joints := (watchHold_cases ((s.begun input.now).placed (s.seen roles input)) input.now
        (s.seen roles input)).1.joints
      change Settled _ h (((s.begun input.now).placed (s.seen roles input)).watchHold (s.seen roles input) input.now).2
      change (((s.begun input.now).placed (s.seen roles input)).watchHold (s.seen roles input) input.now).2.state =
        .running at running
      refine settled_watchHold state (length.trans ?_) running
      exact (congrArg List.length joints.symm).trans (length_goalsOf _ _).symm
    | approached hold running same arrives approach => exact absurd (running.symm.trans state) nofun
    | completed hold running same arrives final => exact absurd (running.symm.trans state) nofun
    | timedOut hold running same waits late => exact absurd (running.symm.trans state) nofun
    | waits hold running same waits inTime => exact absurd (running.symm.trans state) nofun

omit [IsStrictOrderedRing K] in
/-- The update of a running motion keeps its window. -/
theorem attested_ending (scheduled : Scheduled s.trajectoryControl) (running : s.trajectoryControl.state = .running)
    (atEnd : AtEnd s.trajectoryControl input.now) (attested : Attested h s)
    (sighted : ∀ seen, Sees e input seen → ¬ Blinds s input) (called : e.call = .cycle input)
    (answered : e.answer = .cycled (s.updateCompletion roles input).1.1 (s.updateCompletion roles input).1.2) :
    Attested (h ++ [e]) (s.updateCompletion roles input).2 := by
  have begins := sameMotion_beginSettling s.trajectoryControl input.now
  have state : (s.begun input.now).trajectoryControl.state = .running := begins.state.trans running
  have done := updates roles s input
  generalize s.updateCompletion roles input = result at done answered
  cases done with
  | unmonitored =>
    refine attested.frame (fun input seen sees => ?_) rfl rfl rfl
    obtain ⟨-, outcome, seen'⟩ := sees
    exact absurd (Reply.cycled.inj (answered.symm.trans seen')).2 nofun
  | handoff next rest queue running' handsOff => exact attested_activateNext _ rfl _
  | interrupted ending => exact attested_terminate _ _ ending _
  | settled =>
    have sees : Sees e input (s.seen roles input) := ⟨called, _, answered⟩
    have settled := settles (s.begun input.now) (s.seen roles input) input.now
    generalize (s.begun input.now).settle (s.seen roles input) input.now = result at settled
    cases settled with
    | changed other =>
      have watched : (s.seen roles input).monitoringCompletedHold = false :=
        decide_eq_false (fun completed => absurd (state.symm.trans completed) nofun)
      rw [watched, if_neg Bool.false_ne_true] at other
      exact absurd other (not_or.mpr ⟨not_not.mpr state, not_not.mpr rfl⟩)
    | watched hold completed same => exact absurd (state.symm.trans completed) nofun
    | approached hold running' same arrives approach => exact fun _ begun => absurd rfl begun
    | completed hold running' same arrives final => exact attested_activateNext _ rfl _
    | timedOut hold running' same waits late => exact attested_terminate _ _ .fault _
    | waits hold running' same waits inTime =>
      have active : (s.seen roles input).hasActiveJoint = true := by
        by_contra inactive
        rw [Engine.arrives, if_neg inactive] at waits
        cases waits
      have motion := begins.trans (sameMotion_settled (s.begun input.now) (s.seen roles input) input.now)
      intro _ _
      change Settled ({ s with trajectoryControl := (s.begun input.now).settled (s.seen roles input) input.now } :
        Engine K).aim (h ++ [e]) ((s.begun input.now).settled (s.seen roles input) input.now)
      rw [aim_eq motion]
      exact settled_settled roles scheduled running atEnd (attested running) sees (sighted _ sees) active

/-- A cycle keeps the window of the active motion. -/
theorem attested_cycle (orderly : s.Orderly) (attested : Attested h s)
    (sighted : ∀ seen, Sees e input seen → ¬ Blinds s input) (called : e.call = .cycle input)
    (answered : e.answer = .cycled (s.cycle roles input).1.1 (s.cycle roles input).1.2) :
    Attested (h ++ [e]) (s.cycle roles input).2 := by
  have ticked := ticks roles s input
  generalize s.cycle roles input = result at ticked answered
  have unseen (none : result.1.2 = none) : ∀ input seen, ¬ Sees e input seen := by
    rintro input seen ⟨-, outcome, seen'⟩
    rw [none] at answered
    exact absurd (Reply.cycled.inj (answered.symm.trans seen')).2 nofun
  cases ticked with
  | idle stopped => exact attested.frame (unseen rfl) rfl rfl rfl
  | held completed => exact attested_held roles completed
  | failed trajectory running tracked error => exact attested_terminate _ _ .fault error
  | moving trajectory running tracked =>
    exact (attested.tracked tracked).frame (unseen rfl) rfl rfl rfl
  | ending trajectory running tracked atEnd =>
    have running' : trajectory.state = .running := tracked.state.trans running
    have scheduled := tracked.toSamePlan.scheduled (orderly.active (.inl running))
    refine attested_ending roles scheduled running' atEnd (attested.tracked tracked) (fun seen sees blinds => ?_)
      called answered
    exact sighted seen sees (blinds.of_tracked tracked)

variable (arms : List Motor) (sqrt : K → K)

omit [IsStrictOrderedRing K] in
/-- A start makes a motion active, or it leaves the active one alone. -/
theorem attested_start (attested : Attested h s) (unseen : ∀ input seen, ¬ Sees e input seen) (request : Request K)
    (replace : ℕ) (enqueue : Bool) (conditions : StartConditions K) (now : K) :
    Attested (h ++ [e]) (s.startTrajectory arms request replace enqueue conditions now).2 := by
  cases answer : s.startTrajectory arms request replace enqueue conditions now with
  | mk result after =>
  cases result with
  | error error =>
    rcases startTrajectory_error answer with rfl | rfl
    · exact attested.frame unseen rfl rfl rfl
    · exact attested.frame unseen rfl rfl rfl
  | ok id =>
    obtain ⟨plan, started⟩ := started_of_ok answer
    rw [started.after]
    unfold Engine.install
    split_ifs
    · exact attested.frame unseen rfl rfl rfl
    · exact attested_activate _ _ _ now
    · exact attested_activate _ _ _ now

omit [IsStrictOrderedRing K] in
theorem attested_cancelMotion (attested : Attested h s) (unseen : ∀ input seen, ¬ Sees e input seen) (id : ℕ) :
    Attested (h ++ [e]) (s.cancelMotion sqrt id).2 := by
  have dequeued (s' : Engine K) (index : ℕ) (queued : TrajectoryControl K)
      (control : s'.trajectoryControl = s.trajectoryControl) (mode : s'.mode = s.mode)
      (disabled : s'.intentionallyDisabled = s.intentionallyDisabled) :
      Attested (h ++ [e]) (s'.dequeue index queued) := by
    refine attested.frame unseen ?_ ?_ ?_
    · exact (archive_trajectoryControl _ _).trans control
    · exact (archive_mode _ _).trans mode
    · exact (archive_intentionallyDisabled _ _).trans disabled
  have done := cancels sqrt s id
  generalize s.cancelMotion sqrt id = result at done
  cases done with
  | refused error => exact attested.frame unseen rfl rfl rfl
  | ended => exact attested.frame unseen rfl rfl rfl
  | active running same => exact attested_terminate _ s _ _
  | last index queued found last => exact dequeued s index queued rfl rfl rfl
  | detached index queued successor rebound found next ok => exact dequeued _ index queued rfl rfl rfl

/-- An operation keeps the window of the active motion. -/
theorem attested_step (orderly : s.Orderly) (attested : Attested h s) (event : Event K)
    (sighted : ∀ input seen, Sees (History.entry (step arms roles sqrt) s event) input seen → ¬ Blinds s input) :
    Attested (h ++ [History.entry (step arms roles sqrt) s event]) (step arms roles sqrt s event).1 := by
  have unseen (other : ∀ input, event ≠ .cycle input) :
      ∀ input seen, ¬ Sees (History.entry (step arms roles sqrt) s event) input seen :=
    fun input seen sees => other input sees.1
  cases event with
  | start request replace enqueue conditions now =>
    exact attested_start arms attested (unseen (by rintro _ ⟨⟩)) request replace enqueue conditions now
  | cancel id => exact attested_cancelMotion sqrt attested (unseen (by rintro _ ⟨⟩)) id
  | cancelAll => exact attested_terminate _ s _ _
  | terminate ending error => exact attested_terminate _ s ending error
  | power mode disabled =>
    intro running
    have stopped := attested_terminate h s .cancelled "trajectory cancelled by a motor power change"
    rw [step, terminate_trajectoryControl, TrajectoryControl.terminate] at running
    split_ifs at running with monitored
    · obtain ⟨⟨⟩⟩ | ⟨⟨⟩⟩ := running
    · exact absurd (.inl running) monitored
  | cycle input => exact attested_cycle roles orderly attested (fun seen sees => sighted input seen sees) rfl rfl

/-- In a run of which no cycle blinds its window the window of the active motion stands for one of the run. -/
theorem attested_final (mode : ControlMode) (events : List (Event K))
    (sighted : ∀ e ∈ run arms roles sqrt mode events, ∀ input seen, Sees e input seen → ¬ Blinds e.before input) :
    Attested (run arms roles sqrt mode events) (final arms roles sqrt mode events) := by
  have orderly_attested := History.history_induction (step arms roles sqrt) (s := Engine.initial mode)
    (H := fun h s => s.Orderly ∧ ((∀ e ∈ h, ∀ input seen, Sees e input seen → ¬ Blinds e.before input) → Attested h s))
    ⟨orderly_initial mode, fun _ running => absurd running nofun⟩ (fun h s event kept => ?_) events
  · exact orderly_attested.2 sighted
  · refine ⟨orderly_step arms roles sqrt kept.1 event, fun sighted => ?_⟩
    refine attested_step roles arms sqrt kept.1 (kept.2 fun e member => ?_) event ?_
    · exact sighted e (List.mem_append_left _ member)
    · exact sighted _ (List.mem_append_right _ List.mem_cons_self)

end Attest

/-! ## Completions -/

/-- A window of a history: it has opened at an instant, all new feedback since then has reached the aim, and the
positions that the window has recorded lie between two bounds for each joint, which are close in PV mode. -/
def Rested (aim : Aim K) (h : List (Entry K)) (since : K) : Prop :=
  ∃ low high : ℕ → K, (aim.mode = .pv → ∀ (index : ℕ) (goal : TrajectoryJoint K × K), aim.goals[index]? = some goal →
      goal.1.motor ∉ aim.disabled → high index - low index ≤ pvStablePositionRange) ∧
    History.Since (aim.Opens (fun index x => low index ≤ x ∧ x ≤ high index) since)
      (aim.Confirms fun index x => low index ≤ x ∧ x ≤ high index) h

/-- The evidence for the completion of the active motion in a cycle, at the end of a history. -/
structure Justified (roles : Motor → Option String) (s : Engine K) (input : CycleInput K) (h : List (Entry K)) :
    Prop where
  reached : s.finalAim.Reached input.feedback
  still : s.trajectoryControl.deadlineManaged = false → ∀ goal ∈ s.finalAim.goals,
    goal.1.motor ∉ s.intentionallyDisabled → actualSpeed input.feedback goal.1 ≤ velocityTolerance s.mode
  onTime : s.trajectoryControl.deadlineManaged = true →
    s.trajectoryControl.startedAt + s.trajectoryControl.duration ≤ input.now
  converged : s.trajectoryControl.deadlineManaged = true → s.mode = .pv →
    if s.trajectoryControl.finalConvergenceCheck then input.verdict = true
    else ∀ goal ∈ s.finalAim.goals, goal.1.motor ∉ s.intentionallyDisabled →
      |actualPosition input.feedback goal.1 - goal.2| ≤
        finalPositionTolerance (isLoadedJoint4Role (arrivalRole roles goal.1))
  rested : ∃ since, since + arrivalStableDuration ≤ input.now ∧ Rested s.finalAim h since

/-- The evidence for a handoff of the active motion in a cycle: the next motion starts where it ends, and its tracking
error is valid and small. -/
structure HandsOver (s : Engine K) (input : CycleInput K) (next : TrajectoryControl K) : Prop where
  valid : (s.measured input).trackingFeedbackValid = true
  error : (s.measured input).trackingPositionError ≤ handoffMaximumError
  joints : next.joints.length = s.trajectoryControl.joints.length
  continuous : ∃ last first, s.trajectoryControl.segments.getLast? = some last ∧ next.segments.head? = some first ∧
    ∀ index < s.trajectoryControl.joints.length,
      |(last.joint index).sample 1 - (first.joint index).sample 0| ≤ 1 / 10 ^ 5

/-- The number of an extreme, zero where it is none. -/
def Extreme.value : Extreme K → K
  | .position x => x
  | _ => 0

section Completion

variable {s : Engine K} {trajectory : TrajectoryControl K} {input : CycleInput K} {h : List (Entry K)} {e : Entry K}
  {aim : Aim K} {since : K} {seen : Seen K} {role : TrajectoryJoint K → String}

/-- The window of a motion whose range is stable. -/
theorem Settled.rested (settled : Settled aim h trajectory) (shows : Shows aim input.feedback role seen)
    (opened : trajectory.settlingStableStartedAt = some since) (stable : trajectory.rangeStable seen = true) :
    Rested aim h since := by
  have window := settled.window since opened
  refine ⟨fun index => (trajectory.settlingPositionMin[index]?).elim 0 Extreme.value,
    fun index => (trajectory.settlingPositionMax[index]?).elim 0 Extreme.value, fun mode index goal found counts => ?_, ?_⟩
  · obtain ⟨first, rest, -, ⟨input', seen', -, -, keeps, -⟩, -⟩ := window
    obtain ⟨low, high, at_low, at_high, -, -⟩ := keeps index goal found counts
    simp only [at_low, at_high, Option.elim_some, Extreme.value]
    exact jointUnstable_eq_false (shows.narrow stable mode found counts) at_low at_high
  · have wider (index : ℕ) (x : K) (covers : trajectory.Covers index x) :
        (trajectory.settlingPositionMin[index]?).elim 0 Extreme.value ≤ x ∧
          x ≤ (trajectory.settlingPositionMax[index]?).elim 0 Extreme.value := by
      obtain ⟨low, high, at_low, at_high, above, below⟩ := covers
      rw [at_low, at_high]
      exact ⟨above, below⟩
    exact window.mono (fun a opens => opens.mono wider) fun a confirms => confirms.mono wider

/-- The feedback has passed the final tests: the verdict of the convergence check, or the final tolerances. -/
theorem Shows.converged (shows : Shows aim input.feedback role seen) (mode : aim.mode = .pv)
    (arrived : seen.allPositionsArrived = true)
    (answer : seen.finalPositionReady = if seen.mode = .pv ∧ seen.convergenceCheck = true ∧
      (seen.views.all fun view => view.intentionallyDisabled || view.available) = true then input.verdict
      else seen.views.all fun view => view.finalPositionReady) (ready : seen.finalPositionReady = true) :
    if seen.convergenceCheck then input.verdict = true
    else ∀ goal ∈ aim.goals, goal.1.motor ∉ aim.disabled →
      |actualPosition input.feedback goal.1 - goal.2| ≤ finalPositionTolerance (isLoadedJoint4Role (role goal.1)) := by
  have viewed (view : JointView K) (member : view ∈ seen.views) :
      ∃ goal ∈ aim.goals, Viewed aim input.feedback role goal view := by
    obtain ⟨index, at_index⟩ := List.getElem?_of_mem member
    have inside : index < aim.goals.length := shows.length ▸ (List.getElem?_eq_some_iff.mp at_index).1
    obtain ⟨view', at_index', viewed⟩ := shows.viewed index _ (List.getElem?_eq_getElem inside)
    obtain rfl : view = view' := Option.some.inj (at_index.symm.trans at_index')
    exact ⟨_, List.getElem_mem inside, viewed⟩
  rw [ready, shows.mode, mode] at answer
  split_ifs with checked
  · have available : (seen.views.all fun view => view.intentionallyDisabled || view.available) = true := by
      refine List.all_eq_true.mpr fun view member => ?_
      obtain ⟨goal, -, viewed⟩ := viewed view member
      cases viewed with
      | disabled off marked unread => rw [marked, Bool.true_or]
      | missing counts missing unmarked unread away =>
        exact absurd (away.symm.trans (List.all_eq_true.mp arrived view member)) nofun
      | read counts usable unmarked available actual position velocity ready => rw [available, Bool.or_true]
    rw [if_pos ⟨rfl, checked, available⟩] at answer
    exact answer.symm
  · rw [if_neg (fun both => checked both.2.1)] at answer
    intro goal member counts
    obtain ⟨index, found⟩ := List.getElem?_of_mem member
    obtain ⟨view, at_index, viewed⟩ := shows.viewed index goal found
    have close := List.all_eq_true.mp answer.symm view (List.mem_of_getElem? at_index)
    cases viewed with
    | disabled off marked unread => exact absurd off counts
    | missing counts' missing unmarked unread away =>
      exact absurd (away.symm.trans (List.all_eq_true.mp arrived view (List.mem_of_getElem? at_index))) nofun
    | read counts' usable unmarked available actual position velocity ready =>
      rw [ready, mode, decide_eq_false nofun, Bool.false_or] at close
      exact of_decide_eq_true close

/-- An elapsed time of the whole duration puts the deadline behind. -/
theorem AtEnd.deadline [IsStrictOrderedRing K] {now : K} (atEnd : AtEnd trajectory now)
    (positive : 0 < trajectory.duration) (passed : trajectory.duration ≤ trajectory.elapsed) :
    trajectory.startedAt + trajectory.duration ≤ now := by
  rw [atEnd.elapsed] at passed
  have shown := passed.trans shownElapsed_le
  unfold TrajectoryControl.wallElapsed at shown
  rcases le_max_iff.mp shown with negative | elapsed
  · exact absurd negative (not_le.mpr positive)
  · have whole := elapsed.trans (min_le_left _ _)
    linarith

/-- A motion that arrives at its end is justified to complete. -/
theorem justified_of_arrives [IsStrictOrderedRing K] (roles : Motor → Option String)
    (scheduled : Scheduled s.trajectoryControl) (running : s.trajectoryControl.state = .running)
    (atEnd : AtEnd s.trajectoryControl input.now) (attested : Attested h s) (sees : Sees e input (s.seen roles input))
    (active : (s.seen roles input).hasActiveJoint = true)
    (arrives : (s.begun input.now).arrives (s.seen roles input) input.now = true)
    (final : (s.seen roles input).waitingAtApproach = false) : Justified roles s input (h ++ [e]) := by
  have shows := shows_seen roles scheduled running atEnd
  have settled := settled_window roles scheduled running atEnd (attested running) sees
  have waiting : s.trajectoryControl.waitingAtApproach = false :=
    (waitingAtApproach_beginSettling s.trajectoryControl input.now).symm.trans final
  have aim : s.aim = s.finalAim := by
    unfold Engine.aim Engine.finalAim TrajectoryControl.restSegment
    rw [if_pos ((waitingAtApproach_iff scheduled (running ▸ nofun) atEnd).mp waiting)]
  have begins := sameMotion_beginSettling s.trajectoryControl input.now
  have plan : SamePlan s.trajectoryControl ((s.begun input.now).window (s.seen roles input) input.now) :=
    begins.toSamePlan.trans (sameMotion_window (s.begun input.now) (s.seen roles input) input.now).toSamePlan
  have managed : ((s.begun input.now).window (s.seen roles input) input.now).deadlineManagedFinal
      (s.seen roles input) = s.trajectoryControl.deadlineManaged := by
    rw [TrajectoryControl.deadlineManagedFinal, final, Bool.not_false, Bool.and_true, TrajectoryControl.deadlineManaged,
      plan.referenceDuration, plan.duration]
    rfl
  rw [Engine.arrives, if_pos active, TrajectoryControl.hasArrived, managed, Bool.and_eq_true, Bool.and_eq_true] at arrives
  obtain ⟨⟨due, stable⟩, arrived⟩ := arrives
  obtain ⟨since, opened, lasted⟩ := (Option.any_eq_true _ _).mp due
  have rested := settled.rested shows opened stable
  have positions : (s.seen roles input).allPositionsArrived = true := by
    split_ifs at arrived
    · simp only [Bool.and_eq_true] at arrived
      exact arrived.1.1
    · exact allPositionsArrived_of_allArrived arrived
  refine ⟨aim ▸ shows.reached positions, fun unmanaged => ?_, fun late => ?_, fun late mode => ?_, since, ?_, aim ▸ rested⟩
  · rw [unmanaged, if_neg Bool.false_ne_true] at arrived
    exact aim ▸ shows.still arrived
  · rw [late, if_pos rfl, Bool.and_eq_true] at arrived
    have passed : s.trajectoryControl.duration ≤ s.trajectoryControl.elapsed := by
      have elapsed : (s.trajectoryControl.beginSettling input.now).elapsed = s.trajectoryControl.elapsed := by
        unfold TrajectoryControl.beginSettling
        split_ifs <;> rfl
      rw [← elapsed, ← begins.duration]
      exact of_decide_eq_true arrived.2
    exact atEnd.deadline (scheduled.positive.trans (of_decide_eq_true late)) passed
  · rw [late, if_pos rfl, Bool.and_eq_true, Bool.and_eq_true] at arrived
    have converged := shows.converged mode positions rfl arrived.1.2
    have check : (s.seen roles input).convergenceCheck = s.trajectoryControl.finalConvergenceCheck := by
      change (if (s.trajectoryControl.beginSettling input.now).waitingAtApproach then _ else _) = _
      rw [waitingAtApproach_beginSettling, waiting, if_neg Bool.false_ne_true, begins.finalConvergenceCheck]
    rw [check, aim] at converged
    exact converged
  · have long := of_decide_eq_true lasted
    linarith

/-- The evidence is the same for the motion that the cycle has found. -/
theorem Justified.of_tracked [IsStrictOrderedRing K] (roles : Motor → Option String)
    (tracked : Tracked s.trajectoryControl trajectory)
    (justified : Justified roles ({ s with trajectoryControl := trajectory } : Engine K) input h) :
    Justified roles s input h := by
  have aim : ({ s with trajectoryControl := trajectory } : Engine K).finalAim = s.finalAim := by
    unfold Engine.finalAim
    simp only [tracked.joints, tracked.segments]
  have managed : trajectory.deadlineManaged = s.trajectoryControl.deadlineManaged := by
    unfold TrajectoryControl.deadlineManaged
    rw [tracked.referenceDuration, tracked.duration]
  obtain ⟨reached, still, onTime, converged, rested⟩ := justified
  rw [aim] at reached still converged rested
  dsimp only at still onTime converged
  rw [managed] at still onTime converged
  rw [tracked.duration] at onTime
  rw [tracked.finalConvergenceCheck] at converged
  refine ⟨reached, still, fun late => ?_, converged, rested⟩
  exact (add_le_add_left tracked.startedAt _).trans (onTime late)

variable [IsStrictOrderedRing K] (roles : Motor → Option String)

/-- A cycle that completes a motion with joints that count. -/
theorem justified_of_cycle (orderly : s.Orderly) (attested : Attested h s) (called : e.call = .cycle input)
    (answered : e.answer = .cycled (s.cycle roles input).1.1 (s.cycle roles input).1.2)
    (completed : (s.cycle roles input).1.1 = .completed false) : Justified roles s input (h ++ [e]) := by
  have concluded : Concludes roles s input (s.cycle roles input) := concludes roles (completed.symm ▸ nofun)
  generalize s.cycle roles input = result at concluded answered completed
  cases concluded with
  | handoff trajectory running tracked next rest queue handsOff => cases completed
  | completed before seen seen_eq =>
    have settled := settles s seen input.now
    generalize s.settle seen input.now = result at settled completed
    cases settled with
    | watched hold completed' same =>
      rcases watchHold_outcome (s.placed seen) seen input.now with waiting | unstable
      · exact absurd (waiting.symm.trans completed) nofun
      · exact absurd (unstable.symm.trans completed) nofun
    | completed hold running same arrives final => exact absurd (running.symm.trans before) nofun
    | _ => cases completed
  | running trajectory running tracked atEnd begun begun_eq seen seen_eq =>
    have running' : trajectory.state = .running := tracked.state.trans running
    have scheduled := tracked.toSamePlan.scheduled (orderly.active (.inl running))
    have state : begun.trajectoryControl.state = .running := begun_eq ▸
      (sameMotion_beginSettling trajectory input.now).state.trans running'
    have settled := settles begun seen input.now
    generalize begun.settle seen input.now = result at settled completed answered
    cases settled with
    | watched hold completed' same => exact absurd (state.symm.trans completed') nofun
    | completed hold running'' same arrives final =>
      subst begun_eq seen_eq
      have active : (({ s with trajectoryControl := trajectory } : Engine K).seen roles input).hasActiveJoint = true :=
        (Bool.not_eq_false' _).mp (Outcome.completed.inj completed)
      exact (justified_of_arrives roles scheduled running' atEnd (attested.tracked tracked) ⟨called, _, answered⟩ active
        arrives final).of_tracked roles tracked
    | _ => cases completed

omit [IsStrictOrderedRing K] in
/-- The second section of an update hands nothing over. -/
theorem settle_ne_handoff (s : Engine K) (seen : Seen K) (now : K) : (s.settle seen now).1 ≠ .handoff := by
  have settled := settles s seen now
  generalize s.settle seen now = result at settled
  cases settled with
  | watched hold completed same =>
    rcases watchHold_outcome (s.placed seen) seen now with waiting | unstable
    · exact waiting.trans_ne nofun
    · exact unstable.trans_ne nofun
  | _ => exact nofun

/-- A cycle that hands the active motion over. -/
theorem handsOver_of_cycle (handed : (s.cycle roles input).1.1 = .handoff) :
    ∃ next rest, s.trajectoryQueue = next :: rest ∧ HandsOver s input next := by
  have concluded : Concludes roles s input (s.cycle roles input) := concludes roles (handed.symm ▸ nofun)
  generalize s.cycle roles input = result at concluded handed
  cases concluded with
  | completed before seen seen_eq => exact absurd handed (settle_ne_handoff s seen input.now)
  | running trajectory running tracked atEnd begun begun_eq seen seen_eq =>
    exact absurd handed (settle_ne_handoff begun seen input.now)
  | handoff trajectory running tracked next rest queue handsOff measured =>
    simp only [TrajectoryControl.handsOffTo, Bool.and_eq_true, decide_eq_true_eq] at handsOff
    obtain ⟨⟨⟨-, valid⟩, error⟩, continuous⟩ := handsOff
    unfold TrajectoryControl.continuous at continuous
    rw [Bool.and_eq_true, decide_eq_true_eq, tracked.joints, tracked.segments] at continuous
    obtain ⟨joints, continuous⟩ := continuous
    split at continuous
    · rename_i last first at_last at_first
      refine ⟨next, rest, queue, measured ▸ valid, measured ▸ error, joints.symm, last, first, at_last, at_first,
        fun index inside => ?_⟩
      have both := List.all_eq_true.mp continuous index (List.mem_range.mpr inside)
      rw [Bool.and_eq_true] at both
      exact of_decide_eq_true both.2
    · cases continuous

end Completion

/-! ## The evidence of the completions of a run -/

section Runs

variable [IsStrictOrderedRing K] {arms : List Motor} {roles : Motor → Option String} {sqrt : K → K} {mode : ControlMode}
  {events : List (Event K)}

/-- In a run of which no cycle blinds its window every completion of a motion with joints that count is justified, and
in every run every handoff is. -/
theorem completion_justified {older newer : List (Entry K)} {e : Entry K}
    (split : run arms roles sqrt mode events = older ++ e :: newer) {input : CycleInput K}
    (called : e.call = .cycle input) {outcome : Outcome} {seen : Option (Seen K)}
    (answered : e.answer = .cycled outcome seen) :
    (outcome = .completed false →
      (∀ e' ∈ older, ∀ input seen, Sees e' input seen → ¬ Blinds e'.before input) →
        Justified roles e.before input (older ++ [e])) ∧
    (outcome = .handoff → ∃ next rest, e.before.trajectoryQueue = next :: rest ∧ HandsOver e.before input next) := by
  obtain ⟨earlier, event, later, -, past, rfl⟩ := History.run_split (step arms roles sqrt) split
  obtain rfl : event = .cycle input := called
  have same : ((final arms roles sqrt mode earlier).cycle roles input).1.1 = outcome := (Reply.cycled.inj answered).1
  refine ⟨fun completed sighted => ?_, fun handed => ?_⟩
  · have orderly := orderly_final arms roles sqrt mode earlier
    rw [past] at sighted ⊢
    exact justified_of_cycle roles orderly (attested_final roles arms sqrt mode earlier sighted) rfl rfl
      (same.trans completed)
  · exact handsOver_of_cycle roles (same.trans handed)

end Runs

/-! ### A joint that falls silent -/

section Silent

/-- A cycle without usable feedback of the only joint. -/
def silentAt (now : ℚ) : Event ℚ := .cycle ⟨now, true, 0, true, fun _ => ⟨false, 0, 0, 0, 0⟩, true, none⟩

/-- A motion to one half whose joint moves between 0.5 and 0.515, and is silent when its window is to start again. -/
def silenced : List (Event ℚ) :=
  [.start (moveRequest 0 (1 / 2)) 0 false (ready 0 0) 0, cycleAt 1 (1 / 2) 1, cycleAt (11 / 10) (515 / 1000) 2,
    silentAt (6 / 5), cycleAt (13 / 10) (1 / 2) 3, cycleAt (7 / 5) (515 / 1000) 4]

/-- The entries of the first operations of a run of one joint. -/
def oneJoint (events : List (Event ℚ)) (event : Event ℚ) : Entry ℚ :=
  History.entry (step [7] (fun _ => none) id) (final [7] (fun _ => none) id .pv events) event

theorem completion_justified_still :
    Justified (fun _ => none) (oneJoint (disturbed.take 2) (cycleAt (6 / 5) (1 / 2) 2)).before
      ⟨6 / 5, true, 0, true, fun _ => ⟨true, 2, 1, 1 / 2, 0⟩, true, none⟩
      (run [7] (fun _ => none) id .pv (disturbed.take 2) ++ [oneJoint (disturbed.take 2) (cycleAt (6 / 5) (1 / 2) 2)]) := by
  have split : run [7] (fun _ => none) id .pv (disturbed.take 3) = run [7] (fun _ => none) id .pv (disturbed.take 2) ++
      oneJoint (disturbed.take 2) (cycleAt (6 / 5) (1 / 2) 2) :: [] := rfl
  refine (completion_justified split rfl rfl).1 (by decide +kernel) fun e member input seen sees blinds => ?_
  rcases List.mem_cons.mp member with rfl | second
  · exact absurd sees.1 nofun
  · obtain rfl := List.mem_singleton.mp second
    refine absurd blinds.due ?_
    obtain rfl := Event.cycle.inj sees.1
    decide +kernel

/-- A suffix begins with one of the last two elements, or has them behind its first element. -/
theorem suffix_pair {α : Type} {first a b : α} {rest l : List α} (suffix : first :: rest <:+ l)
    (last : [a, b] <:+ l) : (first = a ∨ first = b) ∨ a ∈ rest ∧ b ∈ rest := by
  rcases List.suffix_or_suffix_of_suffix suffix last with inner | outer
  · have member := inner.subset List.mem_cons_self
    rw [List.mem_cons, List.mem_singleton] at member
    exact .inl member
  · obtain ⟨front, split⟩ := outer
    cases front with
    | nil => exact .inl (.inl (List.cons.inj split).1.symm)
    | cons c front =>
      rw [← (List.cons.inj split).2]
      exact .inr ⟨by simp, by simp⟩

/-- The positions of a cycle with new feedback keep to the window that it confirms. -/
theorem within_of_confirms {aim : Aim ℚ} {within : ℕ → ℚ → Prop} {events : List (Event ℚ)} {input : CycleInput ℚ}
    (confirms : aim.Confirms within (oneJoint events (.cycle input)))
    (fresh : ((final [7] (fun _ => none) id .pv events).cycle (fun _ => none) input).1.2.any Seen.anyFeedbackNew = true) :
    aim.Within input.feedback within := by
  obtain ⟨seen, found, fresh⟩ := (Option.any_eq_true _ _).mp fresh
  exact (confirms input seen ⟨rfl, _, congrArg (Reply.cycled _) found⟩ fresh).2

/-- Every window that is long enough has recorded two positions that lie too far apart. -/
theorem silenced_unjustified :
    (∃ seen, (oneJoint (silenced.take 5) (cycleAt (7 / 5) (515 / 1000) 4)).answer = .cycled (.completed false) seen) ∧
      ¬ Justified (fun _ => none) (oneJoint (silenced.take 5) (cycleAt (7 / 5) (515 / 1000) 4)).before
        ⟨7 / 5, true, 0, true, fun _ => ⟨true, 4, 1, 515 / 1000, 0⟩, true, none⟩
        (run [7] (fun _ => none) id .pv silenced) := by
  refine ⟨⟨_, congrArg (Reply.cycled · _) (by decide +kernel)⟩, fun justified => ?_⟩
  obtain ⟨since, late, low, high, narrow, first, rest, suffix, opens, keeps⟩ := justified.rested
  have last : [oneJoint (silenced.take 4) (cycleAt (13 / 10) (1 / 2) 3),
      oneJoint (silenced.take 5) (cycleAt (7 / 5) (515 / 1000) 4)] <:+ run [7] (fun _ => none) id .pv silenced :=
    ⟨run [7] (fun _ => none) id .pv (silenced.take 4), rfl⟩
  have duration : (arrivalStableDuration : ℚ) = 1 / 5 := rfl
  have range : (pvStablePositionRange : ℚ) = 12 / 1000 := rfl
  obtain ⟨input, seen, sees, now, -, -⟩ := opens
  have early : input.now ≤ 6 / 5 := by
    rw [now]
    dsimp only at late
    linarith
  rcases suffix_pair suffix last with (rfl | rfl) | ⟨before, finish⟩
  · obtain rfl := Event.cycle.inj sees.1
    norm_num at early
  · obtain rfl := Event.cycle.inj sees.1
    norm_num at early
  · have found : ((oneJoint (silenced.take 5) (cycleAt (7 / 5) (515 / 1000) 4)).before.finalAim.goals[0]?).map
        (fun goal => (goal.1.motor, goal.1.direction)) = some (7, 1) := by decide +kernel
    obtain ⟨goal, at_index, motor⟩ := Option.map_eq_some_iff.mp found
    obtain ⟨-, direction⟩ := Prod.mk.inj motor
    have enabled : (oneJoint (silenced.take 5) (cycleAt (7 / 5) (515 / 1000) 4)).before.intentionallyDisabled = [] := by
      decide +kernel
    have counts : goal.1.motor ∉
        (oneJoint (silenced.take 5) (cycleAt (7 / 5) (515 / 1000) 4)).before.finalAim.disabled := by
      change goal.1.motor ∉ (oneJoint _ _).before.intentionallyDisabled
      rw [enabled]
      exact List.not_mem_nil
    have close := narrow (by decide +kernel) 0 goal at_index counts
    have above := (within_of_confirms (keeps _ before) (by decide +kernel) 0 goal at_index counts).1
    have below := (within_of_confirms (keeps _ finish) (by decide +kernel) 0 goal at_index counts).2
    rw [actualPosition, direction] at above below
    dsimp only at above below
    linarith

end Silent

end MotorDrive.Trajectory
