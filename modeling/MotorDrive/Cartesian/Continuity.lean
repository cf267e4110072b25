import MotorDrive.Library.Groups
import MotorDrive.Library.Validate

/-!
# The continuity of inverse kinematics

`require_cartesian_ik_continuity` of `product_cartesian.cpp`, which is called for one joint vector after another.  It
keeps the direction of every joint, the travel since its last reversal and whether it has reversed at all.

A whole path passes if and only if every step is small enough and, without the steps in the deadband, every maximal
group of steps in one direction, other than the first and the last, is long enough.
-/

namespace MotorDrive.Cartesian

open Groups Validate

/-- `ARTICORE_PRODUCT_ARM_DOF`. -/
abbrev armDof : ℕ := 7

variable {K : Type} [Field K] [LinearOrder K]

/-- `kYunyiCartesianMaximumIkJointStep`. -/
def maximumIkJointStep : K := 35 / 100

/-- `kYunyiCartesianIkDirectionDeadband`. -/
def ikDirectionDeadband : K := 1 / 1000

/-- `kYunyiCartesianIkChatterExcursion`. -/
def ikChatterExcursion : K := 1 / 100

/-- The entries of `CartesianIkContinuityState` for one joint. -/
structure JointContinuity (K : Type) where
  direction : ℤ
  excursionSinceReversal : K
  hasReversed : Bool

/-- A new state. -/
def JointContinuity.fresh : JointContinuity K := ⟨0, 0, false⟩

/-- What is wrong with a step. -/
inductive StepFault (K : Type)
  | discontinuous (step : K)
  | chatter (excursion : K)

/-- What `require_cartesian_ik_continuity` throws. -/
inductive ContinuityError (K : Type)
  | invalidSide
  | joint (sample : ℕ) (joint : Fin armDof) (fault : StepFault K)

/-- The step of a joint in the loop of `require_cartesian_ik_continuity`. -/
def checkStep (step : K) (state : JointContinuity K) : Except (StepFault K) (JointContinuity K) :=
  if maximumIkJointStep < |step| then .error (.discontinuous step)
  else if ikDirectionDeadband ≤ |step| then
    let direction : ℤ := if 0 < step then 1 else -1
    if state.direction = 0 then .ok ⟨direction, |step|, state.hasReversed⟩
    else if direction = state.direction then
      .ok { state with excursionSinceReversal := state.excursionSinceReversal + |step| }
    else if state.hasReversed ∧ state.excursionSinceReversal ≤ ikChatterExcursion then
      .error (.chatter state.excursionSinceReversal)
    else .ok ⟨direction, |step|, true⟩
  else .ok state

/-- The step of a joint, with the sample and the joint in what is thrown. -/
def checkJoint (sample : ℕ) (joint : Fin armDof) (previous current : K) (state : JointContinuity K) :
    Except (ContinuityError K) (JointContinuity K) :=
  (checkStep (current - previous) state).mapError (.joint sample joint)

/-- `require_cartesian_ik_continuity`. -/
def requireCartesianIkContinuity (side : ℕ) (previous current : Fin armDof → K)
    (state : Fin armDof → JointContinuity K) (sample : ℕ) :
    Except (ContinuityError K) (Fin armDof → JointContinuity K) := do
  reject (side ≠ 0 ∧ side ≠ 1) .invalidSide
  (List.finRange armDof).foldlM (fun state joint =>
    (checkJoint sample joint (previous joint) (current joint) (state joint)).map (Function.update state joint)) state

/-- The calls for one joint vector after another, with the samples counted from `sample`. -/
def checkPath (side : ℕ) : ℕ → (Fin armDof → K) → List (Fin armDof → K) → (Fin armDof → JointContinuity K) →
    Except (ContinuityError K) (Fin armDof → JointContinuity K)
  | _, _, [], state => .ok state
  | sample, previous, current :: rest, state => do
    let state ← requireCartesianIkContinuity side previous current state sample
    checkPath side (sample + 1) current rest state

/-! ## What is accepted -/

/-- The steps from one position to the next. -/
def steps : K → List K → List K
  | _, [] => []
  | previous, current :: rest => (current - previous) :: steps current rest

/-- The steps that are not in the deadband. -/
def travelled (steps : List K) : List K := steps.filter fun step => ikDirectionDeadband ≤ |step|

/-- The steps have the same direction. -/
def sameDirection (step step' : K) : Bool := decide (0 < step ↔ 0 < step')

/-- The travel of a group of steps. -/
def travel (group : List K) : K := (group.map (|·|)).sum

/-- The maximal groups of steps in one direction, other than the first and the last. -/
def innerGroups (steps : List K) : List (List K) := inner ((travelled steps).splitBy sameDirection)

/-- The steps of one joint are small and do not chatter. -/
structure Smooth (steps : List K) : Prop where
  small : ∀ step ∈ steps, |step| ≤ maximumIkJointStep
  long : ∀ group ∈ innerGroups steps, ikChatterExcursion < travel group

/-! ## One joint -/

/-- What the state of a joint says about the steps so far. -/
inductive Knows (kept : List K) (state : JointContinuity K) : Prop
  | still (none : kept = []) (fresh : state = .fresh)
  | moving (groups : List (List K)) (group : List K) (last : K)
      (split : kept.splitBy sameDirection = groups ++ [group]) (ends : group.getLast? = some last)
      (direction : state.direction = if 0 < last then 1 else -1)
      (excursion : state.excursionSinceReversal = travel group) (reversed : state.hasReversed = true ↔ groups ≠ [])

/-- The loop over the steps of one joint. -/
def scan (steps : List K) : Except (StepFault K) (JointContinuity K) :=
  steps.foldlM (fun state step => checkStep step state) .fresh

section Joint

variable {all : List K} {step : K} {state : JointContinuity K}

theorem travelled_concat_of_lt (near : |step| < ikDirectionDeadband) : travelled (all ++ [step]) = travelled all := by
  simp [travelled, not_le.mpr near]

theorem travelled_concat_of_le (far : ikDirectionDeadband ≤ |step|) :
    travelled (all ++ [step]) = travelled all ++ [step] := by
  simp [travelled, far]

theorem travel_concat (group : List K) (step : K) : travel (group ++ [step]) = travel group + |step| := by
  simp [travel]

theorem smooth_concat_iff : Smooth (all ++ [step]) ↔ (∀ step ∈ all, |step| ≤ maximumIkJointStep) ∧
    |step| ≤ maximumIkJointStep ∧ ∀ group ∈ innerGroups (all ++ [step]), ikChatterExcursion < travel group := by
  constructor
  · rintro ⟨small, long⟩
    exact ⟨fun step member => small step (List.mem_append_left _ member), small step (by simp), long⟩
  · rintro ⟨small, last, long⟩
    refine ⟨fun step member => ?_, long⟩
    rcases List.mem_append.mp member with before | final
    · exact small step before
    · exact List.mem_singleton.mp final ▸ last

theorem innerGroups_of_split {groups : List (List K)} {group : List K}
    (split : (travelled all).splitBy sameDirection = groups ++ [group]) : innerGroups all = groups.tail := by
  rw [innerGroups, split, inner_concat]

theorem innerGroups_concat {group : List K} (member : group ∈ innerGroups all) :
    group ∈ innerGroups (all ++ [step]) := by
  rcases lt_or_ge |step| ikDirectionDeadband with near | far
  · rwa [innerGroups, travelled_concat_of_lt near]
  · rw [innerGroups, travelled_concat_of_le far]
    exact mem_inner_concat member

theorem sign_ne_zero (x : K) : (if 0 < x then 1 else -1 : ℤ) ≠ 0 := by
  split_ifs <;> decide

theorem sign_eq_iff {x y : K} : (if 0 < x then 1 else -1 : ℤ) = (if 0 < y then 1 else -1) ↔ sameDirection y x = true := by
  unfold sameDirection
  by_cases positive : 0 < x <;> by_cases positive' : 0 < y <;> simp [positive, positive']

theorem checkStep_of_lt (large : maximumIkJointStep < |step|) :
    checkStep step state = .error (.discontinuous step) := if_pos large

theorem checkStep_of_near (small : |step| ≤ maximumIkJointStep) (near : |step| < ikDirectionDeadband) :
    checkStep step state = .ok state := by
  rw [checkStep, if_neg (not_lt.mpr small), if_neg (not_le.mpr near)]

/-- A step outside the deadband. -/
theorem checkStep_of_far (small : |step| ≤ maximumIkJointStep) (far : ikDirectionDeadband ≤ |step|) :
    checkStep step state =
      if state.direction = 0 then .ok ⟨if 0 < step then 1 else -1, |step|, state.hasReversed⟩
      else if (if 0 < step then 1 else -1) = state.direction then
        .ok { state with excursionSinceReversal := state.excursionSinceReversal + |step| }
      else if state.hasReversed ∧ state.excursionSinceReversal ≤ ikChatterExcursion then
        .error (.chatter state.excursionSinceReversal)
      else .ok ⟨if 0 < step then 1 else -1, |step|, true⟩ := by
  rw [checkStep, if_neg (not_lt.mpr small), if_pos far]

/-- One more step is accepted if and only if it is small and ends no short group, and the state knows it. -/
theorem checkStep_ok (knows : Knows (travelled all) state)
    (long : ∀ group ∈ innerGroups all, ikChatterExcursion < travel group) (small : |step| ≤ maximumIkJointStep) :
    (∀ state', checkStep step state = .ok state' → (∀ group ∈ innerGroups (all ++ [step]),
      ikChatterExcursion < travel group) ∧ Knows (travelled (all ++ [step])) state') ∧
    ((∀ group ∈ innerGroups (all ++ [step]), ikChatterExcursion < travel group) →
      ∃ state', checkStep step state = .ok state') := by
  rcases lt_or_ge |step| ikDirectionDeadband with near | far
  · rw [checkStep_of_near small near, innerGroups, travelled_concat_of_lt near]
    exact ⟨fun state' same => Except.ok.inj same ▸ ⟨long, knows⟩, fun _ => ⟨state, rfl⟩⟩
  rw [checkStep_of_far small far]
  have kept : travelled (all ++ [step]) = travelled all ++ [step] := travelled_concat_of_le far
  cases knows with
  | still none fresh =>
    rw [none, List.nil_append] at kept
    have split : (travelled (all ++ [step])).splitBy sameDirection = [] ++ [[step]] := by
      rw [kept]
      rfl
    rw [fresh, JointContinuity.fresh, if_pos rfl, innerGroups_of_split split]
    refine ⟨fun state' same => ?_, fun _ => ⟨_, rfl⟩⟩
    cases same
    refine ⟨nofun, .moving [] [step] step split rfl rfl ?_ ?_⟩
    · simp [travel]
    · simp
  | moving groups group last split ends direction excursion reversed =>
    have moving : state.direction ≠ 0 := direction ▸ sign_ne_zero last
    rw [if_neg moving]
    by_cases same : sameDirection last step = true
    · have split' : (travelled (all ++ [step])).splitBy sameDirection = groups ++ [group ++ [step]] := by
        rw [kept]
        refine splitBy_concat_of_related split fun b at_end => ?_
        cases ends.symm.trans at_end
        exact same
      rw [if_pos (direction ▸ sign_eq_iff.mpr same), innerGroups_of_split split']
      rw [innerGroups_of_split split] at long
      refine ⟨fun state' ok => ?_, fun _ => ⟨_, rfl⟩⟩
      cases ok
      refine ⟨long, .moving groups (group ++ [step]) step split' (by simp) ?_ ?_ reversed⟩
      · exact direction.trans (sign_eq_iff.mpr same).symm
      · rw [travel_concat, excursion]
    · have split' : (travelled (all ++ [step])).splitBy sameDirection = (groups ++ [group]) ++ [[step]] := by
        rw [kept, splitBy_concat_of_not_related, split]
        intro b at_end
        rw [getLast?_of_split split] at at_end
        cases ends.symm.trans at_end
        exact Bool.eq_false_iff.mpr same
      rw [if_neg (direction ▸ fun equal => same (sign_eq_iff.mp equal)), innerGroups_of_split split']
      rw [innerGroups_of_split split] at long
      have ended : (∀ inner ∈ (groups ++ [group]).tail, ikChatterExcursion < travel inner) ↔
          ¬ (state.hasReversed = true ∧ state.excursionSinceReversal ≤ ikChatterExcursion) := by
        rw [reversed, excursion, not_and, not_le]
        cases groups with
        | nil => simp
        | cons first rest =>
          simp only [List.cons_append, List.tail_cons, List.mem_append, List.mem_singleton]
          refine ⟨fun all _ => all group (.inr rfl), fun last inner member => ?_⟩
          rcases member with earlier | rfl
          · exact long inner earlier
          · exact last (List.cons_ne_nil _ _)
      rw [ended]
      constructor
      · intro state' ok
        by_cases chatter : state.hasReversed = true ∧ state.excursionSinceReversal ≤ ikChatterExcursion
        · rw [if_pos chatter] at ok
          cases ok
        · rw [if_neg chatter] at ok
          cases ok
          refine ⟨chatter, .moving (groups ++ [group]) [step] step split' rfl rfl ?_ ?_⟩
          · simp [travel]
          · simp
      · intro smooth
        rw [if_neg smooth]
        exact ⟨_, rfl⟩

theorem scan_concat (all : List K) (step : K) : scan (all ++ [step]) = (scan all).bind (checkStep step) := by
  unfold scan
  rw [List.foldlM_append]
  cases List.foldlM (fun state step => checkStep step state) JointContinuity.fresh all with
  | error fault => rfl
  | ok state =>
    change (checkStep step state).bind Except.ok = checkStep step state
    cases checkStep step state <;> rfl

/-- The steps of a joint are accepted if and only if they are smooth, and then the state knows them. -/
theorem scan_ok (all : List K) : (∀ state, scan all = .ok state → Smooth all ∧ Knows (travelled all) state) ∧
    (Smooth all → ∃ state, scan all = .ok state) := by
  induction all using List.reverseRecOn with
  | nil =>
    refine ⟨fun state same => ?_, fun _ => ⟨_, rfl⟩⟩
    exact ⟨⟨fun _ member => absurd member List.not_mem_nil, fun _ member => absurd member List.not_mem_nil⟩,
      .still rfl (Except.ok.inj same).symm⟩
  | append_singleton all step ih =>
    rw [scan_concat, smooth_concat_iff]
    constructor
    · intro state' same
      obtain ⟨state, scanned, checked⟩ := bind_eq_ok same
      obtain ⟨⟨small, long⟩, knows⟩ := ih.1 state scanned
      rcases lt_or_ge maximumIkJointStep |step| with large | near
      · rw [checkStep_of_lt large] at checked
        cases checked
      · obtain ⟨long', knows'⟩ := (checkStep_ok knows long near).1 state' checked
        exact ⟨⟨small, near, long'⟩, knows'⟩
    · rintro ⟨small, near, long'⟩
      obtain ⟨state, scanned⟩ := ih.2 ⟨small, fun group member => long' group (innerGroups_concat member)⟩
      obtain ⟨⟨-, long⟩, knows⟩ := ih.1 state scanned
      obtain ⟨state', checked⟩ := (checkStep_ok knows long near).2 long'
      exact ⟨state', by rw [scanned]; exact checked⟩

end Joint

/-! ## All joints -/

section Path

variable {side : ℕ}

theorem mapError_eq_ok {ε ε' α : Type} {answer : Except ε α} {f : ε → ε'} {a : α} :
    answer.mapError f = .ok a ↔ answer = .ok a := by
  cases answer <;> simp [Except.mapError]

/-- A call passes if and only if every joint's step does. -/
theorem requireCartesianIkContinuity_ok (valid : side = 0 ∨ side = 1) {previous current : Fin armDof → K}
    {state final : Fin armDof → JointContinuity K} {sample : ℕ} :
    requireCartesianIkContinuity side previous current state sample = .ok final ↔
      ∀ joint, checkStep (current joint - previous joint) (state joint) = .ok (final joint) := by
  have passed : reject (side ≠ 0 ∧ side ≠ 1) (ContinuityError.invalidSide : ContinuityError K) = .ok () :=
    reject_eq_ok.mpr (by omega)
  rw [requireCartesianIkContinuity, passed, ok_bind, foldlM_update_eq_ok (List.nodup_finRange armDof)]
  constructor
  · exact fun all joint => mapError_eq_ok.mp (all.1 joint (List.mem_finRange joint))
  · exact fun all => ⟨fun joint _ => mapError_eq_ok.mpr (all joint), fun joint absent =>
      absurd (List.mem_finRange joint) absent⟩

/-- The calls for a path pass if and only if the loops over the steps of each joint do. -/
theorem checkPath_ok (valid : side = 0 ∨ side = 1) {sample : ℕ} {first : Fin armDof → K}
    {rest : List (Fin armDof → K)} {state final : Fin armDof → JointContinuity K} :
    checkPath side sample first rest state = .ok final ↔ ∀ joint,
      (steps (first joint) (rest.map fun point => point joint)).foldlM (fun state step => checkStep step state)
        (state joint) = .ok (final joint) := by
  induction rest generalizing sample first state with
  | nil =>
    refine ⟨fun ok joint => ?_, fun all => congrArg Except.ok (funext fun joint => Except.ok.inj (all joint))⟩
    exact congrArg Except.ok (congrFun (Except.ok.inj ok) joint)
  | cons current rest ih =>
    rw [checkPath]
    constructor
    · intro ok joint
      obtain ⟨middle, called, later⟩ := bind_eq_ok ok
      rw [List.map_cons, steps, List.foldlM_cons, (requireCartesianIkContinuity_ok valid).mp called joint]
      exact ih.mp later joint
    · intro all
      have each (joint : Fin armDof) : ∃ middle, checkStep (current joint - first joint) (state joint) = .ok middle ∧
          (steps (current joint) (rest.map fun point => point joint)).foldlM
            (fun state step => checkStep step state) middle = .ok (final joint) := by
        have ok := all joint
        rw [List.map_cons, steps, List.foldlM_cons] at ok
        exact bind_eq_ok ok
      choose middle called later using each
      rw [(requireCartesianIkContinuity_ok valid).mpr called]
      exact ih.mpr later

end Path

/-- For every sequence of joint vectors that is checked step by step from a new state: no call throws if and only if
for every joint each step is at most the largest and, of the maximal groups of steps in one direction that the steps
outside the deadband have, each but the first and the last is longer than the chatter excursion. -/
theorem continuity_iff (side : ℕ) (valid : side = 0 ∨ side = 1) (sample : ℕ) (first : Fin armDof → K)
    (rest : List (Fin armDof → K)) : (∃ final, checkPath side sample first rest (fun _ => .fresh) = .ok final) ↔
      ∀ joint, Smooth (steps (first joint) (rest.map fun point => point joint)) := by
  constructor
  · rintro ⟨final, ok⟩ joint
    exact ((scan_ok _).1 _ ((checkPath_ok valid).mp ok joint)).1
  · intro smooth
    choose final scanned using fun joint => (scan_ok _).2 (smooth joint)
    exact ⟨final, (checkPath_ok valid).mpr scanned⟩

/-- A joint that moves to and fro twice by four milliradians does not pass. -/
theorem continuity_chatter : ¬ ∃ final, checkPath (K := ℚ) 0 1 (fun _ => 0)
    [fun _ => 4 / 1000, fun _ => 0, fun _ => 4 / 1000] (fun _ => .fresh) = .ok final := by
  rw [continuity_iff 0 (.inl rfl)]
  intro smooth
  have long := (smooth 0).long [-4 / 1000] (by decide +kernel)
  revert long
  decide +kernel

end MotorDrive.Cartesian
