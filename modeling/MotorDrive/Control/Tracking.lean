import MotorDrive.Control.Follow

/-!
# The tracking error of a Cartesian trajectory

The mask of a native Cartesian trajectory is about the joints of the trajectory, and the tracking error is taken
over the batch that is sent, from which the disabled motors are missing.  `Aligned` says when the two agree.
-/

namespace MotorDrive.Control

open Trajectory (Motor)
open Validate

/-- The mask that `start_trajectory` prepares for a number of joints: every joint, unless the request names some. -/
def preparedTrackingMask (count : ℕ) (requested : BitVec 32) : Except String (BitVec 32) := do
  let all : BitVec 32 := if 32 ≤ count then BitVec.allOnes 32 else BitVec.twoPow 32 count - 1
  reject (requested &&& ~~~all ≠ 0) "Cartesian tracking joint mask exceeds the trajectory joints"
  return if requested = 0 then all else requested

section Fold

variable {K : Type} [Field K] [LinearOrder K] (mask : BitVec 32) (feedback : Motor → MotorState K)

/-- The loop body of the tracking error. -/
def trackingStep (tracked : K × Bool) (entry : PvCommand K × ℕ) : K × Bool :=
  if !tracked.2 || !mask.getLsbD entry.2 then tracked
  else match (feedback entry.1.motor).freshPosition with
    | none => (tracked.1, false)
    | some position => (max tracked.1 |position - entry.1.targetPosition|, true)

theorem trackingError_eq (batch : List (PvCommand K)) : trackingError mask feedback batch =
    if batch = [] then (0, false) else batch.zipIdx.foldl (trackingStep mask feedback) (0, true) := by
  unfold trackingError
  rfl

variable {mask feedback}

theorem foldl_invalid (entries : List (PvCommand K × ℕ)) (error : K) :
    entries.foldl (trackingStep mask feedback) (error, false) = (error, false) := by
  induction entries with
  | nil => rfl
  | cons entry rest ih => exact ih

/-- The entries that the loop looks at have an error, the greatest of them is the result. -/
theorem foldl_tracking {entries : List (PvCommand K × ℕ)} {start error : K}
    (tracked : entries.foldl (trackingStep mask feedback) (start, true) = (error, true)) :
    start ≤ error ∧
      (∀ entry ∈ entries, mask.getLsbD entry.2 = true → ∃ position,
        (feedback entry.1.motor).freshPosition = some position ∧ |position - entry.1.targetPosition| ≤ error) ∧
      (error = start ∨ ∃ entry ∈ entries, mask.getLsbD entry.2 = true ∧ ∃ position,
        (feedback entry.1.motor).freshPosition = some position ∧
          error = |position - entry.1.targetPosition|) := by
  induction entries generalizing start with
  | nil =>
    cases tracked
    exact ⟨le_rfl, fun _ member => absurd member List.not_mem_nil, .inl rfl⟩
  | cons entry rest ih =>
    rw [List.foldl_cons] at tracked
    cases bit : mask.getLsbD entry.2 with
    | false =>
      have skipped : trackingStep mask feedback (start, true) entry = (start, true) := by simp [trackingStep, bit]
      rw [skipped] at tracked
      obtain ⟨grows, all, reached⟩ := ih tracked
      refine ⟨grows, ?_, reached.imp id fun ⟨entry', later, rest⟩ => ⟨entry', List.mem_cons_of_mem _ later, rest⟩⟩
      intro entry' member masked
      rcases List.mem_cons.mp member with rfl | later
      · exact absurd (bit.symm.trans masked) Bool.false_ne_true
      · exact all entry' later masked
    | true =>
      cases fresh : (feedback entry.1.motor).freshPosition with
      | none =>
        have lost : trackingStep mask feedback (start, true) entry = (start, false) := by
          simp [trackingStep, bit, fresh]
        rw [lost, foldl_invalid] at tracked
        cases tracked
      | some position =>
        have measured : trackingStep mask feedback (start, true) entry =
            (max start |position - entry.1.targetPosition|, true) := by simp [trackingStep, bit, fresh]
        rw [measured] at tracked
        obtain ⟨grows, all, reached⟩ := ih tracked
        refine ⟨(le_max_left _ _).trans grows, ?_, ?_⟩
        · intro entry' member masked
          rcases List.mem_cons.mp member with rfl | later
          · exact ⟨position, fresh, (le_max_right _ _).trans grows⟩
          · exact all entry' later masked
        · rcases reached with first | ⟨entry', later, rest⟩
          · rcases max_choice start |position - entry.1.targetPosition| with same | same
            · exact .inl (first.trans same)
            · exact .inr ⟨entry, List.mem_cons_self .., bit, position, fresh, first.trans same⟩
          · exact .inr ⟨entry', List.mem_cons_of_mem _ later, rest⟩

/-- The loop is valid if the entries that it looks at are. -/
theorem foldl_valid {entries : List (PvCommand K × ℕ)} (start : K) (fresh : ∀ entry ∈ entries,
    (feedback entry.1.motor).freshPosition.isSome = true) :
    (entries.foldl (trackingStep mask feedback) (start, true)).2 = true := by
  induction entries generalizing start with
  | nil => rfl
  | cons entry rest ih =>
    obtain ⟨here, later⟩ := List.forall_mem_cons.mp fresh
    obtain ⟨position, here⟩ := Option.isSome_iff_exists.mp here
    have valid : (trackingStep mask feedback (start, true) entry).2 = true := by
      unfold trackingStep
      split_ifs
      · rfl
      · rw [here]
    rw [List.foldl_cons, ← Prod.mk.eta (p := trackingStep mask feedback (start, true) entry), valid]
    exact ih _ later

end Fold

/-! ## The joints of the mask -/

section Mask

variable {α : Type}

/-- An element of a filtered list stands behind the ones before it that are kept. -/
theorem getElem?_filter_iff {p : α → Bool} {l : List α} {k : ℕ} {a : α} :
    (l.filter p)[k]? = some a ↔ ∃ i, l[i]? = some a ∧ p a = true ∧ (l.take i).countP p = k := by
  induction l generalizing k with
  | nil => simp
  | cons first rest ih =>
    cases kept : p first with
    | false =>
      rw [List.filter_cons_of_neg (by rw [kept]; exact Bool.false_ne_true), ih]
      constructor
      · rintro ⟨i, found, holds, rank⟩
        exact ⟨i + 1, found, holds, by simpa [kept] using rank⟩
      · rintro ⟨i, found, holds, rank⟩
        cases i with
        | zero =>
          cases found
          exact absurd (kept.symm.trans holds) Bool.false_ne_true
        | succ i => exact ⟨i, found, holds, by simpa [kept] using rank⟩
    | true =>
      rw [List.filter_cons_of_pos kept]
      cases k with
      | zero =>
        constructor
        · rintro ⟨⟩
          exact ⟨0, rfl, kept, rfl⟩
        · rintro ⟨i, found, holds, rank⟩
          cases i with
          | zero => exact found
          | succ i => simp [kept] at rank
      | succ k =>
        rw [List.getElem?_cons_succ, ih]
        constructor
        · rintro ⟨i, found, holds, rank⟩
          exact ⟨i + 1, found, holds, by simpa [kept] using rank⟩
        · rintro ⟨i, found, holds, rank⟩
          cases i with
          | zero => simp at rank
          | succ i => exact ⟨i, found, holds, by simpa [kept] using rank⟩

end Mask

section Tracking

variable {K : Type} [Field K] [LinearOrder K] {mask : BitVec 32} {disabled : List Motor}
  {feedback : Motor → MotorState K} {pv : List (PvCommand K)}

/-- The joints of a trajectory that are not disabled on purpose, before the given one. -/
def rank (disabled : List Motor) (pv : List (PvCommand K)) (i : ℕ) : ℕ :=
  (pv.take i).countP fun command => command.motor ∉ disabled

/-- The error is the greatest one of the joints of the mask that are not disabled on purpose, and all of them have
fresh enabled feedback. -/
def Measures (mask : BitVec 32) (disabled : List Motor) (feedback : Motor → MotorState K) (pv : List (PvCommand K))
    (error : K) : Prop :=
  (∀ i command, pv[i]? = some command → mask.getLsbD i = true → command.motor ∉ disabled →
    ∃ position, (feedback command.motor).freshPosition = some position ∧
      |position - command.targetPosition| ≤ error) ∧
  ((∃ i command position, pv[i]? = some command ∧ mask.getLsbD i = true ∧ command.motor ∉ disabled ∧
      (feedback command.motor).freshPosition = some position ∧ error = |position - command.targetPosition|) ∨
    error = 0 ∧ ∀ i command, pv[i]? = some command → mask.getLsbD i = true → command.motor ∈ disabled)

/-- The mask says the same of a joint that is not disabled on purpose and of its place in the batch. -/
def Aligned (mask : BitVec 32) (disabled : List Motor) (pv : List (PvCommand K)) : Prop :=
  ∀ i command, pv[i]? = some command → command.motor ∉ disabled →
    mask.getLsbD (rank disabled pv i) = mask.getLsbD i

omit [LinearOrder K] in
theorem degradedBatch_eq (degraded : Bool) (pv : List (PvCommand K)) : degradedBatch degraded pv =
    pv.map fun command => { command with velocityLimit := command.velocityLimit * commandScale degraded } := by
  unfold degradedBatch commandScale
  split_ifs
  · rfl
  · simp

omit [LinearOrder K] in
/-- The places of the batch. -/
theorem getElem?_batch_iff (degraded : Bool) {k : ℕ} {sent : PvCommand K} :
    (filteredBatch disabled (degradedBatch degraded pv))[k]? = some sent ↔
      ∃ i command, pv[i]? = some command ∧ command.motor ∉ disabled ∧ rank disabled pv i = k ∧
        sent = { command with velocityLimit := command.velocityLimit * commandScale degraded } := by
  rw [filteredBatch, getElem?_filter_iff, degradedBatch_eq]
  simp only [List.getElem?_map, ← List.map_take, List.countP_map, Option.map_eq_some_iff, decide_eq_true_eq]
  constructor
  · rintro ⟨i, ⟨command, found, rfl⟩, enabled, same⟩
    exact ⟨i, command, found, enabled, same, rfl⟩
  · rintro ⟨i, command, found, enabled, same, rfl⟩
    exact ⟨i, ⟨command, found, rfl⟩, enabled, same⟩

/-- What the loop over the batch says of the joints of the trajectory. -/
theorem trackingError_eq_valid {degraded : Bool} {error : K}
    (tracked : trackingError mask feedback (filteredBatch disabled (degradedBatch degraded pv)) = (error, true)) :
    (∀ i command, pv[i]? = some command → command.motor ∉ disabled → mask.getLsbD (rank disabled pv i) = true →
      ∃ position, (feedback command.motor).freshPosition = some position ∧
        |position - command.targetPosition| ≤ error) ∧
    (error = 0 ∨ ∃ i command position, pv[i]? = some command ∧ command.motor ∉ disabled ∧
      mask.getLsbD (rank disabled pv i) = true ∧ (feedback command.motor).freshPosition = some position ∧
        error = |position - command.targetPosition|) := by
  rw [trackingError_eq] at tracked
  split_ifs at tracked
  · cases tracked
  obtain ⟨-, all, reached⟩ := foldl_tracking tracked
  constructor
  · intro i command found enabled masked
    have place := (getElem?_batch_iff degraded).mpr ⟨i, command, found, enabled, rfl, rfl⟩
    exact all _ (List.mk_mem_zipIdx_iff_getElem?.mpr place) masked
  · refine reached.imp id ?_
    rintro ⟨⟨sent, k⟩, member, masked, position, fresh, same⟩
    obtain ⟨i, command, found, enabled, rfl, rfl⟩ :=
      (getElem?_batch_iff degraded).mp (List.mk_mem_zipIdx_iff_getElem?.mp member)
    exact ⟨i, command, position, found, enabled, masked, fresh, same⟩

variable [IsStrictOrderedRing K]

/-- An aligned mask measures the joints that it is about. -/
theorem Aligned.measures (aligned : Aligned mask disabled pv) {degraded : Bool} {error : K}
    (tracked : trackingError mask feedback (filteredBatch disabled (degradedBatch degraded pv)) = (error, true)) :
    Measures mask disabled feedback pv error := by
  obtain ⟨all, reached⟩ := trackingError_eq_valid tracked
  have each : ∀ i command, pv[i]? = some command → mask.getLsbD i = true → command.motor ∉ disabled →
      ∃ position, (feedback command.motor).freshPosition = some position ∧
        |position - command.targetPosition| ≤ error :=
    fun i command found masked enabled =>
      all i command found enabled ((aligned i command found enabled).trans masked)
  refine ⟨each, ?_⟩
  rcases reached with zero | ⟨i, command, position, found, enabled, masked, fresh, same⟩
  · by_cases some : ∃ i command, pv[i]? = some command ∧ mask.getLsbD i = true ∧ command.motor ∉ disabled
    · obtain ⟨i, command, found, masked, enabled⟩ := some
      obtain ⟨position, fresh, small⟩ := each i command found masked enabled
      exact .inl ⟨i, command, position, found, masked, enabled, fresh,
        le_antisymm (zero ▸ abs_nonneg _) small⟩
    · refine .inr ⟨zero, fun i command found masked => ?_⟩
      by_contra enabled
      exact some ⟨i, command, found, masked, enabled⟩
  · exact .inl ⟨i, command, position, found, (aligned i command found enabled).symm.trans masked, enabled, fresh, same⟩

/-- The positions of the targets of a trajectory, but of one motor. -/
def offTarget (pv : List (PvCommand K)) (off motor : Motor) : MotorState K :=
  ⟨true, true, 1, some (((pv.find? fun command => command.motor = motor).map fun command =>
    command.targetPosition).getD 0 + if motor = off then 1 else 0), some 0⟩

omit [LinearOrder K] [IsStrictOrderedRing K] in
theorem offTarget_eq (distinct : (pv.map fun command => command.motor).Nodup) (off : Motor) {i : ℕ}
    {command : PvCommand K} (found : pv[i]? = some command) : (offTarget pv off command.motor).freshPosition =
      some (command.targetPosition + if command.motor = off then 1 else 0) := by
  have member := List.mem_of_getElem? found
  have first : pv.find? (fun other => other.motor = command.motor) = some command := by
    cases result : pv.find? fun other => other.motor = command.motor with
    | none => exact absurd (List.find?_eq_none.mp result command member) (by simp)
    | some other =>
      have motor := List.find?_some result
      rw [decide_eq_true_eq] at motor
      rw [List.inj_on_of_nodup_map distinct (List.mem_of_find?_eq_some result) member motor]
  simp only [offTarget, MotorState.freshPosition, MotorState.enabledPosition, first]
  rfl

theorem offTarget_error (distinct : (pv.map fun command => command.motor).Nodup) (off : Motor) {i : ℕ}
    {command : PvCommand K} (found : pv[i]? = some command) (position : K)
    (fresh : (offTarget pv off command.motor).freshPosition = some position) :
    |position - command.targetPosition| = if command.motor = off then 1 else 0 := by
  rw [offTarget_eq distinct off found] at fresh
  cases fresh
  rw [add_sub_cancel_left]
  split_ifs <;> simp

omit [Field K] [LinearOrder K] [IsStrictOrderedRing K] in
theorem place_eq (distinct : (pv.map fun command => command.motor).Nodup) {i j : ℕ} {command other : PvCommand K}
    (found : pv[i]? = some command) (found' : pv[j]? = some other) (motor : command.motor = other.motor) : i = j := by
  have bound : i < (pv.map fun command => command.motor).length := by
    rw [List.length_map]
    exact (List.getElem?_eq_some_iff.mp found).1
  refine (List.getElem?_inj bound distinct).mp ?_
  rw [List.getElem?_map, List.getElem?_map, found, found', Option.map_some, Option.map_some, motor]

/-- Where one motor is off its target, an error that measures the mask is one exactly if the mask has the motor. -/
theorem measures_offTarget (distinct : (pv.map fun command => command.motor).Nodup) {i : ℕ} {command : PvCommand K}
    (found : pv[i]? = some command) (enabled : command.motor ∉ disabled) {error : K}
    (measures : Measures mask disabled (offTarget pv command.motor) pv error) :
    error = if mask.getLsbD i = true then 1 else 0 := by
  obtain ⟨each, reached⟩ := measures
  have errorOf := fun j other (found' : pv[j]? = some other) => offTarget_error distinct command.motor found'
  split_ifs with masked
  · obtain ⟨position, fresh, small⟩ := each i command found masked enabled
    rw [errorOf i command found position fresh, if_pos rfl] at small
    rcases reached with ⟨j, other, position', found', -, -, fresh', rfl⟩ | ⟨rfl, none⟩
    · rw [errorOf j other found' position' fresh'] at small ⊢
      split_ifs at small ⊢
      · rfl
      · exact absurd small (not_le.mpr one_pos)
    · exact absurd (none i command found masked) enabled
  · rcases reached with ⟨j, other, position, found', masked', -, fresh, rfl⟩ | ⟨rfl, -⟩
    · rw [errorOf j other found' position fresh]
      refine if_neg fun motor => masked ?_
      rwa [← place_eq distinct found' found motor]
    · rfl

/-- Where one motor is off its target, the loop finds an error of one exactly if the mask has its place in the
batch. -/
theorem trackingError_offTarget (distinct : (pv.map fun command => command.motor).Nodup) {i : ℕ}
    {command : PvCommand K} (found : pv[i]? = some command) (enabled : command.motor ∉ disabled) {degraded : Bool} :
    trackingError mask (offTarget pv command.motor) (filteredBatch disabled (degradedBatch degraded pv)) =
      (if mask.getLsbD (rank disabled pv i) = true then 1 else 0, true) := by
  have place := (getElem?_batch_iff degraded).mpr ⟨i, command, found, enabled, rfl, rfl⟩
  have valid : (trackingError mask (offTarget pv command.motor)
      (filteredBatch disabled (degradedBatch degraded pv))).2 = true := by
    rw [trackingError_eq, if_neg (List.ne_nil_of_mem (List.mem_of_getElem? place))]
    exact foldl_valid 0 fun _ _ => rfl
  generalize tracked : trackingError mask (offTarget pv command.motor)
    (filteredBatch disabled (degradedBatch degraded pv)) = result at valid ⊢
  obtain ⟨error, _⟩ := result
  cases valid
  obtain ⟨each, reached⟩ := trackingError_eq_valid tracked
  have errorOf := fun j other (found' : pv[j]? = some other) => offTarget_error distinct command.motor found'
  congr 1
  split_ifs with masked
  · obtain ⟨position, fresh, small⟩ := each i command found enabled masked
    rw [errorOf i command found position fresh, if_pos rfl] at small
    rcases reached with rfl | ⟨j, other, position', found', -, -, fresh', rfl⟩
    · exact absurd small (not_le.mpr one_pos)
    · rw [errorOf j other found' position' fresh'] at small ⊢
      split_ifs at small ⊢
      · rfl
      · exact absurd small (not_le.mpr one_pos)
  · rcases reached with rfl | ⟨j, other, position, found', -, masked', fresh, rfl⟩
    · rfl
    · rw [errorOf j other found' position fresh]
      refine if_neg fun motor => masked ?_
      rwa [← place_eq distinct found' found motor]

/-- In every cycle of a trajectory, a valid tracking error is the one of the joints of the mask exactly if the mask is
aligned with the batch. -/
theorem tracking_measures_iff (sqrt : K → K) (config : Config K) (c : ArmControl K) (pv : List (PvCommand K))
    (trajectory : c.mailbox = .commands pv) (inactive : c.follow = none)
    (distinct : (pv.map fun command => command.motor).Nodup) (mask : BitVec 32) (disabled : List Motor) :
    (∀ input batch error, input.disabled = disabled → (c.cycle sqrt config input).1 = .sent batch →
      trackingError mask input.trackingFeedback batch = (error, true) →
        Measures mask disabled input.trackingFeedback pv error) ↔ Aligned mask disabled pv := by
  have cycle : ∀ input, (c.cycle sqrt config input).1 = input.send pv := by
    intro input
    rw [ArmControl.cycle, trajectory, inactive]
  constructor
  · intro measured i command found enabled
    have one := measured ⟨false, offTarget pv command.motor, offTarget pv command.motor,
      offTarget pv command.motor, disabled, true⟩ _ _ rfl
      ((cycle _).trans (CycleInput.send_of_sends rfl pv)) (trackingError_offTarget distinct found enabled)
    have same := measures_offTarget distinct found enabled one
    cases rankBit : mask.getLsbD (rank disabled pv i) <;> cases bit : mask.getLsbD i <;> simp [rankBit, bit] at same ⊢
  · rintro aligned input batch error rfl sent tracked
    rw [cycle, CycleInput.send] at sent
    split_ifs at sent
    cases sent
    exact aligned.measures tracked

theorem getLsbD_twoPow_sub_one {n i : ℕ} (bounded : n < 32) (below : i < n) :
    (BitVec.twoPow 32 n - 1).getLsbD i = true := by
  have small : 2 ^ n < 2 ^ 32 := Nat.pow_lt_pow_right Nat.one_lt_two bounded
  have value : (BitVec.twoPow 32 n - 1).toNat = 2 ^ n - 1 := by
    have positive : 1 ≤ 2 ^ n := Nat.one_le_two_pow
    have one : (1 : BitVec 32).toNat = 1 := rfl
    rw [BitVec.toNat_sub, BitVec.toNat_twoPow, Nat.mod_eq_of_lt small, one]
    omega
  rw [BitVec.getLsbD, value, Nat.testBit_two_pow_sub_one]
  exact decide_eq_true below

omit [Field K] [LinearOrder K] [IsStrictOrderedRing K] in
/-- A request that names no joints is aligned with every batch. -/
theorem aligned_of_unrequested (bounded : pv.length ≤ 32)
    (prepared : preparedTrackingMask pv.length 0 = .ok mask) : Aligned mask disabled pv := by
  obtain ⟨-, rest⟩ := reject_bind_eq_ok prepared
  cases rest
  have all : ∀ i < pv.length, (if 32 ≤ pv.length then BitVec.allOnes 32 else BitVec.twoPow 32 pv.length - 1 :
      BitVec 32).getLsbD i = true := by
    intro i below
    split_ifs with full
    · rw [BitVec.getLsbD_allOnes]
      exact decide_eq_true (below.trans_le bounded)
    · exact getLsbD_twoPow_sub_one (not_le.mp full) below
  intro i command found enabled
  have bound := (List.getElem?_eq_some_iff.mp found).1
  have below : rank disabled pv i ≤ i := (List.countP_le_length ..).trans (by rw [List.length_take]; omega)
  rw [if_pos rfl, all i bound, all _ (below.trans_lt bound)]

end Tracking

/-! ## A mask that is not aligned -/

/-- The commands of a trajectory of three joints. -/
def threeJoints : List (PvCommand ℚ) := [⟨0, 0, 1⟩, ⟨1, 0, 1⟩, ⟨2, 0, 1⟩]

/-- The first joint is disabled, the second one is a radian off its target. -/
def secondOff : CycleInput ℚ :=
  ⟨false, offTarget threeJoints 1, offTarget threeJoints 1, offTarget threeJoints 1, [0], true⟩

/-- With the first joint disabled, the error of a mask of the second joint leaves out the second joint. -/
theorem tracking_skips_masked : ∃ batch, ((⟨.commands threeJoints, none⟩ : ArmControl ℚ).cycle id twoArms
      secondOff).1 = .sent batch ∧ trackingError 0b010 secondOff.trackingFeedback batch = (0, true) ∧
    ¬Measures 0b010 secondOff.disabled secondOff.trackingFeedback threeJoints 0 := by
  refine ⟨_, rfl, by decide +kernel, ?_⟩
  rintro ⟨each, -⟩
  obtain ⟨position, fresh, small⟩ := each 1 ⟨1, 0, 1⟩ rfl (by decide) (by decide)
  have off : (secondOff.trackingFeedback 1).freshPosition = some 1 := by decide +kernel
  cases off.symm.trans fresh
  norm_num at small

/-- With the last joint disabled the error is measured, with the first one disabled it is not. -/
theorem tracking_measures_iff_threeJoints :
    (∀ input batch error, input.disabled = [2] →
      ((⟨.commands threeJoints, none⟩ : ArmControl ℚ).cycle id twoArms input).1 = .sent batch →
        trackingError 0b010 input.trackingFeedback batch = (error, true) →
          Measures 0b010 [2] input.trackingFeedback threeJoints error) ∧
    ¬∀ input batch error, input.disabled = [0] →
      ((⟨.commands threeJoints, none⟩ : ArmControl ℚ).cycle id twoArms input).1 = .sent batch →
        trackingError 0b010 input.trackingFeedback batch = (error, true) →
          Measures 0b010 [0] input.trackingFeedback threeJoints error := by
  rw [tracking_measures_iff id twoArms _ threeJoints rfl rfl (by decide) 0b010 [2],
    tracking_measures_iff id twoArms _ threeJoints rfl rfl (by decide) 0b010 [0]]
  constructor
  · intro i command found enabled
    have inside : i < 3 := (List.getElem?_eq_some_iff.mp found).1
    obtain rfl | rfl | rfl : i = 0 ∨ i = 1 ∨ i = 2 := by omega
    · decide +kernel
    · decide +kernel
    · cases found
      exact absurd (List.mem_singleton_self 2) enabled
  · intro aligned
    exact absurd (aligned 1 ⟨1, 0, 1⟩ rfl (by decide)) (by decide +kernel)

end MotorDrive.Control
