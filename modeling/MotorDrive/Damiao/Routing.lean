import MotorDrive.Damiao.Presence

/-!
# The routing of received frames

`accepts_frame` of the handles in the motor table.  A handle answers to its feedback identifier and, if that is the
default one of its motor, to the alias of the gateway; the candidates of a discovery have distinct motor and feedback
identifiers, but the alias of one may be the feedback identifier of another.
-/

namespace MotorDrive.Damiao

open Controller

/-! ## Identifiers -/

/-- `compact_id`. -/
def compactId (motorId : UInt16) : UInt16 := motorId &&& 0x0F

/-- `configured_feedback`: the default feedback identifier of a motor. -/
def defaultFeedbackId (motorId : UInt16) : UInt16 := 0x10 ||| compactId motorId

/-- `socketcanfd_feedback`: the feedback identifier of a motor behind the gateway. -/
def aliasFeedbackId (motorId : UInt16) : UInt16 := 0x200 ||| compactId motorId

theorem toNat_compactId (motorId : UInt16) : (compactId motorId).toNat = motorId.toNat % 16 := by
  rw [compactId, UInt16.toNat_and]
  exact Nat.and_two_pow_sub_one_eq_mod motorId.toNat 4

theorem toNat_defaultFeedbackId (motorId : UInt16) :
    (defaultFeedbackId motorId).toNat = 16 + motorId.toNat % 16 := by
  rw [defaultFeedbackId, UInt16.toNat_or, toNat_compactId]
  exact (Nat.two_pow_add_eq_or_of_lt (i := 4) (Nat.mod_lt _ (by decide)) 1).symm

theorem toNat_aliasFeedbackId (motorId : UInt16) : (aliasFeedbackId motorId).toNat = 512 + motorId.toNat % 16 := by
  rw [aliasFeedbackId, UInt16.toNat_or, toNat_compactId]
  exact (Nat.two_pow_add_eq_or_of_lt (i := 4) (Nat.mod_lt _ (by decide)) 32).symm

theorem default_ne_alias (motorId motorId' : UInt16) : defaultFeedbackId motorId ≠ aliasFeedbackId motorId' := by
  intro same
  have same := congrArg UInt16.toNat same
  rw [toNat_defaultFeedbackId, toNat_aliasFeedbackId] at same
  omega

theorem default_of_aliasFeedbackId {motorId motorId' : UInt16}
    (same : aliasFeedbackId motorId = aliasFeedbackId motorId') :
    defaultFeedbackId motorId = defaultFeedbackId motorId' := by
  have same := congrArg UInt16.toNat same
  rw [toNat_aliasFeedbackId, toNat_aliasFeedbackId] at same
  refine UInt16.toNat_inj.mp ?_
  rw [toNat_defaultFeedbackId, toNat_defaultFeedbackId]
  omega

theorem matches_iff {arbitrationId : UInt32} {feedbackId motorId : UInt16} :
    matchesFeedbackArbitrationId arbitrationId feedbackId motorId = true ↔ arbitrationId = feedbackId.toUInt32 ∨
      feedbackId = defaultFeedbackId motorId ∧ arbitrationId = (aliasFeedbackId motorId).toUInt32 := by
  have gateway : (0x200 : UInt32) ||| (motorId &&& 0x0F).toUInt32 = (aliasFeedbackId motorId).toUInt32 := by
    rw [aliasFeedbackId, compactId, UInt16.toUInt32_or]
    rfl
  simp only [matchesFeedbackArbitrationId, gateway, Bool.or_eq_true, Bool.and_eq_true, decide_eq_true_eq]
  rfl

/-- Two handles with distinct feedback identifiers answer to one arbitration identifier only if the alias of one of
them is the feedback identifier of the other. -/
theorem matches_both {arbitrationId : UInt32} {feedbackId feedbackId' motorId motorId' : UInt16}
    (first : matchesFeedbackArbitrationId arbitrationId feedbackId motorId = true)
    (second : matchesFeedbackArbitrationId arbitrationId feedbackId' motorId' = true)
    (distinct : feedbackId ≠ feedbackId') :
    feedbackId = defaultFeedbackId motorId ∧ feedbackId' = aliasFeedbackId motorId ∨
      feedbackId' = defaultFeedbackId motorId' ∧ feedbackId = aliasFeedbackId motorId' := by
  rcases matches_iff.mp first with rfl | ⟨default, rfl⟩
  · rcases matches_iff.mp second with same | ⟨default', same⟩
    · exact absurd (UInt16.toUInt32_inj.mp same) distinct
    · exact .inr ⟨default', UInt16.toUInt32_inj.mp same⟩
  · rcases matches_iff.mp second with same | ⟨default', same⟩
    · exact .inl ⟨default, (UInt16.toUInt32_inj.mp same).symm⟩
    · have same := default_of_aliasFeedbackId (UInt16.toUInt32_inj.mp same)
      exact absurd (default.trans (same.trans default'.symm)) distinct

/-! ## Frames -/

/-- A handle that a frame is not addressed to ignores it. -/
theorem acceptsFrame_of_not_matches {h : MotorHandle} {frame : CanFrame}
    (other : ¬ matchesFeedbackArbitrationId frame.id h.feedbackId h.motorId = true) :
    h.acceptsFrame frame = (false, h) := by
  unfold MotorHandle.acceptsFrame
  rw [if_pos (by simp [other])]

theorem matches_of_acceptsFrame {h : MotorHandle} {frame : CanFrame} (accepted : (h.acceptsFrame frame).1 = true) :
    matchesFeedbackArbitrationId frame.id h.feedbackId h.motorId = true := by
  by_contra other
  rw [acceptsFrame_of_not_matches other] at accepted
  cases accepted

/-- A handle that a standard frame of eight bytes is addressed to accepts it or counts an identity mismatch. -/
theorem acceptsFrame_of_matches {h : MotorHandle} {frame : CanFrame} (standard : frame.isExtended = false)
    (length : frame.dlc = 8) (addressed : matchesFeedbackArbitrationId frame.id h.feedbackId h.motorId = true) :
    (h.acceptsFrame frame).1 = true ∨
      (h.acceptsFrame frame).2.integrity.identityMismatchCount = h.integrity.identityMismatchCount + 1 := by
  unfold MotorHandle.acceptsFrame
  rw [if_neg (by simp [standard, addressed]), if_neg (by simp [length])]
  split_ifs
  · exact .inr rfl
  · exact .inl rfl

/-- A sensor frame from the gateway. -/
def gatewayFrame (motorId : UInt16) : CanFrame :=
  standardFrame (aliasFeedbackId motorId).toUInt32 #v[(compactId motorId).toUInt8, 0xFF, 0, 0, 0, 0, 0, 0]

theorem decodedCanId_gatewayFrame (motorId : UInt16) :
    decodedCanId (gatewayFrame motorId).data = compactId motorId := by
  have sensor : decodedCanId (gatewayFrame motorId).data = ((compactId motorId).toUInt8 &&& 0x0F).toUInt16 := rfl
  have small : motorId.toNat % 16 < 16 := Nat.mod_lt _ (by decide)
  rw [sensor]
  refine UInt16.toNat_inj.mp ?_
  rw [UInt8.toNat_toUInt16, UInt8.toNat_and, UInt16.toNat_toUInt8, toNat_compactId]
  refine (Nat.and_two_pow_sub_one_eq_mod _ 4).trans ?_
  omega

/-- A motor with the default feedback identifier accepts its frame from the gateway. -/
theorem acceptsFrame_gatewayFrame {h : MotorHandle} (default : h.feedbackId = defaultFeedbackId h.motorId) :
    (h.acceptsFrame (gatewayFrame h.motorId)).1 = true := by
  have addressed : matchesFeedbackArbitrationId (gatewayFrame h.motorId).id h.feedbackId h.motorId = true :=
    matches_iff.mpr (.inr ⟨default, rfl⟩)
  have expected : h.expectedCanId (gatewayFrame h.motorId).data = compactId h.motorId := rfl
  unfold MotorHandle.acceptsFrame
  have standard : (gatewayFrame h.motorId).isExtended = false := rfl
  have length : (gatewayFrame h.motorId).dlc = 8 := rfl
  simp only [standard, addressed, length, decodedCanId_gatewayFrame, expected, ne_eq, not_true_eq_false, Bool.not_true,
    Bool.or_self, Bool.false_eq_true, if_false]

/-! ## Candidates -/

/-- No candidate has the alias of another as its feedback identifier. -/
def AliasesFree (candidates : List MotorCandidate) : Prop :=
  ∀ candidate ∈ candidates, ∀ other ∈ candidates, candidate.policy ≠ .disabled → other.policy ≠ .disabled →
    candidate.feedbackId = defaultFeedbackId candidate.motorId →
      other.feedbackId ≠ aliasFeedbackId candidate.motorId

/-- Candidates that pass the checks of a discovery have distinct feedback identifiers. -/
theorem distinct_of_checkCandidates {roles : List String} {motorIds feedbackIds : List UInt16}
    {candidates : List MotorCandidate} (checked : checkCandidates roles motorIds feedbackIds candidates = .ok ()) :
    (∀ candidate ∈ candidates, candidate.policy ≠ .disabled → candidate.feedbackId ∉ feedbackIds) ∧
      ∀ candidate ∈ candidates, ∀ other ∈ candidates, candidate.policy ≠ .disabled → other.policy ≠ .disabled →
        candidate.motorId ≠ other.motorId → candidate.feedbackId ≠ other.feedbackId := by
  induction candidates generalizing roles motorIds feedbackIds with
  | nil => exact ⟨fun _ member => absurd member List.not_mem_nil, fun _ member => absurd member List.not_mem_nil⟩
  | cons first rest ih =>
    unfold checkCandidates at checked
    split_ifs at checked with empty duplicate disabled model known feedback
    · obtain ⟨new, distinct⟩ := ih checked
      refine ⟨fun candidate member active => ?_, fun candidate member other member' active active' => ?_⟩
      · rcases List.mem_cons.mp member with rfl | member
        · exact absurd disabled active
        · exact new candidate member active
      · rcases List.mem_cons.mp member with rfl | member
        · exact absurd disabled active
        · rcases List.mem_cons.mp member' with rfl | member'
          · exact absurd disabled active'
          · exact distinct candidate member other member' active active'
    · obtain ⟨new, distinct⟩ := ih checked
      have first_ne : ∀ candidate ∈ rest, candidate.policy ≠ .disabled → candidate.feedbackId ≠ first.feedbackId :=
        fun candidate member active same => new candidate member active (same ▸ List.mem_cons_self)
      refine ⟨fun candidate member active => ?_, fun candidate member other member' active active' ids => ?_⟩
      · rcases List.mem_cons.mp member with rfl | member
        · exact feedback
        · exact fun old => new candidate member active (List.mem_cons_of_mem _ old)
      · rcases List.mem_cons.mp member with rfl | later
        · rcases List.mem_cons.mp member' with rfl | member'
          · exact absurd rfl ids
          · exact (first_ne other member' active').symm
        · rcases List.mem_cons.mp member' with rfl | member'
          · exact first_ne candidate later active
          · exact distinct candidate later other member' active active' ids

/-! ## Controllers -/

/-- At most one handle of the motor table accepts a standard frame of eight bytes, and none of the others counts an
identity mismatch for it. -/
def Unambiguous (s : Controller) : Prop :=
  ∀ frame : CanFrame, frame.isExtended = false → frame.dlc = 8 →
    ∀ motor ∈ s.motors.entries, ∀ other ∈ s.motors.entries, motor ≠ other →
      ∀ h h' : MotorHandle, s.handles[motor.address]? = some h → s.handles[other.address]? = some h' →
        (h.acceptsFrame frame).1 = true → (h'.acceptsFrame frame).1 = false ∧
          (h'.acceptsFrame frame).2.integrity.identityMismatchCount = h'.integrity.identityMismatchCount

/-- The entry of the motor table has a handle that was made for the candidate. -/
structure Serves (s : Controller) (motor : MotorRef) (candidate : MotorCandidate) : Prop where
  entry : motor ∈ s.motors.entries
  active : candidate.policy ≠ .disabled
  motorId : candidate.motorId = motor.motorId
  handle : ∃ h, s.handles[motor.address]? = some h ∧ h.motorId = candidate.motorId ∧
    h.feedbackId = candidate.feedbackId

section Routing

variable {candidates : List MotorCandidate} {s : Controller}

/-- A table of candidates whose aliases are free routes every frame to one handle. -/
theorem unambiguous_of_aliasesFree (checked : checkCandidates [] [] [] candidates = .ok ())
    (serves : ∀ motor ∈ s.motors.entries, ∃ candidate ∈ candidates, Serves s motor candidate)
    (aliases : AliasesFree candidates) : Unambiguous s := by
  intro frame _ _ motor member other member' ne h h' found found' accepted
  obtain ⟨candidate, listed, -, active, id, served, servedAt, motorId, feedbackId⟩ := serves motor member
  obtain ⟨candidate', listed', -, active', id', served', servedAt', motorId', feedbackId'⟩ := serves other member'
  cases found.symm.trans servedAt
  cases found'.symm.trans servedAt'
  have ids : candidate.motorId ≠ candidate'.motorId := by
    rw [id, id']
    exact fun same => ne (List.inj_on_of_nodup_map s.motors.nodup member member' same)
  have distinct := (distinct_of_checkCandidates checked).2 candidate listed candidate' listed' active active' ids
  have unaddressed : ¬ matchesFeedbackArbitrationId frame.id h'.feedbackId h'.motorId = true := by
    intro addressed
    have addressed' := matches_of_acceptsFrame accepted
    rw [motorId', feedbackId'] at addressed
    rw [motorId, feedbackId] at addressed'
    rcases matches_both addressed' addressed distinct with ⟨default, taken⟩ | ⟨default, taken⟩
    · exact aliases candidate listed candidate' listed' active active' default taken
    · exact aliases candidate' listed' candidate listed active' active default taken
  rw [acceptsFrame_of_not_matches unaddressed]
  exact ⟨rfl, rfl⟩

/-- A table that routes every frame to one handle has candidates whose aliases are free. -/
theorem aliasesFree_of_unambiguous
    (serves : ∀ candidate ∈ candidates, candidate.policy ≠ .disabled → ∃ motor, Serves s motor candidate)
    (unambiguous : Unambiguous s) : AliasesFree candidates := by
  intro candidate listed other listed' active active' default taken
  obtain ⟨motor, member, -, id, h, found, motorId, feedbackId⟩ := serves candidate listed active
  obtain ⟨motor', member', -, id', h', found', motorId', feedbackId'⟩ := serves other listed' active'
  have accepted : (h.acceptsFrame (gatewayFrame h.motorId)).1 = true :=
    acceptsFrame_gatewayFrame (by rw [feedbackId, motorId, default])
  have addressed : matchesFeedbackArbitrationId (gatewayFrame h.motorId).id h'.feedbackId h'.motorId = true := by
    refine matches_iff.mpr (.inl ?_)
    rw [feedbackId', taken, motorId]
    rfl
  have ne : motor ≠ motor' := by
    rintro rfl
    cases found.symm.trans found'
    refine default_ne_alias candidate.motorId candidate.motorId ?_
    rw [← default, ← feedbackId, feedbackId', taken]
  obtain ⟨refused, uncounted⟩ := unambiguous _ rfl rfl motor member motor' member' ne h h' found found' accepted
  rcases acceptsFrame_of_matches rfl rfl addressed with accepted' | counted
  · rw [refused] at accepted'
    cases accepted'
  · omega

/-- The setup of a discovery makes a handle for every candidate that is not disabled. -/
theorem serves_of_prepared {before : MotorTable} {probes : List Probe} (empty : before.entries = [])
    (prepared : Prepared candidates before probes s) :
    (∀ motor ∈ s.motors.entries, ∃ candidate ∈ candidates, Serves s motor candidate) ∧
      ∀ candidate ∈ candidates, candidate.policy ≠ .disabled → ∃ motor, Serves s motor candidate := by
  have serving : ∀ probe ∈ probes, ∀ motor : MotorRef, motor ∈ s.motors.entries →
      probe.result.motor = some motor.address → probe.result.candidate.motorId = motor.motorId →
        probe.result.candidate ∈ candidates ∧ Serves s motor probe.result.candidate := by
    intro probe listed motor member address id
    refine ⟨prepared.candidates ▸ List.mem_map.mpr ⟨probe, listed, rfl⟩, ?_⟩
    obtain ⟨-, ⟨-, none, -⟩ | ⟨active, -, address', some, h, found, motorId, feedbackId, -⟩⟩ :=
      prepared.started probe listed
    · rw [address] at none
      cases none
    · cases address.symm.trans some
      exact ⟨member, active, id, h, found, motorId, feedbackId⟩
  refine ⟨fun motor member => ?_, fun candidate listed active => ?_⟩
  · rcases (prepared.table motor).mp member with before | ⟨probe, listed, address, id⟩
    · rw [empty] at before
      exact absurd before List.not_mem_nil
    · exact ⟨_, serving probe listed motor member address id⟩
  · obtain ⟨probe, probed, rfl⟩ := List.mem_map.mp (prepared.candidates.symm ▸ listed)
    obtain ⟨-, ⟨disabled, -⟩ | ⟨-, -, address, some, -⟩⟩ := prepared.started probe probed
    · exact absurd disabled active
    · have member := (prepared.table ⟨probe.result.candidate.motorId, address⟩).mpr (.inr ⟨probe, probed, some, rfl⟩)
      exact ⟨_, (serving probe probed _ member some rfl).2⟩

/-- After a discovery every handle of the table is that of a candidate. -/
theorem serves_of_complete {results : List MotorDiscoveryResult} {before : Controller}
    (complete : Complete before candidates results s) :
    ∀ motor ∈ s.motors.entries, ∃ candidate ∈ candidates, Serves s motor candidate := by
  intro motor member
  obtain ⟨result, listed, present, id, address⟩ := (complete.table motor).mp member
  obtain ⟨active, address', h, some, found, motorId, feedbackId, -⟩ := complete.present result listed present
  cases address.symm.trans some
  exact ⟨result.candidate, complete.candidates ▸ List.mem_map.mpr ⟨result, listed, rfl⟩, member, active, id, h, found,
    motorId, feedbackId⟩

/-- Later states of a controller route alike. -/
theorem Serves.later {s' : Controller} {motor : MotorRef} {candidate : MotorCandidate}
    (serves : Serves s motor candidate) (still : Still s s') : Serves s' motor candidate := by
  obtain ⟨member, active, id, h, found, motorId, feedbackId⟩ := serves
  obtain ⟨h', found', onward⟩ := still.onward.handles _ h found
  exact ⟨still.motors ▸ member, active, id, h', found', onward.same.motorId.trans motorId,
    onward.same.feedbackId.trans feedbackId⟩

end Routing

/-- For every list of candidates that the checks of a discovery accept: once their handles are made, and whatever is
received from then on, every frame goes to at most one handle and is a mismatch for none if and only if no
candidate has the alias of another as its feedback identifier; and if so, this also holds whenever the discovery has
ended. -/
theorem routing_unambiguous_iff (candidates : List MotorCandidate) (s : Controller) (can : s.CanDiscover)
    (checked : checkCandidates [] [] [] candidates = .ok ()) :
    (∀ probes, (setUp candidates s).1 = .ok probes → ∀ s', Still (setUp candidates s).2 s' →
      (Unambiguous s' ↔ AliasesFree candidates)) ∧
    (AliasesFree candidates → ∀ (timeout retryCount : ℕ) (trace : ControllerTrace) (s' : Controller)
      (r : Except ControllerError (List MotorDiscoveryResult)),
      (discoverDamiaoMotors candidates timeout retryCount).Runs (Meanwhile False) s trace r s' → Unambiguous s') := by
  refine ⟨fun probes made s' still => ?_, fun aliases timeout retryCount trace s' r runs => ?_⟩
  · have nodup := (nodup_of_checkCandidates checked).1
    have setUp := setsUp candidates nodup (s := s) fun entry member => absurd (can.1 ▸ member) List.not_mem_nil
    obtain ⟨served, serving⟩ := serves_of_prepared can.1 (setUp.prepared probes made)
    refine ⟨aliasesFree_of_unambiguous fun candidate listed active => ?_, unambiguous_of_aliasesFree checked ?_⟩
    · obtain ⟨motor, serves⟩ := serving candidate listed active
      exact ⟨motor, serves.later still⟩
    · intro motor member
      obtain ⟨candidate, listed, serves⟩ := served motor (still.motors ▸ member)
      exact ⟨candidate, listed, serves.later still⟩
  · obtain ⟨returns, throws⟩ := Proc.wp_iff.mp (wp_discoverDamiaoMotors can) trace r s' runs
    cases r with
    | ok results => exact unambiguous_of_aliasesFree checked (serves_of_complete (returns results rfl)) aliases
    | error e =>
      have empty := (throws e rfl).1.1
      intro _ _ _ motor member
      exact absurd (empty ▸ member) List.not_mem_nil

/-- Candidates with motor identifiers 1 and 2. -/
def pairCandidates (feedbackId : UInt16) : List MotorCandidate :=
  [⟨"shoulder", 1, 0x11, "4340P", .required⟩, ⟨"elbow", 2, feedbackId, "4340P", .required⟩]

theorem setUp_pair (feedbackId : UInt16) : setUp (pairCandidates feedbackId) noMotors =
    (.ok [⟨⟨⟨"shoulder", 1, 0x11, "4340P", .required⟩, .notInstalled, some 0, ""⟩, 0, true⟩,
      ⟨⟨⟨"elbow", 2, feedbackId, "4340P", .required⟩, .notInstalled, some 1, ""⟩, 0, true⟩],
      firstInstalled.install (secondHandle feedbackId)) := by
  simp only [setUp, pairCandidates, make_first, make_second, Except.map, reduceCtorEq, if_false]
  rfl

/-- Both motors answer to an alias as well, and the aliases are free. -/
theorem routing_unambiguous_pair :
    (Unambiguous (firstInstalled.install (secondHandle 0x12)) ↔ AliasesFree (pairCandidates 0x12)) ∧
      AliasesFree (pairCandidates 0x12) := by
  have checked : checkCandidates [] [] [] (pairCandidates 0x12) = .ok () := by
    simp [checkCandidates, pairCandidates]
  have routing := (routing_unambiguous_iff (pairCandidates 0x12) noMotors ⟨rfl, rfl⟩ checked).1 _
    (congrArg Prod.fst (setUp_pair 0x12)) (firstInstalled.install (secondHandle 0x12)) (by rw [setUp_pair]; exact .refl _)
  refine ⟨routing, ?_⟩
  unfold AliasesFree
  decide

/-- The feedback identifier of motor 2 is the alias of motor 1. -/
def gatewayCandidates : List MotorCandidate := pairCandidates 0x201

/-- Candidates that the checks accept, with a frame that one of the handles accepts and the other counts as a
mismatch. -/
theorem routing_ambiguous : checkCandidates [] [] [] gatewayCandidates = .ok () ∧
    (∃ probes, (setUp gatewayCandidates noMotors).1 = .ok probes) ∧
      ¬ Unambiguous (setUp gatewayCandidates noMotors).2 := by
  have installed := setUp_pair 0x201
  refine ⟨by simp [checkCandidates, gatewayCandidates, pairCandidates], ⟨_, congrArg Prod.fst installed⟩, ?_⟩
  rw [gatewayCandidates, installed]
  intro unambiguous
  have routed := (unambiguous (sensorFrame 0x201 1) rfl rfl ⟨1, 0⟩ (by decide) ⟨2, 1⟩ (by decide) (by decide) _ _ rfl rfl
    (by decide)).2
  revert routed
  decide

end MotorDrive.Damiao
