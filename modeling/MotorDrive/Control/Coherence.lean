import MotorDrive.Control.Follow
import MotorDrive.Control.Product

/-!
# The settings and the active command

While `product_pv_limits_mutex` is free, a per-joint profile of the arm mailbox has the limits of the stored
percentages, and a call that fails leaves the percentages and the limits of the mailbox alone in each of its sections.

The update of a profile happens before its setting is stored, so the limits that a profile has are in between those
of other settings.  `HasLimits` is about any limits; what runs without the mutex keeps it for all of them.
-/

namespace MotorDrive.Control

open Trajectory (Motor)
open Threads Validate Proc

variable {θ K : Type} [Field K] [LinearOrder K]

omit [Field K] [LinearOrder K] in
/-- A per-joint profile of the mailbox belongs to a command of the user and has the limits. -/
def ArmControl.HasLimits (c : ArmControl K) (limits : List K × List K) : Prop :=
  ∀ mailbox, c.mailbox = .ordinary mailbox → mailbox.perJointProfile = true →
    mailbox.userCommand = true ∧ mailbox.joints.map PvJoint.referenceVelocityLimit = limits.1 ∧
      mailbox.joints.map PvJoint.referenceAccelerationLimit = limits.2

/-- A per-joint profile of the mailbox has the limits of the settings. -/
def Coherent (s : ProductState θ K) : Prop := s.arm.HasLimits (effectiveProductPvLimits s.settings)

/-- The limits of an ordinary command. -/
structure MailboxLimits (K : Type) where
  perJointProfile : Bool
  maxReferenceVelocity : K
  maxReferenceAcceleration : K
  pvVelocityLimit : K
  velocities : List K
  accelerations : List K

/-- The limits of the mailbox, if it has an ordinary command. -/
def ArmMailbox.limits : ArmMailbox K → Option (MailboxLimits K)
  | .ordinary mailbox => some {
      perJointProfile := mailbox.perJointProfile
      maxReferenceVelocity := mailbox.maxReferenceVelocity
      maxReferenceAcceleration := mailbox.maxReferenceAcceleration
      pvVelocityLimit := mailbox.pvVelocityLimit
      velocities := mailbox.joints.map PvJoint.referenceVelocityLimit
      accelerations := mailbox.joints.map PvJoint.referenceAccelerationLimit }
  | _ => none

/-- What a failing call must leave alone: the percentages and the limits of the mailbox. -/
def ProductState.limits (s : ProductState θ K) : PvSettings K × Option (MailboxLimits K) :=
  (s.settings, s.arm.mailbox.limits)

section Limits

variable {config : Config K} {c : ArmControl K} {limits : List K × List K}

omit [Field K] [LinearOrder K] in
theorem hasLimits_of_not_ordinary (other : ∀ mailbox, c.mailbox ≠ .ordinary mailbox) : c.HasLimits limits :=
  fun mailbox ordinary => absurd ordinary (other mailbox)

omit [Field K] [LinearOrder K] in
theorem SameLimits.hasLimits {mailbox mailbox' : Ordinary K} (same : SameLimits mailbox mailbox') {c' : ArmControl K}
    (before : c.mailbox = .ordinary mailbox) (after : c'.mailbox = .ordinary mailbox') (has : c.HasLimits limits) :
    c'.HasLimits limits := by
  intro other ordinary profile
  cases after.symm.trans ordinary
  obtain ⟨user, velocities, accelerations⟩ := has mailbox before (same.perJointProfile ▸ profile)
  exact ⟨same.userCommand.trans user, same.velocityLimits.trans velocities,
    same.accelerationLimits.trans accelerations⟩

/-! ## The two operations on a profile -/

omit [LinearOrder K] in
/-- The entries of a list by their index. -/
theorem eq_of_getD {values : List K} {joints : List (PvJoint K)} {f : PvJoint K → K}
    (same : joints.length = values.length)
    (each : ∀ n joint, joints[n]? = some joint → f joint = values.getD n 0) : joints.map f = values := by
  refine List.ext_getElem? fun n => ?_
  rw [List.getElem?_map]
  cases found : joints[n]? with
  | none =>
    have beyond := List.getElem?_eq_none_iff.mp found
    rw [List.getElem?_eq_none (same ▸ beyond)]
    rfl
  | some joint =>
    have bound : n < values.length := same ▸ (List.getElem?_eq_some_iff.mp found).1
    rw [Option.map_some, each n joint found, List.getD_eq_getElem?_getD, List.getElem?_eq_getElem bound,
      Option.getD_some]

theorem updateProfileLimits_error {velocities accelerations : List K} {error : String}
    (failed : (c.updateProfileLimits config velocities accelerations).1 = .error error) :
    (c.updateProfileLimits config velocities accelerations).2 = c := by
  unfold ArmControl.updateProfileLimits at failed ⊢
  simp only at failed ⊢
  split
  · rename_i mailbox ordinary
    simp only [ordinary] at failed
    split_ifs with inactive
    · rfl
    · split
      · rfl
      · rename_i accepted
        rw [if_neg inactive, accepted] at failed
        cases failed
  · rfl

/-- The update gives a profile its new limits. -/
theorem hasLimits_updateProfileLimits {velocities accelerations : List K} (has : c.HasLimits limits)
    (some : limits.1 ≠ []) (updated : (c.updateProfileLimits config velocities accelerations).1 = .ok ()) :
    (c.updateProfileLimits config velocities accelerations).2.HasLimits (velocities, accelerations) := by
  intro mailbox' ordinary' profile'
  unfold ArmControl.updateProfileLimits at updated ordinary'
  simp only at updated ordinary'
  split at ordinary'
  · rename_i mailbox ordinary
    simp only [ordinary] at updated
    split_ifs at ordinary' with inactive
    · -- A profile is active whenever it has limits.
      cases ordinary.symm.trans ordinary'
      obtain ⟨user, has, -⟩ := has mailbox' ordinary profile'
      have empty : mailbox'.joints = [] := by simpa [user, profile'] using inactive
      rw [empty] at has
      exact absurd has.symm some
    · rw [if_neg inactive] at updated
      split at ordinary'
      · rename_i refused
        rw [refused] at updated
        cases updated
      · rename_i accepted
        cases ordinary'
        obtain ⟨_, sizes, within⟩ := bind_eq_ok accepted
        have sizes := (not_or.mp (reject_eq_ok.mp sizes)).1
        have places := (reject_bind_eq_ok within).1
        rw [not_not] at sizes places
        refine ⟨?_, eq_of_getD ?_ fun n joint found => ?_, eq_of_getD ?_ fun n joint found => ?_⟩
        · simp only [Bool.or_eq_true, not_or, Bool.not_eq_true', Bool.not_eq_false] at inactive
          exact inactive.1.1
        · rw [List.length_mapIdx, places]
        · rw [List.getElem?_mapIdx, Option.map_eq_some_iff] at found
          obtain ⟨previous, -, rfl⟩ := found
          rfl
        · rw [List.length_mapIdx, ← sizes, places]
        · rw [List.getElem?_mapIdx, Option.map_eq_some_iff] at found
          obtain ⟨previous, -, rfl⟩ := found
          rfl
  · rename_i other
    exact absurd ordinary' (other mailbox')

theorem installJointPosition_error {request : JointPosition K} {allowed : Except String Unit}
    {feedback : Motor → MotorState K} {error : String}
    (failed : (c.installJointPosition config request allowed feedback).1 = .error error) :
    (c.installJointPosition config request allowed feedback).2 = c := by
  unfold ArmControl.installJointPosition at failed ⊢
  simp only at failed ⊢
  split
  · rfl
  · rename_i accepted
    rw [accepted] at failed
    cases failed

/-- A position command has the limits of its profile. -/
theorem hasLimits_installJointPosition {request : JointPosition K} {allowed : Except String Unit}
    {feedback : Motor → MotorState K} {velocities accelerations : List K}
    (profiled : request.profile = some (velocities, accelerations))
    (installed : (c.installJointPosition config request allowed feedback).1 = .ok ()) :
    (c.installJointPosition config request allowed feedback).2.HasLimits (velocities, accelerations) := by
  unfold ArmControl.installJointPosition at installed ⊢
  simp only at installed ⊢
  split
  · rename_i refused
    rw [refused] at installed
    cases installed
  · rename_i joints accepted
    obtain ⟨_, checked, rest⟩ := bind_eq_ok accepted
    obtain ⟨_, -, rest⟩ := bind_eq_ok rest
    obtain ⟨same, made⟩ := mapM_eq_ok rest
    rw [List.length_zipIdx] at same
    unfold JointPosition.check at checked
    obtain ⟨-, checked⟩ := reject_bind_eq_ok checked
    obtain ⟨-, checked⟩ := reject_bind_eq_ok checked
    obtain ⟨-, checked⟩ := reject_bind_eq_ok checked
    obtain ⟨sizes, -⟩ := reject_bind_eq_ok checked
    have sizes : velocities.length = request.targets.length ∧ accelerations.length = request.targets.length := by
      simpa [profiled] using sizes
    have each : ∀ (n : ℕ) (joint : PvJoint K), joints[n]? = some joint →
        joint.referenceVelocityLimit = velocities.getD n 0 ∧
          joint.referenceAccelerationLimit = accelerations.getD n 0 := by
      intro n joint found
      have bound : n < request.targets.length := same ▸ (List.getElem?_eq_some_iff.mp found).1
      have entry : request.targets.zipIdx[n]? = some (request.targets[n], n) := by
        rw [List.getElem?_zipIdx, List.getElem?_eq_getElem bound]
        simp
      obtain ⟨joint', place, made⟩ := made n _ entry
      cases found.symm.trans place
      have limits := installJoint_limits made
      rw [profiled] at limits
      exact limits
    rintro _ ⟨⟩ -
    exact ⟨rfl, eq_of_getD (same.trans sizes.1.symm) fun n joint found => (each n joint found).1,
      eq_of_getD (same.trans sizes.2.symm) fun n joint found => (each n joint found).2⟩

variable {targets : List (Motor × K)} {velocities accelerations : List K} {allowed : Except String Unit}
  {feedback : Motor → MotorState K}

theorem setJointPvProfile_error {error : String}
    (failed : (c.setJointPvProfile config targets velocities accelerations allowed feedback).1 = .error error) :
    (c.setJointPvProfile config targets velocities accelerations allowed feedback).2 = c := by
  unfold ArmControl.setJointPvProfile at failed ⊢
  split_ifs at failed ⊢
  · rfl
  · rfl
  · exact installJointPosition_error failed

theorem hasLimits_setJointPvProfile
    (installed : (c.setJointPvProfile config targets velocities accelerations allowed feedback).1 = .ok ()) :
    (c.setJointPvProfile config targets velocities accelerations allowed feedback).2.HasLimits
      (velocities, accelerations) := by
  unfold ArmControl.setJointPvProfile at installed ⊢
  split_ifs at installed ⊢
  exact hasLimits_installJointPosition rfl installed

/-! ## Everything else -/

omit [Field K] [LinearOrder K] in
theorem hasLimits_of_mailbox {c' : ArmControl K} (same : c'.mailbox = c.mailbox) (has : c.HasLimits limits) :
    c'.HasLimits limits :=
  fun mailbox ordinary => has mailbox (same ▸ ordinary)

theorem hasLimits_updateMotionLimits (has : c.HasLimits limits) (maxReferenceVelocity maxReferenceAcceleration
    pvVelocityLimit : K) : (c.updateMotionLimits config maxReferenceVelocity maxReferenceAcceleration
      pvVelocityLimit).2.HasLimits limits := by
  unfold ArmControl.updateMotionLimits
  simp only
  split
  · rename_i mailbox ordinary
    split
    · exact has
    · rintro _ ⟨⟩ profile
      obtain ⟨user, velocities, accelerations⟩ := has mailbox ordinary profile
      refine ⟨user, ?_, ?_⟩
      · rw [List.map_map]
        exact velocities
      · rw [List.map_map]
        exact accelerations
  · exact has

theorem hasLimits_initializeArmMailbox (has : c.HasLimits limits) (requireEnabled : Bool)
    (feedback : Motor → MotorState K) :
    (c.initializeArmMailbox config requireEnabled feedback).2.HasLimits limits := by
  unfold ArmControl.initializeArmMailbox
  simp only
  split
  · exact has
  · rintro _ ⟨⟩ profile
    cases profile

theorem hasLimits_stopBimanualFollow (has : c.HasLimits limits) (feedback : Motor → MotorState K) :
    (c.stopBimanualFollow config feedback).2.HasLimits limits := by
  unfold ArmControl.stopBimanualFollow
  split
  · exact has
  · split_ifs
    · exact has
    · split
      · rename_i mailbox ordinary
        have stopped := sameLimits_stopFollowJoints config feedback armJoints mailbox
        split
        · rename_i ended
          rw [ended] at stopped
          exact stopped.hasLimits ordinary rfl has
        · rename_i ended
          rw [ended] at stopped
          exact stopped.hasLimits ordinary rfl has
      · exact has

theorem hasLimits_cycle (sqrt : K → K) (has : c.HasLimits limits) (input : CycleInput K) :
    (c.cycle sqrt config input).2.HasLimits limits := by
  cases ordinary : c.mailbox with
  | ordinary mailbox =>
    obtain ⟨after, afterEq, same⟩ := sameLimits_cycle sqrt config ordinary input
    exact same.hasLimits ordinary afterEq has
  | empty =>
    refine hasLimits_of_mailbox ?_ has
    simp only [ArmControl.cycle, ordinary]
  | commands pv =>
    refine hasLimits_of_mailbox ?_ has
    simp only [ArmControl.cycle, ordinary]
    split <;> exact ordinary

/-- An operation outside the product layer keeps whatever limits a profile has. -/
theorem hasLimits_step (sqrt : K → K) (has : c.HasLimits limits) {event : Event K} (other : event.Other) :
    (step sqrt config c event).1.HasLimits limits := by
  cases event with
  | install request allowed feedback =>
    have plain : request.profile = none := other
    simp only [step, ArmControl.installJointPosition]
    split
    · exact has
    · rintro _ ⟨⟩ profile
      rw [plain] at profile
      cases profile
  | motionLimits velocity acceleration limit => exact hasLimits_updateMotionLimits has velocity acceleration limit
  | profileLimits velocities accelerations => exact other.elim
  | fromFeedback requireEnabled feedback => exact hasLimits_initializeArmMailbox has requireEnabled feedback
  | startFollow leaderSide allowed feedback =>
    refine hasLimits_of_mailbox ?_ has
    simp only [step, ArmControl.startBimanualFollow]
    split <;> rfl
  | stopFollow feedback => exact hasLimits_stopBimanualFollow has feedback
  | resetFollow => exact has
  | replace pv => cases pv <;> exact hasLimits_of_not_ordinary (by rintro _ ⟨⟩)
  | cycle input => exact hasLimits_cycle sqrt has input

end Limits

/-! ## The mutex -/

/-- What threads without the mutex do: they leave the settings and the mutex alone, and keep whatever limits a
profile has. -/
structure Beside (s s' : ProductState θ K) : Prop where
  settings : s'.settings = s.settings
  mutex : s'.pvLimitsMutex = s.pvLimitsMutex
  hasLimits : ∀ limits, s.arm.HasLimits limits → s'.arm.HasLimits limits

omit [Field K] [LinearOrder K] in
theorem beside_refl (s : ProductState θ K) : Beside s s := ⟨rfl, rfl, fun _ has => has⟩

/-- The mutex guards that the settings and the command are coherent. -/
def pvLimitsGuard : Guard θ (ProductState θ K) where
  toLock := productPvLimitsMutex
  good := Coherent
  beside := Beside
  good_take _ _ coherent := coherent
  good_free _ coherent := coherent
  holder_beside _ _ beside := beside.mutex
  good_beside s s' beside coherent := by
    unfold Coherent at *
    rw [beside.settings]
    exact beside.hasLimits _ coherent

/-- The stored settings, and settings whose limits a profile has. -/
def Between (stored active : PvSettings K) (s : ProductState θ K) : Prop :=
  s.settings = stored ∧ s.arm.HasLimits (effectiveProductPvLimits active)

omit [LinearOrder K] in
theorem Between.beside {stored active : PvSettings K} {s s' : ProductState θ K} (beside : Beside s s')
    (between : Between stored active s) : Between stored active s' :=
  ⟨beside.settings.trans between.1, beside.hasLimits _ between.2⟩

omit [LinearOrder K] in
theorem Between.coherent {settings : PvSettings K} {s : ProductState θ K} (between : Between settings settings s) :
    Coherent s := by
  unfold Coherent
  rw [between.1]
  exact between.2

omit [LinearOrder K] in
theorem effectiveProductPvLimits_ne_nil (settings : PvSettings K) : (effectiveProductPvLimits settings).1 ≠ [] := by
  simp [effectiveProductPvLimits]

section Calls

variable {config : Config K} {t : θ} {change : PvSettings K → PvSettings K} {settings active : PvSettings K}

omit [LinearOrder K] in
theorem readSettings_sound : pvLimitsGuard.discipline.Triple t (readSettings : ProductProgram θ K (PvSettings K))
    (pvLimitsGuard.Owned t Coherent) (fun settings => pvLimitsGuard.Owned t (Between settings settings))
    fun _ => pvLimitsGuard.Owned t Coherent :=
  Guard.triple_owner_atomic (fun _ _ _ beside => Between.beside beside) (fun _ _ => rfl)
    fun _ _ coherent => ⟨rfl, coherent⟩

omit [LinearOrder K] in
/-- A change that makes the settings the ones whose limits a profile has. -/
theorem storeSetting_sound (stores : change settings = active) :
    pvLimitsGuard.discipline.Triple t (storeSetting change : ProductProgram θ K Unit)
      (pvLimitsGuard.Owned t (Between settings active)) (fun _ => pvLimitsGuard.Owned t Coherent)
      fun _ => pvLimitsGuard.Owned t Coherent := by
  refine Guard.triple_owner_atomic (fun _ => pvLimitsGuard.good_beside) (fun _ _ => rfl) fun _ s between => ?_
  have stored : Between active active { s with settings := change s.settings } :=
    ⟨(congrArg change between.1).trans stores, between.2⟩
  exact stored.coherent

theorem updateLimits_sound : pvLimitsGuard.discipline.Triple t (updateLimits config active : ProductProgram θ K Unit)
    (pvLimitsGuard.Owned t (Between settings settings)) (fun _ => pvLimitsGuard.Owned t (Between settings active))
    fun _ => pvLimitsGuard.Owned t Coherent := by
  refine Guard.triple_owner (fun _ _ _ beside => Between.beside beside) (fun _ => pvLimitsGuard.good_beside)
    (fun _ _ => rfl) (fun _ s _ between updated => ⟨between.1, ?_⟩) fun _ s e between failed => ?_
  · exact hasLimits_updateProfileLimits between.2 (effectiveProductPvLimits_ne_nil settings) updated
  · have kept := updateProfileLimits_error failed
    have coherent : Between settings settings (⟨s.settings, s.pvLimitsMutex, s.arm⟩ : ProductState θ K) := between
    rw [← kept] at coherent
    exact coherent.coherent

theorem changeSetting_sound : pvLimitsGuard.discipline.Triple t (changeSetting config change : ProductProgram θ K Unit)
    (pvLimitsGuard.Owned t Coherent) (fun _ => pvLimitsGuard.Owned t Coherent)
    fun _ => pvLimitsGuard.Owned t Coherent :=
  readSettings_sound.bind fun _ => updateLimits_sound.bind fun _ => storeSetting_sound rfl

theorem installTargets_sound {targets : List (Motor × K)} :
    pvLimitsGuard.discipline.Triple t
      (installTargets config targets (effectiveProductPvLimits active) : ProductProgram θ K Unit)
      (pvLimitsGuard.Owned t (Between settings settings)) (fun _ => pvLimitsGuard.Owned t (Between settings active))
      fun _ => pvLimitsGuard.Owned t Coherent := by
  refine Guard.triple_owner (fun _ _ _ beside => Between.beside beside) (fun _ => pvLimitsGuard.good_beside)
    (fun _ _ => rfl) (fun _ s _ between installed => ⟨between.1, ?_⟩) fun i s e between failed => ?_
  · exact hasLimits_setJointPvProfile installed
  · have kept := setJointPvProfile_error failed
    have coherent : Between settings settings (⟨s.settings, s.pvLimitsMutex, s.arm⟩ : ProductState θ K) := between
    rw [← kept] at coherent
    exact coherent.coherent

theorem installPositions_sound {joints : List (ProductJoint K)} {positions : List K} {speedPercent : K} :
    pvLimitsGuard.discipline.Triple t
      (installPositions config joints positions speedPercent : ProductProgram θ K Unit)
      (pvLimitsGuard.Owned t Coherent) (fun _ => pvLimitsGuard.Owned t Coherent)
      fun _ => pvLimitsGuard.Owned t Coherent := by
  refine readSettings_sound.bind fun settings => ?_
  refine Discipline.Triple.bind (Q := fun _ => pvLimitsGuard.Owned t (Between settings settings)) ?_ fun targets => ?_
  · exact Discipline.Triple.ofExcept.conseq (fun _ _ owned => owned) (fun _ _ _ owned => owned)
      fun _ _ _ owned => ⟨owned.1, owned.2.coherent⟩
  · exact installTargets_sound.bind fun _ => storeSetting_sound rfl

/-- A program that a thread without the mutex runs and after which it is without the mutex again. -/
abbrev Sound (t : θ) (p : ProductProgram θ K Unit) : Prop :=
  pvLimitsGuard.discipline.Triple t p (pvLimitsGuard.Idle t) (fun _ => pvLimitsGuard.Idle t)
    fun _ => pvLimitsGuard.Idle t

omit [LinearOrder K] in
theorem requirePvMode_sound (what : String) : Sound t (requirePvMode what : ProductProgram θ K Unit) :=
  Guard.triple_beside fun _ s => beside_refl s

omit [LinearOrder K] in
theorem sound_ofExcept_bind {α : Type} {answer : Except String α} {next : α → ProductProgram θ K Unit}
    (rest : ∀ a, Sound t (next a)) : Sound t ((ofExcept answer).bind next) :=
  Discipline.Triple.ofExcept.bind rest

/-- Every call starts and ends without the mutex. -/
theorem body_sound (joints : List (ProductJoint K)) (call : ProductCall K) : Sound t (call.body config joints t) := by
  cases call with
  | setSpeedPercent speedPercent =>
    exact sound_ofExcept_bind fun _ => (requirePvMode_sound _).bind fun _ => Guard.triple_locked changeSetting_sound
  | setMaxSpeed percent =>
    exact sound_ofExcept_bind fun _ => (requirePvMode_sound _).bind fun _ => Guard.triple_locked changeSetting_sound
  | setMaxAcceleration percent =>
    exact sound_ofExcept_bind fun _ => (requirePvMode_sound _).bind fun _ => Guard.triple_locked changeSetting_sound
  | setJointPv positions speedPercent =>
    refine Discipline.Triple.tryCatch ?_ fun _ => Discipline.Triple.throw fun _ _ resting => resting
    refine sound_ofExcept_bind fun _ => (requirePvMode_sound _).bind fun _ => ?_
    refine sound_ofExcept_bind fun _ => sound_ofExcept_bind fun _ => sound_ofExcept_bind fun _ => ?_
    exact Guard.triple_locked installPositions_sound

theorem otherOperation_sound (sqrt : K → K) {event : Event K} (other : event.Other) :
    Sound t (otherOperation sqrt config event : ProductProgram θ K Unit) :=
  Guard.triple_beside fun _ _ => ⟨rfl, rfl, fun _ has => hasLimits_step sqrt has other⟩

/-- The settings and the command are coherent wherever a run has the mutex free. -/
theorem coherent_of_reach [DecidableEq θ] {sqrt : K → K} {joints : List (ProductJoint K)}
    {c : Threads.Config θ (ProductState θ K) (ProductInput K) ProductSite String}
    (reach : (productMachine θ sqrt config joints).Reach (fun _ _ _ _ => True) c)
    (isFree : c.shared.pvLimitsMutex = none) : Coherent c.shared := by
  refine pvLimitsGuard.good_of_reach rfl ?_ (fun op => ?_) reach isFree
  · exact hasLimits_of_not_ordinary nofun
  · obtain ⟨t, operation⟩ := op
    cases operation with
    | call call => exact body_sound joints call
    | other event other => exact otherOperation_sound sqrt other

end Calls

/-! ## Failing calls -/

section Failing

variable {config : Config K} {t : θ}

theorem spares_changeSetting (change : PvSettings K → PvSettings K) :
    (changeSetting config change : ProductProgram θ K Unit).Spares ProductState.limits := by
  refine Spares.of_keeps_bind (every_atomic fun _ _ => rfl) fun settings => ?_
  refine spares_await_bind (fun _ s e failed => ?_) fun _ => returns_atomic _ _
  exact congrArg (fun arm : ArmControl K => (s.settings, arm.mailbox.limits)) (updateProfileLimits_error failed)

theorem spares_installPositions (joints : List (ProductJoint K)) (positions : List K) (speedPercent : K) :
    (installPositions config joints positions speedPercent : ProductProgram θ K Unit).Spares
      ProductState.limits := by
  refine Spares.of_keeps_bind (every_atomic fun _ _ => rfl) fun settings => ?_
  refine Spares.of_keeps_bind (every_ofExcept _) fun targets => ?_
  refine spares_await_bind (fun _ s e failed => ?_) fun _ => returns_atomic _ _
  exact congrArg (fun arm : ArmControl K => (s.settings, arm.mailbox.limits)) (setJointPvProfile_error failed)

omit [Field K] [LinearOrder K] in
theorem spares_locked {body : ProductProgram θ K Unit} (spares : body.Spares ProductState.limits) :
    (productPvLimitsMutex.locked .acquire .release t body).Spares ProductState.limits :=
  productPvLimitsMutex.spares_locked (fun _ => rfl) (fun _ => rfl) spares

/-- A call that throws leaves the percentages and the limits of the mailbox alone. -/
theorem spares_body (joints : List (ProductJoint K)) (call : ProductCall K) :
    (call.body config joints t).Spares ProductState.limits := by
  have mode : ∀ what, (requirePvMode what : ProductProgram θ K Unit).Every fun _ _ act =>
      ∀ i s, (act i s).limits = s.limits := fun _ => every_await fun _ _ => rfl
  cases call with
  | setSpeedPercent speedPercent =>
    refine Spares.of_keeps_bind (every_ofExcept _) fun _ => Spares.of_keeps_bind (mode _) fun _ => ?_
    exact spares_locked (spares_changeSetting _)
  | setMaxSpeed percent =>
    refine Spares.of_keeps_bind (every_ofExcept _) fun _ => Spares.of_keeps_bind (mode _) fun _ => ?_
    exact spares_locked (spares_changeSetting _)
  | setMaxAcceleration percent =>
    refine Spares.of_keeps_bind (every_ofExcept _) fun _ => Spares.of_keeps_bind (mode _) fun _ => ?_
    exact spares_locked (spares_changeSetting _)
  | setJointPv positions speedPercent =>
    refine Spares.tryCatch ?_ fun _ => trivial
    refine Spares.of_keeps_bind (every_ofExcept _) fun _ => Spares.of_keeps_bind (mode _) fun _ => ?_
    refine Spares.of_keeps_bind (every_ofExcept _) fun _ => Spares.of_keeps_bind (every_ofExcept _) fun _ => ?_
    refine Spares.of_keeps_bind (every_ofExcept _) fun _ => ?_
    exact spares_locked (spares_installPositions _ _ _)

end Failing

/-- In every interleaving of the calls of any threads with each other and with the other operations of the arm
control: whenever the mutex is free, a per-joint profile of the mailbox has the limits of the stored percentages; and
in every run of a call that throws, whatever the other threads do, no section of the call changes the percentages or
the limits of the mailbox. -/
theorem pv_settings_coherent [DecidableEq θ] (sqrt : K → K) (config : Config K) (joints : List (ProductJoint K)) :
    (∀ c : Threads.Config θ (ProductState θ K) (ProductInput K) ProductSite String,
      (productMachine θ sqrt config joints).Reach (fun _ _ _ _ => True) c → c.shared.pvLimitsMutex = none →
        ∀ mailbox, c.shared.arm.mailbox = .ordinary mailbox → mailbox.perJointProfile = true →
          mailbox.joints.map PvJoint.referenceVelocityLimit = (effectiveProductPvLimits c.shared.settings).1 ∧
            mailbox.joints.map PvJoint.referenceAccelerationLimit =
              (effectiveProductPvLimits c.shared.settings).2) ∧
      ∀ (t : θ) (call : ProductCall K) (others : ProductSite → ProductState θ K → ProductState θ K → Prop)
        (s s' : ProductState θ K) (trace : List (Taken (ProductState θ K) (ProductInput K) ProductSite))
        (error : String), (call.body config joints t).Runs others s trace (.error error) s' →
          (call.body config joints t).LeavesAlone ProductState.limits trace := by
  refine ⟨fun c reach isFree mailbox ordinary profile => ?_, fun t call others s s' trace error runs => ?_⟩
  · exact (coherent_of_reach reach isFree mailbox ordinary profile).2
  · exact (spares_body joints call).leavesAlone runs

/-- The joints of `twoArms`. -/
def twoArmsJoints : List (ProductJoint ℚ) := (List.range productDof).map fun motor => ⟨motor, 1, -2, 2, 2⟩

/-- Fresh enabled feedback in PV mode. -/
def ready : ProductInput ℚ := ⟨.ok (), true, .ok (), atZero⟩

/-- A joint command at half speed. -/
def halfSpeed : List (Threads.Move ℕ (ProductInput ℚ) (ℕ × ProductOperation ℚ)) :=
  .start (0, .call (.setJointPv (List.replicate productDof (some 1)) (some 50))) ::
    List.replicate 6 (.advance 0 ready)

/-- A joint command at half speed leaves the command at the limits of half speed, and a command without positions
leaves everything alone. -/
theorem pv_settings_coherent_half :
    (∃ (s : ProductState ℕ ℚ) (mailbox : Ordinary ℚ), s.arm.mailbox = .ordinary mailbox ∧
      mailbox.perJointProfile = true ∧ s.settings.speedPercent = 50 ∧
        mailbox.joints.map PvJoint.referenceVelocityLimit = (effectiveProductPvLimits s.settings).1) ∧
      ((ProductCall.setJointPv [] (some 50)).body twoArms twoArmsJoints 0).LeavesAlone ProductState.limits
        [⟨.available, ready, (productMachine ℕ id twoArms twoArmsJoints).start⟩] := by
  have coherent := pv_settings_coherent (θ := ℕ) id twoArms twoArmsJoints
  refine ⟨?_, coherent.2 0 _ (fun _ s s' => s = s') (productMachine ℕ id twoArms twoArmsJoints).start
    (productMachine ℕ id twoArms twoArmsJoints).start _
    "PV joint command: yunyi_v1_0 command must contain exactly 14 joints" ?_⟩
  · obtain ⟨c, reach, seen⟩ := Threads.Machine.exists_reach_of_run (M := productMachine ℕ id twoArms twoArmsJoints)
      (fun _ _ _ _ => true) (fun s => (s.pvLimitsMutex, s.settings.speedPercent,
        s.arm.mailbox.limits.map MailboxLimits.perJointProfile)) halfSpeed (fun _ _ _ _ _ => trivial)
      (b := (none, 50, some true)) (by decide +kernel)
    rw [Prod.mk.injEq, Prod.mk.injEq] at seen
    obtain ⟨isFree, speed, profile⟩ := seen
    cases ordinary : c.shared.arm.mailbox with
    | ordinary mailbox =>
      rw [ordinary] at profile
      have profile : mailbox.perJointProfile = true := Option.some.inj profile
      exact ⟨c.shared, mailbox, ordinary, profile, speed, (coherent.1 c reach isFree mailbox ordinary profile).1⟩
    | empty =>
      rw [ordinary] at profile
      cases profile
    | commands pv =>
      rw [ordinary] at profile
      cases profile
  · exact ⟨ready, _, [], rfl, rfl, rfl, rfl, rfl, rfl⟩

end MotorDrive.Control
