import MotorDrive.Control.Commands

/-!
# One control cycle of the arms in PV mode

`run_arm_control_cycle`: the cycle of an ordinary command, the follower joints of the bimanual follow, the
batch that is sent and the tracking error of a native Cartesian trajectory.
-/

namespace MotorDrive.Control

open Trajectory (Motor)

variable {K : Type} [Field K] [LinearOrder K]

/-! ## The follower joints -/

/-- What the loop over the follower joints changes. -/
structure Following (K : Type) where
  mailbox : Ordinary K
  followerReference : Fin armDof → K
  followerReferenceVelocity : Fin armDof → K

/-- The index of a joint in the product layout. -/
def layoutIndex (side : Side) (joint : Fin armDof) : ℕ :=
  match side with
  | .left => joint
  | .right => armDof + joint

theorem layoutIndex_inj {side side' : Side} {joint joint' : Fin armDof}
    (same : layoutIndex side joint = layoutIndex side' joint') : side = side' ∧ joint = joint' := by
  have bound := joint.isLt
  have bound' := joint'.isLt
  cases side <;> cases side' <;> simp only [layoutIndex] at same
  · exact ⟨rfl, Fin.ext same⟩
  · omega
  · omega
  · exact ⟨rfl, Fin.ext (by omega)⟩

/-- Where a follower joint shall go. -/
def BimanualFollow.desired (config : Config K) (follow : BimanualFollow K) (leaderReference : K)
    (joint : Fin armDof) : K :=
  follow.startPositions follow.leaderSide.other joint +
    (config.arms follow.leaderSide.other joint).direction * (config.arms follow.leaderSide joint).direction *
      (leaderReference - follow.startPositions follow.leaderSide joint)

/-- The limits of a follower joint by the entry of its place in the product layout. -/
def Ordinary.followerLimits (mailbox : Ordinary K) (degraded : Bool) (index : ℕ) : K × K :=
  let entry := mailbox.joints[index]?
  if mailbox.perJointProfile then
    ((entry.map PvJoint.referenceVelocityLimit).getD 0 * commandScale degraded,
      (entry.map PvJoint.referenceAccelerationLimit).getD 0 * (commandScale degraded * commandScale degraded))
  else (mailbox.maxReferenceVelocity * commandScale degraded, mailbox.maxReferenceAcceleration)

/-- The next reference of a follower joint, with its velocity. -/
def Following.reference (sqrt : K → K) (config : Config K) (s : Following K) (bounds : K × K) (desired : K)
    (joint : Fin armDof) : K × K :=
  if s.mailbox.perJointProfile then (desired, 0)
  else advanceAccelerationLimitedPvReference sqrt (s.followerReference joint) (s.followerReferenceVelocity joint)
    desired bounds.1 bounds.2 config.period

/-- The velocity limit of a follower joint at its reference. -/
def Ordinary.followerVelocity (sqrt : K → K) (config : Config K) (mailbox : Ordinary K) (limits : K × K)
    (scale reference : K) (reading : Reading K) (joint : PvJoint K) : K :=
  if mailbox.perJointProfile then
    advanceOrdinaryPvDriveVelocity sqrt joint.driveVelocityCommand reading.velocity
      |reference - reading.position| (limits.1 / scale) (limits.2 / scale) config.period
  else max config.safePvVelocityLimit mailbox.pvVelocityLimit

/-- A follower joint at its reference. -/
def PvJoint.follow (perJointProfile : Bool) (desired reference velocity limit : K) (joint : PvJoint K) :
    PvJoint K :=
  { joint with
    command := ⟨joint.command.motor, reference, limit⟩
    finalPosition := desired
    referenceVelocity := velocity
    driveVelocityCommand := if perJointProfile then limit else joint.driveVelocityCommand
    holdConfirmationCycles := 0
    stationaryHold := false
    holdTargetPosition := desired }

/-- The loop body of the bimanual follow. -/
def BimanualFollow.followJoint (sqrt : K → K) (config : Config K) (follow : BimanualFollow K) (degraded : Bool)
    (feedback : Motor → MotorState K) (joint : Fin armDof) (s : Following K) : Except String (Following K) :=
  let leader := (config.arms follow.leaderSide joint).motor
  let follower := (config.arms follow.leaderSide.other joint).motor
  match (feedback leader).reading, (feedback follower).reading with
  | some _, some reading =>
    match s.mailbox.joints.find? fun entry => entry.command.motor = leader with
    | none => .error "PV bimanual follow lost the leader product layout"
    | some leading =>
      let desired := follow.desired config leading.command.targetPosition joint
      match config.joint follower with
      | none => .error "joint control configuration is required for native joint control"
      | some limits =>
        if desired < limits.softLowerPosition ∨ limits.softUpperPosition < desired then
          .error "bimanual target exceeds product limits"
        else
          let bounds := s.mailbox.followerLimits degraded (layoutIndex follow.leaderSide.other joint)
          let reference := s.reference sqrt config bounds desired joint
          if s.mailbox.joints.all fun entry => entry.command.motor ≠ follower then
            .error "PV bimanual follow lost the follower product layout"
          else .ok {
            mailbox := { s.mailbox with
              joints := setJoint s.mailbox.joints follower fun entry =>
                entry.follow s.mailbox.perJointProfile desired reference.1 reference.2
                  (s.mailbox.followerVelocity sqrt config bounds limits.velocityFeedbackScale reference.1
                    reading entry) }
            followerReference := Function.update s.followerReference joint reference.1
            followerReferenceVelocity := Function.update s.followerReferenceVelocity joint reference.2 }
  | _, _ => .error "bimanual follow requires fresh enabled feedback"

/-- The loop of the bimanual follow, until a joint fails. -/
def BimanualFollow.followJoints (sqrt : K → K) (config : Config K) (follow : BimanualFollow K) (degraded : Bool)
    (feedback : Motor → MotorState K) : List (Fin armDof) → Following K → Except String Unit × Following K
  | [], s => (.ok (), s)
  | joint :: rest, s =>
    match follow.followJoint sqrt config degraded feedback joint s with
    | .error error => (.error error, s)
    | .ok s' => followJoints sqrt config follow degraded feedback rest s'

/-! ## The batch -/

/-- The commands of a mailbox. -/
def ArmMailbox.pv : ArmMailbox K → List (PvCommand K)
  | .empty => []
  | .commands pv => pv
  | .ordinary mailbox => mailbox.joints.map PvJoint.command

/-- The batch in `DEGRADED`. -/
def degradedBatch (degraded : Bool) (pv : List (PvCommand K)) : List (PvCommand K) :=
  if degraded then pv.map fun command => { command with velocityLimit := command.velocityLimit * (1 / 4) }
  else pv

/-- The batch without the motors that are disabled on purpose. -/
def filteredBatch (disabled : List Motor) (pv : List (PvCommand K)) : List (PvCommand K) :=
  pv.filter fun command => command.motor ∉ disabled

/-- The tests of an ordinary mailbox at the start of a cycle. -/
def Ordinary.consistent (mailbox : Ordinary K) : Bool :=
  0 ≤ mailbox.maxReferenceVelocity && 0 < mailbox.maxReferenceAcceleration && 0 ≤ mailbox.pvVelocityLimit

/-- The inputs of a cycle: whether the runtime is `DEGRADED`, what the motors report in the loop over the
mailbox, in the loop over the follower joints and after the send, which motors are disabled on purpose and
whether the send succeeds. -/
structure CycleInput (K : Type) where
  degraded : Bool
  feedback : Motor → MotorState K
  followFeedback : Motor → MotorState K
  trackingFeedback : Motor → MotorState K
  disabled : List Motor
  sends : Bool

/-- What a cycle does. -/
inductive Outcome (K : Type)
  | idle
  | failed (error : String)
  | sent (batch : List (PvCommand K))

/-- The result of the send: a batch that the filter leaves empty is not handed over. -/
def CycleInput.delivers (input : CycleInput K) (pv : List (PvCommand K)) : Bool :=
  (filteredBatch input.disabled (degradedBatch input.degraded pv)).isEmpty || input.sends

/-- The end of a cycle: the batch is filtered and sent. -/
def CycleInput.send (input : CycleInput K) (pv : List (PvCommand K)) : Outcome K :=
  if input.delivers pv then .sent (filteredBatch input.disabled (degradedBatch input.degraded pv))
  else .failed "ControllerGroup PV send failed"

omit [LinearOrder K] in
theorem CycleInput.send_of_sends {input : CycleInput K} (sends : input.sends = true) (pv : List (PvCommand K)) :
    input.send pv = .sent (filteredBatch input.disabled (degradedBatch input.degraded pv)) :=
  if_pos (by rw [delivers, sends, Bool.or_true])

/-- `run_arm_control_cycle` in PV mode, without grippers.  A trajectory has written its commands into the
mailbox before. -/
def ArmControl.cycle (sqrt : K → K) (config : Config K) (c : ArmControl K) (input : CycleInput K) :
    Outcome K × ArmControl K :=
  match c.mailbox with
  | .empty => (.idle, c)
  | .commands pv =>
    match c.follow with
    | some _ => (.failed "bimanual follow requires an ordinary PV/MIT position command", c)
    | none => (input.send pv, c)
  | .ordinary mailbox =>
    if !mailbox.consistent then (.failed "ordinary joint position state is internally inconsistent", c)
    else
      let advanced := mailbox.advance sqrt config input.degraded input.feedback
      match c.follow with
      | none => (input.send (ArmMailbox.pv (.ordinary advanced)), { c with mailbox := .ordinary advanced })
      | some follow =>
        match follow.followJoints sqrt config input.degraded input.followFeedback (List.finRange armDof)
            ⟨advanced, follow.followerReference, follow.followerReferenceVelocity⟩ with
        | (.error error, followed) => (.failed error, { c with mailbox := .ordinary followed.mailbox })
        | (.ok _, followed) =>
          (input.send (ArmMailbox.pv (.ordinary followed.mailbox)), {
            mailbox := .ordinary followed.mailbox
            follow := some (if input.delivers (ArmMailbox.pv (.ordinary followed.mailbox)) then { follow with
                followerReference := followed.followerReference
                followerReferenceVelocity := followed.followerReferenceVelocity }
              else follow) })

/-! ## The tracking error -/

/-- The tracking error of the batch that was sent: its greatest position error over the indices in the mask
and whether all of their feedback is valid. -/
def trackingError (mask : BitVec 32) (feedback : Motor → MotorState K) (batch : List (PvCommand K)) : K × Bool :=
  if batch = [] then (0, false)
  else batch.zipIdx.foldl (fun (error, valid) (command, index) =>
    if !valid || !mask.getLsbD index then (error, valid)
    else match (feedback command.motor).freshPosition with
      | none => (error, false)
      | some position => (max error |position - command.targetPosition|, true)) (0, true)

end MotorDrive.Control
