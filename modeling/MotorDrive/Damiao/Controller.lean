import MotorDrive.Damiao.Protocol
import MotorDrive.Library.History
import MotorDrive.Library.Hoare

/-!
# Controllers

A `Controller` of `runtime.cpp`: its motor table, the motor handles it has made, what `PacingBus` counts, and the
flags of its connection.  The functions of a controller are programs over it; `Moves` says what happens to a
controller beside one call of them.

The pacing of the bus and the pause between bulk operations only take time and have no state here.
-/

namespace MotorDrive.Damiao

open Proc History

/-! ## The motor table -/

/-- An entry of the motor table: the key and the address of the handle. -/
structure MotorRef where
  motorId : UInt16
  address : ℕ
  deriving DecidableEq

/-- `std::map::emplace` on sorted entries. -/
def emplaceRef (ref : MotorRef) : List MotorRef → List MotorRef
  | [] => [ref]
  | entry :: rest =>
    if ref.motorId.toNat < entry.motorId.toNat then ref :: entry :: rest
    else if ref.motorId = entry.motorId then entry :: rest
    else entry :: emplaceRef ref rest

theorem mem_of_mem_emplaceRef {ref other : MotorRef} {entries : List MotorRef}
    (member : other ∈ emplaceRef ref entries) : other = ref ∨ other ∈ entries := by
  induction entries with
  | nil => exact .inl (List.mem_singleton.mp member)
  | cons entry rest ih =>
    unfold emplaceRef at member
    split_ifs at member
    · exact List.mem_cons.mp member
    · exact .inr member
    · rcases List.mem_cons.mp member with rfl | later
      · exact .inr List.mem_cons_self
      · exact (ih later).imp_right (List.mem_cons_of_mem _)

/-- A new key is added and the other entries stay. -/
theorem mem_emplaceRef {ref other : MotorRef} {entries : List MotorRef}
    (new : ∀ entry ∈ entries, entry.motorId ≠ ref.motorId) :
    other ∈ emplaceRef ref entries ↔ other = ref ∨ other ∈ entries := by
  refine ⟨mem_of_mem_emplaceRef, fun member => ?_⟩
  induction entries with
  | nil => exact List.mem_singleton.mpr (member.resolve_right List.not_mem_nil)
  | cons entry rest ih =>
    unfold emplaceRef
    split_ifs with first same
    · exact List.mem_cons.mpr member
    · exact absurd same.symm (new entry List.mem_cons_self)
    · rcases member with rfl | member
      · exact List.mem_cons_of_mem _ (ih (fun entry later => new entry (List.mem_cons_of_mem _ later)) (.inl rfl))
      · rcases List.mem_cons.mp member with rfl | member
        · exact List.mem_cons_self
        · exact List.mem_cons_of_mem _
            (ih (fun entry later => new entry (List.mem_cons_of_mem _ later)) (.inr member))

theorem pairwise_emplaceRef {ref : MotorRef} {entries : List MotorRef}
    (sorted : entries.Pairwise fun a b => a.motorId.toNat < b.motorId.toNat) :
    (emplaceRef ref entries).Pairwise fun a b => a.motorId.toNat < b.motorId.toNat := by
  induction entries with
  | nil => exact List.pairwise_singleton _ _
  | cons entry rest ih =>
    obtain ⟨below, later⟩ := List.pairwise_cons.mp sorted
    unfold emplaceRef
    split_ifs with first same
    · refine List.pairwise_cons.mpr ⟨fun other member => ?_, sorted⟩
      rcases List.mem_cons.mp member with rfl | member
      · exact first
      · exact first.trans (below other member)
    · exact sorted
    · refine List.pairwise_cons.mpr ⟨fun other member => ?_, ih later⟩
      rcases mem_of_mem_emplaceRef member with rfl | member
      · have : entry.motorId.toNat ≠ other.motorId.toNat := fun equal => same (UInt16.toNat_inj.mp equal.symm)
        omega
      · exact below other member

/-- The motor table, in the order of the motor identifiers. -/
structure MotorTable where
  entries : List MotorRef
  sorted : entries.Pairwise fun a b => a.motorId.toNat < b.motorId.toNat

namespace MotorTable

def empty : MotorTable := ⟨[], List.Pairwise.nil⟩

/-- `motors_.emplace`. -/
def emplace (table : MotorTable) (ref : MotorRef) : MotorTable :=
  ⟨emplaceRef ref table.entries, pairwise_emplaceRef table.sorted⟩

/-- `motors_.erase`. -/
def erase (table : MotorTable) (motorId : UInt16) : MotorTable :=
  ⟨table.entries.filter fun entry => entry.motorId ≠ motorId, table.sorted.filter _⟩

theorem mem_erase {table : MotorTable} {motorId : UInt16} {entry : MotorRef} :
    entry ∈ (table.erase motorId).entries ↔ entry ∈ table.entries ∧ entry.motorId ≠ motorId := by
  simp [erase]

theorem nodup (table : MotorTable) : (table.entries.map MotorRef.motorId).Nodup := by
  refine List.Pairwise.map _ (fun a b less => ?_) table.sorted
  rintro equal
  exact absurd less (by rw [equal]; exact lt_irrefl _)

end MotorTable

/-! ## Controllers -/

/-- What a transport throws. -/
inductive Refusal
  /-- An `std::exception`. -/
  | exception (what : String)
  | other
  deriving DecidableEq

/-- What `PacingBus` reports of itself. -/
structure TransportHealth where
  connected : Bool
  sendErrors : ℕ
  receiveErrors : ℕ
  lastError : String
  deriving DecidableEq

structure Controller where
  now : ℕ
  endpointLabel : String
  /-- The motor handles, in the order they were made. -/
  handles : List MotorHandle
  motors : MotorTable
  discoveryFinalized : Bool
  pollingActive : Bool
  busClosed : Bool
  health : TransportHealth
  /-- The sensor frames that handles have counted, oldest first. -/
  accepted : List (ℕ × CanFrame)

/-- What a call throws. -/
inductive ControllerError
  | invalidArgument (what : String)
  | logicError (what : String)
  | runtimeError (what : String)
  | systemError
  | transport (refusal : Refusal)
  /-- The bound on the turns of a loop was reached. -/
  | outOfTurns
  deriving DecidableEq

namespace Controller

variable (s : Controller)

/-- The transport fails to send. -/
def recordSendError (refusal : Refusal) : Controller :=
  { s with health := { s.health with
      sendErrors := s.health.sendErrors + 1
      lastError := match refusal with
        | .exception what => what
        | .other => "unknown transport send error" } }

/-- The transport fails to receive. -/
def recordReceiveError (refusal : Refusal) : Controller :=
  { s with health := { s.health with
      receiveErrors := s.health.receiveErrors + 1
      lastError := match refusal with
        | .exception what => what
        | .other => "unknown transport receive error" } }

/-- The handle at an address processes a frame that it accepts. -/
def process (address : ℕ) (h : MotorHandle) (frame : CanFrame) : Controller :=
  let h' := h.processFeedbackFrame frame s.now
  { s with
    handles := s.handles.set address h'
    accepted :=
      if h.feedbackUpdateCount < h'.feedbackUpdateCount then s.accepted ++ [(address, frame)] else s.accepted }

/-- The first handle of the list that accepts a frame processes it. -/
def receiveBy (frame : CanFrame) : List MotorRef → Controller → Controller
  | [], s => s
  | motor :: rest, s =>
    match s.handles[motor.address]? with
    | none => receiveBy frame rest s
    | some h =>
      if (h.acceptsFrame frame).1 then s.process motor.address (h.acceptsFrame frame).2 frame
      else receiveBy frame rest { s with handles := s.handles.set motor.address (h.acceptsFrame frame).2 }

/-- A received frame goes to the motors of the table. -/
def receive (frame : CanFrame) : Controller := receiveBy frame s.motors.entries s

/-- What happens to a controller beside one call.  Motors are only added where `adds` allows it. -/
inductive Moves (adds : Prop) : Controller → Controller → Prop
  | elapse (s : Controller) (d : ℕ) : Moves adds s { s with now := s.now + d }
  | receive (s : Controller) (frame : CanFrame) : Moves adds s (s.receive frame)
  | sendError (s : Controller) (refusal : Refusal) : Moves adds s (s.recordSendError refusal)
  | receiveError (s : Controller) (refusal : Refusal) : Moves adds s (s.recordReceiveError refusal)
  | close (s : Controller) :
    Moves adds s { s with
      pollingActive := false
      busClosed := true
      health := { s.health with connected := false } }
  | add (s : Controller) (allowed : adds) (h : MotorHandle) :
    Moves adds s { s with
      handles := s.handles ++ [h]
      motors := s.motors.emplace ⟨h.motorId, s.handles.length⟩ }

end Controller

/-! ## Sections -/

/-- The places of a controller call where other threads may have acted. -/
inductive ControllerSite
  | sorted
  | updateCount (address : ℕ)
  | clock
  | healthBefore
  | healthAfter
  | requestFeedback (motorId : UInt16)
  | awaitFeedback (address : ℕ)
  | disable (motorId : UInt16)
  | pollFeedback
  | pause
  | lifecycle
  | stopPolling
  | busShutdown
  | checkDiscovery
  | setup
  | startPolling
  | latestState (address : ℕ)
  | finalize
  | cleanup
  deriving DecidableEq

/-- What a section of a controller call is given: whether a send, a receive or a thread start is refused, and the
frames received. -/
structure ControllerInput where
  refusal : Option Refusal
  frames : List CanFrame

/-- A program over a controller. -/
abbrev ControllerProgram (α : Type) : Type := Proc Controller ControllerInput ControllerSite ControllerError α

/-- The sections of a controller call, in order. -/
abbrev ControllerTrace : Type := List (Taken Controller ControllerInput ControllerSite)

/-- What may happen to a controller between two sections of a call. -/
def Meanwhile (adds : Prop) (_ : ControllerSite) : Controller → Controller → Prop :=
  Relation.ReflTransGen (Controller.Moves adds)

namespace Controller

/-- Read the controller. -/
def look {α : Type} (site : ControllerSite) (f : Controller → α) : ControllerProgram α :=
  atomic site fun _ s => (f s, s)

/-- `sorted_motors`. -/
def sortedMotors : ControllerProgram (List MotorRef) := look .sorted fun s => s.motors.entries

/-- `std::chrono::steady_clock::now`. -/
def clock : ControllerProgram ℕ := look .clock Controller.now

/-- `PacingBus::send`, and what the caller does after a send that is not refused. -/
def send (site : ControllerSite) (sent : Controller → Controller) : ControllerProgram Unit :=
  await site (fun _ => true) fun i s =>
    match i.refusal with
    | some refusal => (.error (.transport refusal), s.recordSendError refusal)
    | none => (.ok (), sent s)

/-- `MotorHandle::request_feedback`. -/
def requestFeedback (motor : MotorRef) : ControllerProgram Unit := send (.requestFeedback motor.motorId) id

/-- How often a handle has stored feedback. -/
def updateCountAt (s : Controller) (address : ℕ) : ℕ :=
  (s.handles[address]?.map MotorHandle.feedbackUpdateCount).getD 0

/-- `feedback_stats().update_count`. -/
def updateCount (address : ℕ) : ControllerProgram ℕ :=
  look (.updateCount address) fun s => s.updateCountAt address

/-- `MotorHandle::wait_for_feedback_after`. -/
def waitForFeedbackAfter (address previousCount deadline : ℕ) : ControllerProgram Bool :=
  await (.awaitFeedback address)
    (fun s => decide (previousCount < s.updateCountAt address) || decide (deadline ≤ s.now))
    fun _ s => (.ok (decide (previousCount < s.updateCountAt address)), s)

end Controller

/-- A sensor frame of a motor at rest. -/
def sensorFrame (feedbackId : UInt32) (motorId : UInt8) : CanFrame :=
  standardFrame feedbackId #v[motorId, 0x80, 0, 0x80, 0, 0x80, 0, 0]

/-- A controller with the motors 1 and 2. -/
def twoMotors : Controller where
  now := 0
  endpointLabel := "can0"
  handles := [firstHandle, { firstHandle with motorId := 2, feedbackId := 0x12 }]
  motors := (MotorTable.empty.emplace ⟨1, 0⟩).emplace ⟨2, 1⟩
  discoveryFinalized := false
  pollingActive := true
  busClosed := false
  health := ⟨true, 0, 0, ""⟩
  accepted := []

end MotorDrive.Damiao
