import MotorDrive.Library.Numerals

/-!
# Wire protocol types and the latest-command mailbox

The types of `articore/dds/protocol.hpp` that the lease, the streaming path and the motion events
use, `validate_identity` and `validate_stream`, and `LatestCommandMailbox`, the one-slot mailbox
between the DDS I/O thread's receive path and `pump_latest`.

Times are nanoseconds of the steady clock.  A joint value of a stream command is `none` when the
wire carries a non-finite float.
-/

namespace MotorDrive.Dds

/-- A reading of `std::chrono::steady_clock`, in nanoseconds. -/
abbrev Time := ℕ

/-- `std::chrono::milliseconds`. -/
def milliseconds (n : ℕ) : Time := n * 1000000

def kProtocolMajor : ℕ := 1

def kProtocolMinor : ℕ := 3

/-- A stream command older than this is not delivered. -/
def kStreamLifespan : Time := milliseconds 20

/-- The period an acquired or refreshed lease is valid for. -/
def kLeasePeriod : Time := milliseconds 250

/-- `articore::dds::ProtocolError`. -/
inductive ProtocolError
  | ok | invalidArgument | wrongState | busy | noLease | staleSequence | timeout | transportError
  | versionMismatch | internalError
  deriving DecidableEq, Repr

/-- `articore::RuntimeErrorCode`. -/
inductive RuntimeErrorCode
  | ok | invalidArgument | wrongState | busy | timeout | transportError | internalError
  deriving DecidableEq, Repr

/-- `map_runtime_error`. -/
def mapRuntimeError : RuntimeErrorCode → ProtocolError
  | .ok => .ok
  | .invalidArgument => .invalidArgument
  | .wrongState => .wrongState
  | .busy => .busy
  | .timeout => .timeout
  | .transportError => .transportError
  | .internalError => .internalError

/-- A failed `Status`: its code and message. -/
structure Failure where
  code : RuntimeErrorCode
  message : String
  deriving DecidableEq, Repr

/-- `articore::dds::StreamKind`. -/
inductive StreamKind
  | pv | mit | mitFast
  deriving DecidableEq, Repr

/-- `articore::dds::MessageIdentity`. -/
structure MessageIdentity where
  protocolMajor : ℕ := kProtocolMajor
  protocolMinor : ℕ := kProtocolMinor
  robotId : String
  clientId : String
  sequence : ℕ
  deriving DecidableEq, Repr

def kRobotDof : ℕ := 14

/-- `std::array<float, kRobotDof>`; `none` stands for a non-finite float. -/
abbrev JointArray := Vector (Option ℚ) kRobotDof

/-- `articore::dds::StreamCommand`. -/
structure StreamCommand where
  identity : MessageIdentity
  leaseId : ℕ
  kind : StreamKind := .pv
  positions : JointArray := Vector.replicate kRobotDof (some 0)
  velocities : JointArray := Vector.replicate kRobotDof (some 0)
  kp : JointArray := Vector.replicate kRobotDof (some 0)
  kd : JointArray := Vector.replicate kRobotDof (some 0)
  feedforwardTorques : JointArray := Vector.replicate kRobotDof (some 0)
  speedPercent : Option ℚ := some 100
  receivedAt : Time
  deriving DecidableEq, Repr

/-- `finite` of a joint array. -/
def finite (values : JointArray) : Bool := values.toList.all Option.isSome

/-- `validate_identity`. -/
def validateIdentity (identity : MessageIdentity) (robotId : String) : ProtocolError :=
  if identity.protocolMajor ≠ kProtocolMajor ∨ kProtocolMinor < identity.protocolMinor then
    .versionMismatch
  else if identity.robotId = "" ∨ identity.clientId = "" ∨ 63 < identity.robotId.utf8ByteSize ∨
      63 < identity.clientId.utf8ByteSize ∨ identity.robotId ≠ robotId then
    .invalidArgument
  else .ok

/-- `validate_stream`. -/
def validateStream (command : StreamCommand) (robotId : String) : ProtocolError :=
  match validateIdentity command.identity robotId with
  | .ok =>
    match command.speedPercent with
    | none => .invalidArgument
    | some speed =>
      if command.leaseId = 0 ∨ finite command.positions = false then .invalidArgument
      else if command.kind = .mit ∧ (finite command.velocities = false ∨
          finite command.kp = false ∨ finite command.kd = false ∨
          finite command.feedforwardTorques = false) then .invalidArgument
      else if speed < 0 ∨ 100 < speed ∨ (command.kind = .pv ∧ speed < 1) then .invalidArgument
      else .ok
  | error => error

/-! ## The mailbox -/

/-- The one slot of `LatestCommandMailbox`. -/
abbrev Mailbox := Option StreamCommand

namespace Mailbox

/-- `LatestCommandMailbox::store`: an older or equal sequence does not replace the stored command. -/
def store (mailbox : Mailbox) (command : StreamCommand) : Mailbox :=
  match mailbox with
  | none => some command
  | some latest =>
    if latest.identity.sequence < command.identity.sequence then some command else some latest

/-- `LatestCommandMailbox::take`: the slot is emptied, and a command past its lifespan is dropped. -/
def take (mailbox : Mailbox) (now : Time) : Mailbox × Option StreamCommand :=
  match mailbox with
  | none => (none, none)
  | some latest =>
    if kStreamLifespan < now - latest.receivedAt then (none, none) else (none, some latest)

/-- `LatestCommandMailbox::clear`. -/
def clear (_ : Mailbox) : Mailbox := none

@[simp] theorem clear_eq (mailbox : Mailbox) : mailbox.clear = none := rfl

@[simp] theorem take_fst (mailbox : Mailbox) (now : Time) : (mailbox.take now).1 = none := by
  cases mailbox with
  | none => rfl
  | some latest =>
    simp only [take]
    split_ifs <;> rfl

/-- What `take` hands over was in the slot and is within its lifespan. -/
theorem take_snd {mailbox : Mailbox} {now : Time} {command : StreamCommand}
    (taken : (mailbox.take now).2 = some command) :
    mailbox = some command ∧ now - command.receivedAt ≤ kStreamLifespan := by
  cases mailbox with
  | none => simp [take] at taken
  | some latest =>
    simp only [take] at taken
    split_ifs at taken with stale
    simp only [Option.some.injEq] at taken
    subst taken
    exact ⟨rfl, Nat.not_lt.mp stale⟩

/-- A stored command within its lifespan is handed over by the next `take`. -/
theorem take_some {command : StreamCommand} {now : Time}
    (fresh : now - command.receivedAt ≤ kStreamLifespan) :
    (take (some command) now).2 = some command := by
  simp [take, Nat.not_lt.mpr fresh]

/-- After a `store` the slot holds the old command or the new one. -/
theorem store_eq (mailbox : Mailbox) (command : StreamCommand) :
    mailbox.store command = some command ∨
      ∃ latest, mailbox = some latest ∧ mailbox.store command = some latest ∧
        command.identity.sequence ≤ latest.identity.sequence := by
  cases mailbox with
  | none => exact Or.inl rfl
  | some latest =>
    simp only [store]
    split_ifs with newer
    · exact Or.inl rfl
    · exact Or.inr ⟨latest, rfl, rfl, Nat.not_lt.mp newer⟩

end Mailbox

end MotorDrive.Dds
