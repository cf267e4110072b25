import MotorDrive.Damiao.Protocol
import MotorDrive.Library.Calls

/-!
# Register transactions

`write_register_with_retry`, `wait_for_write_ack`, `wait_for_register`, `get_register_u32`,
`get_register_f32` and `ensure_mode` of `runtime.cpp`, as programs over a `Line`: a motor handle, the motor and
the frames between them.

The frames of a line are never lost from its logs, so a frame that has been sent or answered may still be
received at any later time, any number of times, or never.  `Line.Moves` says what happens on a line beside one
call: time passes, other calls send, the motor receives a frame and answers it, an answer reaches the handle.

Each frame carries the number of the call that sent it, and each answer the number of the frame it answers.
The programs do not read them.
-/

namespace MotorDrive.Damiao

open Proc

/-! ## Lines -/

/-- A frame to the motor, with the number of the call that sent it. -/
structure Request where
  frame : CanFrame
  call : ℕ
  deriving DecidableEq

/-- A frame from the motor, with the number of the call whose frame it answers. -/
structure Answer where
  frame : CanFrame
  call : Option ℕ
  deriving DecidableEq

/-- A motor handle, its motor and the frames between them. -/
structure Line where
  now : ℕ
  handle : MotorHandle
  /-- The registers of the motor. -/
  registers : UInt8 → Word
  /-- The values the motor's registers were given, oldest first. -/
  held : List (UInt8 × Word)
  sent : List Request
  answers : List Answer
  /-- The answers that `process_feedback_frame` has processed, as positions in `answers`. -/
  processed : List ℕ

def registerReadFrame (motorId : UInt16) (rid : UInt8) : CanFrame :=
  standardFrame 0x7FF (encodeRegisterReadCommand motorId rid)

def registerWriteFrame (motorId : UInt16) (rid : UInt8) (data : Word) : CanFrame :=
  standardFrame 0x7FF (encodeRegisterWriteCommand motorId rid data)

namespace Line

variable (s : Line)

/-- The motor puts a frame on the bus. -/
def answer (a : Answer) : Line := { s with answers := s.answers ++ [a] }

/-- A register of the motor gets a value. -/
def setRegister (rid : UInt8) (value : Word) : Line :=
  { s with registers := Function.update s.registers rid value, held := s.held ++ [(rid, value)] }

/-- A frame goes on the bus. -/
def put (frame : CanFrame) (call : ℕ) : Line := { s with sent := s.sent ++ [⟨frame, call⟩] }

/-- The receiving thread gives the handle an answer. -/
def deliver (k : ℕ) (frame : CanFrame) : Line :=
  if (s.handle.acceptsFrame frame).1 then
    { s with
      handle := (s.handle.acceptsFrame frame).2.processFeedbackFrame frame s.now
      processed := s.processed ++ [k] }
  else { s with handle := (s.handle.acceptsFrame frame).2 }

/-- What happens on a line beside one call.  Register 10 of the motor changes only by write frames. -/
inductive Moves (call : ℕ) : Line → Line → Prop
  | elapse (s : Line) (d : ℕ) : Moves call s { s with now := s.now + d }
  | request (s : Line) (frame : CanFrame) (other : ℕ) (foreign : other ≠ call) : Moves call s (s.put frame other)
  | read (s : Line) (rid : UInt8) (reply : CanFrame) (request : Request) (sent : request ∈ s.sent)
    (reads : request.frame = registerReadFrame s.handle.motorId rid)
    (replies : reply.replies = some (rid, s.registers rid)) : Moves call s (s.answer ⟨reply, some request.call⟩)
  | write (s : Line) (rid : UInt8) (data kept acknowledged : Word) (ack : CanFrame) (request : Request)
    (sent : request ∈ s.sent) (writes : request.frame = registerWriteFrame s.handle.motorId rid data)
    (acknowledges : ack.acknowledges = some (rid, acknowledged)) :
    Moves call s ((s.setRegister rid kept).answer ⟨ack, some request.call⟩)
  | change (s : Line) (rid : UInt8) (value : Word) (other : rid ≠ 10) : Moves call s (s.setRegister rid value)
  | report (s : Line) (frame : CanFrame) (noReply : frame.replies = none) (noAck : frame.acknowledges = none) :
    Moves call s (s.answer ⟨frame, none⟩)
  | deliver (s : Line) (k : ℕ) (a : Answer) (answered : s.answers[k]? = some a) : Moves call s (s.deliver k a.frame)

end Line

/-! ## Programs -/

/-- What a call throws. -/
inductive Failure
  | ackTimedOut
  | ackMismatched
  | readTimedOut
  | invalidMode
  | switchTimedOut
  | switchTimedOutBeforeRead
  | verifyFailed
  | verifyMismatch (expected current : UInt32)
  | invalidArgument (what : String)
  | transport (what : String)
  /-- The bound on the turns of a loop was reached. -/
  | outOfTurns
  deriving DecidableEq

/-- The text of an exception. -/
def Failure.what : Failure → String
  | .ackTimedOut => "register write ack timed out"
  | .ackMismatched => "register write ack mismatched expected value"
  | .readTimedOut => "register read timed out"
  | .invalidMode => "Damiao mode must be 1(MIT) / 2(POS_VEL) / 3(VEL) / 4(FORCE_POS)"
  | .switchTimedOut => "control mode switch timed out"
  | .switchTimedOutBeforeRead => "control mode switch timed out before register 10 could be read"
  | .verifyFailed => "control mode verify failed"
  | .verifyMismatch expected current => s!"control mode verify failed: expected {expected}, got {current}"
  | .invalidArgument what => what
  | .transport what => what
  | .outOfTurns => ""

/-- The exception is an `std::invalid_argument`, not an `std::runtime_error`. -/
def Failure.isInvalidArgument : Failure → Bool
  | .invalidMode => true
  | .invalidArgument _ => true
  | _ => false

/-- The text of an exception contains a word. -/
def Failure.mentions (e : Failure) (word : String) : Bool := decide (word.toList <:+: e.what.toList)

/-- The control frames `ensure_mode` sends, with the position to hold. -/
inductive ControlFrame
  | velocity
  | positionVelocity (hold : Word)
  | forcePosition (hold : Word)
  | mit (hold : Word)
  deriving DecidableEq

/-- The places of a call where other threads may have acted. -/
inductive Site
  | clock
  /-- The loop of `write_register_with_retry` compares the clock with its deadline. -/
  | deadline
  | capture
  | send
  | control (frame : ControlFrame)
  | sleep
  | checkAck
  | checkReply
  deriving DecidableEq

/-- A program over a line.  The input of a sending section is the refusal of the transport, if it refuses. -/
abbrev Program (α : Type) : Type := Proc Line (Option String) Site Failure α

/-- What may happen on the line between two sections of a call. -/
def Others (call : ℕ) (_ : Site) : Line → Line → Prop := Relation.ReflTransGen (Line.Moves call)

def kRegisterReadRetryInterval : ℕ := 2 * millisecond

/-- In milliseconds. -/
def kRegisterWriteRetryInterval : ℕ := 10

def kRegisterWriteTransactionTimeout : ℕ := 200 * millisecond

/-- Read the line. -/
def look {α : Type} (site : Site) (f : Line → α) : Program α := atomic site fun _ s => (f s, s)

/-- `std::chrono::steady_clock::now`. -/
def clock : Program ℕ := look .clock Line.now

/-- Sleep for a while that begins no earlier than a clock reading. -/
def sleepFor (since duration : ℕ) : Program Unit :=
  await .sleep (fun s => since + duration ≤ s.now) fun _ s => (.ok (), s)

/-- `send_raw` of a register frame. -/
def sendRaw (frame : UInt16 → CanFrame) (call : ℕ) : Program Unit :=
  await .send (fun _ => true) fun refusal s =>
    match refusal with
    | some what => (.error (.transport what), s)
    | none => (.ok (), s.put (frame s.handle.motorId) call)

/-! ### Writing -/

/-- What `wait_for_write_ack` sees: whether the last acknowledgement has the expected value, if one was counted. -/
def ackSeen (rid : UInt8) (expected : Word) (previousUpdateCount : ℕ) (s : Line) : Option Bool :=
  if previousUpdateCount < s.handle.registerAckUpdateCounts rid then
    (s.handle.registerAcks rid).map fun (value, _) => decide (value = expected)
  else none

/-- The loop of `wait_for_write_ack`. -/
def pollWriteAck (rid : UInt8) (expected : Word) (previousUpdateCount deadline : ℕ) : ℕ → Program Unit
  | 0 => throw .outOfTurns
  | turns + 1 => do
    let seen ← look .checkAck (ackSeen rid expected previousUpdateCount)
    match seen with
    | some true => ret ()
    | some false => throw .ackMismatched
    | none =>
      let now ← clock
      if deadline ≤ now then throw .ackTimedOut else
        let _ ← sleepFor now millisecond
        pollWriteAck rid expected previousUpdateCount deadline turns

/-- `wait_for_write_ack`, with a timeout in milliseconds.  Each turn sleeps for a millisecond. -/
def waitForWriteAck (rid : UInt8) (expected : Word) (previousUpdateCount timeout : ℕ) : Program Unit := do
  let started ← clock
  pollWriteAck rid expected previousUpdateCount (started + timeout * millisecond) (timeout + 1)

/-- The exception a program throws, if it throws. -/
def caught (p : Program Unit) : Program (Option Failure) :=
  tryCatch (p.bind fun _ => ret none) fun e => ret (some e)

/-- Compare the clock with the deadline of a write. -/
def beforeDeadline (deadline : ℕ) : Program ℕ :=
  await .deadline (fun _ => true) fun _ s => (if deadline ≤ s.now then .error .ackTimedOut else .ok s.now, s)

/-- One turn of the loop of `write_register_with_retry`: whether the write is acknowledged. -/
def attemptWrite (rid : UInt8) (data : Word) (previousUpdateCount deadline call : ℕ) : Program Bool := do
  let _ ← beforeDeadline deadline
  let _ ← sendRaw (fun motorId => registerWriteFrame motorId rid data) call
  let now ← beforeDeadline deadline
  let error ← caught (waitForWriteAck rid data previousUpdateCount
    (min kRegisterWriteRetryInterval ((deadline - now) / millisecond)))
  match error with
  | none => ret true
  | some error =>
    if error.mentions "mismatched" then throw error else
      let _ ← beforeDeadline deadline
      ret false

/-- The loop of `write_register_with_retry`. -/
def retryWrite (rid : UInt8) (data : Word) (previousUpdateCount deadline call : ℕ) : ℕ → Program Unit
  | 0 => throw .outOfTurns
  | turns + 1 => do
    let acknowledged ← attemptWrite rid data previousUpdateCount deadline call
    if acknowledged then ret () else retryWrite rid data previousUpdateCount deadline call turns

/-- `write_register_with_retry` with a deadline. -/
def writeRegisterWithRetry (rid : UInt8) (data : Word) (deadline call turns : ℕ) : Program Unit := do
  let previousUpdateCount ← look .capture fun s => s.handle.registerAckUpdateCounts rid
  retryWrite rid data previousUpdateCount deadline call turns

/-- `write_register_with_retry` with the default deadline. -/
def writeRegister (rid : UInt8) (data : Word) (call turns : ℕ) : Program Unit := do
  let now ← clock
  writeRegisterWithRetry rid data (now + kRegisterWriteTransactionTimeout) call turns

/-! ### Reading -/

/-- The reply that `wait_for_register` accepts. -/
def freshReply (rid : UInt8) (requestAt : ℕ) (s : Line) : Option Word :=
  match s.handle.registerReplies rid with
  | some (value, time) => if requestAt ≤ time then some value else none
  | none => none

/-- Send a read when it is due; the answer is when the next one is. -/
def requestRegister (rid : UInt8) (now nextRequestAt call : ℕ) : Program ℕ :=
  if nextRequestAt ≤ now then do
    let _ ← sendRaw (fun motorId => registerReadFrame motorId rid) call
    ret (now + kRegisterReadRetryInterval)
  else ret nextRequestAt

/-- The loop of `wait_for_register`. -/
def pollRegister (rid : UInt8) (requestAt deadline call : ℕ) : ℕ → ℕ → Program Word
  | _, 0 => throw .outOfTurns
  | nextRequestAt, turns + 1 => do
    let found ← look .checkReply (freshReply rid requestAt)
    match found with
    | some value => ret value
    | none =>
      let now ← clock
      if deadline ≤ now then throw .readTimedOut else
        let nextRequestAt ← requestRegister rid now nextRequestAt call
        let _ ← sleepFor now millisecond
        pollRegister rid requestAt deadline call nextRequestAt turns

/-- `wait_for_register`, with a timeout in milliseconds.  Each turn sleeps for a millisecond. -/
def waitForRegister (rid : UInt8) (timeout call : ℕ) : Program Word := do
  let requestAt ← clock
  pollRegister rid requestAt (requestAt + timeout * millisecond) call requestAt (timeout + 1)

/-- `validate_register`. -/
def validate (rid : UInt8) (expectedType : RegisterDataType) (writing : Bool) : Program Unit :=
  match validateRegister rid expectedType writing with
  | some what => throw (.invalidArgument what)
  | none => ret ()

/-- `get_register_f32`: the bytes of the float. -/
def getRegisterF32 (rid : UInt8) (timeout call : ℕ) : Program Word := do
  let _ ← validate rid .float false
  waitForRegister rid timeout call

/-- `remaining`, in milliseconds. -/
def remaining (deadline now : ℕ) : Option ℕ :=
  if deadline ≤ now then none else some (max ((deadline - now) / millisecond) 1)

/-- `capped_remaining`. -/
def cappedRemaining (deadline cap : ℕ) : Program (Option ℕ) := do
  let now ← clock
  ret ((remaining deadline now).map fun value => min value cap)

/-- Read register 80, the position to hold. -/
def readHold (deadline cap call : ℕ) : Program (Option Word) := do
  let readTimeout ← cappedRemaining deadline cap
  match readTimeout with
  | some readTimeout =>
    tryCatch
      (do
        let value ← getRegisterF32 80 readTimeout call
        ret (some value))
      fun error => if error.isInvalidArgument then throw error else ret none
  | none => ret none

/-- The position to hold, which a switch to mode 3 does not read. -/
def holdPosition (mode : UInt32) (deadline cap call : ℕ) : Program (Option Word) :=
  if mode ≠ 3 then readHold deadline cap call else ret none

end MotorDrive.Damiao
