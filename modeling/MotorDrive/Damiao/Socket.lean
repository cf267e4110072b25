import MotorDrive.Library.Validate
import MotorDrive.Damiao.Protocol

/-!
# Frames on the socket

`socketcan_fd_bus.cpp`: a frame as the record that the CAN-FD socket takes and gives (`SocketCanCodec`), and the loop
that writes it with a deadline.  Encoding refuses what the protocol has no frame for, and decoding is its inverse on
everything else.  What the system calls of a turn of the loop give is an input.
-/

namespace MotorDrive.Damiao

open Validate

/-- `kCanEffFlag`. -/
def kCanEffFlag : UInt32 := 0x80000000

/-- `kCanEffMask`. -/
def kCanEffMask : UInt32 := 0x1FFFFFFF

/-- `kCanSffMask`. -/
def kCanSffMask : UInt32 := 0x7FF

/-- `kCanFdBrs`. -/
def kCanFdBrs : UInt8 := 1

/-- `SocketCanFdRawFrame`. -/
structure SocketCanFdRawFrame where
  canId : UInt32
  len : UInt8
  flags : UInt8
  data : Vector UInt8 64
  deriving DecidableEq

/-- `validate_frame`. -/
def validateFrame (frame : CanFrame) : Except String Unit := do
  reject (8 < frame.dlc) "invalid DLC, expected <= 8"
  reject (¬ frame.isExtended ∧ kCanSffMask < frame.id) "invalid standard CAN id"
  reject (frame.isExtended ∧ kCanEffMask < frame.id) "invalid extended CAN id"

/-- `encode_fd`. -/
def encodeFd (frame : CanFrame) (enableBrs : Bool) : Except String SocketCanFdRawFrame := do
  validateFrame frame
  return {
    canId := if frame.isExtended then frame.id ||| kCanEffFlag else frame.id
    len := frame.dlc
    flags := if enableBrs then kCanFdBrs else 0
    data := Vector.ofFn fun place => frame.data.getD place 0 }

/-- `decode_fd`; the frame keeps the channel that frames have from the start. -/
def decodeFd (raw : SocketCanFdRawFrame) : CanFrame :=
  let isExtended := decide (raw.canId &&& kCanEffFlag ≠ 0)
  { id := if isExtended then raw.canId &&& kCanEffMask else raw.canId &&& kCanSffMask
    data := Vector.ofFn fun place => raw.data.getD place 0
    dlc := min raw.len 8
    isExtended }

/-- The frame as it is received: the wire has no channel. -/
def CanFrame.received (frame : CanFrame) : CanFrame := { frame with channel := 0xFF }

/-- A frame that the protocol has. -/
structure CanFrame.Valid (frame : CanFrame) : Prop where
  dlc : frame.dlc ≤ 8
  standard : frame.isExtended = false → frame.id ≤ kCanSffMask
  extended : frame.isExtended = true → frame.id ≤ kCanEffMask

section Bits

variable {id : UInt32}

/-- An identifier that fits its mask has no flag. -/
theorem and_flag (small : id.toNat < 2 ^ 31) : id &&& kCanEffFlag = 0 := by
  refine UInt32.toNat_inj.mp ?_
  rw [UInt32.toNat_and]
  change id.toNat &&& 2 ^ 31 = 0
  rw [Nat.and_two_pow, Nat.testBit_lt_two_pow small, Bool.toNat_false, Nat.zero_mul]

/-- The low bits of a number that fits them. -/
theorem and_mask {mask : UInt32} {bits : ℕ} (low : mask.toNat = 2 ^ bits - 1) (fits : id ≤ mask) : id &&& mask = id := by
  refine UInt32.toNat_inj.mp ?_
  have bound : id.toNat ≤ mask.toNat := UInt32.le_iff_toNat_le.mp fits
  have positive := Nat.two_pow_pos bits
  rw [UInt32.toNat_and, low, Nat.and_two_pow_sub_one_eq_mod, Nat.mod_eq_of_lt (by omega)]

/-- The flag beside an extended identifier. -/
theorem flag_extended (fits : id ≤ kCanEffMask) :
    (id ||| kCanEffFlag) &&& kCanEffFlag ≠ 0 ∧ (id ||| kCanEffFlag) &&& kCanEffMask = id := by
  have flag : (id ||| kCanEffFlag) &&& kCanEffFlag = kCanEffFlag := by
    refine UInt32.toNat_inj.mp (Nat.eq_of_testBit_eq fun place => ?_)
    rw [UInt32.toNat_and, UInt32.toNat_or, Nat.testBit_and, Nat.testBit_or]
    cases kCanEffFlag.toNat.testBit place <;> simp
  have masked := congrArg UInt32.toNat (and_mask (show kCanEffMask.toNat = 2 ^ 29 - 1 by decide) fits)
  have apart : kCanEffFlag.toNat &&& kCanEffMask.toNat = 0 := by decide
  have present : kCanEffFlag ≠ 0 := by decide
  rw [UInt32.toNat_and] at masked
  refine ⟨by rw [flag]; exact present, UInt32.toNat_inj.mp ?_⟩
  rw [UInt32.toNat_and, UInt32.toNat_or, Nat.and_or_distrib_right, masked, apart, Nat.or_zero]

end Bits

section Codec

variable {frame : CanFrame} {raw : SocketCanFdRawFrame} {enableBrs : Bool}

/-- The frames that are sent. -/
theorem validateFrame_iff : validateFrame frame = .ok () ↔ frame.Valid := by
  constructor
  · intro ok
    obtain ⟨short, ok⟩ := reject_bind_eq_ok ok
    obtain ⟨standard, ok⟩ := reject_bind_eq_ok ok
    have extended := reject_eq_ok.mp ok
    refine ⟨UInt8.not_lt.mp short, fun plain => ?_, fun long => ?_⟩
    · exact UInt32.not_lt.mp fun large => standard ⟨by simp [plain], large⟩
    · exact UInt32.not_lt.mp fun large => extended ⟨long, large⟩
  · intro valid
    unfold validateFrame
    rw [reject_bind_of_not (UInt8.not_lt.mpr valid.dlc), reject_bind_of_not]
    · refine reject_eq_ok.mpr ?_
      rintro ⟨long, large⟩
      exact UInt32.not_lt.mpr (valid.extended long) large
    · rintro ⟨plain, large⟩
      exact UInt32.not_lt.mpr (valid.standard (by simpa using plain)) large

/-- What was encoded is decoded, less the channel. -/
theorem decodeFd_of_encodeFd (ok : encodeFd frame enableBrs = .ok raw) : decodeFd raw = frame.received := by
  obtain ⟨_, valid, returned⟩ := bind_eq_ok ok
  have valid := validateFrame_iff.mp valid
  cases returned
  obtain ⟨id, data, dlc, isExtended, channel⟩ := frame
  have payload : Vector.ofFn (fun place : Fin 8 => (Vector.ofFn fun place : Fin 64 =>
      data.getD place 0).getD place 0) = data := by
    ext place inside
    simp [Vector.getD, Nat.lt_trans inside (show 8 < 64 by decide), inside]
  have count : min dlc 8 = dlc := if_pos valid.dlc
  cases isExtended with
  | false =>
    have small : id.toNat ≤ 2047 := UInt32.le_iff_toNat_le.mp (valid.standard rfl)
    have flag : id &&& kCanEffFlag = 0 := and_flag (by omega)
    have low : id &&& kCanSffMask = id := and_mask (show kCanSffMask.toNat = 2 ^ 11 - 1 by decide) (valid.standard rfl)
    simp [decodeFd, CanFrame.received, flag, low, payload, count]
  | true =>
    obtain ⟨flag, low⟩ := flag_extended (valid.extended rfl)
    simp [decodeFd, CanFrame.received, flag, low, payload, count]

end Codec

/-- The classes of `errno` after a `write` of a frame; `queueFull` is one of `EAGAIN`, `EWOULDBLOCK` and `ENOBUFS`. -/
inductive WriteError
  | interrupted | queueFull | other
  deriving DecidableEq

inductive WriteResult
  | wrote (count : ℕ)
  | failed (error : WriteError)
  deriving DecidableEq

/-- What `poll` gives; `ready` says whether an error of the socket is among the events. -/
inductive PollResult
  | interrupted | failed | timedOut
  | ready (socketError : Bool)
  deriving DecidableEq

/-- What the system does in a turn of the loop: the result of the `write` and the clock after it, and the result of
the `poll`, if there is one, and the clock after that.  Times are in nanoseconds. -/
structure Turn where
  write : WriteResult
  now : ℕ
  poll : PollResult
  later : ℕ
  deriving DecidableEq

inductive SendError
  | invalid (message : String)
  | closed
  | shortWrite (written : ℕ)
  | write | poll | socketError | timedOut
  deriving DecidableEq

/-- How a turn ends: with the call, or with another turn. -/
abbrev TurnEnd := Option (Except SendError Unit)

/-- `poll_ms`: the time to the deadline, rounded up to milliseconds. -/
def pollMs (deadline now : ℕ) : ℕ := min ((deadline - now + 999999) / 1000000) 2147483647

/-- The end of a turn after its `poll`. -/
def Turn.polled (turn : Turn) (deadline : ℕ) : TurnEnd :=
  match turn.poll with
  | .interrupted => if deadline ≤ turn.later then some (.error .timedOut) else none
  | .failed => some (.error .poll)
  | .timedOut => some (.error .timedOut)
  | .ready socketError => if socketError then some (.error .socketError) else none

/-- A turn of the loop: how it ends, and the timeout of its `poll`. -/
def Turn.run (turn : Turn) (frameSize deadline : ℕ) : TurnEnd × Option ℕ :=
  match turn.write with
  | .wrote count => (some (if count = frameSize then .ok () else .error (.shortWrite count)), none)
  | .failed .interrupted => (if deadline ≤ turn.now then some (.error .timedOut) else none, none)
  | .failed .other => (some (.error .write), none)
  | .failed .queueFull =>
    if deadline ≤ turn.now then (some (.error .timedOut), none)
    else (turn.polled deadline, some (pollMs deadline turn.now))

/-- `write_frame_with_timeout`: its result and the turns that it took, if it ends on them. -/
def writeFrameWithTimeout (frameSize deadline : ℕ) : List Turn → Option (Except SendError Unit × List Turn)
  | [] => none
  | turn :: rest =>
    match (turn.run frameSize deadline).1 with
    | some result => some (result, [turn])
    | none => (writeFrameWithTimeout frameSize deadline rest).map fun (result, taken) => (result, turn :: taken)

/-- What a call of the loop promises, for its result and its turns: the frame is written in the last one or not at all,
another turn is begun before the deadline only, and no `poll` waits longer than to the end of the millisecond of the
deadline. -/
structure SendPromise (frameSize deadline : ℕ) (result : Except SendError Unit) (taken : List Turn) : Prop where
  earlier : ∀ turn ∈ taken.dropLast, turn.now < deadline ∧
    (turn.write = .failed .interrupted ∨ turn.write = .failed .queueFull)
  whole : result = .ok () ↔ ∃ turn ∈ taken.getLast?, turn.write = .wrote frameSize
  polls : ∀ turn ∈ taken, ∀ timeout ∈ (turn.run frameSize deadline).2,
    turn.now < deadline ∧ timeout * 1000000 < deadline - turn.now + 1000000

section Loop

variable {frameSize deadline : ℕ} {turn : Turn}

/-- A turn that is not the last one. -/
theorem Turn.goesOn (more : (turn.run frameSize deadline).1 = none) : turn.now < deadline ∧
    (turn.write = .failed .interrupted ∨ turn.write = .failed .queueFull) := by
  obtain ⟨write, now, poll, later⟩ := turn
  cases write with
  | wrote count => cases more
  | failed error =>
    cases error with
    | interrupted =>
      simp only [Turn.run, ite_eq_right_iff, reduceCtorEq, imp_false, not_le] at more
      exact ⟨more, .inl rfl⟩
    | queueFull =>
      refine ⟨?_, .inr rfl⟩
      by_contra late
      simp only [Turn.run, if_pos (not_lt.mp late), reduceCtorEq] at more
    | other => cases more

/-- No `poll` ends the call with a written frame. -/
theorem Turn.polled_ne_ok : turn.polled deadline ≠ some (.ok ()) := by
  unfold Turn.polled
  cases turn.poll with
  | failed => simp
  | timedOut => simp
  | ready socketError => cases socketError <;> simp
  | interrupted =>
    simp only
    split_ifs <;> simp

/-- The last turn. -/
theorem Turn.ends {result : Except SendError Unit} (done : (turn.run frameSize deadline).1 = some result) :
    result = .ok () ↔ turn.write = .wrote frameSize := by
  obtain ⟨write, now, poll, later⟩ := turn
  cases write with
  | wrote count =>
    simp only [Turn.run, Option.some.injEq] at done
    subst done
    split_ifs with whole
    · simp [whole]
    · simp [whole]
  | failed error =>
    have failed : result ≠ .ok () := by
      rintro rfl
      cases error with
      | interrupted =>
        simp only [Turn.run] at done
        split_ifs at done
        cases done
      | queueFull =>
        simp only [Turn.run] at done
        split_ifs at done with late
        · cases done
        · exact Turn.polled_ne_ok done
      | other => cases done
    exact ⟨fun ok => absurd ok failed, fun wrote => by cases wrote⟩

/-- A `poll` of a turn. -/
theorem Turn.waits {timeout : ℕ} (polled : timeout ∈ (turn.run frameSize deadline).2) :
    turn.now < deadline ∧ timeout * 1000000 < deadline - turn.now + 1000000 := by
  obtain ⟨write, now, poll, later⟩ := turn
  cases write with
  | wrote count => cases polled
  | failed error =>
    cases error with
    | interrupted => cases polled
    | other => cases polled
    | queueFull =>
      simp only [Turn.run] at polled
      split_ifs at polled with late
      · cases polled
      · cases polled
        refine ⟨not_le.mp late, ?_⟩
        simp only [pollMs]
        omega

/-- One turn before a call that keeps its promise. -/
theorem SendPromise.cons {result : Except SendError Unit} {taken : List Turn} (several : taken ≠ [])
    (promise : SendPromise frameSize deadline result taken) (more : (turn.run frameSize deadline).1 = none) :
    SendPromise frameSize deadline result (turn :: taken) where
  earlier := by
    rw [List.dropLast_cons_of_ne_nil several]
    exact List.forall_mem_cons.mpr ⟨Turn.goesOn more, promise.earlier⟩
  whole := by
    rw [List.getLast?_cons_of_ne_nil several]
    exact promise.whole
  polls := List.forall_mem_cons.mpr ⟨fun _ => Turn.waits, promise.polls⟩

/-- A call whose turns are all after the deadline makes one attempt. -/
theorem SendPromise.length_le_one {result : Except SendError Unit} {taken : List Turn}
    (promise : SendPromise frameSize deadline result taken) (late : ∀ turn ∈ taken, deadline ≤ turn.now) :
    taken.length ≤ 1 := by
  by_contra more
  have inside : 0 < taken.dropLast.length := by
    rw [List.length_dropLast]
    omega
  have member := List.getElem_mem inside
  have early := (promise.earlier _ member).1
  exact absurd early (not_lt.mpr (late _ (List.dropLast_subset taken member)))

/-- For every behaviour of the system, the loop keeps its promise, and it ends no later than with the first turn in
which the deadline has passed. -/
theorem writeFrameWithTimeout_promise (frameSize deadline : ℕ) (turns : List Turn) :
    ((∃ turn ∈ turns, deadline ≤ turn.now) → (writeFrameWithTimeout frameSize deadline turns).isSome) ∧
      ∀ result taken, writeFrameWithTimeout frameSize deadline turns = some (result, taken) →
        taken ≠ [] ∧ taken <+: turns ∧ SendPromise frameSize deadline result taken := by
  induction turns with
  | nil => exact ⟨fun late => by simp at late, fun _ _ ended => by cases ended⟩
  | cons turn rest ih =>
    unfold writeFrameWithTimeout
    cases ends : (turn.run frameSize deadline).1 with
    | some result =>
      refine ⟨fun _ => rfl, fun result' taken ended => ?_⟩
      cases ended
      refine ⟨List.cons_ne_nil _ _, ⟨rest, rfl⟩, fun _ member => absurd member List.not_mem_nil, ?_, ?_⟩
      · exact (Turn.ends ends).trans (by simp)
      · exact fun other member => by
          obtain rfl := List.mem_singleton.mp member
          exact fun _ => Turn.waits
    | none =>
      obtain ⟨before, -⟩ := Turn.goesOn ends
      constructor
      · rintro ⟨other, member, late⟩
        rcases List.mem_cons.mp member with rfl | later
        · exact absurd before (not_lt.mpr late)
        · simpa using ih.1 ⟨other, later, late⟩
      · intro result taken ended
        obtain ⟨⟨result', taken'⟩, later, same⟩ := Option.map_eq_some_iff.mp ended
        cases same
        obtain ⟨several, leading, promise⟩ := ih.2 result taken' later
        exact ⟨List.cons_ne_nil _ _, List.cons_prefix_cons.mpr ⟨rfl, leading⟩, promise.cons several ends⟩

end Loop

/-- `SocketCanFdBus`, as far as it sends; the timeout is in milliseconds. -/
structure SocketCanFdBus where
  fdOpen : Bool
  enableBrs : Bool
  sendTimeout : ℕ
  deriving DecidableEq

/-- The size of a `canfd_frame`. -/
def canFdFrameSize : ℕ := 72

/-- `SocketCanFdBus::send`, called at an instant: its result, and each record that it offered to the socket with what
the `write` gave. -/
def SocketCanFdBus.send (bus : SocketCanFdBus) (frame : CanFrame) (start : ℕ) (turns : List Turn) :
    Option (Except SendError Unit × List (SocketCanFdRawFrame × WriteResult)) :=
  match encodeFd frame bus.enableBrs with
  | .error message => some (.error (.invalid message), [])
  | .ok raw =>
    if bus.fdOpen then
      (writeFrameWithTimeout canFdFrameSize (start + bus.sendTimeout * 1000000) turns).map fun (result, taken) =>
        (result, taken.map fun turn => (raw, turn.write))
    else some (.error .closed, [])

/-- The frames that the socket has taken. -/
def onWire (writes : List (SocketCanFdRawFrame × WriteResult)) : List CanFrame :=
  (writes.filter fun write => write.2 = .wrote canFdFrameSize).map fun write => decodeFd write.1

/-- The wire after a call of the loop. -/
theorem onWire_of_promise {raw : SocketCanFdRawFrame} {frame : CanFrame} (decodes : decodeFd raw = frame.received)
    {deadline : ℕ} {result : Except SendError Unit} {taken : List Turn} (several : taken ≠ [])
    (promise : SendPromise canFdFrameSize deadline result taken) :
    onWire (taken.map fun turn => (raw, turn.write)) = if result = .ok () then [frame.received] else [] := by
  have before : (taken.dropLast.map fun turn => (raw, turn.write)).filter
      (fun write => write.2 = .wrote canFdFrameSize) = [] := by
    rw [List.filter_eq_nil_iff]
    intro write member
    obtain ⟨turn, early, rfl⟩ := List.mem_map.mp member
    rcases (promise.earlier turn early).2 with failed | failed <;> simp [failed]
  have last : (taken.getLast several).write = .wrote canFdFrameSize ↔ result = .ok () := by
    rw [promise.whole, List.getLast?_eq_getLast_of_ne_nil several]
    simp
  unfold onWire
  rw [← List.dropLast_append_getLast several, List.map_append, List.filter_append, before, List.nil_append]
  by_cases ok : result = .ok ()
  · simp [last.mpr ok, ok, decodes]
  · have other : (taken.getLast several).write ≠ .wrote canFdFrameSize := fun wrote => ok (last.mp wrote)
    simp [other, ok]

section Send

variable {bus : SocketCanFdBus} {frame : CanFrame} {start : ℕ} {turns : List Turn} {raw : SocketCanFdRawFrame}

theorem send_invalid {message : String} (encoded : encodeFd frame bus.enableBrs = .error message) :
    bus.send frame start turns = some (.error (.invalid message), []) := by
  rw [SocketCanFdBus.send, encoded]

theorem send_closed (encoded : encodeFd frame bus.enableBrs = .ok raw) (closed : ¬ bus.fdOpen) :
    bus.send frame start turns = some (.error .closed, []) := by
  rw [SocketCanFdBus.send, encoded]
  exact if_neg closed

theorem send_open {result : Except SendError Unit} {writes : List (SocketCanFdRawFrame × WriteResult)}
    (encoded : encodeFd frame bus.enableBrs = .ok raw) (fdOpen : bus.fdOpen)
    (sent : bus.send frame start turns = some (result, writes)) : ∃ taken,
      writeFrameWithTimeout canFdFrameSize (start + bus.sendTimeout * 1000000) turns = some (result, taken) ∧
        writes = taken.map fun turn => (raw, turn.write) := by
  rw [SocketCanFdBus.send, encoded] at sent
  simp only [fdOpen, if_true] at sent
  obtain ⟨⟨result', taken⟩, ended, same⟩ := Option.map_eq_some_iff.mp sent
  cases same
  exact ⟨taken, ended, rfl⟩

theorem isSome_send_open (encoded : encodeFd frame bus.enableBrs = .ok raw) (fdOpen : bus.fdOpen) :
    (bus.send frame start turns).isSome =
      (writeFrameWithTimeout canFdFrameSize (start + bus.sendTimeout * 1000000) turns).isSome := by
  rw [SocketCanFdBus.send, encoded]
  simp only [fdOpen, if_true, Option.isSome_map]

end Send

/-- What a call promises: its frame is on the wire once if it returns, and not at all if it throws; it returns only for
a valid frame and an open bus, and the record that it offers is that of the frame. -/
structure SendOnce (bus : SocketCanFdBus) (frame : CanFrame) (result : Except SendError Unit)
    (writes : List (SocketCanFdRawFrame × WriteResult)) : Prop where
  wire : onWire writes = if result = .ok () then [frame.received] else []
  valid : result = .ok () → frame.Valid ∧ bus.fdOpen
  record : ∀ write ∈ writes, encodeFd frame bus.enableBrs = .ok write.1

/-- A call that offers nothing. -/
theorem sendOnce_error (bus : SocketCanFdBus) (frame : CanFrame) (error : SendError) :
    SendOnce bus frame (.error error) [] where
  wire := by simp [onWire]
  valid ok := by cases ok
  record _ member := absurd member List.not_mem_nil

/-- For every frame, bus and behaviour of the system, a call puts its frame on the wire once if it returns, and not at
all if it throws.  It ends no later than with the first turn in which its deadline has passed, and makes one attempt
only if that is the first one. -/
theorem send_once (bus : SocketCanFdBus) (frame : CanFrame) (start : ℕ) (turns : List Turn) :
    ((∃ turn ∈ turns, start + bus.sendTimeout * 1000000 ≤ turn.now) → (bus.send frame start turns).isSome) ∧
      ∀ result writes, bus.send frame start turns = some (result, writes) → SendOnce bus frame result writes ∧
        ((∀ turn ∈ turns, start + bus.sendTimeout * 1000000 ≤ turn.now) → writes.length ≤ 1) := by
  cases encoded : encodeFd frame bus.enableBrs with
  | error message =>
    rw [send_invalid encoded]
    refine ⟨fun _ => rfl, fun result writes sent => ?_⟩
    cases sent
    exact ⟨sendOnce_error bus frame _, fun _ => Nat.zero_le 1⟩
  | ok raw =>
    by_cases fdOpen : bus.fdOpen
    · obtain ⟨ends, promises⟩ :=
        writeFrameWithTimeout_promise canFdFrameSize (start + bus.sendTimeout * 1000000) turns
      refine ⟨fun late => isSome_send_open encoded fdOpen ▸ ends late, fun result writes sent => ?_⟩
      obtain ⟨taken, ended, rfl⟩ := send_open encoded fdOpen sent
      obtain ⟨several, leading, promise⟩ := promises result taken ended
      obtain ⟨_, valid, -⟩ := bind_eq_ok encoded
      refine ⟨⟨onWire_of_promise (decodeFd_of_encodeFd encoded) several promise,
        fun _ => ⟨validateFrame_iff.mp valid, fdOpen⟩, fun write member => ?_⟩, fun late => ?_⟩
      · obtain ⟨turn, -, rfl⟩ := List.mem_map.mp member
        exact encoded
      · rw [List.length_map]
        exact promise.length_le_one fun turn member => late turn (leading.subset member)
    · rw [send_closed encoded fdOpen]
      refine ⟨fun _ => rfl, fun result writes sent => ?_⟩
      cases sent
      exact ⟨sendOnce_error bus frame _, fun _ => Nat.zero_le 1⟩

end MotorDrive.Damiao
