import MotorDrive.Damiao.Protocol

/-!
# The MIT frame codec

`float_to_uint`, `encode_mit_command` and the special frames of `protocol.hpp`.  The quantiser rounds down between the
limits; the five codes of a command have their own bits of the frame, so a frame has one reading; the special frames
are those of the largest codes.
-/

namespace MotorDrive.Damiao

/-! ## The quantiser -/

/-- A value within the limits. -/
def clip (x xMin xMax : ℚ) : ℚ := min (max x xMin) xMax

/-- `float_to_uint`; the conversion to an unsigned integer rounds down. -/
def floatToUint (x xMin xMax : ℚ) (bits : ℕ) : ℕ :=
  ⌊(clip x xMin xMax - xMin) * (2 ^ bits - 1 : ℕ) / (xMax - xMin)⌋₊

/-- The distance of two values with adjacent codes. -/
def quantum (xMin xMax : ℚ) (bits : ℕ) : ℚ := (xMax - xMin) / (2 ^ bits - 1 : ℕ)

section Quantiser

variable {x y xMin xMax : ℚ} {bits code : ℕ}

theorem le_clip (ordered : xMin < xMax) : xMin ≤ clip x xMin xMax := le_min (le_max_right _ _) ordered.le

theorem clip_mono (le : x ≤ y) : clip x xMin xMax ≤ clip y xMin xMax := min_le_min_right _ (max_le_max_right _ le)

theorem clip_of_le (ordered : xMin < xMax) (below : x ≤ xMin) : clip x xMin xMax = xMin := by
  rw [clip, max_eq_right below, min_eq_left ordered.le]

theorem clip_of_ge (above : xMax ≤ x) : clip x xMin xMax = xMax := min_eq_right (above.trans (le_max_left _ _))

theorem clip_of_mem (low : xMin ≤ x) (high : x ≤ xMax) : clip x xMin xMax = x := by
  rw [clip, max_eq_left low, min_eq_left high]

theorem uintToFloat_eq (code : ℕ) (xMin xMax : ℚ) (bits : ℕ) :
    uintToFloat code xMin xMax bits = xMin + code * quantum xMin xMax bits := by
  unfold uintToFloat quantum
  ring

theorem largest_pos (some : 0 < bits) : (0 : ℚ) < (2 ^ bits - 1 : ℕ) := by
  have : 1 < 2 ^ bits := Nat.one_lt_two_pow some.ne'
  exact Nat.cast_pos.mpr (by omega)

theorem quantum_pos (ordered : xMin < xMax) (some : 0 < bits) : 0 < quantum xMin xMax bits :=
  div_pos (sub_pos.mpr ordered) (largest_pos some)

/-- The code counts the quanta from the lower limit. -/
theorem floatToUint_eq (ordered : xMin < xMax) (some : 0 < bits) :
    floatToUint x xMin xMax bits = ⌊(clip x xMin xMax - xMin) / quantum xMin xMax bits⌋₊ := by
  have span := (sub_pos.mpr ordered).ne'
  have largest := (largest_pos some).ne'
  unfold floatToUint quantum
  congr 1
  field_simp

theorem quanta_nonneg (ordered : xMin < xMax) (some : 0 < bits) :
    0 ≤ (clip x xMin xMax - xMin) / quantum xMin xMax bits :=
  div_nonneg (sub_nonneg.mpr (le_clip ordered)) (quantum_pos ordered some).le

theorem floatToUint_mono (ordered : xMin < xMax) (some : 0 < bits) (le : x ≤ y) :
    floatToUint x xMin xMax bits ≤ floatToUint y xMin xMax bits := by
  rw [floatToUint_eq ordered some, floatToUint_eq ordered some]
  refine Nat.floor_le_floor (div_le_div_of_nonneg_right ?_ (quantum_pos ordered some).le)
  exact sub_le_sub_right (clip_mono le) _

/-- A code is decoded to its value, and the value has this code. -/
theorem floatToUint_uintToFloat (ordered : xMin < xMax) (some : 0 < bits) (small : code ≤ 2 ^ bits - 1) :
    floatToUint (uintToFloat code xMin xMax bits) xMin xMax bits = code := by
  have step := quantum_pos ordered some
  have low : xMin ≤ uintToFloat code xMin xMax bits := by
    rw [uintToFloat_eq]
    exact le_add_of_nonneg_right (mul_nonneg (Nat.cast_nonneg _) step.le)
  have high : uintToFloat code xMin xMax bits ≤ xMax := by
    have small : (code : ℚ) ≤ (2 ^ bits - 1 : ℕ) := Nat.cast_le.mpr small
    have whole : ((2 ^ bits - 1 : ℕ) : ℚ) * quantum xMin xMax bits = xMax - xMin :=
      mul_div_cancel₀ _ (largest_pos some).ne'
    have scaled := mul_le_mul_of_nonneg_right small step.le
    rw [uintToFloat_eq]
    linarith
  rw [floatToUint_eq ordered some, clip_of_mem low high, uintToFloat_eq, add_sub_cancel_left,
    mul_div_cancel_right₀ _ step.ne', Nat.floor_natCast]

theorem floatToUint_of_le (ordered : xMin < xMax) (below : x ≤ xMin) : floatToUint x xMin xMax bits = 0 := by
  rw [floatToUint, clip_of_le ordered below, sub_self, zero_mul, zero_div, Nat.floor_zero]

theorem floatToUint_of_ge (ordered : xMin < xMax) (above : xMax ≤ x) :
    floatToUint x xMin xMax bits = 2 ^ bits - 1 := by
  rw [floatToUint, clip_of_ge above, mul_div_cancel_left₀ _ (sub_pos.mpr ordered).ne', Nat.floor_natCast]

theorem floatToUint_le (ordered : xMin < xMax) (some : 0 < bits) : floatToUint x xMin xMax bits ≤ 2 ^ bits - 1 := by
  have top : floatToUint xMax xMin xMax bits = 2 ^ bits - 1 := floatToUint_of_ge ordered le_rfl
  rw [← top]
  rcases le_total x xMax with within | above
  · exact floatToUint_mono ordered some within
  · rw [floatToUint_of_ge ordered above, floatToUint_of_ge ordered le_rfl]

/-- Decoding loses less than a quantum. -/
theorem uintToFloat_floatToUint (ordered : xMin < xMax) (some : 0 < bits) :
    uintToFloat (floatToUint x xMin xMax bits) xMin xMax bits ≤ clip x xMin xMax ∧
      clip x xMin xMax < uintToFloat (floatToUint x xMin xMax bits) xMin xMax bits + quantum xMin xMax bits := by
  have step := quantum_pos ordered some
  have below := Nat.floor_le (quanta_nonneg (x := x) ordered some)
  have above := Nat.lt_floor_add_one ((clip x xMin xMax - xMin) / quantum xMin xMax bits)
  rw [← floatToUint_eq ordered some] at below above
  rw [le_div_iff₀ step] at below
  rw [div_lt_iff₀ step] at above
  rw [uintToFloat_eq]
  exact ⟨by linarith, by linarith⟩

end Quantiser

/-! ## The frame -/

/-- The codes fit their fields. -/
structure MitCodes.Fit (codes : MitCodes) : Prop where
  pos : codes.pos ≤ 0xFFFF
  vel : codes.vel ≤ 0xFFF
  kp : codes.kp ≤ 0xFFF
  kd : codes.kd ≤ 0xFFF
  torq : codes.torq ≤ 0xFFF

/-- The bytes that `encode_mit_command` returns for its codes. -/
def packMit (codes : MitCodes) : Payload :=
  #v[.ofNat ((codes.pos >>> 8) &&& 0xFF),
    .ofNat (codes.pos &&& 0xFF),
    .ofNat ((codes.vel >>> 4) &&& 0xFF),
    .ofNat (((codes.vel &&& 0xF) <<< 4) ||| ((codes.kp >>> 8) &&& 0xF)),
    .ofNat (codes.kp &&& 0xFF),
    .ofNat ((codes.kd >>> 4) &&& 0xFF),
    .ofNat (((codes.kd &&& 0xF) <<< 4) ||| ((codes.torq >>> 8) &&& 0xF)),
    .ofNat (codes.torq &&& 0xFF)]

/-- `kKpMin` and `kKpMax`, `kKdMin` and `kKdMax`. -/
def kpMin : ℚ := 0
def kpMax : ℚ := 500
def kdMin : ℚ := 0
def kdMax : ℚ := 5

/-- The codes of `encode_mit_command`. -/
def mitCodes (pos vel torq kp kd : ℚ) (limits : Limits) : MitCodes where
  pos := floatToUint pos limits.pMin limits.pMax 16
  vel := floatToUint vel limits.vMin limits.vMax 12
  kp := floatToUint kp kpMin kpMax 12
  kd := floatToUint kd kdMin kdMax 12
  torq := floatToUint torq limits.tMin limits.tMax 12

/-- `encode_mit_command`. -/
def encodeMitCommand (pos vel torq kp kd : ℚ) (limits : Limits) : Payload :=
  packMit (mitCodes pos vel torq kp kd limits)

def encodeEnableCommand : Payload := #v[0xFF, 0xFF, 0xFF, 0xFF, 0xFF, 0xFF, 0xFF, 0xFC]

def encodeSetZeroCommand : Payload := #v[0xFF, 0xFF, 0xFF, 0xFF, 0xFF, 0xFF, 0xFF, 0xFE]

def encodeClearErrorCommand : Payload := #v[0xFF, 0xFF, 0xFF, 0xFF, 0xFF, 0xFF, 0xFF, 0xFB]

section Frame

variable {codes codes' : MitCodes}

theorem and_byte (n : ℕ) : n &&& 0xFF = n % 256 := Nat.and_two_pow_sub_one_eq_mod n 8

theorem and_nibble (n : ℕ) : n &&& 0xF = n % 16 := Nat.and_two_pow_sub_one_eq_mod n 4

/-- Two nibbles of a byte. -/
theorem or_nibbles (high low : ℕ) : ((high &&& 0xF) <<< 4 ||| (low &&& 0xF)) = high % 16 * 16 + low % 16 := by
  rw [and_nibble, and_nibble, Nat.shiftLeft_eq, mul_comm]
  exact (Nat.two_pow_add_eq_or_of_lt (i := 4) (Nat.mod_lt _ (by decide)) _).symm

/-- Codes that fit are read back from their frame. -/
theorem unpackMit_packMit (fit : codes.Fit) : unpackMit (packMit codes) = codes := by
  obtain ⟨pos, vel, kp, kd, torq⟩ := codes
  obtain ⟨posFit, velFit, kpFit, kdFit, torqFit⟩ := fit
  simp only at posFit velFit kpFit kdFit torqFit
  simp only [unpackMit, packMit, Vector.getElem_mk, List.getElem_toArray, List.getElem_cons_zero,
    List.getElem_cons_succ, UInt8.toNat_ofNat', or_nibbles, and_byte, Nat.shiftRight_eq_div_pow, MitCodes.mk.injEq]
  refine ⟨?_, ?_, ?_, ?_, ?_⟩ <;> omega

/-- Frames are equal only if all codes are. -/
theorem packMit_inj (fit : codes.Fit) (fit' : codes'.Fit) : packMit codes = packMit codes' ↔ codes = codes' := by
  refine ⟨fun same => ?_, congrArg packMit⟩
  rw [← unpackMit_packMit fit, same, unpackMit_packMit fit']

theorem byte_lt (data : Payload) (n : ℕ) (bound : n < 8) : data[n].toNat < 256 := data[n].toNat_lt

/-- The codes of a frame fit. -/
theorem fit_unpackMit (data : Payload) : (unpackMit data).Fit := by
  have b₀ := byte_lt data 0 (by decide)
  have b₁ := byte_lt data 1 (by decide)
  have b₂ := byte_lt data 2 (by decide)
  have b₃ := byte_lt data 3 (by decide)
  have b₄ := byte_lt data 4 (by decide)
  have b₅ := byte_lt data 5 (by decide)
  have b₆ := byte_lt data 6 (by decide)
  have b₇ := byte_lt data 7 (by decide)
  refine ⟨?_, ?_, ?_, ?_, ?_⟩ <;> simp only [unpackMit] <;> omega

/-- Every frame is that of its codes, so the fields do not overlap and leave no bit out. -/
theorem packMit_unpackMit (data : Payload) : packMit (unpackMit data) = data := by
  refine Vector.ext fun n bound => UInt8.toNat_inj.mp ?_
  have b₀ := byte_lt data 0 (by decide)
  have b₁ := byte_lt data 1 (by decide)
  have b₂ := byte_lt data 2 (by decide)
  have b₃ := byte_lt data 3 (by decide)
  have b₄ := byte_lt data 4 (by decide)
  have b₅ := byte_lt data 5 (by decide)
  have b₆ := byte_lt data 6 (by decide)
  have b₇ := byte_lt data 7 (by decide)
  interval_cases n <;>
    simp only [unpackMit, packMit, Vector.getElem_mk, List.getElem_toArray, List.getElem_cons_zero,
      List.getElem_cons_succ, UInt8.toNat_ofNat', or_nibbles, and_byte, Nat.shiftRight_eq_div_pow] <;>
    omega

theorem fit_mitCodes {pos vel torq kp kd : ℚ} {limits : Limits} (ordered : limits.pMin < limits.pMax)
    (orderedVel : limits.vMin < limits.vMax) (orderedTorq : limits.tMin < limits.tMax) :
    (mitCodes pos vel torq kp kd limits).Fit :=
  ⟨floatToUint_le ordered (by decide), floatToUint_le orderedVel (by decide),
    floatToUint_le (by norm_num [kpMin, kpMax]) (by decide), floatToUint_le (by norm_num [kdMin, kdMax]) (by decide),
    floatToUint_le orderedTorq (by decide)⟩

end Frame

/-- The special frames with the torque codes that they have when read as a command. -/
def specialFrames : List (Payload × ℕ) :=
  [(encodeEnableCommand, 0xFFC), (encodeDisableCommand, 0xFFD), (encodeSetZeroCommand, 0xFFE),
    (encodeClearErrorCommand, 0xFFB)]

theorem unpackMit_special : ∀ special ∈ specialFrames, unpackMit special.1 = ⟨0xFFFF, 0xFFF, 0xFFF, 0xFFF, special.2⟩ := by
  decide

/-- For all commands and limits: the codes of a frame are read back from its bytes, and every frame is that of its
codes; each code is in range, monotone in its value and saturated at the limits; decoding gives a value that is at
most the clipped one and less than a quantum below it, and a decoded code has its code; and a frame is a special one
if and only if all codes but that of the torque are the largest and that of the torque is the special frame's. -/
theorem mit_codec (limits : Limits) (ordered : limits.pMin < limits.pMax) (orderedVel : limits.vMin < limits.vMax)
    (orderedTorq : limits.tMin < limits.tMax) :
    (∀ pos vel torq kp kd, unpackMit (encodeMitCommand pos vel torq kp kd limits) =
      mitCodes pos vel torq kp kd limits) ∧
    (∀ data : Payload, packMit (unpackMit data) = data) ∧
    (∀ (xMin xMax : ℚ) (bits : ℕ), xMin < xMax → 0 < bits →
      (∀ x, floatToUint x xMin xMax bits ≤ 2 ^ bits - 1) ∧
      (∀ x y, x ≤ y → floatToUint x xMin xMax bits ≤ floatToUint y xMin xMax bits) ∧
      (∀ x, x ≤ xMin → floatToUint x xMin xMax bits = 0) ∧
      (∀ x, xMax ≤ x → floatToUint x xMin xMax bits = 2 ^ bits - 1) ∧
      (∀ x, uintToFloat (floatToUint x xMin xMax bits) xMin xMax bits ≤ clip x xMin xMax ∧
        clip x xMin xMax < uintToFloat (floatToUint x xMin xMax bits) xMin xMax bits + quantum xMin xMax bits) ∧
      ∀ code, code ≤ 2 ^ bits - 1 → floatToUint (uintToFloat code xMin xMax bits) xMin xMax bits = code) ∧
    ∀ pos vel torq kp kd, ∀ special ∈ specialFrames, encodeMitCommand pos vel torq kp kd limits = special.1 ↔
      floatToUint pos limits.pMin limits.pMax 16 = 0xFFFF ∧ floatToUint vel limits.vMin limits.vMax 12 = 0xFFF ∧
        floatToUint kp kpMin kpMax 12 = 0xFFF ∧ floatToUint kd kdMin kdMax 12 = 0xFFF ∧
          floatToUint torq limits.tMin limits.tMax 12 = special.2 := by
  refine ⟨fun pos vel torq kp kd => ?_, packMit_unpackMit, fun xMin xMax bits within some => ?_,
    fun pos vel torq kp kd special listed => ?_⟩
  · exact unpackMit_packMit (fit_mitCodes ordered orderedVel orderedTorq)
  · exact ⟨fun x => floatToUint_le within some, fun x y => floatToUint_mono within some,
      fun x => floatToUint_of_le within, fun x => floatToUint_of_ge within, fun x => uintToFloat_floatToUint within some,
      fun code => floatToUint_uintToFloat within some⟩
  · rw [encodeMitCommand, ← packMit_unpackMit special.1,
      packMit_inj (fit_mitCodes ordered orderedVel orderedTorq) (fit_unpackMit _), unpackMit_special special listed,
      mitCodes, MitCodes.mk.injEq]

/-- The limits of the 4340P. -/
def limits4340P : Limits := ⟨-25 / 2, 25 / 2, -10, 10, -28, 28⟩

/-- A command of the 4340P, with a position that is out of range for the quantisation, and the special frames. -/
theorem mit_codec_4340P :
    unpackMit (encodeMitCommand 1 2 3 100 1 limits4340P) = mitCodes 1 2 3 100 1 limits4340P ∧
    packMit (unpackMit (encodeMitCommand 1 2 3 100 1 limits4340P)) = encodeMitCommand 1 2 3 100 1 limits4340P ∧
    floatToUint 20 (-25 / 2) (25 / 2) 16 = 2 ^ 16 - 1 ∧
    uintToFloat (floatToUint 1 (-25 / 2) (25 / 2) 16) (-25 / 2) (25 / 2) 16 ≤ clip 1 (-25 / 2) (25 / 2) ∧
    floatToUint (uintToFloat 1000 (-25 / 2) (25 / 2) 16) (-25 / 2) (25 / 2) 16 = 1000 ∧
    ∀ special ∈ specialFrames, encodeMitCommand 1 2 3 100 1 limits4340P = special.1 ↔
      floatToUint 1 limits4340P.pMin limits4340P.pMax 16 = 0xFFFF ∧
      floatToUint 2 limits4340P.vMin limits4340P.vMax 12 = 0xFFF ∧ floatToUint 100 kpMin kpMax 12 = 0xFFF ∧
        floatToUint 1 kdMin kdMax 12 = 0xFFF ∧ floatToUint 3 limits4340P.tMin limits4340P.tMax 12 = special.2 := by
  obtain ⟨codes, packed, quantised, special⟩ := mit_codec limits4340P (by norm_num [limits4340P])
    (by norm_num [limits4340P]) (by norm_num [limits4340P])
  obtain ⟨-, -, -, above, near, decoded⟩ := quantised (-25 / 2) (25 / 2) 16 (by norm_num) (by norm_num)
  exact ⟨codes 1 2 3 100 1, packed _, above 20 (by norm_num), (near 1).1, decoded 1000 (by norm_num),
    special 1 2 3 100 1⟩

end MotorDrive.Damiao
