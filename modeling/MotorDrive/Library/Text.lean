import MotorDrive.Library.Numerals

/-!
# Texts of the C++ library

Strings as lists of characters, one for each byte: the classes of `cctype`, `std::getline` up to the end of a stream,
and `std::stoul` and `std::stoi` with 64-bit `long` and base ten, which read a numeral at the front of a text.  A
complete numeral that fits is read as its value.
-/

namespace Text

abbrev Bytes := List Char

/-- A C++ exception: `std::invalid_argument`, or another `std::exception`, with what it says. -/
inductive Exception
  | invalidArgument (what : Bytes)
  | other (what : Bytes)

/-- `std::isspace`. -/
def isSpace (c : Char) : Bool :=
  c.toNat = 32 || 9 ≤ c.toNat && c.toNat ≤ 13

/-- A text without the spaces at its ends. -/
def trim (text : Bytes) : Bytes := (text.dropWhile isSpace).rdropWhile isSpace

/-- The texts that `std::getline` reads from a stream: nothing follows a delimiter at its end. -/
def getlines (delimiter : Char) (text : Bytes) : List Bytes :=
  let parts := text.splitOn delimiter
  if parts.getLast? = some [] then parts.dropLast else parts

/-! ## Numerals -/

/-- The value of decimal digits. -/
def decimal (digits : Bytes) : ℕ := digits.foldl (fun value c => 10 * value + (c.toNat - 48)) 0

/-- An optional sign, and what follows it. -/
def splitSign : Bytes → Bool × Bytes
  | '-' :: rest => (true, rest)
  | '+' :: rest => (false, rest)
  | text => (false, text)

/-- `std::stoul`: spaces, a sign and digits, whatever follows them; a negative value is taken modulo `2 ^ 64`. -/
def stoul (text : Bytes) : Except Exception ℕ :=
  let (negative, rest) := splitSign (text.dropWhile isSpace)
  let digits := rest.takeWhile Char.isDigit
  if digits = [] then .error (.invalidArgument "stoul".toList)
  else if 2 ^ 64 ≤ decimal digits then .error (.other "stoul".toList)
  else .ok (if negative then (2 ^ 64 - decimal digits) % 2 ^ 64 else decimal digits)

/-- `std::stoi`: as `std::stoul`, in the range of an `int`. -/
def stoi (text : Bytes) : Except Exception ℤ :=
  let (negative, rest) := splitSign (text.dropWhile isSpace)
  let digits := rest.takeWhile Char.isDigit
  let value : ℤ := if negative then -(decimal digits : ℤ) else decimal digits
  if digits = [] then .error (.invalidArgument "stoi".toList)
  else if value < -2 ^ 31 ∨ 2 ^ 31 ≤ value then .error (.other "stoi".toList)
  else .ok value

/-- The value of a text that is a decimal numeral as a whole. -/
def natural (text : Bytes) : Option ℕ :=
  if text ≠ [] ∧ text.all Char.isDigit then some (decimal text) else none

/-- The value of a text that is a decimal numeral as a whole, with a sign or without. -/
def integer (text : Bytes) : Option ℤ :=
  (natural (splitSign text).2).map fun (value : ℕ) => if (splitSign text).1 then -(value : ℤ) else value

section Reading

variable {text : Bytes} {n : ℕ} {z : ℤ}

theorem natural_eq_some : natural text = some n ↔ text ≠ [] ∧ (∀ c ∈ text, c.isDigit) ∧ decimal text = n := by
  unfold natural
  rw [Option.ite_none_right_eq_some, Option.some.injEq, List.all_eq_true, and_assoc]

theorem isSpace_of_isDigit {c : Char} (digit : c.isDigit) : isSpace c = false := by
  obtain ⟨above, below⟩ : 48 ≤ c.toNat ∧ c.toNat ≤ 57 := by
    simpa [Char.isDigit, UInt32.le_iff_toNat_le] using digit
  simp only [isSpace, Bool.or_eq_false_iff, decide_eq_false_iff_not, Bool.and_eq_false_iff]
  omega

/-- A text whose first character is no space keeps it. -/
theorem dropWhile_isSpace {c : Char} {rest : Bytes} (first : isSpace c = false) :
    (c :: rest).dropWhile isSpace = c :: rest := by
  rw [List.dropWhile_cons, first]
  rfl

theorem splitSign_of_isDigit {c : Char} {rest : Bytes} (digit : c.isDigit) :
    splitSign (c :: rest) = (false, c :: rest) := by
  unfold splitSign
  split
  · next equal =>
    rw [(List.cons.inj equal).1] at digit
    exact absurd digit (by decide)
  · next equal =>
    rw [(List.cons.inj equal).1] at digit
    exact absurd digit (by decide)
  · rfl

/-- A text with digits after its sign does not begin with a space. -/
theorem dropWhile_splitSign (digits : ∀ c ∈ (splitSign text).2, c.isDigit) : text.dropWhile isSpace = text := by
  cases text with
  | nil => rfl
  | cons c rest =>
    apply dropWhile_isSpace
    unfold splitSign at digits
    split at digits
    · next equal =>
      rw [(List.cons.inj equal).1]
      decide
    · next equal =>
      rw [(List.cons.inj equal).1]
      decide
    · exact isSpace_of_isDigit (digits c List.mem_cons_self)

/-- A numeral is read as its value. -/
theorem stoul_of_natural (numeral : natural text = some n) (fits : n < 2 ^ 64) : stoul text = .ok n := by
  obtain ⟨nonempty, digits, rfl⟩ := natural_eq_some.mp numeral
  obtain ⟨c, rest, rfl⟩ := List.exists_cons_of_ne_nil nonempty
  have first := digits c List.mem_cons_self
  have all : (c :: rest).takeWhile Char.isDigit = c :: rest := List.takeWhile_eq_self_iff.mpr digits
  unfold stoul
  rw [dropWhile_isSpace (isSpace_of_isDigit first), splitSign_of_isDigit first]
  simp only [all]
  rw [if_neg nonempty, if_neg (not_le.mpr fits)]
  rfl

/-- A numeral with a sign or without is read as its value. -/
theorem stoi_of_integer (numeral : integer text = some z) (above : -2 ^ 31 ≤ z) (below : z < 2 ^ 31) :
    stoi text = .ok z := by
  obtain ⟨n, magnitude, rfl⟩ := Option.map_eq_some_iff.mp numeral
  obtain ⟨nonempty, digits, rfl⟩ := natural_eq_some.mp magnitude
  have all : (splitSign text).2.takeWhile Char.isDigit = (splitSign text).2 := List.takeWhile_eq_self_iff.mpr digits
  unfold stoi
  rw [dropWhile_splitSign digits]
  simp only [all]
  rw [if_neg nonempty]
  exact if_neg (not_or.mpr ⟨Int.not_lt.mpr above, Int.not_le.mpr below⟩)

end Reading

end Text
