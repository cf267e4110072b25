import Mathlib

/-!
# Numerals

A numeral of a field is read through the fact that it is at least two.  The numerals that programs use have that
fact under a name, so that a definition refers to it instead of carrying a proof.
-/

namespace Numerals

instance two : Nat.AtLeastTwo 2 := ⟨le_rfl⟩

instance three : Nat.AtLeastTwo 3 := ⟨by decide⟩

instance four : Nat.AtLeastTwo 4 := ⟨by decide⟩

instance five : Nat.AtLeastTwo 5 := ⟨by decide⟩

instance six : Nat.AtLeastTwo 6 := ⟨by decide⟩

instance ten : Nat.AtLeastTwo 10 := ⟨by decide⟩

instance fifteen : Nat.AtLeastTwo 15 := ⟨by decide⟩

instance twenty : Nat.AtLeastTwo 20 := ⟨by decide⟩

instance sixty : Nat.AtLeastTwo 60 := ⟨by decide⟩

instance hundred : Nat.AtLeastTwo 100 := ⟨by decide⟩

instance hundredEighty : Nat.AtLeastTwo 180 := ⟨by decide⟩

instance thousand : Nat.AtLeastTwo 1000 := ⟨by decide⟩

end Numerals
