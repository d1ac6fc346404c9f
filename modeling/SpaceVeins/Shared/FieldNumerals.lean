import Mathlib.Data.Nat.Cast.Defs

/-!
# Numerals of a field

A numeral of a field stands for the natural number that it shows, and Lean wants
to know that this number is at least two. The numerals that more than one module
writes have this fact under a name, so that they are the same term everywhere.
-/

namespace FieldNumerals

instance atLeastTwo_2 : Nat.AtLeastTwo 2 := ⟨by decide⟩

instance atLeastTwo_10 : Nat.AtLeastTwo 10 := ⟨by decide⟩

instance atLeastTwo_60 : Nat.AtLeastTwo 60 := ⟨by decide⟩

instance atLeastTwo_180 : Nat.AtLeastTwo 180 := ⟨by decide⟩

instance atLeastTwo_1000 : Nat.AtLeastTwo 1000 := ⟨by decide⟩

instance atLeastTwo_86400 : Nat.AtLeastTwo 86400 := ⟨by decide⟩

end FieldNumerals
