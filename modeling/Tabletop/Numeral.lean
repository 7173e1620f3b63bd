/-!
# Decimal numerals

Numbers are written in decimal without leading zeros, and read from a list of
digits.  A numeral of more than 4300 digits is neither read nor written: reading
gives no value, and writing gives no text.
-/

namespace Tabletop
namespace Numeral

/-- The largest number of digits that is read or written. -/
def digitLimit : Nat := 4300

/-- The digits of a natural number, most significant first. -/
def digits (value : Nat) : List Char :=
  Nat.toDigits 10 value

/-- The number that a list of digits denotes. -/
def value (digits : List Char) : Nat :=
  Nat.ofDigitChars 10 digits 0

/-- Reading the digits of a number gives the number back. -/
@[simp] theorem value_digits (number : Nat) :
    value (digits number) = number := by
  exact Nat.ofDigitChars_toDigits (by decide) (by decide)

/-- The text of an integer, whatever its length. -/
def text (number : Int) : String :=
  match number with
  | .ofNat magnitude => String.ofList (digits magnitude)
  | .negSucc magnitude => String.ofList ('-' :: digits (magnitude + 1))

/-- An integer has a text within the digit limit. -/
def Writable (number : Int) : Prop :=
  number.natAbs < Nat.pow 10 digitLimit

instance (number : Int) : Decidable (Writable number) :=
  inferInstanceAs (Decidable (number.natAbs < Nat.pow 10 digitLimit))

/-- A natural number is writable exactly when it has at most the limit of
digits. -/
theorem writable_natCast_iff (number : Nat) :
    Writable number ↔ (digits number).length ≤ digitLimit := by
  have positive : 0 < digitLimit := by decide
  unfold Writable digits
  rw [Nat.pow_eq, Int.natAbs_natCast]
  exact (Nat.length_toDigits_le_iff (by decide) positive).symm

/-- The number denoted by a numeral within the digit limit. -/
def read? (digits : List Char) : Option Nat :=
  if digits.length ≤ digitLimit then some (value digits) else none

/-- The text of an integer within the digit limit. -/
def text? (number : Int) : Option String :=
  if Writable number then some (text number) else none

end Numeral
end Tabletop
