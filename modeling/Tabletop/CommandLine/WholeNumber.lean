import Tabletop.Numeral
import Tabletop.Text.Blank
import Tabletop.Text.DecimalDigit

/-!
# Whole numbers on the command line

A whole number may have blanks around it and a sign before it.  Its digits may be
those of any script, single low lines may stand between them, and there are at most
as many as a numeral can have.
-/

namespace Tabletop
namespace CommandLine

/-- The digits of a number whose last digit so far is given: each further digit
may follow a single low line. -/
def laterDigits? : List Char → Option (List Nat)
  | [] => some []
  | ['_'] => none
  | '_' :: character :: rest => do
      return (← Text.decimalValue? character) :: (← laterDigits? rest)
  | character :: rest => do
      return (← Text.decimalValue? character) :: (← laterDigits? rest)

/-- The digits of a number text without its sign; there is at least one. -/
def digitValues? : List Char → Option (List Nat)
  | [] => none
  | character :: rest => do
      return (← Text.decimalValue? character) :: (← laterDigits? rest)

/-- The number denoted by its digits, most significant first. -/
def numberOfDigits (digits : List Nat) : Nat :=
  digits.foldl (fun number digit => number * 10 + digit) 0

/-- The magnitude that a number text without its sign denotes. -/
def magnitude? (characters : List Char) : Option Nat :=
  match digitValues? characters with
  | none => none
  | some digits =>
      if digits.length ≤ Numeral.digitLimit then some (numberOfDigits digits)
      else none

/-- The whole number that an argument denotes. -/
def wholeNumber? (argument : String) : Option Int :=
  match Text.dropBoth Text.isFieldBlank argument.toList with
  | '+' :: rest => (magnitude? rest).map Int.ofNat
  | '-' :: rest => (magnitude? rest).map fun magnitude => -(magnitude : Int)
  | characters => (magnitude? characters).map Int.ofNat

end CommandLine
end Tabletop
