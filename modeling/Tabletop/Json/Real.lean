import Tabletop.Binary.Shortest
import Tabletop.Json.Reader

/-!
# Numbers with a fraction or an exponent

Such a number stands for the nearest number of the binary format, and is shown by
the shortest decimal number that stands for the same.
-/

namespace Tabletop

namespace Decimal

/-- The integer denoted by an optional sign and digits. -/
def signed : List Char → Int
  | '-' :: digits => -(Numeral.value digits : Int)
  | '+' :: digits => Numeral.value digits
  | digits => Numeral.value digits

/-- The decimal number that a literal without a sign denotes. -/
def ofMagnitude (negative : Bool) (characters : List Char) : Decimal :=
  let whole := Json.splitDigits characters
  let fraction := Json.splitFraction whole.2
  let places := fraction.1.drop 1
  { negative
    digits := (whole.1 ++ places).dropWhile (· == '0')
    exponent := signed (fraction.2.drop 1) - places.length }

/-- The decimal number that a literal denotes; the words for infinities and for
no number denote none. -/
def ofLiteral? (literal : String) : Option Decimal :=
  match literal.toList with
  | '-' :: rest =>
      if (rest.headD 'I').isDigit then some (ofMagnitude true rest) else none
  | characters =>
      if (characters.headD 'I').isDigit then some (ofMagnitude false characters)
      else none

end Decimal

/-- The finite number that a literal stands for. -/
def Json.finite? (literal : String) : Option Binary :=
  (Decimal.ofLiteral? literal).bind Binary.nearest?

/-- How a number is shown: infinities and no number by a word in small letters. -/
def Json.shownReal (literal : String) : String :=
  match Json.finite? literal with
  | some number => number.text
  | none =>
      if literal = "NaN" then "nan"
      else if literal.toList.head? = some '-' then "-inf"
      else "inf"

end Tabletop
