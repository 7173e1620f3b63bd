import Tabletop.Numeral

/-!
# Decimal numbers

A decimal number is written as digits and a power of ten.  Its text is positional
while the point stands near the digits, and has an exponent otherwise.
-/

namespace Tabletop

/-- A decimal number: a sign, significant digits and a power of ten. -/
structure Decimal where
  /-- Whether a minus sign is written. -/
  negative : Bool
  /-- The digits without leading zeros, most significant first; none for zero. -/
  digits : List Char
  /-- The power of ten by which the digits are multiplied. -/
  exponent : Int

namespace Decimal

/-- The number of digits before the point; negative if zeros follow the point. -/
def point (number : Decimal) : Int :=
  number.digits.length + number.exponent

/-- The text with a point among the digits, or beside them with zeros between. -/
def positional (number : Decimal) : List Char :=
  let point := number.point
  if point ≤ 0 then
    '0' :: '.' :: (List.replicate point.natAbs '0' ++ number.digits)
  else if number.exponent < 0 then
    number.digits.take point.natAbs ++ '.' :: number.digits.drop point.natAbs
  else
    number.digits ++ List.replicate number.exponent.natAbs '0' ++ ['.', '0']

/-- The text with the point after the first digit and a power of ten, which has a
sign and at least two digits. -/
def exponential (number : Decimal) : List Char :=
  let power := number.point - 1
  let digits := Numeral.digits power.natAbs
  number.digits.take 1 ++
    (match number.digits.drop 1 with
      | [] => []
      | rest => '.' :: rest) ++
    'e' :: (if power < 0 then '-' else '+') ::
      (List.replicate (2 - digits.length) '0' ++ digits)

/-- The text of a decimal number: with an exponent if the point would stand more
than sixteen digits behind the first or more than three zeros before it. -/
def text (number : Decimal) : String :=
  let magnitude :=
    if number.digits = [] then ['0', '.', '0']
    else if -4 < number.point ∧ number.point ≤ 16 then number.positional
    else number.exponential
  String.ofList (if number.negative then '-' :: magnitude else magnitude)

end Decimal
end Tabletop
