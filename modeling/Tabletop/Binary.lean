import Tabletop.Decimal

/-!
# Binary numbers

The numbers of the binary format have 53 significant bits and exponents from -1074
to 971.  A fraction stands for the nearest of them, a tie going to the even
significand.  All arithmetic is exact.
-/

namespace Tabletop

/-- A finite number of the binary format. -/
structure Binary where
  /-- Whether the number is negative. -/
  negative : Bool
  /-- The significand. -/
  significand : Nat
  /-- The power of two by which the significand is multiplied. -/
  exponent : Int

namespace Binary

/-- The least significand that has 53 bits. -/
def leastFull : Nat :=
  4503599627370496

/-- The least exponent of the format. -/
def leastExponent : Int :=
  -1074

/-- The greatest exponent of the format. -/
def greatestExponent : Int :=
  971

/-- A quotient rounded to the nearest integer, a tie going to the even one. -/
def roundedQuotient (numerator denominator : Nat) : Nat :=
  let quotient := numerator / denominator
  let remainder := numerator % denominator
  if 2 * remainder < denominator then quotient
  else if denominator < 2 * remainder then quotient + 1
  else quotient + quotient % 2

/-- A positive fraction divided by a power of two, as a fraction. -/
def scaled (numerator denominator : Nat) (exponent : Int) : Nat × Nat :=
  if exponent < 0 then (numerator * Nat.pow 2 exponent.natAbs, denominator)
  else (numerator, denominator * Nat.pow 2 exponent.natAbs)

/-- The number of the format with a significand of at most 53 bits, or one more
than that; nothing beyond the largest finite number. -/
def normal? (negative : Bool) (significand : Nat) (exponent : Int) : Option Binary :=
  let carried := significand = 2 * leastFull
  let exponent := if carried then exponent + 1 else exponent
  if greatestExponent < exponent then none
  else some {
    negative
    significand := if carried then leastFull else significand
    exponent }

/-- The nearest number of the format to a positive fraction or zero; nothing beyond
the largest finite number. -/
def nearestFraction?
    (negative : Bool)
    (numerator denominator : Nat) : Option Binary :=
  let magnitude : Int := (numerator.log2 : Int) - denominator.log2
  let lower := max (magnitude - 53) leastExponent
  let finer := scaled numerator denominator lower
  let exponent := if 2 * leastFull ≤ finer.1 / finer.2 then lower + 1 else lower
  let fraction := scaled numerator denominator exponent
  normal? negative (roundedQuotient fraction.1 fraction.2) exponent

/-- The nearest number of the format to a decimal number; nothing beyond the
largest finite number.  Powers of ten far outside the format are not computed. -/
def nearest? (number : Decimal) : Option Binary :=
  if number.digits = [] ∨ number.point < -330 then
    some { negative := number.negative, significand := 0, exponent := 0 }
  else if number.point > 310 then none
  else if number.exponent < 0 then
    nearestFraction? number.negative (Numeral.value number.digits)
      (Nat.pow 10 number.exponent.natAbs)
  else
    nearestFraction? number.negative
      (Numeral.value number.digits * Nat.pow 10 number.exponent.natAbs) 1

/-- The integer that a number of the format equals, if it is whole. -/
def toInt? (number : Binary) : Option Int :=
  let sign : Int := if number.negative then -1 else 1
  if 0 ≤ number.exponent then
    some (sign * (number.significand * Nat.pow 2 number.exponent.natAbs : Nat))
  else
    let unit := Nat.pow 2 number.exponent.natAbs
    if number.significand % unit = 0 then
      some (sign * (number.significand / unit : Nat))
    else none

/-- The integer of the format that is nearest to an integer; an integer beyond the
largest finite number stays as it is. -/
def roundedInt (value : Int) : Int :=
  ((nearestFraction? (value < 0) value.natAbs 1).bind toInt?).getD value

end Binary
end Tabletop
