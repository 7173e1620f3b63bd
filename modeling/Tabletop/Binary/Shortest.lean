import Tabletop.Binary

/-!
# Shortest decimal numbers

The decimal numbers that are nearer to a number of the binary format than to any
other one form an interval, whose ends belong to it if the significand is even.  A
number is written by the multiple of a power of ten in its interval for which that
power is greatest; of two such multiples by the nearer one, and of two equally near
ones by the even one.
-/

namespace Tabletop
namespace Binary

/-- A grid of decimal numbers laid over a number of the binary format.  A multiple
compares with the number as the multiple times the step compares with four times
the significand times the unit. -/
structure Grid where
  /-- The power of ten whose multiples lie on the grid. -/
  power : Int
  /-- The distance between multiples. -/
  step : Nat
  /-- A quarter of the distance between numbers of the format. -/
  unit : Nat

/-- The grid of the multiples of a power of ten. -/
def grid (number : Binary) (power : Int) : Grid :=
  { power
    step := Nat.pow 10 power.toNat * Nat.pow 2 (2 - number.exponent).toNat
    unit := Nat.pow 10 (-power).toNat * Nat.pow 2 (number.exponent - 2).toNat }

/-- Four times the significand less the distance to the lower end of the interval:
a quarter where the numbers below lie closer together, and half elsewhere. -/
def lowerEnd (number : Binary) : Nat :=
  if number.significand = leastFull ∧ leastExponent < number.exponent then
    4 * number.significand - 1
  else 4 * number.significand - 2

/-- Four times the significand and the distance to the upper end of the interval. -/
def upperEnd (number : Binary) : Nat :=
  4 * number.significand + 2

/-- Whether a multiple on a grid lies in the interval of a positive number. -/
def holds (number : Binary) (grid : Grid) (multiple : Nat) : Bool :=
  let place := multiple * grid.step
  let lower := number.lowerEnd * grid.unit
  let upper := number.upperEnd * grid.unit
  if number.significand % 2 = 0 then decide (lower ≤ place) && decide (place ≤ upper)
  else decide (lower < place) && decide (place < upper)

/-- The nearest multiple on a grid that lies in the interval of a positive
number. -/
def multipleOn? (number : Binary) (grid : Grid) : Option Nat :=
  let place := 4 * number.significand * grid.unit
  let below := place / grid.step
  let above := below + 1
  let middle := (below + above) * grid.step
  if below ≠ 0 ∧ number.holds grid below then
    if number.holds grid above then
      if 2 * place < middle then some below
      else if middle < 2 * place then some above
      else some (below + below % 2)
    else some below
  else if number.holds grid above then some above
  else none

/-- A power of ten above the magnitude of a number, but not far above unless the
number is small. -/
def powerAbove (number : Binary) : Nat :=
  (Numeral.digits
    (number.significand * Nat.pow 2 number.exponent.toNat /
      Nat.pow 2 (-number.exponent).toNat)).length

/-- How many grids are tried; the numbers of the format need fewer. -/
def gridCount : Nat :=
  350

/-- The value of a number in full. -/
def exactDecimal (number : Binary) : Decimal :=
  { negative := number.negative
    digits := Numeral.digits (number.significand * Nat.pow 2 number.exponent.toNat *
      Nat.pow 5 (-number.exponent).toNat)
    exponent := min number.exponent 0 }

/-- The shortest decimal number that stands for a number of the format. -/
def shortest (number : Binary) : Decimal :=
  if number.significand = 0 then
    { negative := number.negative, digits := [], exponent := 0 }
  else
    let found := (List.range gridCount).findSome? fun (steps : Nat) =>
      let grid := number.grid ((number.powerAbove : Int) - steps)
      (number.multipleOn? grid).map fun multiple =>
        { negative := number.negative
          digits := Numeral.digits multiple
          exponent := grid.power : Decimal }
    found.getD number.exactDecimal

/-- The text of a number of the format. -/
def text (number : Binary) : String :=
  number.shortest.text

end Binary
end Tabletop
