import Tabletop.Roll.Outcome
import Tabletop.Roll.Select
import Tabletop.Table

/-!
# Rolling

An order names the pool to roll, by a notation or directly.  Rolling asks the
source for one number per die, splits the values by the selection of the pool, and
writes the outcome down.  Rolling an order many times reads it once.
-/

namespace Tabletop

/-- What a caller asks to roll. -/
inductive Order
  /-- A text that should be a notation. -/
  | written (text : String)
  /-- A pool. -/
  | pool (pool : Pool)
  deriving DecidableEq

namespace Play

/-- The record of a text that is no notation. -/
def rejection (text : String) : Log.Record :=
  .debug ("PARSE_ERR | notation=" ++ Text.quoted text)

/-- The pool that a text stands for; a text that is no notation is written down. -/
def parse (text : String) : Play σ Pool := do
  unless Notation.isValid text do note (rejection text)
  ofExcept (Notation.parse text)

/-- The pool that an order names. -/
def resolve : Order → Play σ Pool
  | .written text => parse text
  | .pool pool => pure pool

/-- The text that an order is recorded under: the text itself, or the canonical
notation of a pool. -/
def sourceText : Order → Except Fault String
  | .written text => .ok text
  | .pool pool => pool.short

/-- The bounds of a die with the given number of sides. -/
def dieBounds (sides : Nat) : Bounds :=
  { low := 1, high := sides }

/-- Roll the dice of a pool in order, after those rolled already, latest first. -/
def rollDice
    [RandomSource σ]
    (sides : Nat) :
    Nat → List Int → Play σ (List Int)
  | 0, rolled => pure rolled.reverse
  | count + 1, rolled => do
      let value ← draw (dieBounds sides)
      rollDice sides count (value :: rolled)

/-- The outcome of a pool whose dice show the given values. -/
def settle
    (pool : Pool)
    (source : String)
    (rolls : List Int) : Except Fault Outcome := do
  let (kept, dropped) ← Roll.keep pool.selection rolls
  return { total := Roll.total kept, pool, kept, dropped, source }

/-- Roll a pool once and write the outcome down. -/
def rollPool
    [RandomSource σ]
    (pool : Pool)
    (source : String) : Play σ Outcome := do
  let rolls ← rollDice pool.sides pool.count []
  let outcome ← ofExcept (settle pool source rolls)
  note (← ofExcept outcome.record)
  return outcome

/-- Roll an order once. -/
def roll [RandomSource σ] (order : Order) : Play σ Outcome := do
  let pool ← resolve order
  let source ← ofExcept (sourceText order)
  rollPool pool source

/-- Roll a pool a number of times, after the outcomes so far, latest first. -/
def rollTimes
    [RandomSource σ]
    (pool : Pool)
    (source : String) :
    Nat → List Outcome → Play σ (List Outcome)
  | 0, outcomes => pure outcomes.reverse
  | times + 1, outcomes => do
      let outcome ← rollPool pool source
      rollTimes pool source times (outcome :: outcomes)

/-- Roll an order a number of times, which must be positive; that is checked
before the order is looked at. -/
def rollMany
    [RandomSource σ]
    (order : Order)
    (times : Int) : Play σ (List Outcome) := do
  if times < 1 then throw (Fault.raised (.tooFewRolls times))
  let pool ← resolve order
  let source ← ofExcept (sourceText order)
  rollTimes pool source times.toNat []

/-- The sentence that describes an order. -/
def describe (order : Order) : Play σ String := do
  ofExcept (← resolve order).describe

/-- The canonical notation of an order. -/
def describeShort (order : Order) : Play σ String := do
  ofExcept (← resolve order).short

end Play
end Tabletop
