import Tabletop.Roll

/-!
# Limits

The outer surfaces cap the dice of a pool and the number of rolls; the library
itself does not.  The dice are checked first, then that there is a roll at all,
then the number of rolls.
-/

namespace Tabletop

/-- The caps of an outer surface. -/
structure Limits where
  /-- The largest number of dice in a pool. -/
  dice : Int
  /-- The largest number of rolls. -/
  times : Int

namespace Limits

/-- Whether a pool has no more dice than are allowed. -/
def checkDice (limits : Limits) (pool : Pool) : Except Fault Unit :=
  if (pool.count : Int) > limits.dice then
    .error (Fault.raised (.tooManyDice pool.count limits.dice))
  else .ok ()

/-- Whether a number of rolls is allowed. -/
def checkTimes (limits : Limits) (times : Int) : Except Fault Unit :=
  if times < 1 then .error (Fault.raised (.tooFewRolls times))
  else if times > limits.times then
    .error (Fault.raised (.tooManyRolls times limits.times))
  else .ok ()

/-- Whether a pool may be rolled so many times. -/
def check (limits : Limits) (pool : Pool) (times : Int) : Except Fault Unit := do
  limits.checkDice pool
  limits.checkTimes times

end Limits

namespace Play

/-- Read an order and check it against limits. -/
def checkLimits
    (limits : Limits)
    (order : Order)
    (times : Int) : Play σ Unit := do
  let pool ← resolve order
  ofExcept (limits.check pool times)

end Play
end Tabletop
