import Tabletop.Datum

/-!
# Supplied values

The place of a value can be there with nothing in it.  Such a blank is shown as an
empty sequence, and it is a fault to use it as a number.
-/

namespace Tabletop

/-- A value whose place may have been left blank. -/
inductive Supplied (α : Type)
  | value (given : α)
  /-- There is a place for the value, but nothing in it. -/
  | blank
  deriving DecidableEq

namespace Supplied

/-- What is supplied, as a value of unknown shape. -/
def datum (describe : α → Datum) : Supplied α → Datum
  | .value given => describe given
  | .blank => .sequence []

/-- What is supplied, as it stands in a message. -/
def shown (write : α → Except Fault String) : Supplied α → Except Fault String
  | .value given => write given
  | .blank => Datum.shown (.sequence [])

/-- The number that is supplied. -/
def number : Supplied Int → Except Fault Int
  | .value given => .ok given
  | .blank => .error .blankNumber

end Supplied
end Tabletop
