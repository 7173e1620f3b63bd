import Tabletop.Datum

/-!
# Pools from offered values

A pool can be put together from values of unknown shape, some of them left out.
Every required field must be there before any value is looked at, and then the
fields are checked in a fixed order; the first that fails names the fault.  The
selection is put together before the pool.
-/

namespace Tabletop

/-- The values offered for a selection; a field that is left out has none. -/
structure SelectionOffer where
  /-- The value for the mode, which is required. -/
  mode : Option Datum
  /-- The value for the end, which is required. -/
  edge : Option Datum
  /-- The value for the number of dice, one if left out. -/
  count : Option Datum

/-- What is offered as the selection of a pool. -/
inductive SelectionPart
  /-- No selection. -/
  | none
  /-- A value that is no selection. -/
  | other (value : Datum)
  /-- Values from which a selection is to be put together. -/
  | fields (offer : SelectionOffer)

/-- The values offered for a pool; a field that is left out has none. -/
structure PoolOffer where
  /-- The value for the number of dice, one if left out. -/
  count : Option Datum
  /-- The value for the sides, which is required. -/
  sides : Option Datum
  /-- What is offered as the selection. -/
  selection : SelectionPart

/-- A value that must not be left out. -/
def Field.required (field : Field) : Option Datum → Except Fault Datum
  | some value => .ok value
  | none => .error (.missingField field)

/-- A number of dice from an offered value, one if it is left out. -/
def Field.countOrOne (field : Field) : Option Datum → Except Fault Int
  | some value => value.asInteger field
  | none => .ok 1

/-- The selection that the offered values make: mode, end and number are checked
in this order. -/
def SelectionOffer.build (offer : SelectionOffer) : Except Fault Selection := do
  let mode ← Field.selectionMode.required offer.mode
  let edge ← Field.selectionEdge.required offer.edge
  let mode ← mode.asMode
  let edge ← edge.asEdge
  let count ← Field.selectionCount.countOrOne offer.count
  Selection.build mode edge count

/-- A selection that is left out, put together, or a value that cannot be one. -/
inductive SelectionPart.Built
  /-- The selection, if there is one. -/
  | selection (value : Option Selection)
  /-- A value that is no selection. -/
  | other (value : Datum)

/-- The selection part once its own values are put together. -/
def SelectionPart.build : SelectionPart → Except Fault SelectionPart.Built
  | none => .ok (.selection Option.none)
  | other .nothing => .ok (.selection Option.none)
  | other value => .ok (.other value)
  | fields offer => do return .selection (some (← offer.build))

/-- The selection of a pool, refused if it is some other value. -/
def SelectionPart.Built.check :
    SelectionPart.Built → Except Fault (Option Selection)
  | selection value => .ok value
  | other value => do throw (.wrongKind .selection (← value.shown))

/-- The pool that the offered values make: its selection is put together first,
then the number of dice, the sides and the selection are checked. -/
def PoolOffer.build (offer : PoolOffer) : Except Fault Pool := do
  let selection ← offer.selection.build
  let sides ← Field.diceSides.required offer.sides
  let count ← Field.diceCount.countOrOne offer.count
  let count ← Field.diceCount.atLeast 1 count
  let sides ← sides.asInteger .diceSides
  let sides ← Field.diceSides.atLeast 2 sides
  return .ofChecked count sides (← selection.check)

end Tabletop
