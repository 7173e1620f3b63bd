import Tabletop.AtLeast
import Tabletop.Fault

/-!
# Dice pools

A pool is a number of equal dice, perhaps with a selection that keeps or drops
the dice at one end of their sorted values.  Pools and selections carry the
bounds of their numbers, so that every value of these types can be rolled.
-/

namespace Tabletop

/-- Whether the selected dice are dropped or kept. -/
inductive Mode
  | drop
  | keep
  deriving DecidableEq

/-- The word for a mode. -/
def Mode.word : Mode → String
  | .drop => "drop"
  | .keep => "keep"

/-- The end of the sorted values that a selection takes from. -/
inductive Edge
  | lowest
  | highest
  deriving DecidableEq

/-- The word for an end. -/
def Edge.word : Edge → String
  | .lowest => "lowest"
  | .highest => "highest"

/-- A selection of dice by their sorted values. -/
@[ext] structure Selection where
  /-- What happens to the selected dice. -/
  mode : Mode
  /-- The end they are taken from. -/
  edge : Edge
  /-- How many are selected. -/
  count : Nat
  /-- At least one die is selected. -/
  count_pos : 1 ≤ count
  deriving DecidableEq

/-- A number of equal dice with an optional selection. -/
@[ext] structure Pool where
  /-- The number of dice. -/
  count : Nat
  /-- The number of sides of each die. -/
  sides : Nat
  /-- The selection among the rolled dice. -/
  selection : Option Selection
  /-- There is at least one die. -/
  count_pos : 1 ≤ count
  /-- A die has at least two sides. -/
  two_le_sides : 2 ≤ sides
  deriving DecidableEq

/-- A number checked against the minimum of its field. -/
def Field.atLeast
    (field : Field)
    (minimum : Nat)
    (value : Int) : Except Fault (AtLeast minimum) :=
  match AtLeast.ofInt? minimum value with
  | some number => .ok number
  | none => .error (Fault.raised (.tooSmall field minimum value))

/-- A selection of a checked number of dice. -/
def Selection.ofChecked
    (mode : Mode)
    (edge : Edge)
    (count : AtLeast 1) : Selection :=
  { mode, edge, count := count.1, count_pos := count.2 }

/-- A pool of checked numbers. -/
def Pool.ofChecked
    (count : AtLeast 1)
    (sides : AtLeast 2)
    (selection : Option Selection) : Pool :=
  { count := count.1
    sides := sides.1
    selection
    count_pos := count.2
    two_le_sides := sides.2 }

/-- A selection of the given number of dice, which must be positive. -/
def Selection.build
    (mode : Mode)
    (edge : Edge)
    (count : Int) : Except Fault Selection := do
  return .ofChecked mode edge (← Field.selectionCount.atLeast 1 count)

/-- A pool of the given numbers, the number of dice checked first. -/
def Pool.build
    (count sides : Int)
    (selection : Option Selection) : Except Fault Pool := do
  let count ← Field.diceCount.atLeast 1 count
  let sides ← Field.diceSides.atLeast 2 sides
  return .ofChecked count sides selection

end Tabletop
