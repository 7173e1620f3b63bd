import Tabletop.Pool

/-!
# Selecting dice

The dice of a roll are selected by value: the values are sorted, the required
number is taken from one end, and each taken value is found again among the dice
in the order they were rolled.  So equal values are taken from the front, whichever
end is asked for.
-/

namespace Tabletop
namespace Roll

/-- A rolled die and whether it has been selected. -/
structure Die where
  /-- The rolled value. -/
  value : Int
  /-- Whether the die has been selected. -/
  selected : Bool
  deriving DecidableEq

/-- The rolled values from lowest to highest. -/
def ascending (rolls : List Int) : List Int :=
  rolls.mergeSort (fun left right => decide (left ≤ right))

/-- The values that a selection takes, all of them if there are too few. -/
def taken (selection : Selection) (rolls : List Int) : List Int :=
  let ordered := ascending rolls
  let number := min selection.count ordered.length
  match selection.edge with
  | .lowest => ordered.take number
  | .highest => ordered.drop (ordered.length - number)

/-- Select the first die that has the value and is not yet selected. -/
def selectFirst (value : Int) : List Die → Option (List Die)
  | [] => none
  | die :: dice =>
      if die.value = value ∧ die.selected = false then
        some ({ die with selected := true } :: dice)
      else (selectFirst value dice).map (die :: ·)

/-- Select one die for each value in turn. -/
def selectEach : List Int → List Die → Except Fault (List Die)
  | [], dice => .ok dice
  | value :: values, dice =>
      match selectFirst value dice with
      | none => .error (.notAmongRolls value)
      | some dice => selectEach values dice

/-- The dice of a roll with those of the selection selected. -/
def mark (selection : Selection) (rolls : List Int) : Except Fault (List Die) :=
  selectEach (taken selection rolls)
    (rolls.map fun value => { value, selected := false })

/-- The values of the dice that are selected, or of those that are not. -/
def valuesWhere (selected : Bool) (dice : List Die) : List Int :=
  (dice.filter fun die => die.selected == selected).map Die.value

/-- The selected values and the others, both in the order they were rolled. -/
def split
    (selection : Selection)
    (rolls : List Int) : Except Fault (List Int × List Int) := do
  let dice ← mark selection rolls
  return (valuesWhere true dice, valuesWhere false dice)

/-- The kept values and the dropped ones, both in the order they were rolled.
Without a selection all are kept. -/
def keep
    (selection : Option Selection)
    (rolls : List Int) : Except Fault (List Int × List Int) :=
  match selection with
  | none => .ok (rolls, [])
  | some selection => do
      let (selected, others) ← split selection rolls
      match selection.mode with
      | .keep => return (selected, others)
      | .drop => return (others, selected)

/-- The sum of values. -/
def total (values : List Int) : Int :=
  values.foldr (· + ·) 0

end Roll
end Tabletop
