import Tabletop.Pool.Offer
import Tabletop.Web.PoolBody

/-!
# Pools in plain values

A pool is sent and received in plain values: whole numbers, and words for the mode and the end
of its selection.  A form holds such values once they have been checked.  The pool of a form is
put together from them as from any other values that are offered, and the form of a pool is
checked like any other form.
-/

namespace Tabletop

/-- The mode that a word stands for, which must be one of its words. -/
def Mode.ofWord (word : String) : Except Fault Mode :=
  if word = drop.word then .ok drop
  else if word = keep.word then .ok keep
  else .error (.foreign "ValueError" (Text.quoted word ++ " is not a valid SelectMode"))

/-- The end that a word stands for, which must be one of its words. -/
def Edge.ofWord (word : String) : Except Fault Edge :=
  if word = lowest.word then .ok lowest
  else if word = highest.word then .ok highest
  else .error (.foreign "ValueError" (Text.quoted word ++ " is not a valid SelectEnd"))

namespace Web

open Validation PoolBody

/-- The plain values of a selection. -/
@[ext] structure SelectionForm where
  /-- The word for the mode. -/
  mode : String
  /-- The word for the end. -/
  edge : String
  /-- The number of selected dice. -/
  count : Int
  deriving DecidableEq

/-- The plain values of a pool. -/
@[ext] structure PoolForm where
  /-- The number of dice. -/
  count : Int
  /-- The number of sides of each die. -/
  sides : Int
  /-- The values of the selection, if there is one. -/
  selection : Option SelectionForm
  deriving DecidableEq

/-! ## Checked values -/

/-- One of two words. -/
def word (first second : String) : Json → Except IssueKind String
  | .text word =>
      if word = first ∨ word = second then .ok word
      else .error (.word first second)
  | .brokenText _ => .error .brokenText
  | _ => .error (.word first second)

/-- A whole number that is not below the minimum. -/
def numberFrom (minimum : Nat) (value : Json) : Except IssueKind Int := do
  let number ← wholeNumber value
  if number < minimum then throw (.minimum minimum)
  return number

/-- The number of dice or of selected dice of a form, one if it is left out. -/
def countValue (location : List String) (object : Json) : Except (List Issue) Int :=
  optionalMember location object "count" 1 (numberFrom 1)

namespace SelectionForm

/-- The values of an object, checked. -/
def read (location : List String) (object : Json) : Except (List Issue) SelectionForm := do
  let (mode, edge, count) ←
    both (requiredMember location object "mode" (word Mode.drop.word Mode.keep.word)) <|
      both (requiredMember location object "end" (word Edge.lowest.word Edge.highest.word))
        (countValue location object)
  return { mode, edge, count }

/-- The form of a selection, its values checked. -/
def ofSelection (selection : Selection) : Except (List Issue) SelectionForm :=
  read [] selection.json

/-- The values of a form, offered for a selection. -/
def offer (form : SelectionForm) : Except Fault SelectionOffer := do
  let mode ← Mode.ofWord form.mode
  let edge ← Edge.ofWord form.edge
  return {
    mode := some (.mode mode)
    edge := some (.edge edge)
    count := some (.integer form.count) }

/-- A form as a JSON object. -/
def json (form : SelectionForm) : Json :=
  .object [("mode", .text form.mode), ("end", .text form.edge), ("count", .integer form.count)]

end SelectionForm

namespace PoolForm

/-- The form of the selection of a pool: none if it is null or left out. -/
def selectionValue
    (location : List String)
    (object : Json) : Except (List Issue) (Option SelectionForm) :=
  let place := location ++ ["selection"]
  match object.get? "selection" with
  | none => .ok none
  | some .null => .ok none
  | some value =>
      if isObject value then do return some (← SelectionForm.read place value)
      else located place value (.error .objectType)

/-- The values of a body, checked, which must be an object. -/
def read (location : List String) (value : Json) : Except (List Issue) PoolForm :=
  if isObject value then do
    let (count, sides, selection) ←
      both (countValue location value) <|
        both (requiredMember location value "sides" (numberFrom 2))
          (selectionValue location value)
    return { count, sides, selection }
  else located location value (.error .objectType)

/-- The form of a pool, its values checked: those of the selection before the others. -/
def ofPool (pool : Pool) : Except (List Issue) PoolForm := do
  let selection ← pool.selection.mapM SelectionForm.ofSelection
  let (count, sides) ←
    both (countValue [] pool.json) (requiredMember [] pool.json "sides" (numberFrom 2))
  return { count, sides, selection }

/-- The values of a selection that a form has or does not have, offered for a pool. -/
def part : Option SelectionForm → Except Fault SelectionPart
  | none => .ok (.other .nothing)
  | some form => do return .fields (← form.offer)

/-- The values of a form, offered for a pool. -/
def offer (form : PoolForm) : Except Fault PoolOffer := do
  let selection ← part form.selection
  return {
    count := some (.integer form.count)
    sides := some (.integer form.sides)
    selection }

/-- The pool that is put together from the values of a form. -/
def toPool (form : PoolForm) : Except Fault Pool := do
  (← form.offer).build

/-- A form as a JSON object. -/
def json (form : PoolForm) : Json :=
  .object [
    ("count", .integer form.count),
    ("sides", .integer form.sides),
    ("selection", (form.selection.map SelectionForm.json).getD .null)]

end PoolForm
end Web
end Tabletop
