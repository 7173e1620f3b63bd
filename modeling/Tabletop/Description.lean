import Tabletop.Notation

/-!
# Descriptions of pools

A pool is described by a sentence, or by the shortest notation that stands for
it.  Both leave out a selection of one die's number, and neither can hold a number
beyond the digit limit.
-/

namespace Tabletop

/-- The words for the selected dice; a single one is not counted. -/
def Selection.which (selection : Selection) : Except Fault String :=
  if selection.count = 1 then .ok selection.edge.word
  else do return selection.edge.word ++ " " ++ (← Numeral.write selection.count)

namespace Pool

/-- The sentence that describes a pool. -/
def describe (pool : Pool) : Except Fault String := do
  let count ← Numeral.write pool.count
  let sides ← Numeral.write pool.sides
  let dice := if pool.count = 1 then "die" else "dice"
  let base := "roll " ++ count ++ " " ++ sides ++ "-sided " ++ dice
  match pool.selection with
  | none => return base
  | some selection =>
      return base ++ " and " ++ selection.mode.word ++ " the " ++
        (← selection.which)

/-- The letter for a mode in the short form. -/
def modeLetter : Mode → String
  | .drop => "d"
  | .keep => "k"

/-- The letter for an edge in the short form. -/
def edgeLetter : Edge → String
  | .lowest => "L"
  | .highest => "H"

/-- The canonical notation of a pool. -/
def short (pool : Pool) : Except Fault String := do
  let count ← Numeral.write pool.count
  let sides ← Numeral.write pool.sides
  let base := count ++ "d" ++ sides
  match pool.selection with
  | none => return base
  | some selection =>
      let number ←
        if selection.count > 1 then Numeral.write selection.count else pure ""
      return base ++ modeLetter selection.mode ++ edgeLetter selection.edge ++
        number

end Pool
end Tabletop
