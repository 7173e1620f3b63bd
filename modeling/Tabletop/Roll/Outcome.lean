import Tabletop.Description
import Tabletop.Json
import Tabletop.Log
import Tabletop.Text.Blank

/-!
# Outcomes of rolls

The outcome of a roll is shown in one line, written down as a record, or given
as a JSON object.  In the line and in the record the blanks around the source
text are left out.
-/

namespace Tabletop

/-- The outcome of one roll. -/
structure Outcome where
  /-- The sum of the kept values. -/
  total : Int
  /-- The pool that was rolled. -/
  pool : Pool
  /-- The values that count, in the order they were rolled. -/
  kept : List Int
  /-- The values that do not count, in the order they were rolled. -/
  dropped : List Int
  /-- The text that was rolled, as given. -/
  source : String
  deriving DecidableEq

namespace Outcome

/-- The numbers of a list, separated by commas. -/
def writeList (numbers : List Int) : Except Fault String := do
  return String.intercalate ", " (← numbers.mapM Numeral.write)

/-- An outcome in one line.  A single value that nothing was dropped beside is
left out, because it is the total. -/
def line (outcome : Outcome) : Except Fault String := do
  let source := Text.trim outcome.source
  if outcome.kept.length = 1 ∧ outcome.dropped = [] then
    return source ++ " = " ++ (← Numeral.write outcome.total)
  let kept := source ++ " = [" ++ (← writeList outcome.kept) ++ "]"
  if outcome.dropped = [] then
    return kept ++ " = " ++ (← Numeral.write outcome.total)
  return kept ++ " (dropped " ++ (← writeList outcome.dropped) ++ ") = " ++
    (← Numeral.write outcome.total)

/-- The record of a roll. -/
def record (outcome : Outcome) : Except Fault Log.Record := do
  return .debug ("ROLL | source=" ++ Text.trim outcome.source ++
    " | kept=[" ++ (← writeList outcome.kept) ++
    "] | dropped=[" ++ (← writeList outcome.dropped) ++
    "] | total=" ++ (← Numeral.write outcome.total))

/-- An outcome as a JSON object, with the canonical notation of its pool. -/
def json (outcome : Outcome) : Except Fault Json := do
  let short ← outcome.pool.short
  return .object [
    ("total", .integer outcome.total),
    ("kept", .array (outcome.kept.map .integer)),
    ("dropped", .array (outcome.dropped.map .integer)),
    ("source", .text outcome.source),
    ("short", .text short)]

/-- Outcomes as a JSON object, under the name results. -/
def jsonOfAll (outcomes : List Outcome) : Except Fault Json := do
  return .object [("results", .array (← outcomes.mapM json))]

end Outcome
end Tabletop
