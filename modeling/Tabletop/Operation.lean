import Tabletop.Datum
import Tabletop.Roll

/-!
# Supervised operations

A piece of work can be supervised under a name: a record with what it was given
is written before it, and a record of its success or failure after it.  The
outcome of the work is passed on unchanged.
-/

namespace Tabletop

/-- A name for a piece of work and what the work is given. -/
structure Operation where
  /-- The name of the operation. -/
  name : String
  /-- The values given by position. -/
  row : List Datum
  /-- The values given by name. -/
  named : List (String × Datum)

namespace Operation

/-- What stands for the time an operation took, which the journal leaves open. -/
def elapsed : String :=
  "*"

/-- The record written before an operation. -/
def opening (operation : Operation) : Except Fault Log.Record := do
  let row ← Datum.shownRow operation.row
  let named ← (Datum.mapping operation.named).shown
  return .debug
    ("OP | op=" ++ operation.name ++ " | args=" ++ row ++ " " ++ named)

/-- The record written after an operation that succeeded. -/
def success (operation : Operation) : Log.Record :=
  .debug ("OP_OK | op=" ++ operation.name ++ " | duration=" ++ elapsed ++ "ms")

/-- The record written after an operation that failed with a fault of this kind, put into
these words. -/
def failure (operation : Operation) (kind words : String) : Log.Record :=
  { level := .warning
    origin := none
    message := "OP_ERR | op=" ++ operation.name ++ " | duration=" ++ elapsed ++
      "ms | error=" ++ kind ++ ": " ++ words }

/-- The record written after an operation with the given outcome; there is none for a fault
that cannot be put into words. -/
def closing
    (operation : Operation)
    (word : Fault → Except Fault String) : Except Fault α → Except Fault Log.Record
  | .ok _ => .ok operation.success
  | .error fault => do return operation.failure fault.kind (← word fault)

/-- Do a piece of work between the records of an operation.  How a fault is put into words is
up to those who raise it; that can be a fault itself, which is then raised in place of the
other. -/
def superviseWording
    (operation : Operation)
    (word : Fault → Except Fault String)
    (work : Play σ α) : Play σ α := do
  Play.note (← Play.ofExcept operation.opening)
  let outcome ← work.attempt
  Play.note (← Play.ofExcept (operation.closing word outcome))
  Play.ofExcept outcome

/-- Do a piece of work between the records of an operation, with faults in the words that
they have, if they have any. -/
def supervise (operation : Operation) (work : Play σ α) : Play σ α :=
  operation.superviseWording Fault.written work

end Operation
end Tabletop
