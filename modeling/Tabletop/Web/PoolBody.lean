import Tabletop.Json.Encoding
import Tabletop.Pool
import Tabletop.Validation

/-!
# Pools as JSON objects

A pool is sent as an object with its numbers and its selection.  Reading such an
object checks everything and names everything that is wrong, in the order of the
fields; what is accepted is a pool.  Unknown members are ignored.
-/

namespace Tabletop

/-- A selection as a JSON object. -/
def Selection.json (selection : Selection) : Json :=
  .object [
    ("mode", .text selection.mode.word),
    ("end", .text selection.edge.word),
    ("count", .integer selection.count)]

/-- A pool as a JSON object. -/
def Pool.json (pool : Pool) : Json :=
  .object [
    ("count", .integer pool.count),
    ("sides", .integer pool.sides),
    ("selection", (pool.selection.map Selection.json).getD .null)]

namespace Web
namespace PoolBody

open Validation

/-- The issue with a word that stands for no mode. -/
def modeWord : IssueKind :=
  .word Mode.drop.word Mode.keep.word

/-- The issue with a word that stands for no end. -/
def edgeWord : IssueKind :=
  .word Edge.lowest.word Edge.highest.word

/-- The mode that a word stands for. -/
def readMode : Json → Except IssueKind Mode
  | .text word =>
      if word = Mode.drop.word then .ok .drop
      else if word = Mode.keep.word then .ok .keep
      else .error modeWord
  | .brokenText _ => .error .brokenText
  | _ => .error modeWord

/-- The end that a word stands for. -/
def readEdge : Json → Except IssueKind Edge
  | .text word =>
      if word = Edge.lowest.word then .ok .lowest
      else if word = Edge.highest.word then .ok .highest
      else .error edgeWord
  | .brokenText _ => .error .brokenText
  | _ => .error edgeWord

/-- Whether a value is an object. -/
def isObject : Json → Bool
  | .object _ => true
  | .brokenObject _ => true
  | _ => false

/-- A member that must be there, checked. -/
def requiredMember
    (location : List String)
    (object : Json)
    (name : String)
    (check : Json → Except IssueKind α) : Except (List Issue) α :=
  match object.get? name with
  | none => located (location ++ [name]) object (.error .missing)
  | some value => located (location ++ [name]) value (check value)

/-- A member that may be left out, checked. -/
def optionalMember
    (location : List String)
    (object : Json)
    (name : String)
    (standard : α)
    (check : Json → Except IssueKind α) : Except (List Issue) α :=
  match object.get? name with
  | none => .ok standard
  | some value => located (location ++ [name]) value (check value)

/-- The number of dice or of selected dice, one if it is left out. -/
def countMember
    (location : List String)
    (object : Json) : Except (List Issue) (AtLeast 1) :=
  optionalMember location object "count" AtLeast.one (boundedNumber 1)

/-- The selection that an object stands for. -/
def readSelection
    (location : List String)
    (object : Json) : Except (List Issue) Selection := do
  let (mode, edge, count) ←
    both (requiredMember location object "mode" readMode) <|
      both (requiredMember location object "end" readEdge)
        (countMember location object)
  return .ofChecked mode edge count

/-- The selection of a pool: none if it is null or left out. -/
def selectionMember
    (location : List String)
    (object : Json) : Except (List Issue) (Option Selection) :=
  let place := location ++ ["selection"]
  match object.get? "selection" with
  | none => .ok none
  | some .null => .ok none
  | some value =>
      if isObject value then do return some (← readSelection place value)
      else located place value (.error .objectType)

/-- The pool that an object stands for. -/
def readObject
    (location : List String)
    (object : Json) : Except (List Issue) Pool := do
  let (count, sides, selection) ←
    both (countMember location object) <|
      both (requiredMember location object "sides" (boundedNumber 2))
        (selectionMember location object)
  return .ofChecked count sides selection

/-- The pool that a value stands for, which must be an object. -/
def read (location : List String) (value : Json) : Except (List Issue) Pool :=
  if isObject value then readObject location value
  else located location value (.error .objectType)

/-- The place of the body. -/
def place : List String :=
  ["body"]

/-- A body before its value is looked at. -/
inductive Document
  /-- There is no body. -/
  | absent
  /-- The body is no JSON document. -/
  | malformed
  /-- The body is in no encoding, has a number that is too long, or is nested too
  deeply. -/
  | unreadable
  /-- A JSON document. -/
  | value (value : Json)

/-- How deeply arrays and objects may be nested in a body.  Reading takes one call for each
level; of the thousand calls that may be open at a time, those that lead there in a running
service, as they were counted in one, take up the rest. -/
def nestingLimit : Nat :=
  978

/-- The document that the text of a body is. -/
def document (text : String) : Document :=
  if text = "" then .absent
  else
    match (Json.elements? text).map (Json.read nestingLimit) with
    | some (.ok value) => .value value
    | some (.error .malformed) => .malformed
    | _ => .unreadable

end PoolBody
end Web
end Tabletop
