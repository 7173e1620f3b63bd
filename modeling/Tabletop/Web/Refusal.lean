import Tabletop.Fault
import Tabletop.Json.Compact
import Tabletop.Validation
import Tabletop.Web.Message

/-!
# Refusals

A request with wrong values is answered with a list of issues, each with the value
that it is about.  Members that are kept for a store are left out of such a value.
An answer that cannot be sent is a fault: first where a value is nested too deeply to
be shown, then where the answer is nested too deeply to be written or a number is not
finite, and last where half of a surrogate pair stands alone in what is written.
-/

namespace Tabletop
namespace Web
namespace Refusal

/-! ## Values in an answer -/

/-- The beginning of the names of members that are kept for a store. -/
def storeMark : List Char :=
  ['_', 's', 'a']

/-- Whether a name is that of a member that is kept for a store. -/
def isStored (name : List Text.Element) : Bool :=
  (storeMark.map Text.Element.character).isPrefixOf name

mutual

/-- A value as it is shown in an answer. -/
def shown : Json → Json
  | .array items => .array (shownItems items)
  | .object members => .object (shownMembers members)
  | .brokenObject members => .brokenObject (shownBrokenMembers members)
  | value => value

/-- The items of an array as they are shown. -/
def shownItems : List Json → List Json
  | [] => []
  | item :: items => shown item :: shownItems items

/-- The members of an object that are shown. -/
def shownMembers : List (String × Json) → List (String × Json)
  | [] => []
  | (name, value) :: members =>
      if isStored (Text.elements name) then shownMembers members
      else (name, shown value) :: shownMembers members

/-- The members of an object with broken names that are shown. -/
def shownBrokenMembers :
    List (List Text.Element × Json) → List (List Text.Element × Json)
  | [] => []
  | (name, value) :: members =>
      if isStored name then shownBrokenMembers members
      else (name, shown value) :: shownBrokenMembers members

end

mutual

/-- How many values lie one in another at most, the value itself included. -/
def depth : Json → Nat
  | .array items => depthOfItems items + 1
  | .object members => depthOfMembers members + 1
  | .brokenObject members => depthOfBrokenMembers members + 1
  | _ => 1

/-- How many values lie one in another at most in items. -/
def depthOfItems : List Json → Nat
  | [] => 0
  | item :: items => max (depth item) (depthOfItems items)

/-- How many values lie one in another at most in members. -/
def depthOfMembers : List (String × Json) → Nat
  | [] => 0
  | (_, value) :: members => max (depth value) (depthOfMembers members)

/-- How many values lie one in another at most in members with broken names. -/
def depthOfBrokenMembers : List (List Text.Element × Json) → Nat
  | [] => 0
  | (_, value) :: members => max (depth value) (depthOfBrokenMembers members)

end

/-- How many values may lie one in another in a value that is shown.  A walk through the
value takes one call for each; of the thousand calls that may be open at a time, those that
lead there in a running service, as they were counted in one, take up the rest. -/
def shownNesting : Nat :=
  971

/-! ## Sending -/

/-- The fault of the first halves of surrogate pairs that stand alone in a text. -/
def loneHalves? (elements : List Text.Element) : Option Fault :=
  let before := elements.takeWhile Text.Element.isCharacter
  match elements.drop before.length with
  | .half unit :: rest =>
      let more := rest.takeWhile fun element => !element.isCharacter
      some (.loneHalves unit before.length (before.length + more.length))
  | _ => none

/-- How deeply arrays and objects may be nested in a body that is written.  Like the number
for values that are shown, it is what is left of a thousand open calls, as they were counted
in a running service. -/
def writtenNesting : Nat :=
  967

/-- Whether a JSON value can be sent. -/
def sendableJson (value : Json) : Except Fault Unit :=
  match value.compact writtenNesting with
  | .error .notFinite => .error .notFinite
  | .error .tooDeep => .error .tooDeepToWrite
  | .ok elements =>
      match loneHalves? elements with
      | some fault => .error fault
      | none => .ok ()

/-- Whether a body can be sent. -/
def sendable : Body → Except Fault Unit
  | .json value => sendableJson value
  | _ => .ok ()

/-- The answer to a request with wrong values, or why it cannot be sent. -/
def answer (issues : List Validation.Issue) : Except Fault Response := do
  let issues := issues.map fun issue => { issue with input := shown issue.input }
  if issues.any fun issue => shownNesting < depth issue.input then
    throw .nestedTooDeeply
  let response : Response :=
    .detailed 422 (.array (issues.map Validation.Issue.json))
  sendable response.body
  return response

end Refusal
end Web
end Tabletop
