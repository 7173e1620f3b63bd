import Tabletop.AtLeast
import Tabletop.Json.Real
import Tabletop.Text.Blank

/-!
# Validation of outside values

Settings, form fields and request bodies come from outside.  Each value is checked
against what its field takes; what is wrong is an issue with a place and a kind.
A whole number may be written loosely: as a text with a sign, with leading zeros
and separators, or as a fraction that is whole.  The size of a number is an issue of
its own only where the number is written without any looseness.
-/

namespace Tabletop
namespace Validation

/-- What can be wrong with a value. -/
inductive IssueKind
  /-- A required value is not there. -/
  | missing
  /-- A text that is no whole number. -/
  | wholeNumberText
  /-- A whole number too large to be read. -/
  | wholeNumberSize
  /-- A value that cannot be a whole number. -/
  | wholeNumberType
  /-- A number that is not whole. -/
  | fraction
  /-- A number that is not finite. -/
  | finite
  /-- A number below the minimum. -/
  | minimum (least : Nat)
  /-- A value that is no text. -/
  | textType
  /-- A text with halves of surrogate pairs that stand alone. -/
  | brokenText
  /-- A value that is no path. -/
  | pathType
  /-- A word that is not among those allowed, which are two. -/
  | word (first second : String)
  /-- A value that is no object. -/
  | objectType
  /-- A document that is no JSON. -/
  | document
  deriving DecidableEq

/-- The code of a kind of issue. -/
def IssueKind.code : IssueKind → String
  | missing => "missing"
  | wholeNumberText => "int_parsing"
  | wholeNumberSize => "int_parsing_size"
  | wholeNumberType => "int_type"
  | fraction => "int_from_float"
  | finite => "finite_number"
  | minimum _ => "greater_than_equal"
  | textType => "string_type"
  | brokenText => "string_unicode"
  | pathType => "path_type"
  | word _ _ => "literal_error"
  | objectType => "model_attributes_type"
  | document => "json_invalid"

/-- Two words that are allowed, as they are named in a message. -/
def alternatives (first second : String) : String :=
  "'" ++ first ++ "' or '" ++ second ++ "'"

/-- The message about a kind of issue. -/
def IssueKind.message : IssueKind → String
  | missing => "Field required"
  | wholeNumberText =>
      "Input should be a valid integer, unable to parse string as an integer"
  | wholeNumberSize =>
      "Unable to parse input string as an integer, exceeded maximum size"
  | wholeNumberType => "Input should be a valid integer"
  | fraction =>
      "Input should be a valid integer, got a number with a fractional part"
  | finite => "Input should be a finite number"
  | minimum least =>
      "Input should be greater than or equal to " ++ Numeral.text least
  | textType => "Input should be a valid string"
  | brokenText =>
      "Input should be a valid string, unable to parse raw data as a unicode string"
  | pathType => "Input is not a valid path"
  | word first second => "Input should be " ++ alternatives first second
  | objectType =>
      "Input should be a valid dictionary or object to extract fields from"
  | document => "JSON decode error"

/-- What a message about a kind of issue is made of, by name. -/
def IssueKind.context : IssueKind → List (String × Json)
  | minimum least => [("ge", .integer least)]
  | word first second => [("expected", .text (alternatives first second))]
  | _ => []

/-- Something wrong with a value from outside. -/
structure Issue where
  /-- The names that lead to the value. -/
  location : List String
  /-- What is wrong. -/
  kind : IssueKind
  /-- The value, or what should hold it. -/
  input : Json

/-! ## Whole numbers -/

/-- A text read as a whole number without any looseness. -/
inductive Attempt
  | number (value : Int)
  /-- The number has more digits than are read. -/
  | tooLong
  | malformed

/-- The digits at the front of a text that a number without leading zeros takes,
and what is left. -/
def leadingDigits : List Char → List Char × List Char
  | '0' :: rest => (['0'], rest)
  | characters =>
      (characters.takeWhile Char.isDigit, characters.dropWhile Char.isDigit)

/-- Read a whole number: perhaps a minus sign, then digits without a leading
zero, then nothing. -/
def attempt (characters : List Char) : Attempt :=
  let negative := characters.head? = some '-'
  let unsigned := if negative then characters.drop 1 else characters
  let (digits, rest) := leadingDigits unsigned
  if digits = [] then .malformed
  else if digits.length > Numeral.digitLimit then .tooLong
  else if rest ≠ [] then .malformed
  else if negative then .number (-(Numeral.value digits : Int))
  else .number (Numeral.value digits)

/-- A text after its leading zeros, given the character before it.  Separators
among the zeros are skipped; the last zero stays if nothing or a point follows.  A
minus sign may follow the zeros. -/
def afterZeros (previous : Char) : List Char → Option (List Char)
  | [] => some [previous]
  | character :: rest =>
      if character = '0' ∨ character = '_' then afterZeros character rest
      else if character.isDigit ∨ character = '-' then some (character :: rest)
      else if character = '.' then some (previous :: character :: rest)
      else none

/-- A number text without its leading zeros; it must begin with a digit. -/
def stripZeros : List Char → Option (List Char)
  | [] => none
  | character :: rest =>
      if character = '0' then afterZeros character rest
      else if character.isDigit then some (character :: rest)
      else none

/-- A number text without a fraction of zeros; any other fraction stays. -/
def stripFraction (characters : List Char) : List Char :=
  let whole := characters.takeWhile (· != '.')
  match characters.dropWhile (· != '.') with
  | _ :: digit :: digits =>
      if (digit :: digits).all (· == '0') then whole else characters
  | _ => characters

/-- Whether two separators follow each other directly. -/
def hasDoubleSeparator : List Char → Bool
  | '_' :: '_' :: _ => true
  | _ :: rest => hasDoubleSeparator rest
  | [] => false

/-- A number text without its separators, if they stand between other
characters one at a time. -/
def stripSeparators (characters : List Char) : List Char :=
  if characters.head? = some '_' ∨ characters.getLast? = some '_' ∨
      hasDoubleSeparator characters then characters
  else characters.filter (· != '_')

/-- A number text without a sign and without anything that looseness allows. -/
def stripMagnitude (characters : List Char) : Option (List Char) := do
  return stripSeparators (stripFraction (← stripZeros characters))

/-- A number text without anything that looseness allows. -/
def cleaned (characters : List Char) : Option (List Char) :=
  match Text.dropBoth Text.isFieldBlank characters with
  | '+' :: rest => stripMagnitude rest
  | '-' :: rest => (stripMagnitude rest).map ('-' :: ·)
  | trimmed => stripMagnitude trimmed

/-- The whole number that a text stands for, written loosely or not. -/
def wholeNumberOfText (text : String) : Except IssueKind Int :=
  match attempt text.toList with
  | .number value => .ok value
  | .tooLong => .error .wholeNumberSize
  | .malformed =>
      match (cleaned text.toList).map attempt with
      | some (.number value) => .ok value
      | _ => .error .wholeNumberText

/-- Whole numbers written with a fraction or an exponent stay below this bound, the
end of the numbers of 64 bits with a sign. -/
def realBound : Nat :=
  9223372036854775808

/-- The whole number that a number with a fraction or an exponent equals, within
64 bits. -/
def wholeNumberOfReal (literal : String) : Except IssueKind Int :=
  match Json.finite? literal with
  | none => .error .finite
  | some number =>
      match number.toInt? with
      | none => .error .fraction
      | some value =>
          if value.natAbs < realBound then .ok value else .error .wholeNumberSize

/-- The whole number that a value stands for. -/
def wholeNumber : Json → Except IssueKind Int
  | .integer value => .ok value
  | .bool true => .ok 1
  | .bool false => .ok 0
  | .real literal => wholeNumberOfReal literal
  | .text text => wholeNumberOfText text
  | .brokenText _ => .error .brokenText
  | _ => .error .wholeNumberType

/-- The whole number that a value stands for, if it is at least the minimum. -/
def boundedNumber
    (minimum : Nat)
    (value : Json) : Except IssueKind (AtLeast minimum) := do
  match AtLeast.ofInt? minimum (← wholeNumber value) with
  | some number => return number
  | none => throw (.minimum minimum)

/-! ## Other values -/

/-- The text that a value is. -/
def text : Json → Except IssueKind String
  | .text value => .ok value
  | .brokenText _ => .error .brokenText
  | _ => .error .textType

/-- Place an issue with a value. -/
def located
    (location : List String)
    (input : Json) : Except IssueKind α → Except (List Issue) α
  | .ok value => .ok value
  | .error kind => .error [{ location, kind, input }]

/-- Both of two checked values, or the issues of both. -/
def both :
    Except (List Issue) α → Except (List Issue) β → Except (List Issue) (α × β)
  | .ok first, .ok second => .ok (first, second)
  | .ok _, .error issues => .error issues
  | .error issues, .ok _ => .error issues
  | .error issues, .error more => .error (issues ++ more)

/-! ## Issues in an answer -/

/-- An issue as a JSON object: its kind, its place, its message, the value, and what
the message is made of if it is made of anything. -/
def Issue.json (issue : Issue) : Json :=
  .object ([
    ("type", .text issue.kind.code),
    ("loc", .array (issue.location.map .text)),
    ("msg", .text issue.kind.message),
    ("input", issue.input)] ++
    match issue.kind.context with
    | [] => []
    | context => [("ctx", .object context)])

end Validation
end Tabletop
