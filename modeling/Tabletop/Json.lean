import Tabletop.Numeral
import Tabletop.Text.Element
import Tabletop.Text.Quoted

/-!
# JSON values

A JSON document as data.  Numbers without a fraction or an exponent are integers
of any size; the others, and the words for infinities and for no number, are kept
as written.  The members of an object stay in order.  Texts and names can hold
halves of surrogate pairs that stand alone.  Writing uses ASCII characters only.
-/

namespace Tabletop

/-- A JSON value. -/
inductive Json
  | null
  | bool (value : Bool)
  | integer (value : Int)
  /-- A number with a fraction or an exponent, or a word for a number that is not
  finite, as written. -/
  | real (literal : String)
  | text (value : String)
  /-- A text with halves of surrogate pairs that stand alone. -/
  | brokenText (elements : List Text.Element)
  | array (items : List Json)
  | object (members : List (String × Json))
  /-- An object with names that hold halves of surrogate pairs that stand alone. -/
  | brokenObject (members : List (List Text.Element × Json))

namespace Json

/-- The text with the given elements, broken or not. -/
def ofElements (elements : List Text.Element) : Json :=
  match Text.ofElements? elements with
  | some value => text value
  | none => brokenText elements

/-- The member of an object with the given name. -/
def get? (name : String) : Json → Option Json
  | object members => members.lookup name
  | brokenObject members => members.lookup (Text.elements name)
  | _ => none

/-! ## Objects -/

/-- Entries with one more: of a name that is there already, the value is
replaced. -/
def put [DecidableEq ν] (name : ν) (value : α) : List (ν × α) → List (ν × α)
  | [] => [(name, value)]
  | (other, old) :: entries =>
      if other = name then (other, value) :: entries
      else (other, old) :: put name value entries

/-- Entries of different names: of several with one name, the value of the last at
the place of the first. -/
def distinct [DecidableEq ν] (entries : List (ν × α)) : List (ν × α) :=
  entries.foldl (fun kept entry => put entry.1 entry.2 kept) []

/-- Members whose names are characters throughout. -/
def namedMembers? (members : List (List Text.Element × Json)) :
    Option (List (String × Json)) :=
  members.mapM fun member =>
    (Text.ofElements? member.1).map fun name => (name, member.2)

/-- The object with the given members, broken or not. -/
def ofMembers (members : List (List Text.Element × Json)) : Json :=
  let members := distinct members
  match namedMembers? members with
  | some named => object named
  | none => brokenObject members

/-! ## Writing -/

/-- A number of 16 bits as an escape. -/
def unitEscape (unit : Nat) : List Char :=
  '\\' :: 'u' :: Text.hexadecimal 4 unit

/-- The escape of a character that never stands for itself. -/
def escape? (character : Char) : Option (List Char) :=
  if character == '"' || character == '\\' then some ['\\', character]
  else if character == '\n' then some ['\\', 'n']
  else if character == '\r' then some ['\\', 'r']
  else if character == '\t' then some ['\\', 't']
  else if character == '\x08' then some ['\\', 'b']
  else if character == '\x0C' then some ['\\', 'f']
  else if character.toNat < 0x20 then some (unitEscape character.toNat)
  else none

/-- The written form of one character of a text. -/
def writeCharacter (character : Char) : List Char :=
  match escape? character with
  | some written => written
  | none =>
      if character.toNat < 0x7F then [character]
      else if character.toNat < 0x10000 then unitEscape character.toNat
      else
        let offset := character.toNat - 0x10000
        unitEscape (0xD800 + offset / 0x400) ++ unitEscape (0xDC00 + offset % 0x400)

/-- The written form of one element of a text. -/
def writeElement : Text.Element → List Char
  | .character value => writeCharacter value
  | .half unit => unitEscape unit

/-- The written form of a text that may be broken. -/
def writeElements (elements : List Text.Element) : List Char :=
  '"' :: (elements.flatMap writeElement ++ ['"'])

/-- The written form of a text. -/
def writeText (text : String) : List Char :=
  '"' :: (text.toList.flatMap writeCharacter ++ ['"'])

mutual

/-- The written form of a value. -/
def write : Json → List Char
  | null => ['n', 'u', 'l', 'l']
  | bool true => ['t', 'r', 'u', 'e']
  | bool false => ['f', 'a', 'l', 's', 'e']
  | integer value => (Numeral.text value).toList
  | real literal => literal.toList
  | text value => writeText value
  | brokenText elements => writeElements elements
  | array items => '[' :: (writeItems items ++ [']'])
  | object members => '\x7b' :: (writeMembers members ++ ['\x7d'])
  | brokenObject members => '\x7b' :: (writeBrokenMembers members ++ ['\x7d'])

/-- The items of an array, separated by a comma and a space. -/
def writeItems : List Json → List Char
  | [] => []
  | [item] => write item
  | item :: next :: items => write item ++ ',' :: ' ' :: writeItems (next :: items)

/-- The members of an object, separated by a comma and a space. -/
def writeMembers : List (String × Json) → List Char
  | [] => []
  | [(name, value)] => writeText name ++ ':' :: ' ' :: write value
  | (name, value) :: next :: members =>
      writeText name ++ ':' :: ' ' :: (write value ++
        ',' :: ' ' :: writeMembers (next :: members))

/-- The members of an object with broken names, separated by a comma and a space. -/
def writeBrokenMembers : List (List Text.Element × Json) → List Char
  | [] => []
  | [(name, value)] => writeElements name ++ ':' :: ' ' :: write value
  | (name, value) :: next :: members =>
      writeElements name ++ ':' :: ' ' :: (write value ++
        ',' :: ' ' :: writeBrokenMembers (next :: members))

end

/-- The text of a value. -/
def render (value : Json) : String :=
  String.ofList (write value)

end Json
end Tabletop
