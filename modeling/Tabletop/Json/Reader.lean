import Tabletop.Json

/-!
# Reading JSON

A document is read from the front: blanks, one value, blanks, and nothing more.
Besides the standard grammar the words for infinities and for no number are read.
Of two escapes that make a surrogate pair one character is read, while halves that
stand as such in the document stay apart.  Reading stops at the first place where the
grammar is left, at the first integer beyond the digit limit, or where values are
nested too deeply, whichever comes first.
-/

namespace Tabletop
namespace Json

/-- Why a document cannot be read. -/
inductive ReadFault
  /-- The grammar is left. -/
  | malformed
  /-- An integer is beyond the digit limit. -/
  | numeralTooLong
  /-- Arrays and objects are nested beyond the limit. -/
  | tooDeep
  deriving DecidableEq

/-- Blanks between the tokens of a document. -/
def isBlank : Text.Element → Bool
  | .character value => [' ', '\t', '\n', '\r'].contains value
  | .half _ => false

/-- A document without the blanks at its front. -/
def skipBlanks (document : List Text.Element) : List Text.Element :=
  document.dropWhile isBlank

/-! ## Texts -/

/-- A part of a text as it is written. -/
inductive TextPart
  /-- An element that stands for itself or is escaped by a letter. -/
  | plain (value : Text.Element)
  /-- A number of 16 bits that is escaped by its digits. -/
  | escape (unit : Nat)

/-- The element that a part of a text stands for. -/
def TextPart.element : TextPart → Text.Element
  | plain value => value
  | escape unit => .ofCode unit

/-- The parts of a text in reverse with one more escape: two escapes that make a
surrogate pair are one character. -/
def pushEscape (unit : Nat) : List TextPart → List TextPart
  | .escape high :: parts =>
      if Text.isHighHalf high && Text.isLowHalf unit then
        .plain (.character (Text.joinedHalves high unit)) :: parts
      else .escape unit :: .escape high :: parts
  | parts => .escape unit :: parts

/-- The value of a hexadecimal digit. -/
def hexadecimalValue? (character : Char) : Option Nat :=
  if character.isDigit then some (character.toNat - '0'.toNat)
  else if 'a' ≤ character ∧ character ≤ 'f' then
    some (character.toNat - 'a'.toNat + 10)
  else if 'A' ≤ character ∧ character ≤ 'F' then
    some (character.toNat - 'A'.toNat + 10)
  else none

/-- The number written by four hexadecimal digits. -/
def hexadecimalUnit? (first second third fourth : Char) : Option Nat := do
  return (((← hexadecimalValue? first) * 16 + (← hexadecimalValue? second)) * 16 +
    (← hexadecimalValue? third)) * 16 + (← hexadecimalValue? fourth)

/-- The character that a letter after a backslash stands for. -/
def simpleEscape? (letter : Char) : Option Char :=
  [('"', '"'), ('\\', '\\'), ('/', '/'), ('b', '\x08'), ('f', '\x0C'),
   ('n', '\n'), ('r', '\r'), ('t', '\t')].lookup letter

/-- The parts of a text up to its closing mark in reverse, and what is left.  The
parts read so far are given. -/
def readParts
    (parts : List TextPart) :
    List Text.Element → Except ReadFault (List TextPart × List Text.Element)
  | [] => .error .malformed
  | .half unit :: rest => readParts (.plain (.half unit) :: parts) rest
  | .character '"' :: rest => .ok (parts, rest)
  | .character '\\' :: .character 'u' :: .character first :: .character second ::
      .character third :: .character fourth :: rest =>
      match hexadecimalUnit? first second third fourth with
      | some unit => readParts (pushEscape unit parts) rest
      | none => .error .malformed
  | .character '\\' :: .character letter :: rest =>
      match simpleEscape? letter with
      | some value => readParts (.plain (.character value) :: parts) rest
      | none => .error .malformed
  | .character value :: rest =>
      if value.toNat < 0x20 ∨ value = '\\' then .error .malformed
      else readParts (.plain (.character value) :: parts) rest

/-- The elements of a text after its opening mark, and what is left. -/
def readText
    (document : List Text.Element) :
    Except ReadFault (List Text.Element × List Text.Element) := do
  let (parts, rest) ← readParts [] document
  return (parts.reverse.map TextPart.element, rest)

/-! ## Numbers -/

/-- A maximal run of digits at the front of a text, and what is left. -/
def splitDigits (characters : List Char) : List Char × List Char :=
  (characters.takeWhile Char.isDigit, characters.dropWhile Char.isDigit)

/-- A fraction at the front of a text, with its point, and what is left. -/
def splitFraction : List Char → List Char × List Char
  | '.' :: rest =>
      let digits := splitDigits rest
      if digits.1 = [] then ([], '.' :: rest) else ('.' :: digits.1, digits.2)
  | characters => ([], characters)

/-- An exponent at the front of a text, with its letter, and what is left. -/
def splitExponent : List Char → List Char × List Char
  | [] => ([], [])
  | letter :: rest =>
      if letter = 'e' ∨ letter = 'E' then
        let sign := rest.takeWhile fun character =>
          character == '+' || character == '-'
        let digits := splitDigits (rest.drop sign.length)
        if 1 < sign.length ∨ digits.1 = [] then ([], letter :: rest)
        else (letter :: sign ++ digits.1, digits.2)
      else ([], letter :: rest)

/-- The integer part at the front of a text, and what is left: a zero or a
numeral without leading zeros. -/
def splitWhole : List Char → Option (List Char × List Char)
  | '0' :: rest => some (['0'], rest)
  | characters =>
      let digits := splitDigits characters
      if digits.1 = [] then none else some digits

/-- The number with the given sign at the front of a text, and what is left. -/
def readMagnitude
    (negative : Bool)
    (characters : List Char) : Except ReadFault (Json × List Char) :=
  match splitWhole characters with
  | none => .error .malformed
  | some (whole, afterWhole) =>
      let fraction := splitFraction afterWhole
      let exponent := splitExponent fraction.2
      if fraction.1 = [] ∧ exponent.1 = [] then
        match Numeral.read? whole with
        | some value =>
            .ok (integer (if negative then -(value : Int) else value), afterWhole)
        | none => .error .numeralTooLong
      else
        let sign := if negative then ['-'] else []
        .ok (real (String.ofList (sign ++ whole ++ fraction.1 ++ exponent.1)),
          exponent.2)

/-- A word of the given characters at the front of a text, and what is left. -/
def readWord? : List Char → List Char → Option (List Char)
  | [], characters => some characters
  | _, [] => none
  | expected :: word, character :: rest =>
      if expected = character then readWord? word rest else none

/-- Words that stand for a value. -/
def words : List (List Char × Json) :=
  [("null".toList, null), ("true".toList, bool true), ("false".toList, bool false),
   ("NaN".toList, real "NaN"), ("Infinity".toList, real "Infinity"),
   ("-Infinity".toList, real "-Infinity")]

/-- A word or a number at the front of a text, and what is left. -/
def readPlain (characters : List Char) : Except ReadFault (Json × List Char) :=
  match words.findSome? fun word =>
      (readWord? word.1 characters).map fun rest => (word.2, rest) with
  | some found => .ok found
  | none =>
      match characters with
      | '-' :: rest => readMagnitude true rest
      | _ => readMagnitude false characters

/-- A character that can stand in a word or in a number. -/
def isPlain (character : Char) : Bool :=
  character.isAlphanum || ['+', '-', '.'].contains character

/-- The characters of words and numbers at the front of a document. -/
def plainRun : List Text.Element → List Char
  | .character value :: rest =>
      if isPlain value then value :: plainRun rest else []
  | _ => []

/-- The value that a word or a number at the front of a document stands for, and
what is left. -/
def readScalar
    (document : List Text.Element) :
    Except ReadFault (Json × List Text.Element) := do
  let run := plainRun document
  let (value, rest) ← readPlain run
  return (value, document.drop (run.length - rest.length))

/-! ## Values -/

mutual

/-- The value at the front of a document, and what is left.  The first argument
bounds the number of steps, of which each element takes two at most.  The second
tells how much deeper arrays and objects may be nested. -/
def readValue :
    Nat → Nat → List Text.Element → Except ReadFault (Json × List Text.Element)
  | 0, _, _ => .error .malformed
  | bound + 1, depth, document =>
      match document with
      | .character '"' :: rest => do
          let (elements, rest) ← readText rest
          return (ofElements elements, rest)
      | .character '[' :: rest =>
          match depth, skipBlanks rest with
          | 0, _ => .error .tooDeep
          | _, .character ']' :: rest => .ok (array [], rest)
          | depth + 1, rest => do
              let (items, rest) ← readItems bound depth rest
              return (array items, rest)
      | .character '\x7b' :: rest =>
          match depth, skipBlanks rest with
          | 0, _ => .error .tooDeep
          | _, .character '\x7d' :: rest => .ok (object [], rest)
          | depth + 1, rest => do
              let (members, rest) ← readMembers bound depth rest
              return (ofMembers members, rest)
      | _ => readScalar document

/-- The items of an array up to its closing bracket, and what is left. -/
def readItems :
    Nat → Nat → List Text.Element → Except ReadFault (List Json × List Text.Element)
  | 0, _, _ => .error .malformed
  | bound + 1, depth, document => do
      let (item, rest) ← readValue bound depth document
      match skipBlanks rest with
      | .character ',' :: rest => do
          let (items, rest) ← readItems bound depth (skipBlanks rest)
          return (item :: items, rest)
      | .character ']' :: rest => return ([item], rest)
      | _ => .error .malformed

/-- The members of an object up to its closing brace, and what is left. -/
def readMembers :
    Nat → Nat → List Text.Element →
      Except ReadFault (List (List Text.Element × Json) × List Text.Element)
  | 0, _, _ => .error .malformed
  | bound + 1, depth, document =>
      match document with
      | .character '"' :: rest => do
          let (name, rest) ← readText rest
          match skipBlanks rest with
          | .character ':' :: rest => do
              let (value, rest) ← readValue bound depth (skipBlanks rest)
              match skipBlanks rest with
              | .character ',' :: rest => do
                  let (members, rest) ← readMembers bound depth (skipBlanks rest)
                  return ((name, value) :: members, rest)
              | .character '\x7d' :: rest => return ([(name, value)], rest)
              | _ => .error .malformed
          | _ => .error .malformed
      | _ => .error .malformed

end

/-- The value of a whole document in which arrays and objects are nested at most so
deeply. -/
def read (room : Nat) (document : List Text.Element) : Except ReadFault Json := do
  let (value, rest) ← readValue (2 * document.length + 1) room (skipBlanks document)
  if skipBlanks rest = [] then return value else .error .malformed

end Json
end Tabletop
