import Tabletop.Text.Blank

/-!
# Environment files

An environment file has one binding a line: a name, perhaps after the word
`export`, an equals sign, and a value that may be quoted.  Comments begin with a
number sign.  A name without an equals sign is bound to nothing.  A line that is no
binding is skipped.  Values may refer to the environment and to earlier bindings.
-/

namespace Tabletop
namespace EnvironmentFile

/-- A text with every line ending written as a line feed. -/
def unifyLines : List Char → List Char
  | '\r' :: '\n' :: rest => '\n' :: unifyLines rest
  | '\r' :: rest => '\n' :: unifyLines rest
  | character :: rest => character :: unifyLines rest
  | [] => []

/-- Blanks that do not end a line. -/
def isInnerBlank (character : Char) : Bool :=
  Text.isTrimmed character && character != '\n' && character != '\r'

/-- A text without the inner blanks at its front. -/
def skipInner (characters : List Char) : List Char :=
  characters.dropWhile isInnerBlank

/-- A text without its first line. -/
def skipLine (characters : List Char) : List Char :=
  (characters.dropWhile (· != '\n')).drop 1

/-! ## Quoted values -/

/-- The position of the closing mark of a quoted value: the first mark that no
backslash takes away.  A backslash takes the character after it away. -/
def closingMark? (mark : Char) (position : Nat) : List Char → Option Nat
  | [] => none
  | '\\' :: rest =>
      match rest with
      | [] => none
      | _ :: later => closingMark? mark (position + 2) later
  | character :: rest =>
      if character = mark then some position
      else closingMark? mark (position + 1) rest

/-- The value after an opening mark, and what follows its closing mark. -/
def quotedValue? (mark : Char) (characters : List Char) :
    Option (List Char × List Char) :=
  (closingMark? mark 0 characters).map fun position =>
    (characters.take position, characters.drop (position + 1))

/-- What a character after a backslash stands for in double quotes. -/
def doubleEscapes : List (Char × Char) :=
  [('\\', '\\'), ('\'', '\''), ('"', '"'), ('a', '\x07'), ('b', '\x08'),
   ('f', '\x0C'), ('n', '\n'), ('r', '\r'), ('t', '\t'), ('v', '\x0B')]

/-- What a character after a backslash stands for in single quotes. -/
def singleEscapes : List (Char × Char) :=
  [('\\', '\\'), ('\'', '\'')]

/-- A quoted value with its escapes replaced; other backslashes stay. -/
def unescape (escapes : List (Char × Char)) : List Char → List Char
  | '\\' :: character :: rest =>
      match escapes.lookup character with
      | some meaning => meaning :: unescape escapes rest
      | none => '\\' :: unescape escapes (character :: rest)
  | character :: rest => character :: unescape escapes rest
  | [] => []

/-! ## Bindings -/

/-- The part of a value before a comment, which a blank and a number sign
begin. -/
def beforeComment : List Char → List Char
  | blank :: '#' :: rest =>
      if Text.isTrimmed blank then [] else blank :: beforeComment ('#' :: rest)
  | character :: rest => character :: beforeComment rest
  | [] => []

/-- A value that is not quoted, at the front of a text, and what is left. -/
def readBare (characters : List Char) : List Char × List Char :=
  let line := characters.takeWhile (· != '\n')
  (Text.dropBoth Text.isTrimmed (beforeComment line),
    characters.dropWhile (· != '\n'))

/-- A value at the front of a text after an equals sign, and what is left; nothing
if a quoted value does not end. -/
def readValue? (characters : List Char) : Option (List Char × List Char) :=
  match skipInner characters with
  | '\'' :: rest =>
      (quotedValue? '\'' rest).map fun found =>
        (unescape singleEscapes found.1, found.2)
  | '"' :: rest =>
      (quotedValue? '"' rest).map fun found =>
        (unescape doubleEscapes found.1, found.2)
  | _ => some (readBare characters)

/-- A name at the front of a text, and what is left: no name before a comment,
and a fault if there is neither. -/
def readName? (characters : List Char) : Option (Option (List Char) × List Char) :=
  match characters with
  | '#' :: _ => some (none, characters)
  | '\'' :: rest =>
      let name := rest.takeWhile (· != '\'')
      match rest.dropWhile (· != '\'') with
      | _ :: after => if name = [] then none else some (some name, after)
      | [] => none
  | _ =>
      let isNamePart := fun character =>
        character != '=' && character != '#' && !Text.isTrimmed character
      let name := characters.takeWhile isNamePart
      if name = [] then none
      else some (some name, characters.dropWhile isNamePart)

/-- A text without the word `export` at its front, if blanks follow the word. -/
def skipExport (characters : List Char) : List Char :=
  match characters with
  | 'e' :: 'x' :: 'p' :: 'o' :: 'r' :: 't' :: rest =>
      if (rest.head?.map isInnerBlank).getD false then skipInner rest
      else characters
  | _ => characters

/-- A text without a comment at its front. -/
def skipComment (characters : List Char) : List Char :=
  match skipInner characters with
  | '#' :: rest => rest.dropWhile (· != '\n')
  | _ => characters

/-- A text without the end of a line at its front; nothing if the line goes on. -/
def skipLineEnd? (characters : List Char) : Option (List Char) :=
  match skipInner characters with
  | [] => some []
  | '\n' :: rest => some rest
  | _ => none

/-- A name and its value, which it may lack. -/
abbrev Binding := List Char × Option (List Char)

/-- The binding at the front of a text, if there is one, and what is left. -/
def readBinding (characters : List Char) : Option Binding × List Char :=
  let line := skipExport (characters.dropWhile Text.isTrimmed)
  match readName? line with
  | none => (none, skipLine line)
  | some (name, afterName) =>
      let read :=
        match skipInner afterName with
        | '=' :: rest =>
            match readValue? rest with
            | some (value, after) => (some (some value), after)
            | none => (none, rest)
        | after => (some none, after)
      match read with
      | (none, after) => (none, skipLine after)
      | (some value, after) =>
          match skipLineEnd? (skipComment after) with
          | some rest => (name.map fun name => (name, value), rest)
          | none => (none, skipLine (skipComment after))

/-- The bindings of a text, read until nothing is left or the steps run out. -/
def readBindings : Nat → List Char → List Binding
  | 0, _ => []
  | steps + 1, characters =>
      if characters = [] then []
      else
        let (binding, rest) := readBinding characters
        binding.toList ++ readBindings steps rest

/-! ## References -/

/-- A reference at the front of a text after its opening brace: the name, what
stands for it if it is unbound, and what is left. -/
def readReference? (characters : List Char) :
    Option (List Char × List Char × List Char) :=
  let isNamePart := fun character => character != '\x7d' && character != ':'
  let name := characters.takeWhile isNamePart
  match characters.dropWhile isNamePart with
  | '\x7d' :: rest => some (name, [], rest)
  | ':' :: '-' :: rest =>
      match rest.dropWhile (· != '\x7d') with
      | _ :: after => some (name, rest.takeWhile (· != '\x7d'), after)
      | [] => none
  | _ => none

/-- A value with its references replaced by what a look-up gives, read until
nothing is left or the steps run out. -/
def expand
    (lookup : List Char → List Char → List Char) :
    Nat → List Char → List Char
  | 0, characters => characters
  | _ + 1, [] => []
  | steps + 1, '$' :: '\x7b' :: rest =>
      match readReference? rest with
      | some (name, standard, after) =>
          lookup name standard ++ expand lookup steps after
      | none => '$' :: expand lookup steps ('\x7b' :: rest)
  | steps + 1, character :: rest => character :: expand lookup steps rest

/-- A name bound to a value, or to nothing, in a list; a name that is bound
already keeps its place. -/
def bind
    (name : String)
    (value : Option String) :
    List (String × Option String) → List (String × Option String)
  | [] => [(name, value)]
  | entry :: entries =>
      if entry.1 = name then (name, value) :: entries
      else entry :: bind name value entries

/-- What a name stands for: an earlier binding, else the environment, else the
standard value; a name bound to nothing stands for nothing. -/
def lookup
    (environment : List (String × String))
    (bound : List (String × Option String))
    (name standard : List Char) : List Char :=
  match bound.lookup (String.ofList name) with
  | some (some value) => value.toList
  | some none => []
  | none =>
      match environment.reverse.lookup (String.ofList name) with
      | some value => value.toList
      | none => standard

/-- The names bound by a file, each with its value after all replacements. -/
def read
    (environment : List (String × String))
    (file : String) : List (String × Option String) :=
  let characters := unifyLines (Text.dropMark file.toList)
  let bindings := readBindings (characters.length + 1) characters
  bindings.foldl (fun bound binding =>
    let value := binding.2.map fun value =>
      String.ofList (expand (lookup environment bound) (value.length + 1) value)
    bind (String.ofList binding.1) value bound) []

end EnvironmentFile
end Tabletop
