import Tabletop.Notation.Clause
import Tabletop.Text.Blank

/-!
# Dice notation

A notation is a number of dice, the letter `d`, the sides of each die or `%`, and
any number of selection clauses, with blanks tolerated around the whole.  It is
read into its parts, each as written; the pool that the parts stand for is a
separate step, because numerals within the grammar may be too long to convert.
Of several selection clauses the last one counts, and only its numeral is ever
converted.
-/

namespace Tabletop

/-- The parts of a notation, each as written. -/
structure Notation where
  /-- Blanks before the notation. -/
  leading : List Char
  /-- The numeral for the number of dice, empty if there is none. -/
  count : List Char
  /-- The letter between count and sides. -/
  letter : Char
  /-- The numeral for the sides, or the percent sign. -/
  sides : List Char
  /-- The selection clauses in order. -/
  clauses : List Clause
  /-- Blanks after the notation. -/
  trailing : List Char
  deriving DecidableEq

namespace Notation

/-- The characters of a notation after its sides. -/
def tail (parts : Notation) : List Char :=
  parts.clauses.flatMap Clause.flatten ++ parts.trailing

/-- The characters of a notation. -/
def flatten (parts : Notation) : List Char :=
  parts.leading ++ parts.count ++ parts.letter :: parts.sides ++ parts.tail

/-- The sides at the front of a text, and what is left: a percent sign or a
numeral other than 1. -/
def readSides? : List Char → Option (List Char × List Char)
  | '%' :: rest => some (['%'], rest)
  | characters =>
      let split := Numeral.split characters
      if split.1 = [] ∨ split.1 = ['1'] then none else some split

/-- The parts of a text that is a notation. -/
def read? (characters : List Char) : Option Notation :=
  let leading := characters.takeWhile Text.isTolerated
  let count := Numeral.split (characters.dropWhile Text.isTolerated)
  match count.2 with
  | [] => none
  | letter :: afterLetter =>
      if letter = 'd' ∨ letter = 'D' then
        match readSides? afterLetter with
        | none => none
        | some (sides, afterSides) =>
            let clauses := Clause.readAll afterSides
            if clauses.2.all Text.isTolerated then
              some {
                leading
                count := count.1
                letter
                sides
                clauses := clauses.1
                trailing := clauses.2 }
            else none
      else none

/-- The selection that the clauses stand for: that of the last clause found after
the sides. -/
def selection (parts : Notation) : Except Fault (Option Selection) :=
  match (Clause.scan parts.tail).getLast? with
  | none => .ok none
  | some clause => do return some (← clause.selection)

/-- The pool that a notation stands for: one die unless a number is written, and
a hundred sides for the percent sign. -/
def pool (parts : Notation) : Except Fault Pool := do
  let count ← if parts.count = [] then pure 1 else Numeral.read parts.count
  let sides ← if parts.sides = ['%'] then pure 100 else Numeral.read parts.sides
  let selection ← parts.selection
  Pool.build count sides selection

/-- Whether a text is a notation, whatever the length of its numerals. -/
def isValid (text : String) : Bool :=
  (read? text.toList).isSome

/-- The pool that a text stands for. -/
def parse (text : String) : Except Fault Pool :=
  match read? text.toList with
  | none => .error (.badNotation text)
  | some parts => parts.pool

end Notation
end Tabletop
