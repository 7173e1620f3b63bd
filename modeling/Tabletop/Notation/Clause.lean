import Tabletop.Pool

/-!
# Selection clauses

A clause is a mode letter, an edge letter and perhaps a numeral without leading
zeros.  A clause is read at the front of a text, or looked for from left to right
in a text that may hold other characters as well.
-/

namespace Tabletop

/-- A digit that may begin a numeral. -/
def Numeral.isLeading (character : Char) : Bool :=
  character.isDigit && character != '0'

/-- A maximal numeral at the front of a text, and what is left; empty if the
text begins otherwise. -/
def Numeral.split : List Char → List Char × List Char
  | [] => ([], [])
  | character :: rest =>
      if isLeading character then
        (character :: rest.takeWhile Char.isDigit, rest.dropWhile Char.isDigit)
      else ([], character :: rest)

/-- Splitting off a numeral loses nothing. -/
theorem Numeral.split_append (characters : List Char) :
    (split characters).1 ++ (split characters).2 = characters := by
  cases characters with
  | nil => rfl
  | cons character rest =>
      by_cases leading : isLeading character <;> simp [split, leading]

/-- A selection clause as written. -/
structure Clause where
  /-- The letter for the mode. -/
  modeLetter : Char
  /-- The letter for the edge. -/
  edgeLetter : Char
  /-- The numeral of the clause, empty if it has none. -/
  digits : List Char
  deriving DecidableEq

namespace Clause

/-- Letters that say what happens to the selected dice. -/
def isModeLetter (character : Char) : Bool :=
  ['-', 'd', 'D', 'k', 'K'].contains character

/-- Letters that name an end of the sorted values. -/
def isEdgeLetter (character : Char) : Bool :=
  ['l', 'L', 'h', 'H'].contains character

/-- The characters of a clause. -/
def flatten (clause : Clause) : List Char :=
  clause.modeLetter :: clause.edgeLetter :: clause.digits

/-- A clause at the front of a text, and what is left of the text. -/
def read? : List Char → Option (Clause × List Char)
  | modeLetter :: edgeLetter :: rest =>
      if isModeLetter modeLetter && isEdgeLetter edgeLetter then
        let split := Numeral.split rest
        some (⟨modeLetter, edgeLetter, split.1⟩, split.2)
      else none
  | _ => none

/-- A clause and what is left make up the text it was read from. -/
theorem flatten_append_of_read?
    {characters rest : List Char}
    {clause : Clause}
    (found : read? characters = some (clause, rest)) :
    clause.flatten ++ rest = characters := by
  unfold read? at found
  split at found
  · split at found
    · simp only [Option.some.injEq, Prod.mk.injEq] at found
      obtain ⟨rfl, rfl⟩ := found
      simp [flatten, Numeral.split_append]
    · contradiction
  · contradiction

/-- Reading a clause shortens the text. -/
theorem length_lt_of_read?
    {characters rest : List Char}
    {clause : Clause}
    (found : read? characters = some (clause, rest)) :
    rest.length < characters.length := by
  rw [← flatten_append_of_read? found]
  simp only [flatten, List.cons_append, List.length_cons, List.length_append]
  omega

/-- The clauses at the front of a text, one directly after the other, and what is
left after the last. -/
def readAll (characters : List Char) : List Clause × List Char :=
  match _found : read? characters with
  | none => ([], characters)
  | some (clause, rest) =>
      let later := readAll rest
      (clause :: later.1, later.2)
termination_by characters.length
decreasing_by exact length_lt_of_read? _found

/-- The clauses found in a text from left to right, skipping one character
wherever none begins. -/
def scan (characters : List Char) : List Clause :=
  match _found : read? characters with
  | some (clause, rest) => clause :: scan rest
  | none =>
      match characters with
      | [] => []
      | _ :: rest => scan rest
termination_by characters.length
decreasing_by
  · exact length_lt_of_read? _found
  · simp

/-- The mode that the mode letter stands for. -/
def mode (clause : Clause) : Mode :=
  if ['-', 'd', 'D'].contains clause.modeLetter then .drop else .keep

/-- The edge that the edge letter stands for. -/
def edge (clause : Clause) : Edge :=
  if ['l', 'L'].contains clause.edgeLetter then .lowest else .highest

/-- The selection that a clause stands for; without a numeral it selects one
die. -/
def selection (clause : Clause) : Except Fault Selection := do
  let count ← if clause.digits = [] then pure 1 else Numeral.read clause.digits
  Selection.build clause.mode clause.edge count

end Clause
end Tabletop
