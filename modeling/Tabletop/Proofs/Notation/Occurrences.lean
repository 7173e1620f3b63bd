import Tabletop.Proofs.Notation.Reading

/-!
# Where clauses occur in a text

Looking for clauses from left to right finds each of them at a place of the text.  In a
notation, looking from the end of the sides finds the clauses of the notation and nothing else:
the first one where the sides end, every other one where the one before it ends, and the last
one reaches to the blanks at the end.
-/

namespace Tabletop
namespace Clause

/-! ## Occurrences -/

/-- A clause at a place of a text. -/
structure Occurrence where
  /-- The number of characters before the clause. -/
  start : Nat
  /-- The clause that begins there. -/
  clause : Clause

/-- The number of characters up to the end of an occurrence. -/
def Occurrence.stop (occurrence : Occurrence) : Nat :=
  occurrence.start + occurrence.clause.flatten.length

/-- A clause of the grammar occurs in a text, with all the digits that stand after its
letters. -/
structure Occurrence.IsIn (occurrence : Occurrence) (characters : List Char) : Prop where
  /-- The clause is one of the grammar. -/
  grammatical : occurrence.clause.Grammatical
  /-- The characters of the clause stand at its place. -/
  stands :
    (characters.drop occurrence.start).take occurrence.clause.flatten.length =
      occurrence.clause.flatten
  /-- Its numeral is the whole run of digits after the two letters. -/
  numeral :
    (characters.drop (occurrence.start + 2)).takeWhile Char.isDigit = occurrence.clause.digits

/-- The clauses that are found in a text from left to right, skipping one character wherever
none begins, each with its place if so many characters stand before the text. -/
def occurrences (before : Nat) (characters : List Char) : List Occurrence :=
  match _found : read? characters with
  | some (clause, rest) =>
      { start := before, clause } :: occurrences (before + clause.flatten.length) rest
  | none =>
      match characters with
      | [] => []
      | _ :: rest => occurrences (before + 1) rest
termination_by characters.length
decreasing_by
  · exact length_lt_of_read? _found
  · simp

theorem occurrences_of_some
    {characters rest : List Char}
    {clause : Clause}
    (found : read? characters = some (clause, rest))
    (before : Nat) :
    occurrences before characters =
      { start := before, clause } :: occurrences (before + clause.flatten.length) rest := by
  rw [occurrences]
  split
  · simp_all
  · simp_all

theorem occurrences_cons_of_none
    {first : Char}
    {rest : List Char}
    (nothing : read? (first :: rest) = none)
    (before : Nat) :
    occurrences before (first :: rest) = occurrences (before + 1) rest := by
  rw [occurrences]
  split
  · simp_all
  · rfl

/-- The clauses that occur are those that a scan finds. -/
theorem map_clause_occurrences (before : Nat) (characters : List Char) :
    (occurrences before characters).map Occurrence.clause = scan characters := by
  induction characters using scan.induct generalizing before with
  | case1 characters clause rest found inductionHypothesis =>
      rw [occurrences_of_some found, scan_of_some found, List.map_cons, inductionHypothesis]
  | case2 nothing =>
      rw [occurrences, scan]
      rfl
  | case3 first rest nothing inductionHypothesis =>
      rw [occurrences_cons_of_none nothing, scan_cons_of_none nothing, inductionHypothesis]

/-! ## Clauses in a row -/

/-- Clauses directly after one another, each with its place if so many characters stand before
the first. -/
def inRow (before : Nat) : List Clause → List Occurrence
  | [] => []
  | clause :: clauses =>
      { start := before, clause } :: inRow (before + clause.flatten.length) clauses

/-- Occurrences fill a text from one place to another: each begins where the one before it
ends. -/
inductive Fill (stop : Nat) : Nat → List Occurrence → Prop
  | none : Fill stop stop []
  | next (occurrence : Occurrence) {found : List Occurrence} :
      Fill stop occurrence.stop found → Fill stop occurrence.start (occurrence :: found)

theorem map_clause_inRow (before : Nat) (clauses : List Clause) :
    (inRow before clauses).map Occurrence.clause = clauses := by
  induction clauses generalizing before with
  | nil => rfl
  | cons clause others inductionHypothesis =>
      rw [inRow, List.map_cons, inductionHypothesis]

theorem fill_inRow (before : Nat) (clauses : List Clause) :
    Fill (before + (clauses.flatMap flatten).length) before (inRow before clauses) := by
  induction clauses generalizing before with
  | nil => exact .none
  | cons clause others inductionHypothesis =>
      have rest := inductionHypothesis (before + clause.flatten.length)
      rw [Nat.add_assoc, ← List.length_append, ← List.flatMap_cons] at rest
      exact .next { start := before, clause } rest

/-- Clauses and then blanks are found in a row. -/
theorem occurrences_flatMap_append
    {clauses : List Clause}
    {trailing : List Char}
    (grammatical : ∀ clause ∈ clauses, clause.Grammatical)
    (blank : ∀ character ∈ trailing, Text.isTolerated character = true)
    (before : Nat) :
    occurrences before (clauses.flatMap flatten ++ trailing) = inRow before clauses := by
  induction clauses generalizing before with
  | nil =>
      rw [List.flatMap_nil, List.nil_append, inRow, ← List.map_eq_nil_iff,
        map_clause_occurrences, scan_of_blank blank]
  | cons clause others inductionHypothesis =>
      obtain ⟨own, later⟩ := List.forall_mem_cons.mp grammatical
      have found := read?_flatten_append own (beginsOutside_isDigit_flatMap_append later blank)
      rw [List.flatMap_cons, List.append_assoc, occurrences_of_some found, inRow,
        inductionHypothesis later]

theorem Grammatical.isDigit_of_mem
    {clause : Clause}
    (grammatical : clause.Grammatical) :
    ∀ digit ∈ clause.digits, digit.isDigit = true := by
  intro digit member
  rcases grammatical.digits with none | proper
  · rw [none] at member
    contradiction
  · exact (Numeral.isDigit_iff digit).mpr (proper.isDigit_of_mem digit member)

/-- A clause occurs where it stands, if no digit follows it. -/
theorem isIn_append
    {clause : Clause}
    {rest : List Char}
    (grammatical : clause.Grammatical)
    (boundary : Text.BeginsOutside Char.isDigit rest)
    (leading : List Char) :
    Occurrence.IsIn { start := leading.length, clause } (leading ++ (clause.flatten ++ rest)) where
  grammatical := grammatical
  stands := by rw [List.drop_left, List.take_left]
  numeral := by
    rw [← List.drop_drop, List.drop_left]
    exact Text.takeWhile_append_of_beginsOutside grammatical.isDigit_of_mem boundary

/-- Clauses in a row occur in the text that they stand in. -/
theorem isIn_of_mem_inRow
    {clauses : List Clause}
    {trailing : List Char}
    (grammatical : ∀ clause ∈ clauses, clause.Grammatical)
    (blank : ∀ character ∈ trailing, Text.isTolerated character = true)
    (leading : List Char) :
    ∀ occurrence ∈ inRow leading.length clauses,
      occurrence.IsIn (leading ++ (clauses.flatMap flatten ++ trailing)) := by
  induction clauses generalizing leading with
  | nil => exact List.forall_mem_nil _
  | cons clause others inductionHypothesis =>
      obtain ⟨own, later⟩ := List.forall_mem_cons.mp grammatical
      have rest := inductionHypothesis later (leading ++ clause.flatten)
      rw [List.length_append, List.append_assoc] at rest
      rw [List.flatMap_cons, List.append_assoc, inRow, List.forall_mem_cons]
      exact ⟨isIn_append own (beginsOutside_isDigit_flatMap_append later blank) leading, rest⟩

end Clause

namespace Notation

/-! ## Clauses of a notation -/

/-- The characters of a notation up to the end of its sides. -/
def head (parts : Notation) : List Char :=
  parts.leading ++ parts.count ++ parts.letter :: parts.sides

/-- A text of the grammar is its head, its clauses and the blanks at its end. -/
theorem Divides.toList_eq
    {parts : Notation}
    {text : String}
    (divides : parts.Divides text) :
    text.toList = parts.head ++ (parts.clauses.flatMap Clause.flatten ++ parts.trailing) := by
  rw [← divides.whole]
  simp [flatten, head, tail]

/-- What is found in a text of the grammar from the end of its sides on is what reading the
text finds: the clauses, in their order and without a gap.  The first begins where the sides
end, the last ends where the blanks at the end begin, each has all the digits that stand after
its letters, and nothing is found among the blanks.  So the clause found last is the last
clause, the one whose selection counts. -/
theorem occurrences_of_divides
    {parts : Notation}
    {text : String}
    (divides : parts.Divides text) :
    let characters := text.toList
    let start := parts.head.length
    let stop := characters.length - parts.trailing.length
    let found := Clause.occurrences start (characters.drop start)
    (read? characters = some parts ∧ characters.take start = parts.head ∧
      characters.drop stop = parts.trailing) ∧
    (found.map Clause.Occurrence.clause = Clause.scan (characters.drop start) ∧
      found.map Clause.Occurrence.clause = parts.clauses) ∧
    Clause.Fill stop start found ∧
    (∀ occurrence ∈ found, occurrence.IsIn characters) ∧
    Clause.occurrences stop (characters.drop stop) = [] ∧
    found.getLast?.map Clause.Occurrence.clause = parts.clauses.getLast? := by
  intro characters start stop found
  have whole : characters = _ := divides.toList_eq
  have clauses := divides.grammatical.clauses
  have blank : ∀ character ∈ parts.trailing, Text.isTolerated character = true :=
    fun character member =>
      (Text.isTolerated_iff character).mpr (divides.grammatical.trailing character member)
  have stops : stop = start + (parts.clauses.flatMap Clause.flatten).length := by
    have length := congrArg List.length whole
    rw [List.length_append, List.length_append] at length
    omega
  have after : characters.drop stop = parts.trailing := by
    rw [stops, whole, ← List.drop_drop, List.drop_left, List.drop_left]
  have row : found = Clause.inRow start parts.clauses := by
    change Clause.occurrences start (characters.drop start) = _
    rw [whole, List.drop_left]
    exact Clause.occurrences_flatMap_append clauses blank start
  have named : found.map Clause.Occurrence.clause = parts.clauses := by
    rw [row, Clause.map_clause_inRow]
  refine ⟨⟨?read, ?head, after⟩, ⟨Clause.map_clause_occurrences _ _, named⟩, ?fill, ?isIn, ?none,
    ?last⟩
  case read => exact read?_eq_some_iff.mpr ⟨divides.grammatical, divides.whole⟩
  case head => rw [whole, List.take_left]
  case fill =>
    rw [row, stops]
    exact Clause.fill_inRow start parts.clauses
  case isIn =>
    rw [row, whole]
    exact Clause.isIn_of_mem_inRow clauses blank parts.head
  case none =>
    rw [after, ← List.map_eq_nil_iff, Clause.map_clause_occurrences]
    exact Clause.scan_of_blank blank
  case last => rw [← List.getLast?_map, named]

/-- Three clauses, of which the first begins with the letter that stands before the sides as
well, fill the nine characters between the sides and the blank. -/
theorem occurrences_of_divides_threeClauses :
    let first : Clause := { modeLetter := 'd', edgeLetter := 'l', digits := [] }
    let second : Clause := { modeLetter := '-', edgeLetter := 'H', digits := ['2'] }
    let third : Clause := { modeLetter := 'k', edgeLetter := 'h', digits := ['1', '0'] }
    let parts : Notation :=
      { leading := ['\u00a0'], count := ['4'], letter := 'd', sides := ['6'],
        clauses := [first, second, third], trailing := ['\t'] }
    let characters := "\u00a04d6dl-H2kh10\t".toList
    let found := Clause.occurrences 4 (characters.drop 4)
    parts.Divides "\u00a04d6dl-H2kh10\t" ∧
      found.map Clause.Occurrence.clause = [first, second, third] ∧
        Clause.Fill 13 4 found ∧ Clause.occurrences 13 (characters.drop 13) = [] ∧
          found.getLast?.map Clause.Occurrence.clause = some third := by
  intro first second third parts characters found
  have read : read? characters = some parts := by decide +kernel
  obtain ⟨grammatical, whole⟩ := read?_eq_some_iff.mp read
  have divides : parts.Divides "\u00a04d6dl-H2kh10\t" := { grammatical, whole }
  obtain ⟨-, ⟨-, named⟩, fill, -, none, last⟩ := occurrences_of_divides divides
  exact ⟨divides, named, fill, none, last⟩

end Notation
end Tabletop
