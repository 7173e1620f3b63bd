import Mathlib.Data.Set.Subsingleton
import Tabletop.Proofs.Notation.Grammar

/-!
# Reading notations

Reading finds the parts of exactly the texts of the grammar.  So a text can be
divided in one way only, and the pool that is read is the one that the parts denote.
-/

namespace Tabletop
namespace Notation

/-! ## Completeness -/

/-- Sides of the grammar are read whole where no digit follows them. -/
theorem readSides?_append
    {sides rest : List Char}
    (grammatical : IsSides sides)
    (boundary : Text.BeginsOutside Char.isDigit rest) :
    readSides? (sides ++ rest) = some (sides, rest) := by
  rcases grammatical.eq_percent_or_isProper with rfl | ⟨proper, different⟩
  · rfl
  · have split := Numeral.split_append_of_isProper proper boundary
    cases sides with
    | nil => exact False.elim proper
    | cons first others =>
        have notPercent : first ≠ '%' := by
          rintro rfl
          exact absurd proper.1.1 (by decide)
        rw [List.cons_append] at split ⊢
        rw [readSides?]
        · simp [split, different]
        · simpa using notPercent

/-- What stands before the clauses begins outside the blanks. -/
theorem beginsOutside_isTolerated_count_append
    {count rest : List Char}
    {letter : Char}
    (numeral : count = [] ∨ Numeral.IsProper count)
    (isLetter : letter = 'd' ∨ letter = 'D') :
    Text.BeginsOutside Text.isTolerated (count ++ letter :: rest) := by
  rcases numeral with rfl | proper
  · refine Text.beginsOutside_cons rest ?_
    rcases isLetter with rfl | rfl <;> decide
  · cases count with
    | nil => exact False.elim proper
    | cons first others =>
        exact Text.beginsOutside_cons _
          (Text.isTolerated_eq_false_of_isDigit proper.1.isDigit)

/-- The parts of a notation in the order they are read. -/
theorem flatten_eq (parts : Notation) :
    parts.flatten =
      parts.leading ++ (parts.count ++ parts.letter :: (parts.sides ++ parts.tail)) := by
  simp [flatten]

/-- Every text of the grammar is read as its own parts. -/
theorem read?_flatten
    {parts : Notation}
    (grammatical : parts.Grammatical) :
    read? parts.flatten = some parts := by
  have afterBlanks : Text.BeginsOutside Text.isTolerated
      (parts.count ++ parts.letter :: (parts.sides ++ parts.tail)) :=
    beginsOutside_isTolerated_count_append grammatical.count grammatical.letter
  have tolerated := List.all_eq_true.mp
    ((Text.all_isTolerated_iff parts.leading).mpr grammatical.leading)
  have blank := (Text.all_isTolerated_iff parts.trailing).mpr grammatical.trailing
  have trailing := List.all_eq_true.mp blank
  have leading : (parts.flatten).takeWhile Text.isTolerated = parts.leading := by
    rw [flatten_eq]
    exact Text.takeWhile_append_of_beginsOutside tolerated afterBlanks
  have afterLeading : (parts.flatten).dropWhile Text.isTolerated =
      parts.count ++ parts.letter :: (parts.sides ++ parts.tail) := by
    rw [flatten_eq]
    exact Text.dropWhile_append_of_beginsOutside tolerated afterBlanks
  have letterNoDigit : parts.letter.isDigit = false := by
    rcases grammatical.letter with isLetter | isLetter <;> rw [isLetter] <;> decide
  have count : Numeral.split (parts.count ++ parts.letter :: (parts.sides ++ parts.tail)) =
      (parts.count, parts.letter :: (parts.sides ++ parts.tail)) :=
    Numeral.split_append_of_eq_nil_or_isProper grammatical.count
      (Text.beginsOutside_cons _ letterNoDigit)
  have sides : readSides? (parts.sides ++ parts.tail) = some (parts.sides, parts.tail) :=
    readSides?_append grammatical.sides
      (Clause.beginsOutside_isDigit_flatMap_append grammatical.clauses trailing)
  have clauses : Clause.readAll parts.tail = (parts.clauses, parts.trailing) :=
    Clause.readAll_flatMap_append grammatical.clauses trailing
  simp only [read?, leading, afterLeading, count, grammatical.letter, sides, clauses,
    blank, if_true]

/-! ## Soundness -/

/-- Sides that are read are those of the grammar, and nothing is lost. -/
theorem readSides?_sound
    {characters sides rest : List Char}
    (found : readSides? characters = some (sides, rest)) :
    IsSides sides ∧ sides ++ rest = characters := by
  unfold readSides? at found
  dsimp only at found
  split at found
  · simp only [Option.some.injEq, Prod.mk.injEq] at found
    obtain ⟨rfl, rfl⟩ := found
    exact ⟨.percent, rfl⟩
  · split at found
    · contradiction
    · rename_i accepted
      rw [not_or] at accepted
      have proper := (Numeral.split_fst_eq_nil_or_isProper characters).resolve_left
        accepted.1
      have whole := Numeral.split_append characters
      rw [Option.some.inj found] at proper accepted whole
      exact ⟨isSides_of_isProper proper accepted.2, whole⟩

/-- What is read makes up the text, and its parts are those of the grammar. -/
theorem read?_sound
    {characters : List Char}
    {parts : Notation}
    (found : read? characters = some parts) :
    parts.Grammatical ∧ parts.flatten = characters := by
  unfold read? at found
  dsimp only at found
  have count := Numeral.split_fst_eq_nil_or_isProper
    (characters.dropWhile Text.isTolerated)
  have countWhole := Numeral.split_append (characters.dropWhile Text.isTolerated)
  split at found
  · contradiction
  · rename_i letter afterLetter rest
    split at found
    · rename_i isLetter
      split at found
      · contradiction
      · rename_i sides afterSides sidesFound
        split at found
        · rename_i blank
          obtain ⟨sidesGrammatical, sidesWhole⟩ := readSides?_sound sidesFound
          obtain ⟨clauses, clausesWhole⟩ := Clause.readAll_sound afterSides
          obtain rfl := Option.some.inj found
          constructor
          · exact {
              leading := (Text.all_isTolerated_iff _).mp List.all_takeWhile
              count
              letter := isLetter
              sides := sidesGrammatical
              clauses
              trailing := (Text.all_isTolerated_iff _).mp blank }
          · rw [flatten_eq, tail, clausesWhole, sidesWhole, ← rest, countWhole]
            exact List.takeWhile_append_dropWhile
        · contradiction
    · contradiction

/-- Reading finds exactly the parts of the grammar that make up the text. -/
theorem read?_eq_some_iff
    {characters : List Char}
    {parts : Notation} :
    read? characters = some parts ↔
      parts.Grammatical ∧ parts.flatten = characters := by
  constructor
  · exact read?_sound
  · rintro ⟨grammatical, rfl⟩
    exact read?_flatten grammatical

/-- A text can be divided in one way at most. -/
theorem Divides.unique
    {first second : Notation}
    {text : String}
    (firstDivides : first.Divides text)
    (secondDivides : second.Divides text) :
    first = second := by
  have firstRead := read?_eq_some_iff.mpr
    ⟨firstDivides.grammatical, firstDivides.whole⟩
  have secondRead := read?_eq_some_iff.mpr
    ⟨secondDivides.grammatical, secondDivides.whole⟩
  rw [firstRead] at secondRead
  exact Option.some.inj secondRead

/-! ## Pools of notations -/

end Notation

/-- Convert a numeral that may be left out, which stands for one. -/
def Numeral.readOrOne (digits : List Char) : Except Fault Nat :=
  if digits = [] then .ok 1 else read digits

/-- A numeral that may be left out is converted within the digit limit, to the number
that it denotes. -/
theorem Numeral.readOrOne_eq_ok_iff
    {digits : List Char}
    {number : Nat} :
    readOrOne digits = .ok number ↔
      digits.length ≤ 4300 ∧ number = valueOrOne digits := by
  unfold readOrOne valueOrOne
  by_cases missing : digits = []
  · simp [missing, eq_comm]
  · rw [if_neg missing, if_neg missing, read_eq_ok_iff]
    exact and_congr_right fun _ => eq_comm

theorem Numeral.readOrOne_of_long
    {digits : List Char}
    (long : 4300 < digits.length) :
    readOrOne digits = .error (.numeralTooLong digits.length) := by
  have written : digits ≠ [] := List.length_pos_iff.mp (by omega)
  rw [readOrOne, if_neg written, read_of_long long]

/-- The selection of a clause in one chain of steps. -/
theorem Clause.selection_eq (clause : Clause) :
    clause.selection =
      Numeral.readOrOne clause.digits >>= fun count =>
        Selection.build clause.mode clause.edge count := by
  unfold Clause.selection Numeral.readOrOne
  split <;> rfl

/-- A clause within the digit limit stands for the selection that it denotes. -/
theorem Clause.selection_eq_ok_iff
    {clause : Clause}
    {selection : Selection} :
    clause.selection = .ok selection ↔
      clause.digits.length ≤ 4300 ∧ clause.Denotes selection := by
  simp only [Clause.selection_eq, Fault.bind_eq_ok_iff, Numeral.readOrOne_eq_ok_iff,
    Selection.build_eq_ok_iff, Clause.eq_mode_iff, Clause.eq_edge_iff]
  constructor
  · rintro ⟨number, ⟨short, rfl⟩, mode, edge, count⟩
    exact ⟨short, mode, edge, by omega⟩
  · rintro ⟨short, denotes⟩
    exact ⟨_, ⟨short, rfl⟩, denotes.mode, denotes.edge, by rw [denotes.count]⟩

namespace Notation

/-- Convert the sides, a hundred for the percent sign. -/
def readNumberOfSides (sides : List Char) : Except Fault Nat :=
  if sides = ['%'] then .ok 100 else Numeral.read sides

/-- The sides are converted within the digit limit, to the number that is written. -/
theorem readNumberOfSides_eq_ok_iff
    {sides : List Char}
    {number : Nat} :
    readNumberOfSides sides = .ok number ↔
      sides.length ≤ 4300 ∧ number = numberOfSides sides := by
  unfold readNumberOfSides numberOfSides
  by_cases percent : sides = ['%']
  · simp [percent, eq_comm]
  · rw [if_neg percent, if_neg percent, Numeral.read_eq_ok_iff]
    exact and_congr_right fun _ => eq_comm

theorem readNumberOfSides_of_long
    {sides : List Char}
    (long : 4300 < sides.length) :
    readNumberOfSides sides = .error (.numeralTooLong sides.length) := by
  have different : sides ≠ ['%'] := by
    rintro rfl
    exact absurd long (by decide)
  rw [readNumberOfSides, if_neg different, Numeral.read_of_long long]

/-- The pool of a notation in one chain of steps. -/
theorem pool_eq (parts : Notation) :
    parts.pool =
      Numeral.readOrOne parts.count >>= fun count =>
      readNumberOfSides parts.sides >>= fun sides =>
      parts.selection >>= fun selection =>
        Pool.build count sides selection := by
  unfold pool Numeral.readOrOne readNumberOfSides
  split <;> split <;> rfl

/-- After the sides, exactly the clauses are found. -/
theorem scan_tail
    {parts : Notation}
    (grammatical : parts.Grammatical) :
    Clause.scan parts.tail = parts.clauses :=
  Clause.scan_flatMap_append grammatical.clauses
    (List.all_eq_true.mp ((Text.all_isTolerated_iff parts.trailing).mpr grammatical.trailing))

/-- A notation stands for a pool by its count, its sides and its last clause alone. -/
theorem Grammatical.pool_congr
    {first second : Notation}
    (firstGrammatical : first.Grammatical)
    (secondGrammatical : second.Grammatical)
    (count : first.count = second.count)
    (sides : first.sides = second.sides)
    (last : first.clauses.getLast? = second.clauses.getLast?) :
    first.pool = second.pool := by
  rw [pool_eq, pool_eq, selection, selection, scan_tail firstGrammatical,
    scan_tail secondGrammatical, count, sides, last]

/-- The last clause alone stands for the selection, if it is within the digit limit. -/
theorem selection_eq_ok_iff
    {parts : Notation}
    {selection : Option Selection}
    (grammatical : parts.Grammatical) :
    parts.selection = .ok selection ↔
      (∀ clause ∈ parts.clauses.getLast?,
        clause.digits.length ≤ 4300) ∧
      Option.Rel Clause.Denotes parts.clauses.getLast? selection := by
  unfold Notation.selection
  rw [scan_tail grammatical]
  cases last : parts.clauses.getLast? with
  | none =>
      cases selection with
      | none => simp
      | some selection => simp
  | some clause =>
      simp only [Fault.bind_eq_ok_iff, Clause.selection_eq_ok_iff]
      constructor
      · rintro ⟨selected, ⟨short, denotes⟩, result⟩
        obtain rfl := Except.ok.inj result
        exact ⟨by simpa using short, .some denotes⟩
      · rintro ⟨short, denotes⟩
        cases denotes with
        | some denotes =>
            exact ⟨_, ⟨short clause rfl, denotes⟩, rfl⟩

theorem selection_of_long
    {parts : Notation}
    {clause : Clause}
    (grammatical : parts.Grammatical)
    (last : clause ∈ parts.clauses.getLast?)
    (long : 4300 < clause.digits.length) :
    parts.selection = .error (.numeralTooLong clause.digits.length) := by
  rw [Option.mem_def] at last
  unfold Notation.selection
  rw [scan_tail grammatical, last]
  dsimp only
  rw [Clause.selection_eq, Numeral.readOrOne_of_long long, Fault.error_bind, Fault.error_bind]

/-- The pool of a notation is the one that it denotes, if the numerals that are
converted are within the digit limit. -/
theorem pool_eq_ok_iff
    {parts : Notation}
    {pool : Pool}
    (grammatical : parts.Grammatical) :
    parts.pool = .ok pool ↔ parts.Convertible ∧ parts.Denotes pool := by
  simp only [pool_eq, Fault.bind_eq_ok_iff, Numeral.readOrOne_eq_ok_iff,
    readNumberOfSides_eq_ok_iff, selection_eq_ok_iff grammatical, Pool.build_eq_ok_iff]
  constructor
  · rintro ⟨_, ⟨countShort, rfl⟩, _, ⟨sidesShort, rfl⟩, _, ⟨short, denotes⟩,
      count, sides, rfl⟩
    exact ⟨⟨countShort, sidesShort, short⟩, by omega, by omega, denotes⟩
  · rintro ⟨convertible, denotes⟩
    exact ⟨_, ⟨convertible.count, rfl⟩, _, ⟨convertible.sides, rfl⟩, _,
      ⟨convertible.selection, denotes.selection⟩, by rw [denotes.count],
      by rw [denotes.sides], rfl⟩

/-- A notation with a numeral beyond the digit limit stands for no pool: the first such
numeral is at fault. -/
theorem pool_of_not_convertible
    {parts : Notation}
    (grammatical : parts.Grammatical)
    (long : ¬ parts.Convertible) :
    ∃ digits, 4300 < digits ∧ parts.pool = .error (.numeralTooLong digits) := by
  by_cases count : parts.count.length ≤ 4300
  case neg =>
    have countLong : 4300 < parts.count.length := by omega
    exact ⟨_, countLong, by rw [pool_eq, Numeral.readOrOne_of_long countLong, Fault.error_bind]⟩
  have countRead := Numeral.readOrOne_eq_ok_iff.mpr ⟨count, rfl⟩
  by_cases sides : parts.sides.length ≤ 4300
  case neg =>
    have sidesLong : 4300 < parts.sides.length := by omega
    refine ⟨_, sidesLong, ?_⟩
    rw [pool_eq, countRead, Fault.ok_bind, readNumberOfSides_of_long sidesLong, Fault.error_bind]
  have sidesRead := readNumberOfSides_eq_ok_iff.mpr ⟨sides, rfl⟩
  obtain ⟨clause, last, clauseLong⟩ :
      ∃ clause ∈ parts.clauses.getLast?, 4300 < clause.digits.length := by
    by_contra none
    refine long ⟨count, sides, fun clause last => ?_⟩
    by_contra clauseLong
    exact none ⟨clause, last, by omega⟩
  refine ⟨_, clauseLong, ?_⟩
  rw [pool_eq, countRead, Fault.ok_bind, sidesRead, Fault.ok_bind,
    selection_of_long grammatical last clauseLong, Fault.error_bind]

/-- A notation of the grammar denotes a pool. -/
theorem Grammatical.exists_denotes
    {parts : Notation}
    (grammatical : parts.Grammatical) :
    ∃ pool, parts.Denotes pool := by
  have selected : ∃ selection, Option.Rel Clause.Denotes
      parts.clauses.getLast? selection := by
    cases last : parts.clauses.getLast? with
    | none => exact ⟨none, .none⟩
    | some clause =>
        have numeral := (grammatical.clauses clause
          (List.mem_of_getLast? last)).digits
        exact ⟨some {
          mode := clause.mode
          edge := clause.edge
          count := Numeral.valueOrOne clause.digits
          count_pos := Numeral.one_le_valueOrOne numeral },
          .some ⟨(clause.eq_mode_iff _).mp rfl, (clause.eq_edge_iff _).mp rfl, rfl⟩⟩
  obtain ⟨selection, denotes⟩ := selected
  exact ⟨{
    count := Numeral.valueOrOne parts.count
    sides := numberOfSides parts.sides
    selection
    count_pos := Numeral.one_le_valueOrOne grammatical.count
    two_le_sides := two_le_numberOfSides grammatical.sides }, rfl, rfl, denotes⟩

/-! ## Texts -/

/-- A text is read as the pool of its parts, where it has parts. -/
theorem parse_eq_ok_iff_pool
    {text : String}
    {pool : Pool} :
    parse text = .ok pool ↔
      ∃ parts : Notation, parts.Divides text ∧ parts.pool = .ok pool := by
  unfold parse
  constructor
  · intro result
    cases found : read? text.toList with
    | none => simp [found] at result
    | some parts =>
        obtain ⟨grammatical, whole⟩ := read?_sound found
        exact ⟨parts, ⟨grammatical, whole⟩, by simpa [found] using result⟩
  · rintro ⟨parts, divides, result⟩
    rw [read?_eq_some_iff.mpr ⟨divides.grammatical, divides.whole⟩]
    exact result

/-- What a text of the grammar is read as is the pool of its parts, or why there is none. -/
theorem Divides.parse_eq
    {parts : Notation}
    {text : String}
    (divides : parts.Divides text) :
    parse text = parts.pool := by
  rw [parse, read?_eq_some_iff.mpr ⟨divides.grammatical, divides.whole⟩]

/-- The check of a text finds exactly the texts of the grammar. -/
theorem isValid_iff
    {text : String} :
    isValid text = true ↔ ∃ parts : Notation, parts.Divides text := by
  unfold isValid
  rw [Option.isSome_iff_exists]
  refine exists_congr fun parts => ?_
  rw [read?_eq_some_iff]
  exact ⟨fun read => ⟨read.1, read.2⟩, fun divides => ⟨divides.grammatical, divides.whole⟩⟩

theorem not_divides_of_not_isValid
    {text : String}
    (invalid : ¬ isValid text = true)
    (parts : Notation) :
    ¬ parts.Divides text :=
  fun divides => invalid (isValid_iff.mpr ⟨parts, divides⟩)

theorem parse_of_not_divides
    {text : String}
    (outside : ∀ parts : Notation, ¬ parts.Divides text) :
    parse text = .error (.badNotation text) := by
  unfold parse
  cases found : read? text.toList with
  | none => rfl
  | some parts =>
      obtain ⟨grammatical, whole⟩ := read?_sound found
      exact absurd ⟨grammatical, whole⟩ (outside parts)

theorem Divides.ne_empty
    {parts : Notation}
    {text : String}
    (divides : parts.Divides text) :
    text ≠ "" := by
  rintro rfl
  have whole := divides.whole
  rw [flatten_eq] at whole
  simp at whole

/-- A text of the grammar begins with a blank, a digit or a letter. -/
theorem Divides.head?_ne_dash
    {parts : Notation}
    {text : String}
    (divides : parts.Divides text) :
    text.toList.head? ≠ some '-' := by
  rw [← divides.whole, flatten_eq]
  cases leading : parts.leading with
  | cons blank blanks =>
      have isBlank := divides.grammatical.leading blank (by simp [leading])
      rintro ⟨⟩
      exact absurd ((Text.isTolerated_iff '-').mpr isBlank) (by decide)
  | nil =>
      cases count : parts.count with
      | cons digit digits =>
          have numeral := divides.grammatical.count
          rw [count] at numeral
          have proper := numeral.resolve_left (List.cons_ne_nil digit digits)
          rintro ⟨⟩
          exact absurd proper.1.1 (by decide)
      | nil =>
          have letter := divides.grammatical.letter
          intro dash
          have same : parts.letter = '-' := by simpa using dash
          rw [same] at letter
          exact absurd letter (by decide)

/-- A text is read as a pool exactly if it has parts that can be converted and denote the
pool. -/
theorem parse_eq_ok_iff
    {text : String}
    {pool : Pool} :
    parse text = .ok pool ↔
      ∃ parts : Notation, parts.Divides text ∧ parts.Convertible ∧ parts.Denotes pool := by
  rw [parse_eq_ok_iff_pool]
  refine exists_congr fun parts => and_congr_right fun divides => ?_
  exact pool_eq_ok_iff divides.grammatical

/-- The numerals of a text that was read can be converted. -/
theorem convertible_of_parse
    {text : String}
    {pool : Pool}
    (parsed : parse text = .ok pool)
    (parts : Notation)
    (divides : parts.Divides text) :
    parts.Convertible := by
  obtain ⟨others, othersDivide, convertible, -⟩ := parse_eq_ok_iff.mp parsed
  rw [divides.unique othersDivide]
  exact convertible

/-- Parsing succeeds on exactly the texts that can be divided into parts of the
grammar whose converted numerals are within the digit limit, and it gives the pool
that the parts denote.  There is at most one way to divide a text. -/
theorem parse_eq_ok_iff_denotes (text : String) :
    ((∃ pool, parse text = .ok pool) ↔
      ∃ parts : Notation, parts.Divides text ∧ parts.Convertible) ∧
    (∀ pool, parse text = .ok pool ↔
      ∃ parts : Notation,
        parts.Divides text ∧ parts.Convertible ∧ parts.Denotes pool) ∧
    {parts : Notation | parts.Divides text}.Subsingleton := by
  refine ⟨⟨?_, ?_⟩, fun pool => parse_eq_ok_iff, fun first firstDivides second secondDivides => ?_⟩
  · rintro ⟨pool, result⟩
    obtain ⟨parts, divides, convertible, -⟩ := parse_eq_ok_iff.mp result
    exact ⟨parts, divides, convertible⟩
  · rintro ⟨parts, divides, convertible⟩
    obtain ⟨pool, denotes⟩ := divides.grammatical.exists_denotes
    exact ⟨pool, parse_eq_ok_iff.mpr ⟨parts, divides, convertible, denotes⟩⟩
  · exact firstDivides.unique secondDivides

end Notation
end Tabletop
