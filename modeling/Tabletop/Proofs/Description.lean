import Tabletop.Description
import Tabletop.Proofs.Notation.Reading
import Tabletop.Proofs.Order

/-!
# Canonical notations

The short description of a pool is a text of the grammar whose parts denote the pool.
Writing it fails exactly where one of its numbers is beyond the digit limit, which is
also the limit for reading, so that what is written is read back as the same pool.
-/

namespace Tabletop

/-! ## Numbers that can be written -/

namespace Numeral

/-- A number of at most as many digits as can be written. -/
def Printable (number : Nat) : Prop :=
  (digits number).length ≤ 4300

instance (number : Nat) : Decidable (Printable number) :=
  inferInstanceAs (Decidable ((digits number).length ≤ 4300))

theorem text_natCast (number : Nat) :
    text (number : Int) = String.ofList (digits number) :=
  rfl

theorem write_of_printable
    {number : Nat}
    (printable : Printable number) :
    write (number : Int) = .ok (String.ofList (digits number)) := by
  have writable := (writable_natCast_iff number).mpr printable
  rw [write_eq_ok_iff, text_natCast]
  exact ⟨writable, rfl⟩

theorem write_of_not_printable
    {number : Nat}
    (long : ¬Printable number) :
    write (number : Int) = .error .numberTooLong :=
  write_of_not_writable (mt (writable_natCast_iff number).mp long)

theorem writable_iff_lt_pow (number : Nat) :
    Writable number ↔ number < 10 ^ digitLimit := by
  unfold Writable
  rw [Nat.pow_eq, Int.natAbs_natCast]

theorem writable_of_le
    {smaller larger : Int}
    (nonnegative : 0 ≤ smaller)
    (below : smaller ≤ larger)
    (writable : Writable larger) :
    Writable smaller := by
  have magnitudes : smaller.natAbs ≤ larger.natAbs := by omega
  exact Nat.lt_of_le_of_lt magnitudes writable

theorem writable_neg_iff (number : Int) :
    Writable (-number) ↔ Writable number := by
  unfold Writable
  rw [Int.natAbs_neg]

theorem printable_one : Printable 1 := by
  unfold Printable digits
  rw [Nat.toDigits_of_lt_base (by decide)]
  simp

/-- A number that was converted from a numeral within the limit can be written. -/
theorem printable_valueOrOne
    {numeral : List Char}
    (grammatical : numeral = [] ∨ IsProper numeral)
    (short : numeral.length ≤ 4300) :
    Printable (valueOrOne numeral) := by
  rcases grammatical with rfl | proper
  · exact printable_one
  · rw [valueOrOne, if_neg proper.ne_nil]
    exact Nat.le_trans (length_digits_value_le proper) short

end Numeral

/-- Sides that were converted within the limit can be written. -/
theorem Notation.printable_numberOfSides
    {sides : List Char}
    (grammatical : IsSides sides)
    (short : sides.length ≤ 4300) :
    Numeral.Printable (numberOfSides sides) := by
  rcases grammatical.eq_percent_or_isProper with rfl | ⟨proper, -⟩
  · have threeDigits : (Numeral.digits 100).length ≤ 3 :=
      Numeral.length_digits_le (by decide) (by decide)
    exact Nat.le_trans threeDigits (by decide)
  · have different : sides ≠ ['%'] := by
      rintro rfl
      exact absurd proper.1.1 (by decide)
    rw [numberOfSides, if_neg different]
    exact Nat.le_trans (Numeral.length_digits_value_le proper) short

/-! ## The canonical parts -/

/-- The letter for a mode in a canonical clause. -/
def Mode.letter : Mode → Char
  | .drop => 'd'
  | .keep => 'k'

/-- The letter for an edge in a canonical clause. -/
def Edge.letter : Edge → Char
  | .lowest => 'L'
  | .highest => 'H'

/-- The clause for a selection, without a numeral for a single die. -/
def Selection.clause (selection : Selection) : Clause :=
  { modeLetter := selection.mode.letter
    edgeLetter := selection.edge.letter
    digits := if selection.count = 1 then [] else Numeral.digits selection.count }

namespace Pool

/-- The parts of the canonical notation of a pool. -/
def canonical (pool : Pool) : Notation :=
  { leading := []
    count := Numeral.digits pool.count
    letter := 'd'
    sides := Numeral.digits pool.sides
    clauses := (pool.selection.map Selection.clause).toList
    trailing := [] }

/-- The numbers of a pool can be written. -/
structure Printable (pool : Pool) : Prop where
  count : Numeral.Printable pool.count
  sides : Numeral.Printable pool.sides
  selection : ∀ selection ∈ pool.selection, Numeral.Printable selection.count

end Pool

namespace Selection

theorem grammatical_clause (selection : Selection) :
    selection.clause.Grammatical := by
  refine { modeLetter := ?_, edgeLetter := ?_, digits := ?_ }
  · unfold clause
    cases selection.mode <;> simp [Mode.letter]
  · unfold clause
    cases selection.edge <;> simp [Edge.letter]
  · unfold clause
    by_cases single : selection.count = 1
    · exact Or.inl (if_pos single)
    · right
      simp only [if_neg single]
      exact Numeral.isProper_digits selection.count selection.count_pos

theorem clause_denotes (selection : Selection) :
    selection.clause.Denotes selection := by
  refine { mode := ?_, edge := ?_, count := ?_ }
  · unfold clause
    cases selection.mode <;> simp [Mode.letter]
  · unfold clause
    cases selection.edge <;> simp [Edge.letter]
  · unfold clause Numeral.valueOrOne
    by_cases single : selection.count = 1
    · simp [single]
    · have proper := Numeral.isProper_digits selection.count selection.count_pos
      simp [single, proper.ne_nil]

theorem length_digits_clause_le
    {selection : Selection}
    (printable : Numeral.Printable selection.count) :
    selection.clause.digits.length ≤ 4300 := by
  unfold clause
  by_cases single : selection.count = 1
  · simp [single]
  · simp only [if_neg single]
    exact printable

end Selection

namespace Pool

theorem grammatical_canonical (pool : Pool) :
    pool.canonical.Grammatical := by
  have sidesProper : Numeral.IsProper (Numeral.digits pool.sides) :=
    Numeral.isProper_digits pool.sides (Nat.le_of_lt pool.two_le_sides)
  refine {
    leading := by simp [canonical]
    count := Or.inr (Numeral.isProper_digits pool.count pool.count_pos)
    letter := Or.inl rfl
    sides := Notation.isSides_of_isProper sidesProper ?_
    clauses := ?_
    trailing := by simp [canonical] }
  · intro one
    have value : Numeral.value (Numeral.digits pool.sides) = Numeral.value ['1'] :=
      congrArg Numeral.value one
    have sides := pool.two_le_sides
    rw [Numeral.value_digits] at value
    rw [value] at sides
    exact absurd sides (by decide)
  · intro clause member
    simp only [canonical, Option.mem_toList, Option.map_eq_some_iff] at member
    obtain ⟨selection, _, rfl⟩ := member
    exact selection.grammatical_clause

theorem canonical_denotes (pool : Pool) :
    pool.canonical.Denotes pool := by
  have countProper := Numeral.isProper_digits pool.count pool.count_pos
  have sidesProper := Numeral.isProper_digits pool.sides (Nat.le_of_lt pool.two_le_sides)
  refine { count := ?_, sides := ?_, selection := ?_ }
  · simp [canonical, Numeral.valueOrOne, countProper.ne_nil]
  · have different : Numeral.digits pool.sides ≠ ['%'] := by
      intro percent
      rw [percent] at sidesProper
      exact absurd sidesProper.1.1 (by decide)
    simp [canonical, Notation.numberOfSides, different]
  · unfold canonical
    cases pool.selection with
    | none => exact .none
    | some selection => exact .some selection.clause_denotes

theorem Printable.convertible
    {pool : Pool}
    (printable : pool.Printable) :
    pool.canonical.Convertible := by
  refine { count := printable.count, sides := printable.sides, selection := ?_ }
  intro clause last
  cases selected : pool.selection with
  | none => simp [canonical, selected] at last
  | some selection =>
      obtain rfl : selection.clause = clause := by
        simpa [canonical, selected] using last
      exact Selection.length_digits_clause_le (printable.selection selection selected)

end Pool

/-! ## Writing -/

namespace Selection

/-- The number of a canonical clause, left out for a single die. -/
def shortNumber (selection : Selection) : Except Fault String :=
  if selection.count = 1 then .ok "" else Numeral.write selection.count

theorem shortNumber_of_printable
    {selection : Selection}
    (printable : Numeral.Printable selection.count) :
    selection.shortNumber = .ok (String.ofList selection.clause.digits) := by
  unfold shortNumber clause
  by_cases single : selection.count = 1
  · simp [single]
  · simp only [if_neg single]
    exact Numeral.write_of_printable printable

theorem shortNumber_of_not_printable
    {selection : Selection}
    (long : ¬Numeral.Printable selection.count) :
    selection.shortNumber = .error .numberTooLong := by
  have several : selection.count ≠ 1 := by
    intro single
    rw [single] at long
    exact long Numeral.printable_one
  rw [shortNumber, if_neg several]
  exact Numeral.write_of_not_printable long

end Selection

namespace Pool

/-- The clause of a canonical notation, if there is a selection. -/
def shortClause (pool : Pool) : Except Fault String :=
  match pool.selection with
  | none => .ok ""
  | some selection =>
      selection.shortNumber.map fun number =>
        modeLetter selection.mode ++ edgeLetter selection.edge ++ number

/-- The canonical notation is written in three steps. -/
theorem short_eq (pool : Pool) :
    pool.short =
      Numeral.write pool.count >>= fun count =>
      Numeral.write pool.sides >>= fun sides =>
      pool.shortClause.map fun clause => count ++ "d" ++ sides ++ clause := by
  unfold short shortClause
  refine congrArg _ (funext fun count => congrArg _ (funext fun sides => ?_))
  cases pool.selection with
  | none => simp [Except.map, pure, Except.pure]
  | some selection =>
      have counted := selection.count_pos
      by_cases single : selection.count = 1
      · simp [Selection.shortNumber, single, Except.map, pure, Except.pure, bind,
          Except.bind, String.append_assoc]
      · have several : selection.count > 1 := by omega
        cases written : Numeral.write (selection.count : Int) with
        | error fault =>
            simp [Selection.shortNumber, single, several, written, Except.map, bind,
              Except.bind]
        | ok number =>
            simp [Selection.shortNumber, single, several, written, Except.map, pure,
              Except.pure, bind, Except.bind, String.append_assoc]

theorem shortClause_of_printable
    {pool : Pool}
    (printable : pool.Printable) :
    pool.shortClause = .ok (String.ofList pool.canonical.tail) := by
  unfold shortClause
  cases selected : pool.selection with
  | none => simp [canonical, selected, Notation.tail]
  | some selection =>
      simp only [Selection.shortNumber_of_printable
        (printable.selection selection selected), Except.map]
      congr 1
      rw [← String.toList_inj]
      cases modeIs : selection.mode <;> cases edgeIs : selection.edge <;>
        simp [canonical, selected, Notation.tail, Clause.flatten, Selection.clause,
          modeIs, edgeIs, modeLetter, edgeLetter, Mode.letter, Edge.letter]

/-- The canonical notation of a printable pool is made of its canonical parts. -/
theorem short_of_printable
    {pool : Pool}
    (printable : pool.Printable) :
    pool.short = .ok (String.ofList pool.canonical.flatten) := by
  rw [short_eq, Numeral.write_of_printable printable.count,
    Numeral.write_of_printable printable.sides, shortClause_of_printable printable]
  change Except.ok _ = Except.ok _
  congr 1
  rw [← String.toList_inj]
  simp [Notation.flatten, canonical]

/-- The canonical notation cannot be written if a number is beyond the limit. -/
theorem short_of_not_printable
    {pool : Pool}
    (long : ¬pool.Printable) :
    pool.short = .error .numberTooLong := by
  rw [short_eq]
  by_cases count : Numeral.Printable pool.count
  · by_cases sides : Numeral.Printable pool.sides
    · rw [Numeral.write_of_printable count, Numeral.write_of_printable sides]
      have clause : pool.shortClause = .error .numberTooLong := by
        unfold shortClause
        cases selected : pool.selection with
        | none =>
            exact absurd ⟨count, sides, by simp [selected]⟩ long
        | some selection =>
            have number : ¬Numeral.Printable selection.count := by
              intro number
              exact long ⟨count, sides, by simpa [selected] using number⟩
            simp [Selection.shortNumber_of_not_printable number, Except.map]
      rw [clause]
      rfl
    · rw [Numeral.write_of_printable count, Numeral.write_of_not_printable sides]
      rfl
  · rw [Numeral.write_of_not_printable count]
    rfl

/-! ## Round trips -/

theorem divides_canonical (pool : Pool) :
    pool.canonical.Divides (String.ofList pool.canonical.flatten) :=
  ⟨pool.grammatical_canonical, String.toList_ofList.symm⟩

/-- The canonical notation of a printable pool stands for that pool. -/
theorem parse_canonical
    {pool : Pool}
    (printable : pool.Printable) :
    Notation.parse (String.ofList pool.canonical.flatten) = .ok pool := by
  exact Notation.parse_eq_ok_iff.mpr
    ⟨pool.canonical, pool.divides_canonical, printable.convertible, pool.canonical_denotes⟩

/-- The numbers of a pool that was read can be written. -/
theorem printable_of_parse
    {text : String}
    {pool : Pool}
    (parsed : Notation.parse text = .ok pool) :
    pool.Printable := by
  obtain ⟨parts, divides, result⟩ := Notation.parse_eq_ok_iff_pool.mp parsed
  have grammatical := divides.grammatical
  obtain ⟨convertible, denotes⟩ := (Notation.pool_eq_ok_iff grammatical).mp result
  refine { count := ?_, sides := ?_, selection := ?_ }
  · rw [denotes.count]
    exact Numeral.printable_valueOrOne grammatical.count convertible.count
  · rw [denotes.sides]
    exact Notation.printable_numberOfSides grammatical.sides convertible.sides
  · intro selection selected
    have last := denotes.selection
    rw [Option.mem_def.mp selected] at last
    cases lastIs : parts.clauses.getLast? with
    | none =>
        rw [lastIs] at last
        cases last
    | some clause =>
        rw [lastIs] at last
        cases last with
        | some denotes =>
            rw [denotes.count]
            exact Numeral.printable_valueOrOne
              (grammatical.clauses clause (List.mem_of_getLast? lastIs)).digits
              (convertible.selection clause lastIs)

end Pool

/-- A pool whose numbers are within the digit limit is described by a notation that
is read back as the same pool, and no other pool can be described.  The description
of a text that is read stands for the same pool and is its own description. -/
theorem Play.describeShort_roundTrip (table : Table σ) (pool : Pool) :
    (pool.Printable →
      ∃ written,
        (describeShort (.pool pool)).run table = (.ok written, table) ∧
        (parse written).run table = (.ok pool, table)) ∧
    (¬pool.Printable →
      ∃ fault : Fault,
        (describeShort (.pool pool)).run table = (.error fault, table) ∧
        fault.kind = "ValueError" ∧ fault.isDice = false) ∧
    (∀ text, ((parse text).run table).1 = .ok pool →
      ∃ written,
        (describeShort (.written text)).run table = (.ok written, table) ∧
        (parse written).run table = (.ok pool, table) ∧
        (describeShort (.written written)).run table = (.ok written, table)) := by
  have canonical (printable : pool.Printable) :
      (Order.written (String.ofList pool.canonical.flatten)).denoted = .ok pool :=
    Pool.parse_canonical printable
  refine ⟨fun printable => ?_, fun long => ?_, fun text parsed => ?_⟩
  · have short := Pool.short_of_printable printable
    exact ⟨_, run_describeShort_of_denoted (Order.denoted_pool pool) short table,
      run_resolve_of_denoted (canonical printable) table⟩
  · refine ⟨.numberTooLong, ?_, rfl, rfl⟩
    rw [run_describeShort, Order.denoted_pool, Fault.ok_bind,
      Pool.short_of_not_printable long]
    rfl
  · rw [run_parse] at parsed
    have denoted : (Order.written text).denoted = .ok pool := parsed
    have printable := Pool.printable_of_parse parsed
    have short := Pool.short_of_printable printable
    exact ⟨_, run_describeShort_of_denoted denoted short table,
      run_resolve_of_denoted (canonical printable) table,
      run_describeShort_of_denoted (canonical printable) short table⟩

/-- Four dice with six sides, of which the highest three are kept. -/
def Pool.fourDice : Pool :=
  { count := 4
    sides := 6
    selection := some { mode := .keep, edge := .highest, count := 3, count_pos := by decide }
    count_pos := by decide
    two_le_sides := by decide }

/-- The least number of dice that has too many digits. -/
def Pool.tooManyToWrite : Pool :=
  { count := 10 ^ Numeral.digitLimit
    sides := 2
    selection := none
    count_pos := Nat.one_le_pow _ _ (by decide)
    two_le_sides := by decide }

/-- A pool that can be written makes the round trip, one that cannot is refused, and
a text with blanks around it makes the round trip. -/
theorem Play.describeShort_roundTrip_witness :
    let table : Table ScriptedSource := Table.opening .lowest
    (Pool.fourDice.Printable ∧
      ∃ written,
        (describeShort (.pool Pool.fourDice)).run table = (.ok written, table) ∧
        (parse written).run table = (.ok Pool.fourDice, table)) ∧
    (¬Pool.tooManyToWrite.Printable ∧
      ∃ fault : Fault,
        (describeShort (.pool Pool.tooManyToWrite)).run table = (.error fault, table) ∧
        fault.kind = "ValueError" ∧ fault.isDice = false) ∧
    (((parse " 4D6kh3\u3000").run table).1 = .ok Pool.fourDice ∧
      ∃ written,
        (describeShort (.written " 4D6kh3\u3000")).run table = (.ok written, table) ∧
        (parse written).run table = (.ok Pool.fourDice, table) ∧
        (describeShort (.written written)).run table = (.ok written, table)) := by
  intro table
  have printable : Pool.fourDice.Printable := by
    constructor <;> decide +kernel
  have long : ¬Pool.tooManyToWrite.Printable :=
    fun printable => Nat.not_le_of_lt
      (Numeral.lt_length_digits_pow Numeral.digitLimit (by decide)) printable.count
  have parsed : ((parse " 4D6kh3\u3000").run table).1 = .ok Pool.fourDice := by
    rw [run_parse]
    decide +kernel
  exact ⟨⟨printable, (describeShort_roundTrip table Pool.fourDice).1 printable⟩,
    ⟨long, (describeShort_roundTrip table Pool.tooManyToWrite).2.1 long⟩,
    ⟨parsed, (describeShort_roundTrip table Pool.fourDice).2.2 _ parsed⟩⟩

end Tabletop
