import Tabletop.Notation
import Tabletop.Proofs.Notation.Clauses
import Tabletop.Proofs.Pool

/-!
# The grammar of notations

The grammar says which texts are notations by the characters of their parts alone,
and the parts denote a pool.  A text is read exactly if it can be divided into parts
of the grammar, there is only one way to divide it, and what is read is what its
parts denote.
-/

namespace Tabletop
namespace Notation

/-! ## The grammar -/

/-- The sides of the grammar: a percent sign, a digit from two to nine, or a proper
numeral of two digits or more. -/
inductive IsSides : List Char → Prop
  | percent : IsSides ['%']
  | digit (digit : Char) : '2' ≤ digit → digit ≤ '9' → IsSides [digit]
  | numeral (digits : List Char) :
      Numeral.IsProper digits → 2 ≤ digits.length → IsSides digits

/-- The parts of a notation, as the grammar has them. -/
structure Grammatical (parts : Notation) : Prop where
  /-- Blanks stand in front. -/
  leading : ∀ character ∈ parts.leading, Text.IsBlank character
  /-- The number of dice is a proper numeral, or it is left out. -/
  count : parts.count = [] ∨ Numeral.IsProper parts.count
  /-- The letter is a d, in either case. -/
  letter : parts.letter = 'd' ∨ parts.letter = 'D'
  /-- The sides are those of the grammar. -/
  sides : IsSides parts.sides
  /-- Every clause is one of the grammar. -/
  clauses : ∀ clause ∈ parts.clauses, clause.Grammatical
  /-- Blanks stand at the end. -/
  trailing : ∀ character ∈ parts.trailing, Text.IsBlank character

/-- Parts of the grammar that make up a text. -/
structure Divides (parts : Notation) (text : String) : Prop where
  /-- The parts are those of the grammar. -/
  grammatical : parts.Grammatical
  /-- One after the other, they are the text. -/
  whole : parts.flatten = text.toList

/-- The numerals that are converted have at most 4300 digits: those of the count, of
the sides, and of the last clause. -/
structure Convertible (parts : Notation) : Prop where
  count : parts.count.length ≤ 4300
  sides : parts.sides.length ≤ 4300
  selection : ∀ clause ∈ parts.clauses.getLast?, clause.digits.length ≤ 4300

end Notation

/-! ## What a notation denotes -/

/-- The number that a numeral denotes, one if it is left out. -/
def Numeral.valueOrOne (digits : List Char) : Nat :=
  if digits = [] then 1 else value digits

/-- A clause denotes a selection with its mode, its edge and its number. -/
structure Clause.Denotes (clause : Clause) (selection : Selection) : Prop where
  mode : selection.mode = .drop ↔ clause.modeLetter ∈ ['-', 'd', 'D']
  edge : selection.edge = .lowest ↔ clause.edgeLetter ∈ ['l', 'L']
  count : selection.count = Numeral.valueOrOne clause.digits

namespace Notation

/-- The number of sides that is written, a hundred for the percent sign. -/
def numberOfSides (sides : List Char) : Nat :=
  if sides = ['%'] then 100 else Numeral.value sides

/-- A notation denotes a pool with its numbers and the selection of its last clause,
if it has a clause. -/
structure Denotes (parts : Notation) (pool : Pool) : Prop where
  count : pool.count = Numeral.valueOrOne parts.count
  sides : pool.sides = numberOfSides parts.sides
  selection : Option.Rel Clause.Denotes parts.clauses.getLast? pool.selection

end Notation

/-! ## Letters and numbers of the grammar -/

theorem Clause.eq_mode_iff (clause : Clause) (mode : Mode) :
    mode = clause.mode ↔ (mode = .drop ↔ clause.modeLetter ∈ ['-', 'd', 'D']) := by
  unfold Clause.mode
  by_cases dropping : clause.modeLetter ∈ ['-', 'd', 'D']
  · rw [if_pos (List.contains_iff_mem.mpr dropping)]
    exact (iff_true_right dropping).symm
  · rw [if_neg (mt List.contains_iff_mem.mp dropping)]
    cases mode <;> simp [dropping]

theorem Clause.eq_edge_iff (clause : Clause) (edge : Edge) :
    edge = clause.edge ↔ (edge = .lowest ↔ clause.edgeLetter ∈ ['l', 'L']) := by
  unfold Clause.edge
  by_cases low : clause.edgeLetter ∈ ['l', 'L']
  · rw [if_pos (List.contains_iff_mem.mpr low)]
    exact (iff_true_right low).symm
  · rw [if_neg (mt List.contains_iff_mem.mp low)]
    cases edge <;> simp [low]

theorem Numeral.one_le_valueOrOne
    {digits : List Char}
    (numeral : digits = [] ∨ IsProper digits) :
    1 ≤ valueOrOne digits := by
  rcases numeral with rfl | proper
  · exact Nat.le_refl 1
  · rw [valueOrOne, if_neg proper.ne_nil]
    exact proper.one_le_value

namespace Notation

/-- Sides of the grammar other than the percent sign are a proper numeral. -/
theorem IsSides.eq_percent_or_isProper
    {sides : List Char}
    (grammatical : IsSides sides) :
    sides = ['%'] ∨ Numeral.IsProper sides ∧ sides ≠ ['1'] := by
  cases grammatical with
  | percent => exact Or.inl rfl
  | digit digit low high =>
      right
      refine ⟨⟨⟨Char.le_trans (by decide) low, high⟩, by simp⟩, ?_⟩
      rintro ⟨⟩
      exact absurd low (by decide)
  | numeral digits proper long =>
      right
      refine ⟨proper, ?_⟩
      rintro rfl
      exact absurd long (by decide)

/-- A proper numeral other than 1 is one of the sides of the grammar. -/
theorem isSides_of_isProper
    {sides : List Char}
    (proper : Numeral.IsProper sides)
    (different : sides ≠ ['1']) :
    IsSides sides := by
  match sides with
  | [] => exact False.elim proper
  | [digit] =>
      refine .digit digit ?_ proper.1.2
      have low := proper.1.1
      have distinct : digit.toNat ≠ '1'.toNat := by
        intro equal
        exact different (congrArg (fun character => [character]) (Char.toNat_inj.mp equal))
      rw [Char.le_def, UInt32.le_iff_toNat_le] at low ⊢
      change 49 ≤ digit.toNat at low
      change digit.toNat ≠ 49 at distinct
      change 50 ≤ digit.toNat
      omega
  | _ :: _ :: _ => exact .numeral _ proper (by simp)

/-- A die of the grammar has at least two sides. -/
theorem two_le_numberOfSides
    {sides : List Char}
    (grammatical : IsSides sides) :
    2 ≤ numberOfSides sides := by
  cases grammatical with
  | percent => decide
  | digit digit low high =>
      have different : [digit] ≠ ['%'] := by
        rintro ⟨⟩
        exact absurd low (by decide)
      rw [Char.le_def, UInt32.le_iff_toNat_le] at low
      change 50 ≤ digit.toNat at low
      rw [numberOfSides, if_neg different, Numeral.value_cons]
      change 2 ≤ 10 ^ 0 * (digit.toNat - 48) + 0
      omega
  | numeral digits proper long =>
      have different : sides ≠ ['%'] := by
        rintro rfl
        exact absurd long (by decide)
      rw [numberOfSides, if_neg different]
      calc
        2 ≤ 10 ^ 1 := by decide
        _ ≤ 10 ^ (sides.length - 1) :=
          Nat.pow_le_pow_right (by decide) (by omega)
        _ ≤ Numeral.value sides := proper.pow_le_value

end Notation
end Tabletop
