import Tabletop.Notation.Clause
import Tabletop.Proofs.Numeral
import Tabletop.Text.Blank

/-!
# Selection clauses in a text

The grammar of a clause names its letters and its numeral.  A text of clauses, one
directly after the other and then blanks, is read clause by clause, and a scan of it
from left to right finds the same clauses: neither skips, splits or joins one.
-/

namespace Tabletop

/-! ## Blanks and letters -/

namespace Text

/-- The blanks of the grammar by their code points. -/
def IsBlank (character : Char) : Prop :=
  (0x09 ≤ character.toNat ∧ character.toNat ≤ 0x0D) ∨
    character.toNat ∈ [0x20, 0xA0, 0x1680] ∨
    (0x2000 ≤ character.toNat ∧ character.toNat ≤ 0x200A) ∨
    character.toNat ∈ [0x2028, 0x2029, 0x202F, 0x205F, 0x3000, 0xFEFF]

theorem isTolerated_iff (character : Char) :
    isTolerated character = true ↔ IsBlank character := by
  simp only [IsBlank, isTolerated, inRanges, commonBlankRanges, List.cons_append,
    List.nil_append, List.any_cons, List.any_nil, Bool.or_false, Bool.or_eq_true,
    Bool.and_eq_true, decide_eq_true_eq, List.mem_cons, List.not_mem_nil, or_false]
  omega

instance (character : Char) : Decidable (IsBlank character) :=
  decidable_of_iff (isTolerated character = true) (isTolerated_iff character)

theorem all_isTolerated_iff (characters : List Char) :
    characters.all isTolerated = true ↔ ∀ character ∈ characters, IsBlank character := by
  simp only [List.all_eq_true, isTolerated_iff]

/-- No digit is a tolerated blank. -/
theorem isTolerated_eq_false_of_isDigit
    {character : Char}
    (digit : character.isDigit = true) :
    isTolerated character = false := by
  have range := Char.isDigit_iff_toNat.mp digit
  change 48 ≤ character.toNat ∧ character.toNat ≤ 57 at range
  rw [Bool.eq_false_iff, Ne, isTolerated_iff]
  simp only [IsBlank, List.mem_cons, List.not_mem_nil, or_false]
  omega

end Text

namespace Clause

/-- The letters and the numeral of a clause, as the grammar has them. -/
structure Grammatical (clause : Clause) : Prop where
  /-- A hyphen or a letter for the mode, in either case. -/
  modeLetter : clause.modeLetter ∈ ['-', 'd', 'D', 'k', 'K']
  /-- A letter for the edge, in either case. -/
  edgeLetter : clause.edgeLetter ∈ ['l', 'L', 'h', 'H']
  /-- No numeral, or a proper one. -/
  digits : clause.digits = [] ∨ Numeral.IsProper clause.digits

theorem isModeLetter_iff (character : Char) :
    isModeLetter character = true ↔ character ∈ ['-', 'd', 'D', 'k', 'K'] := by
  simp [isModeLetter]

theorem isEdgeLetter_iff (character : Char) :
    isEdgeLetter character = true ↔ character ∈ ['l', 'L', 'h', 'H'] := by
  simp [isEdgeLetter]

/-- No mode letter is a digit. -/
theorem isDigit_eq_false_of_isModeLetter
    {character : Char}
    (letter : isModeLetter character = true) :
    character.isDigit = false := by
  rw [isModeLetter_iff] at letter
  simp only [List.mem_cons, List.not_mem_nil, or_false] at letter
  rcases letter with rfl | rfl | rfl | rfl | rfl <;> decide

/-- No tolerated blank is a mode letter. -/
theorem isModeLetter_eq_false_of_isTolerated
    {character : Char}
    (blank : Text.isTolerated character = true) :
    isModeLetter character = false := by
  rw [Bool.eq_false_iff]
  intro letter
  rw [isModeLetter_iff] at letter
  simp only [List.mem_cons, List.not_mem_nil, or_false] at letter
  rcases letter with rfl | rfl | rfl | rfl | rfl <;> exact absurd blank (by decide)

/-! ## One clause -/

/-- No clause begins where no mode letter stands. -/
theorem read?_of_beginsOutside
    {characters : List Char}
    (boundary : Text.BeginsOutside isModeLetter characters) :
    read? characters = none := by
  match characters with
  | [] => rfl
  | [_] => rfl
  | first :: second :: rest => simp [read?, boundary first rfl]

/-- A clause of the grammar is read whole where no digit follows it. -/
theorem read?_flatten_append
    {clause : Clause}
    {rest : List Char}
    (grammatical : clause.Grammatical)
    (boundary : Text.BeginsOutside Char.isDigit rest) :
    read? (clause.flatten ++ rest) = some (clause, rest) := by
  have mode := (isModeLetter_iff clause.modeLetter).mpr grammatical.modeLetter
  have edge := (isEdgeLetter_iff clause.edgeLetter).mpr grammatical.edgeLetter
  have digits : Numeral.split (clause.digits ++ rest) = (clause.digits, rest) :=
    Numeral.split_append_of_eq_nil_or_isProper grammatical.digits boundary
  simp [read?, flatten, mode, edge, digits]

/-- What is read as a clause is one of the grammar. -/
theorem grammatical_of_read?
    {characters rest : List Char}
    {clause : Clause}
    (found : read? characters = some (clause, rest)) :
    clause.Grammatical := by
  unfold read? at found
  split at found
  · split at found
    · rename_i letters
      simp only [Bool.and_eq_true] at letters
      simp only [Option.some.injEq, Prod.mk.injEq] at found
      obtain ⟨rfl, rfl⟩ := found
      exact {
        modeLetter := (isModeLetter_iff _).mp letters.1
        edgeLetter := (isEdgeLetter_iff _).mp letters.2
        digits := Numeral.split_fst_eq_nil_or_isProper _ }
    · contradiction
  · contradiction

/-! ## All clauses -/

theorem readAll_of_none
    {characters : List Char}
    (nothing : read? characters = none) :
    readAll characters = ([], characters) := by
  rw [readAll]
  split
  · rfl
  · simp_all

theorem readAll_of_some
    {characters rest : List Char}
    {clause : Clause}
    (found : read? characters = some (clause, rest)) :
    readAll characters = (clause :: (readAll rest).1, (readAll rest).2) := by
  rw [readAll]
  split
  · simp_all
  · simp_all

/-- Clauses and then blanks do not begin with a digit. -/
theorem beginsOutside_isDigit_flatMap_append
    {clauses : List Clause}
    {trailing : List Char}
    (grammatical : ∀ clause ∈ clauses, clause.Grammatical)
    (blank : ∀ character ∈ trailing, Text.isTolerated character = true) :
    Text.BeginsOutside Char.isDigit (clauses.flatMap flatten ++ trailing) := by
  cases clauses with
  | nil =>
      cases trailing with
      | nil => exact Text.beginsOutside_nil _
      | cons first rest =>
          refine Text.beginsOutside_cons rest ?_
          rw [Bool.eq_false_iff]
          intro digit
          have tolerated := blank first List.mem_cons_self
          rw [Text.isTolerated_eq_false_of_isDigit digit] at tolerated
          exact Bool.false_ne_true tolerated
  | cons clause others =>
      have letter := (grammatical clause List.mem_cons_self).modeLetter
      exact Text.beginsOutside_cons _
        (isDigit_eq_false_of_isModeLetter ((isModeLetter_iff _).mpr letter))

/-- Blanks do not begin with a mode letter. -/
theorem beginsOutside_isModeLetter_of_blank
    {trailing : List Char}
    (blank : ∀ character ∈ trailing, Text.isTolerated character = true) :
    Text.BeginsOutside isModeLetter trailing := by
  intro character first
  exact isModeLetter_eq_false_of_isTolerated
    (blank character (List.mem_of_mem_head? first))

/-- Clauses of the grammar are read one by one, up to the blanks after them. -/
theorem readAll_flatMap_append
    {clauses : List Clause}
    {trailing : List Char}
    (grammatical : ∀ clause ∈ clauses, clause.Grammatical)
    (blank : ∀ character ∈ trailing, Text.isTolerated character = true) :
    readAll (clauses.flatMap flatten ++ trailing) = (clauses, trailing) := by
  induction clauses with
  | nil =>
      exact readAll_of_none
        (read?_of_beginsOutside (beginsOutside_isModeLetter_of_blank blank))
  | cons clause others inductionHypothesis =>
      have later : ∀ clause ∈ others, clause.Grammatical :=
        fun other member => grammatical other (List.mem_cons_of_mem clause member)
      have found := read?_flatten_append (grammatical clause List.mem_cons_self)
        (beginsOutside_isDigit_flatMap_append later blank)
      rw [List.flatMap_cons, List.append_assoc, readAll_of_some found,
        inductionHypothesis later]

/-- What is read as clauses is clauses of the grammar, and with what is left it makes
up the text. -/
theorem readAll_sound (characters : List Char) :
    (∀ clause ∈ (readAll characters).1, clause.Grammatical) ∧
      (readAll characters).1.flatMap flatten ++ (readAll characters).2 =
        characters := by
  induction characters using readAll.induct with
  | case1 characters nothing =>
      rw [readAll_of_none nothing]
      simp
  | case2 characters clause rest found inductionHypothesis =>
      obtain ⟨grammatical, whole⟩ := inductionHypothesis
      rw [readAll_of_some found]
      constructor
      · intro other member
        rcases List.mem_cons.mp member with rfl | member
        · exact grammatical_of_read? found
        · exact grammatical other member
      · rw [List.flatMap_cons, List.append_assoc, whole]
        exact flatten_append_of_read? found

/-! ## Scanning -/

theorem scan_of_some
    {characters rest : List Char}
    {clause : Clause}
    (found : read? characters = some (clause, rest)) :
    scan characters = clause :: scan rest := by
  rw [scan]
  split
  · simp_all
  · simp_all

theorem scan_cons_of_none
    {first : Char}
    {rest : List Char}
    (nothing : read? (first :: rest) = none) :
    scan (first :: rest) = scan rest := by
  rw [scan]
  split
  · simp_all
  · rfl

/-- A scan finds nothing among blanks. -/
theorem scan_of_blank
    {trailing : List Char}
    (blank : ∀ character ∈ trailing, Text.isTolerated character = true) :
    scan trailing = [] := by
  induction trailing with
  | nil => rw [scan]; rfl
  | cons first rest inductionHypothesis =>
      have nothing : read? (first :: rest) = none :=
        read?_of_beginsOutside (beginsOutside_isModeLetter_of_blank blank)
      rw [scan_cons_of_none nothing]
      exact inductionHypothesis
        fun character member => blank character (List.mem_cons_of_mem first member)

/-- A scan of clauses and then blanks finds the clauses. -/
theorem scan_flatMap_append
    {clauses : List Clause}
    {trailing : List Char}
    (grammatical : ∀ clause ∈ clauses, clause.Grammatical)
    (blank : ∀ character ∈ trailing, Text.isTolerated character = true) :
    scan (clauses.flatMap flatten ++ trailing) = clauses := by
  induction clauses with
  | nil => exact scan_of_blank blank
  | cons clause others inductionHypothesis =>
      have later : ∀ clause ∈ others, clause.Grammatical :=
        fun other member => grammatical other (List.mem_cons_of_mem clause member)
      have found := read?_flatten_append (grammatical clause List.mem_cons_self)
        (beginsOutside_isDigit_flatMap_append later blank)
      rw [List.flatMap_cons, List.append_assoc, scan_of_some found,
        inductionHypothesis later]

end Clause
end Tabletop
