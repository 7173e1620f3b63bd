import Mathlib.Data.Bool.AllAny
import Mathlib.Data.List.TakeWhile
import Tabletop.Proofs.Notation.Reading
import Tabletop.Proofs.WholeNumber

/-!
# Blanks around notations

A notation may stand between blanks, which do not change what it is read as.  All of these
blanks but one are cut from a text before it is shown, so that the notation is shown alone.
The zero width no-break space U+FEFF is not cut, and neither is what stands between it and
the notation; so what is shown of a notation is read as the same pool.
-/

namespace Tabletop

/-! ## Cutting blanks -/

namespace Text

/-- A text with characters before and after it. -/
def padded (before : List Char) (text : String) (after : List Char) : String :=
  String.ofList (before ++ text.toList ++ after)

@[simp] theorem toList_padded (before : List Char) (text : String) (after : List Char) :
    (padded before text after).toList = before ++ text.toList ++ after := by
  simp [padded]

/-- A character that leaves a mark in plain text. -/
def IsVisible (character : Char) : Prop :=
  '!' ≤ character ∧ character ≤ '~'

instance (character : Char) : Decidable (IsVisible character) :=
  inferInstanceAs (Decidable ('!' ≤ character ∧ character ≤ '~'))

theorem isTrimmed_eq_false_of_isVisible
    {character : Char}
    (visible : IsVisible character) :
    isTrimmed character = false := by
  obtain ⟨low, high⟩ := visible
  rw [Char.le_def, UInt32.le_iff_toNat_le] at low high
  change 33 ≤ character.toNat at low
  change character.toNat ≤ 126 at high
  rw [Bool.eq_false_iff]
  simp only [isTrimmed, inRanges, commonBlankRanges, List.cons_append, List.nil_append,
    List.any_cons, List.any_nil, Bool.or_false, Ne, Bool.or_eq_true, Bool.and_eq_true,
    decide_eq_true_eq]
  omega

/-- Of the blanks of the grammar, one is not cut. -/
theorem isTrimmed_eq_false_iff_of_isBlank
    {character : Char}
    (blank : IsBlank character) :
    isTrimmed character = false ↔ character = '\uFEFF' := by
  have mark : character = '\uFEFF' ↔ character.toNat = 0xFEFF := by
    rw [← Char.toNat_inj]
    rfl
  rw [mark, Bool.eq_false_iff]
  simp only [IsBlank, List.mem_cons, List.not_mem_nil, or_false] at blank
  simp only [isTrimmed, inRanges, commonBlankRanges, List.cons_append, List.nil_append,
    List.any_cons, List.any_nil, Bool.or_false, Ne, Bool.or_eq_true, Bool.and_eq_true,
    decide_eq_true_eq]
  omega

section DropBoth

variable {isBlank : Char → Bool} {character : Char} {characters : List Char}

theorem beginsOutside_append
    (nonempty : characters ≠ [])
    (outside : ∀ character ∈ characters, isBlank character = false)
    (rest : List Char) :
    BeginsOutside isBlank (characters ++ rest) := by
  cases characters with
  | nil => contradiction
  | cons first others => exact beginsOutside_cons _ (outside first List.mem_cons_self)

/-- Blanks are dropped no further than to where the rest begins. -/
theorem dropWhile_append_eq
    {rest : List Char}
    (run : List Char)
    (boundary : BeginsOutside isBlank rest) :
    (run ++ rest).dropWhile isBlank = run.dropWhile isBlank ++ rest := by
  rw [List.dropWhile_append]
  split
  · rename_i empty
    have kept : ([] ++ rest).dropWhile isBlank = rest :=
      dropWhile_append_of_beginsOutside (List.forall_mem_nil _) boundary
    rw [List.isEmpty_iff.mp empty]
    exact kept
  · rfl

/-- Blanks are dropped from both ends up to characters that are not blank. -/
theorem dropBoth_append_append
    (nonempty : characters ≠ [])
    (outside : ∀ character ∈ characters, isBlank character = false)
    (before after : List Char) :
    dropBoth isBlank (before ++ characters ++ after) =
      before.dropWhile isBlank ++ characters ++ dropRight isBlank after := by
  have front : BeginsOutside isBlank (characters ++ after) :=
    beginsOutside_append nonempty outside after
  have back : BeginsOutside isBlank
      (characters.reverse ++ (before.dropWhile isBlank).reverse) :=
    beginsOutside_append (by simpa using nonempty) (by simpa using outside) _
  rw [dropBoth, List.append_assoc, dropWhile_append_eq before front, ← List.append_assoc, dropRight,
    List.reverse_append, List.reverse_append, dropWhile_append_eq after.reverse back,
    ← List.reverse_append, List.reverse_append, List.reverse_reverse]
  rfl

theorem dropRight_eq_nil
    (blank : ∀ character ∈ characters, isBlank character = true) :
    dropRight isBlank characters = [] := by
  rw [dropRight, List.dropWhile_eq_nil_iff.mpr (by simpa using blank), List.reverse_nil]

theorem mem_of_mem_dropRight (member : character ∈ dropRight isBlank characters) :
    character ∈ characters := by
  rw [dropRight, List.mem_reverse] at member
  exact List.mem_reverse.mp ((List.dropWhile_sublist isBlank).mem member)

theorem mem_dropWhile
    (member : character ∈ characters)
    (outside : isBlank character = false) :
    character ∈ characters.dropWhile isBlank := by
  rw [← List.takeWhile_append_dropWhile (p := isBlank) (l := characters)] at member
  refine (List.mem_append.mp member).resolve_left fun dropped => ?_
  have blank := List.all_eq_true.mp List.all_takeWhile character dropped
  rw [outside] at blank
  contradiction

theorem mem_of_mem_dropBoth (member : character ∈ dropBoth isBlank characters) :
    character ∈ characters :=
  (List.dropWhile_sublist isBlank).mem (mem_of_mem_dropRight member)

/-- What is not blank is not dropped. -/
theorem mem_dropBoth
    (member : character ∈ characters)
    (outside : isBlank character = false) :
    character ∈ dropBoth isBlank characters := by
  rw [dropBoth, dropRight, List.mem_reverse]
  apply mem_dropWhile _ outside
  rw [List.mem_reverse]
  exact mem_dropWhile member outside

end DropBoth

end Text

/-! ## Characters of notations -/

theorem Numeral.forall_mem_of_isProper
    {holds : Char → Prop}
    {digits : List Char}
    (digit : ∀ character, IsDigit character → holds character)
    (numeral : digits = [] ∨ IsProper digits) :
    ∀ character ∈ digits, holds character := by
  intro character member
  have proper := numeral.resolve_left (List.ne_nil_of_mem member)
  exact digit character (proper.isDigit_of_mem character member)

namespace Notation

/-- The characters of the grammar that are neither blanks nor digits. -/
def marks : List Char :=
  ['d', 'D', '%', '-', 'k', 'K', 'l', 'L', 'h', 'H']

section Characters

variable {holds : Char → Prop}

theorem IsSides.forall_mem
    {sides : List Char}
    (grammatical : IsSides sides)
    (digit : ∀ character, Numeral.IsDigit character → holds character)
    (mark : ∀ character ∈ marks, holds character) :
    ∀ character ∈ sides, holds character := by
  rcases grammatical.eq_percent_or_isProper with rfl | ⟨proper, -⟩
  · rw [List.forall_mem_singleton]
    exact mark '%' (by decide)
  · exact Numeral.forall_mem_of_isProper digit (.inr proper)

theorem forall_mem_flatten_clause
    {clause : Clause}
    (grammatical : clause.Grammatical)
    (digit : ∀ character, Numeral.IsDigit character → holds character)
    (mark : ∀ character ∈ marks, holds character) :
    ∀ character ∈ clause.flatten, holds character := by
  have modes : ['-', 'd', 'D', 'k', 'K'] ⊆ marks := by decide
  have edges : ['l', 'L', 'h', 'H'] ⊆ marks := by decide
  rw [Clause.flatten, List.forall_mem_cons, List.forall_mem_cons]
  exact ⟨mark _ (modes grammatical.modeLetter), mark _ (edges grammatical.edgeLetter),
    Numeral.forall_mem_of_isProper digit grammatical.digits⟩

/-- A notation has the blanks around it, digits and the marks of the grammar only. -/
theorem Grammatical.forall_mem_flatten
    {parts : Notation}
    (grammatical : parts.Grammatical)
    (blank : ∀ character ∈ parts.leading ++ parts.trailing, holds character)
    (digit : ∀ character, Numeral.IsDigit character → holds character)
    (mark : ∀ character ∈ marks, holds character) :
    ∀ character ∈ parts.flatten, holds character := by
  have letters : ['d', 'D'] ⊆ marks := by decide
  have letter : parts.letter ∈ ['d', 'D'] := by simpa using grammatical.letter
  rw [List.forall_mem_append] at blank
  rw [flatten_eq, tail, List.forall_mem_append, List.forall_mem_append, List.forall_mem_cons,
    List.forall_mem_append, List.forall_mem_append]
  refine ⟨blank.1, Numeral.forall_mem_of_isProper digit grammatical.count, mark _ (letters letter),
    grammatical.sides.forall_mem digit mark, ?_, blank.2⟩
  intro character member
  obtain ⟨clause, present, within⟩ := List.mem_flatMap.mp member
  exact forall_mem_flatten_clause (grammatical.clauses clause present) digit mark character within

/-- A character outside the grammar stands in no notation. -/
theorem Divides.not_mem
    {parts : Notation}
    {text : String}
    {other : Char}
    (divides : parts.Divides text)
    (notBlank : ¬ Text.IsBlank other)
    (notDigit : ¬ Numeral.IsDigit other)
    (notMark : other ∉ marks) :
    other ∉ text.toList := by
  have free : ∀ character ∈ parts.flatten, character ≠ other := by
    refine divides.grammatical.forall_mem_flatten ?_ ?_ ?_
    · intro character member
      have blank : Text.IsBlank character := by
        rcases List.mem_append.mp member with front | back
        · exact divides.grammatical.leading character front
        · exact divides.grammatical.trailing character back
      exact fun same => notBlank (same ▸ blank)
    · exact fun character digit same => notDigit (same ▸ digit)
    · exact fun character member => ne_of_mem_of_not_mem member notMark
  rw [← divides.whole]
  exact fun member => free other member rfl

end Characters

/-! ## Notations without blanks -/

/-- Parts of the grammar that make up a text, with no blanks at either end. -/
structure IsBare (parts : Notation) (text : String) : Prop extends parts.Divides text where
  leading : parts.leading = []
  trailing : parts.trailing = []

namespace IsBare

variable {parts : Notation} {text : String} {before after : List Char}

theorem of_read?
    (read : read? text.toList = some parts)
    (leading : parts.leading = [])
    (trailing : parts.trailing = []) :
    parts.IsBare text := by
  obtain ⟨grammatical, whole⟩ := read?_eq_some_iff.mp read
  exact { grammatical, whole, leading, trailing }

/-- Without blanks around it, a notation has characters that leave a mark only. -/
theorem isVisible (bare : parts.IsBare text) :
    ∀ character ∈ text.toList, Text.IsVisible character := by
  rw [← bare.whole]
  refine bare.grammatical.forall_mem_flatten ?_ ?_ ?_
  · rw [bare.leading, bare.trailing]
    exact List.forall_mem_nil _
  · rintro character ⟨low, high⟩
    exact ⟨Char.le_trans (by decide) low, Char.le_trans high (by decide)⟩
  · exact List.all_iff_forall_prop.mp (by decide)

/-! ## Notations between blanks -/

/-- The parts of a notation that is put between blanks. -/
theorem divides_padded
    (bare : parts.IsBare text)
    (blank : ∀ character ∈ before ++ after, Text.IsBlank character) :
    ({ parts with leading := before, trailing := after } : Notation).Divides
      (Text.padded before text after) := by
  rw [List.forall_mem_append] at blank
  refine {
    grammatical := { bare.grammatical with leading := blank.1, trailing := blank.2 }
    whole := ?_ }
  rw [Text.toList_padded, ← bare.whole]
  simp [flatten, tail, bare.leading, bare.trailing]

/-- Blanks around a notation do not change what it is read as. -/
theorem parse_padded
    (bare : parts.IsBare text)
    (blank : ∀ character ∈ before ++ after, Text.IsBlank character) :
    parse (Text.padded before text after) = parse text := by
  have padded := bare.divides_padded blank
  rw [padded.parse_eq, bare.parse_eq]
  exact padded.grammatical.pool_congr bare.grammatical rfl rfl rfl

/-- The blanks around a notation are cut no further than to the notation. -/
theorem trim_padded (bare : parts.IsBare text) (before after : List Char) :
    Text.trim (Text.padded before text after) =
      Text.padded (before.dropWhile Text.isTrimmed) text
        (Text.dropRight Text.isTrimmed after) := by
  have nonempty : text.toList ≠ [] := by
    simpa using bare.ne_empty
  have outside (character : Char) (member : character ∈ text.toList) :
      Text.isTrimmed character = false :=
    Text.isTrimmed_eq_false_of_isVisible (bare.isVisible character member)
  rw [← String.toList_inj, Text.toList_trim, Text.toList_padded, Text.toList_padded,
    Text.dropBoth_append_append nonempty outside]

/-- A notation between blanks is shown without them, unless one of them is the one that is
not cut. -/
theorem trim_padded_eq_iff
    (bare : parts.IsBare text)
    (blank : ∀ character ∈ before ++ after, Text.IsBlank character) :
    Text.trim (Text.padded before text after) = text ↔ '\uFEFF' ∉ before ++ after := by
  rw [← String.toList_inj, Text.toList_trim, Text.toList_padded]
  constructor
  · intro shown member
    have present : '\uFEFF' ∈ before ++ text.toList ++ after := by
      rcases List.mem_append.mp member with front | back
      · simp [front]
      · simp [back]
    have kept := Text.mem_dropBoth present (show Text.isTrimmed '\uFEFF' = false by decide)
    rw [shown] at kept
    exact absurd (bare.isVisible _ kept) (by decide)
  · intro none
    have trimmed (character : Char) (member : character ∈ before ++ after) :
        Text.isTrimmed character = true := by
      by_contra kept
      have mark := (Text.isTrimmed_eq_false_iff_of_isBlank (blank character member)).mp
        (Bool.eq_false_iff.mpr kept)
      rw [mark] at member
      exact none member
    rw [List.forall_mem_append] at trimmed
    rw [← Text.toList_padded, ← Text.toList_trim, bare.trim_padded,
      List.dropWhile_eq_nil_iff.mpr trimmed.1, Text.dropRight_eq_nil trimmed.2, Text.toList_padded,
      List.nil_append, List.append_nil]

theorem trim_eq (bare : parts.IsBare text) : Text.trim text = text := by
  rw [← String.toList_inj, Text.toList_trim]
  apply Text.dropBoth_of_forall
  intro character member
  exact Text.isTrimmed_eq_false_of_isVisible (bare.isVisible character member)

/-- What is left of the blanks when a notation is cut are blanks. -/
theorem parse_trim_padded
    (bare : parts.IsBare text)
    (blank : ∀ character ∈ before ++ after, Text.IsBlank character) :
    parse (Text.trim (Text.padded before text after)) = parse text := by
  rw [List.forall_mem_append] at blank
  rw [bare.trim_padded]
  apply bare.parse_padded
  rw [List.forall_mem_append]
  exact ⟨fun character member => blank.1 character ((List.dropWhile_sublist _).mem member),
    fun character member => blank.2 character (Text.mem_of_mem_dropRight member)⟩

end IsBare

/-- Every notation is one without blanks at its ends, put between blanks. -/
theorem Divides.exists_isBare
    {parts : Notation}
    {text : String}
    (divides : parts.Divides text) :
    ∃ (bare : Notation) (core : String) (before after : List Char),
      bare.IsBare core ∧
        (∀ character ∈ before ++ after, Text.IsBlank character) ∧
          Text.padded before core after = text := by
  let bare : Notation := { parts with leading := [], trailing := [] }
  refine ⟨bare, String.ofList bare.flatten, parts.leading, parts.trailing, ?_, ?_, ?_⟩
  · exact {
      grammatical := { divides.grammatical with
        leading := List.forall_mem_nil _
        trailing := List.forall_mem_nil _ }
      whole := String.toList_ofList.symm
      leading := rfl
      trailing := rfl }
  · rw [List.forall_mem_append]
    exact ⟨divides.grammatical.leading, divides.grammatical.trailing⟩
  · rw [← String.toList_inj, Text.toList_padded, String.toList_ofList, ← divides.whole]
    simp [bare, flatten, tail]

/-- A notation is read alike when it is cut. -/
theorem parse_trim
    {text : String}
    {pool : Pool}
    (parsed : parse text = .ok pool) :
    parse (Text.trim text) = .ok pool := by
  obtain ⟨parts, divides, -⟩ := parse_eq_ok_iff_pool.mp parsed
  obtain ⟨bare, core, before, after, isBare, blank, rfl⟩ := divides.exists_isBare
  rw [isBare.parse_trim_padded blank, ← isBare.parse_padded blank, parsed]

end Notation
end Tabletop
