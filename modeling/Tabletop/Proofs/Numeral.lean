import Mathlib.Algebra.Group.Nat.Defs
import Tabletop.Notation.Clause

/-!
# Proper numerals

A proper numeral is a digit from one to nine with any digits after it.  Reading
splits a proper numeral off whole whenever no digit follows it, and the numbers from
one on are exactly what proper numerals stand for.
-/

namespace Tabletop
namespace Text

/-! ## Runs of characters -/

/-- Whether a text is empty or begins with a character outside a class. -/
def BeginsOutside (belongs : Char → Bool) (characters : List Char) : Prop :=
  ∀ character ∈ characters.head?, belongs character = false

theorem beginsOutside_nil (belongs : Char → Bool) :
    BeginsOutside belongs [] := by
  simp [BeginsOutside]

theorem beginsOutside_cons
    {belongs : Char → Bool}
    {character : Char}
    (rest : List Char)
    (outside : belongs character = false) :
    BeginsOutside belongs (character :: rest) := by
  simpa [BeginsOutside] using outside

/-- A run of a class is taken whole where it ends. -/
theorem takeWhile_append_of_beginsOutside
    {belongs : Char → Bool}
    {run rest : List Char}
    (inside : ∀ character ∈ run, belongs character = true)
    (boundary : BeginsOutside belongs rest) :
    (run ++ rest).takeWhile belongs = run := by
  rw [List.takeWhile_append_of_pos inside]
  cases rest with
  | nil => simp
  | cons first others => simp [boundary first rfl]

/-- A run of a class is dropped whole where it ends. -/
theorem dropWhile_append_of_beginsOutside
    {belongs : Char → Bool}
    {run rest : List Char}
    (inside : ∀ character ∈ run, belongs character = true)
    (boundary : BeginsOutside belongs rest) :
    (run ++ rest).dropWhile belongs = rest := by
  rw [List.dropWhile_append_of_pos inside]
  cases rest with
  | nil => rfl
  | cons first others => simp [boundary first rfl]

end Text

namespace Numeral

/-! ## Digits -/

/-- A character from zero to nine. -/
def IsDigit (character : Char) : Prop :=
  '0' ≤ character ∧ character ≤ '9'

/-- A character from one to nine. -/
def IsLeadingDigit (character : Char) : Prop :=
  '1' ≤ character ∧ character ≤ '9'

/-- A digit from one to nine, and any digits after it. -/
def IsProper : List Char → Prop
  | [] => False
  | first :: rest => IsLeadingDigit first ∧ ∀ digit ∈ rest, IsDigit digit

theorem isDigit_iff (character : Char) :
    character.isDigit = true ↔ IsDigit character := by
  simp only [Char.isDigit_iff_toNat, IsDigit, Char.le_def, UInt32.le_iff_toNat_le]
  rfl

theorem isLeading_iff (character : Char) :
    isLeading character = true ↔ IsLeadingDigit character := by
  have different : character ≠ '0' ↔ character.toNat ≠ 48 := by
    rw [Ne, ← Char.toNat_inj]
    rfl
  simp only [isLeading, Bool.and_eq_true, bne_iff_ne, Char.isDigit_iff_toNat,
    IsLeadingDigit, Char.le_def, UInt32.le_iff_toNat_le, different]
  change (48 ≤ character.toNat ∧ character.toNat ≤ 57) ∧ character.toNat ≠ 48 ↔
    49 ≤ character.toNat ∧ character.toNat ≤ 57
  omega

theorem IsLeadingDigit.isDigit
    {character : Char}
    (leading : IsLeadingDigit character) :
    character.isDigit = true := by
  have both := (isLeading_iff character).mpr leading
  rw [isLeading, Bool.and_eq_true] at both
  exact both.1

/-! ## Splitting numerals off -/

/-- A proper numeral is split off whole where no digit follows it. -/
theorem split_append_of_isProper
    {digits rest : List Char}
    (proper : IsProper digits)
    (boundary : Text.BeginsOutside Char.isDigit rest) :
    split (digits ++ rest) = (digits, rest) := by
  cases digits with
  | nil => exact False.elim proper
  | cons first others =>
      obtain ⟨leading, digits⟩ := proper
      have inside : ∀ digit ∈ others, digit.isDigit = true :=
        fun digit member => (isDigit_iff digit).mpr (digits digit member)
      rw [List.cons_append, split, if_pos ((isLeading_iff first).mpr leading),
        Text.takeWhile_append_of_beginsOutside inside boundary,
        Text.dropWhile_append_of_beginsOutside inside boundary]

/-- Nothing is split off a text that does not begin with a digit. -/
theorem split_of_beginsOutside
    {characters : List Char}
    (boundary : Text.BeginsOutside Char.isDigit characters) :
    split characters = ([], characters) := by
  cases characters with
  | nil => rfl
  | cons first others => simp [split, isLeading, boundary first rfl]

/-- A numeral that may be missing is split off whole where no digit follows it. -/
theorem split_append_of_eq_nil_or_isProper
    {digits rest : List Char}
    (numeral : digits = [] ∨ IsProper digits)
    (boundary : Text.BeginsOutside Char.isDigit rest) :
    split (digits ++ rest) = (digits, rest) := by
  rcases numeral with rfl | proper
  · exact split_of_beginsOutside boundary
  · exact split_append_of_isProper proper boundary

/-- What is split off is nothing or a proper numeral. -/
theorem split_fst_eq_nil_or_isProper (characters : List Char) :
    (split characters).1 = [] ∨ IsProper (split characters).1 := by
  cases characters with
  | nil => exact Or.inl rfl
  | cons first others =>
      by_cases leading : isLeading first = true
      · right
        rw [split, if_pos leading]
        refine ⟨(isLeading_iff first).mp leading, fun digit member => ?_⟩
        exact (isDigit_iff digit).mp
          (List.all_eq_true.mp List.all_takeWhile digit member)
      · left
        rw [split, if_neg leading]

/-! ## Values -/

theorem IsProper.ne_nil
    {digits : List Char}
    (proper : IsProper digits) :
    digits ≠ [] := by
  rintro rfl
  exact proper

/-- The first digit counts by its place. -/
theorem value_cons (first : Char) (rest : List Char) :
    value (first :: rest) =
      10 ^ rest.length * (first.toNat - '0'.toNat) + value rest := by
  rw [value, Nat.ofDigitChars_cons, Nat.ofDigitChars_eq_ofDigitChars_zero]
  simp [value]

/-- A number has at most as many digits as a numeral that denotes it. -/
theorem value_lt_pow_length
    {digits : List Char}
    (all : ∀ digit ∈ digits, IsDigit digit) :
    value digits < 10 ^ digits.length := by
  induction digits with
  | nil => simp [value]
  | cons first rest inductionHypothesis =>
      have small := inductionHypothesis
        fun digit member => all digit (List.mem_cons_of_mem first member)
      have digit : first.toNat ≤ '9'.toNat :=
        (Char.isDigit_iff_toNat.mp
          ((isDigit_iff first).mpr (all first List.mem_cons_self))).2
      have atMostNine : first.toNat - '0'.toNat ≤ 9 := by
        change first.toNat ≤ 57 at digit
        change first.toNat - 48 ≤ 9
        omega
      have scaled := Nat.mul_le_mul_left (10 ^ rest.length) atMostNine
      rw [value_cons, List.length_cons, Nat.pow_succ]
      omega

theorem IsProper.isDigit_of_mem
    {digits : List Char}
    (proper : IsProper digits) :
    ∀ digit ∈ digits, IsDigit digit := by
  cases digits with
  | nil => exact False.elim proper
  | cons first rest =>
      intro digit member
      rcases List.mem_cons.mp member with rfl | later
      · exact (isDigit_iff digit).mp proper.1.isDigit
      · exact proper.2 digit later

/-- A proper numeral stands for at least the power of ten that its first place has. -/
theorem IsProper.pow_le_value
    {digits : List Char}
    (proper : IsProper digits) :
    10 ^ (digits.length - 1) ≤ value digits := by
  cases digits with
  | nil => exact False.elim proper
  | cons first rest =>
      have leading := (isLeading_iff first).mpr proper.1
      have atLeastOne : 1 ≤ first.toNat - '0'.toNat := by
        have low := proper.1.1
        rw [Char.le_def, UInt32.le_iff_toNat_le] at low
        change 49 ≤ first.toNat at low
        change 1 ≤ first.toNat - 48
        omega
      have scaled := Nat.mul_le_mul_left (10 ^ rest.length) atLeastOne
      rw [value_cons]
      simp only [List.length_cons, Nat.add_sub_cancel]
      omega

/-- A proper numeral does not stand for zero. -/
theorem IsProper.one_le_value
    {digits : List Char}
    (proper : IsProper digits) :
    1 ≤ value digits :=
  Nat.le_trans Nat.one_le_two_pow
    (Nat.le_trans (Nat.pow_le_pow_left (by decide) _) proper.pow_le_value)

/-! ## The digits of a number -/

/-- The digits of a positive number make a proper numeral. -/
theorem isProper_digits
    (number : Nat)
    (positive : 1 ≤ number) :
    IsProper (digits number) := by
  induction number using Nat.strongRecOn with
  | ind number inductionHypothesis =>
      by_cases small : number < 10
      · rw [digits, Nat.toDigits_of_lt_base small]
        refine ⟨?_, by simp⟩
        rw [← isLeading_iff, isLeading, Nat.isDigit_digitChar]
        have nonzero : number ≠ 0 := by omega
        simp [small, nonzero]
      · have front : IsProper (digits (number / 10)) :=
          inductionHypothesis (number / 10) (by omega) (by omega)
        have last : IsDigit (number % 10).digitChar := by
          rw [← isDigit_iff, Nat.isDigit_digitChar]
          simpa using Nat.mod_lt number (by decide)
        rw [digits, Nat.toDigits_of_base_le (by decide) (by omega)]
        change IsProper (digits (number / 10) ++ [(number % 10).digitChar])
        cases written : digits (number / 10) with
        | nil => exact False.elim (front.ne_nil written)
        | cons first rest =>
            rw [written] at front
            refine ⟨front.1, fun digit member => ?_⟩
            rcases List.mem_append.mp member with earlier | final
            · exact front.2 digit earlier
            · rw [List.mem_singleton.mp final]
              exact last

/-- A number below a power of ten has no more digits than the exponent. -/
theorem length_digits_le
    {number exponent : Nat}
    (positive : 0 < exponent)
    (small : number < 10 ^ exponent) :
    (digits number).length ≤ exponent :=
  (Nat.length_toDigits_le_iff (by decide) positive).mpr small

theorem lt_length_digits_pow
    (exponent : Nat)
    (positive : 0 < exponent) :
    exponent < (digits (10 ^ exponent)).length := by
  rw [← Nat.not_le, digits, Nat.length_toDigits_le_iff (by decide) positive]
  exact Nat.lt_irrefl _

/-- A power of ten is the first number that has too many digits. -/
theorem not_writable_pow_digitLimit :
    ¬ Writable (10 ^ digitLimit : Nat) := by
  rw [writable_natCast_iff, Nat.not_le]
  exact lt_length_digits_pow digitLimit (by decide)

/-- The number that a numeral stands for has no more digits than the numeral. -/
theorem length_digits_value_le
    {numeral : List Char}
    (proper : IsProper numeral) :
    (digits (value numeral)).length ≤ numeral.length :=
  length_digits_le (List.length_pos_iff.mpr proper.ne_nil)
    (value_lt_pow_length proper.isDigit_of_mem)

end Numeral
end Tabletop
