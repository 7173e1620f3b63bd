import Mathlib.Data.List.Induction
import Tabletop.CommandLine.WholeNumber
import Tabletop.Proofs.Description
import Tabletop.Validation

/-!
# Whole numbers from outside

The numeral of a positive number is read alike on the command line and in a form
field: as that number within the digit limit, and not at all beyond it.  Whatever is
read on the command line is within the limit.
-/

namespace Tabletop

namespace Text

theorem dropBoth_of_forall
    {isBlank : Char → Bool}
    {characters : List Char}
    (none : ∀ character ∈ characters, isBlank character = false) :
    dropBoth isBlank characters = characters := by
  have keeps {list : List Char} (outside : ∀ character ∈ list, isBlank character = false) :
      list.dropWhile isBlank = list := by
    cases list with
    | nil => rfl
    | cons first rest => simp [outside first List.mem_cons_self]
  rw [dropBoth, dropRight, keeps none, keeps (by simpa using none), List.reverse_reverse]

theorem isFieldBlank_eq_false_of_isDigit
    {character : Char}
    (digit : Numeral.IsDigit character) :
    isFieldBlank character = false := by
  have bounds := Char.isDigit_iff_toNat.mp ((Numeral.isDigit_iff character).mpr digit)
  change 48 ≤ character.toNat ∧ character.toNat ≤ 57 at bounds
  rw [Bool.eq_false_iff]
  simp only [isFieldBlank, inRanges, commonBlankRanges, List.cons_append, List.nil_append,
    List.any_cons, List.any_nil, Bool.or_false, Ne, Bool.or_eq_true, Bool.and_eq_true,
    decide_eq_true_eq]
  omega

theorem decimalValue?_of_isDigit
    {character : Char}
    (digit : Numeral.IsDigit character) :
    decimalValue? character = some (character.toNat - '0'.toNat) := by
  have bounds := Char.isDigit_iff_toNat.mp ((Numeral.isDigit_iff character).mpr digit)
  change 48 ≤ character.toNat ∧ character.toNat ≤ 57 at bounds
  have first : (decide (48 ≤ character.toNat) && decide (character.toNat < 48 + 10)) = true := by
    simp only [Bool.and_eq_true, decide_eq_true_eq]
    omega
  rw [decimalValue?, decimalZeros, List.find?_cons_of_pos (p := fun start =>
    decide (start ≤ character.toNat) && decide (character.toNat < start + 10)) first]
  rfl

theorem lt_ten_of_decimalValue?
    {character : Char}
    {value : Nat}
    (found : decimalValue? character = some value) :
    value < 10 := by
  obtain ⟨start, run, rfl⟩ := Option.map_eq_some_iff.mp found
  have within := List.find?_some run
  simp only [Bool.and_eq_true, decide_eq_true_eq] at within
  omega

end Text

namespace Numeral

theorem IsDigit.ne_lowLine
    {character : Char}
    (digit : IsDigit character) :
    character ≠ '_' := by
  rintro rfl
  exact absurd digit.2 (by decide)

theorem IsLeadingDigit.ne_zero
    {character : Char}
    (leading : IsLeadingDigit character) :
    character ≠ '0' := by
  rintro rfl
  exact absurd leading.1 (by decide)

theorem IsLeadingDigit.ne_minus
    {character : Char}
    (leading : IsLeadingDigit character) :
    character ≠ '-' := by
  rintro rfl
  exact absurd leading.1 (by decide)

theorem IsLeadingDigit.ne_plus
    {character : Char}
    (leading : IsLeadingDigit character) :
    character ≠ '+' := by
  rintro rfl
  exact absurd leading.1 (by decide)

end Numeral

/-! ## The command line -/

namespace CommandLine

open Numeral

/-- The values of digits, one by one. -/
def valuesOfDigits (digits : List Char) : List Nat :=
  digits.map fun digit => digit.toNat - '0'.toNat

theorem laterDigits?_of_isDigit
    {digits : List Char}
    (all : ∀ digit ∈ digits, IsDigit digit) :
    laterDigits? digits = some (valuesOfDigits digits) := by
  induction digits with
  | nil => rfl
  | cons first rest inductionHypothesis =>
      rw [List.forall_mem_cons] at all
      have rest := inductionHypothesis all.2
      rw [laterDigits?]
      · simp [Text.decimalValue?_of_isDigit all.1, rest, valuesOfDigits]
      · intro low
        exact absurd low all.1.ne_lowLine
      · intro _ _ low
        exact absurd low all.1.ne_lowLine

theorem numberOfDigits_valuesOfDigits (digits : List Char) :
    numberOfDigits (valuesOfDigits digits) = value digits := by
  unfold numberOfDigits valuesOfDigits value Nat.ofDigitChars
  rw [List.foldl_map]
  simp [Nat.mul_comm]

theorem magnitude?_of_isProper
    {digits : List Char}
    (proper : IsProper digits)
    (short : digits.length ≤ digitLimit) :
    magnitude? digits = some (value digits) := by
  have values : digitValues? digits = some (valuesOfDigits digits) := by
    cases digits with
    | nil => exact False.elim proper
    | cons first rest =>
        have digit := proper.isDigit_of_mem first List.mem_cons_self
        simp [digitValues?, Text.decimalValue?_of_isDigit digit,
          laterDigits?_of_isDigit proper.2, valuesOfDigits]
  have length : (valuesOfDigits digits).length ≤ digitLimit := by
    simpa [valuesOfDigits] using short
  simp only [magnitude?, values]
  rw [if_pos length, numberOfDigits_valuesOfDigits]

/-- The numeral of a positive number within the digit limit denotes that number. -/
theorem wholeNumber?_text
    {number : Nat}
    (positive : 1 ≤ number)
    (writable : Writable number) :
    wholeNumber? (text number) = some (number : Int) := by
  have proper := isProper_digits number positive
  have short := (writable_natCast_iff number).mp writable
  have trimmed : Text.dropBoth Text.isFieldBlank (digits number) = digits number :=
    Text.dropBoth_of_forall fun digit member =>
      Text.isFieldBlank_eq_false_of_isDigit (proper.isDigit_of_mem digit member)
  have magnitude : magnitude? (digits number) = some number := by
    rw [magnitude?_of_isProper proper short, value_digits]
  unfold wholeNumber?
  rw [text_natCast, String.toList_ofList, trimmed]
  cases written : digits number with
  | nil => exact absurd written proper.ne_nil
  | cons first rest =>
      rw [written] at proper magnitude
      split
      · rename_i same
        exact absurd (List.cons.inj same).1 proper.1.ne_plus
      · rename_i same
        exact absurd (List.cons.inj same).1 proper.1.ne_minus
      · rw [magnitude]
        rfl

theorem numberOfDigits_append (digits : List Nat) (last : Nat) :
    numberOfDigits (digits ++ [last]) = numberOfDigits digits * 10 + last := by
  simp [numberOfDigits]

theorem numberOfDigits_lt
    {digits : List Nat}
    (small : ∀ digit ∈ digits, digit < 10) :
    numberOfDigits digits < 10 ^ digits.length := by
  induction digits using List.reverseRecOn with
  | nil => simp [numberOfDigits]
  | append_singleton digits last inductionHypothesis =>
      have earlier := inductionHypothesis fun digit member =>
        small digit (List.mem_append_left _ member)
      have lastSmall := small last (by simp)
      rw [numberOfDigits_append, List.length_append, List.length_singleton, Nat.pow_succ]
      omega

theorem lt_ten_of_laterDigits?
    {characters : List Char}
    {digits : List Nat}
    (read : laterDigits? characters = some digits) :
    ∀ digit ∈ digits, digit < 10 := by
  fun_induction laterDigits? characters generalizing digits with
  | case1 =>
      obtain rfl := Option.some.inj read
      simp
  | case2 => contradiction
  | case3 character rest inductionHypothesis =>
      simp only [bind, Option.bind_eq_some_iff] at read
      obtain ⟨first, firstRead, later, laterRead, result⟩ := read
      obtain rfl := Option.some.inj result
      rw [List.forall_mem_cons]
      exact ⟨Text.lt_ten_of_decimalValue? firstRead, inductionHypothesis laterRead⟩
  | case4 character rest _ _ inductionHypothesis =>
      simp only [bind, Option.bind_eq_some_iff] at read
      obtain ⟨first, firstRead, later, laterRead, result⟩ := read
      obtain rfl := Option.some.inj result
      rw [List.forall_mem_cons]
      exact ⟨Text.lt_ten_of_decimalValue? firstRead, inductionHypothesis laterRead⟩

theorem lt_pow_of_magnitude?
    {characters : List Char}
    {magnitude : Nat}
    (read : magnitude? characters = some magnitude) :
    magnitude < 10 ^ digitLimit := by
  unfold magnitude? at read
  split at read
  · contradiction
  · rename_i digits values
    split at read
    · rename_i short
      obtain rfl := Option.some.inj read
      have small : ∀ digit ∈ digits, digit < 10 := by
        cases characters with
        | nil => contradiction
        | cons first rest =>
            simp only [digitValues?, bind, Option.bind_eq_some_iff] at values
            obtain ⟨value, firstRead, later, laterRead, result⟩ := values
            obtain rfl := Option.some.inj result
            rw [List.forall_mem_cons]
            exact ⟨Text.lt_ten_of_decimalValue? firstRead, lt_ten_of_laterDigits? laterRead⟩
      exact Nat.lt_of_lt_of_le (numberOfDigits_lt small)
        (Nat.pow_le_pow_right (by decide) short)
    · contradiction

/-- A number that is read can be written. -/
theorem writable_of_wholeNumber?
    {argument : String}
    {number : Int}
    (read : wholeNumber? argument = some number) :
    Writable number := by
  have bounded {characters : List Char}
      (found : magnitude? characters = some number.natAbs) : Writable number := by
    have power (exponent : Nat) : Nat.pow 10 exponent = 10 ^ exponent := rfl
    rw [Writable, power]
    exact lt_pow_of_magnitude? found
  unfold wholeNumber? at read
  split at read
  · obtain ⟨magnitude, found, rfl⟩ := Option.map_eq_some_iff.mp read
    exact bounded found
  · obtain ⟨_, signed, rfl⟩ := Option.map_eq_some_iff.mp read
    obtain ⟨magnitude, found, result⟩ := Option.bind_eq_some_iff.mp signed
    obtain rfl := Option.some.inj result
    exact bounded (by simpa using found)
  · obtain ⟨magnitude, found, rfl⟩ := Option.map_eq_some_iff.mp read
    exact bounded found

end CommandLine

/-! ## Form fields -/

namespace Validation

open Numeral

/-- A proper numeral is read without any looseness, unless it is too long. -/
theorem attempt_of_isProper
    {digits : List Char}
    (proper : IsProper digits) :
    attempt digits =
      if digits.length > digitLimit then .tooLong else .number (value digits) := by
  cases digits with
  | nil => exact False.elim proper
  | cons first rest =>
      have whole : leadingDigits (first :: rest) = (first :: rest, []) := by
        rw [leadingDigits]
        · have all : ∀ digit ∈ first :: rest, digit.isDigit = true := fun digit member =>
            (isDigit_iff digit).mpr (proper.isDigit_of_mem digit member)
          have boundary := Text.beginsOutside_nil Char.isDigit
          have taken := Text.takeWhile_append_of_beginsOutside all boundary
          have dropped := Text.dropWhile_append_of_beginsOutside all boundary
          rw [List.append_nil] at taken dropped
          rw [taken, dropped]
        · intro _ same
          exact absurd (List.cons.inj same).1 proper.1.ne_zero
      simp [attempt, proper.1.ne_minus, whole]

/-- The numeral of a positive number within the digit limit denotes that number. -/
theorem boundedNumber_text
    {number minimum : Nat}
    (positive : 1 ≤ number)
    (large : minimum ≤ number)
    (writable : Writable number) :
    boundedNumber minimum (.text (Numeral.text number)) = .ok ⟨number, large⟩ := by
  have short := (writable_natCast_iff number).mp writable
  have read : attempt (digits number) = .number number := by
    rw [attempt_of_isProper (isProper_digits number positive), if_neg (by omega), value_digits]
  have accepted : AtLeast.ofInt? minimum (number : Int) = some ⟨number, large⟩ :=
    AtLeast.ofInt?_eq_some_iff.mpr rfl
  simp [boundedNumber, wholeNumber, wholeNumberOfText, text_natCast, read, bind, Except.bind,
    accepted, pure, Except.pure]

/-- The numeral of a number beyond the digit limit is refused for its size. -/
theorem boundedNumber_text_of_not_writable
    {number minimum : Nat}
    (positive : 1 ≤ number)
    (long : ¬ Writable number) :
    boundedNumber minimum (.text (Numeral.text number)) = .error .wholeNumberSize := by
  have digitsLong := mt (writable_natCast_iff number).mpr long
  have read : attempt (digits number) = .tooLong := by
    rw [attempt_of_isProper (isProper_digits number positive), if_pos (by omega)]
  simp [boundedNumber, wholeNumber, wholeNumberOfText, text_natCast, read, bind, Except.bind]

end Validation
end Tabletop
