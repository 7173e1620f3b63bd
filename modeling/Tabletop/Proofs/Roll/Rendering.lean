import Tabletop.Proofs.Description
import Tabletop.Roll.Outcome

/-!
# Outcomes in words

An outcome is shown in a line and written down as a record.  Both give the text that was
rolled without the blanks around it, and then only numbers and plain marks between them.
Neither is possible if one of the numbers is beyond the digit limit.
-/

namespace Tabletop

/-! ## Plain text -/

namespace Text

/-- A text of the space and of characters that leave a mark, so that it stands on one
line. -/
def Plain (text : String) : Prop :=
  ∀ character ∈ text.toList, ' ' ≤ character ∧ character ≤ '~'

instance (text : String) : Decidable (Plain text) :=
  List.decidableBAll _ text.toList

theorem plain_append {first second : String} :
    Plain (first ++ second) ↔ Plain first ∧ Plain second := by
  unfold Plain
  rw [String.toList_append, List.forall_mem_append]

/-- Texts that are joined have the characters of the texts and of what stands between them. -/
theorem forall_mem_intercalate
    {holds : Char → Prop}
    {separator : String}
    {texts : List String}
    (between : ∀ character ∈ separator.toList, holds character)
    (within : ∀ text ∈ texts, ∀ character ∈ text.toList, holds character) :
    ∀ character ∈ (String.intercalate separator texts).toList, holds character := by
  rw [String.toList_intercalate]
  induction texts with
  | nil => simp
  | cons first rest inductionHypothesis =>
      rw [List.forall_mem_cons] at within
      cases rest with
      | nil =>
          rw [List.map_cons, List.map_nil, List.intercalate_singleton]
          exact within.1
      | cons second others =>
          rw [List.map_cons, List.map_cons, List.intercalate_cons_cons, List.forall_mem_append,
            List.forall_mem_append]
          exact ⟨⟨within.1, between⟩, inductionHypothesis within.2⟩

end Text

namespace Numeral

theorem plain_digits (number : Nat) :
    ∀ digit ∈ digits number, ' ' ≤ digit ∧ digit ≤ '~' := by
  intro digit member
  obtain ⟨low, high⟩ := (isDigit_iff digit).mp
    (Nat.isDigit_of_mem_toDigits (by decide) (by decide) member)
  exact ⟨Char.le_trans (by decide) low, Char.le_trans high (by decide)⟩

theorem plain_text (number : Int) : Text.Plain (text number) := by
  unfold Text.Plain text
  cases number with
  | ofNat magnitude =>
      rw [String.toList_ofList]
      exact plain_digits magnitude
  | negSucc magnitude =>
      rw [String.toList_ofList, List.forall_mem_cons]
      exact ⟨by decide, plain_digits (magnitude + 1)⟩

end Numeral

namespace Outcome

/-! ## Lists of numbers -/

/-- Numbers separated by commas, whatever their lengths. -/
def listText (numbers : List Int) : String :=
  String.intercalate ", " (numbers.map Numeral.text)

theorem plain_listText (numbers : List Int) : Text.Plain (listText numbers) := by
  have separator : Text.Plain ", " := by decide
  apply Text.forall_mem_intercalate separator
  rw [List.forall_mem_map]
  exact fun number _ => Numeral.plain_text number

theorem mapM_write_eq_ok_iff
    {numbers : List Int}
    {written : List String} :
    numbers.mapM Numeral.write = .ok written ↔
      (∀ number ∈ numbers, Numeral.Writable number) ∧ numbers.map Numeral.text = written := by
  induction numbers generalizing written with
  | nil => simp [pure, Except.pure]
  | cons number numbers inductionHypothesis =>
      rw [List.mapM_cons, List.forall_mem_cons, List.map_cons]
      simp only [Fault.bind_eq_ok_iff, Numeral.write_eq_ok_iff, inductionHypothesis]
      constructor
      · rintro ⟨_, ⟨first, rfl⟩, _, ⟨others, rfl⟩, result⟩
        exact ⟨⟨first, others⟩, Except.ok.inj result⟩
      · rintro ⟨⟨first, others⟩, rfl⟩
        exact ⟨_, ⟨first, rfl⟩, _, ⟨others, rfl⟩, rfl⟩

/-- Numbers are written in a list if each of them can be written. -/
theorem writeList_eq_ok_iff
    {numbers : List Int}
    {written : String} :
    writeList numbers = .ok written ↔
      (∀ number ∈ numbers, Numeral.Writable number) ∧ listText numbers = written := by
  unfold writeList listText
  rw [Fault.bind_eq_ok_iff]
  constructor
  · rintro ⟨_, texts, result⟩
    obtain ⟨writable, rfl⟩ := mapM_write_eq_ok_iff.mp texts
    exact ⟨writable, Except.ok.inj result⟩
  · rintro ⟨writable, rfl⟩
    exact ⟨_, mapM_write_eq_ok_iff.mpr ⟨writable, rfl⟩, rfl⟩

/-! ## Records -/

/-- All numbers of an outcome can be written. -/
structure Writable (outcome : Outcome) : Prop where
  kept : ∀ number ∈ outcome.kept, Numeral.Writable number
  dropped : ∀ number ∈ outcome.dropped, Numeral.Writable number
  total : Numeral.Writable outcome.total

/-- What a record says after the text that was rolled. -/
def recordTail (outcome : Outcome) : String :=
  " | kept=[" ++ listText outcome.kept ++ "] | dropped=[" ++ listText outcome.dropped ++
    "] | total=" ++ Numeral.text outcome.total

/-- An outcome is written down if its numbers can be written. -/
theorem record_eq_ok_iff
    {outcome : Outcome}
    {record : Log.Record} :
    outcome.record = .ok record ↔
      outcome.Writable ∧
        .debug ("ROLL | source=" ++ Text.trim outcome.source ++ outcome.recordTail) = record := by
  unfold Outcome.record recordTail
  simp only [Fault.bind_eq_ok_iff, writeList_eq_ok_iff, Numeral.write_eq_ok_iff,
    ← String.append_assoc]
  constructor
  · rintro ⟨_, ⟨kept, rfl⟩, _, ⟨dropped, rfl⟩, _, ⟨total, rfl⟩, result⟩
    exact ⟨⟨kept, dropped, total⟩, Except.ok.inj result⟩
  · rintro ⟨writable, rfl⟩
    exact ⟨_, ⟨writable.kept, rfl⟩, _, ⟨writable.dropped, rfl⟩, _, ⟨writable.total, rfl⟩, rfl⟩

/-- A total beyond the digit limit keeps an outcome from being written down. -/
theorem record_of_not_writable
    {outcome : Outcome}
    (kept : ∀ number ∈ outcome.kept, Numeral.Writable number)
    (dropped : ∀ number ∈ outcome.dropped, Numeral.Writable number)
    (total : ¬ Numeral.Writable outcome.total) :
    outcome.record = .error .numberTooLong := by
  rw [Outcome.record, writeList_eq_ok_iff.mpr ⟨kept, rfl⟩, Fault.ok_bind,
    writeList_eq_ok_iff.mpr ⟨dropped, rfl⟩, Fault.ok_bind, Numeral.write_of_not_writable total,
    Fault.error_bind]

/-! ## Lines -/

/-- What a line says after the text that was rolled. -/
def lineTail (outcome : Outcome) : String :=
  if outcome.kept.length = 1 ∧ outcome.dropped = [] then " = " ++ Numeral.text outcome.total
  else if outcome.dropped = [] then
    " = [" ++ listText outcome.kept ++ "] = " ++ Numeral.text outcome.total
  else
    " = [" ++ listText outcome.kept ++ "] (dropped " ++ listText outcome.dropped ++ ") = " ++
      Numeral.text outcome.total

theorem plain_lineTail (outcome : Outcome) : Text.Plain outcome.lineTail := by
  have kept := plain_listText outcome.kept
  have dropped := plain_listText outcome.dropped
  have total := Numeral.plain_text outcome.total
  unfold lineTail
  split
  · rw [Text.plain_append]
    exact ⟨by decide, total⟩
  · split
    · simp only [Text.plain_append]
      exact ⟨⟨⟨by decide, kept⟩, by decide⟩, total⟩
    · simp only [Text.plain_append]
      exact ⟨⟨⟨⟨⟨by decide, kept⟩, by decide⟩, dropped⟩, by decide⟩, total⟩

/-- A line is the text that was rolled, without the blanks around it, and its tail. -/
theorem eq_of_line
    {outcome : Outcome}
    {line : String}
    (shown : outcome.line = .ok line) :
    line = Text.trim outcome.source ++ outcome.lineTail := by
  unfold Outcome.line at shown
  unfold lineTail
  split
  · rename_i single
    simp only [if_pos single] at shown
    obtain ⟨_, total, result⟩ := Fault.bind_eq_ok_iff.mp shown
    obtain ⟨-, rfl⟩ := Numeral.write_eq_ok_iff.mp total
    rw [← Except.ok.inj result, String.append_assoc]
  · rename_i several
    simp only [if_neg several] at shown
    obtain ⟨_, kept, rest⟩ := Fault.bind_eq_ok_iff.mp shown
    obtain ⟨-, rfl⟩ := writeList_eq_ok_iff.mp kept
    split
    · rename_i whole
      simp only [if_pos whole] at rest
      obtain ⟨_, total, result⟩ := Fault.bind_eq_ok_iff.mp rest
      obtain ⟨-, rfl⟩ := Numeral.write_eq_ok_iff.mp total
      rw [← Except.ok.inj result]
      simp [String.append_assoc]
    · rename_i part
      simp only [if_neg part] at rest
      obtain ⟨_, dropped, final⟩ := Fault.bind_eq_ok_iff.mp rest
      obtain ⟨-, rfl⟩ := writeList_eq_ok_iff.mp dropped
      obtain ⟨_, total, result⟩ := Fault.bind_eq_ok_iff.mp final
      obtain ⟨-, rfl⟩ := Numeral.write_eq_ok_iff.mp total
      rw [← Except.ok.inj result]
      simp [String.append_assoc]

theorem line_of_writable
    {outcome : Outcome}
    (writable : outcome.Writable) :
    outcome.line = .ok (Text.trim outcome.source ++ outcome.lineTail) := by
  have kept := writeList_eq_ok_iff.mpr ⟨writable.kept, rfl⟩
  have dropped := writeList_eq_ok_iff.mpr ⟨writable.dropped, rfl⟩
  have total := Numeral.write_eq_ok_iff.mpr ⟨writable.total, rfl⟩
  have shown : ∃ line, outcome.line = .ok line := by
    unfold Outcome.line
    rw [kept, dropped, total]
    split
    · exact ⟨_, rfl⟩
    · simp only [Fault.ok_bind]
      split
      · exact ⟨_, rfl⟩
      · exact ⟨_, rfl⟩
  obtain ⟨line, shown⟩ := shown
  rw [shown, eq_of_line shown]

end Outcome
end Tabletop
