import Tabletop.Proofs.Roll.Rendering

/-!
# Texts that are told apart

Where one text follows another, the two are told apart if something ends the run of characters
that stands first.  So numbers, and lists of numbers with commas between them, are read back
from what is written for them, whatever their lengths.
-/

namespace Tabletop

/-! ## Runs -/

theorem Text.append_ne_empty
    {first : String}
    (nonempty : first ≠ "")
    (rest : String) :
    first ++ rest ≠ "" :=
  fun empty => nonempty (String.append_eq_empty_iff.mp empty).1

/-- A text begins outside a class if its first part does. -/
theorem Text.beginsOutside_append_of_head
    {belongs : Char → Bool}
    (first : String)
    (outside : first.toList.head?.map belongs = some false)
    (rest : String) :
    BeginsOutside belongs (first ++ rest).toList := by
  obtain ⟨character, head, apart⟩ := Option.map_eq_some_iff.mp outside
  obtain ⟨others, characters⟩ := List.head?_eq_some_iff.mp head
  rw [String.toList_append, characters]
  exact beginsOutside_cons _ apart

/-- A run of a class is told apart from what follows, where that begins outside the class. -/
theorem Text.append_inj_of_beginsOutside
    {belongs : Char → Bool}
    {first second firstRest secondRest : String}
    (firstInside : ∀ character ∈ first.toList, belongs character = true)
    (secondInside : ∀ character ∈ second.toList, belongs character = true)
    (firstBoundary : BeginsOutside belongs firstRest.toList)
    (secondBoundary : BeginsOutside belongs secondRest.toList)
    (same : first ++ firstRest = second ++ secondRest) :
    first = second ∧ firstRest = secondRest := by
  have characters : first.toList ++ firstRest.toList = second.toList ++ secondRest.toList := by
    rw [← String.toList_append, same, String.toList_append]
  have runs : first.toList = second.toList := by
    rw [← takeWhile_append_of_beginsOutside firstInside firstBoundary, characters,
      takeWhile_append_of_beginsOutside secondInside secondBoundary]
  obtain rfl := String.toList_inj.mp runs
  exact ⟨rfl, (String.append_right_inj first).mp same⟩

/-- A text without a mark is told apart from what follows, where that begins with the mark. -/
theorem Text.append_inj_of_not_mem
    {mark : Char}
    {first second firstRest secondRest : String}
    (firstFree : mark ∉ first.toList)
    (secondFree : mark ∉ second.toList)
    (firstBoundary : BeginsOutside (· != mark) firstRest.toList)
    (secondBoundary : BeginsOutside (· != mark) secondRest.toList)
    (same : first ++ firstRest = second ++ secondRest) :
    first = second ∧ firstRest = secondRest := by
  have inside {text : String} (free : mark ∉ text.toList) :
      ∀ character ∈ text.toList, (character != mark) = true :=
    fun character member => bne_iff_ne.mpr (ne_of_mem_of_not_mem member free)
  exact append_inj_of_beginsOutside (inside firstFree) (inside secondFree) firstBoundary
    secondBoundary same

/-! ## Numbers -/

namespace Numeral

theorem isDigit_of_mem_digits
    {number : Nat}
    {digit : Char}
    (member : digit ∈ digits number) :
    digit.isDigit = true :=
  Nat.isDigit_of_mem_toDigits (by decide) (by decide) member

theorem digits_injective : Function.Injective digits :=
  Function.LeftInverse.injective value_digits

/-- The text of a number is made of digits, after a minus sign if it is negative. -/
theorem not_mem_text
    {mark : Char}
    (notDigit : mark.isDigit = false)
    (notMinus : mark ≠ '-')
    (number : Int) :
    mark ∉ (text number).toList := by
  have notAmong (magnitude : Nat) : mark ∉ digits magnitude := by
    intro member
    rw [isDigit_of_mem_digits member] at notDigit
    contradiction
  unfold text
  cases number with
  | ofNat magnitude =>
      rw [String.toList_ofList]
      exact notAmong magnitude
  | negSucc magnitude =>
      rw [String.toList_ofList, List.mem_cons, not_or]
      exact ⟨notMinus, notAmong (magnitude + 1)⟩

/-- No minus sign stands before the digits of a natural number. -/
theorem minus_cons_ne_digits (rest : List Char) (number : Nat) :
    '-' :: rest ≠ digits number := by
  intro same
  have digit : '-'.isDigit = true :=
    isDigit_of_mem_digits (same ▸ List.mem_cons_self : '-' ∈ digits number)
  exact absurd digit (by decide)

/-- Different numbers have different texts. -/
theorem text_injective : Function.Injective text := by
  intro first second same
  unfold text at same
  cases first with
  | ofNat first =>
      cases second with
      | ofNat second => rw [digits_injective (String.ofList_injective same)]
      | negSucc second =>
          exact absurd (String.ofList_injective same).symm (minus_cons_ne_digits _ first)
  | negSucc first =>
      cases second with
      | ofNat second => exact absurd (String.ofList_injective same) (minus_cons_ne_digits _ second)
      | negSucc second =>
          have magnitudes := digits_injective (List.cons.inj (String.ofList_injective same)).2
          rw [Nat.succ.inj magnitudes]

theorem text_ne_empty (number : Int) : text number ≠ "" := by
  intro empty
  have characters := congrArg String.toList empty
  unfold text at characters
  cases number with
  | ofNat magnitude =>
      rw [String.toList_ofList] at characters
      exact Nat.toDigits_ne_nil characters
  | negSucc magnitude =>
      rw [String.toList_ofList] at characters
      cases characters

/-- A natural number is read back from a text that goes on with something else than a digit. -/
theorem text_append_inj
    {first second : Nat}
    {firstRest secondRest : String}
    (firstBoundary : Text.BeginsOutside Char.isDigit firstRest.toList)
    (secondBoundary : Text.BeginsOutside Char.isDigit secondRest.toList)
    (same : text first ++ firstRest = text second ++ secondRest) :
    first = second ∧ firstRest = secondRest := by
  have inside (number : Nat) : ∀ digit ∈ (text number).toList, digit.isDigit = true := by
    rw [text_natCast, String.toList_ofList]
    exact fun digit member => isDigit_of_mem_digits member
  obtain ⟨texts, rests⟩ := Text.append_inj_of_beginsOutside (inside first) (inside second)
    firstBoundary secondBoundary same
  exact ⟨Int.ofNat.inj (text_injective texts), rests⟩

end Numeral

/-! ## Lists of numbers -/

namespace Outcome

/-- The numbers of a list after its first, with a comma before each. -/
def laterText : List Int → String
  | [] => ""
  | number :: rest => ", " ++ listText (number :: rest)

theorem listText_cons (number : Int) (rest : List Int) :
    listText (number :: rest) = Numeral.text number ++ laterText rest := by
  unfold listText laterText
  cases rest with
  | nil =>
      rw [List.map_cons, List.map_nil, String.intercalate_singleton, String.append_empty]
  | cons second others =>
      rw [List.map_cons, List.map_cons, String.intercalate_cons_cons, String.append_assoc]
      rfl

theorem listText_cons_ne_empty (number : Int) (rest : List Int) :
    listText (number :: rest) ≠ "" := by
  rw [listText_cons]
  exact Text.append_ne_empty (Numeral.text_ne_empty number) _

theorem beginsOutside_laterText (rest : List Int) :
    Text.BeginsOutside (· != ',') (laterText rest).toList := by
  unfold laterText
  cases rest with
  | nil => exact Text.beginsOutside_nil _
  | cons number others => exact Text.beginsOutside_append_of_head ", " (by decide) _

theorem listText_eq_of_laterText_eq
    {first second : List Int}
    (same : laterText first = laterText second) :
    listText first = listText second := by
  have separated (rest : String) : ", " ++ rest ≠ "" := Text.append_ne_empty (by decide) rest
  cases first with
  | nil =>
      cases second with
      | nil => rfl
      | cons number rest => exact absurd same.symm (separated _)
  | cons number rest =>
      cases second with
      | nil => exact absurd same (separated _)
      | cons other others => exact (String.append_right_inj ", ").mp same

/-- A text of numbers has digits, minus signs and what stands between numbers only. -/
theorem not_mem_listText
    {mark : Char}
    (notDigit : mark.isDigit = false)
    (other : mark ∉ ['-', ',', ' '])
    (numbers : List Int) :
    mark ∉ (listText numbers).toList := by
  simp only [List.mem_cons, List.not_mem_nil, or_false, not_or] at other
  obtain ⟨notMinus, notComma, notSpace⟩ := other
  have free : ∀ character ∈ (listText numbers).toList, character ≠ mark := by
    apply Text.forall_mem_intercalate
    · change ∀ character ∈ [',', ' '], character ≠ mark
      rw [List.forall_mem_cons, List.forall_mem_singleton]
      exact ⟨Ne.symm notComma, Ne.symm notSpace⟩
    · rw [List.forall_mem_map]
      intro number _ character member
      exact ne_of_mem_of_not_mem member (Numeral.not_mem_text notDigit notMinus number)
  exact fun member => free mark member rfl

/-- Different lists of numbers have different texts. -/
theorem listText_injective : Function.Injective listText := by
  intro first
  induction first with
  | nil =>
      intro second same
      cases second with
      | nil => rfl
      | cons number rest => exact absurd same.symm (listText_cons_ne_empty number rest)
  | cons number rest inductionHypothesis =>
      intro second same
      cases second with
      | nil => exact absurd same (listText_cons_ne_empty number rest)
      | cons other others =>
          rw [listText_cons, listText_cons] at same
          obtain ⟨texts, later⟩ := Text.append_inj_of_not_mem
            (Numeral.not_mem_text (by decide) (by decide) number)
            (Numeral.not_mem_text (by decide) (by decide) other)
            (beginsOutside_laterText rest) (beginsOutside_laterText others) same
          obtain rfl := Numeral.text_injective texts
          rw [inductionHypothesis (listText_eq_of_laterText_eq later)]

end Outcome
end Tabletop
