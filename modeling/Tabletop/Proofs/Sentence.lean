import Tabletop.Proofs.Decoding

/-!
# Sentences about pools

The sentence that describes a pool says its numbers, its mode and its end one after the other,
and leaves out only the number of a single selected die.  So no two pools are described alike.
Describing a pool fails only where one of its numbers is beyond the digit limit.
-/

namespace Tabletop

/-! ## What a sentence says -/

/-- The number of selected dice after the words for them, left out for a single one. -/
def Selection.numberText (selection : Selection) : String :=
  if selection.count = 1 then "" else " " ++ Numeral.text selection.count

/-- What a sentence says about a selection. -/
def Selection.phrase (selection : Selection) : String :=
  " and " ++ selection.mode.word ++ " the " ++ selection.edge.word ++ selection.numberText

namespace Pool

/-- The word for so many dice. -/
def diceWord (count : Nat) : String :=
  if count = 1 then "die" else "dice"

/-- What a sentence says about a selection, if there is one. -/
def selectionText (selection : Option Selection) : String :=
  (selection.map Selection.phrase).getD ""

/-- The sentence about a pool, whatever the lengths of its numbers. -/
def sentence (pool : Pool) : String :=
  "roll " ++ Numeral.text pool.count ++ " " ++ Numeral.text pool.sides ++ "-sided " ++
    diceWord pool.count ++ selectionText pool.selection

end Pool

theorem Selection.which_of_printable
    {selection : Selection}
    (printable : Numeral.Printable selection.count) :
    selection.which = .ok (selection.edge.word ++ selection.numberText) := by
  unfold which numberText
  by_cases single : selection.count = 1
  · rw [if_pos single, if_pos single, String.append_empty]
  · rw [if_neg single, if_neg single, Numeral.write_of_printable printable, Fault.ok_bind,
      ← Numeral.text_natCast, ← String.append_assoc]
    rfl

/-- A pool whose numbers can be written is described by its sentence. -/
theorem Pool.describe_of_printable
    {pool : Pool}
    (printable : pool.Printable) :
    pool.describe = .ok pool.sentence := by
  unfold describe sentence
  rw [Numeral.write_of_printable printable.count, Fault.ok_bind,
    Numeral.write_of_printable printable.sides, Fault.ok_bind, ← Numeral.text_natCast,
    ← Numeral.text_natCast]
  cases selected : pool.selection with
  | none =>
      change _ = Except.ok (_ ++ "")
      rw [String.append_empty]
      rfl
  | some selection =>
      have which := Selection.which_of_printable (printable.selection selection selected)
      simp only [which, Fault.ok_bind]
      change Except.ok _ = Except.ok _
      simp only [selectionText, Option.map_some, Option.getD_some, Selection.phrase,
        String.append_assoc]
      rfl

example : Pool.fourDice.describe = .ok "roll 4 6-sided dice and keep the highest 3" := by
  decide +kernel

/-! ## Sentences read back -/

theorem Mode.word_append_inj
    {first second : Mode}
    {firstRest secondRest : String}
    (same : first.word ++ firstRest = second.word ++ secondRest) :
    first = second ∧ firstRest = secondRest := by
  have heads := congrArg (fun text : String => text.toList.head?) same
  cases first <;> cases second
  case drop.drop => exact ⟨rfl, (String.append_right_inj _).mp same⟩
  case keep.keep => exact ⟨rfl, (String.append_right_inj _).mp same⟩
  all_goals simp [word] at heads

theorem Edge.word_append_inj
    {first second : Edge}
    {firstRest secondRest : String}
    (same : first.word ++ firstRest = second.word ++ secondRest) :
    first = second ∧ firstRest = secondRest := by
  have heads := congrArg (fun text : String => text.toList.head?) same
  cases first <;> cases second
  case lowest.lowest => exact ⟨rfl, (String.append_right_inj _).mp same⟩
  case highest.highest => exact ⟨rfl, (String.append_right_inj _).mp same⟩
  all_goals simp [word] at heads

namespace Selection

/-- A number that is left out is one, and no other number is left out. -/
theorem count_eq_of_numberText_eq
    {first second : Selection}
    (same : first.numberText = second.numberText) :
    first.count = second.count := by
  have shown (number : Nat) : " " ++ Numeral.text number ≠ "" :=
    Text.append_ne_empty (by decide) _
  unfold numberText at same
  by_cases firstSingle : first.count = 1
  · by_cases secondSingle : second.count = 1
    · rw [firstSingle, secondSingle]
    · rw [if_pos firstSingle, if_neg secondSingle] at same
      exact absurd same.symm (shown second.count)
  · by_cases secondSingle : second.count = 1
    · rw [if_neg firstSingle, if_pos secondSingle] at same
      exact absurd same (shown first.count)
    · rw [if_neg firstSingle, if_neg secondSingle] at same
      exact Int.ofNat.inj (Numeral.text_injective ((String.append_right_inj " ").mp same))

theorem phrase_injective : Function.Injective phrase := by
  intro first second same
  simp only [phrase, String.append_assoc] at same
  obtain ⟨modes, afterModes⟩ := Mode.word_append_inj ((String.append_right_inj " and ").mp same)
  obtain ⟨edges, afterEdges⟩ :=
    Edge.word_append_inj ((String.append_right_inj " the ").mp afterModes)
  exact Selection.ext modes edges (count_eq_of_numberText_eq afterEdges)

theorem phrase_ne_empty (selection : Selection) : selection.phrase ≠ "" := by
  simp only [phrase, String.append_assoc]
  exact Text.append_ne_empty (by decide) _

end Selection

namespace Pool

theorem selectionText_injective : Function.Injective selectionText := by
  intro first second same
  cases first with
  | none =>
      cases second with
      | none => rfl
      | some selection => exact absurd same.symm selection.phrase_ne_empty
  | some selection =>
      cases second with
      | none => exact absurd same selection.phrase_ne_empty
      | some other => rw [Selection.phrase_injective same]

/-- No two pools have the same sentence. -/
theorem sentence_injective : Function.Injective sentence := by
  intro first second same
  simp only [sentence, String.append_assoc] at same
  -- No numeral is cut short: a blank follows the first, and a dash the second.
  have spaced : ∀ rest : String, Text.BeginsOutside Char.isDigit (" " ++ rest).toList :=
    Text.beginsOutside_append_of_head " " (by decide)
  have sided : ∀ rest : String, Text.BeginsOutside Char.isDigit ("-sided " ++ rest).toList :=
    Text.beginsOutside_append_of_head "-sided " (by decide)
  obtain ⟨counts, afterCounts⟩ := Numeral.text_append_inj (spaced _) (spaced _)
    ((String.append_right_inj "roll ").mp same)
  obtain ⟨sides, afterSides⟩ := Numeral.text_append_inj (sided _) (sided _)
    ((String.append_right_inj " ").mp afterCounts)
  have words := (String.append_right_inj "-sided ").mp afterSides
  rw [counts] at words
  have selections := selectionText_injective ((String.append_right_inj _).mp words)
  exact Pool.ext counts sides selections

end Pool

namespace Play

theorem run_describe_of_printable
    {pool : Pool}
    (printable : pool.Printable)
    (table : Table σ) :
    (describe (.pool pool)).run table = (.ok pool.sentence, table) := by
  change (ofExcept pool.describe).run table = _
  rw [run_ofExcept, Pool.describe_of_printable printable]

/-- Two pools whose numbers are within the digit limit are both described by a sentence, and
these sentences are the same only if the pools are. -/
theorem describe_eq_iff
    {first second : Pool}
    (firstPrintable : first.Printable)
    (secondPrintable : second.Printable)
    (table : Table σ) :
    (describe (.pool first)).run table = (.ok first.sentence, table) ∧
      (describe (.pool second)).run table = (.ok second.sentence, table) ∧
        (((describe (.pool first)).run table).1 = ((describe (.pool second)).run table).1 ↔
          first = second) := by
  have firstRan := run_describe_of_printable firstPrintable table
  have secondRan := run_describe_of_printable secondPrintable table
  refine ⟨firstRan, secondRan, ?_⟩
  rw [firstRan, secondRan]
  constructor
  · intro same
    exact Pool.sentence_injective (Except.ok.inj same)
  · rintro rfl
    rfl

/-- The highest three of four dice and the single highest one are described differently. -/
theorem describe_eq_iff_fourDice :
    let highest : Selection :=
      { mode := .keep, edge := .highest, count := 1, count_pos := by decide }
    let single : Pool := { Pool.fourDice with selection := some highest }
    let table : Table ScriptedSource := Table.opening .lowest
    Pool.fourDice.Printable ∧ single.Printable ∧
      (describe (.pool Pool.fourDice)).run table = (.ok Pool.fourDice.sentence, table) ∧
        (describe (.pool single)).run table = (.ok single.sentence, table) ∧
          (((describe (.pool Pool.fourDice)).run table).1 =
              ((describe (.pool single)).run table).1 ↔
            Pool.fourDice = single) := by
  intro highest single table
  have several : Pool.fourDice.Printable := by
    constructor <;> decide +kernel
  have one : single.Printable := by
    constructor <;> decide +kernel
  exact ⟨several, one, describe_eq_iff several one table⟩

end Play
end Tabletop
