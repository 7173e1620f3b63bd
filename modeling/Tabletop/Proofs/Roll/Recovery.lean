import Tabletop.Proofs.Decoding
import Tabletop.Proofs.Interchange

/-!
# Outcomes told apart by their lines

A line gives the text that was rolled, up to the first equals sign, and then either the total
alone or the values in brackets before it.  No notation has an equals sign, and the total alone
is the value of the only die; so the line of an outcome tells everything about it but the blanks
around its text.
-/

namespace Tabletop
namespace Outcome

/-! ## The values in a line -/

/-- A single value was kept, and nothing was dropped beside it. -/
def IsSingle (outcome : Outcome) : Prop :=
  outcome.kept.length = 1 ∧ outcome.dropped = []

/-- What a line says about the dropped values, nothing if there are none. -/
def droppedText : List Int → String
  | [] => ""
  | number :: rest => " (dropped " ++ listText (number :: rest) ++ ")"

theorem lineTail_of_isSingle
    {outcome : Outcome}
    (single : outcome.IsSingle) :
    outcome.lineTail = " = " ++ Numeral.text outcome.total :=
  if_pos single

theorem lineTail_of_not_isSingle
    {outcome : Outcome}
    (several : ¬ outcome.IsSingle) :
    outcome.lineTail =
      " = [" ++ listText outcome.kept ++ "]" ++ droppedText outcome.dropped ++ " = " ++
        Numeral.text outcome.total := by
  unfold IsSingle at several
  unfold lineTail
  rw [if_neg several]
  have closing : "] = " = "]" ++ " = " := rfl
  have between : "] (dropped " = "]" ++ " (dropped " := rfl
  have ending : ") = " = ")" ++ " = " := rfl
  cases outcome.dropped with
  | nil =>
      rw [if_pos rfl]
      simp only [closing, droppedText, String.append_empty, ← String.append_assoc]
  | cons number rest =>
      rw [if_neg (List.cons_ne_nil number rest)]
      simp only [between, ending, droppedText, ← String.append_assoc]

/-- The bracket tells whether the values are given beside their total. -/
theorem bracket_mem_lineTail_iff (outcome : Outcome) :
    '[' ∈ outcome.lineTail.toList ↔ ¬ outcome.IsSingle := by
  by_cases single : outcome.IsSingle
  · have notInText : '[' ∉ (Numeral.text outcome.total).toList :=
      Numeral.not_mem_text (by decide) (by decide) outcome.total
    have notInSign : '[' ∉ " = ".toList := by decide
    rw [lineTail_of_isSingle single, String.toList_append, List.mem_append]
    simp only [notInSign, notInText, or_self, single, not_true]
  · have inSign : '[' ∈ " = [".toList := by decide
    rw [lineTail_of_not_isSingle single]
    simp only [String.toList_append, List.mem_append, inSign, true_or, single, not_false_iff]

theorem kept_eq_of_isSingle
    {outcome : Outcome}
    (single : outcome.IsSingle)
    (total : outcome.total = Roll.total outcome.kept) :
    outcome.kept = [outcome.total] := by
  obtain ⟨value, kept⟩ := List.length_eq_one_iff.mp single.1
  rw [total, kept]
  simp [Roll.total]

/-- Nothing that is dropped is told apart from a total that follows at once. -/
theorem droppedText_append_inj
    {first second : List Int}
    {firstRest secondRest : String}
    (same :
      droppedText first ++ (" = " ++ firstRest) = droppedText second ++ (" = " ++ secondRest)) :
    first = second ∧ firstRest = secondRest := by
  -- The second character is the equals sign or the bracket.
  have marks := congrArg (fun text : String => text.toList[1]?) same
  cases first with
  | nil =>
      cases second with
      | nil =>
          simp only [droppedText, String.empty_append] at same
          exact ⟨rfl, (String.append_right_inj " = ").mp same⟩
      | cons number rest => simp [droppedText] at marks
  | cons number rest =>
      cases second with
      | nil => simp [droppedText] at marks
      | cons other others =>
          have free (numbers : List Int) : ')' ∉ (listText numbers).toList :=
            not_mem_listText (by decide) (by decide) numbers
          have closed : ∀ rest : String, Text.BeginsOutside (· != ')') (")" ++ rest).toList :=
            Text.beginsOutside_append_of_head ")" (by decide)
          simp only [droppedText, String.append_assoc] at same
          obtain ⟨lists, afterLists⟩ := Text.append_inj_of_not_mem (free _) (free _) (closed _)
            (closed _) ((String.append_right_inj " (dropped ").mp same)
          have totals := (String.append_right_inj ")").mp afterLists
          exact ⟨listText_injective lists, (String.append_right_inj " = ").mp totals⟩

/-- What a line says after its text tells the values and their total. -/
theorem lineTail_inj
    {first second : Outcome}
    (firstTotal : first.total = Roll.total first.kept)
    (secondTotal : second.total = Roll.total second.kept)
    (same : first.lineTail = second.lineTail) :
    first.kept = second.kept ∧ first.dropped = second.dropped ∧ first.total = second.total := by
  have alike : first.IsSingle ↔ second.IsSingle := by
    rw [← not_iff_not, ← bracket_mem_lineTail_iff, ← bracket_mem_lineTail_iff, same]
  by_cases single : first.IsSingle
  case pos =>
    have secondSingle := alike.mp single
    rw [lineTail_of_isSingle single, lineTail_of_isSingle secondSingle] at same
    have totals := Numeral.text_injective ((String.append_right_inj " = ").mp same)
    refine ⟨?_, single.2.trans secondSingle.2.symm, totals⟩
    rw [kept_eq_of_isSingle single firstTotal, kept_eq_of_isSingle secondSingle secondTotal, totals]
  case neg =>
    rw [lineTail_of_not_isSingle single, lineTail_of_not_isSingle (mt alike.mpr single)] at same
    simp only [String.append_assoc] at same
    have free (numbers : List Int) : ']' ∉ (listText numbers).toList :=
      not_mem_listText (by decide) (by decide) numbers
    have bracketed : ∀ rest : String, Text.BeginsOutside (· != ']') ("]" ++ rest).toList :=
      Text.beginsOutside_append_of_head "]" (by decide)
    obtain ⟨lists, afterLists⟩ := Text.append_inj_of_not_mem (free first.kept) (free second.kept)
      (bracketed _) (bracketed _) ((String.append_right_inj " = [").mp same)
    obtain ⟨dropped, texts⟩ :=
      droppedText_append_inj ((String.append_right_inj "]").mp afterLists)
    exact ⟨listText_injective lists, dropped, Numeral.text_injective texts⟩

/-! ## The text in a line -/

theorem exists_lineTail_eq (outcome : Outcome) :
    ∃ rest, outcome.lineTail = " " ++ ("=" ++ rest) := by
  by_cases single : outcome.IsSingle
  · rw [lineTail_of_isSingle single]
    exact ⟨" " ++ Numeral.text outcome.total, by simp only [← String.append_assoc]; rfl⟩
  · rw [lineTail_of_not_isSingle single]
    refine ⟨" [" ++ listText outcome.kept ++ "]" ++ droppedText outcome.dropped ++ " = " ++
        Numeral.text outcome.total, ?_⟩
    simp only [← String.append_assoc]
    rfl

/-- A text without an equals sign is told apart from what a line says after it. -/
theorem append_lineTail_inj
    {first second : Outcome}
    {firstText secondText : String}
    (firstFree : '=' ∉ firstText.toList)
    (secondFree : '=' ∉ secondText.toList)
    (same : firstText ++ first.lineTail = secondText ++ second.lineTail) :
    firstText = secondText ∧ first.lineTail = second.lineTail := by
  -- The blank before the sign is counted to the text, which is then cut off at the sign.
  obtain ⟨firstRest, firstTail⟩ := first.exists_lineTail_eq
  obtain ⟨secondRest, secondTail⟩ := second.exists_lineTail_eq
  have spaced {text : String} (free : '=' ∉ text.toList) : '=' ∉ (text ++ " ").toList := by
    rw [String.toList_append, List.mem_append, not_or]
    exact ⟨free, by decide⟩
  have signed : ∀ rest : String, Text.BeginsOutside (· != '=') ("=" ++ rest).toList :=
    Text.beginsOutside_append_of_head "=" (by decide)
  have joined (text rest : String) :
      text ++ (" " ++ ("=" ++ rest)) = text ++ " " ++ ("=" ++ rest) :=
    String.append_assoc.symm
  rw [firstTail, secondTail, joined, joined] at same
  obtain ⟨texts, tails⟩ := Text.append_inj_of_not_mem (spaced firstFree) (spaced secondFree)
    (signed _) (signed _) same
  rw [firstTail, secondTail, tails]
  exact ⟨(String.append_left_inj " ").mp texts, rfl⟩

theorem equals_not_mem_trim
    {source : String}
    {pool : Pool}
    (parsed : Notation.parse source = .ok pool) :
    '=' ∉ (Text.trim source).toList := by
  obtain ⟨parts, divides, -⟩ := Notation.parse_eq_ok_iff_pool.mp parsed
  have free : '=' ∉ source.toList :=
    divides.not_mem (by decide) (by unfold Numeral.IsDigit; decide) (by decide)
  rw [Text.toList_trim]
  exact fun member => free (Text.mem_of_mem_dropBoth member)

/-! ## Outcomes of rolls -/

/-- An outcome that rolling some order with some source comes to, once or as one of several. -/
inductive Returned : Outcome → Prop
  /-- The order was rolled once. -/
  | roll {σ : Type} [RandomSource σ]
      {order : Order} {before after : Table σ} {outcome : Outcome} :
      (Play.roll order).run before = (.ok outcome, after) → Returned outcome
  /-- The order was rolled a number of times. -/
  | rollMany {σ : Type} [RandomSource σ]
      {order : Order} {times : Int} {before after : Table σ}
      {outcomes : List Outcome} {outcome : Outcome} :
      (Play.rollMany order times).run before = (.ok outcomes, after) →
        outcome ∈ outcomes → Returned outcome

/-- Values that a source gives for the dice of a notation, and that can be written, are settled
as an outcome. -/
theorem returned_of_drawn
    {σ : Type}
    [RandomSource σ]
    {text : String}
    {pool : Pool}
    {drawn : List Int}
    {outcome : Outcome}
    (before : Table σ)
    (parsed : Notation.parse text = .ok pool)
    (rolled : ((Play.rollDice pool.sides pool.count []).run before).1 = .ok drawn)
    (settled : Play.settle pool text drawn = .ok outcome)
    (writable : outcome.Writable) :
    outcome.Returned := by
  have denoted : (Order.written text).denoted = .ok pool := parsed
  have recorded := record_eq_ok_iff.mpr ⟨writable, rfl⟩
  have once := Play.run_rollPool_eq_ok_iff.mpr
    ⟨_, _, _, Prod.ext rolled rfl, settled, recorded, rfl⟩
  exact .roll (Play.run_reading_eq_ok_iff.mpr ⟨pool, text, denoted, rfl, once⟩)

/-- What a line relies on: the text that was rolled stands for the pool, the total is that of
the kept values, and all the numbers can be written. -/
structure Accountable (outcome : Outcome) : Prop where
  source : Notation.parse outcome.source = .ok outcome.pool
  total : outcome.total = Roll.total outcome.kept
  writable : outcome.Writable

theorem accountable_of_rollPool
    [RandomSource σ]
    {order : Order}
    {pool : Pool}
    {source : String}
    {before after : Table σ}
    {outcome : Outcome}
    (denoted : order.denoted = .ok pool)
    (sourced : Play.sourceText order = .ok source)
    (ran : (Play.rollPool pool source).run before = (.ok outcome, after)) :
    outcome.Accountable where
  source := by
    have isOf := Play.isOf_of_rollPool ran
    rw [isOf.source, isOf.pool]
    exact Play.parse_of_sourceText denoted sourced
  total := by
    obtain ⟨_, _, _, _, settled, _, _⟩ := Play.run_rollPool_eq_ok_iff.mp ran
    obtain ⟨_, _, settledAs⟩ := Fault.bind_eq_ok_iff.mp settled
    rw [← Except.ok.inj settledAs]
  writable := Play.writable_of_rollPool ran

theorem Returned.accountable
    {outcome : Outcome}
    (returned : outcome.Returned) :
    outcome.Accountable := by
  cases returned with
  | roll ran =>
      obtain ⟨pool, source, denoted, sourced, rolled⟩ := Play.run_reading_eq_ok_iff.mp ran
      exact accountable_of_rollPool denoted sourced rolled
  | rollMany ran member =>
      obtain ⟨-, pool, source, denoted, sourced, rolled⟩ := Play.run_rollMany_eq_ok_iff.mp ran
      obtain ⟨_, _, once⟩ := (Play.exists_rollPool_of_rollTimes rolled _ member).resolve_left
        List.not_mem_nil
      exact accountable_of_rollPool denoted sourced once

/-- Two outcomes of rolls are both shown in a line, and the lines are the same only if the
outcomes are, apart from the blanks that are cut from the texts that were rolled. -/
theorem line_eq_iff
    {first second : Outcome}
    (firstReturned : first.Returned)
    (secondReturned : second.Returned) :
    ∃ firstLine secondLine,
      first.line = .ok firstLine ∧ second.line = .ok secondLine ∧
        (firstLine = secondLine ↔
          Text.trim first.source = Text.trim second.source ∧ first.pool = second.pool ∧
            first.kept = second.kept ∧ first.dropped = second.dropped ∧
              first.total = second.total) := by
  have firstSound := firstReturned.accountable
  have secondSound := secondReturned.accountable
  refine ⟨_, _, line_of_writable firstSound.writable, line_of_writable secondSound.writable, ?_⟩
  constructor
  · intro same
    obtain ⟨texts, tails⟩ := append_lineTail_inj (equals_not_mem_trim firstSound.source)
      (equals_not_mem_trim secondSound.source) same
    have firstRead := Notation.parse_trim firstSound.source
    have secondRead := Notation.parse_trim secondSound.source
    rw [texts] at firstRead
    have pools := Except.ok.inj (firstRead.symm.trans secondRead)
    exact ⟨texts, pools, lineTail_inj firstSound.total secondSound.total tails⟩
  · rintro ⟨texts, -, kept, dropped, totals⟩
    unfold lineTail
    rw [texts, kept, dropped, totals]

/-- A notation and the same between blanks, each rolled with its own source, come to outcomes
with the same line. -/
theorem line_eq_iff_twoDice :
    let first : Outcome :=
      { total := 5
        pool :=
          { count := 2
            sides := 6
            selection :=
              some { mode := .keep, edge := .highest, count := 1, count_pos := by decide }
            count_pos := by decide
            two_le_sides := by decide }
        kept := [5]
        dropped := [3]
        source := "2d6kh" }
    let second := first.recordedAs "\u3000 2d6kh\n"
    first.Returned ∧ second.Returned ∧
      ∃ firstLine secondLine,
        first.line = .ok firstLine ∧ second.line = .ok secondLine ∧
          (firstLine = secondLine ↔
            Text.trim first.source = Text.trim second.source ∧ first.pool = second.pool ∧
              first.kept = second.kept ∧ first.dropped = second.dropped ∧
                first.total = second.total) := by
  intro first second
  have kept : Roll.keep first.pool.selection [3, 5] = .ok ([5], [3]) := by cbv
  have firstReturned : first.Returned :=
    returned_of_drawn (Table.opening (ScriptedSource.script [3, 5])) (by decide +kernel)
      (by decide +kernel) (Play.settle_of_keep kept _) (by constructor <;> decide +kernel)
  have secondReturned : second.Returned :=
    returned_of_drawn (Table.opening (ScriptedSource.cycle [3, 5] [3, 5])) (by decide +kernel)
      (by decide +kernel) (Play.settle_of_keep kept _) (by constructor <;> decide +kernel)
  exact ⟨firstReturned, secondReturned, line_eq_iff firstReturned secondReturned⟩

end Outcome
end Tabletop
