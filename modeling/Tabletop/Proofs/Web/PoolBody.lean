import Tabletop.Proofs.Description
import Tabletop.Proofs.Json.Spelling
import Tabletop.Web.PoolBody
import Tabletop.Web.Refusal

/-!
# Pools sent and read back

A pool is sent as an object, whose members are its numbers and its selection.  The
object is read back as the same pool, and what is written for it as the same object,
with or without blanks.
-/

namespace Tabletop

open Json

/-! ## Spellings -/

theorem unescaped_name
    {name : String}
    (member : name ∈ ["count", "sides", "selection", "mode", "end"]) :
    ∀ character ∈ name.toList, Unescaped character := by
  simp only [List.mem_cons, List.not_mem_nil, or_false] at member
  rcases member with rfl | rfl | rfl | rfl | rfl
  all_goals exact unescaped_of_all (by decide)

theorem Mode.unescaped_word (mode : Mode) :
    ∀ character ∈ mode.word.toList, Unescaped character := by
  cases mode <;> exact unescaped_of_all (by decide)

theorem Edge.unescaped_word (edge : Edge) :
    ∀ character ∈ edge.word.toList, Unescaped character := by
  cases edge <;> exact unescaped_of_all (by decide)

/-- A selection as it is spelled with blanks after its separators. -/
def Selection.spelled (gap : List Char) (selection : Selection) : List Char :=
  '\x7b' :: (spelledMember "mode" gap (marked selection.mode.word) ++ ',' :: (gap ++
    (spelledMember "end" gap (marked selection.edge.word) ++ ',' :: (gap ++
      spelledMember "count" gap (Numeral.digits selection.count)))) ++ ['\x7d'])

/-- A pool as it is spelled with blanks after its separators. -/
def Pool.spelled (gap : List Char) (pool : Pool) : List Char :=
  '\x7b' :: (spelledMember "count" gap (Numeral.digits pool.count) ++ ',' :: (gap ++
    (spelledMember "sides" gap (Numeral.digits pool.sides) ++ ',' :: (gap ++
      spelledMember "selection" gap
        ((pool.selection.map (Selection.spelled gap)).getD ['n', 'u', 'l', 'l'])))) ++ ['\x7d'])

section Spelled

variable {gap : List Char}

theorem Selection.spells_spelled
    {selection : Selection}
    (blank : ∀ character ∈ gap, isBlank (.character character) = true)
    (printable : Numeral.Printable selection.count)
    (room : Nat) :
    Spells (room + 1) (selection.spelled gap) selection.json := by
  have mode := spells_text selection.mode.unescaped_word room
  have edge := spells_text selection.edge.unescaped_word room
  have count := spells_integer selection.count_pos
    ((Numeral.writable_natCast_iff _).mpr printable) room
  apply spells_object
  · simp
  · apply spellsMembers_cons (unescaped_name (by simp)) blank mode
    apply spellsMembers_cons (unescaped_name (by simp)) blank edge
    exact spellsMembers_singleton (unescaped_name (by simp)) blank count

/-- What is spelled for a pool is read as its object. -/
theorem Pool.spells_spelled
    {pool : Pool}
    (blank : ∀ character ∈ gap, isBlank (.character character) = true)
    (printable : pool.Printable)
    (room : Nat) :
    Spells (room + 2) (pool.spelled gap) pool.json := by
  have count := spells_integer pool.count_pos
    ((Numeral.writable_natCast_iff _).mpr printable.count) (room + 1)
  have sides := spells_integer (Nat.le_of_lt pool.two_le_sides)
    ((Numeral.writable_natCast_iff _).mpr printable.sides) (room + 1)
  have selection :
      Spells (room + 1) ((pool.selection.map (Selection.spelled gap)).getD ['n', 'u', 'l', 'l'])
        ((pool.selection.map Selection.json).getD .null) := by
    cases selected : pool.selection with
    | none => exact spells_null (room + 1)
    | some selection =>
        exact Selection.spells_spelled blank (printable.selection selection selected) room
  apply spells_object
  · simp
  · apply spellsMembers_cons (unescaped_name (by simp)) blank count
    apply spellsMembers_cons (unescaped_name (by simp)) blank sides
    exact spellsMembers_singleton (unescaped_name (by simp)) blank selection

end Spelled

/-! ## Writing -/

theorem Selection.write_json (selection : Selection) :
    selection.json.write = selection.spelled [' '] := by
  have mode : writeText "mode" = _ := writeText_of_unescaped (unescaped_name (by simp))
  have edge : writeText "end" = _ := writeText_of_unescaped (unescaped_name (by simp))
  have count : writeText "count" = _ := writeText_of_unescaped (unescaped_name (by simp))
  simp [json, spelled, spelledMember, write, writeMembers, mode, edge, count,
    writeText_of_unescaped selection.mode.unescaped_word,
    writeText_of_unescaped selection.edge.unescaped_word, Numeral.text_natCast]

theorem Pool.write_json (pool : Pool) :
    pool.json.write = pool.spelled [' '] := by
  have count : writeText "count" = _ := writeText_of_unescaped (unescaped_name (by simp))
  have sides : writeText "sides" = _ := writeText_of_unescaped (unescaped_name (by simp))
  have selection : writeText "selection" = _ := writeText_of_unescaped (unescaped_name (by simp))
  cases selected : pool.selection with
  | none =>
      simp [json, spelled, spelledMember, write, writeMembers, count, sides, selection, selected,
        Numeral.text_natCast]
  | some chosen =>
      simp [json, spelled, spelledMember, write, writeMembers, count, sides, selection, selected,
        Numeral.text_natCast, chosen.write_json]

/-! ## Sending -/

theorem elements_text_natCast (number : Nat) :
    Text.elements (Numeral.text number) = documentOf (Numeral.digits number) := by
  rw [Text.elements, Numeral.text_natCast, String.toList_ofList]
  rfl

theorem Selection.compact_json (selection : Selection) (room : Nat) :
    selection.json.compact (room + 1) = .ok (documentOf (selection.spelled [])) := by
  have mode : compactElements (Text.elements "mode") = _ :=
    compactElements_of_unescaped (unescaped_name (by simp))
  have edge : compactElements (Text.elements "end") = _ :=
    compactElements_of_unescaped (unescaped_name (by simp))
  have count : compactElements (Text.elements "count") = _ :=
    compactElements_of_unescaped (unescaped_name (by simp))
  simp [json, spelled, spelledMember, compact, compactMembers, mode, edge, count,
    compactElements_of_unescaped selection.mode.unescaped_word,
    compactElements_of_unescaped selection.edge.unescaped_word,
    elements_text_natCast, bind, Except.bind, pure, Except.pure]

theorem Pool.compact_json (pool : Pool) (room : Nat) :
    pool.json.compact (room + 2) = .ok (documentOf (pool.spelled [])) := by
  have count : compactElements (Text.elements "count") = _ :=
    compactElements_of_unescaped (unescaped_name (by simp))
  have sides : compactElements (Text.elements "sides") = _ :=
    compactElements_of_unescaped (unescaped_name (by simp))
  have selection : compactElements (Text.elements "selection") = _ :=
    compactElements_of_unescaped (unescaped_name (by simp))
  have nothing : Text.elements "null" = documentOf ['n', 'u', 'l', 'l'] := by decide
  cases selected : pool.selection with
  | none =>
      simp [json, spelled, spelledMember, compact, compactMembers, count, sides, selection,
        selected, elements_text_natCast, nothing, bind, Except.bind, pure, Except.pure]
  | some chosen =>
      simp [json, spelled, spelledMember, compact, compactMembers, count, sides, selection,
        selected, elements_text_natCast, chosen.compact_json, bind, Except.bind, pure,
        Except.pure]

/-! ## Reading -/

theorem Validation.boundedNumber_integer
    {number minimum : Nat}
    (large : minimum ≤ number) :
    Validation.boundedNumber minimum (.integer number) = .ok ⟨number, large⟩ := by
  have accepted : AtLeast.ofInt? minimum (number : Int) = some ⟨number, large⟩ :=
    AtLeast.ofInt?_eq_some_iff.mpr rfl
  simp [boundedNumber, wholeNumber, accepted, bind, Except.bind, pure, Except.pure]

namespace Web
namespace PoolBody

theorem readMode_word (mode : Mode) : readMode (.text mode.word) = .ok mode := by
  cases mode <;> rfl

theorem readEdge_word (edge : Edge) : readEdge (.text edge.word) = .ok edge := by
  cases edge <;> rfl

theorem readSelection_json (location : List String) (selection : Selection) :
    readSelection location selection.json = .ok selection := by
  have mode : requiredMember location selection.json "mode" readMode = .ok selection.mode := by
    change Validation.located _ _ (readMode (.text selection.mode.word)) = _
    rw [readMode_word]
    rfl
  have edge : requiredMember location selection.json "end" readEdge = .ok selection.edge := by
    change Validation.located _ _ (readEdge (.text selection.edge.word)) = _
    rw [readEdge_word]
    rfl
  have count :
      countMember location selection.json = .ok ⟨selection.count, selection.count_pos⟩ := by
    change Validation.located _ _ (Validation.boundedNumber 1 (.integer selection.count)) = _
    rw [Validation.boundedNumber_integer selection.count_pos]
    rfl
  unfold readSelection
  rw [mode, edge, count]
  rfl

theorem countMember_json (location : List String) (pool : Pool) :
    countMember location pool.json = .ok ⟨pool.count, pool.count_pos⟩ := by
  change Validation.located _ _ (Validation.boundedNumber 1 (.integer pool.count)) = _
  rw [Validation.boundedNumber_integer pool.count_pos]
  rfl

theorem sidesMember_json (location : List String) (pool : Pool) :
    requiredMember location pool.json "sides" (Validation.boundedNumber 2) =
      .ok ⟨pool.sides, pool.two_le_sides⟩ := by
  change Validation.located _ _ (Validation.boundedNumber 2 (.integer pool.sides)) = _
  rw [Validation.boundedNumber_integer pool.two_le_sides]
  rfl

theorem selectionMember_json (location : List String) (pool : Pool) :
    selectionMember location pool.json = .ok pool.selection := by
  have given : pool.json.get? "selection" =
      some ((pool.selection.map Selection.json).getD .null) :=
    rfl
  unfold selectionMember
  rw [given]
  cases pool.selection with
  | none => rfl
  | some selection =>
      change (readSelection _ selection.json >>= fun read => pure (some read)) = _
      rw [readSelection_json]
      rfl

/-- The object of a pool is read as that pool. -/
theorem read_json (location : List String) (pool : Pool) :
    read location pool.json = .ok pool := by
  change readObject location pool.json = _
  unfold readObject
  rw [countMember_json, sidesMember_json, selectionMember_json]
  rfl

/-- A text that begins like an object and is read as one is its document. -/
theorem document_of_spells
    {characters : List Char}
    {value : Json}
    (spells : Spells nestingLimit ('\x7b' :: '"' :: characters) value) :
    document (String.ofList ('\x7b' :: '"' :: characters)) = .value value := by
  have nonempty : String.ofList ('\x7b' :: '"' :: characters) ≠ "" := by
    intro empty
    have same := congrArg String.toList empty
    rw [String.toList_ofList] at same
    cases same
  rw [document, if_neg nonempty, elements?_of_object, Option.map_some, read_of_spells spells]

/-- The document of what is spelled for a pool is its object. -/
theorem document_spelled
    {pool : Pool}
    {gap : List Char}
    (blank : ∀ character ∈ gap, isBlank (.character character) = true)
    (printable : pool.Printable) :
    document (String.ofList (pool.spelled gap)) = .value pool.json :=
  document_of_spells (Pool.spells_spelled blank printable (nestingLimit - 2))

theorem document_render
    {pool : Pool}
    (printable : pool.Printable) :
    document pool.json.render = .value pool.json := by
  rw [Json.render, pool.write_json]
  exact document_spelled (List.all_eq_true.mp (by decide)) printable

/-- The text that is sent for the object of a pool is the document of the object. -/
theorem document_sent
    {pool : Pool}
    (printable : pool.Printable) :
    ∃ sent,
      pool.json.compact Refusal.writtenNesting = .ok (Text.elements sent) ∧
        document sent = .value pool.json := by
  refine ⟨String.ofList (pool.spelled []), ?_, document_spelled (by simp) printable⟩
  rw [Text.elements, String.toList_ofList]
  exact pool.compact_json (Refusal.writtenNesting - 2)

end PoolBody
end Web
end Tabletop
