import Mathlib.Algebra.Order.BigOperators.Group.List
import Mathlib.Algebra.Ring.Int.Defs
import Tabletop.Proofs.Pool
import Tabletop.Roll.Select

/-!
# Sharing out the dice of a roll

The dice of a roll are shared out between the kept and the dropped ones: every die
goes to one side, and both sides keep the order of the roll.  A selection marks as
many dice as it takes values from the sorted roll, and never moves or changes one.
-/

namespace Tabletop
namespace Roll

/-! ## Two sides of a list -/

/-- The values of a list go to one of two sides each, and both sides keep their
order. -/
inductive Shares : List Int → List Int → List Int → Prop
  | nil : Shares [] [] []
  | left (value : Int) {whole left right : List Int} :
      Shares whole left right → Shares (value :: whole) (value :: left) right
  | right (value : Int) {whole left right : List Int} :
      Shares whole left right → Shares (value :: whole) left (value :: right)

namespace Shares

variable {whole left right : List Int}

theorem swap (shares : Shares whole left right) : Shares whole right left := by
  induction shares with
  | nil => exact .nil
  | left value _ inductionHypothesis => exact .right value inductionHypothesis
  | right value _ inductionHypothesis => exact .left value inductionHypothesis

theorem length_eq (shares : Shares whole left right) :
    whole.length = left.length + right.length := by
  induction shares with
  | nil => rfl
  | left value _ inductionHypothesis =>
      simp only [List.length_cons]
      omega
  | right value _ inductionHypothesis =>
      simp only [List.length_cons]
      omega

theorem perm (shares : Shares whole left right) : whole.Perm (left ++ right) := by
  induction shares with
  | nil => exact .nil
  | left value _ inductionHypothesis => exact inductionHypothesis.cons value
  | right value _ inductionHypothesis =>
      exact (inductionHypothesis.cons value).trans List.perm_middle.symm

theorem sublist_left (shares : Shares whole left right) : left.Sublist whole := by
  induction shares with
  | nil => exact .slnil
  | left value _ inductionHypothesis => exact inductionHypothesis.cons_cons value
  | right value _ inductionHypothesis => exact inductionHypothesis.cons value

/-- All values go to the left. -/
theorem all_left (whole : List Int) : Shares whole whole [] := by
  induction whole with
  | nil => exact .nil
  | cons value rest inductionHypothesis => exact .left value inductionHypothesis

/-- One side is everything exactly if the other is empty. -/
theorem right_eq_whole_iff (shares : Shares whole left right) :
    right = whole ↔ left = [] := by
  have lengths := shares.length_eq
  constructor
  · rintro rfl
    exact List.eq_nil_of_length_eq_zero (by omega)
  · rintro rfl
    exact shares.swap.sublist_left.eq_of_length (by simpa using lengths.symm)

end Shares

/-! ## Marking dice -/

/-- The number of selected dice. -/
def selectedCount (dice : List Die) : Nat :=
  dice.countP fun die => die.selected

/-- Selecting a die changes no value, and selects one die more. -/
theorem selectFirst_sound
    {value : Int}
    {dice marked : List Die}
    (found : selectFirst value dice = some marked) :
    marked.map Die.value = dice.map Die.value ∧
      selectedCount marked = selectedCount dice + 1 := by
  induction dice generalizing marked with
  | nil => contradiction
  | cons die dice inductionHypothesis =>
      rw [selectFirst] at found
      split at found
      · rename_i here
        obtain rfl := Option.some.inj found
        constructor
        · rfl
        · simp [selectedCount, here.2]
      · obtain ⟨rest, restFound, rfl⟩ := Option.map_eq_some_iff.mp found
        obtain ⟨values, count⟩ := inductionHypothesis restFound
        constructor
        · rw [List.map_cons, List.map_cons, values]
        · unfold selectedCount at count ⊢
          rw [List.countP_cons, List.countP_cons, count]
          omega

/-- Selecting dice one by one changes no value, and selects one die for each. -/
theorem selectEach_sound
    {values : List Int}
    {dice marked : List Die}
    (found : selectEach values dice = .ok marked) :
    marked.map Die.value = dice.map Die.value ∧
      selectedCount marked = selectedCount dice + values.length := by
  induction values generalizing dice with
  | nil =>
      obtain rfl := Except.ok.inj found
      exact ⟨rfl, rfl⟩
  | cons value values inductionHypothesis =>
      rw [selectEach] at found
      split at found
      · contradiction
      · rename_i next first
        obtain ⟨values, count⟩ := inductionHypothesis found
        obtain ⟨valuesFirst, countFirst⟩ := selectFirst_sound first
        refine ⟨values.trans valuesFirst, ?_⟩
        rw [count, countFirst, List.length_cons]
        omega

theorem length_ascending (rolls : List Int) :
    (ascending rolls).length = rolls.length :=
  List.length_mergeSort rolls

/-- A selection takes its number of values, or all of them if there are fewer. -/
theorem length_taken (selection : Selection) (rolls : List Int) :
    (taken selection rolls).length = min selection.count rolls.length := by
  unfold taken
  cases selection.edge with
  | lowest =>
      simp only [List.length_take, length_ascending]
      omega
  | highest =>
      simp only [List.length_drop, length_ascending]
      omega

/-- The dice of a roll with as many of them selected as the selection takes. -/
theorem mark_sound
    {selection : Selection}
    {rolls : List Int}
    {dice : List Die}
    (marked : mark selection rolls = .ok dice) :
    dice.map Die.value = rolls ∧
      selectedCount dice = min selection.count rolls.length := by
  obtain ⟨values, count⟩ := selectEach_sound marked
  constructor
  · rw [values, List.map_map]
    exact List.map_id rolls
  · rw [count, length_taken]
    simp [selectedCount]

/-! ## Reading the sides off -/

/-- The values of the selected dice and those of the others share out the roll. -/
theorem shares_valuesWhere (dice : List Die) :
    Shares (dice.map Die.value) (valuesWhere true dice) (valuesWhere false dice) := by
  induction dice with
  | nil => exact .nil
  | cons die dice inductionHypothesis =>
      cases selected : die.selected with
      | true =>
          simp only [valuesWhere, List.filter_cons, selected]
          exact .left die.value inductionHypothesis
      | false =>
          simp only [valuesWhere, List.filter_cons, selected]
          exact .right die.value inductionHypothesis

theorem length_valuesWhere_true (dice : List Die) :
    (valuesWhere true dice).length = selectedCount dice := by
  simp [valuesWhere, selectedCount, List.countP_eq_length_filter]

theorem split_sound
    {selection : Selection}
    {rolls selected others : List Int}
    (found : split selection rolls = .ok (selected, others)) :
    Shares rolls selected others ∧
      selected.length = min selection.count rolls.length := by
  obtain ⟨dice, marked, sides⟩ := Fault.bind_eq_ok_iff.mp found
  obtain ⟨rfl, rfl⟩ := Prod.mk.inj (Except.ok.inj sides)
  obtain ⟨rfl, count⟩ := mark_sound marked
  exact ⟨shares_valuesWhere dice, (length_valuesWhere_true dice).trans count⟩

/-- The side that the selected dice of a mode end on. -/
def selectedSide (mode : Mode) (kept dropped : List Int) : List Int :=
  match mode with
  | .keep => kept
  | .drop => dropped

/-- Without a selection all dice are kept. -/
theorem keep_none_eq_ok_iff
    {rolls kept dropped : List Int} :
    keep none rolls = .ok (kept, dropped) ↔ kept = rolls ∧ dropped = [] := by
  constructor
  · intro found
    obtain ⟨rfl, rfl⟩ := Prod.mk.inj (Except.ok.inj found)
    exact ⟨rfl, rfl⟩
  · rintro ⟨rfl, rfl⟩
    rfl

/-- With a selection the mode says which side the selected dice are on. -/
theorem split_of_keep
    {selection : Selection}
    {rolls kept dropped : List Int}
    (found : keep (some selection) rolls = .ok (kept, dropped)) :
    split selection rolls =
      .ok (selectedSide selection.mode kept dropped,
        selectedSide selection.mode dropped kept) := by
  obtain ⟨⟨selected, others⟩, splitFound, sides⟩ := Fault.bind_eq_ok_iff.mp found
  rw [splitFound]
  cases mode : selection.mode with
  | keep =>
      simp only [mode] at sides
      obtain ⟨rfl, rfl⟩ := Prod.mk.inj (Except.ok.inj sides)
      rfl
  | drop =>
      simp only [mode] at sides
      obtain ⟨rfl, rfl⟩ := Prod.mk.inj (Except.ok.inj sides)
      rfl

/-- The kept and the dropped dice share out the roll. -/
theorem shares_of_keep
    {selection : Option Selection}
    {rolls kept dropped : List Int}
    (found : keep selection rolls = .ok (kept, dropped)) :
    Shares rolls kept dropped := by
  cases selection with
  | none =>
      obtain ⟨rfl, rfl⟩ := keep_none_eq_ok_iff.mp found
      exact .all_left _
  | some selection =>
      have shares := (split_sound (split_of_keep found)).1
      cases mode : selection.mode with
      | keep =>
          rw [mode] at shares
          exact shares
      | drop =>
          rw [mode] at shares
          exact shares.swap

/-- A selection moves as many dice as it asks for, or all if there are fewer. -/
theorem length_selectedSide_of_keep
    {selection : Selection}
    {rolls kept dropped : List Int}
    (found : keep (some selection) rolls = .ok (kept, dropped)) :
    (selectedSide selection.mode kept dropped).length =
      min selection.count rolls.length :=
  (split_sound (split_of_keep found)).2

/-! ## Totals -/

theorem total_eq_sum (values : List Int) : total values = values.sum :=
  rfl

/-- Every die adds between one and the number of sides to a total. -/
theorem total_bounds
    {values : List Int}
    {sides : Nat}
    (bounded : ∀ value ∈ values, 1 ≤ value ∧ value ≤ sides) :
    (values.length : Int) ≤ total values ∧ total values ≤ values.length * sides := by
  rw [total_eq_sum]
  have lower := List.card_nsmul_le_sum values 1 fun value member => (bounded value member).1
  have upper := List.sum_le_card_nsmul values sides fun value member => (bounded value member).2
  constructor
  · simpa using lower
  · simpa using upper

end Roll
end Tabletop
