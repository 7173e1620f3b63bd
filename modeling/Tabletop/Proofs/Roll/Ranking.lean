import Mathlib.Data.List.Count
import Mathlib.Data.List.FinRange
import Mathlib.Data.List.Sort
import Tabletop.Proofs.Roll.Sharing

/-!
# Ranks of dice

The dice of a roll are ranked from one end of their values, and equal ones in the order they
were rolled.  A selection takes its values from the sorted roll and finds each of them again
among the dice, from the front.  So it selects exactly the dice whose ranks are below its
number, and it never fails.
-/

namespace Tabletop

/-! ## Values counted from an edge -/

/-- One value is nearer to an edge than another. -/
def Edge.Before : Edge → Int → Int → Prop
  | .lowest, first, second => first < second
  | .highest, first, second => second < first

instance (edge : Edge) (first second : Int) : Decidable (edge.Before first second) :=
  match edge with
  | .lowest => inferInstanceAs (Decidable (first < second))
  | .highest => inferInstanceAs (Decidable (second < first))

namespace Edge

theorem not_before_self (edge : Edge) (value : Int) : ¬ edge.Before value value := by
  cases edge <;> exact Int.lt_irrefl value

theorem before_of_not_before
    {edge : Edge}
    {first second : Int}
    (behind : ¬ edge.Before first second)
    (different : first ≠ second) :
    edge.Before second first := by
  cases edge <;> simp only [Before] at behind ⊢ <;> omega

theorem before_trans
    {edge : Edge}
    {first second third : Int}
    (nearer : edge.Before first second)
    (farther : edge.Before second third) :
    edge.Before first third := by
  cases edge <;> simp only [Before] at nearer farther ⊢ <;> omega

theorem not_before_of_before
    {edge : Edge}
    {first second : Int}
    (nearer : edge.Before first second) :
    ¬ edge.Before second first :=
  fun farther => edge.not_before_self first (before_trans nearer farther)

/-- The other edge. -/
def opposite : Edge → Edge
  | .lowest => .highest
  | .highest => .lowest

theorem before_opposite_iff (edge : Edge) (first second : Int) :
    edge.opposite.Before first second ↔ edge.Before second first := by
  cases edge <;> exact Iff.rfl

end Edge

namespace Roll

/-- The values of a roll, those nearest to an edge first. -/
def fromEdge (edge : Edge) (rolls : List Int) : List Int :=
  match edge with
  | .lowest => ascending rolls
  | .highest => (ascending rolls).reverse

theorem perm_fromEdge (edge : Edge) (rolls : List Int) : (fromEdge edge rolls).Perm rolls := by
  have sorted : (ascending rolls).Perm rolls := List.mergeSort_perm rolls _
  cases edge with
  | lowest => exact sorted
  | highest => exact (List.reverse_perm _).trans sorted

theorem pairwise_ascending (rolls : List Int) :
    (ascending rolls).Pairwise fun first second => first ≤ second :=
  List.pairwise_mergeSort' (fun first second : Int => first ≤ second) rolls

theorem pairwise_fromEdge (edge : Edge) (rolls : List Int) :
    (fromEdge edge rolls).Pairwise fun first second => ¬ edge.Before second first := by
  have sorted := pairwise_ascending rolls
  cases edge with
  | lowest => exact sorted.imp Int.not_lt_of_ge
  | highest => exact (List.pairwise_reverse.mpr sorted).imp Int.not_lt_of_ge

/-- The values nearer to an edge than a given one, and those equal to it, all come before a
value farther from the edge. -/
theorem countP_before_add_count_le
    {edge : Edge}
    {nearer farther : Int}
    (before : edge.Before nearer farther)
    (rolls : List Int) :
    rolls.countP (fun other => edge.Before other nearer) + rolls.count nearer ≤
      rolls.countP fun other => edge.Before other farther := by
  induction rolls with
  | nil => simp
  | cons first rolls inductionHypothesis =>
      rw [List.countP_cons, List.countP_cons, List.count_cons]
      by_cases same : first = nearer
      · subst same
        simp only [edge.not_before_self, before, BEq.rfl, decide_true, decide_false, if_true,
          Bool.false_eq_true, if_false]
        omega
      · by_cases ahead : edge.Before first nearer
        · simp only [ahead, Edge.before_trans ahead before, same, beq_iff_eq, decide_true,
            if_true, if_false]
          omega
        · simp only [ahead, same, beq_iff_eq, decide_false, Bool.false_eq_true, if_false]
          omega

/-- Every value of a roll is nearer to an edge than a given one, equal to it, or nearer to the
other edge. -/
theorem length_eq_countP_before (edge : Edge) (rolls : List Int) (value : Int) :
    rolls.length =
      rolls.countP (fun other => edge.Before other value) + rolls.count value +
        rolls.countP fun other => edge.opposite.Before other value := by
  simp only [Edge.before_opposite_iff]
  induction rolls with
  | nil => rfl
  | cons first rolls inductionHypothesis =>
      rw [List.length_cons, List.countP_cons, List.countP_cons, List.count_cons]
      by_cases same : first = value
      · subst same
        simp only [edge.not_before_self, BEq.rfl, decide_false, Bool.false_eq_true, if_true,
          if_false]
        omega
      · by_cases ahead : edge.Before first value
        · simp only [ahead, same, Edge.not_before_of_before ahead, beq_iff_eq, decide_true,
            decide_false, Bool.false_eq_true, if_true, if_false]
          omega
        · simp only [ahead, same, Edge.before_of_not_before ahead same, beq_iff_eq, decide_true,
            decide_false, Bool.false_eq_true, if_true, if_false]
          omega

/-- Among the first of the values from an edge, a value occurs as often as there is room
after those nearer to the edge. -/
theorem count_take_of_pairwise
    {edge : Edge}
    {values : List Int}
    (sorted : values.Pairwise fun first second => ¬ edge.Before second first)
    (number : Nat)
    (value : Int) :
    (values.take number).count value =
      min (values.count value) (number - values.countP fun other => edge.Before other value) := by
  induction values generalizing number with
  | nil => simp
  | cons first rest inductionHypothesis =>
      rw [List.pairwise_cons] at sorted
      obtain ⟨ahead, sortedRest⟩ := sorted
      cases number with
      | zero => simp
      | succ number =>
          have later := inductionHypothesis sortedRest number
          rw [List.take_succ_cons]
          by_cases same : first = value
          · -- Nothing is nearer to the edge than the first value.
            subst same
            have none : rest.countP (fun other => edge.Before other first) = 0 := by
              simpa [List.countP_eq_zero] using ahead
            simp only [List.count_cons_self, List.countP_cons, none, edge.not_before_self,
              decide_false, Bool.false_eq_true, if_false] at later ⊢
            omega
          · rw [List.count_cons_of_ne same, List.count_cons_of_ne same, later, List.countP_cons]
            by_cases nearer : edge.Before first value
            · simp only [nearer, decide_true, if_true]
              omega
            · -- The value is nearer to the edge than the first, so it does not occur at all.
              have absent : rest.count value = 0 := by
                rw [List.count_eq_zero]
                exact fun member => ahead value member (Edge.before_of_not_before nearer same)
              simp only [absent, Nat.zero_min]

/-- A selection takes its number of values, those nearest to its edge. -/
theorem perm_taken (selection : Selection) (rolls : List Int) :
    (taken selection rolls).Perm
      ((fromEdge selection.edge rolls).take selection.count) := by
  unfold taken fromEdge
  cases selection.edge with
  | lowest =>
      dsimp only
      rw [← List.take_eq_take_min]
  | highest =>
      have number : (ascending rolls).length - min selection.count (ascending rolls).length =
          (ascending rolls).length - selection.count := by
        omega
      dsimp only
      rw [List.take_reverse, number]
      exact (List.reverse_perm _).symm

/-- A selection takes a value as often as there is room after those nearer to its edge. -/
theorem count_taken (selection : Selection) (rolls : List Int) (value : Int) :
    (taken selection rolls).count value =
      min (rolls.count value)
        (selection.count - rolls.countP fun other => selection.edge.Before other value) := by
  have permuted := perm_fromEdge selection.edge rolls
  rw [(perm_taken selection rolls).count_eq,
    count_take_of_pairwise (pairwise_fromEdge selection.edge rolls), permuted.count_eq,
    permuted.countP_eq]

/-! ## Marking dice from the front -/

/-- The dice of a roll after earlier ones, selected as long as their values are still
wanted. -/
def dealt (wanted : List Int) : List Int → List Int → List Die
  | _, [] => []
  | earlier, value :: rolls =>
      { value, selected := decide (earlier.count value < wanted.count value) } ::
        dealt wanted (value :: earlier) rolls

theorem dealt_nil (earlier rolls : List Int) :
    dealt [] earlier rolls = rolls.map fun value => { value, selected := false } := by
  induction rolls generalizing earlier with
  | nil => rfl
  | cons value rolls inductionHypothesis => simp [dealt, inductionHypothesis]

/-- A value that was wanted before often enough is not selected again. -/
theorem dealt_cons_of_lt
    {value : Int}
    {wanted earlier : List Int}
    (enough : wanted.count value < earlier.count value)
    (rolls : List Int) :
    dealt (value :: wanted) earlier rolls = dealt wanted earlier rolls := by
  induction rolls generalizing earlier with
  | nil => rfl
  | cons first rolls inductionHypothesis =>
      have later : wanted.count value < (first :: earlier).count value :=
        Nat.lt_of_lt_of_le enough (List.count_le_count_cons)
      rw [dealt, dealt, inductionHypothesis later]
      by_cases same : value = first
      · subst same
        simp only [List.count_cons_self]
        congr 3
        apply propext
        omega
      · rw [List.count_cons_of_ne same]

/-- Selecting a die for one value more selects the next one from the front. -/
theorem selectFirst_dealt
    {value : Int}
    {wanted earlier rolls : List Int}
    (begun : earlier.count value ≤ wanted.count value)
    (left : wanted.count value < earlier.count value + rolls.count value) :
    selectFirst value (dealt wanted earlier rolls) =
      some (dealt (value :: wanted) earlier rolls) := by
  induction rolls generalizing earlier with
  | nil => simp at left; omega
  | cons first rolls inductionHypothesis =>
      rw [dealt, dealt, selectFirst]
      by_cases same : first = value
      · subst same
        rw [List.count_cons_self] at left
        by_cases taken : earlier.count first < wanted.count first
        · have later : selectFirst first (dealt wanted (first :: earlier) rolls) =
              some (dealt (first :: wanted) (first :: earlier) rolls) := by
            apply inductionHypothesis
            · rw [List.count_cons_self]
              omega
            · rw [List.count_cons_self]
              omega
          have still : earlier.count first < wanted.count first + 1 := by omega
          simp [taken, still, later]
        · -- This is the die: all that were wanted before have been met.
          have met : wanted.count first < (first :: earlier).count first := by
            rw [List.count_cons_self]
            omega
          have wantedNow : earlier.count first < wanted.count first + 1 := by omega
          simp [taken, wantedNow, dealt_cons_of_lt met]
      · rw [List.count_cons_of_ne same] at left
        have later : selectFirst value (dealt wanted (first :: earlier) rolls) =
            some (dealt (value :: wanted) (first :: earlier) rolls) := by
          apply inductionHypothesis
          · rwa [List.count_cons_of_ne same]
          · rwa [List.count_cons_of_ne same]
        simp [same, later, List.count_cons_of_ne (Ne.symm same)]

/-- Dice are found for values that are rolled often enough. -/
theorem selectEach_dealt
    {values wanted rolls : List Int}
    (enough : ∀ value, values.count value + wanted.count value ≤ rolls.count value) :
    selectEach values (dealt wanted [] rolls) =
      .ok (dealt (values.reverse ++ wanted) [] rolls) := by
  induction values generalizing wanted with
  | nil => rfl
  | cons value values inductionHypothesis =>
      have first := enough value
      rw [List.count_cons_self] at first
      have found : selectFirst value (dealt wanted [] rolls) =
          some (dealt (value :: wanted) [] rolls) :=
        selectFirst_dealt (by simp) (by rw [List.count_nil]; omega)
      have others (other : Int) :
          values.count other + (value :: wanted).count other ≤ rolls.count other := by
        have whole := enough other
        rw [List.count_cons] at whole ⊢
        omega
      rw [selectEach, found, List.reverse_cons, List.append_assoc]
      exact inductionHypothesis others

/-- A selection finds all the values that it takes. -/
theorem mark_eq_ok_dealt (selection : Selection) (rolls : List Int) :
    mark selection rolls = .ok (dealt (taken selection rolls).reverse [] rolls) := by
  have enough (value : Int) :
      (taken selection rolls).count value + List.count value [] ≤ rolls.count value := by
    rw [count_taken, List.count_nil]
    omega
  rw [mark, ← dealt_nil [] rolls, selectEach_dealt enough, List.append_nil]

/-- As many dice with a value are selected as are still wanted, or all of them. -/
theorem count_valuesWhere_dealt (wanted earlier rolls : List Int) (value : Int) :
    (valuesWhere true (dealt wanted earlier rolls)).count value =
      min (rolls.count value) (wanted.count value - earlier.count value) := by
  induction rolls generalizing earlier with
  | nil => simp [dealt, valuesWhere]
  | cons first rolls inductionHypothesis =>
      have later := inductionHypothesis (first :: earlier)
      unfold valuesWhere at later ⊢
      rw [dealt, List.filter_cons]
      by_cases same : first = value
      · subst same
        rw [List.count_cons_self] at later
        by_cases taken : earlier.count first < wanted.count first
        · simp only [taken, decide_true, BEq.rfl, if_true, List.map_cons, List.count_cons_self,
            later]
          omega
        · simp only [taken, decide_false, Bool.false_beq, Bool.not_true, Bool.false_eq_true,
            if_false, later, List.count_cons_self]
          omega
      · rw [List.count_cons_of_ne same] at later ⊢
        rw [← later]
        split
        · rw [List.map_cons, List.count_cons_of_ne same]
        · rfl

/-- The selected values are those that the selection takes. -/
theorem perm_taken_of_split
    {selection : Selection}
    {rolls selected others : List Int}
    (found : split selection rolls = .ok (selected, others)) :
    selected.Perm (taken selection rolls) := by
  rw [split, mark_eq_ok_dealt, Fault.ok_bind] at found
  obtain ⟨rfl, -⟩ := Prod.mk.inj (Except.ok.inj found)
  rw [List.perm_iff_count]
  intro value
  rw [count_valuesWhere_dealt, List.count_reverse, List.count_nil, count_taken]
  omega

/-- The selected values are the first ones from the edge, and the others are the rest. -/
theorem perm_of_split
    {selection : Selection}
    {rolls selected others : List Int}
    (found : split selection rolls = .ok (selected, others)) :
    selected.Perm ((fromEdge selection.edge rolls).take selection.count) ∧
      others.Perm ((fromEdge selection.edge rolls).drop selection.count) := by
  have taken := (perm_taken_of_split found).trans (perm_taken selection rolls)
  refine ⟨taken, (List.perm_append_left_iff selected).mp ?_⟩
  calc
    (selected ++ others).Perm rolls := (split_sound found).1.perm.symm
    rolls.Perm (fromEdge selection.edge rolls) := (perm_fromEdge selection.edge rolls).symm
    (fromEdge selection.edge rolls).Perm
        ((fromEdge selection.edge rolls).take selection.count ++
          (fromEdge selection.edge rolls).drop selection.count) :=
      .of_eq (List.take_append_drop _ _).symm
    List.Perm _ (selected ++ (fromEdge selection.edge rolls).drop selection.count) :=
      taken.symm.append_right _

/-- The dice position by position. -/
theorem dealt_eq_map (wanted earlier rolls : List Int) :
    dealt wanted earlier rolls =
      (List.finRange rolls.length).map fun position =>
        { value := rolls[position]
          selected := decide
            (earlier.count rolls[position] + (rolls.take position).count rolls[position] <
              wanted.count rolls[position]) } := by
  induction rolls generalizing earlier with
  | nil => rfl
  | cons value rolls inductionHypothesis =>
      change _ = List.map _ (List.finRange (rolls.length + 1))
      rw [dealt, inductionHypothesis, List.finRange_succ, List.map_cons, List.map_map]
      congr 1
      apply List.map_congr_left
      intro position _
      simp only [Function.comp_apply, Fin.getElem_fin, Fin.val_succ, List.getElem_cons_succ,
        List.take_succ_cons, List.count_cons]
      congr 3
      omega

/-! ## Ranks -/

/-- The number of dice that come before a die, counted from an edge: those with values nearer
to the edge, and those with its own value that were rolled before it. -/
def rank (edge : Edge) (rolls : List Int) (position : Fin rolls.length) : Nat :=
  rolls.countP (fun other => edge.Before other rolls[position]) +
    (rolls.take position).count rolls[position]

/-- The values at some positions of a roll, in the order they were rolled. -/
def valuesAt (rolls : List Int) (chosen : Fin rolls.length → Bool) : List Int :=
  ((List.finRange rolls.length).filter chosen).map fun position => rolls[position]

theorem valuesAt_true (rolls : List Int) : valuesAt rolls (fun _ => true) = rolls := by
  unfold valuesAt
  rw [List.filter_true]
  exact List.map_get_finRange rolls

theorem valuesAt_false (rolls : List Int) : valuesAt rolls (fun _ => false) = [] := by
  unfold valuesAt
  rw [List.filter_false, List.map_nil]

/-- Of equal dice the one that was rolled first has the lower rank. -/
theorem rank_lt_rank
    (edge : Edge)
    {rolls : List Int}
    {earlier later : Fin rolls.length}
    (before : earlier < later)
    (same : rolls[earlier] = rolls[later]) :
    rank edge rolls earlier < rank edge rolls later := by
  have itself : (rolls.take (earlier + 1)).count rolls[earlier] =
      (rolls.take earlier).count rolls[earlier] + 1 := by
    rw [List.take_succ_eq_append_getElem earlier.isLt, List.count_append]
    simp
  have more : (rolls.take (earlier + 1)).count rolls[earlier] ≤
      (rolls.take later).count rolls[earlier] :=
    (List.take_sublist_take_left before).count_le _
  unfold rank
  rw [← same]
  omega

/-- Of two dice the one with the lower rank is not farther from the edge. -/
theorem not_before_of_rank_lt
    {edge : Edge}
    {rolls : List Int}
    {nearer farther : Fin rolls.length}
    (less : rank edge rolls nearer < rank edge rolls farther) :
    ¬ edge.Before rolls[farther] rolls[nearer] := by
  intro before
  have values := countP_before_add_count_le before rolls
  have earlier : (rolls.take farther).count rolls[farther] < rolls.count rolls[farther] :=
    List.count_getElem_take_lt_count
  unfold rank at less
  omega

/-- A die has fewer dice before it than there are. -/
theorem rank_lt_length (edge : Edge) (rolls : List Int) (position : Fin rolls.length) :
    rank edge rolls position < rolls.length := by
  have earlier : (rolls.take position).count rolls[position] < rolls.count rolls[position] :=
    List.count_getElem_take_lt_count
  have whole := length_eq_countP_before edge rolls rolls[position]
  unfold rank
  omega

/-- A selection marks the dice with ranks below its number. -/
theorem mark_eq_ok (selection : Selection) (rolls : List Int) :
    mark selection rolls = .ok ((List.finRange rolls.length).map fun position =>
      { value := rolls[position]
        selected := decide (rank selection.edge rolls position < selection.count) }) := by
  rw [mark_eq_ok_dealt, dealt_eq_map]
  congr 1
  apply List.map_congr_left
  intro position _
  have earlier : (rolls.take position).count rolls[position] < rolls.count rolls[position] :=
    List.count_getElem_take_lt_count
  rw [List.count_reverse, count_taken, List.count_nil, rank]
  congr 2
  apply propext
  omega

theorem valuesWhere_map
    (selected : Bool)
    {rolls : List Int}
    (chosen : Fin rolls.length → Bool) :
    valuesWhere selected ((List.finRange rolls.length).map fun position =>
        { value := rolls[position], selected := chosen position }) =
      valuesAt rolls fun position => chosen position == selected := by
  unfold valuesWhere valuesAt
  rw [List.filter_map, List.map_map]
  rfl

/-- A selection shares the dice out by their ranks. -/
theorem split_eq_ok (selection : Selection) (rolls : List Int) :
    split selection rolls = .ok
      (valuesAt rolls fun position => rank selection.edge rolls position < selection.count,
        valuesAt rolls fun position => selection.count ≤ rank selection.edge rolls position) := by
  have others (position : Fin rolls.length) :
      (decide (rank selection.edge rolls position < selection.count) == false) =
        decide (selection.count ≤ rank selection.edge rolls position) := by
    rw [beq_false, ← decide_not, decide_eq_decide, Nat.not_lt]
  rw [split, mark_eq_ok, Fault.ok_bind, valuesWhere_map, valuesWhere_map]
  simp only [beq_true, others]
  rfl

/-- Whether a selection keeps the die at a position. -/
def keeps (selection : Selection) (rolls : List Int) (position : Fin rolls.length) : Bool :=
  match selection.mode with
  | .keep => rank selection.edge rolls position < selection.count
  | .drop => selection.count ≤ rank selection.edge rolls position

/-- A selection keeps and drops the dice by their ranks. -/
theorem keep_some_eq_ok (selection : Selection) (rolls : List Int) :
    keep (some selection) rolls = .ok
      (valuesAt rolls fun position => keeps selection rolls position,
        valuesAt rolls fun position => !keeps selection rolls position) := by
  rw [keep, split_eq_ok, Fault.ok_bind]
  unfold keeps
  cases selection.mode with
  | keep =>
      simp only [← decide_not, Nat.not_lt]
      rfl
  | drop =>
      simp only [← decide_not, Nat.not_le]
      rfl

/-- Whatever was rolled, every die is kept or dropped. -/
theorem exists_keep (selection : Option Selection) (rolls : List Int) :
    ∃ kept dropped, keep selection rolls = .ok (kept, dropped) := by
  cases selection with
  | none => exact ⟨rolls, [], rfl⟩
  | some selection => exact ⟨_, _, keep_some_eq_ok selection rolls⟩

/-- A selection finds every value that it takes, and selects exactly the dice with ranks
below its number; the selected values and the others both stay in the order of the roll.  So
of equal dice those in front are selected, from either edge, and a number that is not less
than that of the dice selects them all. -/
theorem split_by_rank (selection : Selection) (rolls : List Int) :
    (∃ dice,
      mark selection rolls = .ok dice ∧
        dice.length = rolls.length ∧
          ∀ position : Fin rolls.length,
            dice[position.val]? = some {
              value := rolls[position]
              selected := decide (rank selection.edge rolls position < selection.count) }) ∧
    split selection rolls = .ok
      (valuesAt rolls fun position => rank selection.edge rolls position < selection.count,
        valuesAt rolls fun position => selection.count ≤ rank selection.edge rolls position) ∧
    (∀ earlier later : Fin rolls.length,
      earlier < later → rolls[earlier] = rolls[later] →
        rank selection.edge rolls earlier < rank selection.edge rolls later) ∧
    (rolls.length ≤ selection.count → split selection rolls = .ok (rolls, [])) := by
  refine ⟨⟨_, mark_eq_ok selection rolls, by simp, ?_⟩, split_eq_ok selection rolls, ?_, ?_⟩
  · intro position
    simp
  · intro earlier later before same
    exact rank_lt_rank selection.edge before same
  · intro few
    have all (position : Fin rolls.length) :
        rank selection.edge rolls position < selection.count :=
      Nat.lt_of_lt_of_le (rank_lt_length selection.edge rolls position) few
    simp only [split_eq_ok, all, Nat.not_le_of_lt (all _), decide_true, decide_false,
      valuesAt_true, valuesAt_false]

/-- The highest two of three equal dice are the two in front, and of two dice the highest two
are both. -/
theorem split_by_rank_equalDice :
    let selection : Selection :=
      { mode := .keep, edge := .highest, count := 2, count_pos := by decide }
    let rolls : List Int := [6, 1, 6, 6]
    let second : Fin rolls.length := 2
    let third : Fin rolls.length := 3
    (second < third ∧ rolls[second] = rolls[third] ∧
      rank .highest rolls second < rank .highest rolls third) ∧
    split selection rolls = .ok ([6, 6], [1, 6]) ∧
    ([4, 2] : List Int).length ≤ selection.count ∧ split selection [4, 2] = .ok ([4, 2], []) := by
  intro selection rolls second third
  have before : second < third := by decide
  have same : rolls[second] = rolls[third] := by decide
  have few : ([4, 2] : List Int).length ≤ selection.count := by decide
  have found := (split_by_rank selection rolls).2.1
  have selected : valuesAt rolls (fun position => rank .highest rolls position < 2) = [6, 6] := by
    decide
  have others : valuesAt rolls (fun position => 2 ≤ rank .highest rolls position) = [1, 6] := by
    decide
  refine ⟨⟨before, same, (split_by_rank selection rolls).2.2.1 second third before same⟩, ?_, few,
    (split_by_rank selection [4, 2]).2.2.2 few⟩
  rw [found]
  exact congrArg Except.ok (Prod.ext selected others)

end Roll
end Tabletop
