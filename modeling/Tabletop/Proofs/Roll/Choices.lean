import Mathlib.Algebra.Order.BigOperators.Group.Finset
import Mathlib.Algebra.Order.Ring.Int
import Mathlib.Data.Finset.Max
import Mathlib.Order.Bounds.Defs
import Tabletop.Proofs.Roll.Ranking
import Tabletop.Proofs.Rolling

/-!
# Choices of dice

A selection leaves a number of dice to be kept, and among all choices of that many dice it
keeps one whose sum is extreme: the greatest if it keeps the highest or drops the lowest, the
least otherwise.  Any other choice can be turned into it by exchanging dice, none of which
makes the sum less extreme.  An extreme sum moves with the values of the dice, whichever dice
attain it; so dice that show more never give a lower total.
-/

namespace Tabletop

/-! ## The edge that is kept -/

namespace Selection

/-- The edge of the values that are kept. -/
def keptEdge (selection : Selection) : Edge :=
  match selection.mode with
  | .keep => selection.edge
  | .drop => selection.edge.opposite

/-- How many of a number of dice are kept. -/
def keptNumber (selection : Selection) (number : Nat) : Nat :=
  match selection.mode with
  | .keep => min selection.count number
  | .drop => number - min selection.count number

end Selection

/-- A number of a set is its greatest or its least, by the edge that is looked at. -/
def Edge.IsExtreme : Edge → Set Int → Int → Prop
  | .lowest => IsLeast
  | .highest => IsGreatest

namespace Roll

/-- No dropped die is nearer to the edge that is kept than a kept one. -/
theorem not_before_of_keeps
    {selection : Selection}
    {rolls : List Int}
    {kept dropped : Fin rolls.length}
    (isKept : keeps selection rolls kept = true)
    (isDropped : ¬ keeps selection rolls dropped = true) :
    ¬ selection.keptEdge.Before (rolls.get dropped) (rolls.get kept) := by
  unfold keeps at isKept isDropped
  unfold Selection.keptEdge
  cases mode : selection.mode with
  | keep =>
      simp only [mode, decide_eq_true_eq] at isKept isDropped ⊢
      exact not_before_of_rank_lt (by omega)
  | drop =>
      simp only [mode, decide_eq_true_eq, Edge.before_opposite_iff] at isKept isDropped ⊢
      exact not_before_of_rank_lt (by omega)

/-! ## Sums over positions -/

/-- The sums of the values at so many positions of a roll, whichever these are. -/
def choiceSums (rolls : List Int) (number : Nat) : Set Int :=
  {sum | ∃ chosen : Finset (Fin rolls.length),
    chosen.card = number ∧ ∑ position ∈ chosen, rolls.get position = sum}

theorem toFinset_filter_finRange (chosen : Fin number → Bool) :
    ((List.finRange number).filter chosen).toFinset =
      Finset.univ.filter fun position => chosen position = true := by
  ext position
  simp

theorem sum_valuesAt (rolls : List Int) (chosen : Fin rolls.length → Bool) :
    (valuesAt rolls chosen).sum =
      ∑ position with chosen position = true, rolls.get position := by
  have distinct := (List.nodup_finRange rolls.length).filter chosen
  rw [valuesAt, ← List.sum_toFinset _ distinct, toFinset_filter_finRange]
  rfl

theorem length_valuesAt (rolls : List Int) (chosen : Fin rolls.length → Bool) :
    (valuesAt rolls chosen).length =
      (Finset.univ.filter fun position => chosen position = true).card := by
  have distinct := (List.nodup_finRange rolls.length).filter chosen
  rw [valuesAt, List.length_map, ← List.toFinset_card_of_nodup distinct,
    toFinset_filter_finRange]

/-- A choice has at most the sum of another one of as many, if whatever only the other
chooses is worth at least as much as whatever only the first does. -/
theorem sum_le_sum_of_card_eq
    {ι : Type*}
    [DecidableEq ι]
    {value : ι → Int}
    {chosen best : Finset ι}
    (card : chosen.card = best.card)
    (ahead : ∀ worse ∈ chosen \ best, ∀ better ∈ best \ chosen, value worse ≤ value better) :
    ∑ position ∈ chosen, value position ≤ ∑ position ∈ best, value position := by
  have exchanged : (chosen \ best).card = (best \ chosen).card := Finset.card_sdiff_comm card
  rw [← Finset.sum_sdiff_le_sum_sdiff]
  rcases (best \ chosen).eq_empty_or_nonempty with same | different
  · rw [same, Finset.card_empty, Finset.card_eq_zero] at exchanged
    rw [same, exchanged]
  · obtain ⟨least, member, atMost⟩ := Finset.exists_min_image _ value different
    calc
      ∑ position ∈ chosen \ best, value position ≤ (chosen \ best).card • value least :=
        Finset.sum_le_card_nsmul _ _ _ fun worse outside => ahead worse outside least member
      _ = (best \ chosen).card • value least := by rw [exchanged]
      _ ≤ ∑ position ∈ best \ chosen, value position :=
        Finset.card_nsmul_le_sum _ _ _ atMost

/-- Positions whose values are nearest to an edge have an extreme sum among as many. -/
theorem isExtreme_sum
    {edge : Edge}
    {rolls : List Int}
    {best : Finset (Fin rolls.length)}
    (nearest : ∀ inside ∈ best, ∀ outside ∉ best,
      ¬ edge.Before (rolls.get outside) (rolls.get inside)) :
    edge.IsExtreme (choiceSums rolls best.card) (∑ position ∈ best, rolls.get position) := by
  cases edge with
  | lowest =>
      refine ⟨⟨best, rfl, rfl⟩, ?_⟩
      rintro sum ⟨chosen, card, rfl⟩
      apply sum_le_sum_of_card_eq card.symm
      intro inside only outside other
      rw [Finset.mem_sdiff] at only other
      exact Int.not_lt.mp (nearest inside only.1 outside other.2)
  | highest =>
      refine ⟨⟨best, rfl, rfl⟩, ?_⟩
      rintro sum ⟨chosen, card, rfl⟩
      apply sum_le_sum_of_card_eq card
      intro outside other inside only
      rw [Finset.mem_sdiff] at only other
      exact Int.not_lt.mp (nearest inside only.1 outside other.2)

/-! ## The sum of the kept dice -/

theorem length_kept (selection : Selection) (rolls : List Int) :
    (valuesAt rolls fun position => keeps selection rolls position).length =
      selection.keptNumber rolls.length := by
  have found := keep_some_eq_ok selection rolls
  have whole := (shares_of_keep found).length_eq
  have selected := length_selectedSide_of_keep found
  unfold Selection.keptNumber
  cases mode : selection.mode with
  | keep =>
      rw [mode] at selected
      exact selected
  | drop =>
      simp only [mode, selectedSide] at selected ⊢
      omega

/-- The total of the kept dice is extreme among the sums of as many dice. -/
theorem isExtreme_total (selection : Selection) (rolls : List Int) :
    selection.keptEdge.IsExtreme
      (choiceSums rolls (selection.keptNumber rolls.length))
      (total (valuesAt rolls fun position => keeps selection rolls position)) := by
  rw [← length_kept, length_valuesAt, total_eq_sum, sum_valuesAt]
  apply isExtreme_sum
  intro inside kept outside dropped
  simp only [Finset.mem_filter, Finset.mem_univ, true_and] at kept dropped
  exact not_before_of_keeps kept dropped

/-! ## Dice that show more -/

section Below

variable {lower upper : List Int} {sum : Int} {number : Nat}

/-- The same choice of dice that show more has at least the sum. -/
theorem exists_ge_of_mem_choiceSums
    (below : List.Forall₂ (· ≤ ·) lower upper)
    (member : sum ∈ choiceSums lower number) :
    ∃ more ∈ choiceSums upper number, sum ≤ more := by
  obtain ⟨length, le⟩ := List.forall₂_iff_get.mp below
  obtain ⟨chosen, card, rfl⟩ := member
  refine ⟨_, ⟨chosen.map (finCongr length).toEmbedding, (Finset.card_map _).trans card, rfl⟩, ?_⟩
  rw [Finset.sum_map]
  exact Finset.sum_le_sum fun position _ => le position _ _

/-- The same choice of dice that show less has at most the sum. -/
theorem exists_le_of_mem_choiceSums
    (below : List.Forall₂ (· ≤ ·) lower upper)
    (member : sum ∈ choiceSums upper number) :
    ∃ less ∈ choiceSums lower number, less ≤ sum := by
  obtain ⟨length, le⟩ := List.forall₂_iff_get.mp below
  obtain ⟨chosen, card, rfl⟩ := member
  refine ⟨_, ⟨chosen.map (finCongr length.symm).toEmbedding,
    (Finset.card_map _).trans card, rfl⟩, ?_⟩
  rw [Finset.sum_map]
  exact Finset.sum_le_sum fun position _ => le position _ _

/-- An extreme sum does not fall when the dice show more. -/
theorem le_of_isExtreme
    {edge : Edge}
    {less more : Int}
    (below : List.Forall₂ (· ≤ ·) lower upper)
    (ofLower : edge.IsExtreme (choiceSums lower number) less)
    (ofUpper : edge.IsExtreme (choiceSums upper number) more) :
    less ≤ more := by
  cases edge with
  | lowest =>
      obtain ⟨other, member, le⟩ := exists_le_of_mem_choiceSums below ofUpper.1
      exact (ofLower.2 member).trans le
  | highest =>
      obtain ⟨other, member, le⟩ := exists_ge_of_mem_choiceSums below ofLower.1
      exact le.trans (ofUpper.2 member)

end Below

end Roll

namespace Play

/-! ## The totals of rolls -/

/-- A selection makes the total extreme.  Of the sums over all choices of as many dice as it
selects, keeping the highest gives the greatest and keeping the lowest the least; of the sums
over all choices of as many as it leaves, dropping the lowest gives the greatest and dropping
the highest the least.  A number beyond that of the dice counts as that of the dice. -/
theorem settle_optimal
    (pool : Pool)
    (selection : Selection)
    (source : String)
    (rolls : List Int) :
    let number := min selection.count rolls.length
    ∃ outcome,
      settle { pool with selection := some selection } source rolls = .ok outcome ∧
        match selection.mode, selection.edge with
        | .keep, .highest => IsGreatest (Roll.choiceSums rolls number) outcome.total
        | .keep, .lowest => IsLeast (Roll.choiceSums rolls number) outcome.total
        | .drop, .lowest =>
            IsGreatest (Roll.choiceSums rolls (rolls.length - number)) outcome.total
        | .drop, .highest =>
            IsLeast (Roll.choiceSums rolls (rolls.length - number)) outcome.total := by
  obtain ⟨mode, edge, count, positive⟩ := selection
  let selection : Selection := { mode, edge, count, count_pos := positive }
  have extreme := Roll.isExtreme_total selection rolls
  refine ⟨_, settle_of_keep (Roll.keep_some_eq_ok selection rolls) source, ?_⟩
  cases mode <;> cases edge <;> exact extreme

/-- Dice that show more, one by one, never give a lower total, whatever the selection. -/
theorem settle_total_mono
    (pool : Pool)
    (source : String)
    {lower upper : List Int}
    (below : List.Forall₂ (· ≤ ·) lower upper) :
    ∃ less more,
      settle pool source lower = .ok less ∧
        settle pool source upper = .ok more ∧
          less.total ≤ more.total := by
  cases chosen : pool.selection with
  | none =>
      have kept (rolls : List Int) : Roll.keep pool.selection rolls = .ok (rolls, []) := by
        rw [chosen]
        rfl
      exact ⟨_, _, settle_of_keep (kept lower) source, settle_of_keep (kept upper) source,
        below.sum_le_sum⟩
  | some selection =>
      have kept (rolls : List Int) := Roll.keep_some_eq_ok selection rolls
      rw [← chosen] at kept
      have number : selection.keptNumber lower.length = selection.keptNumber upper.length :=
        congrArg selection.keptNumber below.length_eq
      have ofLower := Roll.isExtreme_total selection lower
      rw [number] at ofLower
      exact ⟨_, _, settle_of_keep (kept lower) source, settle_of_keep (kept upper) source,
        Roll.le_of_isExtreme below ofLower (Roll.isExtreme_total selection upper)⟩

/-- One die more that counts, in the place of another. -/
theorem settle_total_mono_fourDice :
    List.Forall₂ (· ≤ ·) ([3, 6, 4, 1] : List Int) [3, 6, 4, 5] ∧
      ∃ less more,
        settle Pool.fourDice "4d6kh3" [3, 6, 4, 1] = .ok less ∧
          settle Pool.fourDice "4d6kh3" [3, 6, 4, 5] = .ok more ∧
            less.total ≤ more.total := by
  have below : List.Forall₂ (· ≤ ·) ([3, 6, 4, 1] : List Int) [3, 6, 4, 5] := by simp
  exact ⟨below, settle_total_mono Pool.fourDice "4d6kh3" below⟩

end Play
end Tabletop
