import Tabletop.Proofs.Roll.Ranking
import Tabletop.Proofs.Rolling

/-!
# Keeping and dropping

To keep a number of dice from one edge and to drop the rest from the other edge comes to the
same values, because both cut the sorted roll at the same place.  They need not keep the same
dice: each takes equal dice from the front, and at a cut between equal values one of them
selects what the other leaves.  Where the values at the cut differ, the dice are the same too.
-/

namespace Tabletop

namespace Selection

/-- Keep a number of dice from an edge. -/
def keeping (edge : Edge) (number : Nat) (positive : 1 ≤ number) : Selection :=
  { mode := .keep, edge, count := number, count_pos := positive }

/-- Drop a number of dice from an edge. -/
def dropping (edge : Edge) (number : Nat) (positive : 1 ≤ number) : Selection :=
  { mode := .drop, edge, count := number, count_pos := positive }

end Selection

namespace Roll

/-! ## The sorted roll from both edges -/

theorem fromEdge_opposite (edge : Edge) (rolls : List Int) :
    fromEdge edge.opposite rolls = (fromEdge edge rolls).reverse := by
  cases edge with
  | lowest => rfl
  | highest => exact (List.reverse_reverse _).symm

/-- Counted from an edge, the places of a value follow those of the values nearer to it. -/
theorem getElem?_fromEdge
    {edge : Edge}
    {rolls : List Int}
    {value : Int}
    {place : Nat}
    (after : rolls.countP (fun other => edge.Before other value) ≤ place)
    (within :
      place < rolls.countP (fun other => edge.Before other value) + rolls.count value) :
    (fromEdge edge rolls)[place]? = some value := by
  have permuted := perm_fromEdge edge rolls
  have upTo (number : Nat) :=
    count_take_of_pairwise (pairwise_fromEdge edge rolls) number value
  simp only [permuted.count_eq, permuted.countP_eq] at upTo
  -- One place further there is one die more with the value.
  have next := upTo (place + 1)
  rw [List.take_add_one, List.count_append, upTo place] at next
  cases found : (fromEdge edge rolls)[place]? with
  | none =>
      rw [found] at next
      simp only [Option.toList_none, List.count_nil] at next
      omega
  | some other =>
      by_cases same : other = value
      · rw [same]
      · rw [found] at next
        simp only [Option.toList_some, List.count_singleton, beq_iff_eq, same, if_false] at next
        omega

/-! ## The same values -/

variable {edge : Edge} {rolls : List Int} {number : Nat}

/-- What is kept from an edge and what is left. -/
theorem perm_keeping
    (positive : 1 ≤ number)
    {kept dropped : List Int}
    (found : keep (some (.keeping edge number positive)) rolls = .ok (kept, dropped)) :
    kept.Perm ((fromEdge edge rolls).take number) ∧
      dropped.Perm ((fromEdge edge rolls).drop number) :=
  perm_of_split (split_of_keep found)

/-- What is left when the rest is dropped from the other edge, and what is dropped. -/
theorem perm_dropping
    (fewer : number < rolls.length)
    {kept dropped : List Int}
    (found : keep (some (.dropping edge.opposite (rolls.length - number) (by omega))) rolls =
      .ok (kept, dropped)) :
    kept.Perm ((fromEdge edge rolls).take number) ∧
      dropped.Perm ((fromEdge edge rolls).drop number) := by
  obtain ⟨selected, others⟩ := perm_of_split (split_of_keep found)
  have cut : (fromEdge edge rolls).length - (rolls.length - number) = number := by
    rw [(perm_fromEdge edge rolls).length_eq]
    omega
  change dropped.Perm ((fromEdge edge.opposite rolls).take (rolls.length - number)) at selected
  change kept.Perm ((fromEdge edge.opposite rolls).drop (rolls.length - number)) at others
  rw [fromEdge_opposite, List.take_reverse, cut] at selected
  rw [fromEdge_opposite, List.drop_reverse, cut] at others
  exact ⟨others.trans (List.reverse_perm _), selected.trans (List.reverse_perm _)⟩

/-! ## The same dice -/

/-- Where the values at the cut differ, no value stands on both sides of it. -/
theorem countP_before_add_count_le_or
    (distinct : (fromEdge edge rolls)[number - 1]? ≠ (fromEdge edge rolls)[number]?)
    (value : Int) :
    rolls.countP (fun other => edge.Before other value) + rolls.count value ≤ number ∨
      number ≤ rolls.countP fun other => edge.Before other value := by
  by_contra across
  rw [not_or, Nat.not_le, Nat.not_le] at across
  have last : (fromEdge edge rolls)[number - 1]? = some value :=
    getElem?_fromEdge (by omega) (by omega)
  have next : (fromEdge edge rolls)[number]? = some value :=
    getElem?_fromEdge (by omega) (by omega)
  exact distinct (last.trans next.symm)

/-- Where the values at the cut differ, a die is kept from one edge exactly if it is not
dropped from the other. -/
theorem keeps_keeping_eq
    (positive : 1 ≤ number)
    (fewer : number < rolls.length)
    (distinct : (fromEdge edge rolls)[number - 1]? ≠ (fromEdge edge rolls)[number]?) :
    keeps (.keeping edge number positive) rolls =
      keeps (.dropping edge.opposite (rolls.length - number) (by omega)) rolls := by
  funext position
  have cut := countP_before_add_count_le_or distinct rolls[position]
  have whole := length_eq_countP_before edge rolls rolls[position]
  have earlier : (rolls.take position).count rolls[position] < rolls.count rolls[position] :=
    List.count_getElem_take_lt_count
  change decide (rank edge rolls position < number) =
    decide (rolls.length - number ≤ rank edge.opposite rolls position)
  rw [decide_eq_decide]
  unfold rank
  omega

end Roll

namespace Play

/-- To keep a number of dice, fewer than all, from one edge and to drop the rest from the
other edge gives the same total and the same values on both sides; and if the last value
that is kept and the first that is dropped differ, the lists are the same too. -/
theorem settle_dual
    (pool : Pool)
    (edge : Edge)
    (source : String)
    {rolls : List Int}
    {number : Nat}
    (positive : 1 ≤ number)
    (fewer : number < rolls.length) :
    ∃ keeping dropping,
      settle { pool with selection := some (.keeping edge number positive) } source rolls =
          .ok keeping ∧
        settle
            { pool with
              selection :=
                some (.dropping edge.opposite (rolls.length - number) (by omega)) }
            source rolls = .ok dropping ∧
          keeping.total = dropping.total ∧
            keeping.kept.Perm dropping.kept ∧
              keeping.dropped.Perm dropping.dropped ∧
                ((Roll.fromEdge edge rolls)[number - 1]? ≠ (Roll.fromEdge edge rolls)[number]? →
                  keeping.kept = dropping.kept ∧ keeping.dropped = dropping.dropped) := by
  have keepFound := Roll.keep_some_eq_ok (.keeping edge number positive) rolls
  have dropFound := Roll.keep_some_eq_ok
    (.dropping edge.opposite (rolls.length - number) (by omega)) rolls
  have kept := Roll.perm_keeping positive keepFound
  have left := Roll.perm_dropping fewer dropFound
  have same := kept.1.trans left.1.symm
  refine ⟨_, _, settle_of_keep keepFound source, settle_of_keep dropFound source, same.sum_eq,
    same, kept.2.trans left.2.symm, ?_⟩
  intro distinct
  dsimp only
  rw [Roll.keeps_keeping_eq positive fewer distinct]
  exact ⟨rfl, rfl⟩

/-- The highest two of four dice are left by dropping the lowest two. -/
theorem settle_dual_fourDice :
    let rolls : List Int := [6, 1, 6, 4]
    (1 ≤ 2 ∧ 2 < rolls.length ∧
      (Roll.fromEdge .highest rolls)[1]? ≠ (Roll.fromEdge .highest rolls)[2]?) ∧
    ∃ keeping dropping,
      settle { Pool.fourDice with selection := some (.keeping .highest 2 (by decide)) }
          "4d6kh2" rolls = .ok keeping ∧
        settle { Pool.fourDice with selection := some (.dropping .lowest 2 (by decide)) }
            "4d6kh2" rolls = .ok dropping ∧
          keeping.total = dropping.total ∧
            keeping.kept = dropping.kept ∧ keeping.dropped = dropping.dropped := by
  intro rolls
  have fewer : 2 < rolls.length := by decide
  have second : (Roll.fromEdge .highest rolls)[1]? = some 6 :=
    Roll.getElem?_fromEdge (by decide) (by decide)
  have third : (Roll.fromEdge .highest rolls)[2]? = some 4 :=
    Roll.getElem?_fromEdge (by decide) (by decide)
  have distinct : (Roll.fromEdge .highest rolls)[1]? ≠ (Roll.fromEdge .highest rolls)[2]? := by
    rw [second, third]
    decide
  obtain ⟨keeping, dropping, keepSettled, dropSettled, total, -, -, lists⟩ :=
    settle_dual Pool.fourDice .highest "4d6kh2" (by decide) fewer
  exact ⟨⟨by decide, fewer, distinct⟩, keeping, dropping, keepSettled, dropSettled, total,
    lists distinct⟩

end Play
end Tabletop
