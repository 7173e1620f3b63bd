import Mathlib.Data.List.Permutation
import Tabletop.Proofs.Description
import Tabletop.Proofs.Play
import Tabletop.Proofs.Roll.Sharing
import Tabletop.Proofs.Source

/-!
# What a roll uses and returns

A roll asks the source for one number per die of its pool and for nothing else, and
its outcome accounts for all the numbers that the source gave.  Rolling many times
does this once for each outcome, one after the other.
-/

namespace Tabletop

/-- The requests that rolling a pool makes. -/
def Pool.requests (pool : Pool) : List Bounds :=
  List.replicate pool.count (Play.dieBounds pool.sides)

/-- An outcome accounts for the numbers that were drawn for the dice of a pool. -/
structure Outcome.Tallies
    (outcome : Outcome)
    (pool : Pool)
    (drawn : List Int) : Prop where
  /-- The outcome is one of this pool. -/
  pool_eq : outcome.pool = pool
  /-- One number was drawn for each die. -/
  length_drawn : drawn.length = pool.count
  /-- Every number is kept or dropped, in the order of the roll. -/
  shares : Roll.Shares drawn outcome.kept outcome.dropped
  /-- Nothing is dropped unless there is a selection. -/
  dropped_eq_nil : pool.selection = none → outcome.dropped = []
  /-- As many dice are selected as the selection asks for, or all. -/
  length_selected :
    ∀ selection, pool.selection = some selection →
      (Roll.selectedSide selection.mode outcome.kept outcome.dropped).length =
        min selection.count pool.count
  /-- The total is the sum of the kept numbers. -/
  total_eq_sum : outcome.total = outcome.kept.sum
  /-- Each kept die adds at least one. -/
  length_le_total : (outcome.kept.length : Int) ≤ outcome.total
  /-- Each kept die adds at most the number of sides. -/
  total_le_length_mul : outcome.total ≤ outcome.kept.length * pool.sides
  /-- The total is zero exactly if every die was dropped. -/
  total_eq_zero_iff : outcome.total = 0 ↔ outcome.dropped = drawn

namespace Play

/-! ## One roll -/

/-- A roll of a pool took the table from one state to another: the source gave the
drawn numbers to exactly the requests of the pool, and the outcome accounts for
them. -/
structure Rolled
    [RandomSource σ]
    (pool : Pool)
    (before : Table σ)
    (drawn : List Int)
    (outcome : Outcome)
    (after : Table σ) : Prop where
  /-- The numbers are the answers of the source. -/
  answers : RandomSource.Answers before.source pool.requests drawn after.source
  /-- No other request was made. -/
  calls_eq : after.calls.toList = before.calls.toList ++ pool.requests
  /-- The outcome accounts for the numbers. -/
  tallies : outcome.Tallies pool drawn

theorem proper_dieBounds (pool : Pool) :
    (dieBounds pool.sides).Proper := by
  have sides := pool.two_le_sides
  unfold Bounds.Proper dieBounds
  dsimp only
  omega

theorem proper_of_mem_requests (pool : Pool) :
    ∀ bounds ∈ pool.requests, bounds.Proper := by
  intro bounds member
  rw [List.eq_of_mem_replicate member]
  exact proper_dieBounds pool

/-- Rolling dice adds the answers of the source to those rolled already. -/
theorem run_rollDice_eq_ok
    [RandomSource σ]
    {sides count : Nat}
    {rolled rolls : List Int}
    {before after : Table σ}
    (ran : (rollDice sides count rolled).run before = (.ok rolls, after)) :
    ∃ drawn,
      rolls = rolled.reverse ++ drawn ∧
        RandomSource.Answers before.source (List.replicate count (dieBounds sides)) drawn
          after.source ∧
        after.calls.toList =
          before.calls.toList ++ List.replicate count (dieBounds sides) := by
  induction count generalizing rolled before with
  | zero =>
      obtain ⟨rfl, rfl⟩ := run_pure_eq_ok_iff.mp ran
      refine ⟨[], ?_, .done _, ?_⟩
      · rw [List.append_nil]
      · rw [List.replicate_zero, List.append_nil]
  | succ count inductionHypothesis =>
      obtain ⟨value, middle, drew, rest⟩ := run_bind_eq_ok_iff.mp ran
      obtain ⟨answered, called⟩ := run_draw_eq_ok drew
      obtain ⟨drawn, rollsEq, answers, calledRest⟩ := inductionHypothesis rest
      refine ⟨value :: drawn, ?_, .next answered answers, ?_⟩
      · rw [rollsEq, List.reverse_cons, List.append_assoc]
        rfl
      · rw [calledRest, called, List.append_assoc]
        rfl

/-- Values that are kept and dropped settle an outcome. -/
theorem settle_of_keep
    {pool : Pool}
    {drawn kept dropped : List Int}
    (found : Roll.keep pool.selection drawn = .ok (kept, dropped))
    (source : String) :
    settle pool source drawn =
      .ok { total := Roll.total kept, pool, kept, dropped, source } := by
  rw [settle, found, Fault.ok_bind]
  rfl

/-- Settled numbers within the bounds of the dice are accounted for. -/
theorem tallies_of_settle
    {pool : Pool}
    {source : String}
    {drawn : List Int}
    {outcome : Outcome}
    (settled : settle pool source drawn = .ok outcome)
    (length : drawn.length = pool.count)
    (contained : ∀ value ∈ drawn, (dieBounds pool.sides).Contains value) :
    outcome.Tallies pool drawn := by
  obtain ⟨⟨kept, dropped⟩, found, outcomeEq⟩ := Fault.bind_eq_ok_iff.mp settled
  obtain rfl := Except.ok.inj outcomeEq
  have shares := Roll.shares_of_keep found
  have bounds := Roll.total_bounds fun value member =>
    contained value (shares.sublist_left.mem member)
  constructor
  case pool_eq => rfl
  case length_drawn => exact length
  case shares => exact shares
  case dropped_eq_nil =>
    intro none
    rw [none] at found
    exact (Roll.keep_none_eq_ok_iff.mp found).2
  case length_selected =>
    intro selection some
    rw [some] at found
    rw [← length]
    exact Roll.length_selectedSide_of_keep found
  case total_eq_sum => exact Roll.total_eq_sum kept
  case length_le_total => exact bounds.1
  case total_le_length_mul => exact bounds.2
  case total_eq_zero_iff =>
    rw [shares.right_eq_whole_iff]
    constructor
    · intro zero
      have lower := bounds.1
      dsimp only at zero
      exact List.eq_nil_of_length_eq_zero (by omega)
    · rintro rfl
      rfl

/-- A roll succeeds exactly if the dice are rolled, the outcome is settled, and it can
be written down. -/
theorem run_rollPool_eq_ok_iff
    [RandomSource σ]
    {pool : Pool}
    {source : String}
    {before after : Table σ}
    {outcome : Outcome} :
    (rollPool pool source).run before = (.ok outcome, after) ↔
      ∃ drawn middle record,
        (rollDice pool.sides pool.count []).run before = (.ok drawn, middle) ∧
          settle pool source drawn = .ok outcome ∧
          outcome.record = .ok record ∧
          after = { middle with records := middle.records.push record } := by
  constructor
  · intro ran
    obtain ⟨drawn, middle, rolled, settling⟩ := run_bind_eq_ok_iff.mp ran
    obtain ⟨settledOutcome, _, settle, recording⟩ := run_bind_eq_ok_iff.mp settling
    obtain ⟨settled, rfl⟩ := run_ofExcept_eq_ok_iff.mp settle
    obtain ⟨record, _, write, noting⟩ := run_bind_eq_ok_iff.mp recording
    obtain ⟨recorded, rfl⟩ := run_ofExcept_eq_ok_iff.mp write
    obtain ⟨_, _, noted, returning⟩ := run_bind_eq_ok_iff.mp noting
    obtain ⟨rfl, rfl⟩ := run_pure_eq_ok_iff.mp returning
    obtain ⟨_, rfl⟩ := Prod.mk.inj ((run_note record middle).symm.trans noted)
    exact ⟨drawn, middle, record, rolled, settled, recorded, rfl⟩
  · rintro ⟨drawn, middle, record, rolled, settled, recorded, rfl⟩
    apply run_bind_eq_ok_iff.mpr
    refine ⟨drawn, middle, rolled, ?_⟩
    simp only [run_bind, run_ofExcept, run_note, run_pure, settled, recorded]

/-- What a pool was rolled to, with a source that keeps bounds. -/
theorem rolled_of_rollPool
    [RandomSource σ]
    {pool : Pool}
    {source : String}
    {before after : Table σ}
    {outcome : Outcome}
    (keeps : RandomSource.KeepsBounds before.source)
    (ran : (rollPool pool source).run before = (.ok outcome, after)) :
    ∃ drawn, Rolled pool before drawn outcome after := by
  obtain ⟨rolls, middle, record, rolled, settled, _, rfl⟩ := run_rollPool_eq_ok_iff.mp ran
  obtain ⟨drawn, rollsEq, answers, called⟩ := run_rollDice_eq_ok rolled
  rw [List.reverse_nil, List.nil_append] at rollsEq
  subst rollsEq
  have length : rolls.length = pool.count := by
    rw [answers.length_eq, List.length_replicate]
  have contained :=
    answers.contains_of_mem_replicate (proper_dieBounds pool) keeps
  exact ⟨rolls, answers, called, tallies_of_settle settled length contained⟩

/-- A source that keeps bounds still does so after a roll. -/
theorem Rolled.keepsBounds
    [RandomSource σ]
    {pool : Pool}
    {before after : Table σ}
    {drawn : List Int}
    {outcome : Outcome}
    (rolled : Rolled pool before drawn outcome after)
    (keeps : RandomSource.KeepsBounds before.source) :
    RandomSource.KeepsBounds after.source :=
  rolled.answers.keepsBounds (proper_of_mem_requests pool) keeps

/-! ## Many rolls -/

/-- Rolls of a pool, one after the other, took the table from one state to
another. -/
inductive RolledInTurn [RandomSource σ] (pool : Pool) :
    Table σ → List Outcome → Table σ → Prop
  | done (table : Table σ) : RolledInTurn pool table [] table
  | next {before middle after : Table σ} {drawn : List Int} {outcome : Outcome}
      {outcomes : List Outcome} :
      Rolled pool before drawn outcome middle →
        RolledInTurn pool middle outcomes after →
          RolledInTurn pool before (outcome :: outcomes) after

/-- Rolling a number of times adds that many outcomes to those so far. -/
theorem rolledInTurn_of_rollTimes
    [RandomSource σ]
    {pool : Pool}
    {source : String}
    {times : Nat}
    {earlier outcomes : List Outcome}
    {before after : Table σ}
    (keeps : RandomSource.KeepsBounds before.source)
    (ran : (rollTimes pool source times earlier).run before = (.ok outcomes, after)) :
    ∃ later,
      outcomes = earlier.reverse ++ later ∧
        later.length = times ∧ RolledInTurn pool before later after := by
  induction times generalizing earlier before with
  | zero =>
      obtain ⟨rfl, rfl⟩ := run_pure_eq_ok_iff.mp ran
      exact ⟨[], (List.append_nil _).symm, rfl, .done _⟩
  | succ times inductionHypothesis =>
      obtain ⟨outcome, middle, rolledOnce, rest⟩ := run_bind_eq_ok_iff.mp ran
      obtain ⟨drawn, rolled⟩ := rolled_of_rollPool keeps rolledOnce
      obtain ⟨later, outcomesEq, length, inTurn⟩ :=
        inductionHypothesis (rolled.keepsBounds keeps) rest
      refine ⟨outcome :: later, ?_, ?_, .next rolled inTurn⟩
      · rw [outcomesEq, List.reverse_cons, List.append_assoc]
        rfl
      · rw [List.length_cons, length]

/-- Every outcome of rolling a pool a number of times is that of one of the rolls. -/
theorem exists_rollPool_of_rollTimes
    [RandomSource σ]
    {pool : Pool}
    {source : String}
    {times : Nat}
    {earlier outcomes : List Outcome}
    {before after : Table σ}
    (ran : (rollTimes pool source times earlier).run before = (.ok outcomes, after)) :
    ∀ outcome ∈ outcomes,
      outcome ∈ earlier ∨
        ∃ start finish : Table σ, (rollPool pool source).run start = (.ok outcome, finish) := by
  induction times generalizing earlier before with
  | zero =>
      obtain ⟨rfl, -⟩ := run_pure_eq_ok_iff.mp ran
      exact fun outcome member => .inl (List.mem_reverse.mp member)
  | succ times inductionHypothesis =>
      obtain ⟨next, middle, rolledOnce, rest⟩ := run_bind_eq_ok_iff.mp ran
      intro outcome member
      rcases inductionHypothesis rest outcome member with already | rolledLater
      · rcases List.mem_cons.mp already with rfl | before
        · exact .inr ⟨_, _, rolledOnce⟩
        · exact .inl before
      · exact .inr rolledLater

/-! ## Orders -/

/-- Work on what an order names succeeds exactly if the order denotes a pool, it can be
written as a source, and the work on them succeeds. -/
theorem run_reading_eq_ok_iff
    {order : Order}
    {next : Pool → String → Play σ α}
    {before after : Table σ}
    {value : α} :
    Play.run (resolve order >>= fun pool => ofExcept (sourceText order) >>= next pool)
        before = (.ok value, after) ↔
      ∃ pool source,
        order.denoted = .ok pool ∧
          sourceText order = .ok source ∧
          (next pool source).run before = (.ok value, after) := by
  constructor
  · intro ran
    obtain ⟨pool, _, resolved, sourcing⟩ := run_bind_eq_ok_iff.mp ran
    rw [run_resolve] at resolved
    obtain ⟨denoted, rfl⟩ := Prod.mk.inj resolved
    rw [before.afterReading_of_denoted denoted] at sourcing
    obtain ⟨source, _, computed, rest⟩ := run_bind_eq_ok_iff.mp sourcing
    obtain ⟨sourced, rfl⟩ := run_ofExcept_eq_ok_iff.mp computed
    exact ⟨pool, source, denoted, sourced, rest⟩
  · rintro ⟨pool, source, denoted, sourced, rest⟩
    rw [run_reading_of_denoted denoted sourced]
    exact rest

/-- Rolling an order many times succeeds exactly if there is a roll to make and rolling the
pool that the order denotes succeeds. -/
theorem run_rollMany_eq_ok_iff
    [RandomSource σ]
    {order : Order}
    {times : Int}
    {before after : Table σ}
    {outcomes : List Outcome} :
    (rollMany order times).run before = (.ok outcomes, after) ↔
      1 ≤ times ∧
        ∃ pool source,
          order.denoted = .ok pool ∧
            sourceText order = .ok source ∧
              (rollTimes pool source times.toNat []).run before = (.ok outcomes, after) := by
  by_cases positive : 1 ≤ times
  · rw [rollMany_of_one_le order positive, run_reading_eq_ok_iff]
    exact ⟨fun rolled => ⟨positive, rolled⟩, fun rolled => rolled.2⟩
  · rw [rollMany_of_lt_one order (by omega)]
    simp [positive]

/-- Whatever a source that keeps bounds answers, every outcome that rolling an order
returns, once or a number of times, was drawn with one request for each die of the
pool that the order denotes, and accounts for the numbers drawn. -/
theorem rolled_of_keepsBounds
    [RandomSource σ]
    {before : Table σ}
    (keeps : RandomSource.KeepsBounds before.source)
    (order : Order) :
    (∀ outcome after,
      (roll order).run before = (.ok outcome, after) →
        ∃ pool drawn,
          order.denoted = .ok pool ∧ Rolled pool before drawn outcome after) ∧
    (∀ times outcomes after,
      (rollMany order times).run before = (.ok outcomes, after) →
        ∃ pool,
          order.denoted = .ok pool ∧
            (outcomes.length : Int) = times ∧ RolledInTurn pool before outcomes after) := by
  constructor
  · intro outcome after ran
    obtain ⟨pool, source, denoted, _, rolledPool⟩ := run_reading_eq_ok_iff.mp ran
    obtain ⟨drawn, rolled⟩ := rolled_of_rollPool keeps rolledPool
    exact ⟨pool, drawn, denoted, rolled⟩
  · intro times outcomes after ran
    have positive : 1 ≤ times := by
      by_contra tooFew
      rw [rollMany_of_lt_one order (by omega)] at ran
      simp at ran
    rw [rollMany_of_one_le order positive] at ran
    obtain ⟨pool, source, denoted, _, rolledTimes⟩ := run_reading_eq_ok_iff.mp ran
    obtain ⟨later, outcomesEq, length, inTurn⟩ := rolledInTurn_of_rollTimes keeps rolledTimes
    rw [List.reverse_nil, List.nil_append] at outcomesEq
    subst outcomesEq
    refine ⟨pool, denoted, ?_, inTurn⟩
    omega

/-- Four dice that show 3, 6, 4 and 6, of which the highest three are kept. -/
def fourDiceRolled : Outcome :=
  { total := 16
    pool := Pool.fourDice
    kept := [6, 4, 6]
    dropped := [3]
    source := "4d6kh3" }

/-- The congruential generator keeps bounds, and rolls four dice. -/
theorem rolled_of_keepsBounds_congruential :
    RandomSource.KeepsBounds (Table.opening (ScriptedSource.congruential 7)).source ∧
      ∃ after pool drawn,
        (roll (.written "4d6kh3")).run (Table.opening (ScriptedSource.congruential 7)) =
            (.ok fourDiceRolled, after) ∧
          (Order.written "4d6kh3").denoted = .ok pool ∧
            Rolled pool (Table.opening (ScriptedSource.congruential 7)) drawn
              fourDiceRolled after := by
  have keeps := ScriptedSource.keepsBounds_congruential 7
  have denoted : (Order.written "4d6kh3").denoted = .ok Pool.fourDice := by decide +kernel
  have rolled :
      ((rollDice 6 4 []).run (Table.opening (ScriptedSource.congruential 7))).1 =
        .ok [3, 6, 4, 6] := by
    decide +kernel
  have kept : Roll.keep Pool.fourDice.selection [3, 6, 4, 6] = .ok ([6, 4, 6], [3]) := by
    cbv
  have settled : settle Pool.fourDice "4d6kh3" [3, 6, 4, 6] = .ok fourDiceRolled := by
    unfold settle
    rw [kept, Fault.ok_bind]
    decide +kernel
  have written : fourDiceRolled.record.toBool = true := by decide +kernel
  cases recorded : fourDiceRolled.record with
  | error fault =>
      rw [recorded] at written
      contradiction
  | ok record =>
      have ran := run_reading_eq_ok_iff.mpr ⟨Pool.fourDice, "4d6kh3", denoted, rfl,
        run_rollPool_eq_ok_iff.mpr ⟨_, _, record, Prod.ext rolled rfl, settled, recorded, rfl⟩⟩
      obtain ⟨pool, drawn, names, accounts⟩ :=
        (rolled_of_keepsBounds keeps (.written "4d6kh3")).1 _ _ ran
      exact ⟨keeps, _, pool, drawn, ran, names, accounts⟩

end Play
end Tabletop
