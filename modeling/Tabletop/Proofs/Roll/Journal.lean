import Tabletop.Proofs.Limits
import Tabletop.Proofs.Roll.Rendering
import Tabletop.Proofs.Rolling
import Tabletop.Proofs.Succession

/-!
# The journal of rolls

A roll that is completed is written down with its outcome, and nothing else is written while
dice are rolled.  So rolling a number of times leaves one record for each roll that is
completed, in the order of the rolls: for all of them, or for those before the first that
fails.
-/

namespace Tabletop

/-- What is written down about an outcome: the text that was rolled, the values that are kept
and dropped, and the total. -/
def Outcome.entry (outcome : Outcome) : Log.Record :=
  .debug ("ROLL | source=" ++ Text.trim outcome.source ++ outcome.recordTail)

theorem Outcome.eq_entry_of_record
    {outcome : Outcome}
    {record : Log.Record}
    (written : outcome.record = .ok record) :
    record = outcome.entry :=
  (record_eq_ok_iff.mp written).2.symm

namespace Play

variable [RandomSource σ]

/-! ## One roll -/

/-- Nothing is written while the dice of a pool are rolled. -/
theorem records_rollDice
    (sides count : Nat)
    (rolled : List Int)
    (table : Table σ) :
    ((rollDice sides count rolled).run table).2.records = table.records := by
  induction count generalizing rolled table with
  | zero => rfl
  | succ count inductionHypothesis =>
      rw [rollDice, run_bind, run_draw]
      cases (RandomSource.draw (dieBounds sides) table.source).1 with
      | error failure => rfl
      | ok value => exact inductionHypothesis (value :: rolled) _

/-- A roll that is completed leaves its entry. -/
theorem records_of_rollPool
    {pool : Pool}
    {source : String}
    {before after : Table σ}
    {outcome : Outcome}
    (ran : (rollPool pool source).run before = (.ok outcome, after)) :
    after.records.toList = before.records.toList ++ [outcome.entry] := by
  obtain ⟨drawn, middle, record, rolled, -, written, rfl⟩ := run_rollPool_eq_ok_iff.mp ran
  have unwritten := records_rollDice pool.sides pool.count [] before
  rw [rolled] at unwritten
  rw [Outcome.eq_entry_of_record written, ← unwritten]
  exact Array.toList_push

/-- A roll that fails leaves nothing. -/
theorem records_of_rollPool_error
    {pool : Pool}
    {source : String}
    {before after : Table σ}
    {fault : Fault}
    (ran : (rollPool pool source).run before = (.error fault, after)) :
    after.records = before.records := by
  have unwritten := records_rollDice pool.sides pool.count [] before
  unfold rollPool at ran
  rw [run_bind] at ran
  rcases rolled : (rollDice pool.sides pool.count []).run before with ⟨failure | drawn, middle⟩
  · rw [rolled] at ran unwritten
    obtain ⟨-, rfl⟩ := Prod.mk.inj ran
    exact unwritten
  · rw [rolled] at ran unwritten
    dsimp only at ran
    rw [run_bind, run_ofExcept] at ran
    cases settled : settle pool source drawn with
    | error failure =>
        rw [settled] at ran
        obtain ⟨-, rfl⟩ := Prod.mk.inj ran
        exact unwritten
    | ok outcome =>
        rw [settled] at ran
        dsimp only at ran
        rw [run_bind, run_ofExcept] at ran
        cases written : outcome.record with
        | error failure =>
            rw [written] at ran
            obtain ⟨-, rfl⟩ := Prod.mk.inj ran
            exact unwritten
        | ok record =>
            rw [written] at ran
            cases ran

/-! ## Many rolls -/

/-- The outcomes of the rolls that are completed when a pool is rolled a number of times, one
roll after the other: of all of them, or of those before the first that fails. -/
def completedRolls (pool : Pool) (source : String) : Nat → Table σ → List Outcome
  | 0, _ => []
  | times + 1, table =>
      match (rollPool pool source).run table with
      | (.ok outcome, after) => outcome :: completedRolls pool source times after
      | (.error _, _) => []

/-- What is completed depends on the source alone. -/
theorem completedRolls_congr
    {left right : Table σ}
    (alike : left.Alike right)
    (pool : Pool)
    (source : String)
    (times : Nat) :
    completedRolls pool source times left = completedRolls pool source times right := by
  induction times generalizing left right with
  | zero => rfl
  | succ times inductionHypothesis =>
      have works : Corresponds Eq (rollPool pool source : Play σ Outcome) (rollPool pool source) :=
        composable_corresponds.inPlay.rollPool (corresponds_draw (dieBounds pool.sides)) source
      obtain ⟨outcomes, after⟩ := works left right alike
      have same := outcomes.eq
      unfold completedRolls
      rcases leftRan : (rollPool pool source).run left with ⟨leftOutcome, leftAfter⟩
      rcases rightRan : (rollPool pool source).run right with ⟨rightOutcome, rightAfter⟩
      rw [leftRan, rightRan] at same after
      obtain rfl : leftOutcome = rightOutcome := same
      cases leftOutcome with
      | error fault => rfl
      | ok outcome => exact congrArg (outcome :: ·) (inductionHypothesis after)

theorem completedRolls_withGenerators
    (pool : Pool)
    (source : String)
    (times : Nat)
    (table : Table σ)
    (generators : Array (Option (Supplied Int))) :
    completedRolls pool source times { table with generators } =
      completedRolls pool source times table := by
  have alike : { table with generators }.Alike table := ⟨rfl, rfl⟩
  exact completedRolls_congr alike pool source times

/-- Rolling a number of times leaves the entries of the rolls that are completed. -/
theorem records_rollTimes
    (pool : Pool)
    (source : String)
    (times : Nat)
    (table : Table σ) :
    ((rollTimes pool source times []).run table).2.records.toList =
      table.records.toList ++ (completedRolls pool source times table).map Outcome.entry := by
  induction times generalizing table with
  | zero => exact (List.append_nil _).symm
  | succ times inductionHypothesis =>
      rw [rollTimes_succ, run_bind, completedRolls]
      rcases ran : (rollPool pool source).run table with ⟨fault | outcome, middle⟩
      · dsimp only
        rw [records_of_rollPool_error ran, List.map_nil, List.append_nil]
      · have rest := inductionHypothesis middle
        rw [records_of_rollPool ran] at rest
        dsimp only
        rw [run_bind]
        rcases later : (rollTimes pool source times []).run middle with ⟨fault | outcomes, after⟩
        all_goals
          rw [later] at rest
          rw [List.map_cons, List.append_cons]
          exact rest

/-- Rolling that succeeds gives the outcomes of the rolls that are completed, which are all of
them. -/
theorem completedRolls_of_rollTimes
    {pool : Pool}
    {source : String}
    {times : Nat}
    {outcomes : List Outcome}
    {before after : Table σ}
    (ran : (rollTimes pool source times []).run before = (.ok outcomes, after)) :
    completedRolls pool source times before = outcomes ∧ outcomes.length = times := by
  induction times generalizing before after outcomes with
  | zero =>
      obtain ⟨rfl, -⟩ := run_pure_eq_ok_iff.mp ran
      exact ⟨rfl, rfl⟩
  | succ times inductionHypothesis =>
      rw [rollTimes_succ] at ran
      obtain ⟨outcome, middle, rolled, rest⟩ := run_bind_eq_ok_iff.mp ran
      obtain ⟨later, _, rolledLater, returned⟩ := run_bind_eq_ok_iff.mp rest
      obtain ⟨rfl, -⟩ := run_pure_eq_ok_iff.mp returned
      obtain ⟨completed, length⟩ := inductionHypothesis rolledLater
      rw [completedRolls, rolled, List.length_cons, length]
      exact ⟨congrArg (outcome :: ·) completed, rfl⟩

end Play
end Tabletop
