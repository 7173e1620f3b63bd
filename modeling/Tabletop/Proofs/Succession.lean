import Tabletop.Proofs.Description
import Tabletop.Proofs.Play

/-!
# Rolling in succession

An order can be rolled over and over, and is then read anew for each roll.  Rolling it
many times reads it once.  Nothing tells the two apart: neither the outcomes or the
fault, nor what is asked of the source, nor what is written down.
-/

namespace Tabletop
namespace Play

/-- Work goes on in the same way if it does after every value that can come of the
first part. -/
theorem bind_congr_of_run
    {work : Play σ α}
    {left right : α → Play σ β}
    (same : ∀ before value after,
      work.run before = (.ok value, after) → left value = right value) :
    work >>= left = work >>= right := by
  funext table
  change Play.run (work >>= left) table = Play.run (work >>= right) table
  rw [run_bind, run_bind]
  rcases ran : work.run table with ⟨fault | value, after⟩
  · rfl
  · simp only [same table value after ran]

variable [RandomSource σ]

/-- Roll an order so many times, one roll after the other. -/
def rollInSuccession (order : Order) : Nat → Play σ (List Outcome)
  | 0 => pure []
  | times + 1 => do
      let outcome ← roll order
      let later ← rollInSuccession order times
      return outcome :: later

theorem rollInSuccession_add (order : Order) (first second : Nat) :
    (rollInSuccession order (first + second) : Play σ (List Outcome)) = do
      let earlier ← rollInSuccession order first
      let later ← rollInSuccession order second
      return earlier ++ later := by
  induction first with
  | zero => simp [rollInSuccession]
  | succ first inductionHypothesis =>
      rw [Nat.add_right_comm]
      simp [rollInSuccession, inductionHypothesis]

/-! ## Rolling a pool -/

/-- The outcomes so far come before those of the rolls that are left. -/
theorem rollTimes_append
    (pool : Pool)
    (source : String)
    (times : Nat)
    (outcomes : List Outcome) :
    (rollTimes pool source times outcomes : Play σ (List Outcome)) = do
      let later ← rollTimes pool source times []
      return outcomes.reverse ++ later := by
  induction times generalizing outcomes with
  | zero => simp [rollTimes]
  | succ times inductionHypothesis =>
      simp only [rollTimes, bind_assoc]
      refine bind_congr fun outcome => ?_
      rw [inductionHypothesis (outcome :: outcomes), inductionHypothesis [outcome]]
      simp

theorem rollTimes_succ (pool : Pool) (source : String) (times : Nat) :
    (rollTimes pool source (times + 1) [] : Play σ (List Outcome)) = do
      let outcome ← rollPool pool source
      let later ← rollTimes pool source times []
      return outcome :: later := by
  simp only [rollTimes]
  refine bind_congr fun outcome => ?_
  rw [rollTimes_append]
  simp

/-! ## Rolling an order -/

/-- An order that denotes a pool is rolled as that pool. -/
theorem roll_eq_rollPool
    {order : Order}
    {pool : Pool}
    {source : String}
    (denoted : order.denoted = .ok pool)
    (sourced : sourceText order = .ok source) :
    (roll order : Play σ Outcome) = rollPool pool source := by
  funext table
  exact run_reading_of_denoted denoted sourced rollPool table

theorem rollInSuccession_eq_rollTimes
    {order : Order}
    {pool : Pool}
    {source : String}
    (denoted : order.denoted = .ok pool)
    (sourced : sourceText order = .ok source)
    (times : Nat) :
    (rollInSuccession order times : Play σ (List Outcome)) =
      rollTimes pool source times [] := by
  induction times with
  | zero => rfl
  | succ times inductionHypothesis =>
      rw [rollTimes_succ, rollInSuccession, roll_eq_rollPool denoted sourced,
        inductionHypothesis]

/-- The first roll reads the order as all of them would, so it fails where they
do. -/
theorem rollMany_eq_rollInSuccession
    (order : Order)
    {times : Int}
    (positive : 1 ≤ times) :
    (rollMany order times : Play σ (List Outcome)) =
      rollInSuccession order times.toNat := by
  obtain ⟨later, count⟩ : ∃ later, times.toNat = later + 1 := ⟨times.toNat - 1, by omega⟩
  rw [rollMany_of_one_le order positive, count, rollInSuccession, roll, bind_assoc]
  refine bind_congr_of_run fun before pool after resolved => ?_
  rw [run_resolve] at resolved
  obtain ⟨denoted, -⟩ := Prod.mk.inj resolved
  rw [bind_assoc]
  refine bind_congr_of_run fun _ source _ read => ?_
  obtain ⟨sourced, -⟩ := run_ofExcept_eq_ok_iff.mp read
  rw [rollTimes_succ, rollInSuccession_eq_rollTimes denoted sourced]

/-- Rolling an order many times comes to the same as rolling it over and over, up to the
first fault: the same outcomes or the same fault, and the same table afterwards, with
its source, the requests made of the source and the records.  So it can be divided into
two rounds.  Where there is no roll to make, that is the fault, and the table is left as
it is, whatever the order. -/
theorem rollMany_sequential (order : Order) (table : Table σ) :
    (∀ times : Int, 1 ≤ times →
      (rollMany order times).run table =
        (rollInSuccession order times.toNat).run table) ∧
    (∀ first second : Int, 1 ≤ first → 1 ≤ second →
      (rollMany order (first + second)).run table =
        Play.run (do
          let earlier ← rollMany order first
          let later ← rollMany order second
          return earlier ++ later) table) ∧
    (∀ times : Int, times < 1 →
      ∃ fault : Fault,
        (rollMany order times).run table = (.error fault, table) ∧
          (Numeral.Writable times →
            fault = .tooFewRolls times ∧ fault.kind = "LimitExceededError")) := by
  refine ⟨?_, ?_, ?_⟩
  · intro times positive
    rw [rollMany_eq_rollInSuccession order positive]
  · intro first second firstPositive secondPositive
    have count : (first + second).toNat = first.toNat + second.toNat := by omega
    rw [rollMany_eq_rollInSuccession order (by omega),
      rollMany_eq_rollInSuccession order firstPositive,
      rollMany_eq_rollInSuccession order secondPositive, count, rollInSuccession_add]
  · intro times tooFew
    refine ⟨.raised (.tooFewRolls times), ?_, ?_⟩
    · rw [rollMany_of_lt_one order tooFew]
      rfl
    · intro writable
      have worded : Fault.raised (.tooFewRolls times) = .tooFewRolls times :=
        if_pos (by simpa [Fault.numbers] using writable)
      exact ⟨worded, by rw [worded]; rfl⟩

/-- Two dice, from a source that has no number left for the second die of the second
roll, and a text that is no notation. -/
theorem rollMany_sequential_exhausted :
    let table := Table.opening (ScriptedSource.script [3, 5, 2])
    ((rollMany (.written "2d6") 2).run table).1 = .error (.source ScriptedSource.exhausted) ∧
    (1 : Int) ≤ 2 ∧
      (rollMany (.written "2d6") 2).run table =
        (rollInSuccession (.written "2d6") 2).run table ∧
    (1 : Int) ≤ 1 ∧
      (rollMany (.written "2d6") (1 + 1)).run table =
        Play.run (do
          let earlier ← rollMany (.written "2d6") 1
          let later ← rollMany (.written "2d6") 1
          return earlier ++ later) table ∧
    (0 : Int) < 1 ∧ Numeral.Writable 0 ∧
      (rollMany (.written "two dice") 0).run table = (.error (.tooFewRolls 0), table) := by
  intro table
  have exhausted : ((rollMany (.written "2d6") 2).run table).1 =
      .error (.source ScriptedSource.exhausted) := by
    decide +kernel
  have writable : Numeral.Writable 0 := by decide +kernel
  obtain ⟨fault, refused, worded⟩ :=
    (rollMany_sequential (.written "two dice") table).2.2 0 (by decide)
  rw [(worded writable).1] at refused
  exact ⟨exhausted, by decide, (rollMany_sequential (.written "2d6") table).1 2 (by decide),
    by decide,
    (rollMany_sequential (.written "2d6") table).2.1 1 1 (by decide) (by decide),
    by decide, writable, refused⟩

end Play
end Tabletop
