import Tabletop.Proofs.Correspondence
import Tabletop.Proofs.Description
import Tabletop.Proofs.Requests

/-!
# Rolling within limits

The outer surfaces check an order against limits, roll it, and make something of the
outcomes.  An order that is refused is refused before the source is asked, for the first
reason in a fixed order of precedence.  Any other order is rolled, and the limits bound
the requests that are made.
-/

namespace Tabletop

/-! ## Verdicts -/

namespace Limits

/-- Whether an order may be rolled so many times, or why not. -/
def verdict (limits : Limits) (order : Order) (times : Int) : Except Fault Unit :=
  order.denoted >>= fun pool => limits.check pool times

theorem check_eq_ok_iff
    {limits : Limits}
    {pool : Pool}
    {times : Int} :
    limits.check pool times = .ok () ↔
      pool.count ≤ limits.dice ∧ 1 ≤ times ∧ times ≤ limits.times := by
  unfold check checkDice checkTimes
  split
  · simp
    omega
  · split
    · simp
      omega
    · split
      · simp
        omega
      · simp
        omega

/-- Within limits, no more dice are rolled than the limits allow altogether. -/
theorem count_mul_le_of_check
    {limits : Limits}
    {pool : Pool}
    {times : Int}
    (checked : limits.check pool times = .ok ()) :
    pool.count * times ≤ limits.dice * limits.times := by
  obtain ⟨dice, positive, few⟩ := check_eq_ok_iff.mp checked
  exact Int.mul_le_mul dice few (by omega) (by omega)

/-- A pool cannot be rolled so many times within limits; a fault counts only if none
before it does. -/
inductive Exceeds (limits : Limits) (pool : Pool) (times : Int) : Fault → Prop
  | tooManyDice :
      limits.dice < pool.count → Exceeds limits pool times (.tooManyDice pool.count limits.dice)
  | tooFewRolls :
      pool.count ≤ limits.dice → times < 1 → Exceeds limits pool times (.tooFewRolls times)
  | tooManyRolls :
      pool.count ≤ limits.dice → 1 ≤ times → limits.times < times →
        Exceeds limits pool times (.tooManyRolls times limits.times)

/-- Limits refuse that a text be rolled so many times, with the status that a service
gives for it.  Whether the text is in the grammar comes first. -/
inductive Refuses (limits : Limits) (text : String) (times : Int) : Nat → Fault → Prop
  | ungrammatical :
      (∀ parts : Notation, ¬ parts.Divides text) →
        Refuses limits text times 400 (.badNotation text)
  | exceeding {parts : Notation} {pool : Pool} {fault : Fault} :
      parts.Divides text → parts.Denotes pool → limits.Exceeds pool times fault →
        Refuses limits text times 422 fault

end Limits

theorem writable_count
    {text : String}
    {pool : Pool}
    (parsed : Notation.parse text = .ok pool) :
    Numeral.Writable pool.count :=
  (Numeral.writable_natCast_iff pool.count).mpr (Pool.printable_of_parse parsed).count

theorem Fault.raised_of_writable
    {fault : Fault}
    (writable : ∀ number ∈ fault.numbers, Numeral.Writable number) :
    fault.raised = fault :=
  if_pos writable

namespace Limits

/-- Limits that a surface can have. -/
structure Nonnegative (limits : Limits) : Prop where
  dice : 0 ≤ limits.dice
  times : 0 ≤ limits.times

variable {limits : Limits} {text : String} {times : Int}

/-- Too many dice are refused in words that name their number, if it can be written. -/
theorem checkDice_of_lt
    {pool : Pool}
    (nonnegative : limits.Nonnegative)
    (writable : Numeral.Writable pool.count)
    (more : limits.dice < pool.count) :
    limits.checkDice pool = .error (.tooManyDice pool.count limits.dice) := by
  have maximum := Numeral.writable_of_le nonnegative.dice (by omega) writable
  rw [checkDice, if_pos more, Fault.raised_of_writable]
  simp [Fault.numbers, writable, maximum]

/-- A pool that cannot be rolled is refused in the words of its fault, if the numbers in
them can be written. -/
theorem Exceeds.check_eq_error
    {pool : Pool}
    {fault : Fault}
    (nonnegative : limits.Nonnegative)
    (countWritable : Numeral.Writable pool.count)
    (timesWritable : Numeral.Writable times)
    (exceeds : limits.Exceeds pool times fault) :
    limits.check pool times = .error fault := by
  cases exceeds with
  | tooManyDice more =>
      rw [check, checkDice_of_lt nonnegative countWritable more, Fault.error_bind]
  | tooFewRolls allowed few =>
      have worded : Fault.raised (.tooFewRolls times) = .tooFewRolls times := by
        apply Fault.raised_of_writable
        simp [Fault.numbers, timesWritable]
      rw [check, checkDice, checkTimes, if_neg (by omega), if_pos few, worded, Fault.ok_bind]
  | tooManyRolls allowed some more =>
      have maximum := Numeral.writable_of_le nonnegative.times (by omega) timesWritable
      have worded : Fault.raised (.tooManyRolls times limits.times) =
          .tooManyRolls times limits.times := by
        apply Fault.raised_of_writable
        simp [Fault.numbers, timesWritable, maximum]
      rw [check, checkDice, checkTimes, if_neg (by omega), if_neg (by omega), if_pos more, worded,
        Fault.ok_bind]

theorem check_eq_ok_or_exceeds (limits : Limits) (pool : Pool) (times : Int) :
    limits.check pool times = .ok () ∨ ∃ fault, limits.Exceeds pool times fault := by
  rw [check_eq_ok_iff]
  by_cases dice : limits.dice < pool.count
  · exact .inr ⟨_, .tooManyDice dice⟩
  · by_cases few : times < 1
    · exact .inr ⟨_, .tooFewRolls (by omega) few⟩
    · by_cases many : limits.times < times
      · exact .inr ⟨_, .tooManyRolls (by omega) (by omega) many⟩
      · exact .inl (by omega)

/-- A text whose numerals can be converted is refused for just these reasons. -/
theorem verdict_eq_error_iff
    (nonnegative : limits.Nonnegative)
    (convertible : ∀ parts : Notation, parts.Divides text → parts.Convertible)
    (writable : Numeral.Writable times)
    {fault : Fault} :
    limits.verdict (.written text) times = .error fault ↔
      ∃ status, limits.Refuses text times status fault := by
  have denoted {parts : Notation} {pool : Pool} (divides : parts.Divides text)
      (denotes : parts.Denotes pool) : Notation.parse text = .ok pool :=
    Notation.parse_eq_ok_iff.mpr ⟨parts, divides, convertible parts divides, denotes⟩
  have checked {parts : Notation} {pool : Pool} {reason : Fault} (divides : parts.Divides text)
      (denotes : parts.Denotes pool) (exceeds : limits.Exceeds pool times reason) :
      limits.check pool times = .error reason :=
    exceeds.check_eq_error nonnegative (writable_count (denoted divides denotes)) writable
  by_cases grammatical : ∃ parts : Notation, parts.Divides text
  · obtain ⟨parts, divides⟩ := grammatical
    obtain ⟨pool, denotes⟩ := divides.grammatical.exists_denotes
    have parsed := denoted divides denotes
    rw [verdict, Order.denoted, parsed, Fault.ok_bind]
    constructor
    · intro refused
      rcases limits.check_eq_ok_or_exceeds pool times with admitted | ⟨reason, exceeds⟩
      · rw [admitted] at refused
        cases refused
      · rw [checked divides denotes exceeds] at refused
        obtain rfl := Except.error.inj refused
        exact ⟨422, .exceeding divides denotes exceeds⟩
    · rintro ⟨status, refuses⟩
      cases refuses with
      | ungrammatical outside => exact absurd divides (outside parts)
      | exceeding otherDivides otherDenotes exceeds =>
          have same := (denoted otherDivides otherDenotes).symm.trans parsed
          obtain rfl := Except.ok.inj same
          exact checked divides denotes exceeds
  · have outside := not_exists.mp grammatical
    rw [verdict, Order.denoted, Notation.parse_of_not_divides outside, Fault.error_bind]
    constructor
    · rintro ⟨⟩
      exact ⟨400, .ungrammatical outside⟩
    · rintro ⟨status, refuses⟩
      cases refuses with
      | ungrammatical _ => rfl
      | exceeding divides _ _ => exact absurd divides (outside _)

end Limits

namespace Play

theorem run_checkLimits
    (limits : Limits)
    (order : Order)
    (times : Int)
    (table : Table σ) :
    (checkLimits limits order times).run table =
      (limits.verdict order times, table.afterReading order) := by
  unfold checkLimits Limits.verdict
  rw [run_bind, run_resolve]
  cases order.denoted <;> rfl

/-! ## Rolling -/

section Rolling

variable [RandomSource σ]

/-- Check an order against limits, roll it, and make something of the outcomes. -/
def rollWithin
    (limits : Limits)
    (order : Order)
    (times : Int)
    (finish : List Outcome → Except Fault α) : Play σ α := do
  checkLimits limits order times
  let outcomes ← rollMany order times
  ofExcept (finish outcomes)

variable {limits : Limits} {order : Order} {times : Int}

/-- What limits refuse is not rolled. -/
theorem run_rollWithin_of_refused
    {fault : Fault}
    (refused : limits.verdict order times = .error fault)
    (finish : List Outcome → Except Fault α)
    (table : Table σ) :
    (rollWithin limits order times finish).run table =
      (.error fault, table.afterReading order) := by
  unfold rollWithin
  rw [run_bind, run_checkLimits, refused]

theorem run_rollWithin_of_admitted
    (admitted : limits.verdict order times = .ok ())
    (finish : List Outcome → Except Fault α)
    (table : Table σ) :
    (rollWithin limits order times finish).run table =
      Play.run (rollMany order times >>= fun outcomes => ofExcept (finish outcomes)) table := by
  obtain ⟨pool, denoted, -⟩ := Fault.bind_eq_ok_iff.mp admitted
  unfold rollWithin
  rw [run_bind, run_checkLimits, admitted, table.afterReading_of_denoted denoted]

/-- What limits admit is rolled. -/
theorem draws_rollWithin
    {source : String}
    (admitted : limits.verdict order times = .ok ())
    (sourced : sourceText order = .ok source)
    (finish : List Outcome → Except Fault α)
    (table : Table σ) :
    Draws (rollWithin limits order times finish) table := by
  obtain ⟨pool, denoted, checked⟩ := Fault.bind_eq_ok_iff.mp admitted
  obtain ⟨-, positive, -⟩ := Limits.check_eq_ok_iff.mp checked
  unfold Draws
  rw [run_rollWithin_of_admitted admitted]
  apply draws_bind (draws_rollMany positive denoted sourced table)
  intro outcomes
  exact composable_oblivious.ofExcept (finish outcomes)

/-- Everything is made of the outcomes of as many rolls as were asked for, one after the
other, each with one request for every die. -/
structure Completes
    (pool : Pool)
    (text : String)
    (times : Int)
    (before after : Table σ)
    (outcomes : List Outcome) : Prop where
  calls :
    after.calls.toList = before.calls.toList ++
      List.replicate (pool.count * times.toNat) { low := 1, high := pool.sides }
  length : outcomes.length = times
  inTurn : SettledInTurn pool text before.source outcomes after.source

theorem Completes.of_alike
    {pool : Pool}
    {text : String}
    {before after other : Table σ}
    {outcomes : List Outcome}
    (completes : Completes pool text times before after outcomes)
    (alike : other.Alike after) :
    Completes pool text times before other outcomes where
  calls := by rw [alike.calls, completes.calls]
  length := completes.length
  inTurn := by
    rw [alike.source]
    exact completes.inTurn

theorem completes_of_rollMany
    {pool : Pool}
    {text : String}
    {before after : Table σ}
    {outcomes : List Outcome}
    (positive : 1 ≤ times)
    (denoted : order.denoted = .ok pool)
    (sourced : sourceText order = .ok text)
    (ran : (rollMany order times).run before = (.ok outcomes, after)) :
    Completes pool text times before after outcomes := by
  have calls := (requests_rollMany positive denoted sourced).calls_of_run ran
  rw [rollMany_of_one_le order positive, run_reading_of_denoted denoted sourced] at ran
  obtain ⟨outcomes, rfl, length, inTurn⟩ := settledInTurn_of_rollTimes ran
  refine { calls := ?_, length := ?_, inTurn := inTurn }
  · rw [calls, Nat.mul_comm]
    rfl
  · omega

/-- What was rolled within limits was admitted, and everything was made of the outcomes. -/
theorem completes_of_rollWithin
    {finish : List Outcome → Except Fault α}
    {before after : Table σ}
    {value : α}
    (ran : (rollWithin limits order times finish).run before = (.ok value, after)) :
    ∃ pool text outcomes,
      order.denoted = .ok pool ∧ sourceText order = .ok text ∧
        finish outcomes = .ok value ∧ Completes pool text times before after outcomes := by
  cases admitted : limits.verdict order times with
  | error fault =>
      rw [run_rollWithin_of_refused admitted] at ran
      cases ran
  | ok _ =>
      rw [run_rollWithin_of_admitted admitted] at ran
      obtain ⟨pool, denoted, checked⟩ := Fault.bind_eq_ok_iff.mp admitted
      obtain ⟨-, positive, -⟩ := Limits.check_eq_ok_iff.mp checked
      obtain ⟨outcomes, middle, rolled, finishing⟩ := run_bind_eq_ok_iff.mp ran
      obtain ⟨finished, rfl⟩ := run_ofExcept_eq_ok_iff.mp finishing
      obtain ⟨-, -, text, -, sourced, -⟩ := run_rollMany_eq_ok_iff.mp rolled
      exact ⟨pool, text, outcomes, denoted, sourced, finished,
        completes_of_rollMany positive denoted sourced rolled⟩

/-- Without a text to be recorded under, an order is not rolled. -/
theorem quiet_rollMany_of_not_sourced
    {fault : Fault}
    (positive : 1 ≤ times)
    (unsourced : sourceText order = .error fault) :
    Quiet (rollMany order times : Play σ (List Outcome)) := by
  rw [rollMany_of_one_le order positive]
  apply composable_quiet.bind (composable_quiet.inPlay.resolve order)
  intro pool
  rw [unsourced]
  exact fun _ => ⟨rfl, rfl⟩

/-- However a roll within limits ends, no more requests were made than the limits allow. -/
theorem asksAtMost_rollWithin
    (limits : Limits)
    (order : Order)
    (times : Int)
    (finish : List Outcome → Except Fault α) :
    AsksAtMost (limits.dice.toNat * limits.times.toNat)
      (rollWithin limits order times finish : Play σ α) := by
  intro table
  cases admitted : limits.verdict order times with
  | error fault =>
      rw [run_rollWithin_of_refused admitted, Table.calls_afterReading]
      exact Nat.le_add_right _ _
  | ok _ =>
      rw [run_rollWithin_of_admitted admitted]
      obtain ⟨pool, denoted, checked⟩ := Fault.bind_eq_ok_iff.mp admitted
      obtain ⟨diceAllowed, positive, timesAllowed⟩ := Limits.check_eq_ok_iff.mp checked
      have quiet (outcomes : List Outcome) : Quiet (ofExcept (finish outcomes) : Play σ α) :=
        composable_quiet.ofExcept (finish outcomes)
      cases sourced : sourceText order with
      | error fault =>
          exact (quiet_rollMany_of_not_sourced positive sourced).asksAtMost _
            |>.bind_quiet quiet table
      | ok text =>
          have fewer : times.toNat * pool.count ≤ limits.dice.toNat * limits.times.toNat := by
            rw [Nat.mul_comm]
            exact Nat.mul_le_mul (by omega) (by omega)
          apply ((requests_rollMany positive denoted sourced).bind_quiet quiet).asksAtMost
          rw [List.length_replicate]
          exact fewer

theorem corresponds_rollWithin
    {related : α → β → Prop}
    {left : List Outcome → Except Fault α}
    {right : List Outcome → Except Fault β}
    (finishes : ∀ outcomes, Fault.LiftRel related (left outcomes) (right outcomes)) :
    Corresponds related
      (rollWithin limits order times left : Play σ α) (rollWithin limits order times right) := by
  apply (composable_corresponds.inPlay.checkLimits limits order times).bind
  intro _ _ _
  apply (corresponds_rollMany order times).bind
  rintro outcomes _ rfl
  exact corresponds_ofExcept (finishes outcomes)

end Rolling

end Play
end Tabletop
