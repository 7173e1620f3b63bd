import Tabletop.Proofs.Correspondence
import Tabletop.Proofs.Roll.Rendering
import Tabletop.Proofs.Roll.Ranking
import Tabletop.Proofs.Rolling
import Tabletop.Proofs.Succession
import Tabletop.Session

/-!
# Rolls that come to an end

A source that never fails and keeps bounds lets the dice of every notation be rolled and its
outcome be settled.  What is left is to write the outcome down, which is done whether anybody
listens or not.  The single dice can always be written, because the sides were read; their
sum can have more digits than any of them, and where it has too many the roll fails.
-/

namespace Tabletop

namespace Outcome

/-- A total is within the digit limit if the number of dice times that of sides is. -/
theorem Tallies.writable_total
    {outcome : Outcome}
    {pool : Pool}
    {drawn : List Int}
    (tallies : outcome.Tallies pool drawn)
    (few : Numeral.Writable (pool.count * pool.sides : Nat)) :
    Numeral.Writable outcome.total := by
  have fewer : outcome.kept.length ≤ pool.count := by
    rw [← tallies.length_drawn]
    exact tallies.shares.sublist_left.length_le
  have lower := tallies.length_le_total
  have upper : outcome.total ≤ (pool.count * pool.sides : Nat) := by
    calc
      outcome.total ≤ outcome.kept.length * pool.sides := tallies.total_le_length_mul
      _ = (outcome.kept.length * pool.sides : Nat) := by rw [Int.natCast_mul]
      _ ≤ (pool.count * pool.sides : Nat) :=
        Int.ofNat_le.mpr (Nat.mul_le_mul_right pool.sides fewer)
  exact Numeral.writable_of_le (by omega) upper few

end Outcome

namespace Play

/-! ## Outcomes that were written down -/

/-- The outcomes that rolling comes to can be written down, and so they can be shown. -/
theorem writable_of_rollPool
    [RandomSource σ]
    {pool : Pool}
    {source : String}
    {outcome : Outcome}
    {before after : Table σ}
    (ran : (rollPool pool source).run before = (.ok outcome, after)) :
    outcome.Writable := by
  obtain ⟨_, _, record, _, _, recorded, _⟩ := run_rollPool_eq_ok_iff.mp ran
  exact (Outcome.record_eq_ok_iff.mp recorded).1

theorem writable_of_roll
    [RandomSource σ]
    {order : Order}
    {outcome : Outcome}
    {before after : Table σ}
    (ran : (roll order).run before = (.ok outcome, after)) :
    outcome.Writable := by
  obtain ⟨pool, source, -, -, rolled⟩ := run_reading_eq_ok_iff.mp ran
  exact writable_of_rollPool rolled

theorem writable_of_rollMany
    [RandomSource σ]
    {order : Order}
    {times : Int}
    {outcomes : List Outcome}
    {before after : Table σ}
    (ran : (rollMany order times).run before = (.ok outcomes, after)) :
    ∀ outcome ∈ outcomes, outcome.Writable := by
  obtain ⟨-, pool, source, -, -, rolled⟩ := run_rollMany_eq_ok_iff.mp ran
  intro outcome member
  obtain ⟨_, _, once⟩ :=
    (exists_rollPool_of_rollTimes rolled outcome member).resolve_left List.not_mem_nil
  exact writable_of_rollPool once

section Completion

variable [RandomSource σ] {pool : Pool} {before : Table σ}

/-! ## Rolling with a source that never fails -/

theorem exists_run_rollDice
    (never : RandomSource.NeverFails before.source)
    (pool : Pool)
    (count : Nat)
    (rolled : List Int) :
    ∃ rolls after, (rollDice pool.sides count rolled).run before = (.ok rolls, after) := by
  induction count generalizing rolled before with
  | zero => exact ⟨_, _, rfl⟩
  | succ count inductionHypothesis =>
      obtain ⟨value, answered⟩ := never.answered (proper_dieBounds pool)
      let middle := ((draw (dieBounds pool.sides)).run before).2
      have drew : (draw (dieBounds pool.sides)).run before = (.ok value, middle) := by
        rw [run_draw, answered]
        rfl
      have neverAgain : RandomSource.NeverFails middle.source :=
        never.draw (proper_dieBounds pool)
      obtain ⟨rolls, after, rest⟩ := inductionHypothesis neverAgain (value :: rolled)
      exact ⟨rolls, after, run_bind_eq_ok_iff.mpr ⟨value, middle, drew, rest⟩⟩

theorem exists_settle (pool : Pool) (source : String) (drawn : List Int) :
    ∃ outcome, settle pool source drawn = .ok outcome := by
  obtain ⟨kept, dropped, found⟩ := Roll.exists_keep pool.selection drawn
  exact ⟨_, settle_of_keep found source⟩

/-- After the dice are rolled and settled, only writing the outcome down can fail. -/
theorem run_rollPool_of_settle
    {source : String}
    {drawn : List Int}
    {middle : Table σ}
    {outcome : Outcome}
    (rolled : (rollDice pool.sides pool.count []).run before = (.ok drawn, middle))
    (settled : settle pool source drawn = .ok outcome) :
    ((rollPool pool source).run before).1 = outcome.record.map (fun _ => outcome) ∧
      ((rollPool pool source).run before).2.Alike middle := by
  unfold rollPool
  simp only [run_bind, rolled, run_ofExcept, settled]
  cases outcome.record with
  | error fault => exact ⟨rfl, .refl middle⟩
  | ok record => exact ⟨rfl, ⟨rfl, rfl⟩⟩

/-- The dice of a pool that can be written are rolled, and the roll succeeds exactly if the
total can be written. -/
theorem rolled_of_neverFails
    (printable : pool.Printable)
    (never : RandomSource.NeverFails before.source)
    (keeps : RandomSource.KeepsBounds before.source)
    (source : String) :
    ∃ drawn outcome,
      Rolled pool before drawn outcome ((rollPool pool source).run before).2 ∧
        ((rollPool pool source).run before).1 =
          if Numeral.Writable outcome.total then .ok outcome else .error .numberTooLong := by
  obtain ⟨rolls, middle, rolled⟩ := exists_run_rollDice never pool pool.count []
  obtain ⟨drawn, rollsEq, answers, calls⟩ := run_rollDice_eq_ok rolled
  rw [List.reverse_nil, List.nil_append] at rollsEq
  subst rollsEq
  have length : rolls.length = pool.count := by
    rw [answers.length_eq, List.length_replicate]
  have contained := answers.contains_of_mem_replicate (proper_dieBounds pool) keeps
  obtain ⟨outcome, settled⟩ := exists_settle pool source rolls
  have tallies := tallies_of_settle settled length contained
  obtain ⟨came, alike⟩ := run_rollPool_of_settle rolled settled
  refine ⟨rolls, outcome, { answers := ?_, calls_eq := ?_, tallies }, ?_⟩
  · rw [alike.source]
    exact answers
  · rw [alike.calls]
    exact calls
  · have sidesWritable := (Numeral.writable_natCast_iff pool.sides).mpr printable.sides
    have single (number : Int) (member : number ∈ rolls) : Numeral.Writable number := by
      obtain ⟨low, high⟩ := contained number member
      exact Numeral.writable_of_le (Int.le_trans Int.one_nonneg low) high sidesWritable
    have kept (number : Int) (member : number ∈ outcome.kept) : Numeral.Writable number :=
      single number (tallies.shares.sublist_left.mem member)
    have dropped (number : Int) (member : number ∈ outcome.dropped) : Numeral.Writable number :=
      single number (tallies.shares.swap.sublist_left.mem member)
    rw [came]
    by_cases total : Numeral.Writable outcome.total
    · have writable : outcome.Writable := { kept, dropped, total }
      rw [Outcome.record_eq_ok_iff.mpr ⟨writable, rfl⟩, if_pos total]
      rfl
    · rw [Outcome.record_of_not_writable kept dropped total, if_neg total]
      rfl

/-- A pool whose greatest total can be written is rolled any number of times. -/
theorem exists_run_rollTimes
    (printable : pool.Printable)
    (few : Numeral.Writable (pool.count * pool.sides : Nat))
    (never : RandomSource.NeverFails before.source)
    (keeps : RandomSource.KeepsBounds before.source)
    (source : String)
    (times : Nat)
    (earlier : List Outcome) :
    ∃ outcomes after,
      (rollTimes pool source times earlier).run before = (.ok outcomes, after) := by
  induction times generalizing before earlier with
  | zero => exact ⟨_, _, rfl⟩
  | succ times inductionHypothesis =>
      obtain ⟨drawn, outcome, rolled, came⟩ := rolled_of_neverFails printable never keeps source
      rw [if_pos (rolled.tallies.writable_total few)] at came
      have neverAgain := rolled.answers.neverFails (proper_of_mem_requests pool) never
      obtain ⟨outcomes, after, rest⟩ :=
        inductionHypothesis neverAgain (rolled.keepsBounds keeps) (outcome :: earlier)
      exact ⟨outcomes, after, run_bind_eq_ok_iff.mpr ⟨outcome, _, Prod.ext came rfl, rest⟩⟩

/-! ## Rolling a notation -/

/-- A notation whose greatest total can be written is rolled any positive number of times. -/
theorem exists_run_rollMany
    {text : String}
    {times : Int}
    (parsed : Notation.parse text = .ok pool)
    (few : Numeral.Writable (pool.count * pool.sides : Nat))
    (never : RandomSource.NeverFails before.source)
    (keeps : RandomSource.KeepsBounds before.source)
    (positive : 1 ≤ times) :
    ∃ outcomes after,
      (rollMany (.written text) times).run before = (.ok outcomes, after) := by
  have denoted : (Order.written text).denoted = .ok pool := parsed
  rw [rollMany_of_one_le (.written text) positive, run_reading_of_denoted denoted rfl]
  exact exists_run_rollTimes (Pool.printable_of_parse parsed) few never keeps text _ []

/-- A session that rolls a text tells what came of the roll, whoever listens. -/
theorem results_roll (listener : Log.Listener) (text : String) (table : Table σ) :
    (Session.run listener table [.roll (.written text)]).1.map Session.Report.result =
      [((roll (.written text)).run table).1.map .outcome] := by
  have performs : (Session.Step.roll (.written text)).perform =
      (roll (.written text) >>= fun outcome => pure (.outcome outcome) : Play σ Session.Answer) :=
    rfl
  have told : (Session.run listener table [.roll (.written text)]).1.map Session.Report.result =
      [((Session.Step.roll (.written text)).perform.run table).1] :=
    rfl
  rw [told, performs, run_bind]
  rcases (roll (.written text)).run table with ⟨fault | outcome, after⟩
  · rfl
  · rfl

/-- A notation that can be read is rolled as its pool, whose numbers can be written. -/
theorem rolled_text_of_neverFails
    {text : String}
    (parsed : Notation.parse text = .ok pool)
    (never : RandomSource.NeverFails before.source)
    (keeps : RandomSource.KeepsBounds before.source) :
    let ran := (roll (.written text)).run before
    ∃ drawn outcome,
      Rolled pool before drawn outcome ran.2 ∧
        ran.1 = if Numeral.Writable outcome.total then .ok outcome else .error .numberTooLong := by
  have rolls : (roll (.written text) : Play σ Outcome) = rollPool pool text :=
    roll_eq_rollPool parsed rfl
  rw [rolls]
  exact rolled_of_neverFails (Pool.printable_of_parse parsed) never keeps text

/-- A source that never fails and keeps bounds gives a number for every die of a notation
that can be read, and an outcome accounts for these numbers.  The roll returns that outcome
if its total can be written, and fails otherwise; whether anybody listens to what it writes
down makes no difference. -/
theorem roll_of_neverFails
    {text : String}
    (parsed : Notation.parse text = .ok pool)
    (never : RandomSource.NeverFails before.source)
    (keeps : RandomSource.KeepsBounds before.source) :
    let ran := (roll (.written text)).run before
    ∃ drawn outcome,
      Rolled pool before drawn outcome ran.2 ∧
        ran.1 = (if Numeral.Writable outcome.total then .ok outcome else .error .numberTooLong) ∧
          ∀ listener,
            (Session.run listener before [.roll (.written text)]).1.map Session.Report.result =
              [ran.1.map .outcome] := by
  obtain ⟨drawn, outcome, rolled, came⟩ := rolled_text_of_neverFails parsed never keeps
  exact ⟨drawn, outcome, rolled, came, fun listener => results_roll listener text before⟩

end Completion

/-- The congruential generator rolls four dice. -/
theorem roll_of_neverFails_congruential :
    let table := Table.opening (ScriptedSource.congruential 7)
    Notation.parse "4d6kh3" = .ok Pool.fourDice ∧
      RandomSource.NeverFails table.source ∧
        RandomSource.KeepsBounds table.source ∧
          ∃ drawn outcome,
            Rolled Pool.fourDice table drawn outcome ((roll (.written "4d6kh3")).run table).2 ∧
              ((roll (.written "4d6kh3")).run table).1 = .ok outcome := by
  intro table
  have parsed : Notation.parse "4d6kh3" = .ok Pool.fourDice := by decide +kernel
  have never : RandomSource.NeverFails table.source := ScriptedSource.neverFails_congruential 7
  have keeps : RandomSource.KeepsBounds table.source := ScriptedSource.keepsBounds_congruential 7
  obtain ⟨drawn, outcome, rolled, came, -⟩ := roll_of_neverFails parsed never keeps
  have writable : Numeral.Writable outcome.total :=
    rolled.tallies.writable_total (by decide +kernel)
  rw [if_pos writable] at came
  exact ⟨parsed, never, keeps, drawn, outcome, rolled, came⟩

/-! ## Totals beyond the digit limit -/

/-- Two dice with as many sides as can be written. -/
def widestDice : Pool :=
  { count := 2
    sides := 10 ^ Numeral.digitLimit - 1
    selection := none
    count_pos := Nat.two_pos
    two_le_sides := by
      have several : 10 ^ 1 ≤ 10 ^ Numeral.digitLimit :=
        Nat.pow_le_pow_right (by decide) (by decide)
      omega }

theorem printable_widestDice : widestDice.Printable := by
  have positive : 0 < Numeral.digitLimit := by decide
  have small : widestDice.sides < 10 ^ Numeral.digitLimit :=
    Nat.sub_lt (Nat.pow_pos (by decide)) Nat.one_pos
  have sides := Numeral.length_digits_le positive small
  exact { count := by decide +kernel, sides, selection := nofun }

/-- The highest numbers of a pool without a selection add up to so many. -/
theorem total_of_highest
    {pool : Pool}
    {later : ScriptedSource}
    {drawn : List Int}
    {outcome : Outcome}
    (none : pool.selection = none)
    (answers : RandomSource.Answers .highest pool.requests drawn later)
    (tallies : outcome.Tallies pool drawn) :
    outcome.total = (pool.count * pool.sides : Nat) := by
  have shares := tallies.shares
  rw [tallies.dropped_eq_nil none] at shares
  rw [tallies.total_eq_sum, shares.swap.right_eq_whole_iff.mpr rfl,
    ScriptedSource.answers_highest answers]
  simp [Pool.requests, dieBounds]

theorem not_writable_widestDice :
    ¬ Numeral.Writable (widestDice.count * widestDice.sides : Nat) := by
  have positive : 1 ≤ Numeral.digitLimit := by decide
  have several : 10 ^ 1 ≤ 10 ^ Numeral.digitLimit := Nat.pow_le_pow_right (by decide) positive
  rw [Numeral.writable_iff_lt_pow, Nat.not_lt]
  dsimp only [widestDice]
  generalize 10 ^ Numeral.digitLimit = limit at several ⊢
  omega

/-- The highest numbers of the widest dice add up to a total that cannot be written, and so
the roll fails. -/
theorem roll_of_neverFails_not_writable :
    let text := String.ofList widestDice.canonical.flatten
    let table := Table.opening ScriptedSource.highest
    Notation.parse text = .ok widestDice ∧
      RandomSource.NeverFails table.source ∧
        RandomSource.KeepsBounds table.source ∧
          ((roll (.written text)).run table).1 = .error .numberTooLong := by
  intro text table
  have parsed : Notation.parse text = .ok widestDice := Pool.parse_canonical printable_widestDice
  have never : RandomSource.NeverFails table.source := ScriptedSource.neverFails_highest
  have keeps : RandomSource.KeepsBounds table.source := ScriptedSource.keepsBounds_highest
  obtain ⟨drawn, outcome, rolled, came⟩ := rolled_text_of_neverFails parsed never keeps
  have long : ¬ Numeral.Writable outcome.total := by
    rw [total_of_highest rfl rolled.answers rolled.tallies]
    exact not_writable_widestDice
  rw [if_neg long] at came
  exact ⟨parsed, never, keeps, came⟩

end Play
end Tabletop
