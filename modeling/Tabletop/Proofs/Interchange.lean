import Tabletop.Proofs.Completion
import Tabletop.Proofs.Notation.Padding
import Tabletop.Proofs.Roll.Recording

/-!
# Orders that stand for the same pool

A notation, the pool that it stands for and the canonical notation of that pool are rolled
alike.  An outcome says what was rolled: its text, with or without the blanks around it, and
the canonical notation that it is sent with all stand for its pool.
-/

namespace Tabletop

/-- The texts that an outcome gives all stand for the pool that was rolled. -/
structure Outcome.DescribesItself (outcome : Outcome) : Prop where
  /-- The text that was rolled is read as the pool. -/
  source : Notation.parse outcome.source = .ok outcome.pool
  /-- So is that text as it is shown. -/
  shown : Notation.parse (Text.trim outcome.source) = .ok outcome.pool
  /-- So is the short text of the outcome as a JSON object. -/
  short :
    ∃ members written,
      outcome.json = .ok (.object members) ∧
        members.lookup "short" = some (.text written) ∧
          Notation.parse written = .ok outcome.pool

/-- The canonical notation of its pool stands in an outcome as a JSON object. -/
theorem Outcome.lookup_json
    {outcome : Outcome}
    {short : String}
    (written : outcome.pool.short = .ok short) :
    ∃ members,
      outcome.json = .ok (.object members) ∧ members.lookup "short" = some (.text short) := by
  rw [Outcome.json, written, Fault.ok_bind]
  exact ⟨_, rfl, rfl⟩

theorem Outcome.IsOf.describesItself
    {pool : Pool}
    {source : String}
    {outcome : Outcome}
    (isOf : outcome.IsOf pool source)
    (parsed : Notation.parse source = .ok pool) :
    outcome.DescribesItself := by
  obtain ⟨rfl, rfl⟩ := isOf
  have printable := Pool.printable_of_parse parsed
  obtain ⟨members, sent, named⟩ := Outcome.lookup_json (Pool.short_of_printable printable)
  exact {
    source := parsed
    shown := Notation.parse_trim parsed
    short := ⟨members, _, sent, named, Pool.parse_canonical printable⟩ }

namespace Play

/-- The text that an order is recorded under stands for the pool that the order denotes. -/
theorem parse_of_sourceText
    {order : Order}
    {pool : Pool}
    {source : String}
    (denoted : order.denoted = .ok pool)
    (sourced : sourceText order = .ok source) :
    Notation.parse source = .ok pool := by
  cases order with
  | written text =>
      obtain rfl := Except.ok.inj sourced
      exact denoted
  | pool given =>
      obtain rfl := Except.ok.inj denoted
      by_cases printable : given.Printable
      · obtain rfl := Except.ok.inj ((Pool.short_of_printable printable).symm.trans sourced)
        exact Pool.parse_canonical printable
      · rw [sourceText, Pool.short_of_not_printable printable] at sourced
        contradiction

section Rolling

variable [RandomSource σ] {pool : Pool} {text short source : String} {before after : Table σ}

/-! ## What an outcome is recorded under -/

theorem isOf_of_rollPool
    {outcome : Outcome}
    (ran : (rollPool pool source).run before = (.ok outcome, after)) :
    outcome.IsOf pool source := by
  have itself := (corresponds_rollPool pool source source before before (.refl before)).1
  rw [ran] at itself
  cases itself with
  | ok related => exact related.1

theorem allOf_of_rollTimes
    {times : Nat}
    {outcomes : List Outcome}
    (ran : (rollTimes pool source times []).run before = (.ok outcomes, after)) :
    Outcome.AllOf pool source outcomes := by
  intro outcome member
  obtain ⟨_, _, rolled⟩ :=
    (exists_rollPool_of_rollTimes ran outcome member).resolve_left List.not_mem_nil
  exact isOf_of_rollPool rolled

/-! ## Rolling alike -/

/-- A notation is rolled like its pool, which is recorded under its canonical notation. -/
theorem corresponds_roll_written
    (parsed : Notation.parse text = .ok pool)
    (written : pool.short = .ok short) :
    Corresponds (fun left right => left.source = text ∧ right = left.recordedAs short)
      (roll (.written text) : Play σ Outcome) (roll (.pool pool)) := by
  have denoted : (Order.written text).denoted = .ok pool := parsed
  rw [roll_eq_rollPool denoted rfl, roll_eq_rollPool (Order.denoted_pool pool) written]
  exact (corresponds_rollPool pool text short).imp
    fun _ _ related => ⟨related.1.source, related.2⟩

/-- A pool is rolled just as its canonical notation. -/
theorem roll_pool_eq_roll_written
    (parsed : Notation.parse short = .ok pool)
    (written : pool.short = .ok short) :
    (roll (.written short) : Play σ Outcome) = roll (.pool pool) := by
  have denoted : (Order.written short).denoted = .ok pool := parsed
  rw [roll_eq_rollPool denoted rfl, roll_eq_rollPool (Order.denoted_pool pool) written]

/-- A notation that can be read has a canonical notation, and with any source it is rolled
like the pool that it stands for: the same requests are made, and then both rolls fail with
the same fault, or come to the same outcome but for the text that it is recorded under.  The
pool is rolled just as the canonical notation, which its outcome is recorded under.  And every
outcome that rolling any order comes to, once or a number of times, describes itself. -/
theorem roll_interchangeable (table : Table σ) :
    (∀ text pool,
      ((parse text).run table).1 = .ok pool →
        ∃ short,
          (describeShort (.written text)).run table = (.ok short, table) ∧
            Fault.LiftRel
              (fun asText asPool => asText.source = text ∧ asPool = asText.recordedAs short)
              ((roll (.written text)).run table).1 ((roll (.pool pool)).run table).1 ∧
            ((roll (.written text)).run table).2.Alike ((roll (.pool pool)).run table).2 ∧
            (roll (.written short)).run table = (roll (.pool pool)).run table) ∧
    (∀ order outcome after,
      (roll order).run table = (.ok outcome, after) → outcome.DescribesItself) ∧
    (∀ order times outcomes after,
      (rollMany order times).run table = (.ok outcomes, after) →
        ∀ outcome ∈ outcomes, outcome.DescribesItself) := by
  refine ⟨fun text pool read => ?_, fun order outcome after ran => ?_,
    fun order times outcomes after ran => ?_⟩
  · rw [run_parse] at read
    have parsed : Notation.parse text = .ok pool := read
    have denoted : (Order.written text).denoted = .ok pool := parsed
    have printable := Pool.printable_of_parse parsed
    have written := Pool.short_of_printable printable
    obtain ⟨outcomes, alike⟩ := corresponds_roll_written parsed written table table (.refl table)
    refine ⟨_, run_describeShort_of_denoted denoted written table, outcomes, alike, ?_⟩
    rw [roll_pool_eq_roll_written (Pool.parse_canonical printable) written]
  · obtain ⟨pool, source, denoted, sourced, rolled⟩ := run_reading_eq_ok_iff.mp ran
    exact (isOf_of_rollPool rolled).describesItself (parse_of_sourceText denoted sourced)
  · obtain ⟨-, pool, source, denoted, sourced, rolled⟩ := run_rollMany_eq_ok_iff.mp ran
    intro outcome member
    exact (allOf_of_rollTimes rolled outcome member).describesItself
      (parse_of_sourceText denoted sourced)

end Rolling

/-- Four dice between blanks, one of which is not cut, are rolled like the pool, and the
outcomes describe themselves. -/
theorem roll_interchangeable_fourDice :
    let text := "\u3000\uFEFF 4D6kh3 "
    let table := Table.opening (ScriptedSource.congruential 7)
    (((parse text).run table).1 = .ok Pool.fourDice ∧
      ∃ short,
        (describeShort (.written text)).run table = (.ok short, table) ∧
          Fault.LiftRel
            (fun asText asPool => asText.source = text ∧ asPool = asText.recordedAs short)
            ((roll (.written text)).run table).1 ((roll (.pool Pool.fourDice)).run table).1 ∧
          ((roll (.written text)).run table).2.Alike ((roll (.pool Pool.fourDice)).run table).2 ∧
          (roll (.written short)).run table = (roll (.pool Pool.fourDice)).run table) ∧
    (∃ outcome after,
      (roll (.written text)).run table = (.ok outcome, after) ∧ outcome.DescribesItself) ∧
    (∃ outcomes after,
      (rollMany (.written text) 2).run table = (.ok outcomes, after) ∧
        ∀ outcome ∈ outcomes, outcome.DescribesItself) := by
  intro text table
  have parsed : Notation.parse text = .ok Pool.fourDice := by decide +kernel
  have read : ((parse text).run table).1 = .ok Pool.fourDice := by
    rw [run_parse]
    exact parsed
  have few : Numeral.Writable (Pool.fourDice.count * Pool.fourDice.sides : Nat) := by
    decide +kernel
  have never : RandomSource.NeverFails table.source := ScriptedSource.neverFails_congruential 7
  have keeps : RandomSource.KeepsBounds table.source := ScriptedSource.keepsBounds_congruential 7
  refine ⟨⟨read, (roll_interchangeable table).1 text Pool.fourDice read⟩, ?_, ?_⟩
  · obtain ⟨drawn, outcome, rolled, came⟩ := rolled_text_of_neverFails parsed never keeps
    rw [if_pos (rolled.tallies.writable_total few)] at came
    have ran : (roll (.written text)).run table =
        (.ok outcome, ((roll (.written text)).run table).2) :=
      Prod.ext came rfl
    exact ⟨outcome, _, ran, (roll_interchangeable table).2.1 _ outcome _ ran⟩
  · have positive : (1 : Int) ≤ 2 := by decide
    obtain ⟨outcomes, after, ran⟩ := exists_run_rollMany parsed few never keeps positive
    exact ⟨outcomes, after, ran, (roll_interchangeable table).2.2 _ 2 outcomes after ran⟩

end Play
end Tabletop
