import Tabletop.CommandLine
import Tabletop.Proofs.CommandLine.Reading
import Tabletop.Proofs.Limits
import Tabletop.Proofs.Play

/-!
# Rolling on the command line

The command that rolls does what checking, rolling and writing the outcomes do.  It is
supervised, which changes nothing but the records, and a fault that has no words; the
numbers that were read can be shown in the records.
-/

namespace Tabletop

/-! ## Supervision -/

namespace Play

/-- Work whose fault is put into words. -/
def surviving (work : Play σ α) : Play σ α :=
  work.attempt >>= fun outcome => Play.ofExcept (outcome.mapError Fault.survivor)

@[simp] theorem run_surviving (work : Play σ α) (table : Table σ) :
    work.surviving.run table =
      ((work.run table).1.mapError Fault.survivor, (work.run table).2) := by
  unfold surviving
  rw [run_bind, run_attempt]
  rfl

theorem Corresponds.supervise
    {related : α → β → Prop}
    {operation : Operation}
    {record : Log.Record}
    {work : Play σ α}
    {other : Play σ β}
    (opening : operation.opening = .ok record)
    (works : Corresponds related work other) :
    Corresponds related (operation.supervise work) other.surviving := by
  intro left right alike
  have noted := (left.alike_noted record).trans alike
  obtain ⟨outcomes, after⟩ := works (left.noted record) right noted
  rw [Operation.run_supervise opening, run_surviving]
  exact ⟨outcomes.mapError Fault.survivor, ⟨after.source, after.calls⟩⟩

theorem AsksAtMost.supervise
    {number : Nat}
    {work : Play σ α}
    (asks : AsksAtMost number work)
    (operation : Operation) :
    AsksAtMost number (operation.supervise work) := by
  intro table
  cases opening : operation.opening with
  | error fault =>
      rw [Operation.run_supervise_of_not_opened opening]
      exact Nat.le_add_right _ _
  | ok record =>
      rw [Operation.run_supervise opening]
      exact asks _

end Play

namespace CommandLine

open Play

theorem SuppliedWritable.shown_datum
    {supplied : Supplied Int}
    (writable : SuppliedWritable supplied) :
    ∃ shown, (supplied.datum .integer).shown = .ok shown := by
  cases supplied with
  | blank => exact ⟨_, rfl⟩
  | value number =>
      have written : Numeral.write number = .ok (Numeral.text number) :=
        Numeral.write_eq_ok_iff.mpr ⟨writable number rfl, rfl⟩
      exact ⟨_, written⟩

/-- The values of a roll can be shown in the records if its numbers can be written. -/
theorem opening_rollOperation
    (text : String)
    {times : Supplied Int}
    {seed : Option (Supplied Int)}
    (timesWritable : SuppliedWritable times)
    (seedWritable : ∀ number ∈ seed, SuppliedWritable number)
    (json : Bool) :
    ∃ record, (rollOperation text times seed json).opening = .ok record := by
  obtain ⟨shownTimes, timesShown⟩ := timesWritable.shown_datum
  have seedShown : ∃ shown,
      ((seed.map (Supplied.datum .integer)).getD Datum.nothing).shown = .ok shown := by
    cases seed with
    | none => exact ⟨_, rfl⟩
    | some number => exact (seedWritable number rfl).shown_datum
  obtain ⟨shownSeed, seedShown⟩ := seedShown
  cases json
  all_goals
    simp only [Operation.opening, rollOperation, Datum.shownRow, Datum.shown,
      Datum.shownItems, Datum.shownEntries, timesShown, seedShown, Fault.ok_bind]
    exact ⟨_, rfl⟩

/-! ## Set-up and other commands -/

/-- What is set up does not depend on the command. -/
theorem Invocation.setup_congr
    (debug : Bool)
    (first second : Command)
    (settings : Settings)
    (environment : Option String) :
    Invocation.setup { debug, command := first } settings environment =
      Invocation.setup { debug, command := second } settings environment := by
  unfold setup level
  rfl

theorem quiet_describeText (text : String) (short : Bool) :
    Quiet (describeText text short : Play σ String) := by
  cases short with
  | false => exact composable_quiet.inPlay.describe (.written text)
  | true => exact composable_quiet.inPlay.describeShort (.written text)

theorem corresponds_describeText_of_refused
    {text : String}
    {fault : Fault}
    (refused : Notation.parse text = .error fault)
    (short : Bool) :
    Corresponds Eq (describeText text short : Play σ String)
      (Play.ofExcept (.error fault)) := by
  intro left right alike
  have unasked : (left.afterReading (.written text)).Alike right :=
    ⟨by simp [alike.source], by simp [alike.calls]⟩
  cases short
  all_goals
    simp only [describeText, describe, describeShort, if_true, if_false, Bool.false_eq_true]
    rw [run_bind, run_resolve, Order.denoted, refused]
    exact ⟨.error _, unasked⟩

section Rolling

variable [RandomSource σ]

theorem quiet_startService (host : Supplied String) (port : Supplied Int) :
    Quiet (startService host port : Play σ Service) := by
  apply composable_quiet.bind (composable_quiet.ofExcept (serviceRecord host port))
  intro record
  apply composable_quiet.bind (composable_quiet.note record)
  intro _
  exact fun _ => ⟨rfl, rfl⟩

/-! ## Admission -/

/-- The number of times that a pool may be rolled. -/
def allowedTimes (limits : Limits) (pool : Pool) (times : Supplied Int) : Except Fault Int := do
  limits.checkDice pool
  let times ← times.number
  limits.checkTimes times
  return times

omit [RandomSource σ] in
theorem allowedTimes_eq_ok
    {limits : Limits}
    {pool : Pool}
    {times : Supplied Int}
    {number : Int}
    (allowed : allowedTimes limits pool times = .ok number) :
    times = .value number ∧ limits.check pool number = .ok () := by
  obtain ⟨_, dice, rest⟩ := Fault.bind_eq_ok_iff.mp allowed
  obtain ⟨given, numbered, rest⟩ := Fault.bind_eq_ok_iff.mp rest
  obtain ⟨_, checked, result⟩ := Fault.bind_eq_ok_iff.mp rest
  obtain rfl := Except.ok.inj result
  cases times with
  | blank => cases numbered
  | value other =>
      obtain rfl := Except.ok.inj numbered
      exact ⟨rfl, Fault.bind_eq_ok_iff.mpr ⟨_, dice, checked⟩⟩

/-- The pool of a text and the number of times that it may be rolled, with a seed: the text
comes first, then the limits, and last the seed. -/
def admitted
    (σ : Type)
    [RandomSource σ]
    (limits : Limits)
    (text : String)
    (times : Supplied Int)
    (seed : Option (Supplied Int)) : Except Fault (Pool × Int) := do
  let pool ← Notation.parse text
  let number ← allowedTimes limits pool times
  RandomSource.acceptSeed σ seed
  return (pool, number)

variable {limits : Limits} {text : String}

theorem admitted_eq_ok
    {times : Supplied Int}
    {seed : Option (Supplied Int)}
    {pool : Pool}
    {number : Int}
    (admits : admitted σ limits text times seed = .ok (pool, number)) :
    Notation.parse text = .ok pool ∧ times = .value number ∧
      limits.check pool number = .ok () ∧ RandomSource.acceptSeed σ seed = .ok () := by
  obtain ⟨_, parsed, rest⟩ := Fault.bind_eq_ok_iff.mp admits
  obtain ⟨_, allowed, rest⟩ := Fault.bind_eq_ok_iff.mp rest
  obtain ⟨_, accepted, result⟩ := Fault.bind_eq_ok_iff.mp rest
  obtain ⟨rfl, rfl⟩ := Prod.mk.inj (Except.ok.inj result)
  obtain ⟨given, checked⟩ := allowedTimes_eq_ok allowed
  exact ⟨parsed, given, checked, accepted⟩

/-- A text that cannot be read, or has too many dice, is refused before anything else is
looked at. -/
theorem admitted_of_refused
    {fault : Fault}
    (refused : (Notation.parse text >>= limits.checkDice) = .error fault)
    (times : Supplied Int)
    (seed : Option (Supplied Int)) :
    admitted σ limits text times seed = .error fault := by
  unfold admitted allowedTimes
  cases parsed : Notation.parse text with
  | error other =>
      rw [parsed] at refused
      obtain rfl := Except.error.inj refused
      rfl
  | ok pool =>
      rw [parsed, Fault.ok_bind] at refused
      rw [Fault.ok_bind, refused]
      rfl

/-- What the limits refuse is refused before the seed is looked at. -/
theorem admitted_of_verdict_error
    {times : Int}
    {fault : Fault}
    (refused : limits.verdict (.written text) times = .error fault)
    (seed : Option (Supplied Int)) :
    admitted σ limits text (.value times) seed = .error fault := by
  unfold admitted allowedTimes
  cases parsed : Notation.parse text with
  | error other =>
      rw [Limits.verdict, Order.denoted, parsed] at refused
      obtain rfl := Except.error.inj refused
      rfl
  | ok pool =>
      rw [Limits.verdict, Order.denoted, parsed, Fault.ok_bind, Limits.check] at refused
      rw [Fault.ok_bind]
      cases dice : limits.checkDice pool with
      | error other =>
          rw [dice] at refused
          obtain rfl := Except.error.inj refused
          rfl
      | ok _ =>
          rw [dice, Fault.ok_bind] at refused
          simp only [Fault.ok_bind, Supplied.number, refused]
          rfl

/-- What the limits admit is refused for its seed alone. -/
theorem admitted_of_seed_error
    {times : Int}
    {seed : Option (Supplied Int)}
    {fault : Fault}
    (within : limits.verdict (.written text) times = .ok ())
    (refused : RandomSource.acceptSeed σ seed = .error fault) :
    admitted σ limits text (.value times) seed = .error fault := by
  obtain ⟨pool, parsed, checked⟩ := Fault.bind_eq_ok_iff.mp within
  obtain ⟨_, dice, allowed⟩ := Fault.bind_eq_ok_iff.mp checked
  have parsed : Notation.parse text = .ok pool := parsed
  unfold admitted allowedTimes
  simp only [parsed, dice, Supplied.number, allowed, Fault.ok_bind, refused]
  rfl

/-! ## Rolling -/

/-- A text is read and checked once, a generator is opened, and then the text is rolled
and the outcomes are written. -/
theorem rollText_value
    (limits : Limits)
    (text : String)
    (times : Int)
    (seed : Option (Supplied Int))
    (json : Bool) :
    (rollText limits text (.value times) seed json : Play σ String) =
      checkLimits limits (.written text) times >>= fun _ =>
        openGenerator seed >>= fun _ =>
          rollMany (.written text) times >>= fun outcomes =>
            Play.ofExcept (outcomesText json outcomes) := by
  simp [rollText, checkLimits, Limits.check, Supplied.number, resolve]

theorem corresponds_rollText
    {seed : Option (Supplied Int)}
    (accepted : RandomSource.acceptSeed σ seed = .ok ())
    (limits : Limits)
    (text : String)
    (times : Int)
    (json : Bool) :
    Corresponds Eq (rollText limits text (.value times) seed json : Play σ String)
      (rollWithin limits (.written text) times (outcomesText json)) := by
  rw [rollText_value]
  apply (composable_corresponds.inPlay.checkLimits limits (.written text) times).bind
  intro _ _ _
  apply Corresponds.after_openGenerator accepted
  apply (corresponds_rollMany (.written text) times).bind
  rintro outcomes _ rfl
  exact corresponds_ofExcept (.refl _)

theorem rollText_eq
    (limits : Limits)
    (text : String)
    (times : Supplied Int)
    (seed : Option (Supplied Int))
    (json : Bool) :
    (rollText limits text times seed json : Play σ String) =
      parse text >>= fun pool =>
        Play.ofExcept (allowedTimes limits pool times) >>= fun number =>
          openGenerator seed >>= fun _ =>
            rollMany (.written text) number >>= fun outcomes =>
              Play.ofExcept (outcomesText json outcomes) := by
  funext table
  change Play.run _ table = Play.run _ table
  simp only [allowedTimes, ofExcept_bind, bind_assoc]
  rfl

/-- What is not admitted leaves that the text was read, and no more; what is admitted is
rolled. -/
theorem run_rollText
    (limits : Limits)
    (text : String)
    (times : Supplied Int)
    (seed : Option (Supplied Int))
    (json : Bool)
    (table : Table σ) :
    (rollText limits text times seed json).run table =
      match admitted σ limits text times seed with
      | .ok (pool, number) =>
          Play.run
            (rollTimes pool text number.toNat [] >>= fun outcomes =>
              Play.ofExcept (outcomesText json outcomes))
            { table with generators := table.generators.push seed }
      | .error fault => (.error fault, table.afterReading (.written text)) := by
  unfold admitted
  rw [rollText_eq, run_bind, run_parse]
  cases parsed : Notation.parse text with
  | error fault => rfl
  | ok pool =>
      have denoted : (Order.written text).denoted = .ok pool := parsed
      rw [table.afterReading_of_denoted denoted, Fault.ok_bind]
      dsimp only
      rw [run_bind, run_ofExcept]
      cases allowed : allowedTimes limits pool times with
      | error fault => rfl
      | ok number =>
          have positive := (Limits.check_eq_ok_iff.mp (allowedTimes_eq_ok allowed).2).2.1
          dsimp only
          rw [run_bind, Fault.ok_bind]
          cases accepted : RandomSource.acceptSeed σ seed with
          | error fault =>
              rw [run_openGenerator_of_error accepted]
              rfl
          | ok _ =>
              rw [run_openGenerator accepted]
              dsimp only
              rw [rollMany_of_one_le _ positive, run_bind, run_reading_of_denoted denoted rfl,
                ← run_bind]
              rfl

/-- What is not admitted comes to its fault, and asks the source nothing. -/
theorem corresponds_rollText_of_not_admitted
    {times : Supplied Int}
    {seed : Option (Supplied Int)}
    {fault : Fault}
    (refused : admitted σ limits text times seed = .error fault)
    (json : Bool) :
    Corresponds Eq (rollText limits text times seed json : Play σ String)
      (Play.ofExcept (.error fault)) := by
  intro left right alike
  have unasked : (left.afterReading (.written text)).Alike right :=
    ⟨by simp [alike.source], by simp [alike.calls]⟩
  rw [run_rollText, refused]
  exact ⟨.error _, unasked⟩

/-! ## Commands that are carried out -/

/-- To carry out the command that rolls is to roll, and to print what came of it, with a
fault in words. -/
theorem corresponds_perform_roll
    {settings : Settings}
    {text : Option String}
    {times : Supplied Int}
    {seed : Option (Supplied Int)}
    {json : Bool}
    {other : Play σ String}
    (writable : (Command.roll text times seed json).Writable)
    (works : Corresponds Eq
      (rollText settings.limits (rolledText settings text) times seed json) other) :
    Corresponds (fun product printed => product = .text printed)
      ((Command.roll text times seed json).perform settings) other.surviving := by
  obtain ⟨record, opening⟩ :=
    opening_rollOperation (rolledText settings text) writable.1 writable.2 json
  exact (works.supervise opening).map Product.text

/-- To carry out the command that describes is to describe, and to print the words, with a
fault in words. -/
theorem corresponds_perform_describe
    {settings : Settings}
    {text : String}
    {short : Bool}
    {other : Play σ String}
    (works : Corresponds Eq (describeText text short) other) :
    Corresponds (fun product printed => product = .text printed)
      ((Command.describe text short).perform settings : Play σ Product) other.surviving := by
  obtain ⟨record, opening⟩ : ∃ record, (describeOperation text short).opening = .ok record := by
    cases short <;> exact ⟨_, rfl⟩
  exact (works.supervise opening).map Product.text

/-! ## Runs -/

/-- What the program reports is what came of the command. -/
theorem run_of_perform
    {settings : Settings}
    {environment : Option String}
    {arguments : List String}
    {invocation : Invocation}
    {level : Log.Level}
    {other : Play σ String}
    (read : Invocation.read settings arguments = .ok invocation)
    (logged : invocation.setup settings environment = .ok level)
    (performs : Corresponds (fun product printed => product = .text printed)
      (invocation.command.perform settings) other)
    (table : Table σ) :
    ∃ heard,
      (run settings environment arguments table).1 =
          Report.ofOutcome heard ((other.run table).1.map .text) ∧
        (run settings environment arguments table).2.Alike (other.run table).2 := by
  obtain ⟨outcomes, after⟩ := performs table table (.refl table)
  unfold run Invocation.perform
  simp only [read, logged]
  exact ⟨_, by rw [outcomes.eq_map], after⟩

/-- The program is told by its arguments to roll a text a number of times, and the log can
be set up. -/
inductive Asks
    (settings : Settings)
    (environment : Option String)
    (arguments : List String) :
    String → Int → Option (Supplied Int) → Bool → Prop
  | intro
      {invocation : Invocation} {level : Log.Level}
      {text : String} {times : Int} {seed : Option (Supplied Int)} {json : Bool} :
      Invocation.read settings arguments = .ok invocation →
        invocation.command = .roll (some text) (.value times) seed json →
          text ≠ "" →
            invocation.setup settings environment = .ok level →
              Asks settings environment arguments text times seed json

variable {settings : Settings} {environment : Option String} {arguments : List String}
  {times : Int} {seed : Option (Supplied Int)} {json : Bool}

theorem run_of_asks_of_corresponds
    {other : Play σ String}
    (asks : Asks settings environment arguments text times seed json)
    (works : Corresponds Eq
      (rollText settings.limits text (.value times) seed json) other)
    (table : Table σ) :
    ∃ heard,
      (run settings environment arguments table).1 =
          Report.ofOutcome heard
            (((other.run table).1.mapError Fault.survivor).map .text) ∧
        (run settings environment arguments table).2.Alike (other.run table).2 := by
  obtain @⟨invocation, level, _, _, _, _, read, commanded, nonempty, logged⟩ := asks
  have writable := Invocation.writable_of_read read
  have performs : Corresponds (fun product printed => product = .text printed)
      (invocation.command.perform settings : Play σ Product) other.surviving := by
    rw [commanded] at writable ⊢
    apply corresponds_perform_roll writable
    rw [rolledText, if_neg nonempty]
    exact works
  have ran := run_of_perform read logged performs table
  rwa [run_surviving] at ran

/-- What the program reports is what came of the roll, if the seed is accepted. -/
theorem run_of_asks
    (asks : Asks settings environment arguments text times seed json)
    (accepted : RandomSource.acceptSeed σ seed = .ok ())
    (table : Table σ) :
    let rolled :=
      (rollWithin settings.limits (.written text) times (outcomesText json)).run table
    ∃ heard,
      (run settings environment arguments table).1 =
          Report.ofOutcome heard ((rolled.1.mapError Fault.survivor).map .text) ∧
        (run settings environment arguments table).2.Alike rolled.2 :=
  run_of_asks_of_corresponds asks
    (corresponds_rollText accepted settings.limits text times json) table

/-- What is not admitted is reported as a fault, and the source is not asked. -/
theorem run_of_asks_of_not_admitted
    {fault : Fault}
    (asks : Asks settings environment arguments text times seed json)
    (refused : admitted σ settings.limits text (.value times) seed = .error fault)
    (table : Table σ) :
    ∃ heard,
      (run settings environment arguments table).1 =
          Report.ofOutcome heard (.error fault.survivor) ∧
        (run settings environment arguments table).2.Alike table :=
  run_of_asks_of_corresponds asks (corresponds_rollText_of_not_admitted refused json) table

/-! ## The number of requests -/

theorem asksAtMost_rollText
    (limits : Limits)
    (text : String)
    (times : Supplied Int)
    (seed : Option (Supplied Int))
    (json : Bool) :
    AsksAtMost (limits.dice.toNat * limits.times.toNat)
      (rollText limits text times seed json : Play σ String) := by
  cases admits : admitted σ limits text times seed with
  | error fault =>
      have quiet : Quiet (Play.ofExcept (.error fault) : Play σ String) :=
        composable_quiet.ofExcept (.error fault)
      exact (corresponds_rollText_of_not_admitted admits json).asksAtMost (quiet.asksAtMost _)
  | ok admission =>
      obtain ⟨-, rfl, -, accepted⟩ := admitted_eq_ok admits
      exact (corresponds_rollText accepted limits text admission.2 json).asksAtMost
        (asksAtMost_rollWithin limits (.written text) admission.2 (outcomesText json))

/-- Only the command that rolls makes requests, and no more than the limits allow. -/
theorem asksAtMost_perform (settings : Settings) (command : Command) :
    AsksAtMost (settings.limits.dice.toNat * settings.limits.times.toNat)
      (command.perform settings : Play σ Product) := by
  cases command with
  | roll text times seed json =>
      apply (asksAtMost_rollText settings.limits _ times seed json).supervise _ |>.bind_quiet
      intro printed
      exact composable_quiet.pure (Product.text printed)
  | describe text short =>
      apply ((quiet_describeText text short).asksAtMost _).supervise _ |>.bind_quiet
      intro written
      exact composable_quiet.pure (Product.text written)
  | serve host port =>
      apply Quiet.asksAtMost
      apply composable_quiet.bind (quiet_startService host port)
      intro service
      exact composable_quiet.pure (Product.service service)

theorem size_calls_run_le
    (settings : Settings)
    (environment : Option String)
    (arguments : List String)
    (table : Table σ) :
    (run settings environment arguments table).2.calls.size ≤
      table.calls.size + settings.maxDice.1 * settings.maxTimes.1 := by
  unfold run
  split
  · exact Nat.le_add_right _ _
  · exact Nat.le_add_right _ _
  · rename_i invocation _
    unfold Invocation.perform
    split
    · exact Nat.le_add_right _ _
    · exact asksAtMost_perform settings invocation.command table

end Rolling

end CommandLine
end Tabletop
