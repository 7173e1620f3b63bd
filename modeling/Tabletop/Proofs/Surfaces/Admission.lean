import Tabletop.Proofs.Surfaces.Agreement

/-!
# Admission on the surfaces

The command that rolls and the endpoints that roll refuse for the same reasons, in the same
order of precedence, and without the source.  What they do not refuse they roll, and no run
makes more requests than the limits allow.
-/

namespace Tabletop

open CommandLine Play Web

namespace Limits

theorem nonnegative_limits (settings : Settings) : settings.limits.Nonnegative :=
  ⟨Int.natCast_nonneg _, Int.natCast_nonneg _⟩

/-- A refusal is a fault of the caller's dice, answered with its status. -/
theorem Refuses.faultStatus
    {limits : Limits}
    {text : String}
    {times : Int}
    {status : Nat}
    {fault : Fault}
    (refuses : limits.Refuses text times status fault) :
    fault.isDice = true ∧ App.faultStatus fault = status := by
  cases refuses with
  | ungrammatical _ => exact ⟨rfl, rfl⟩
  | exceeding _ _ exceeds => cases exceeds <;> exact ⟨rfl, rfl⟩

end Limits

namespace Surfaces

/-! ## Refusals -/

/-- The program refuses in the words of a fault, and asks the source nothing. -/
structure ProgramRefuses
    (fault : Fault)
    (before : Table σ)
    (running : Report × Table σ) : Prop where
  ending : running.1.ending = .exit 2
  output : running.1.output = ""
  errors : running.1.errors = "error: " ++ fault.wording ++ "\n"
  alike : running.2.Alike before

/-- A fault escapes from the program, which prints nothing and asks the source nothing. -/
structure ProgramEscapes
    (fault : Fault)
    (before : Table σ)
    (running : Report × Table σ) : Prop where
  ending : running.1.ending = .escape fault
  output : running.1.output = ""
  errors : running.1.errors = ""
  alike : running.2.Alike before

/-- The service refuses with a status in the words of a fault, and asks the source
nothing. -/
structure ServiceRefuses
    (status : Nat)
    (fault : Fault)
    (before : Table σ)
    (answering : Except Fault Response × Table σ) : Prop where
  answer : ∃ detail, answering.1 = .ok (.failed status fault.wording detail)
  alike : answering.2.Alike before

/-! ## Rolls -/

/-- The program asks the source, and if it succeeds it has rolled everything and prints
it. -/
structure ProgramRolls
    [RandomSource σ]
    (pool : Pool)
    (text : String)
    (times : Int)
    (json : Bool)
    (before : Table σ)
    (running : Report × Table σ) : Prop where
  starts : before.calls.size < running.2.calls.size
  completes :
    running.1.ending = .exit 0 →
      ∃ outcomes printed,
        outcomesText json outcomes = .ok printed ∧
          running.1.output = printed ++ "\n" ∧
            Completes pool text times before running.2 outcomes

/-- The service asks the source, and if it succeeds it has rolled everything and answers
with it. -/
structure ServiceRolls
    [RandomSource σ]
    (pool : Pool)
    (text : String)
    (times : Int)
    (before : Table σ)
    (answering : Except Fault Response × Table σ) : Prop where
  starts : before.calls.size < answering.2.calls.size
  completes :
    ∀ response, answering.1 = .ok response → response.status = 200 →
      ∃ outcomes body,
        Outcome.jsonOfAll outcomes = .ok body ∧ response.body = .json body ∧
          Completes pool text times before answering.2 outcomes

section Surfaces

variable [RandomSource σ] {settings : Settings} {text : String} {times : Int}

theorem programRefuses_of_asks
    {environment : Option String}
    {arguments : List String}
    {seed : Option (Supplied Int)}
    {json : Bool}
    {fault : Fault}
    (refused : settings.limits.verdict (.written text) times = .error fault)
    (dice : fault.isDice = true)
    (asks : CommandLine.Asks settings environment arguments text times seed json)
    (table : Table σ) :
    ProgramRefuses fault table (run settings environment arguments table) := by
  have notAdmitted := admitted_of_verdict_error (σ := σ) refused seed
  obtain ⟨heard, reported, alike⟩ := run_of_asks_of_not_admitted asks notAdmitted table
  rw [Fault.survivor_of_isDice dice, Report.ofOutcome, if_pos dice] at reported
  exact {
    ending := by rw [reported]
    output := by rw [reported]
    errors := by rw [reported]
    alike := alike }

/-- What the limits admit is not rolled with a seed that is not accepted: that fault escapes. -/
theorem programEscapes_of_asks
    {environment : Option String}
    {arguments : List String}
    {seed : Option (Supplied Int)}
    {json : Bool}
    {fault : Fault}
    (within : settings.limits.verdict (.written text) times = .ok ())
    (refused : RandomSource.acceptSeed σ seed = .error fault)
    (asks : CommandLine.Asks settings environment arguments text times seed json)
    (table : Table σ) :
    ProgramEscapes fault table (run settings environment arguments table) := by
  obtain ⟨rfl, -, rfl⟩ := RandomSource.acceptSeed_eq_error_iff.mp refused
  have notAdmitted := admitted_of_seed_error within refused
  obtain ⟨heard, reported, alike⟩ := run_of_asks_of_not_admitted asks notAdmitted table
  exact {
    ending := by rw [reported]; rfl
    output := by rw [reported]; rfl
    errors := by rw [reported]; rfl
    alike := alike }

theorem serviceRefuses_of_asks
    {app : App}
    {request : Request}
    {fault : Fault}
    (refused : settings.limits.verdict (.written text) times = .error fault)
    (dice : fault.isDice = true)
    (asks : App.Asks app request settings (.written text) times)
    (table : Table σ) :
    ServiceRefuses (App.faultStatus fault) fault table ((app.respond request).run table) := by
  obtain ⟨answered, alike⟩ := App.run_respond_of_asks asks table
  rw [run_rollWithin_of_refused refused] at answered alike
  obtain ⟨detail, failure⟩ := App.faultAnswer_of_isDice dice app
  have unasked : (table.afterReading (.written text)).Alike table := ⟨by simp, by simp⟩
  exact {
    answer := ⟨detail, by rw [answered, App.concluded, failure]⟩
    alike := alike.trans unasked }

/-- A program that succeeds was told to roll a text that can be read; it has rolled
everything, and prints it. -/
theorem completes_of_asks
    {environment : Option String}
    {arguments : List String}
    {seed : Option (Supplied Int)}
    {json : Bool}
    {table : Table σ}
    (asks : CommandLine.Asks settings environment arguments text times seed json)
    (accepted : RandomSource.acceptSeed σ seed = .ok ())
    (succeeded : (run settings environment arguments table).1.ending = .exit 0) :
    ∃ pool outcomes printed,
      Notation.parse text = .ok pool ∧ outcomesText json outcomes = .ok printed ∧
        (run settings environment arguments table).1.output = printed ++ "\n" ∧
          Completes pool text times table (run settings environment arguments table).2
            outcomes := by
  obtain ⟨heard, reported, alike⟩ := run_of_asks asks accepted table
  rcases ran : (rollWithin settings.limits (.written text) times (outcomesText json)).run table
    with ⟨fault | printed, after⟩
  · rw [reported, ran] at succeeded
    change (Report.ofOutcome heard (.error fault.survivor)).ending = .exit 0 at succeeded
    rw [Report.ofOutcome] at succeeded
    split at succeeded <;> cases succeeded
  · obtain ⟨pool, _, outcomes, denoted, sourced, finished, completes⟩ := completes_of_rollWithin ran
    obtain rfl := Except.ok.inj sourced
    rw [ran] at reported alike
    refine ⟨pool, outcomes, printed, denoted, finished, ?_, completes.of_alike alike⟩
    rw [reported]
    rfl

theorem programRolls_of_asks
    {environment : Option String}
    {arguments : List String}
    {seed : Option (Supplied Int)}
    {json : Bool}
    {pool : Pool}
    (admitted : settings.limits.verdict (.written text) times = .ok ())
    (parsed : Notation.parse text = .ok pool)
    (asks : CommandLine.Asks settings environment arguments text times seed json)
    (accepted : RandomSource.acceptSeed σ seed = .ok ())
    (table : Table σ) :
    ProgramRolls pool text times json table (run settings environment arguments table) := by
  obtain ⟨heard, reported, alike⟩ := run_of_asks asks accepted table
  have draws := draws_rollWithin admitted rfl (outcomesText json) table
  refine { starts := by rw [alike.calls]; exact draws, completes := ?_ }
  intro succeeded
  obtain ⟨other, outcomes, printed, denoted, finished, output, completes⟩ :=
    completes_of_asks asks accepted succeeded
  obtain rfl := Except.ok.inj (denoted.symm.trans parsed)
  exact ⟨outcomes, printed, finished, output, completes⟩

theorem serviceRolls_of_asks
    {app : App}
    {request : Request}
    {pool : Pool}
    (admitted : settings.limits.verdict (.written text) times = .ok ())
    (parsed : Notation.parse text = .ok pool)
    (asks : App.Asks app request settings (.written text) times)
    (table : Table σ) :
    ServiceRolls pool text times table ((app.respond request).run table) := by
  obtain ⟨answered, alike⟩ := App.run_respond_of_asks asks table
  have draws := draws_rollWithin admitted rfl App.rolledBody table
  refine { starts := by rw [alike.calls]; exact draws, completes := ?_ }
  intro response given succeeded
  rw [given] at answered
  rcases ran : (rollWithin settings.limits (.written text) times App.rolledBody).run table
    with ⟨fault | rolled, after⟩
  · rw [ran] at answered
    exact absurd succeeded (App.status_ne_of_concluded_error answered.symm)
  · obtain ⟨_, _, outcomes, denoted, sourced, finished, completes⟩ := completes_of_rollWithin ran
    obtain rfl := Except.ok.inj (denoted.symm.trans parsed)
    obtain rfl := Except.ok.inj sourced
    obtain ⟨body, made, result⟩ := Fault.bind_eq_ok_iff.mp finished
    obtain rfl := Except.ok.inj result
    rw [ran] at answered alike
    obtain rfl := Except.ok.inj answered
    exact ⟨outcomes, body, made, rfl, completes.of_alike alike⟩

/-- Where a text has numerals that can be converted and the number of times can be written,
both surfaces refuse for the first reason that the limits have, and otherwise roll, except
that the program fails with a seed that is not accepted; and whatever they are asked, they
make no more requests than the limits allow. -/
theorem refused_or_rolled
    (settings : Settings)
    {text : String}
    {times : Int}
    (convertible : ∀ parts : Notation, parts.Divides text → parts.Convertible)
    (writable : Numeral.Writable times)
    (table : Table σ) :
    (∀ status fault, settings.limits.Refuses text times status fault →
      (∀ environment arguments seed json,
        CommandLine.Asks settings environment arguments text times seed json →
          ProgramRefuses fault table (run settings environment arguments table)) ∧
      (∀ app request, App.Asks app request settings (.written text) times →
        ServiceRefuses status fault table ((app.respond request).run table))) ∧
    ((∀ status fault, ¬ settings.limits.Refuses text times status fault) →
      ∃ (parts : Notation) (pool : Pool),
        parts.Divides text ∧ parts.Denotes pool ∧
          pool.count * times ≤ settings.maxDice.1 * settings.maxTimes.1 ∧
            (∀ environment arguments seed json,
              CommandLine.Asks settings environment arguments text times seed json →
                (RandomSource.acceptSeed σ seed = .ok () →
                  ProgramRolls pool text times json table
                    (run settings environment arguments table)) ∧
                (∀ fault, RandomSource.acceptSeed σ seed = .error fault →
                  ProgramEscapes fault table (run settings environment arguments table))) ∧
            (∀ app request, App.Asks app request settings (.written text) times →
              ServiceRolls pool text times table ((app.respond request).run table))) ∧
    (∀ environment arguments,
      (run settings environment arguments table).2.calls.size ≤
        table.calls.size + settings.maxDice.1 * settings.maxTimes.1) ∧
    (∀ (app : App) (request : Request), app.settings = some settings →
      ((app.respond request).run table).2.calls.size ≤
        table.calls.size + settings.maxDice.1 * settings.maxTimes.1) := by
  have refusal {fault : Fault} : settings.limits.verdict (.written text) times = .error fault ↔
      ∃ status, settings.limits.Refuses text times status fault :=
    Limits.verdict_eq_error_iff (Limits.nonnegative_limits settings) convertible writable
  refine ⟨?refused, ?rolled, ?program, ?service⟩
  case refused =>
    intro status fault refuses
    have refused := refusal.mpr ⟨status, refuses⟩
    obtain ⟨dice, rfl⟩ := refuses.faultStatus
    exact ⟨fun _ _ _ _ asks => programRefuses_of_asks refused dice asks table,
      fun _ _ asks => serviceRefuses_of_asks refused dice asks table⟩
  case rolled =>
    intro nothing
    cases admitted : settings.limits.verdict (.written text) times with
    | error fault =>
        obtain ⟨status, refuses⟩ := refusal.mp admitted
        exact absurd refuses (nothing status fault)
    | ok _ =>
        obtain ⟨pool, parsed, checked⟩ := Fault.bind_eq_ok_iff.mp admitted
        obtain ⟨parts, divides, -, denotes⟩ := Notation.parse_eq_ok_iff.mp parsed
        refine ⟨parts, pool, divides, denotes, Limits.count_mul_le_of_check checked, ?_, ?_⟩
        · intro _ _ _ _ asks
          exact ⟨fun accepted => programRolls_of_asks admitted parsed asks accepted table,
            fun _ refused => programEscapes_of_asks admitted refused asks table⟩
        · intro _ _ asks
          exact serviceRolls_of_asks admitted parsed asks table
  case program =>
    intro environment arguments
    exact size_calls_run_le settings environment arguments table
  case service =>
    intro app request inForce
    exact App.size_calls_respond_le inForce request table

end Surfaces

/-! ## Fixed arguments -/

/-- The log can be set up where the settings are the standard ones. -/
theorem setup_standard (command : Command) :
    Invocation.setup { debug := false, command } .standard none = .ok .info := by
  rw [Invocation.setup_congr false command (.describe "" false)]
  decide +kernel

/-- Arguments that roll a notation are understood where the settings are the standard
ones. -/
theorem asks_rollArguments
    {text : String}
    {times : Nat}
    (nonempty : text ≠ "")
    (plain : text.toList.head? ≠ some '-')
    (positive : 1 ≤ times)
    (writable : Numeral.Writable times) :
    CommandLine.Asks .standard none (rollArguments text times) text times none true :=
  .intro (read_rollArguments .standard (isNotation_of_not_dash plain) positive writable)
    rfl nonempty (setup_standard _)

/-- Two dice with six sides. -/
def twoDice : Pool :=
  .ofChecked ⟨2, by decide⟩ ⟨6, Pool.fourDice.two_le_sides⟩ none

/-- Dice in words are refused on both sides, and two dice are rolled twice. -/
theorem refused_or_rolled_twoDice :
    let table := Table.opening (ScriptedSource.script [3, 5, 2, 6])
    let app := App.create .standard 0
    ProgramRefuses (.badNotation "four dice") table
        (run .standard none (rollArguments "four dice" 2) table) ∧
      ServiceRefuses 400 (.badNotation "four dice") table
        ((app.respond (App.rollQuery "four dice" (Numeral.text 2) 0)).run table) ∧
      ∃ pool,
        ProgramRolls pool "2d6" 2 true table
            (run .standard none (rollArguments "2d6" 2) table) ∧
          ServiceRolls pool "2d6" 2 table
            ((app.respond (App.rollQuery "2d6" (Numeral.text 2) 0)).run table) := by
  intro table app
  have writable : Numeral.Writable (2 : Nat) := by decide +kernel
  have ready := App.ready_create .standard 0
  have outside : ∀ parts : Notation, ¬ parts.Divides "four dice" :=
    Notation.not_divides_of_not_isValid (by decide +kernel)
  have refused := (refused_or_rolled .standard
    (fun parts divides => absurd divides (outside parts)) writable table).1 400 _
      (.ungrammatical outside)
  have parsed : Notation.parse "2d6" = .ok twoDice := by decide +kernel
  have rolled := (refused_or_rolled .standard (Notation.convertible_of_parse parsed)
    writable table).2.1
  have admitted : ∀ status fault, ¬ Settings.standard.limits.Refuses "2d6" 2 status fault := by
    intro status fault refuses
    have verdict := (Limits.verdict_eq_error_iff (Limits.nonnegative_limits .standard)
      (Notation.convertible_of_parse parsed) writable).mpr ⟨status, refuses⟩
    rw [Limits.verdict, Order.denoted, parsed] at verdict
    cases verdict
  obtain ⟨parts, pool, _, _, _, program, service⟩ := rolled admitted
  refine ⟨?_, ?_, pool, ?_, ?_⟩
  · exact refused.1 _ _ _ _ (asks_rollArguments (by decide) (by decide) (by decide) writable)
  · exact refused.2 _ _ (App.asks_rollQuery ready (by decide) writable "four dice" 0)
  · exact (program _ _ _ _
      (asks_rollArguments (by decide) (by decide) (by decide) writable)).1 rfl
  · exact service _ _ (App.asks_rollQuery ready (by decide) writable "2d6" 0)

/-- A number of times beyond the digit limit is looked at before a text that is not in the
grammar; and a seed that was left blank is not accepted after everything else was. -/
theorem refused_or_rolled_not_writable :
    let request := App.rollQuery "four dice" (Numeral.text (10 ^ Numeral.digitLimit : Nat)) 0
    let table := Table.opening (ScriptedSource.script [])
    let failing := Table.opening (FailingSource.mk .longNumber)
    let running := run .standard none ["roll", "1d6", "--seed=--"] failing
    ((∀ parts : Notation, ¬ parts.Divides "four dice") ∧
      1 ≤ 10 ^ Numeral.digitLimit ∧
        ∃ response,
          (((App.create .standard 0).respond request).run table).1 = .ok response ∧
            response.status ≠ 400) ∧
    (Settings.standard.limits.verdict (.written "1d6") 1 = .ok () ∧
      running.1.ending = .escape .blankSeed ∧ running.2.calls.size = 0) := by
  intro request table failing running
  have long : ¬ Numeral.Writable (10 ^ Numeral.digitLimit : Nat) := by
    rw [Numeral.writable_natCast_iff, Nat.not_le]
    exact Numeral.lt_length_digits_pow Numeral.digitLimit (by decide)
  have positive : 1 ≤ 10 ^ Numeral.digitLimit := Nat.pow_pos (by decide)
  refine ⟨⟨Notation.not_divides_of_not_isValid (by decide +kernel), positive, ?_⟩, ?_⟩
  · exact App.respond_rollQuery_of_not_writable (App.ready_create .standard 0) positive long
      "four dice" 0 table
  · decide +kernel

end Surfaces
end Tabletop
