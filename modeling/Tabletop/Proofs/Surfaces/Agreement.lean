import Tabletop.Proofs.CommandLine.Plain
import Tabletop.Proofs.CommandLine.Rolling
import Tabletop.Proofs.Web.Queries

/-!
# The surfaces agree

The command that rolls with JSON and the endpoint that rolls a notation do the same: they
ask the source for the same numbers, and the report of the one says what the answer of the
other says.
-/

namespace Tabletop

open CommandLine Play

namespace Surfaces

open Web

/-- The report of the program and the answer of the service say the same. -/
structure Agrees (report : Report) (response : Response) : Prop where
  /-- Success on the one side is success on the other. -/
  success : report.ending = .exit 0 ↔ response.status = 200
  /-- What is printed is the body. -/
  printed :
    response.status = 200 →
      ∃ body, response.body = .json body ∧ report.output = body.render ++ "\n"
  /-- A refusal on the one side is a refusal on the other. -/
  refusal : report.ending = .exit 2 ↔ response.status = 400 ∨ response.status = 422
  /-- The refusals are in the same words. -/
  worded :
    report.ending = .exit 2 →
      ∃ body message,
        response.body = .json body ∧
          body.get? "message" = some (.text message) ∧
            report.errors = "error: " ++ message ++ "\n"
  /-- A fault that escapes is an error of the service. -/
  escape : (∃ fault, report.ending = .escape fault) ↔ response.status = 500

/-- Success of the program is an answer of the service. -/
theorem Agrees.answered_of_exit
    {report : Report}
    {answer : Except Fault Response}
    (agrees : Agrees report (.received answer))
    (ended : report.ending = .exit 0) :
    ∃ response, answer = .ok response ∧ Agrees report response ∧ response.status = 200 := by
  have status := agrees.success.mp ended
  cases answer with
  | ok response => exact ⟨response, rfl, agrees, status⟩
  | error fault => cases status

/-- A text is what is printed where a response answers with success. -/
def Shows (printed : String) (response : Response) : Prop :=
  ∃ body, response = { status := 200, body := .json body } ∧ printed = body.render

/-- What is printed about outcomes is the body of the answer to them. -/
theorem liftRel_outcomesText (outcomes : List Outcome) :
    Fault.LiftRel Shows (outcomesText true outcomes) (App.rolledBody outcomes) := by
  unfold outcomesText App.rolledBody
  apply (Fault.LiftRel.refl (Outcome.jsonOfAll outcomes)).bind
  rintro body _ rfl
  exact .ok ⟨body, rfl, rfl⟩

theorem agrees_of_escape
    {report : Report}
    {response : Response}
    {fault : Fault}
    (escaped : report.ending = .escape fault)
    (failed : response.status = 500) :
    Agrees report response := by
  constructor <;> simp [escaped, failed]

/-- The same outcome on both sides is reported and answered alike, also where what is sent is
not the answer of the service. -/
theorem agrees_of_liftRel
    {rolled : Except Fault String}
    {answered : Except Fault Response}
    (same : Fault.LiftRel Shows rolled answered)
    (heard : List Log.Record)
    (app : App) :
    Agrees (Report.ofOutcome heard ((rolled.mapError Fault.survivor).map .text))
      (.received (app.concluded answered)) := by
  cases same with
  | ok both =>
      obtain ⟨body, rfl, rfl⟩ := both
      change Agrees (Report.ofOutcome heard (.ok (.text body.render))) (.received (.ok _))
      constructor <;> simp [Response.received, Report.ofOutcome]
  | error fault =>
      change Agrees (Report.ofOutcome heard (.error fault.survivor))
        (.received (app.faultAnswer fault))
      by_cases dice : fault.isDice = true
      · obtain ⟨detail, failure⟩ := App.faultAnswer_of_isDice dice app
        have status := App.faultStatus_eq_or_of_isDice dice
        rw [failure, Fault.survivor_of_isDice dice, Report.ofOutcome, if_pos dice,
          Response.received]
        constructor
        case worded =>
          intro _
          exact ⟨_, fault.wording, rfl, rfl, rfl⟩
        all_goals
          rcases status with status | status <;>
            simp [Response.failed, Response.failedWith, status]
      · have foreign : ¬ fault.survivor.isDice = true := by
          rwa [Fault.isDice_survivor]
        rw [Report.ofOutcome, if_neg foreign, App.faultAnswer_of_not_isDice dice]
        cases answers : Handler.internalError app.debug fault with
        | error other => exact agrees_of_escape rfl rfl
        | ok response =>
            obtain rfl := Handler.internalError_eq_ok answers
            exact agrees_of_escape rfl rfl

/-- Rolling a notation on the command line and at the endpoint come to the same, with the same
requests of the source.  The client receives the answer of the service, but for a fault that
escapes from it, which it does only while the service is being debugged. -/
theorem rollArguments_agrees
    [RandomSource σ]
    {settings : Settings}
    {environment : Option String}
    {level : Log.Level}
    {text : String}
    {times : Nat}
    (nonempty : text ≠ "")
    (isNotation : IsNotation text)
    (positive : 1 ≤ times)
    (writable : Numeral.Writable times)
    (logged :
      Invocation.setup
          { debug := false, command := .roll (some text) (.value times) none true }
          settings environment = .ok level)
    (now time : Int)
    (table : Table σ) :
    let app := App.create settings now
    let request := App.rollQuery text (Numeral.text times) time
    let answering := (app.respond request).run table
    let running := run settings environment (rollArguments text times) table
    Agrees running.1 (.received answering.1) ∧
      running.2.calls = answering.2.calls ∧ running.2.source = answering.2.source ∧
        ((∃ fault, answering.1 = .error fault) ↔ app.Escapes request table) := by
  intro app request answering running
  have asksService := App.asks_rollQuery (App.ready_create settings now) positive writable
    text time
  have asksProgram : CommandLine.Asks settings environment (rollArguments text times) text times
      none true :=
    .intro (read_rollArguments settings isNotation positive writable) rfl nonempty logged
  obtain ⟨answered, answeredAlike⟩ := App.run_respond_of_asks asksService table
  obtain ⟨heard, reported, reportedAlike⟩ := run_of_asks asksProgram rfl table
  have rolls : Corresponds _
      (rollWithin settings.limits (.written text) times (outcomesText true) : Play σ String)
      (rollWithin settings.limits (.written text) times App.rolledBody) :=
    corresponds_rollWithin liftRel_outcomesText
  obtain ⟨outcomes, alike⟩ := rolls table table (.refl table)
  have together := reportedAlike.trans (alike.trans answeredAlike.symm)
  refine ⟨?_, together.calls, together.source, app.respond_eq_error_iff request table⟩
  rw [reported, show answering.1 = _ from answered]
  exact agrees_of_liftRel outcomes heard app

/-- Two rolls of two dice succeed on both sides. -/
theorem rollArguments_agrees_twoDice :
    let table := Table.opening (ScriptedSource.script [3, 5, 2, 6])
    let running := run Settings.standard none (rollArguments "2d6" 2) table
    let request := App.rollQuery "2d6" (Numeral.text 2) 0
    running.1.ending = .exit 0 ∧
      ∃ response,
        (((App.create Settings.standard 0).respond request).run table).1 = .ok response ∧
          Agrees running.1 response ∧ response.status = 200 := by
  intro table running request
  have ended : running.1.ending = .exit 0 := by decide +kernel
  have isNotation : IsNotation "2d6" := isNotation_of_not_dash (by decide)
  have writable : Numeral.Writable (2 : Nat) := by decide +kernel
  have logged :
      Invocation.setup { debug := false, command := .roll (some "2d6") (.value 2) none true }
        Settings.standard none = .ok .info := by
    decide +kernel
  obtain ⟨agrees, -⟩ :=
    rollArguments_agrees (by decide) isNotation (by decide) writable logged 0 0 table
  exact ⟨ended, agrees.answered_of_exit ended⟩

end Surfaces
end Tabletop
