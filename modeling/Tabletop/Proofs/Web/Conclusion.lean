import Tabletop.Proofs.Limits
import Tabletop.Proofs.Web.Admission
import Tabletop.Proofs.Web.Sending

/-!
# Conclusions of answers

The answer to a request depends on how its dispatch ended, and only the dispatch asks the
source.  Every request is answered, unless the service is being debugged and its dispatch
ended with a fault that there are no words for, or whose words cannot be sent: then a fault
escapes.
-/

namespace Tabletop
namespace Web
namespace App

open Play

/-! ## Faults -/

/-- The status that a fault is answered with. -/
def faultStatus : Fault → Nat
  | .badNotation _ => 400
  | fault => if fault.isDice then 422 else 500

theorem faultStatus_of_isDice
    {fault : Fault}
    (dice : fault.isDice = true)
    (other : ∀ text, fault ≠ .badNotation text) :
    faultStatus fault = 422 := by
  cases fault <;> simp_all [faultStatus]

theorem faultStatus_eq_or_of_isDice
    {fault : Fault}
    (dice : fault.isDice = true) :
    faultStatus fault = 400 ∨ faultStatus fault = 422 := by
  by_cases syntactic : ∃ text, fault = .badNotation text
  · obtain ⟨text, rfl⟩ := syntactic
    exact .inl rfl
  · exact .inr (faultStatus_of_isDice dice (not_exists.mp syntactic))

theorem faultStatus_of_not_isDice
    {fault : Fault}
    (foreign : ¬ fault.isDice = true) :
    faultStatus fault = 500 := by
  cases fault <;> simp_all [faultStatus, Fault.isDice]

/-- What a fault is answered with, if it is. -/
def faultAnswer (app : App) : Fault → Except Fault Response
  | .badNotation text => .ok (.failed 400 (Fault.badNotation text).wording (some text))
  | fault =>
      if fault.isDice then .ok (.failed 422 fault.wording none)
      else Handler.internalError app.debug fault

/-- A fault of the caller's dice is answered in its own words. -/
theorem faultAnswer_of_isDice
    {fault : Fault}
    (dice : fault.isDice = true)
    (app : App) :
    ∃ detail, app.faultAnswer fault = .ok (.failed (faultStatus fault) fault.wording detail) := by
  unfold faultAnswer
  split
  · rename_i text
    exact ⟨some text, rfl⟩
  · rename_i other
    rw [if_pos dice, faultStatus_of_isDice dice other]
    exact ⟨none, rfl⟩

/-- Any other fault is answered in the same words always. -/
theorem faultAnswer_of_not_isDice
    {fault : Fault}
    (foreign : ¬ fault.isDice = true)
    (app : App) :
    app.faultAnswer fault = Handler.internalError app.debug fault := by
  unfold faultAnswer
  split
  · simp [Fault.isDice] at foreign
  · rw [if_neg foreign]

/-- A fault is answered with its status, or not at all. -/
theorem status_faultAnswer
    {app : App}
    {fault : Fault}
    {response : Response}
    (answered : app.faultAnswer fault = .ok response) :
    response.status = faultStatus fault := by
  by_cases dice : fault.isDice = true
  · obtain ⟨detail, failed⟩ := faultAnswer_of_isDice dice app
    obtain rfl := Except.ok.inj (failed.symm.trans answered)
    rfl
  · rw [faultAnswer_of_not_isDice dice] at answered
    rw [Handler.internalError_eq_ok answered, faultStatus_of_not_isDice dice]
    rfl

/-- Only a service that is being debugged can fail to answer a fault, and only one that has
no words that can be sent. -/
theorem faultAnswer_eq_error_iff {app : App} {fault : Fault} :
    (∃ other, app.faultAnswer fault = .error other) ↔
      app.debug = true ∧ ¬ fault.isDice = true ∧ fault.said? = none := by
  by_cases dice : fault.isDice = true
  · obtain ⟨detail, answered⟩ := faultAnswer_of_isDice dice app
    simp [answered, dice]
  · rw [faultAnswer_of_not_isDice dice]
    simp [Handler.internalError_eq_error_iff, dice]

/-! ## Answers -/

/-- The outcome of a request whose dispatch ended in the given way. -/
def concluded (app : App) : Except Fault Response → Except Fault Response
  | .ok response => .ok response
  | .error fault => app.faultAnswer fault

/-- No fault is answered with success. -/
theorem status_ne_of_concluded_error
    {app : App}
    {fault : Fault}
    {response : Response}
    (answered : app.concluded (.error fault) = .ok response) :
    response.status ≠ 200 := by
  rw [status_faultAnswer answered]
  by_cases dice : fault.isDice = true
  · rcases faultStatus_eq_or_of_isDice dice with status | status <;> rw [status] <;> decide
  · rw [faultStatus_of_not_isDice dice]
    decide

/-! ## Records -/

/-- What is written about a fault. -/
def remark (request : Request) : Fault → Log.Record
  | .badNotation text => request.misreading text
  | fault => if fault.isDice then request.rejection fault else request.alarm

/-- What is written about the way in which a dispatch ended. -/
def remarks (request : Request) : Except Fault Response → List Log.Record
  | .ok _ => []
  | .error fault => [remark request fault]

/-- What is written about the outcome of a request: an answer, if there is one. -/
def closings (request : Request) : Except Fault Response → List Log.Record
  | .ok response => [request.closingRecord response]
  | .error _ => []

theorem remark_of_not_isDice
    {fault : Fault}
    (foreign : ¬ fault.isDice = true)
    (request : Request) :
    remark request fault = request.alarm := by
  unfold remark
  split
  · simp [Fault.isDice] at foreign
  · rw [if_neg foreign]

/-! ## Runs -/

/-- A fault of the caller's dice is answered by the layer that is there for it. -/
theorem run_answerDice_of_isDice
    {fault : Fault}
    (dice : fault.isDice = true)
    (app : App)
    (request : Request)
    (table : Table σ) :
    ∃ response,
      app.faultAnswer fault = .ok response ∧
        (Handler.answerDice request (.error fault)).run table =
          (.ok response, table.noted (remark request fault)) := by
  cases fault with
  | badNotation text => exact ⟨_, rfl, rfl⟩
  | wrongKind field shown => exact ⟨_, rfl, rfl⟩
  | tooSmall field minimum value => exact ⟨_, rfl, rfl⟩
  | tooManyDice count maximum => exact ⟨_, rfl, rfl⟩
  | tooFewRolls times => exact ⟨_, rfl, rfl⟩
  | tooManyRolls times maximum => exact ⟨_, rfl, rfl⟩
  | _ => cases dice

/-- Any other fault passes through that layer. -/
theorem run_answerDice_of_not_isDice
    {fault : Fault}
    (foreign : ¬ fault.isDice = true)
    (request : Request)
    (table : Table σ) :
    (Handler.answerDice request (.error fault)).run table = (.error fault, table) := by
  have none : (Handler.ofFault? fault : Option (Handler σ)) = none := by
    unfold Handler.ofFault?
    split
    · exact absurd rfl foreign
    · exact if_neg foreign
  unfold Handler.answerDice
  dsimp only
  rw [none]
  rfl

/-- What the two layers that answer faults make of an outcome. -/
theorem run_answerFault_answerDice
    (app : App)
    (request : Request)
    (ended : Except Fault Response)
    (table : Table σ) :
    let answered := (Handler.answerDice request ended).run table
    (Handler.answerFault app.debug request answered.1).run answered.2 =
      (app.concluded ended, table.notedAll (remarks request ended)) := by
  intro answered
  cases ended with
  | ok response => rfl
  | error fault =>
      by_cases dice : fault.isDice = true
      · obtain ⟨response, concluding, ran⟩ := run_answerDice_of_isDice dice app request table
        rw [show answered = _ from ran, concluded, concluding]
        rfl
      · have ran := run_answerDice_of_not_isDice dice request table
        rw [show answered = _ from ran, concluded, faultAnswer_of_not_isDice dice, remarks,
          remark_of_not_isDice dice]
        rfl

/-- A request is concluded by what its dispatch came to, and after the dispatch only records
are added to the table. -/
theorem run_respond_eq
    [RandomSource σ]
    (app : App)
    (request : Request)
    (table : Table σ) :
    let dispatched := (app.dispatch request).run (table.noted request.openingRecord)
    let outcome := app.concluded dispatched.1
    (app.respond request).run table =
      (outcome,
        dispatched.2.notedAll (remarks request dispatched.1 ++ closings request outcome)) := by
  intro dispatched outcome
  have answers := app.run_answerFault_answerDice request dispatched.1 dispatched.2
  unfold respond Handler.answeringFaults Handler.answeringDice
  rw [Handler.run_recording, Handler.run_finishing, Handler.run_finishing, answers]
  change _ = (outcome, dispatched.2.notedAll (_ ++ closings request outcome))
  rw [show app.concluded dispatched.1 = outcome from rfl]
  rw [Table.notedAll_append]
  cases outcome with
  | ok response => rfl
  | error fault => rfl

/-- Answering a request asks the source what the dispatch asks. -/
theorem run_respond
    [RandomSource σ]
    (app : App)
    (request : Request)
    (table : Table σ) :
    let dispatched := (app.dispatch request).run (table.noted request.openingRecord)
    ((app.respond request).run table).1 = app.concluded dispatched.1 ∧
      ((app.respond request).run table).2.Alike dispatched.2 := by
  intro dispatched
  rw [run_respond_eq]
  exact ⟨rfl, Table.alike_notedAll _ _⟩

/-- How the dispatch of a request ends at a table. -/
def ended
    [RandomSource σ]
    (app : App)
    (request : Request)
    (table : Table σ) : Except Fault Response :=
  ((app.dispatch request).run (table.noted request.openingRecord)).1

/-- A request is left without an answer: the service is being debugged, and the dispatch ends
with a fault, not of the caller's dice, that has no words that can be sent. -/
def Escapes
    [RandomSource σ]
    (app : App)
    (request : Request)
    (table : Table σ) : Prop :=
  app.debug = true ∧
    ∃ fault, app.ended request table = .error fault ∧
      ¬ fault.isDice = true ∧ fault.said? = none

/-- A fault escapes just from requests that are left without an answer. -/
theorem respond_eq_error_iff
    [RandomSource σ]
    (app : App)
    (request : Request)
    (table : Table σ) :
    (∃ fault, ((app.respond request).run table).1 = .error fault) ↔
      app.Escapes request table := by
  have answered : ((app.respond request).run table).1 = app.concluded (app.ended request table) :=
    (app.run_respond request table).1
  rw [answered, Escapes]
  cases app.ended request table with
  | ok response => simp [concluded]
  | error fault => simp [concluded, faultAnswer_eq_error_iff]

/-! ## Wrong values -/

/-- A fault of the service is answered, and the service may tell it. -/
theorem faultAnswer_of_ofService
    {fault : Fault}
    (ofService : fault.OfService)
    (app : App) :
    app.faultAnswer fault =
      .ok (.failed 500 "Internal server error"
        (if app.debug then some fault.wording else none)) := by
  have foreign : ¬ fault.isDice = true := by
    rw [ofService.not_isDice]
    exact Bool.false_ne_true
  rw [faultAnswer_of_not_isDice foreign]
  cases app.debug with
  | false => exact Handler.internalError_false fault
  | true => exact Handler.internalError_of_said ofService.said

/-- A request with wrong values is answered with a list of issues, or with an error of the
service where the list cannot be sent. -/
theorem concluded_refusal (app : App) (issues : List Validation.Issue) :
    ∃ response,
      app.concluded (Refusal.answer issues) = .ok response ∧
        (response.status = 422 ∨ response.status = 500) := by
  rcases Refusal.answer_eq_ok_or_ofService issues with
    ⟨detail, answered⟩ | ⟨fault, answered, ofService⟩
  · rw [answered]
    exact ⟨_, rfl, .inl rfl⟩
  · rw [answered]
    exact ⟨_, faultAnswer_of_ofService ofService app, .inr rfl⟩

/-! ## Rolling -/

section Rolling

variable [RandomSource σ]

/-- The answer to a roll, with the outcomes as JSON. -/
def rolledBody (outcomes : List Outcome) : Except Fault Response := do
  return { status := 200, body := .json (← Outcome.jsonOfAll outcomes) }

theorem rollOrder_eq_rollWithin (settings : Settings) (order : Order) (times : Int) :
    (rollOrder settings order times : Play σ Response) =
      rollWithin settings.limits order times rolledBody := by
  simp only [rollOrder, rollWithin, rolledBody, ofExcept_bind]
  rfl

variable {app : App} {request : Request} {settings : Settings} {order : Order} {times : Int}

/-- A request that asks for a roll is answered by what came of the roll. -/
theorem run_respond_of_asks
    (asks : Asks app request settings order times)
    (table : Table σ) :
    let rolled := (rollWithin settings.limits order times rolledBody).run table
    ((app.respond request).run table).1 = app.concluded rolled.1 ∧
      ((app.respond request).run table).2.Alike rolled.2 := by
  intro rolled
  obtain ⟨answered, alike⟩ := app.run_respond request table
  rw [dispatch_eq_rollOrder asks, rollOrder_eq_rollWithin] at answered alike
  have rolls : Corresponds Eq (rollWithin settings.limits order times rolledBody : Play σ Response)
      (rollWithin settings.limits order times rolledBody) :=
    corresponds_rollWithin fun outcomes => .refl _
  obtain ⟨outcomes, after⟩ := rolls _ table (table.alike_noted request.openingRecord)
  rw [outcomes.eq] at answered
  exact ⟨answered, alike.trans after⟩

theorem Asks.ready (asks : Asks app request settings order times) : app.Ready settings := by
  cases asks with
  | text _ ready _ _ => exact ready
  | body _ ready _ _ _ => exact ready

/-- Only a request that asks for a roll is dispatched with requests of the source, and they
are no more than the limits allow. -/
theorem asksAtMost_dispatch
    (inForce : app.settings = some settings)
    (request : Request) :
    AsksAtMost (settings.limits.dice.toNat * settings.limits.times.toNat)
      (app.dispatch request : Play σ Response) := by
  by_cases asks : ∃ other order times, Asks app request other order times
  · obtain ⟨other, order, times, asks⟩ := asks
    obtain rfl := Option.some.inj (inForce.symm.trans asks.ready.settings_eq)
    rw [dispatch_eq_rollOrder asks, rollOrder_eq_rollWithin]
    exact asksAtMost_rollWithin settings.limits order times rolledBody
  · apply Quiet.asksAtMost
    apply dispatch_of_asks composable_quiet.inPlay
    intro other order times asking
    exact absurd ⟨other, order, times, asking⟩ asks

theorem size_calls_respond_le
    (inForce : app.settings = some settings)
    (request : Request)
    (table : Table σ) :
    ((app.respond request).run table).2.calls.size ≤
      table.calls.size + settings.maxDice.1 * settings.maxTimes.1 := by
  rw [(app.run_respond request table).2.calls]
  exact asksAtMost_dispatch inForce request (table.noted request.openingRecord)

end Rolling

end App
end Web
end Tabletop
