import Tabletop.Proofs.Web.Conclusion
import Tabletop.Proofs.WholeNumber

/-!
# Requests to the service

Requests to read a notation, and to roll a notation or a pool.  Each reaches its endpoint
with the values that it was made of, and what is answered there is told in terms of them.
-/

namespace Tabletop
namespace Web
namespace App

open Play

/-! ## Rolling a notation -/

/-- A request to roll a notation a number of times, which is given as a text. -/
def rollQuery (text times : String) (time : Int) : Request :=
  { method := "GET"
    path := "/api/dice/roll"
    query := [("notation", text), ("times", times)]
    body := ""
    time }

theorem endpoint?_rollQuery (text times : String) (time : Int) :
    endpoint? (rollQuery text times time) = some .rollText := by
  change (endpointsAt "/api/dice/roll").lookup "GET" = some .rollText
  decide

theorem notationValue_rollQuery (text times : String) (time : Int) :
    notationValue (rollQuery text times time) = .ok text :=
  rfl

theorem timesValue_rollQuery (text times : String) (time : Int) :
    timesValue (rollQuery text times time) =
      Validation.located ["query", "times"] (.text times)
        (Validation.boundedNumber 1 (.text times)) :=
  rfl

theorem dispatch_rollQuery
    [RandomSource σ]
    {given : String}
    {times : AtLeast 1}
    (counted : Validation.boundedNumber 1 (.text given) = .ok times)
    (app : App)
    (text : String)
    (time : Int) :
    (app.dispatch (rollQuery text given time) : Play σ Response) =
      app.withRoller fun settings => rollOrder settings (.written text) times.1 := by
  rw [dispatch_of_endpoint? (endpoint?_rollQuery _ _ _), answer, rollText,
    notationValue_rollQuery, timesValue_rollQuery, counted]
  rfl

theorem asks_rollQuery
    {app : App}
    {settings : Settings}
    {times : Nat}
    (ready : app.Ready settings)
    (positive : 1 ≤ times)
    (writable : Numeral.Writable times)
    (text : String)
    (time : Int) :
    Asks app (rollQuery text (Numeral.text times) time) settings (.written text) times := by
  have counted : timesValue (rollQuery text (Numeral.text times) time) =
      .ok ⟨times, positive⟩ := by
    rw [timesValue_rollQuery, Validation.boundedNumber_text positive positive writable]
    rfl
  exact Asks.text (endpoint?_rollQuery _ _ _) ready (notationValue_rollQuery _ _ _) counted

/-- A number of times beyond the digit limit is refused before anything else is looked at. -/
theorem dispatch_rollQuery_of_not_writable
    [RandomSource σ]
    {app : App}
    {settings : Settings}
    {times : Nat}
    (ready : app.Ready settings)
    (positive : 1 ≤ times)
    (long : ¬ Numeral.Writable times)
    (text : String)
    (time : Int) :
    ∃ issues,
      (app.dispatch (rollQuery text (Numeral.text times) time) : Play σ Response) =
        Play.ofExcept (Refusal.answer issues) := by
  rw [dispatch_of_endpoint? (endpoint?_rollQuery _ _ _), answer, App.rollText, withRoller,
    if_pos ready.hasRoller, ready.settings_eq, notationValue_rollQuery, timesValue_rollQuery,
    Validation.boundedNumber_text_of_not_writable positive long]
  exact ⟨_, rfl⟩

theorem respond_rollQuery_of_not_writable
    [RandomSource σ]
    {app : App}
    {settings : Settings}
    {times : Nat}
    (ready : app.Ready settings)
    (positive : 1 ≤ times)
    (long : ¬ Numeral.Writable times)
    (text : String)
    (time : Int)
    (table : Table σ) :
    ∃ response,
      ((app.respond (rollQuery text (Numeral.text times) time)).run table).1 = .ok response ∧
        response.status ≠ 400 := by
  obtain ⟨issues, dispatched⟩ :=
    dispatch_rollQuery_of_not_writable (σ := σ) ready positive long text time
  obtain ⟨answered, -⟩ := app.run_respond (rollQuery text (Numeral.text times) time) table
  obtain ⟨response, concluding, status⟩ := app.concluded_refusal issues
  rw [dispatched, run_ofExcept, concluding] at answered
  refine ⟨response, answered, ?_⟩
  rcases status with status | status
  all_goals
    rw [status]
    decide

theorem ready_create (settings : Settings) (now : Int) :
    (create settings now).Ready settings :=
  ⟨rfl, rfl⟩

/-! ## Rolling a pool -/

/-- A request to roll the pool of a body a number of times. -/
def poolQuery (body times : String) (time : Int) : Request :=
  { method := "POST"
    path := "/api/dice/roll"
    query := [("times", times)]
    body
    time }

theorem endpoint?_poolQuery (body times : String) (time : Int) :
    endpoint? (poolQuery body times time) = some .rollPool := by
  change (endpointsAt "/api/dice/roll").lookup "POST" = some .rollPool
  decide

theorem timesValue_poolQuery (body times : String) (time : Int) :
    timesValue (poolQuery body times time) =
      Validation.located ["query", "times"] (.text times)
        (Validation.boundedNumber 1 (.text times)) :=
  rfl

theorem dispatch_poolQuery
    [RandomSource σ]
    {body given : String}
    {document : Json}
    {pool : Pool}
    {times : AtLeast 1}
    (holds : PoolBody.document body = .value document)
    (read : PoolBody.read PoolBody.place document = .ok pool)
    (counted : Validation.boundedNumber 1 (.text given) = .ok times)
    (app : App)
    (time : Int) :
    (app.dispatch (poolQuery body given time) : Play σ Response) =
      app.withRoller fun settings => rollOrder settings (.pool pool) times.1 := by
  have given : PoolBody.document (poolQuery body given time).body = .value document := holds
  rw [dispatch_of_endpoint? (endpoint?_poolQuery _ _ _), answer, rollPool, given]
  simp only [timesValue_poolQuery, counted, bodyPool, read]
  rfl

/-! ## Reading a notation -/

/-- A request to read a notation. -/
def parseQuery (text : String) (time : Int) : Request :=
  { method := "GET"
    path := "/api/dice/parse"
    query := [("notation", text)]
    body := ""
    time }

theorem endpoint?_parseQuery (text : String) (time : Int) :
    endpoint? (parseQuery text time) = some .parse := by
  change (endpointsAt "/api/dice/parse").lookup "GET" = some .parse
  decide

theorem run_dispatch_parseQuery
    [RandomSource σ]
    (app : App)
    (text : String)
    (time : Int)
    (table : Table σ) :
    ((app.dispatch (parseQuery text time)).run table).1 =
      (Notation.parse text).map fun pool => { status := 200, body := .json pool.json } := by
  have given : notationValue (parseQuery text time) = .ok text := rfl
  rw [dispatch_of_endpoint? (endpoint?_parseQuery _ _), answer, withNotation, given]
  dsimp only
  rw [run_bind, run_parse]
  cases Notation.parse text <;> rfl

/-- A notation is read with success as the object of the pool that it stands for. -/
theorem respond_parseQuery_eq_ok_iff
    [RandomSource σ]
    {app : App}
    {text : String}
    {time : Int}
    {table : Table σ}
    {body : Json} :
    ((app.respond (parseQuery text time)).run table).1 = .ok { status := 200, body := .json body } ↔
      ∃ pool, Notation.parse text = .ok pool ∧ body = pool.json := by
  obtain ⟨answered, -⟩ := app.run_respond (parseQuery text time) table
  rw [answered, run_dispatch_parseQuery]
  cases Notation.parse text with
  | error fault =>
      constructor
      · intro succeeded
        exact absurd rfl (status_ne_of_concluded_error succeeded)
      · rintro ⟨pool, parsed, -⟩
        cases parsed
  | ok pool => simp [Except.map, concluded, eq_comm]

end App
end Web
end Tabletop
