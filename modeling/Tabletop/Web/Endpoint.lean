import Tabletop.Settings
import Tabletop.Text.Uppercase
import Tabletop.Uptime
import Tabletop.Web.PoolBody
import Tabletop.Web.Refusal

/-!
# Endpoints of the service

The service rolls, describes and reads notations, and tells how it is and what it
offers.  Wrong values are answered with a list of issues.  Rolling needs a table and
settings, which are looked for before any value is checked; but a body that is no document
is refused first of all.
-/

namespace Tabletop
namespace Web

/-- The parts of a running service. -/
structure App where
  /-- Whether there is a table to roll at. -/
  hasRoller : Bool
  /-- The settings in force, if there are any. -/
  settings : Option Settings
  /-- Whether faults are told in full. -/
  debug : Bool
  /-- When the service was started. -/
  uptime : Uptime

/-- What a request can be for. -/
inductive Endpoint
  /-- Roll a notation. -/
  | rollText
  /-- Roll a pool. -/
  | rollPool
  /-- Describe a notation. -/
  | describe
  /-- Read a notation. -/
  | parse
  /-- Tell how the service is. -/
  | health
  /-- Show a page of the documentation. -/
  | page (page : Page)
  deriving DecidableEq

namespace App

/-- A service with the given settings that starts at the given time. -/
def create (settings : Settings) (now : Int) : App :=
  { hasRoller := true
    settings := some settings
    debug := Text.uppercase settings.logLevel = "DEBUG"
    uptime := Uptime.stopped.start now }

/-! ## Values of a query -/

/-- The notation of a query, which must be there. -/
def notationValue (request : Request) : Except (List Validation.Issue) String :=
  match request.value? "notation" with
  | some text => .ok text
  | none => Validation.located ["query", "notation"] .null (.error .missing)

/-- The number of rolls of a query, one if it is left out. -/
def timesValue (request : Request) :
    Except (List Validation.Issue) (AtLeast 1) :=
  match request.value? "times" with
  | none => .ok AtLeast.one
  | some text =>
      Validation.located ["query", "times"] (.text text)
        (Validation.boundedNumber 1 (.text text))

/-! ## Endpoints -/

/-- The answer while a part of the service is missing. -/
def uninitialized (part : String) : Response :=
  .detailed 500 (.text (part ++ " not initialized"))

/-- Answer with what is needed to roll: the table is looked for before the
settings. -/
def withRoller
    (app : App)
    (answer : Settings → Play σ Response) : Play σ Response :=
  if app.hasRoller then
    match app.settings with
    | some settings => answer settings
    | none => pure (uninitialized "Settings")
  else pure (uninitialized "Roller")

/-- Check an order and roll it. -/
def rollOrder
    [RandomSource σ]
    (settings : Settings)
    (order : Order)
    (times : Int) : Play σ Response := do
  Play.checkLimits settings.limits order times
  let outcomes ← Play.rollMany order times
  return { status := 200, body := .json (← Play.ofExcept (Outcome.jsonOfAll outcomes)) }

/-- Answer a request to roll a notation. -/
def rollText
    [RandomSource σ]
    (app : App)
    (request : Request) : Play σ Response :=
  app.withRoller fun settings =>
    match Validation.both (notationValue request) (timesValue request) with
    | .error issues => Play.ofExcept (Refusal.answer issues)
    | .ok (text, times) => rollOrder settings (.written text) times.1

/-- The pool of a body that is a document, or that is missing.  The document null is there,
and is no object. -/
def bodyPool : PoolBody.Document → Except (List Validation.Issue) Pool
  | .value value => PoolBody.read PoolBody.place value
  | _ => Validation.located PoolBody.place .null (.error .missing)

/-- Answer a request to roll a pool, whose body must be a document if there is
one. -/
def rollPool
    [RandomSource σ]
    (app : App)
    (request : Request) : Play σ Response :=
  match PoolBody.document request.body with
  | .malformed =>
      Play.ofExcept (Refusal.answer [
        { location := PoolBody.place, kind := .document, input := .object [] }])
  | .unreadable =>
      pure (.detailed 400 (.text "There was an error parsing the body"))
  | document =>
      app.withRoller fun settings =>
        match Validation.both (timesValue request) (bodyPool document) with
        | .error issues => Play.ofExcept (Refusal.answer issues)
        | .ok (times, pool) => rollOrder settings (.pool pool) times.1

/-- Answer a request about a notation. -/
def withNotation
    (request : Request)
    (answer : String → Pool → Except Fault Json) : Play σ Response :=
  match notationValue request with
  | .error issues => Play.ofExcept (Refusal.answer issues)
  | .ok text => do
      let pool ← Play.parse text
      return { status := 200, body := .json (← Play.ofExcept (answer text pool)) }

/-- The description of a notation as a JSON object. -/
def description (text : String) (pool : Pool) : Except Fault Json := do
  return .object [
    ("notation", .text text),
    ("description", .text (← pool.describe)),
    ("short", .text (← pool.short))]

/-- A time in half seconds, in seconds. -/
def seconds (time : Int) : Json :=
  .real (Numeral.text (time / 2) ++ if time % 2 = 0 then ".0" else ".5")

/-- How the service is, as a JSON object. -/
def healthBody (app : App) (now : Int) : Json :=
  .object [
    ("status", .text "healthy"),
    ("uptime_seconds", seconds (app.uptime.elapsed now)),
    ("version", .text "1.0.0")]

/-- Answer a request at an endpoint. -/
def answer
    [RandomSource σ]
    (app : App)
    (request : Request) : Endpoint → Play σ Response
  | .rollText => app.rollText request
  | .rollPool => app.rollPool request
  | .describe => withNotation request description
  | .parse => withNotation request fun _ pool => .ok pool.json
  | .health => pure { status := 200, body := .json (app.healthBody request.time) }
  | .page page => pure { status := 200, body := .page page }

end App
end Web
end Tabletop
