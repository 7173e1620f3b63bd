import Tabletop.Table
import Tabletop.Web.Refusal

/-!
# Layers of the service

What answers requests is a handler.  Layers lie around the handler that finds the endpoint of
a request: the innermost answers faults of the caller's dice, the next one answers whatever
fault gets through that, and the outermost writes down each request and its answer.  A fault
that a layer does not answer passes through it, and a layer that fails while it answers a
fault lets that other fault out.
-/

namespace Tabletop
namespace Web

/-- Work that answers requests. -/
abbrev Handler (σ : Type) :=
  Request → Play σ Response

namespace Handler

/-- A layer that goes on from what came of the handler inside of it. -/
def finishing
    (finish : Request → Except Fault Response → Play σ Response)
    (inner : Handler σ) : Handler σ := fun request => do
  finish request (← (inner request).attempt)

/-! ## Faults of the caller's dice -/

/-- Answer that a text is no notation. -/
def badNotation (text : String) : Handler σ := fun request => do
  Play.note (request.misreading text)
  return .failed 400 (Fault.badNotation text).wording (some text)

/-- Answer that dice cannot be rolled, for a fault of theirs. -/
def rejectedRoll (fault : Fault) : Handler σ := fun request => do
  Play.note (request.rejection fault)
  return .failed 422 fault.wording none

/-- The handler of a fault of the caller's dice.  A text that is no notation has one of its
own, which comes before that of all of them. -/
def ofFault? : Fault → Option (Handler σ)
  | .badNotation text => some (badNotation text)
  | fault => if fault.isDice then some (rejectedRoll fault) else none

/-- Answer a fault of the caller's dice, and pass on any other. -/
def answerDice (request : Request) : Except Fault Response → Play σ Response
  | .ok response => pure response
  | .error fault =>
      match ofFault? fault with
      | some handler => handler request
      | none => throw fault

/-- The layer that answers faults of the caller's dice. -/
def answeringDice : Handler σ → Handler σ :=
  finishing answerDice

/-! ## Other faults -/

/-- What is told of a fault of any kind: its words while the service is being debugged, and
nothing otherwise. -/
def told (debug : Bool) (fault : Fault) : Except Fault Json :=
  if debug then fault.words.map Json.ofElements else .ok .null

/-- The answer to a fault of any kind.  It fails if words that are to be told are not there,
or cannot be sent. -/
def internalError (debug : Bool) (fault : Fault) : Except Fault Response := do
  let response := Response.failedWith 500 "Internal server error" (← told debug fault)
  Refusal.sendable response.body
  return response

/-- Write a fault of any kind down, and then answer it. -/
def answerFault
    (debug : Bool)
    (request : Request) : Except Fault Response → Play σ Response
  | .ok response => pure response
  | .error fault => do
      Play.note request.alarm
      Play.ofExcept (internalError debug fault)

/-- The layer that answers faults of any kind. -/
def answeringFaults (debug : Bool) : Handler σ → Handler σ :=
  finishing (answerFault debug)

/-! ## Records -/

/-- The layer that writes down each request, and each answer. -/
def recording (inner : Handler σ) : Handler σ := fun request => do
  Play.note request.openingRecord
  let response ← inner request
  Play.note (request.closingRecord response)
  return response

end Handler
end Web
end Tabletop
