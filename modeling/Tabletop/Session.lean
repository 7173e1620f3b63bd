import Tabletop.Limits
import Tabletop.Pool.Offer

/-!
# Sessions

A session is a sequence of steps at one table.  A step that fails leaves the
table to the next one.  The listener can be switched on and off between steps,
and of each step the records that it heard are told.
-/

namespace Tabletop

/-- What a step is about: a text, or the values of a pool to be put together
first. -/
inductive Subject
  | written (text : String)
  | offered (offer : PoolOffer)

/-- The order that a subject makes. -/
def Subject.order : Subject → Except Fault Order
  | written text => .ok (.written text)
  | offered offer => do return .pool (← offer.build)

namespace Session

/-- One step of a session. -/
inductive Step
  | roll (subject : Subject)
  | rollMany (subject : Subject) (times : Int)
  | parse (text : String)
  | isValid (text : String)
  | describe (subject : Subject)
  | describeShort (subject : Subject)
  | checkLimits (subject : Subject) (times : Int) (limits : Limits)
  /-- Switch listening on or off. -/
  | listen (enabled : Bool)

/-- What a step gives when it succeeds. -/
inductive Answer
  | outcome (outcome : Outcome)
  | outcomes (outcomes : List Outcome)
  | pool (pool : Pool)
  | truth (value : Bool)
  | text (value : String)
  /-- The request is within its limits. -/
  | permitted
  | nothing

/-- The work of a step at the table. -/
def Step.perform [RandomSource σ] : Step → Play σ Answer
  | roll subject => do
      let order ← Play.ofExcept subject.order
      return .outcome (← Play.roll order)
  | rollMany subject times => do
      let order ← Play.ofExcept subject.order
      return .outcomes (← Play.rollMany order times)
  | parse text => do return .pool (← Play.parse text)
  | isValid text => pure (.truth (Notation.isValid text))
  | describe subject => do
      let order ← Play.ofExcept subject.order
      return .text (← Play.describe order)
  | describeShort subject => do
      let order ← Play.ofExcept subject.order
      return .text (← Play.describeShort order)
  | checkLimits subject times limits => do
      let order ← Play.ofExcept subject.order
      Play.checkLimits limits order times
      return .permitted
  | listen _ => pure .nothing

/-- The listener after a step. -/
def Step.adjust (listener : Log.Listener) : Step → Log.Listener
  | listen enabled => { listener with enabled }
  | _ => listener

/-- What is told of one step. -/
structure Report where
  /-- The answer of the step, or its fault. -/
  result : Except Fault Answer
  /-- The number of requests made of the source up to the end of the step. -/
  draws : Nat
  /-- The records of the step that the listener heard. -/
  heard : List Log.Record

/-- The records that were written to a table after its first ones. -/
def recordsAfter (before : Nat) (table : Table σ) : List Log.Record :=
  (table.records.extract before).toList

/-- What is told of each step of a session, and the table afterwards. -/
def run
    [RandomSource σ]
    (listener : Log.Listener)
    (table : Table σ) :
    List Step → List Report × Table σ
  | [] => ([], table)
  | step :: steps =>
      let before := table.records.size
      let (result, table) := step.perform.run table
      let listener := step.adjust listener
      let report := {
        result
        draws := table.calls.size
        heard := listener.heard (recordsAfter before table) }
      let (reports, table) := run listener table steps
      (report :: reports, table)

end Session
end Tabletop
