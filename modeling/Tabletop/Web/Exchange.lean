import Tabletop.Web.App

/-!
# Exchanges

Requests are answered one after the other at one table.  An exchange is a request
with what came of it: the answer, the requests made of the random source so far,
and the records that a listener heard.
-/

namespace Tabletop
namespace Web

/-- What came of one request. -/
structure Exchange where
  /-- The answer, or the fault that escaped. -/
  outcome : Except Fault Response
  /-- The number of requests made of the source up to the answer. -/
  draws : Nat
  /-- The records of the answer that the listener heard. -/
  heard : List Log.Record

namespace App

/-- Answer requests in order; what came of each, and the table afterwards. -/
def serve
    [RandomSource σ]
    (app : App)
    (listener : Log.Listener)
    (table : Table σ) :
    List Request → List Exchange × Table σ
  | [] => ([], table)
  | request :: requests =>
      let before := table.records.size
      let (outcome, table) := (app.respond request).run table
      let exchange : Exchange := {
        outcome
        draws := table.calls.size
        heard := listener.heard (table.records.extract before).toList }
      let (exchanges, table) := app.serve listener table requests
      (exchange :: exchanges, table)

end App
end Web
end Tabletop
