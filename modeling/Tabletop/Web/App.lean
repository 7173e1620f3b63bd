import Tabletop.Web.Endpoint
import Tabletop.Web.Layers

/-!
# The service

Every request is answered: at its endpoint, or with a status that says that there
is none.  Around this lie the layers that answer faults and write records.
-/

namespace Tabletop
namespace Web
namespace App

/-! ## Routes -/

/-- A page of the documentation is read by two methods. -/
def documenting (page : Page) : List (String × Endpoint) :=
  [("GET", .page page), ("HEAD", .page page)]

/-- The paths of the service, with the endpoints at each of them by their methods. -/
def routes : List (String × List (String × Endpoint)) :=
  [("/openapi.json", documenting .schema),
   ("/docs", documenting .explorer),
   ("/docs/oauth2-redirect", documenting .signIn),
   ("/redoc", documenting .reference),
   ("/api/dice/roll", [("GET", .rollText), ("POST", .rollPool)]),
   ("/api/dice/describe", [("GET", .describe)]),
   ("/api/dice/parse", [("GET", .parse)]),
   ("/health", [("GET", .health)])]

/-- A path without a line feed at its end, which does not count. -/
def withoutLineFeed (path : String) : String :=
  if path.toList.getLast? = some '\n' then String.ofList path.toList.dropLast
  else path

/-- The endpoints at a path, each with its method. -/
def endpointsAt (path : String) : List (String × Endpoint) :=
  (routes.lookup (withoutLineFeed path)).getD []

/-- A path without the slashes at its end. -/
def withoutSlashes (path : String) : String :=
  String.ofList (Text.dropRight (· == '/') path.toList)

/-- The answer where there is no endpoint: a path that differs from a known one
by slashes at its end is sent on. -/
def unrouted (path : String) : Response :=
  if path ≠ "/" ∧ path.toList.getLast? = some '/' ∧
      endpointsAt (withoutSlashes path) ≠ [] then
    { status := 307, body := .empty }
  else .detailed 404 (.text "Not Found")

/-- Find the endpoint of a request and answer there. -/
def dispatch [RandomSource σ] (app : App) : Handler σ := fun request =>
  match endpointsAt request.path with
  | [] => pure (unrouted request.path)
  | endpoints =>
      match endpoints.lookup request.method with
      | some endpoint => app.answer request endpoint
      | none => pure (.detailed 405 (.text "Method Not Allowed"))

/-! ## Layers -/

/-- Answer a request: the records lie around the answers to faults of any kind, and these
around the answers to faults of the caller's dice. -/
def respond [RandomSource σ] (app : App) : Handler σ :=
  Handler.recording (Handler.answeringFaults app.debug (Handler.answeringDice app.dispatch))

end App
end Web
end Tabletop
