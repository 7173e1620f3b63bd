import Tabletop.Proofs.Description
import Tabletop.Proofs.Retention
import Tabletop.Proofs.Web.Queries

/-!
# Requests that the dice do not see

What a client sees of an exchange is the answer, and what the source sees of it are
the requests made for it.  Requests that are not admitted to the dice can be left out
of a service without any change to what is seen of the others, up to the time that
the service has been running.
-/

namespace Tabletop

/-- A JSON value without the members of the given name, if it is an object. -/
def Json.withoutMember (name : String) : Json → Json
  | .object members => .object (members.filter fun entry => entry.1 != name)
  | value => value

namespace Web

/-- A request without its time. -/
def Request.untimed (request : Request) : Request :=
  { request with time := 0 }

/-- A body without the time that the service has been running. -/
def Body.timeless : Body → Body
  | .json value => .json (value.withoutMember "uptime_seconds")
  | body => body

/-- A response without the time that the service has been running. -/
def Response.timeless (response : Response) : Response :=
  { response with body := response.body.timeless }

/-- What is seen of an exchange: the answer, and the requests made of the source. -/
structure Sight where
  /-- The answer, or the fault that escaped. -/
  outcome : Except Fault Response
  /-- The requests made of the source for this answer. -/
  calls : List Bounds

/-- What is seen of exchanges after a number of earlier requests of the source, given
all that were made. -/
def Exchange.sights (earlier : Nat) (calls : List Bounds) : List Exchange → List Sight
  | [] => []
  | exchange :: exchanges =>
      { outcome := exchange.outcome.map Response.timeless
        calls := (calls.take exchange.draws).drop earlier } ::
      sights exchange.draws calls exchanges

namespace App

variable [RandomSource σ]

/-- What is seen of the exchanges of a service. -/
def sights
    (app : App)
    (listener : Log.Listener)
    (table : Table σ)
    (requests : List Request) : List Sight :=
  let served := app.serve listener table requests
  Exchange.sights table.calls.size served.2.calls.toList served.1

/-! ## One exchange after the other -/

/-- What is seen of one request. -/
def sight (app : App) (request : Request) (table : Table σ) : Sight where
  outcome := ((app.respond request).run table).1.map Response.timeless
  calls := ((app.respond request).run (Table.opening table.source)).2.calls.toList

theorem prefix_calls_serve
    (app : App)
    (listener : Log.Listener)
    (table : Table σ)
    (requests : List Request) :
    table.calls.toList <+: (app.serve listener table requests).2.calls.toList := by
  induction requests generalizing table with
  | nil => exact List.prefix_rfl
  | cons request requests inductionHypothesis =>
      have first := (app.oblivious_respond request).prefix_calls table
      exact first.trans (inductionHypothesis ((app.respond request).run table).2)

theorem sights_cons
    (app : App)
    (listener : Log.Listener)
    (table : Table σ)
    (request : Request)
    (requests : List Request) :
    app.sights listener table (request :: requests) =
      app.sight request table ::
        app.sights listener ((app.respond request).run table).2 requests := by
  have calls := (app.oblivious_respond request).calls_eq table
  obtain ⟨later, prefixed⟩ :=
    app.prefix_calls_serve listener ((app.respond request).run table).2 requests
  -- All calls begin with the earlier ones and then those of the first request, so
  -- cutting them at the two counts leaves its own.
  have own :
      ((app.serve listener ((app.respond request).run table).2 requests).2.calls.toList.take
          ((app.respond request).run table).2.calls.size).drop table.calls.size =
        ((app.respond request).run (Table.opening table.source)).2.calls.toList := by
    rw [← prefixed, calls, Array.toList_append, Array.size_append, List.append_assoc,
      List.drop_take, Nat.add_sub_cancel_left, List.drop_left' Array.length_toList,
      List.take_left' Array.length_toList]
  change Sight.mk _ _ :: _ = _
  unfold sight
  rw [← own]
  rfl

/-! ## Time -/

omit [RandomSource σ] in
theorem timeless_healthBody (app : App) (now : Int) :
    Response.timeless { status := 200, body := .json (app.healthBody now) } =
      { status := 200
        body := .json (.object [("status", .text "healthy"), ("version", .text "1.0.0")]) } := by
  unfold Response.timeless Body.timeless healthBody Json.withoutMember
  simp

/-- A request is dispatched in the same way at any time, unless it asks how the
service is. -/
theorem dispatch_untimed (app : App) (request : Request) :
    (app.dispatch request.untimed : Play σ Response) = app.dispatch request ∨
      (app.dispatch request.untimed : Play σ Response) =
          pure { status := 200, body := .json (app.healthBody 0) } ∧
        (app.dispatch request : Play σ Response) =
          pure { status := 200, body := .json (app.healthBody request.time) } := by
  have path : request.untimed.path = request.path := rfl
  have method : request.untimed.method = request.method := rfl
  unfold dispatch
  rw [path, method]
  cases endpointsAt request.path with
  | nil => exact .inl rfl
  | cons first others =>
      dsimp only
      cases (first :: others).lookup request.method with
      | none => exact .inl rfl
      | some endpoint =>
          cases endpoint with
          | health => exact .inr ⟨rfl, rfl⟩
          | _ => exact .inl rfl

/-- The time of a request changes nothing at the table, and in the answer only how
long the service has been running. -/
theorem respond_untimed (app : App) (request : Request) (table : Table σ) :
    ((app.respond request.untimed).run table).2 =
        ((app.respond request).run table).2 ∧
      ((app.respond request.untimed).run table).1.map Response.timeless =
        ((app.respond request).run table).1.map Response.timeless := by
  have opening : request.untimed.openingRecord = request.openingRecord := rfl
  have remarked : remarks request.untimed = remarks request := rfl
  have closing : closings request.untimed = closings request := rfl
  rw [run_respond_eq, run_respond_eq]
  dsimp only
  rw [opening, remarked, closing]
  rcases app.dispatch_untimed request (σ := σ) with same | ⟨untimed, timed⟩
  · rw [same]
    exact ⟨rfl, rfl⟩
  · rw [untimed, timed]
    constructor
    · simp only [Play.run_pure, concluded, remarks, closings, Request.closingRecord]
    · simp only [Play.run_pure, concluded, Except.map, timeless_healthBody]

theorem respond_of_untimed_eq
    (app : App)
    {request other : Request}
    (same : request.untimed = other.untimed)
    (table : Table σ) :
    ((app.respond request).run table).2 = ((app.respond other).run table).2 ∧
      ((app.respond request).run table).1.map Response.timeless =
        ((app.respond other).run table).1.map Response.timeless := by
  obtain ⟨tableFirst, outcomeFirst⟩ := app.respond_untimed request table
  obtain ⟨tableOther, outcomeOther⟩ := app.respond_untimed other table
  rw [← tableFirst, ← outcomeFirst, ← tableOther, ← outcomeOther, same]
  exact ⟨rfl, rfl⟩

/-! ## Leaving requests out -/

/-- The marks leave out only requests that are not admitted to the dice. -/
def KeepsAdmitted (app : App) (marks : List Bool) (requests : List Request) : Prop :=
  ∀ (position : Nat) (request : Request),
    marks[position]? = some false →
      requests[position]? = some request → ¬ Admits app request

/-- What is seen of a request depends on the past through the source alone, and requests
that are not admitted leave the source as it is. -/
theorem unwinds_respond (app : App) :
    Unwinds
      (fun (table : Table σ) request => app.sight request table)
      (fun table request => ((app.respond request).run table).2)
      (fun left right => left.source = right.source)
      Request.untimed (Admits app) where
  shows := by
    intro left right request other same sameRequest
    have oblivious := app.oblivious_respond other (σ := σ)
    unfold sight
    rw [(app.respond_of_untimed_eq sameRequest left).2,
      (app.respond_of_untimed_eq sameRequest (Table.opening left.source)).1,
      oblivious.outcome_eq same, same]
  stays := by
    intro left right request other same sameRequest
    rw [(app.respond_of_untimed_eq sameRequest left).1]
    exact (app.oblivious_respond other).source_eq same
  skips := by
    intro left right request same refused
    exact (quiet_respond refused left).1.trans same

theorem sights_eq_sightings
    (app : App)
    (listener : Log.Listener)
    (table : Table σ)
    (requests : List Request) :
    app.sights listener table requests =
      sightings (fun table request => app.sight request table)
        (fun table request => ((app.respond request).run table).2) table requests := by
  induction requests generalizing table with
  | nil => rfl
  | cons request requests inductionHypothesis =>
      rw [sights_cons, inductionHypothesis, sightings]

/-- Leaving out requests that are not admitted changes nothing about what is seen of
the others, whenever those are made. -/
theorem sights_eq_retain
    (app : App)
    (listener : Log.Listener)
    (table : Table σ)
    {marks : List Bool}
    {requests others : List Request}
    (keeps : app.KeepsAdmitted marks requests)
    (same : others.map Request.untimed = (retain marks requests).map Request.untimed) :
    app.sights listener table others =
      retain marks (app.sights listener table requests) := by
  rw [sights_eq_sightings, sights_eq_sightings]
  exact app.unwinds_respond.sightings_retain rfl keeps same

/-- Requests that are not admitted make no request of the source and leave it as it
is, while those that are admitted do make one; and leaving out any requests that are
not admitted, with the others at any times, changes nothing about what is seen of the
others. -/
theorem sights_retain (app : App) :
    (∀ (request : Request) (table : Table σ),
      ¬ Admits app request →
        ((app.respond request).run table).2.calls = table.calls ∧
          ((app.respond request).run table).2.source = table.source) ∧
    (∀ (request : Request) (order : Order) (source : String) (table : Table σ),
      AdmitsOrder app request order →
        Play.sourceText order = .ok source →
          table.calls.size < ((app.respond request).run table).2.calls.size) ∧
    (∀ (listener : Log.Listener) (table : Table σ)
        (marks : List Bool) (requests others : List Request),
      app.KeepsAdmitted marks requests →
        others.map Request.untimed = (retain marks requests).map Request.untimed →
          app.sights listener table others =
            retain marks (app.sights listener table requests)) := by
  refine ⟨?_, ?_, ?_⟩
  · intro request table refused
    exact (quiet_respond refused table).symm
  · intro request order source table admitted sourced
    exact draws_respond admitted sourced table
  · intro listener table marks requests others keeps same
    exact app.sights_eq_retain listener table keeps same

/-- A text that is no notation can be left out before four dice are rolled, and the
roll of the four dice asks the source. -/
theorem sights_retain_misspelt :
    let app := App.create .standard 0
    let table := Table.opening (ScriptedSource.congruential 7)
    let listener : Log.Listener := { threshold := some .debug, enabled := true }
    ¬ Admits app (rollQuery "four dice" "1" 1) ∧
      ((app.respond (rollQuery "four dice" "1" 1)).run table).2.calls = table.calls ∧
      AdmitsOrder app (rollQuery "4d6kh3" "1" 2) (.written "4d6kh3") ∧
      0 < ((app.respond (rollQuery "4d6kh3" "1" 2)).run table).2.calls.size ∧
      app.sights listener table [rollQuery "4d6kh3" "1" 3] =
        retain [false, true]
          (app.sights listener table
            [rollQuery "four dice" "1" 1, rollQuery "4d6kh3" "1" 2]) := by
  intro app table listener
  have misspelt : ¬ Admits app (rollQuery "four dice" "1" 1) := by
    rintro ⟨order, settings, times, pool, asks, denoted, checked⟩
    cases asks with
    | text reached ready given =>
        obtain rfl := Except.ok.inj given
        have rejected : (Notation.parse "four dice").toBool = false := by decide +kernel
        rw [show Notation.parse "four dice" = .ok pool from denoted] at rejected
        exact Bool.false_ne_true rejected.symm
    | body reached => exact absurd reached (by decide +kernel)
  have admitted : AdmitsOrder app (rollQuery "4d6kh3" "1" 2) (.written "4d6kh3") := by
    have parsed : Notation.parse "4d6kh3" = .ok Pool.fourDice := by decide +kernel
    have asks : Asks app (rollQuery "4d6kh3" "1" 2) .standard (.written "4d6kh3") 1 :=
      asks_rollQuery (ready_create _ _) (Nat.le_refl 1) (by decide +kernel) "4d6kh3" 2
    exact ⟨.standard, 1, Pool.fourDice, asks, parsed, rfl⟩
  have keeps : app.KeepsAdmitted [false, true]
      [rollQuery "four dice" "1" 1, rollQuery "4d6kh3" "1" 2] := by
    intro position request marked present
    match position with
    | 0 =>
        obtain rfl := Option.some.inj present
        exact misspelt
    | 1 => contradiction
    | position + 2 => contradiction
  refine ⟨misspelt, ((sights_retain app).1 _ table misspelt).1, admitted, ?_, ?_⟩
  · exact (sights_retain app).2.1 _ _ "4d6kh3" table admitted rfl
  · exact (sights_retain app).2.2 listener table _ _ _ keeps rfl

end App
end Web
end Tabletop
