import Tabletop.Proofs.Records
import Tabletop.Proofs.Web.Conclusion

/-!
# Requests accounted for

Every request is answered, and what is written for it stands together: the request comes
first, the status of the answer last, and in between there is only what play and a fault of
the request left.  A fault that is not of the caller's dice is answered in words that say
nothing about it, unless the service is being debugged; it is all that is written at the
error level.
-/

namespace Tabletop

namespace Web
namespace App

open Play

/-! ## The records of a request -/

/-- The records of a list that are at the error level. -/
def alarms (records : List Log.Record) : List Log.Record :=
  records.filter fun record => record.level = .error

theorem alarms_append (first second : List Log.Record) :
    alarms (first ++ second) = alarms first ++ alarms second :=
  List.filter_append first second

theorem alarms_eq_nil
    {records : List Log.Record}
    (calm : ∀ record ∈ records, record.level ≠ .error) :
    alarms records = [] := by
  apply List.filter_eq_nil_iff.mpr
  intro record member
  simpa using calm record member

/-- A fault of the caller's dice is written down for information. -/
theorem level_remark_of_isDice
    {fault : Fault}
    (dice : fault.isDice = true)
    (request : Request) :
    (remark request fault).level = .info := by
  unfold remark
  split
  · rfl
  · rw [if_pos dice]
    rfl

theorem level_remark (request : Request) (fault : Fault) :
    (remark request fault).level = .info ∨ (remark request fault).level = .error := by
  by_cases dice : fault.isDice = true
  · exact .inl (level_remark_of_isDice dice request)
  · rw [remark_of_not_isDice dice]
    exact .inr rfl

/-- A record that play left, or a fault of the request. -/
inductive Leaves (request : Request) : Log.Record → Prop
  | play {record : Log.Record} : record.IsOfPlay → Leaves request record
  | fault (fault : Fault) : Leaves request (remark request fault)

namespace Leaves

variable {request : Request} {record : Log.Record}

theorem level_ne_trace
    (leaves : Leaves request record) :
    record.level ≠ .trace := by
  cases leaves with
  | play isOfPlay =>
      rw [isOfPlay.shape.1]
      decide
  | fault fault =>
      rcases level_remark request fault with level | level <;> rw [level] <;> decide

/-- At the debug level there are only records of play, which begin in their own way. -/
theorem letters
    (leaves : Leaves request record)
    (level : record.level = .debug) :
    record.message.toList.take 2 = ['P', 'A'] ∨ record.message.toList.take 2 = ['R', 'O'] := by
  cases leaves with
  | play isOfPlay => exact isOfPlay.shape.2
  | fault fault =>
      rcases level_remark request fault with other | other <;> rw [other] at level <;>
        contradiction

theorem ne_openingRecord
    (leaves : Leaves request record)
    (other : Request) :
    record ≠ other.openingRecord := by
  rintro rfl
  have letters := leaves.letters rfl
  simp [Request.openingRecord, Log.Record.debug] at letters

theorem ne_closingRecord
    (leaves : Leaves request record)
    (other : Request)
    (reply : Response) :
    record ≠ other.closingRecord reply := by
  rintro rfl
  have letters := leaves.letters rfl
  simp [Request.closingRecord, Log.Record.debug] at letters

end Leaves

/-! ## Remarks -/

theorem leaves_of_mem_remarks
    {request : Request}
    {ended : Except Fault Response}
    {record : Log.Record}
    (member : record ∈ remarks request ended) :
    Leaves request record := by
  cases ended with
  | ok response => contradiction
  | error fault =>
      obtain rfl := List.mem_singleton.mp member
      exact .fault fault

theorem alarms_remarks_of_isDice
    {request : Request}
    {ended : Except Fault Response}
    (dice : ∀ fault, ended = .error fault → fault.isDice = true) :
    alarms (remarks request ended) = [] := by
  apply alarms_eq_nil
  intro record member
  cases ended with
  | ok response => contradiction
  | error fault =>
      obtain rfl := List.mem_singleton.mp member
      rw [level_remark_of_isDice (dice fault rfl)]
      decide

section Requests

variable [RandomSource σ]

/-! ## Single requests -/

/-- Dispatching a request writes records of play. -/
theorem writes_dispatch (app : App) (request : Request) :
    Writes Log.Record.IsOfPlay (app.dispatch request : Play σ Response) := by
  apply dispatch_of_asks composable_writes
  intro settings order times _
  exact rollOrder_of_draws composable_writes (fun sides => writes_draw (dieBounds sides))
    settings order times

/-- What is written for a request begins with the request and ends with the status of the
answer, if there is one, and alarm is only raised by how the dispatch ended. -/
theorem records_respond (app : App) (request : Request) (table : Table σ) :
    ∃ inside : List Log.Record,
      ((app.respond request).run table).2.records.toList =
          table.records.toList ++ request.openingRecord ::
            (inside ++ closings request (app.concluded (app.ended request table))) ∧
        (∀ record ∈ inside, Leaves request record) ∧
          alarms inside = alarms (remarks request (app.ended request table)) := by
  obtain ⟨played, records, ofPlay⟩ :=
    app.writes_dispatch request (table.noted request.openingRecord)
  have silent : alarms played = [] := by
    apply alarms_eq_nil
    intro record member
    rw [(ofPlay record member).shape.1]
    decide
  refine ⟨played ++ remarks request (app.ended request table), ?_, ?_, ?_⟩
  · rw [run_respond_eq]
    dsimp only
    rw [Table.toList_records_notedAll, records, Table.toList_records_noted]
    simp only [List.append_assoc, List.singleton_append]
    rfl
  · rw [List.forall_mem_append]
    exact ⟨fun record member => .play (ofPlay record member), fun _ => leaves_of_mem_remarks⟩
  · rw [alarms_append, silent, List.nil_append]

theorem heard_of_leaves
    {request : Request}
    {inside : List Log.Record}
    (leaves : ∀ record ∈ inside, Leaves request record)
    (outcome : Except Fault Response) :
    Log.Listener.debugging.heard
        (request.openingRecord :: (inside ++ closings request outcome)) =
      request.openingRecord :: (inside ++ closings request outcome) := by
  apply Log.Listener.heard_debugging
  intro record member
  rcases List.mem_cons.mp member with rfl | later
  · exact nofun
  · rcases List.mem_append.mp later with between | last
    · exact (leaves record between).level_ne_trace
    · cases outcome with
      | ok response =>
          obtain rfl := List.mem_singleton.mp last
          exact nofun
      | error fault => cases last

/-- A request is accounted for by the records inside of the one that names the request and,
if it is answered, the one that names the answer. -/
structure Accounts
    (app : App)
    (request : Request)
    (table : Table σ)
    (exchange : Exchange)
    (inside : List Log.Record) : Prop where
  /-- A fault escapes only from a service that is being debugged, and only where the
  dispatch ended with a fault, not of the caller's dice, that has no words that can be
  sent. -/
  escapes : (∃ fault, exchange.outcome = .error fault) ↔ app.Escapes request table
  /-- What is heard begins with the request, and ends with the status of the response if there
  is one. -/
  heard :
    exchange.heard = request.openingRecord :: (inside ++ closings request exchange.outcome)
  /-- Just this is written. -/
  written :
    ((app.respond request).run table).2.records.toList =
      table.records.toList ++ exchange.heard
  /-- Inside there are only records that play left, and a fault of the request. -/
  leaves : ∀ record ∈ inside, Leaves request record
  /-- No request begins or ends inside. -/
  undivided :
    ∀ (other : Request) reply,
      other.openingRecord ∉ inside ∧ other.closingRecord reply ∉ inside
  /-- A fault that is not of the caller's dice is all that is written at the error level, and
  is answered, unless it escapes, in the same words always. -/
  foreign :
    ∀ fault, app.ended request table = .error fault →
      ¬ fault.isDice = true →
        alarms inside = [request.alarm] ∧
          ∀ response, exchange.outcome = .ok response →
            response = .failed 500 "Internal server error"
              (if app.debug then fault.said? else none)
  /-- Without such a fault nothing is written at the error level. -/
  calm :
    (∀ fault, app.ended request table = .error fault → fault.isDice = true) →
      alarms inside = []

/-- Every request is accounted for, whoever asked before. -/
theorem accounts_respond (app : App) (request : Request) (table : Table σ) :
    let ran := (app.respond request).run table
    ∃ inside,
      app.Accounts request table
        { outcome := ran.1
          draws := ran.2.calls.size
          heard := Log.Listener.debugging.heard
            (ran.2.records.extract table.records.size).toList }
        inside := by
  intro ran
  obtain ⟨inside, records, leaves, alarmed⟩ := app.records_respond request table
  have concluding : ran.1 = app.concluded (app.ended request table) :=
    (app.run_respond request table).1
  have added := toList_extract_of_append records
  rw [Array.length_toList] at added
  have heard := heard_of_leaves leaves (app.concluded (app.ended request table))
  rw [← added] at heard
  refine ⟨inside, {
    escapes := ?escapes
    heard := ?heard
    written := ?written
    leaves := leaves
    undivided := ?undivided
    foreign := ?foreign
    calm := ?calm }⟩
  case escapes => exact app.respond_eq_error_iff request table
  case heard =>
    rw [concluding]
    exact heard.trans added
  case written =>
    rw [heard, added]
    exact records
  case undivided =>
    intro other reply
    exact ⟨fun member => (leaves _ member).ne_openingRecord other rfl,
      fun member => (leaves _ member).ne_closingRecord other reply rfl⟩
  case foreign =>
    intro fault failed foreign
    rw [alarmed, concluding, failed, remarks, remark_of_not_isDice foreign, concluded,
      faultAnswer_of_not_isDice foreign]
    exact ⟨rfl, fun response => Handler.internalError_eq_ok⟩
  case calm =>
    intro dice
    rw [alarmed]
    exact alarms_remarks_of_isDice dice

/-! ## Requests in turn -/

/-- Requests are accounted for one after the other, each at the table that the one before it
left. -/
inductive AccountsInTurn (app : App) : Table σ → List Request → List Exchange → Prop
  | done (table : Table σ) : AccountsInTurn app table [] []
  | next {table : Table σ} {request : Request} {requests : List Request}
      {exchange : Exchange} {exchanges : List Exchange}
      {inside : List Log.Record} :
      app.Accounts request table exchange inside →
        AccountsInTurn app ((app.respond request).run table).2 requests exchanges →
          AccountsInTurn app table (request :: requests) (exchange :: exchanges)

theorem accountsInTurn_serve (app : App) (table : Table σ) (requests : List Request) :
    app.AccountsInTurn table requests
      (app.serve Log.Listener.debugging table requests).1 := by
  induction requests generalizing table with
  | nil => exact .done table
  | cons request requests inductionHypothesis =>
      obtain ⟨inside, accounts⟩ := app.accounts_respond request table
      exact .next accounts (inductionHypothesis ((app.respond request).run table).2)

/-- What is heard of the requests is all that is written, in the order of the requests. -/
theorem records_serve (app : App) (table : Table σ) (requests : List Request) :
    (app.serve Log.Listener.debugging table requests).2.records.toList =
      table.records.toList ++
        (app.serve Log.Listener.debugging table requests).1.flatMap Exchange.heard := by
  induction requests generalizing table with
  | nil => exact (List.append_nil _).symm
  | cons request requests inductionHypothesis =>
      obtain ⟨inside, accounts⟩ := app.accounts_respond request table
      have rest := inductionHypothesis ((app.respond request).run table).2
      rw [accounts.written, List.append_assoc] at rest
      exact rest

/-- Every service, created with any settings and left with a roller and with settings or
without, accounts for every request of a sequence.  What is written for a request stands
together: it begins with the request and ends with the status of the response, and nothing
of another request is in between.  A fault that is not of the caller's dice is written down
in a single record at the error level and answered as an internal error; its wording is only
told if the service was created with the debug level.  There is exactly one response for each
request, but for those whose fault is to be told and has no words that can be sent: then
another fault escapes, and the records have no end. -/
theorem serve_accounts
    (created : Settings)
    (now : Int)
    (hasRoller : Bool)
    (settings : Option Settings)
    (table : Table σ)
    (requests : List Request) :
    let app := { App.create created now with hasRoller, settings }
    let served := app.serve Log.Listener.debugging table requests
    app.AccountsInTurn table requests served.1 ∧
      served.2.records.toList = table.records.toList ++ served.1.flatMap Exchange.heard ∧
        (app.debug = true ↔ Text.uppercase created.logLevel = "DEBUG") := by
  intro app served
  exact ⟨app.accountsInTurn_serve table requests, app.records_serve table requests,
    decide_eq_true_iff⟩

end Requests

/-- A service that is being debugged rolls with a source whose failure has no words.  The
other failure that is met instead escapes, and no response is written down. -/
theorem serve_accounts_not_said :
    let created : Settings := { Settings.standard with logLevel := "DEBUG" }
    let app := App.create created 0
    let request : Request :=
      { method := "GET", path := "/api/dice/roll", query := [("notation", "1d6")], body := ""
        time := 0 }
    let table := Table.opening (FailingSource.mk .ofLongNumber)
    ∃ exchange,
      (app.serve .debugging table [request]).1 = [exchange] ∧
        exchange.outcome = .error (.source .longNumber) ∧
          exchange.heard = [request.openingRecord, request.alarm] := by
  intro created app request table
  refine ⟨_, rfl, ?_, ?_⟩
  · have escapes : ((app.respond request).run table).1.map (fun _ => ()) =
        .error (.source .longNumber) := by
      decide +kernel
    exact Fault.map_eq_error_iff.mp escapes
  · decide +kernel

/-- A source with one number left, asked for two dice by one request after the other. -/
example :
    let request : Request :=
      { method := "GET", path := "/api/dice/roll", query := [("notation", "1d6")], body := ""
        time := 0 }
    let table := Table.opening (ScriptedSource.script [3])
    let served := (App.create .standard 0).serve .debugging table [request, request]
    served.1.map (fun exchange => exchange.heard.map Log.Record.message) =
      [["Request: GET /api/dice/roll",
        "ROLL | source=1d6 | kept=[3] | dropped=[] | total=3",
        "Response: GET /api/dice/roll -> 200"],
       ["Request: GET /api/dice/roll",
        "Unhandled error: GET /api/dice/roll",
        "Response: GET /api/dice/roll -> 500"]] := by
  decide +kernel

end App
end Web
end Tabletop
