import Tabletop.CommandLine.Invocation
import Tabletop.Log.Setup
import Tabletop.Operation

/-!
# The command line

An invocation is read, the log is set up, and the command is carried out as a
supervised operation.  Faults of the caller's dice are reported on the error
stream; any other fault escapes.
-/

namespace Tabletop
namespace CommandLine

/-- How the program ends. -/
inductive Ending
  /-- With an exit code. -/
  | exit (code : Nat)
  /-- With a fault that nobody handles. -/
  | escape (fault : Fault)
  deriving DecidableEq

/-- What a service is started with. -/
structure Service where
  /-- The title of the service. -/
  title : String
  /-- The host it listens on. -/
  host : Supplied String
  /-- The port it listens on. -/
  port : Supplied Int
  /-- The least important level that the service itself logs. -/
  logLevel : String
  deriving DecidableEq

/-- What came of running the program. -/
structure Report where
  /-- How the program ended. -/
  ending : Ending
  /-- What it wrote on the output stream. -/
  output : String
  /-- What it wrote on the error stream. -/
  errors : String
  /-- The records that were heard at the level that was set up. -/
  heard : List Log.Record
  /-- The services that were started. -/
  served : List Service

/-- A report of a program that only ended. -/
def Report.of (ending : Ending) (errors : String) : Report :=
  { ending, output := "", errors, heard := [], served := [] }

/-! ## Commands -/

/-- Outcomes as text: a JSON object, or a line for each. -/
def outcomesText (json : Bool) (outcomes : List Outcome) : Except Fault String := do
  if json then return (← Outcome.jsonOfAll outcomes).render
  else return String.intercalate "\n" (← outcomes.mapM Outcome.line)

/-- Read a notation, check it, open a generator, and roll. -/
def rollText
    [RandomSource σ]
    (limits : Limits)
    (text : String)
    (times : Supplied Int)
    (seed : Option (Supplied Int))
    (json : Bool) : Play σ String := do
  let pool ← Play.parse text
  Play.ofExcept (limits.checkDice pool)
  let times ← Play.ofExcept times.number
  Play.ofExcept (limits.checkTimes times)
  Play.openGenerator seed
  let outcomes ← Play.rollMany (.written text) times
  Play.ofExcept (outcomesText json outcomes)

/-- The operation of a roll. -/
def rollOperation
    (text : String)
    (times : Supplied Int)
    (seed : Option (Supplied Int))
    (json : Bool) : Operation :=
  { name := "roll"
    row := [.text text]
    named := [
      ("times", times.datum .integer),
      ("seed", (seed.map (Supplied.datum .integer)).getD .nothing),
      ("as_json", .truth json)] }

/-- Describe a notation by a sentence, or by its canonical notation. -/
def describeText (text : String) (short : Bool) : Play σ String :=
  if short then Play.describeShort (.written text)
  else Play.describe (.written text)

/-- The operation of a description. -/
def describeOperation (text : String) (short : Bool) : Operation :=
  { name := "describe", row := [.text text], named := [("short", .truth short)] }

/-- The record of a service that is started. -/
def serviceRecord
    (host : Supplied String)
    (port : Supplied Int) : Except Fault Log.Record := do
  return {
    level := .info
    origin := some "cli"
    message := "Web 服务启动: http://" ++ (← host.shown .ok) ++ ":" ++
      (← port.shown Numeral.write) }

/-- Start a service, which opens a generator of its own. -/
def startService
    [RandomSource σ]
    (host : Supplied String)
    (port : Supplied Int) : Play σ Service := do
  Play.note (← Play.ofExcept (serviceRecord host port))
  Play.openGenerator none
  return { title := programName, host, port, logLevel := "warning" }

/-- What a command gives. -/
inductive Product
  /-- A text to be printed. -/
  | text (text : String)
  /-- A service. -/
  | service (service : Service)

/-- The notation of a roll: the given one, or the standard one in place of none or
of an empty one. -/
def rolledText (settings : Settings) (text : Option String) : String :=
  match text with
  | none => settings.defaultNotation
  | some text => if text = "" then settings.defaultNotation else text

/-- Carry out a command. -/
def Command.perform
    [RandomSource σ]
    (settings : Settings) : Command → Play σ Product
  | .roll text times seed json => do
      let text := rolledText settings text
      return .text (← (rollOperation text times seed json).supervise
        (rollText settings.limits text times seed json))
  | .describe text short => do
      return .text (← (describeOperation text short).supervise
        (describeText text short))
  | .serve host port => do return .service (← startService host port)

/-! ## Runs -/

/-- The report of a command that gave something or failed. -/
def Report.ofOutcome
    (heard : List Log.Record) : Except Fault Product → Report
  | .ok (.text text) =>
      { ending := .exit 0, output := text ++ "\n", errors := "", heard
        served := [] }
  | .ok (.service service) =>
      { ending := .exit 0, output := "", errors := "", heard, served := [service] }
  | .error fault =>
      if fault.isDice then
        { ending := .exit 2, output := ""
          errors := "error: " ++ fault.wording ++ "\n", heard, served := [] }
      else
        { ending := .escape fault, output := "", errors := "", heard, served := [] }

/-- The level that an invocation logs at: that of the environment, or everything
if that is asked for, or that of the settings. -/
def Invocation.level
    (invocation : Invocation)
    (settings : Settings)
    (environment : Option String) : Except Fault Log.Level :=
  let name := Log.effectiveLevel environment
    (if invocation.debug then "DEBUG" else settings.logLevel)
  match Log.Level.ofName? name with
  | some level => .ok level
  | none => .error (.unknownLevel name)

/-- The level that is set up for an invocation: a wrong level is found before a wrong
path of the log files. -/
def Invocation.setup
    (invocation : Invocation)
    (settings : Settings)
    (environment : Option String) : Except Fault Log.Level := do
  let level ← invocation.level settings environment
  match settings.logPath.bind Log.directoryFault? with
  | some fault => throw fault
  | none => return level

/-- Set up the log and carry out an invocation. -/
def Invocation.perform
    [RandomSource σ]
    (settings : Settings)
    (environment : Option String)
    (table : Table σ)
    (invocation : Invocation) : Report × Table σ :=
  match invocation.setup settings environment with
  | .error fault => (Report.of (.escape fault) "", table)
  | .ok level =>
      let before := table.records.size
      let (outcome, table) := (invocation.command.perform settings).run table
      let listener : Log.Listener := { threshold := some level, enabled := true }
      let written := (table.records.extract before).toList
      (Report.ofOutcome (listener.heard written) outcome, table)

/-- Run the program with its arguments, its settings, and the level that the
environment asks for. -/
def run
    [RandomSource σ]
    (settings : Settings)
    (environment : Option String)
    (arguments : List String)
    (table : Table σ) : Report × Table σ :=
  match Invocation.read settings arguments with
  | .error .help => (Report.of (.exit 0) "", table)
  | .error stop => (Report.of (.exit 2) stop.report, table)
  | .ok invocation => invocation.perform settings environment table

end CommandLine
end Tabletop
