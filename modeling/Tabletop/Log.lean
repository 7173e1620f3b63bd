/-!
# Journal records

What happens at a table is written down as records, each with a level.  A
listener sees the records at or above its level, and none while listening is
switched off.  Who listens never changes what is written.
-/

namespace Tabletop
namespace Log

/-- How important a record is. -/
inductive Level
  | trace
  | debug
  | info
  | success
  | warning
  | error
  | critical
  deriving DecidableEq

namespace Level

/-- All levels, least important first. -/
def all : List Level :=
  [trace, debug, info, success, warning, error, critical]

/-- The name of a level. -/
def name : Level → String
  | trace => "TRACE"
  | debug => "DEBUG"
  | info => "INFO"
  | success => "SUCCESS"
  | warning => "WARNING"
  | error => "ERROR"
  | critical => "CRITICAL"

/-- The rank of a level. -/
def severity : Level → Nat
  | trace => 5
  | debug => 10
  | info => 20
  | success => 25
  | warning => 30
  | error => 40
  | critical => 50

/-- The level with the given name, in capitals. -/
def ofName? (word : String) : Option Level :=
  all.find? fun level => level.name == word

end Level

/-- One entry of the journal. -/
structure Record where
  /-- The level of the entry. -/
  level : Level
  /-- The name under which the entry was written, if the writer has one. -/
  origin : Option String
  /-- The text of the entry. -/
  message : String
  deriving DecidableEq

/-- A record at the debug level without an origin. -/
def Record.debug (message : String) : Record :=
  { level := .debug, origin := none, message }

/-- Someone who may read the journal. -/
structure Listener where
  /-- The least important level that is heard; none if nobody listens. -/
  threshold : Option Level
  /-- Whether listening is switched on. -/
  enabled : Bool

/-- Whether a listener hears a record. -/
def Listener.hears (listener : Listener) (record : Record) : Bool :=
  match listener.threshold with
  | none => false
  | some threshold =>
      listener.enabled && decide (threshold.severity ≤ record.level.severity)

/-- The records that a listener hears, in order. -/
def Listener.heard (listener : Listener) (records : List Record) : List Record :=
  records.filter listener.hears

/-- The fields that a writer adds to its records: its name, unless that is empty
or missing. -/
def boundFields (name : Option String) : List (String × String) :=
  match name with
  | none => []
  | some name => if name = "" then [] else [("name", name)]

end Log
end Tabletop
