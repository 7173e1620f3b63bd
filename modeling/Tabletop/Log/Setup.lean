import Tabletop.Fault
import Tabletop.Json
import Tabletop.Path
import Tabletop.Text.Uppercase

/-!
# Setting up the log

Setting up removes every sink, switches the records of the program on, and adds
sinks: one on the console, and two in files, one for everything and one for errors.
The level of the environment overrides the level that is asked for.  A path that no
directory can have is a fault.
-/

namespace Tabletop
namespace Log

/-- How the records of a sink are laid out. -/
inductive Layout
  /-- With colours, for a console. -/
  | console
  /-- As plain text, for a file. -/
  | plain

/-- A place where records go. -/
structure Sink where
  /-- The stream, or the pattern for the names of the files. -/
  destination : String
  /-- The name of the least important level that goes there. -/
  level : String
  /-- How the records are laid out. -/
  layout : Layout
  /-- Further options by name. -/
  options : List (String × Json)

/-- One step of setting up. -/
inductive SetupCall
  /-- Remove every sink. -/
  | removeAll
  /-- Switch the records of a package on. -/
  | enable (package : String)
  /-- Add a sink. -/
  | add (sink : Sink)

/-- What a set-up is asked for. -/
structure SetupRequest where
  /-- The level of the console. -/
  level : String
  /-- The directory of the log files, if there are to be any. -/
  path : Option String
  /-- When a file is put aside. -/
  rotation : String
  /-- How long files are kept. -/
  retention : String
  /-- Whether there is to be a console. -/
  console : Bool
  /-- Whether there are to be files. -/
  files : Bool

/-- The name of the program's records. -/
def packageName : String :=
  "miniroll"

/-- The level that a set-up uses: that of the environment if it has one, else the
one asked for, in capitals. -/
def effectiveLevel (environment : Option String) (level : String) : String :=
  Text.uppercase (environment.getD level)

/-- The sink on the console. -/
def consoleSink (level : String) : Sink :=
  { destination := "stderr"
    level
    layout := .console
    options := [
      ("colorize", .bool true),
      ("backtrace", .bool true),
      ("diagnose", .bool false)] }

/-- A sink in files whose names begin with the given word. -/
def fileSink
    (request : SetupRequest)
    (directory word level : String) : Sink :=
  { destination := Path.child directory (word ++ "_\x7btime:YYYY-MM-DD\x7d.log")
    level
    layout := .plain
    options := [
      ("rotation", .text request.rotation),
      ("retention", .text request.retention),
      ("compression", .text "zip"),
      ("encoding", .text "utf-8")] }

/-- The directory of the log files, if there are to be any; an empty path is
none. -/
def SetupRequest.directory (request : SetupRequest) : Option String :=
  match request.path with
  | none => none
  | some path => if request.files ∧ path ≠ "" then some path else none

/-- The steps of a set-up in order. -/
def SetupRequest.calls
    (request : SetupRequest)
    (environment : Option String) : List SetupCall :=
  [.removeAll, .enable packageName] ++
    (if request.console then
      [.add (consoleSink (effectiveLevel environment request.level))]
    else []) ++
    match request.directory with
    | none => []
    | some directory =>
        [.add (fileSink request directory packageName "DEBUG"),
         .add (fileSink request directory "error" "ERROR")]

/-- The directories that a set-up makes, below the start. -/
def SetupRequest.directories (request : SetupRequest) : List String :=
  match request.directory with
  | none => []
  | some directory => Path.directories directory

/-! ## Paths of directories -/

/-- The most bytes in the name of a directory. -/
def nameLimit : Nat :=
  255

/-- A path has fewer bytes than this. -/
def pathLimit : Nat :=
  4096

/-- The most directories that are made one in another. -/
def nestingLimit : Nat :=
  988

/-- The parts of a path from the first on that may have to be made; those that lead
above the start are there already. -/
def partsToMake (path : String) : List String :=
  (Path.parts path).dropWhile (· == "..")

/-- Why no directory can be made at a path, if so. -/
def directoryFault? (path : String) : Option Fault :=
  if path.toList.contains '\x00' then some .nullInPath
  else if pathLimit ≤ (Path.normal path).utf8ByteSize ∨
      (Path.parts path).any (nameLimit < ·.utf8ByteSize) then
    some (.pathTooLong (Path.normal path))
  else if nestingLimit < (partsToMake path).length then some .nestedTooDeeply
  else none

/-- Why a set-up fails, if it does. -/
def SetupRequest.fault? (request : SetupRequest) : Option Fault :=
  request.directory.bind directoryFault?

end Log
end Tabletop
