import Tabletop.CommandLine.Reading
import Tabletop.Settings

/-!
# Invocations of the program

The program is invoked with a command: to roll, to describe, or to serve.  Each
command has a grammar of its own for the arguments after its name.  Arguments that
fit nowhere, before the command or after it, are refused together.
-/

namespace Tabletop
namespace CommandLine

/-- What the program is told to do. -/
inductive Command
  /-- Roll a notation, or the standard one. -/
  | roll (text : Option String) (times : Supplied Int) (seed : Option (Supplied Int))
      (json : Bool)
  /-- Describe a notation. -/
  | describe (text : String) (short : Bool)
  /-- Serve requests. -/
  | serve (host : Supplied String) (port : Supplied Int)
  deriving DecidableEq

/-- An invocation of the program. -/
structure Invocation where
  /-- Whether everything is to be logged. -/
  debug : Bool
  /-- What to do. -/
  command : Command
  deriving DecidableEq

/-- The name of the program. -/
def programName : String :=
  "miniroll"

/-- The switch that asks for help. -/
def helpSwitch : Switch ε :=
  { spellings := ["-h", "--help"], action := .help }

/-! ## The program itself -/

/-- The setting of a switch before the command. -/
inductive GlobalSetting
  | debug

/-- The arguments of the program. -/
def globalGrammar : Grammar GlobalSetting :=
  { program := programName
    switches := [
      helpSwitch,
      { spellings := ["--debug", "-d"], action := .flag .debug }]
    operand := .command "command" ["roll", "describe", "serve"] }

/-! ## Rolling -/

/-- The setting of a switch of the command that rolls. -/
inductive RollSetting
  | times (number : Supplied Int)
  | seed (number : Supplied Int)
  | json

/-- The arguments of the command that rolls. -/
def rollGrammar : Grammar RollSetting :=
  { program := programName ++ " roll"
    switches := [
      helpSwitch,
      { spellings := ["--times", "-t"], action := .number .times },
      { spellings := ["--seed"], action := .number .seed },
      { spellings := ["--json"], action := .flag .json }]
    operand := .optional }

/-- A command to roll after one more setting. -/
def Command.withRollSetting (command : Command) : RollSetting → Command
  | .times number =>
      match command with
      | .roll text _ seed json => .roll text number seed json
      | other => other
  | .seed number =>
      match command with
      | .roll text times _ json => .roll text times (some number) json
      | other => other
  | .json =>
      match command with
      | .roll text times seed _ => .roll text times seed true
      | other => other

/-- The command to roll that a reading stands for. -/
def Reading.rollCommand (reading : Reading RollSetting) : Command :=
  reading.settings.foldl Command.withRollSetting
    (.roll reading.operand (.value 1) none false)

/-! ## Describing -/

/-- The setting of a switch of the command that describes. -/
inductive DescribeSetting
  | short

/-- The arguments of the command that describes. -/
def describeGrammar : Grammar DescribeSetting :=
  { program := programName ++ " describe"
    switches := [
      helpSwitch,
      { spellings := ["--short", "-s"], action := .flag .short }]
    operand := .required "notation" }

/-- The command to describe that a reading stands for. -/
def Reading.describeCommand (reading : Reading DescribeSetting) : Command :=
  .describe (reading.operand.getD "") (!reading.settings.isEmpty)

/-! ## Serving -/

/-- The setting of a switch of the command that serves. -/
inductive ServeSetting
  | host (name : Supplied String)
  | port (number : Supplied Int)

/-- The arguments of the command that serves. -/
def serveGrammar : Grammar ServeSetting :=
  { program := programName ++ " serve"
    switches := [
      helpSwitch,
      { spellings := ["--host"], action := .text .host },
      { spellings := ["--port"], action := .number .port }]
    operand := .none }

/-- A command to serve after one more setting. -/
def Command.withServeSetting (command : Command) : ServeSetting → Command
  | .host name =>
      match command with
      | .serve _ port => .serve name port
      | other => other
  | .port number =>
      match command with
      | .serve host _ => .serve host number
      | other => other

/-- The command to serve that a reading stands for. -/
def Reading.serveCommand
    (settings : Settings)
    (reading : Reading ServeSetting) : Command :=
  reading.settings.foldl Command.withServeSetting
    (.serve (.value settings.webHost) (.value settings.webPort))

/-! ## Invocations -/

/-- The command of a name with its arguments, and the arguments that fit
nowhere. -/
def readCommand
    (settings : Settings)
    (name : String)
    (arguments : List String) : Except Stop (Command × List String) := do
  if name = "roll" then
    let reading ← rollGrammar.read arguments
    return (reading.rollCommand, reading.extras)
  else if name = "describe" then
    let reading ← describeGrammar.read arguments
    return (reading.describeCommand, reading.extras)
  else
    let reading ← serveGrammar.read arguments
    return (reading.serveCommand settings, reading.extras)

/-- The invocation that arguments stand for. -/
def Invocation.read
    (settings : Settings)
    (arguments : List String) : Except Stop Invocation := do
  let reading ← globalGrammar.read arguments
  let (command, extras) ←
    readCommand settings (reading.operand.getD "") reading.rest
  let unrecognized := reading.extras ++ extras
  if unrecognized = [] then
    return { debug := !reading.settings.isEmpty, command }
  else
    throw (.misuse programName
      ("unrecognized arguments: " ++ String.intercalate " " unrecognized))

end CommandLine
end Tabletop
