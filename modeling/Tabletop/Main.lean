import Tabletop.CommandLine

/-!
# The program

The outermost layer: arguments, environment and the settings file are fetched, the
command line is run with a generator of the machine, and what came of it is
printed.  Nothing is decided here.
-/

namespace Tabletop
namespace Main

instance : RandomSource StdGen where
  draw bounds generator :=
    match randNat generator 0 (bounds.high - bounds.low).toNat with
    | (offset, generator) => (.ok (bounds.low + offset), generator)

/-- The names of the variables that settings are looked for under. -/
def variableNames : List String :=
  ["LOG_PATH", "LOG_LEVEL", "LOG_ROTATION", "LOG_RETENTION", "DEFAULT_NOTATION",
   "MAX_DICE", "MAX_TIMES", "WEB_HOST", "WEB_PORT"].map ("MINIROLL_" ++ ·)

/-- The variables of the environment that hold settings. -/
def fetchVariables : IO (List (String × String)) := do
  let found ← variableNames.mapM fun name => do
    return (← IO.getEnv name).map fun value => (name, value)
  return found.filterMap id

/-- The text of the settings file, empty if it cannot be read. -/
def fetchFile : IO String := do
  try IO.FS.readFile ".env" catch _ => return ""

/-- A generator for an invocation: one of its seed, or one of the machine's
choice. -/
def fetchGenerator (settings : Settings) (arguments : List String) : IO StdGen := do
  match CommandLine.Invocation.read settings arguments with
  | .ok { command := .roll _ _ (some (.value seed)) _, .. } =>
      return mkStdGen (2 * seed.natAbs + if seed < 0 then 1 else 0)
  | _ => return mkStdGen (← IO.rand 0 2147483647)

/-- Print what came of a run, and give the exit code. -/
def publish (report : CommandLine.Report) : IO UInt32 := do
  for record in report.heard do
    IO.eprintln (record.level.name ++ " | " ++ record.message)
  IO.eprint report.errors
  IO.print report.output
  match report.ending with
  | .exit code => return code.toUInt32
  | .escape fault =>
      IO.eprintln (fault.kind ++ ": " ++ fault.wording)
      return 1

end Main
end Tabletop

open Tabletop in
/-- Run the command line. -/
def main (arguments : List String) : IO UInt32 := do
  let origin : Settings.Origin := {
    given := []
    environment := ← Main.fetchVariables
    file := ← Main.fetchFile }
  match Settings.load origin with
  | .error issues =>
      for issue in issues do
        IO.eprintln issue.json.render
      return 1
  | .ok settings =>
      let generator ← Main.fetchGenerator settings arguments
      let (report, _) := CommandLine.run settings (← IO.getEnv "LOG_LEVEL")
        arguments (Table.opening generator)
      Main.publish report
