import Tabletop.Limits
import Tabletop.Path
import Tabletop.Settings.EnvironmentFile
import Tabletop.Validation

/-!
# Settings

Each setting is looked for among given values, then in the environment, then in an
environment file, and has a standard value otherwise.  Names in the environment
begin with a common word, and the letter case of names does not count.  Of several
given values with one name the first counts, and elsewhere the last.
-/

namespace Tabletop

/-- The settings of the program. -/
structure Settings where
  /-- The name of the least important level that is logged. -/
  logLevel : String
  /-- The directory of the log files, if there are any. -/
  logPath : Option String
  /-- When a log file is put aside. -/
  logRotation : String
  /-- How long log files are kept. -/
  logRetention : String
  /-- The notation that is rolled if none is given. -/
  defaultNotation : String
  /-- The largest number of dice on the outer surfaces. -/
  maxDice : AtLeast 1
  /-- The largest number of rolls on the outer surfaces. -/
  maxTimes : AtLeast 1
  /-- The host of the service. -/
  webHost : String
  /-- The port of the service. -/
  webPort : Int

namespace Settings

/-- The settings where nothing is given. -/
def standard : Settings :=
  { logLevel := "INFO"
    logPath := none
    logRotation := "10 MB"
    logRetention := "7 days"
    defaultNotation := "1d100"
    maxDice := ⟨1000, by decide⟩
    maxTimes := ⟨100, by decide⟩
    webHost := "127.0.0.1"
    webPort := 8080 }

/-- The limits that settings put on the outer surfaces. -/
def limits (settings : Settings) : Limits :=
  { dice := settings.maxDice.1, times := settings.maxTimes.1 }

/-- Where settings come from. -/
structure Origin where
  /-- Values given directly. -/
  given : List (String × Json)
  /-- The variables of the environment. -/
  environment : List (String × String)
  /-- The text of the environment file, empty if there is none. -/
  file : String

/-- The word that begins the names of settings in the environment. -/
def namePrefix : String :=
  "miniroll_"

/-- A name in small letters.  The names of settings have none but plain Latin
letters, so that no others matter. -/
def smallLetters (name : String) : String :=
  String.ofList (name.toList.map Char.toLower)

/-- The value of the first entry with a name, whatever its letter case. -/
def firstValue? (name : String) (entries : List (String × α)) : Option α :=
  (entries.find? fun entry => smallLetters entry.1 == name).map (·.2)

/-- The value of the last entry with a name, whatever its letter case. -/
def lastValue? (name : String) (entries : List (String × α)) : Option α :=
  firstValue? name entries.reverse

/-- The value for a setting, if any place has one. -/
def Origin.value (origin : Origin) (name : String) : Option Json :=
  (firstValue? name origin.given).or <|
    ((lastValue? (namePrefix ++ name) origin.environment).map Json.text).or <|
      (lastValue? (namePrefix ++ name)
        (EnvironmentFile.read origin.environment origin.file)).join.map Json.text

/-- A setting checked, with its standard value if there is none. -/
def Origin.field
    (origin : Origin)
    (name : String)
    (standard : α)
    (check : Json → Except Validation.IssueKind α) :
    Except (List Validation.Issue) α :=
  match origin.value name with
  | none => .ok standard
  | some value => Validation.located [name] value (check value)

/-- A path in its normal form, or no path. -/
def checkPath : Json → Except Validation.IssueKind (Option String)
  | .null => .ok none
  | .text path => .ok (some (Path.normal path))
  | _ => .error .pathType

open Validation in
/-- The settings found, or what is wrong with them in the order of the fields. -/
def load (origin : Origin) : Except (List Issue) Settings := do
  let logLevel := origin.field "log_level" standard.logLevel text
  let logPath := origin.field "log_path" standard.logPath checkPath
  let logRotation := origin.field "log_rotation" standard.logRotation text
  let logRetention := origin.field "log_retention" standard.logRetention text
  let defaultNotation :=
    origin.field "default_notation" standard.defaultNotation text
  let maxDice := origin.field "max_dice" standard.maxDice (boundedNumber 1)
  let maxTimes := origin.field "max_times" standard.maxTimes (boundedNumber 1)
  let webHost := origin.field "web_host" standard.webHost text
  let webPort := origin.field "web_port" standard.webPort wholeNumber
  let (logLevel, logPath, logRotation, logRetention, defaultNotation, maxDice,
      maxTimes, webHost, webPort) ←
    both logLevel <| both logPath <| both logRotation <| both logRetention <|
      both defaultNotation <| both maxDice <| both maxTimes <| both webHost webPort
  return {
    logLevel
    logPath
    logRotation
    logRetention
    defaultNotation
    maxDice
    maxTimes
    webHost
    webPort }

/-- Settings as a JSON object. -/
def json (settings : Settings) : Json :=
  .object [
    ("log_level", .text settings.logLevel),
    ("log_path", (settings.logPath.map Json.text).getD .null),
    ("log_rotation", .text settings.logRotation),
    ("log_retention", .text settings.logRetention),
    ("default_notation", .text settings.defaultNotation),
    ("max_dice", .integer settings.maxDice.1),
    ("max_times", .integer settings.maxTimes.1),
    ("web_host", .text settings.webHost),
    ("web_port", .integer settings.webPort)]

end Settings
end Tabletop
