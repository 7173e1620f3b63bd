import Tabletop.Supplied

/-!
# Grammars of arguments

A program takes switches and at most one operand.  A switch has one or more
spellings; it asks for help, adds a setting, or takes a value and makes a setting of
it.  A reading that ends early ends with help or with a mistake.
-/

namespace Tabletop
namespace CommandLine

/-- What a switch does; a setting is what it adds to the reading. -/
inductive Action (ε : Type)
  /-- End the reading with an explanation. -/
  | help
  /-- Add a setting. -/
  | flag (setting : ε)
  /-- Take a whole number. -/
  | number (setting : Supplied Int → ε)
  /-- Take a text. -/
  | text (setting : Supplied String → ε)

/-- Whether a switch takes a value. -/
def Action.takesValue : Action ε → Bool
  | help => false
  | flag _ => false
  | number _ => true
  | text _ => true

/-- A switch with all its spellings. -/
structure Switch (ε : Type) where
  /-- The spellings, in the order in which they are named. -/
  spellings : List String
  /-- What the switch does. -/
  action : Action ε

/-- The name of a switch in a message. -/
def Switch.name (switch : Switch ε) : String :=
  String.intercalate "/" switch.spellings

/-- What is taken besides switches. -/
inductive Operand
  /-- Nothing. -/
  | none
  /-- An operand that may be left out. -/
  | optional
  /-- An operand of the given name that must be there. -/
  | required (name : String)
  /-- The name of a command, and every argument after it. -/
  | command (name : String) (choices : List String)

/-- What a program takes. -/
structure Grammar (ε : Type) where
  /-- The name of the program. -/
  program : String
  /-- The switches. -/
  switches : List (Switch ε)
  /-- What is taken besides switches. -/
  operand : Operand

/-- Why a reading ends early. -/
inductive Stop
  /-- Help was asked for. -/
  | help
  /-- The arguments are wrong. -/
  | misuse (program message : String)
  deriving DecidableEq

/-- The text that reports a stop. -/
def Stop.report : Stop → String
  | help => ""
  | misuse program message => program ++ ": error: " ++ message ++ "\n"

namespace Grammar

/-- All spellings with their switches. -/
def spellings (grammar : Grammar ε) : List (String × Switch ε) :=
  grammar.switches.flatMap fun switch =>
    switch.spellings.map fun spelling => (spelling, switch)

/-- The switch with a spelling. -/
def find? (grammar : Grammar ε) (spelling : String) : Option (Switch ε) :=
  grammar.spellings.lookup spelling

end Grammar
end CommandLine
end Tabletop
