import Tabletop.CommandLine.Grammar
import Tabletop.Text.DecimalDigit

/-!
# Arguments with their roles

Before any argument is taken, all are told apart.  A switch may be shortened as long
as no other is meant, and may have its value attached.  An argument that begins with
a dash is an operand all the same if it is a decimal number or holds a space.  After
a bare double dash everything is an operand.
-/

namespace Tabletop
namespace CommandLine

/-- An argument with its role. -/
inductive Token (ε : Type)
  | operand (written : String)
  /-- The double dash after which everything is an operand. -/
  | divider
  /-- Something that looks like a switch but is none. -/
  | unknown (written : String)
  /-- A switch in the given spelling, perhaps with a value attached. -/
  | switch (written : String) (switch : Switch ε) (spelling : String)
      (attached : Option String)

/-- The argument as written. -/
def Token.written : Token ε → String
  | operand written => written
  | divider => "--"
  | unknown written => written
  | switch written _ _ _ => written

/-- Whether an argument is a switch or looks like one. -/
def Token.isSwitch : Token ε → Bool
  | operand _ => false
  | divider => false
  | unknown _ => true
  | switch _ _ _ _ => true

namespace Grammar

/-- A text up to its first equals sign, and the value after it if there is one. -/
def splitEquals (argument : String) : String × Option String :=
  let characters := argument.toList
  (String.ofList (characters.takeWhile (· != '=')),
    match characters.dropWhile (· != '=') with
    | [] => none
    | _ :: value => some (String.ofList value))

/-- Whether a text without its dash is a decimal number: digits, or digits with a
point before the last of them.  A line feed may follow. -/
def isDecimalNumber (characters : List Char) : Bool :=
  let line :=
    if characters.getLast? = some '\n' then characters.dropLast else characters
  let digits := line.takeWhile Text.isDecimal
  match line.dropWhile Text.isDecimal with
  | [] => !digits.isEmpty
  | '.' :: fraction => !fraction.isEmpty && fraction.all Text.isDecimal
  | _ => false

/-- The switches that an argument can mean by shortening or by attaching: with two
dashes every spelling that the text before an equals sign begins, with one dash the
spelling of its first two characters. -/
def candidates (grammar : Grammar ε) (argument : String) :
    List (String × Switch ε × Option String) :=
  match argument.toList with
  | '-' :: '-' :: _ =>
      let (begun, attached) := splitEquals argument
      (grammar.spellings.filter fun entry =>
        begun.toList.isPrefixOf entry.1.toList).map fun entry =>
          (entry.1, entry.2, attached)
  | dash :: letter :: rest =>
      let spelling := String.ofList [dash, letter]
      match grammar.find? spelling with
      | none => []
      | some switch => [(spelling, switch, some (String.ofList rest))]
  | _ => []

/-- The role of an argument that begins with a dash and is longer than that, if it
is not simply the spelling of a switch. -/
def classifyDashed
    (grammar : Grammar ε)
    (argument : String) : Except Stop (Token ε) :=
  let (name, value) := splitEquals argument
  match value, grammar.find? name with
  | some text, some switch =>
      .ok (.switch argument switch name (some text))
  | _, _ =>
      match grammar.candidates argument with
      | [(spelling, switch, attached)] =>
          .ok (.switch argument switch spelling attached)
      | [] =>
          if isDecimalNumber (argument.toList.drop 1) ∨
              argument.toList.contains ' ' then .ok (.operand argument)
          else .ok (.unknown argument)
      | several =>
          .error (.misuse grammar.program
            ("ambiguous option: " ++ argument ++ " could match " ++
              String.intercalate ", " (several.map (·.1))))

/-- The role of an argument before any divider. -/
def classify
    (grammar : Grammar ε)
    (argument : String) : Except Stop (Token ε) :=
  match argument.toList with
  | '-' :: rest =>
      match grammar.find? argument with
      | some switch => .ok (.switch argument switch argument none)
      | none =>
          if rest = [] then .ok (.operand argument)
          else grammar.classifyDashed argument
  | _ => .ok (.operand argument)

/-- The roles of all arguments. -/
def tokens (grammar : Grammar ε) : List String → Except Stop (List (Token ε))
  | [] => .ok []
  | argument :: arguments =>
      if argument = "--" then .ok (.divider :: arguments.map .operand)
      else do
        let token ← grammar.classify argument
        return token :: (← grammar.tokens arguments)

end Grammar
end CommandLine
end Tabletop
