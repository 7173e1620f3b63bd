import Tabletop.CommandLine.Token
import Tabletop.CommandLine.WholeNumber
import Tabletop.Text.Quoted

/-!
# Readings of arguments

Arguments are taken from left to right: switches with their values, and the operand
where it is due.  The first mistake ends the reading, as does a switch that asks for
help.  Arguments that fit nowhere are kept for the caller.
-/

namespace Tabletop
namespace CommandLine

/-- What has been taken so far. -/
structure Reading (ε : Type) where
  /-- The settings of the switches, in order. -/
  settings : List ε
  /-- Whether the operand has been taken, or left out for good. -/
  settled : Bool
  /-- The operand, if there is one. -/
  operand : Option String
  /-- The arguments that belong to a command. -/
  rest : List String
  /-- The arguments that fit nowhere. -/
  extras : List String

/-- A reading of nothing. -/
def Reading.empty : Reading ε :=
  { settings := [], settled := false, operand := none, rest := [], extras := [] }

/-- Switches to be carried out in order with what was supplied to them. -/
structure Gathered (ε : Type) where
  /-- The switches with their values; a switch that takes none has a blank. -/
  switches : List (Switch ε × Supplied String)
  /-- Whether the next argument was taken as a value. -/
  takesNext : Bool

/-- Gathered switches with one more before them. -/
def Gathered.after (later : Gathered ε) (switch : Switch ε) : Gathered ε :=
  { later with switches := (switch, .blank) :: later.switches }

/-- What a text in the place of a value supplies: a bare double dash is nothing. -/
def suppliedBy (text : String) : Supplied String :=
  if text = "--" then .blank else .value text

namespace Grammar

/-- A mistake at a switch. -/
def mistake
    (grammar : Grammar ε)
    (switch : Switch ε)
    (message : String) : Stop :=
  .misuse grammar.program ("argument " ++ switch.name ++ ": " ++ message)

/-- A mistake at a switch that takes no value but was given one. -/
def unwanted
    (grammar : Grammar ε)
    (switch : Switch ε)
    (value : String) : Stop :=
  grammar.mistake switch ("ignored explicit argument " ++ Text.quoted value)

/-- A switch without anything attached; if it takes a value, that is the next
argument. -/
def gatherBare
    (grammar : Grammar ε)
    (next : Option String)
    (switch : Switch ε) : Except Stop (Gathered ε) :=
  if switch.action.takesValue then
    match next with
    | some value => .ok { switches := [(switch, .value value)], takesNext := true }
    | none => .error (grammar.mistake switch "expected one argument")
  else .ok { switches := [(switch, .blank)], takesNext := false }

/-- A switch with a text that can only be its value. -/
def gatherGiven
    (grammar : Grammar ε)
    (switch : Switch ε)
    (value : String) : Except Stop (Gathered ε) :=
  if switch.action.takesValue then
    .ok { switches := [(switch, suppliedBy value)], takesNext := false }
  else .error (grammar.unwanted switch value)

/-- A switch of one letter with the characters attached to it: its value, or
further letters. -/
def gatherCluster
    (grammar : Grammar ε)
    (next : Option String)
    (switch : Switch ε) : List Char → Except Stop (Gathered ε)
  | [] => grammar.gatherGiven switch ""
  | character :: characters =>
      let value := String.ofList (character :: characters)
      if switch.action.takesValue then grammar.gatherGiven switch value
      else
        match grammar.find? (String.ofList ['-', character]) with
        | none => .error (grammar.unwanted switch value)
        | some further => do
            let later ←
              match characters with
              | [] => grammar.gatherBare next further
              | _ => grammar.gatherCluster next further characters
            return later.after switch

/-- The switches that a spelling with what is attached stands for.  What is attached
to a spelling of two dashes can only be its value. -/
def gather
    (grammar : Grammar ε)
    (next : Option String)
    (switch : Switch ε)
    (spelling : String) :
    Option String → Except Stop (Gathered ε)
  | none => grammar.gatherBare next switch
  | some attached =>
      if ['-', '-'].isPrefixOf spelling.toList then
        grammar.gatherGiven switch attached
      else grammar.gatherCluster next switch attached.toList

/-- The setting of a switch with what was supplied to it. -/
def carryOut
    (grammar : Grammar ε)
    (switch : Switch ε)
    (supplied : Supplied String) : Except Stop ε :=
  match switch.action, supplied with
  | .help, _ => .error .help
  | .flag setting, _ => .ok setting
  | .text setting, _ => .ok (setting supplied)
  | .number setting, .blank => .ok (setting .blank)
  | .number setting, .value value =>
      match wholeNumber? value with
      | some number => .ok (setting (.value number))
      | none =>
          .error (grammar.mistake switch
            ("invalid int value: " ++ Text.quoted value))

/-- The settings of switches in order. -/
def carryOutAll
    (grammar : Grammar ε) :
    List (Switch ε × Supplied String) → Except Stop (List ε)
  | [] => .ok []
  | (switch, supplied) :: later => do
      let setting ← grammar.carryOut switch supplied
      return setting :: (← grammar.carryOutAll later)

/-- Take a switch; the number tells how many of the arguments after it were taken
as well. -/
def takeSwitch
    (grammar : Grammar ε)
    (reading : Reading ε)
    (later : List (Token ε)) :
    Token ε → Except Stop (Reading ε × Nat)
  | .switch _ switch spelling attached => do
      let next := match later with
        | .operand written :: _ => some written
        | _ => none
      let gathered ← grammar.gather next switch spelling attached
      let settings ← grammar.carryOutAll gathered.switches
      return (
        { reading with settings := reading.settings ++ settings },
        if gathered.takesNext then 1 else 0)
  | token =>
      .ok ({ reading with extras := reading.extras ++ [token.written] }, 0)

/-- The number of dividers at the front of the arguments. -/
def dividers : List (Token ε) → Nat
  | .divider :: later => dividers later + 1
  | _ => 0

/-- The operand at the front of the arguments, with dividers around it, and the
number of arguments that make it up. -/
def operandAt (arguments : List (Token ε)) : Option String × Nat :=
  let before := dividers arguments
  match arguments.drop before with
  | .operand written :: later => (some written, before + 1 + dividers later)
  | _ => (none, before)

/-- Take the operand at the front of the arguments, if it is due; the number tells
how many arguments were taken. -/
def takeOperand
    (grammar : Grammar ε)
    (reading : Reading ε)
    (arguments : List (Token ε)) : Except Stop (Reading ε × Nat) :=
  if reading.settled then .ok (reading, 0)
  else
    let (operand, number) := operandAt arguments
    match grammar.operand with
    | .none => .ok (reading, 0)
    | .optional => .ok ({ reading with settled := true, operand }, number)
    | .required _ =>
        if operand.isSome then
          .ok ({ reading with settled := true, operand }, number)
        else .ok (reading, 0)
    | .command name choices =>
        if operand.isSome then
          match arguments.map Token.written with
          | [] => .ok (reading, 0)
          | word :: rest =>
              if choices.contains word then
                .ok ({ reading with settled := true, operand := some word, rest },
                  arguments.length)
              else
                .error (.misuse grammar.program
                  ("argument " ++ name ++ ": invalid choice: " ++
                    Text.quoted word ++ " (choose from " ++
                    String.intercalate ", " (choices.map Text.quoted) ++ ")"))
        else .ok (reading, 0)

/-- Take what is left when no switch follows: the operand, and what fits
nowhere. -/
def finish
    (grammar : Grammar ε)
    (reading : Reading ε)
    (arguments : List (Token ε)) : Except Stop (Reading ε) := do
  let (reading, number) ← grammar.takeOperand reading arguments
  return { reading with
    extras := reading.extras ++ (arguments.drop number).map Token.written }

/-- Take all arguments from left to right. -/
def take
    (grammar : Grammar ε)
    (reading : Reading ε)
    (arguments : List (Token ε)) : Except Stop (Reading ε) :=
  if arguments.any Token.isSwitch then
    match arguments with
    | [] => .ok reading
    | token :: later => do
        if token.isSwitch then
          let (reading, number) ← grammar.takeSwitch reading later token
          grammar.take reading (later.drop number)
        else
          let (reading, number) ← grammar.takeOperand reading (token :: later)
          if number = 0 then
            grammar.take
              { reading with extras := reading.extras ++ [token.written] } later
          else grammar.take reading (later.drop (number - 1))
  else grammar.finish reading arguments
termination_by arguments.length
decreasing_by all_goals simp only [List.length_drop, List.length_cons]; omega

/-- The name of the operand that must be there. -/
def requiredName : Operand → Option String
  | .none => none
  | .optional => none
  | .required name => some name
  | .command name _ => some name

/-- Read the arguments of a program. -/
def read
    (grammar : Grammar ε)
    (arguments : List String) : Except Stop (Reading ε) := do
  let tokens ← grammar.tokens arguments
  let reading ← grammar.take Reading.empty tokens
  match requiredName grammar.operand with
  | none => return reading
  | some name =>
      if reading.settled then return reading
      else throw (.misuse grammar.program
        ("the following arguments are required: " ++ name))

end Grammar
end CommandLine
end Tabletop
