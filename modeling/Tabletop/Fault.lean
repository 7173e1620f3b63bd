import Tabletop.Numeral
import Tabletop.Source
import Tabletop.Text.Quoted

/-!
# Faults

A fault is the cause of a failure.  Its kind and its wording are computed from
the cause.  Dice faults are the caller's mistakes: a text that is no notation, a
pool that cannot exist, a request beyond a limit.  The others come from numerals
beyond the digit limit, from the random source and its seed, from the set-up of the
log, or from work that is only supervised here.
-/

namespace Tabletop

/-- Fields of a pool and of its selection. -/
inductive Field
  /-- Whether the selected dice are kept or dropped. -/
  | selectionMode
  /-- The end of the sorted values that a selection takes from. -/
  | selectionEdge
  /-- The number of selected dice. -/
  | selectionCount
  /-- The number of dice. -/
  | diceCount
  /-- The number of sides of each die. -/
  | diceSides
  /-- The selection as a whole. -/
  | selection
  deriving DecidableEq

namespace Field

/-- The name of a field in a message. -/
def name : Field → String
  | selectionMode => "selection mode"
  | selectionEdge => "selection end"
  | selectionCount => "selection count"
  | diceCount => "dice count"
  | diceSides => "dice sides"
  | selection => "selection"

/-- The kind of value that a field takes. -/
def expected : Field → String
  | selectionMode => "a SelectMode"
  | selectionEdge => "a SelectEnd"
  | selectionCount => "an integer"
  | diceCount => "an integer"
  | diceSides => "an integer"
  | selection => "a Selection"

end Field

/-- The cause of a failure. -/
inductive Fault
  /-- The text is no notation. -/
  | badNotation (text : String)
  /-- A field was given a value of another kind, shown as in a message. -/
  | wrongKind (field : Field) (shown : String)
  /-- A field was given a number below its minimum. -/
  | tooSmall (field : Field) (minimum value : Int)
  /-- More dice than the limit. -/
  | tooManyDice (count maximum : Int)
  /-- Fewer than one roll. -/
  | tooFewRolls (times : Int)
  /-- More rolls than the limit. -/
  | tooManyRolls (times maximum : Int)
  /-- A required field was not given at all. -/
  | missingField (field : Field)
  /-- A numeral with so many digits is beyond the limit for reading. -/
  | numeralTooLong (digits : Nat)
  /-- A number is beyond the digit limit for writing. -/
  | numberTooLong
  /-- No log level has this name. -/
  | unknownLevel (name : String)
  /-- The random source failed. -/
  | source (failure : SourceFailure)
  /-- A value to select is not among the values left. -/
  | notAmongRolls (value : Int)
  /-- A number that is not finite cannot be sent. -/
  | notFinite
  /-- Something is nested too deeply. -/
  | nestedTooDeeply
  /-- An answer is nested too deeply to be written. -/
  | tooDeepToWrite
  /-- A text cannot be sent in which halves of surrogate pairs stand alone, the first
  of them this one, from one place to another. -/
  | loneHalves (unit first last : Nat)
  /-- A path holds the character that ends texts for the machine. -/
  | nullInPath
  /-- A path or a part of it is too long for the machine. -/
  | pathTooLong (path : String)
  /-- A number is needed where nothing was supplied. -/
  | blankNumber
  /-- A seed is needed where nothing was supplied. -/
  | blankSeed
  /-- A look-up found nothing under this key. -/
  | missingKey (key : String)
  /-- A failure of supervised work, in its own words. -/
  | foreign (kind wording : String)
  deriving DecidableEq

namespace Fault

/-- The kind of a fault, as named in messages. -/
def kind : Fault → String
  | badNotation _ => "DiceSyntaxError"
  | wrongKind _ _ => "InvalidRollError"
  | tooSmall _ _ _ => "InvalidRollError"
  | tooManyDice _ _ => "LimitExceededError"
  | tooFewRolls _ => "LimitExceededError"
  | tooManyRolls _ _ => "LimitExceededError"
  | missingField _ => "TypeError"
  | numeralTooLong _ => "ValueError"
  | numberTooLong => "ValueError"
  | unknownLevel _ => "ValueError"
  | source failure => failure.kind
  | notAmongRolls _ => "ValueError"
  | notFinite => "ValueError"
  | nestedTooDeeply => "RecursionError"
  | tooDeepToWrite => "RecursionError"
  | loneHalves _ _ _ => "UnicodeEncodeError"
  | nullInPath => "ValueError"
  | pathTooLong _ => "OSError"
  | blankNumber => "TypeError"
  | blankSeed => "TypeError"
  | missingKey _ => "KeyError"
  | foreign kind _ => kind

/-- Faults of the caller's dice, which the outer surfaces answer in words. -/
def isDice : Fault → Bool
  | badNotation _ => true
  | wrongKind _ _ => true
  | tooSmall _ _ _ => true
  | tooManyDice _ _ => true
  | tooFewRolls _ => true
  | tooManyRolls _ _ => true
  | _ => false

/-- The wording of the digit limit, up to what exceeded it. -/
def digitLimitWording : String :=
  "Exceeds the limit (" ++ Numeral.text Numeral.digitLimit ++
    " digits) for integer string conversion"

/-- The advice that ends a message about the digit limit. -/
def digitLimitAdvice : String :=
  "; use sys.set_int_max_str_digits() to increase the limit"

/-- The wording about halves of surrogate pairs: a single one is shown, and of
several the first and the last place. -/
def loneHalvesWording (unit first last : Nat) : String :=
  let found :=
    if first = last then
      " '\\u" ++ String.ofList (Text.hexadecimal 4 unit) ++ "' in position " ++
        Numeral.text first
    else "s in position " ++ Numeral.text first ++ "-" ++ Numeral.text last
  "'utf-8' codec can't encode character" ++ found ++ ": surrogates not allowed"

/-- The wording of a fault; that of a failure without words is empty. -/
def wording : Fault → String
  | badNotation text => "Failed to parse dice notation \"" ++ text ++ "\""
  | wrongKind field shown =>
      field.name ++ " must be " ++ field.expected ++ ", got " ++ shown
  | tooSmall field minimum value =>
      field.name ++ " must be at least " ++ Numeral.text minimum ++
        ", got " ++ Numeral.text value
  | tooManyDice count maximum =>
      "Too many dice: " ++ Numeral.text count ++
        " (max " ++ Numeral.text maximum ++ ")"
  | tooFewRolls times => "times must be at least 1, got " ++ Numeral.text times
  | tooManyRolls times maximum =>
      "Too many rolls: " ++ Numeral.text times ++
        " (max " ++ Numeral.text maximum ++ ")"
  | missingField field => field.name ++ " is required"
  | numeralTooLong digits =>
      digitLimitWording ++ ": value has " ++ Numeral.text digits ++ " digits" ++
        digitLimitAdvice
  | numberTooLong => digitLimitWording ++ digitLimitAdvice
  | unknownLevel name => "Level " ++ Text.quoted name ++ " does not exist"
  | source failure => failure.wording
  | notAmongRolls value => Numeral.text value ++ " is not in list"
  | notFinite => "Out of range float values are not JSON compliant"
  | nestedTooDeeply => "maximum recursion depth exceeded"
  | tooDeepToWrite =>
      "maximum recursion depth exceeded while encoding a JSON object"
  | loneHalves unit first last => loneHalvesWording unit first last
  | nullInPath => "embedded null byte"
  | pathTooLong path => "[Errno 36] File name too long: " ++ Text.quoted path
  | blankNumber => "'<' not supported between instances of 'list' and 'int'"
  | blankSeed =>
      "The only supported seed types are: None,\nint, float, str, bytes, and bytearray."
  | missingKey key => Text.quoted key
  | foreign _ wording => wording

/-- The words of a fault, or the fault that is met when they are asked for. -/
def words : Fault → Except Fault (List Text.Element)
  | source failure => failure.words.mapError source
  | fault => .ok (Text.elements fault.wording)

/-- The words of a fault as they stand in a record. -/
def written (fault : Fault) : Except Fault String :=
  fault.words.map Text.shown

/-- The words of a fault as a text that can be sent: none if there are no words, or if half
of a surrogate pair stands alone in them. -/
def said? (fault : Fault) : Option String :=
  match fault.words with
  | .ok words => Text.ofElements? words
  | .error _ => none

/-- The numbers that the wording of a fault holds in full. -/
def numbers : Fault → List Int
  | tooSmall _ minimum value => [minimum, value]
  | tooManyDice count maximum => [count, maximum]
  | tooFewRolls times => [times]
  | tooManyRolls times maximum => [times, maximum]
  | _ => []

/-- The fault that is raised for a cause: a cause whose wording needs a number
beyond the digit limit cannot be put into words, and that is what is raised. -/
def raised (fault : Fault) : Fault :=
  if ∀ number ∈ fault.numbers, Numeral.Writable number then fault
  else numberTooLong

end Fault

namespace Numeral

/-- The number denoted by a list of digits; too many digits are a fault. -/
def read (digits : List Char) : Except Fault Nat :=
  match read? digits with
  | some number => .ok number
  | none => .error (.numeralTooLong digits.length)

/-- The text of a number; too many digits are a fault. -/
def write (number : Int) : Except Fault String :=
  match text? number with
  | some text => .ok text
  | none => .error .numberTooLong

end Numeral
end Tabletop
