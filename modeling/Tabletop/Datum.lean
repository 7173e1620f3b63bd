import Tabletop.Pool

/-!
# Values of unknown shape

A caller may offer any value where a number or a selection is due, and a journal
entry shows whatever a piece of work was given.  A datum is such a value; it is
shown in one line, and only a number beyond the digit limit cannot be shown.
-/

namespace Tabletop

/-- A value whose shape is not known in advance. -/
inductive Datum
  /-- The absence of a value, offered on purpose. -/
  | nothing
  | truth (value : Bool)
  | integer (value : Int)
  /-- A number with a fraction or an exponent, as written. -/
  | decimal (written : String)
  | text (value : String)
  | sequence (items : List Datum)
  /-- Values under names, in order. -/
  | mapping (entries : List (String × Datum))
  | mode (value : Mode)
  | edge (value : Edge)

namespace Datum

/-- A mode as shown in a message. -/
def shownMode (mode : Mode) : String :=
  let name := match mode with
    | .drop => "DROP"
    | .keep => "KEEP"
  "<SelectMode." ++ name ++ ": " ++ Text.quoted mode.word ++ ">"

/-- An end as shown in a message. -/
def shownEdge (edge : Edge) : String :=
  let name := match edge with
    | .lowest => "LOWEST"
    | .highest => "HIGHEST"
  "<SelectEnd." ++ name ++ ": " ++ Text.quoted edge.word ++ ">"

/-- Shown values separated by commas. -/
def commaSeparated (parts : List String) : String :=
  String.intercalate ", " parts

mutual

/-- A value as shown in a message. -/
def shown : Datum → Except Fault String
  | nothing => .ok "None"
  | truth true => .ok "True"
  | truth false => .ok "False"
  | integer value => Numeral.write value
  | decimal written => .ok written
  | text value => .ok (Text.quoted value)
  | sequence items => do return "[" ++ commaSeparated (← shownItems items) ++ "]"
  | mapping entries => do
      return "\x7b" ++ commaSeparated (← shownEntries entries) ++ "\x7d"
  | mode value => .ok (shownMode value)
  | edge value => .ok (shownEdge value)

/-- The items of a sequence, each as shown. -/
def shownItems : List Datum → Except Fault (List String)
  | [] => .ok []
  | item :: items => do
      let first ← shown item
      return first :: (← shownItems items)

/-- The entries of a mapping, each as shown after its name. -/
def shownEntries : List (String × Datum) → Except Fault (List String)
  | [] => .ok []
  | (name, value) :: entries => do
      let first ← shown value
      return (Text.quoted name ++ ": " ++ first) :: (← shownEntries entries)

end

/-- A row of positional values as shown: a single value is followed by a comma. -/
def shownRow (items : List Datum) : Except Fault String := do
  match ← shownItems items with
  | [only] => return "(" ++ only ++ ",)"
  | parts => return "(" ++ commaSeparated parts ++ ")"

/-- The integer that a value is; truth values are not integers. -/
def asInteger (field : Field) : Datum → Except Fault Int
  | integer value => .ok value
  | other => do throw (.wrongKind field (← other.shown))

/-- The mode that a value is. -/
def asMode : Datum → Except Fault Mode
  | mode value => .ok value
  | other => do throw (.wrongKind .selectionMode (← other.shown))

/-- The end that a value is. -/
def asEdge : Datum → Except Fault Edge
  | edge value => .ok value
  | other => do throw (.wrongKind .selectionEdge (← other.shown))

end Datum
end Tabletop
