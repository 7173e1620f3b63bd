import Tabletop.Json.Real

/-!
# Compact JSON

The compact form of a value has no blanks, shows characters beyond ASCII as they
are, and shows each number with a fraction or an exponent by its shortest decimal
number.  Writing stops at the first number that is not finite, or where arrays and
objects are nested too deeply, whichever comes first.
-/

namespace Tabletop
namespace Json

/-- Why a value has no compact form. -/
inductive CompactFault
  /-- A number is not finite. -/
  | notFinite
  /-- Arrays and objects are nested beyond the limit. -/
  | tooDeep
  deriving DecidableEq

/-- The compact form of one element of a text. -/
def compactElement : Text.Element → List Text.Element
  | .character value =>
      match escape? value with
      | some written => written.map .character
      | none => [.character value]
  | .half unit => [.half unit]

/-- The compact form of a text that may be broken. -/
def compactElements (elements : List Text.Element) : List Text.Element :=
  .character '"' :: (elements.flatMap compactElement ++ [.character '"'])

mutual

/-- The compact form of a value in which arrays and objects are nested at most so
deeply. -/
def compact (room : Nat) : Json → Except CompactFault (List Text.Element)
  | null => .ok (Text.elements "null")
  | bool true => .ok (Text.elements "true")
  | bool false => .ok (Text.elements "false")
  | integer value => .ok (Text.elements (Numeral.text value))
  | real literal =>
      match finite? literal with
      | some number => .ok (Text.elements number.text)
      | none => .error .notFinite
  | text value => .ok (compactElements (Text.elements value))
  | brokenText elements => .ok (compactElements elements)
  | array items =>
      match room with
      | 0 => .error .tooDeep
      | room + 1 => do
          return .character '[' :: ((← compactItems room items) ++ [.character ']'])
  | object members =>
      match room with
      | 0 => .error .tooDeep
      | room + 1 => do
          return .character '\x7b' ::
            ((← compactMembers room members) ++ [.character '\x7d'])
  | brokenObject members =>
      match room with
      | 0 => .error .tooDeep
      | room + 1 => do
          return .character '\x7b' ::
            ((← compactBrokenMembers room members) ++ [.character '\x7d'])

/-- The items of an array, separated by commas. -/
def compactItems
    (room : Nat) : List Json → Except CompactFault (List Text.Element)
  | [] => .ok []
  | [item] => compact room item
  | item :: next :: items => do
      return (← compact room item) ++
        .character ',' :: (← compactItems room (next :: items))

/-- The members of an object, separated by commas. -/
def compactMembers
    (room : Nat) : List (String × Json) → Except CompactFault (List Text.Element)
  | [] => .ok []
  | [(name, value)] => do
      return compactElements (Text.elements name) ++
        .character ':' :: (← compact room value)
  | (name, value) :: next :: members => do
      return compactElements (Text.elements name) ++ .character ':' ::
        ((← compact room value) ++
          .character ',' :: (← compactMembers room (next :: members)))

/-- The members of an object with broken names, separated by commas. -/
def compactBrokenMembers
    (room : Nat) :
    List (List Text.Element × Json) → Except CompactFault (List Text.Element)
  | [] => .ok []
  | [(name, value)] => do
      return compactElements name ++ .character ':' :: (← compact room value)
  | (name, value) :: next :: members => do
      return compactElements name ++ .character ':' ::
        ((← compact room value) ++
          .character ',' :: (← compactBrokenMembers room (next :: members)))

end

end Json
end Tabletop
