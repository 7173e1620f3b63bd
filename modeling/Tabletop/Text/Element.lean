import Tabletop.Text.Quoted

/-!
# Elements of texts

A text from outside can hold half of a surrogate pair that stands alone, which is no
character.  Such a text is a list of elements.  Halves that stand side by side are no
character either; only the encoding of 16 bits makes one of them.
-/

namespace Tabletop
namespace Text

/-- A character, or half of a surrogate pair that stands alone. -/
inductive Element
  | character (value : Char)
  | half (unit : Nat)
  deriving DecidableEq

/-- Whether a number of 16 bits is the first half of a surrogate pair. -/
def isHighHalf (unit : Nat) : Bool :=
  decide (0xD800 ≤ unit) && decide (unit < 0xDC00)

/-- Whether a number of 16 bits is the second half of a surrogate pair. -/
def isLowHalf (unit : Nat) : Bool :=
  decide (0xDC00 ≤ unit) && decide (unit < 0xE000)

/-- The character that both halves of a pair encode together. -/
def joinedHalves (high low : Nat) : Char :=
  Char.ofNat (0x10000 + (high - 0xD800) * 0x400 + (low - 0xDC00))

namespace Element

/-- The element with a code below the end of the codes. -/
def ofCode (code : Nat) : Element :=
  if isHighHalf code || isLowHalf code then half code
  else character (Char.ofNat code)

/-- Whether an element is a character. -/
def isCharacter : Element → Bool
  | character _ => true
  | half _ => false

/-- The character that an element is. -/
def character? : Element → Option Char
  | character value => some value
  | half _ => none

/-- The characters that show an element: a half that stands alone is shown by its code. -/
def shown : Element → List Char
  | character value => [value]
  | half unit => '\\' :: 'u' :: hexadecimal 4 unit

end Element

/-- The elements of a text that has characters only. -/
def elements (text : String) : List Element :=
  text.toList.map .character

/-- The text of elements that are characters throughout. -/
def ofElements? (elements : List Element) : Option String :=
  (elements.mapM Element.character?).map String.ofList

/-- The elements of a text are the text again. -/
@[simp] theorem ofElements?_elements (text : String) :
    ofElements? (elements text) = some text := by
  have characters (list : List Char) :
      (list.map Element.character).mapM Element.character? = some list := by
    induction list with
    | nil => rfl
    | cons head tail inductionHypothesis =>
        simp [List.mapM_cons, inductionHypothesis, Element.character?]
  simp [ofElements?, elements, characters]

/-- A text of characters that shows elements. -/
def shown (elements : List Element) : String :=
  String.ofList (elements.flatMap Element.shown)

/-- A text that has characters only shows itself. -/
@[simp] theorem shown_elements (text : String) : shown (elements text) = text := by
  simp [shown, elements, List.flatMap_map, Element.shown]

end Text
end Tabletop
