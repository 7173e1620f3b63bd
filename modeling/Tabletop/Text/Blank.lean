/-!
# Blank characters

Three classes of blank characters occur: those a notation tolerates around
itself, those cut from a text before it is shown, and those ignored around a
number in a form field.  They overlap but differ at U+0085, at the separators
U+001C to U+001F, and at U+FEFF.
-/

namespace Tabletop
namespace Text

/-- Membership in a list of inclusive ranges of code points. -/
def inRanges (ranges : List (Nat × Nat)) (character : Char) : Bool :=
  ranges.any fun range =>
    decide (range.1 ≤ character.toNat) && decide (character.toNat ≤ range.2)

/-- Blanks of every class: the control blanks, the space, and the space
separators and line separators beyond Latin. -/
def commonBlankRanges : List (Nat × Nat) :=
  [(0x09, 0x0D), (0x20, 0x20), (0xA0, 0xA0), (0x1680, 0x1680),
   (0x2000, 0x200A), (0x2028, 0x2029), (0x202F, 0x202F),
   (0x205F, 0x205F), (0x3000, 0x3000)]

/-- Blanks tolerated before and after a notation: the common blanks and the
zero width no-break space U+FEFF. -/
def isTolerated (character : Char) : Bool :=
  inRanges (commonBlankRanges ++ [(0xFEFF, 0xFEFF)]) character

/-- Blanks cut from both ends of a shown text: the common blanks, the
information separators U+001C to U+001F, and the next line control U+0085. -/
def isTrimmed (character : Char) : Bool :=
  inRanges (commonBlankRanges ++ [(0x1C, 0x1F), (0x85, 0x85)]) character

/-- Blanks ignored around a number in a form field: the common blanks and the
next line control U+0085. -/
def isFieldBlank (character : Char) : Bool :=
  inRanges (commonBlankRanges ++ [(0x85, 0x85)]) character

/-- Drop a maximal run of the class from the end of a list. -/
def dropRight (isBlank : Char → Bool) (characters : List Char) : List Char :=
  (characters.reverse.dropWhile isBlank).reverse

/-- Drop maximal runs of the class from both ends of a list. -/
def dropBoth (isBlank : Char → Bool) (characters : List Char) : List Char :=
  dropRight isBlank (characters.dropWhile isBlank)

/-- A text without the trimmed blanks at its ends. -/
def trim (text : String) : String :=
  String.ofList (dropBoth isTrimmed text.toList)

@[simp] theorem toList_trim (text : String) :
    (trim text).toList = dropBoth isTrimmed text.toList := by
  simp [trim]

/-- A text without a byte order mark at its front. -/
def dropMark : List Char → List Char
  | '\uFEFF' :: rest => rest
  | characters => characters

end Text
end Tabletop
