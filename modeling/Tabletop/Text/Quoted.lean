import Tabletop.Text.Printable

/-!
# Quoted text

A text is shown in a message between quotation marks, so that its ends and its
invisible characters can be seen.  Single marks are used unless the text has a
single mark and no double one; the chosen mark and the backslash are escaped, and
a character that is not printable is written by its code point.
-/

namespace Tabletop
namespace Text

/-- The lower case hexadecimal digits of a number, padded to a width. -/
def hexadecimal (width value : Nat) : List Char :=
  let digits := Nat.toDigits 16 value
  List.replicate (width - digits.length) '0' ++ digits

/-- A character written by its code point, in the shortest of three widths. -/
def codePointEscape (character : Char) : List Char :=
  if character.toNat < 0x100 then '\\' :: 'x' :: hexadecimal 2 character.toNat
  else if character.toNat < 0x10000 then
    '\\' :: 'u' :: hexadecimal 4 character.toNat
  else '\\' :: 'U' :: hexadecimal 8 character.toNat

/-- The written form of one character between the given marks. -/
def quotedCharacter (mark character : Char) : List Char :=
  if character == mark || character == '\\' then ['\\', character]
  else if character == '\n' then ['\\', 'n']
  else if character == '\r' then ['\\', 'r']
  else if character == '\t' then ['\\', 't']
  else if isPrintable character then [character]
  else codePointEscape character

/-- The mark that needs the fewest escapes, single if both need some. -/
def quotationMark (characters : List Char) : Char :=
  if characters.contains '\'' && !characters.contains '"' then '"' else '\''

/-- A text between quotation marks. -/
def quoted (text : String) : String :=
  let mark := quotationMark text.toList
  String.ofList
    (mark :: (text.toList.flatMap (quotedCharacter mark) ++ [mark]))

end Text
end Tabletop
