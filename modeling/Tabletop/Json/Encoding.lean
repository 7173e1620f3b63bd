import Tabletop.Json.Reader
import Tabletop.Text.Blank

/-!
# Encodings of documents

A document arrives as bytes, which are taken in units of 8, 16 or 32 bits.  Since a
document begins with ASCII characters, zero bytes at its front tell the width of the
units and the order of the bytes in each.
-/

namespace Tabletop
namespace Json

/-- How the characters of a document are laid out in bytes. -/
inductive Encoding
  /-- Units of 8 bits. -/
  | narrow
  /-- Units of 16 bits. -/
  | wide (highFirst : Bool)
  /-- Units of 32 bits. -/
  | widest (highFirst : Bool)
  deriving DecidableEq

/-- The encoding that the first bytes of a document tell. -/
def Encoding.ofBytes : List UInt8 → Encoding
  | 0 :: 0 :: _ :: _ :: _ => widest true
  | 0 :: _ :: _ :: _ :: _ => wide true
  | _ :: 0 :: 0 :: 0 :: _ => widest false
  | _ :: 0 :: _ :: _ :: _ => wide false
  | [0, _] => wide true
  | [_, 0] => wide false
  | _ => narrow

/-- The number that bytes stand for in the given order. -/
def numberOfBytes (highFirst : Bool) (bytes : List UInt8) : Nat :=
  (if highFirst then bytes else bytes.reverse).foldl
    (fun number byte => number * 256 + byte.toNat) 0

/-- The units of 16 bits that bytes stand for; none if a byte is left over. -/
def wideUnits (highFirst : Bool) : List UInt8 → Option (List Nat)
  | [] => some []
  | first :: second :: rest => do
      let units ← wideUnits highFirst rest
      return numberOfBytes highFirst [first, second] :: units
  | _ => none

/-- The units of 32 bits that bytes stand for; none if bytes are left over. -/
def widestUnits (highFirst : Bool) : List UInt8 → Option (List Nat)
  | [] => some []
  | first :: second :: third :: fourth :: rest => do
      let units ← widestUnits highFirst rest
      return numberOfBytes highFirst [first, second, third, fourth] :: units
  | _ => none

/-- The elements that units of 16 bits stand for: two units that make a surrogate
pair are one character. -/
def joinWideUnits : List Nat → List Text.Element
  | [] => []
  | [unit] => [.ofCode unit]
  | high :: low :: rest =>
      if Text.isHighHalf high && Text.isLowHalf low then
        .character (Text.joinedHalves high low) :: joinWideUnits rest
      else .ofCode high :: joinWideUnits (low :: rest)

/-- The elements that units of 32 bits stand for, if all are below the end of the
codes. -/
def joinWidestUnits (units : List Nat) : Option (List Text.Element) :=
  if units.all (· < 0x110000) then some (units.map .ofCode) else none

/-- The elements of a document whose bytes are those of the given text. -/
def elements? (text : String) : Option (List Text.Element) :=
  let bytes := text.toUTF8.toList
  match Encoding.ofBytes bytes with
  | .narrow => some ((Text.dropMark text.toList).map .character)
  | .wide highFirst => (wideUnits highFirst bytes).map joinWideUnits
  | .widest highFirst => (widestUnits highFirst bytes).bind joinWidestUnits

end Json
end Tabletop
