import BundleAtlas.Text.Piece
import BundleAtlas.Text.Utf8

/-!
Texts in which characters are written as percent signs with two hexadecimal digits.
-/

namespace BundleAtlas.Packed.Percent

open Text

/-- Whether a text looks written in percent signs: no space, and an encoded one or many signs. -/
def detects (cs : List Char) : Bool :=
  !cs.contains ' ' && (occurs "%20".toList cs || 3 < cs.count '%')

/-- The value of a hexadecimal digit. -/
def hexValue? (c : Char) : Option Nat :=
  if c.isDigit then some (c.toNat - '0'.toNat)
  else if 'a' ≤ c && c ≤ 'f' then some (c.toNat - 'a'.toNat + 10)
  else if 'A' ≤ c && c ≤ 'F' then some (c.toNat - 'A'.toNat + 10)
  else none

/-- The bytes of ASCII text with percent signs; a sign without two digits stands for itself. -/
def bytes : List Char → List UInt8
  | [] => []
  | '%' :: a :: b :: cs =>
    match hexValue? a, hexValue? b with
    | some x, some y => (16 * x + y).toUInt8 :: bytes cs
    | _, _ => '%'.toUInt8 :: bytes (a :: b :: cs)
  | c :: cs => c.toUInt8 :: bytes cs

/-- Decodes stretches of ASCII between other characters, which stay. `run` holds the stretch at
hand, the last character first. -/
def decodeRuns (run : List Char) : List Char → List Char
  | [] => Utf8.decodeLossy (bytes run.reverse)
  | c :: cs =>
    if c.val < 128 then decodeRuns (c :: run) cs
    else Utf8.decodeLossy (bytes run.reverse) ++ c :: decodeRuns [] cs

/-- The text that percent signs stand for. -/
def decode (cs : List Char) : List Char := if cs.contains '%' then decodeRuns [] cs else cs

/-- The text that percent signs stand for, with plus signs for spaces. -/
def decodePlus (cs : List Char) : List Char := decode (replace ['+'] [' '] cs)

/-- Decodes a text that looks written in percent signs. -/
def unpack (cs : List Char) : List Char := if detects cs then decodePlus cs else cs

end BundleAtlas.Packed.Percent
