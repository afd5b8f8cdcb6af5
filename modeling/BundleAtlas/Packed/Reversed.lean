import BundleAtlas.Fault
import BundleAtlas.Packed.Percent
import BundleAtlas.Pattern.Match
import BundleAtlas.Pattern.Reader

/-!
Texts that hold their code backwards, in base 64, behind a decoder of their own.
-/

namespace BundleAtlas.Packed.Reversed

open Text

/-- The alphabet of the decoder and the names it looks up, as such texts spell them. -/
def signature : List Char :=
  let spell (s : String) : String :=
    String.join (s.toList.map fun c =>
      "\\x" ++ String.ofList ((Nat.toDigits 16 c.toNat).map Char.toUpper))
  let words := ["ABCDEFGHIJKLMNOPQRSTUVWXYZabcdefghijklmnopqrstuvwxyz0123456789+/=", "", "charAt",
    "indexOf", "fromCharCode", "length"]
  ("[" ++ ",".intercalate (words.map fun w => "\"" ++ spell w ++ "\"") ++ "]").toList

/-- Whether a text holds the decoder. -/
def detects (cs : List Char) : Bool := occurs signature cs

/-- What stands before the code that comes out. -/
def warning : String :=
  "//\n// Unpacker warning: be careful when using myobfuscate.com for your projects:\n" ++
  "// scripts obfuscated by the free online version call back home.\n//\n\n"

/-- The value of a character in base 64. -/
def sextet? (b : UInt8) : Option Nat :=
  let n := b.toNat
  if 65 ≤ n && n ≤ 90 then some (n - 65)
  else if 97 ≤ n && n ≤ 122 then some (n - 71)
  else if 48 ≤ n && n ≤ 57 then some (n + 4)
  else if n == 43 then some 62
  else if n == 47 then some 63
  else none

/-- How far a decoder of base 64 is: the place in a group of four, the bits left over, the padding
seen, and the bytes so far, the last one first. -/
structure Decoder where
  place : Nat := 0
  left : Nat := 0
  pads : Nat := 0
  bytes : List UInt8 := []
deriving Repr, Inhabited

/-- The bytes at the end of the input. -/
def Decoder.finish (d : Decoder) : Except Fault (List UInt8) :=
  if d.place == 0 then .ok d.bytes.reverse
  else if d.place == 1 then
    .error (.badPadding ("Invalid base64-encoded string: number of data characters (" ++
      toString (d.bytes.length / 3 * 4 + 1) ++
      ") cannot be 1 more than a multiple of 4"))
  else .error (.badPadding "Incorrect padding")

/-- The decoder behind one more sextet. -/
def Decoder.push (d : Decoder) (v : Nat) : Decoder :=
  match d.place with
  | 0 => { d with place := 1, left := v, pads := 0 }
  | 1 => { d with place := 2, left := v % 16, pads := 0, bytes := (d.left * 4 + v / 16).toUInt8 :: d.bytes }
  | 2 => { d with place := 3, left := v % 4, pads := 0, bytes := (d.left * 16 + v / 4).toUInt8 :: d.bytes }
  | _ => { d with place := 0, left := 0, pads := 0, bytes := (d.left * 64 + v).toUInt8 :: d.bytes }

/-- Decodes base 64. Characters outside the alphabet do not count, and padding that completes a
group ends the input. -/
def decode64 (d : Decoder) : List UInt8 → Except Fault (List UInt8)
  | [] => d.finish
  | b :: bs =>
    if b == 61 then
      if 2 ≤ d.place then
        if 4 ≤ d.place + d.pads + 1 then .ok d.bytes.reverse
        else decode64 { d with pads := d.pads + 1 } bs
      else decode64 d bs
    else match sextet? b with
      | some v => decode64 (d.push v) bs
      | none => decode64 d bs

/-- The name of the variable that holds the code. -/
def holder : Pattern := .fixed "eval\\(\\w+\\(\\w+\\((\\w+)\\)\\)\\);" false

/-- The text that such code writes. -/
def written : Pattern := .fixed "^var _escape='<script>(.*)<\\/script>'" true

/-- The code behind the decoder: nothing, if the text has not the shape. -/
def payload? (text : Array Char) : Option (List Char) := do
  let found ← holder.find? text
  let name := String.ofList (found.group text 1)
  let held ← (Pattern.fixed ("var +" ++ name ++ " *= *'(.*)';") false).find? text
  return held.group text 1

/-- The text of some bytes. -/
def decodeText (bytes : List UInt8) : Except Fault (List Char) :=
  match Utf8.decode bytes with
  | .ok cs => .ok cs
  | .error m => .error (.undecodable m.message)

/-- The code that a payload stands for. -/
def reveal (payload : List Char) : Except Fault (List Char) := do
  let bytes ← decode64 {} (Utf8.encode payload.reverse)
  return Percent.decode (← decodeText bytes)

end BundleAtlas.Packed.Reversed
