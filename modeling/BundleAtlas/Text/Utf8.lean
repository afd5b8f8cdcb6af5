/-!
Text from bytes. A malformed sequence is described by how many bytes it takes and by what is wrong
with it.
-/

namespace BundleAtlas.Text.Utf8

/-- What is wrong with a sequence of bytes. -/
inductive Flaw where
  | startByte
  | continuationByte
  | endOfData
deriving Repr, DecidableEq, Inhabited

/-- The words for a flaw. -/
def Flaw.message : Flaw → String
  | startByte => "invalid start byte"
  | continuationByte => "invalid continuation byte"
  | endOfData => "unexpected end of data"

/-- What stands at the start of some bytes: a character, or a flaw and the number of bytes it
takes. -/
inductive Step where
  | char (c : Char) (length : Nat)
  | flaw (f : Flaw) (length : Nat)
deriving Repr, Inhabited

/-- Bytes that continue a sequence. -/
def continues (b : UInt8) : Bool := 0x80 ≤ b && b < 0xc0

/-- The low bits of a continuation byte. -/
def low (b : UInt8) : Nat := b.toNat % 64

/-- Whether the second byte of a longer sequence fits its first: no overlong forms, no surrogates,
nothing beyond the last code point. -/
def second (a b : UInt8) : Bool :=
  continues b && !(a == 0xe0 && b < 0xa0) && !(a == 0xed && 0xa0 ≤ b) &&
    !(a == 0xf0 && b < 0x90) && !(a == 0xf4 && 0x90 ≤ b)

/-- Reads the rest of a sequence of three bytes. -/
def three (a : UInt8) : List UInt8 → Step
  | [] => .flaw .endOfData 1
  | [b] => if second a b then .flaw .endOfData 2 else .flaw .continuationByte 1
  | b :: c :: _ =>
    if !second a b then .flaw .continuationByte 1
    else if !continues c then .flaw .continuationByte 2
    else .char (Char.ofNat ((a.toNat % 16) * 4096 + low b * 64 + low c)) 3

/-- Reads the rest of a sequence of four bytes. -/
def four (a : UInt8) : List UInt8 → Step
  | [] => .flaw .endOfData 1
  | [b] => if second a b then .flaw .endOfData 2 else .flaw .continuationByte 1
  | [b, c] =>
    if !second a b then .flaw .continuationByte 1
    else if !continues c then .flaw .continuationByte 2
    else .flaw .endOfData 3
  | b :: c :: d :: _ =>
    if !second a b then .flaw .continuationByte 1
    else if !continues c then .flaw .continuationByte 2
    else if !continues d then .flaw .continuationByte 3
    else .char (Char.ofNat ((a.toNat % 8) * 262144 + low b * 4096 + low c * 64 + low d)) 4

/-- What stands at the start of a byte and those behind it. -/
def step (a : UInt8) (rest : List UInt8) : Step :=
  if a < 0x80 then .char (Char.ofNat a.toNat) 1
  else if a < 0xc2 then .flaw .startByte 1
  else if a < 0xe0 then
    match rest with
    | [] => .flaw .endOfData 1
    | b :: _ =>
      if continues b then .char (Char.ofNat ((a.toNat % 32) * 64 + low b)) 2
      else .flaw .continuationByte 1
  else if a < 0xf0 then three a rest
  else if a < 0xf5 then four a rest
  else .flaw .startByte 1

/-- A malformed sequence: where it starts, how many bytes it takes, and what is wrong. -/
structure Malformed where
  position : Nat
  length : Nat
  flaw : Flaw
  first : UInt8
deriving Repr, DecidableEq, Inhabited

/-- Decodes bytes up to the first malformed sequence. The number bounds the steps. -/
def decodeFrom : Nat → Nat → List UInt8 → Except Malformed (List Char)
  | 0, _, _ => .ok []
  | _, _, [] => .ok []
  | steps + 1, i, a :: rest => match step a rest with
    | .char c n => (decodeFrom steps (i + n) (rest.drop (n - 1))).map (c :: ·)
    | .flaw f n => .error ⟨i, n, f, a⟩

/-- The text of some bytes, or the first malformed sequence. -/
def decode (bytes : List UInt8) : Except Malformed (List Char) := decodeFrom bytes.length 0 bytes

/-- The message about a malformed sequence. -/
def Malformed.message (m : Malformed) : String :=
  let hex := Nat.toDigits 16 m.first.toNat
  if m.length == 1 then
    "'utf-8' codec can't decode byte 0x" ++
      String.ofList (List.replicate (2 - hex.length) '0' ++ hex) ++ " in position " ++
      toString m.position ++ ": " ++ m.flaw.message
  else
    "'utf-8' codec can't decode bytes in position " ++ toString m.position ++ "-" ++
      toString (m.position + m.length - 1) ++ ": " ++ m.flaw.message

/-- Decodes bytes with a replacement character for every malformed sequence. -/
def decodeLossyFrom : Nat → List UInt8 → List Char
  | 0, _ => []
  | _, [] => []
  | steps + 1, a :: rest => match step a rest with
    | .char c n => c :: decodeLossyFrom steps (rest.drop (n - 1))
    | .flaw _ n => '\ufffd' :: decodeLossyFrom steps (rest.drop (n - 1))

/-- The text of some bytes, with replacement characters where they are malformed. -/
def decodeLossy (bytes : List UInt8) : List Char := decodeLossyFrom bytes.length bytes

/-- The bytes of a text. -/
def encode (cs : List Char) : List UInt8 := (String.ofList cs).toUTF8.toList

end BundleAtlas.Text.Utf8
