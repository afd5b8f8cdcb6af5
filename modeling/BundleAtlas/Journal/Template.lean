import BundleAtlas.Datum
import BundleAtlas.Text.Quoted

/-!
Messages with places for values: a percent sign and a letter stand for the next value, two percent
signs for one.
-/

namespace BundleAtlas

namespace Datum

/-- The text of a decimal fraction. -/
def decimalText (mantissa : Int) (places : Nat) : String :=
  let digits := toString mantissa.natAbs
  let padded := String.ofList (List.replicate (places + 1 - digits.length) '0') ++ digits
  let cs := padded.toList
  let whole := String.ofList (cs.take (cs.length - places))
  let part := String.ofList (cs.drop (cs.length - places))
  (if mantissa < 0 then "-" else "") ++ whole ++ "." ++ (if part.isEmpty then "0" else part)

mutual

/-- A value inside a message, texts in quotes. -/
def shown : Datum → String
  | null => "None"
  | flag b => if b then "True" else "False"
  | integer n => toString n
  | decimal m p => decimalText m p
  | text s => Text.quoted s
  | list items => "[" ++ ", ".intercalate (shownItems items) ++ "]"
  | record fields => "\x7b" ++ ", ".intercalate (shownFields fields) ++ "\x7d"

def shownItems : List Datum → List String
  | [] => []
  | d :: ds => shown d :: shownItems ds

def shownFields : List (String × Datum) → List String
  | [] => []
  | (k, d) :: ds => (Text.quoted k ++ ": " ++ shown d) :: shownFields ds

end

/-- A value inside a message; a text stands there as it is. -/
def plain : Datum → String
  | text s => s
  | d => d.shown

end Datum

/-- Fills the places of a message with values. -/
def fill : List Char → List Datum → String
  | '%' :: '%' :: cs, ds => "%" ++ fill cs ds
  | '%' :: c :: cs, d :: ds =>
    if c == 's' || c == 'd' || c == 'i' then d.plain ++ fill cs ds
    else if c == 'r' then d.shown ++ fill cs ds
    else String.ofList ['%', c] ++ fill cs (d :: ds)
  | c :: cs, ds => String.ofList [c] ++ fill cs ds
  | [], _ => ""

/-- A message with its values. A message without values is taken as it is. -/
def fillTemplate (template : String) (values : List Datum) : String :=
  if values.isEmpty then template else fill template.toList values

end BundleAtlas
