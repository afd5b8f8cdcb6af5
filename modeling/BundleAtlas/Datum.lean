/-!
Data as requests and answers carry it: texts, numbers, lists and records of named values.
-/

namespace BundleAtlas

/-- A value of a request or an answer. -/
inductive Datum where
  | null
  | flag (b : Bool)
  | integer (n : Int)
  /-- a decimal fraction: the mantissa shifted right by some places -/
  | decimal (mantissa : Int) (places : Nat)
  | text (s : String)
  | list (items : List Datum)
  | record (fields : List (String × Datum))
deriving Repr, Inhabited

namespace Datum

/-- A natural number as a value. -/
def count (n : Nat) : Datum := .integer n

/-- The value under a name in a record; other values have none. -/
def get? : Datum → String → Option Datum
  | record fields, name => (fields.find? (·.1 == name)).map (·.2)
  | _, _ => none

/-- A text, or null for none. -/
def ofText? : Option String → Datum
  | some s => .text s
  | none => .null

end Datum

end BundleAtlas
