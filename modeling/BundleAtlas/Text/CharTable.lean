/-!
Sets of characters as sorted ranges of code points, written in hexadecimal.
-/

namespace BundleAtlas.Text

/-- A set of characters: its ranges in order. -/
structure CharTable where
  ranges : Array (Nat × Nat)

namespace CharTable

/-- The value of a hexadecimal digit in small letters. -/
def hexDigit (c : Char) : Nat := if c.isDigit then c.toNat - '0'.toNat else c.toNat - 'a'.toNat + 10

/-- A hexadecimal number. -/
def hex (s : String) : Nat := s.toList.foldl (fun n c => 16 * n + hexDigit c) 0

/-- A range: its ends with a dash between them, or a single code point. -/
def range (s : String) : Nat × Nat :=
  match s.splitOn "-" with
  | [a, b] => (hex a, hex b)
  | _ => (hex s, hex s)

/-- The words of some lines. -/
def words (lines : List String) : List String :=
  (lines.flatMap (·.splitOn " ")).filter (!·.isEmpty)

/-- A table from its lines. -/
def ofLines (lines : List String) : CharTable := ⟨((words lines).map range).toArray⟩

/-- Whether a code point lies in one of the ranges from index `lo` up to index `hi`. -/
def search (t : CharTable) (n lo hi : Nat) : Bool :=
  if lo < hi then
    let mid := (lo + hi) / 2
    match t.ranges[mid]? with
    | none => false
    | some (a, b) =>
      if n < a then search t n lo mid
      else if b < n then search t n (mid + 1) hi
      else true
  else false
termination_by hi - lo

/-- The range that a character is in. -/
def rangeOf? (t : CharTable) (c : Char) : Option (Nat × Nat) :=
  t.ranges.find? fun (a, b) => a ≤ c.toNat && c.toNat ≤ b

/-- Whether a character is in the set. -/
def contains (t : CharTable) (c : Char) : Bool := t.search c.toNat 0 t.ranges.size

end CharTable

end BundleAtlas.Text
