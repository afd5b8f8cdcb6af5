/-!
Pieces of texts: where a text occurs in another one, cuts, and replacements.
-/

namespace BundleAtlas.Text

/-- Whether some characters occur in a row among others. -/
def occurs (piece : List Char) : List Char → Bool
  | [] => piece.isEmpty
  | c :: cs => piece.isPrefixOf (c :: cs) || occurs piece cs

/-- Whether a text occurs in another one. -/
def occursIn (piece whole : String) : Bool := occurs piece.toList whole.toList

/-- The first `n` items; a negative `n` leaves off items at the end. -/
def slice {α : Type} (n : Int) (xs : List α) : List α :=
  if n < 0 then xs.take (xs.length - n.natAbs) else xs.take n.toNat

/-- A text without its first and last character. -/
def inner (s : String) : String := String.ofList (s.toList.drop 1).dropLast

/-- Replaces every occurrence of a piece, from left to right. The number bounds the steps. -/
def replaceFrom (piece new : List Char) : Nat → List Char → List Char
  | 0, cs => cs
  | _, [] => []
  | steps + 1, c :: cs =>
    if piece.isPrefixOf (c :: cs) then new ++ replaceFrom piece new steps ((c :: cs).drop piece.length)
    else c :: replaceFrom piece new steps cs

/-- Replaces every occurrence of a piece that is not empty. -/
def replace (piece new cs : List Char) : List Char :=
  if piece.isEmpty then cs else replaceFrom piece new cs.length cs

/-- What stands before and behind the first occurrence of a piece. -/
def cut? (piece : List Char) : List Char → Option (List Char × List Char)
  | [] => if piece.isEmpty then some ([], []) else none
  | c :: cs =>
    if piece.isPrefixOf (c :: cs) then some ([], (c :: cs).drop piece.length)
    else (cut? piece cs).map fun (a, b) => (c :: a, b)

/-- The parts between the occurrences of a piece. The number bounds the steps. -/
def splitFrom (piece : List Char) : Nat → List Char → List (List Char)
  | 0, cs => [cs]
  | steps + 1, cs => match cut? piece cs with
    | some (a, b) => a :: splitFrom piece steps b
    | none => [cs]

/-- The parts between the occurrences of a piece that is not empty. -/
def split (piece cs : List Char) : List (List Char) := splitFrom piece (cs.length + 1) cs

/-- Items without repetitions, each at its first position. -/
def distinct {α : Type} [DecidableEq α] : List α → List α
  | [] => []
  | x :: xs => x :: (distinct xs).filter (· ≠ x)

end BundleAtlas.Text
