import BundleAtlas.Bundle.Unit
import BundleAtlas.Pattern.Match
import BundleAtlas.Pattern.Reader
import BundleAtlas.Text.Piece

/-!
Searching the units of a bundle for a text or for a pattern.
-/

namespace BundleAtlas

/-- A message about a position in a pattern; a pattern of several lines also has the line. -/
def PatternError.describe (pattern message : String) (position : Nat) : String :=
  let before := pattern.toList.take position
  let base := message ++ " at position " ++ toString position
  if pattern.toList.contains '\n' then
    base ++ " (line " ++ toString (before.count '\n' + 1) ++ ", column " ++
      toString ((before.reverse.takeWhile (· != '\n')).length + 1) ++ ")"
  else base

/-- The fault of a text that is no pattern. -/
def PatternError.fault (pattern : String) : PatternError → Fault
  | located message position =>
    Failure.invalidPattern pattern (describe pattern message position)
  | whole message => Failure.invalidPattern pattern message
  | tooLarge => .overflow "the repetition number is too large"
  | tooLong digits => .badValue (Text.NumeralError.message 10 [] (.tooLong digits))
  | tooDeep message => .exhausted message
  | incompatible => .badValue "ASCII and UNICODE flags are incompatible"

/-- What makes a text match a query: the query occurs in it, or the pattern that it stands for. -/
def matcher (reader : PatternReader) (query : String) (isPattern : Bool) :
    Except Fault (String → Bool) :=
  if isPattern then
    match Pattern.ofText reader query with
    | .ok p => .ok p.occursIn
    | .error e => .error (e.fault query)
  else .ok (Text.occursIn query)

/-- The first units that match, at most `room` of them. -/
def searchFrom (matching : String → Bool) : Nat → List Piece → List Piece
  | 0, _ => []
  | _, [] => []
  | room + 1, u :: us =>
    if matching u.text then u :: searchFrom matching room us
    else searchFrom matching (room + 1) us

/-- The units of a bundle that match a query, at most `limit` of them. -/
def searchUnits (reader : PatternReader) (s : Snapshot) (query : String) (isPattern : Bool)
    (limit : Int) : Except Fault (List Piece) := do
  let matching ← matcher reader query isPattern
  return searchFrom matching limit.toNat s.units

end BundleAtlas
