import BundleAtlas.Text.Piece

/-!
Names of characters in runs: characters at one distance from each other whose names start with the
same words.
-/

namespace BundleAtlas.Text

/-- A run of names. The names have commas between them and are written without the words that all
of them start with; they belong to the characters from the first one on, each `step` behind the one
before. All names in a run of step zero are names of one character. -/
structure NameRun where
  first : Nat
  step : Nat
  lead : String
  names : List String
deriving Repr, Inhabited

namespace NameRun

/-- The code point of the character with a name, if the run holds the name. -/
def codePoint? (r : NameRun) (name : List Char) : Option Nat :=
  match r.lead.toList.isPrefixOf? name with
  | none => none
  | some rest =>
    ((split [','] (String.join r.names).toList).idxOf? rest).map fun i => r.first + r.step * i

end NameRun

end BundleAtlas.Text
