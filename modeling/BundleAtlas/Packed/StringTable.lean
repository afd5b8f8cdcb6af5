import BundleAtlas.Fault
import BundleAtlas.Pattern.Match
import BundleAtlas.Pattern.Reader
import BundleAtlas.Text.Piece

/-!
Texts whose strings have been moved into an array at the start.
-/

namespace BundleAtlas.Packed.StringTable

/-- The start of such a text. -/
def opening : Pattern := .fixed "^var _0x[a-f0-9]+ ?= ?\\[" false

/-- The array of strings. -/
def table : Pattern := .fixed "var (_0x[a-f\\d]+) ?= ?\\[(.*?)\\];" false

/-- Whether a text starts with an array of strings. -/
def detects (cs : List Char) : Bool := (opening.find? cs.toArray).isSome

/-- Reads the rest of a string up to its closing quote. A backslash takes the next character with
it. Nothing, if the text ends behind a backslash. -/
def word : List Char → List Char → Option (List Char × List Char)
  | found, [] => some (found.reverse, [])
  | found, '"' :: cs => some (found.reverse, cs)
  | _, ['\\'] => none
  | found, '\\' :: c :: cs => word (c :: '\\' :: found) cs
  | found, c :: cs => word (c :: found) cs

/-- The strings in double quotes, with their quotes; other text is skipped. The number bounds the
steps. -/
def strings : Nat → List Char → Except Fault (List (List Char))
  | 0, _ => .ok []
  | _, [] => .ok []
  | steps + 1, '"' :: cs => match word [] cs with
    | none => .error (.badIndex "string index out of range")
    | some (found, rest) => do
      return ('"' :: found ++ ['"']) :: (← strings steps rest)
  | steps + 1, _ :: cs => strings steps cs

/-- Replaces the uses of an array by its strings, one index after the other. -/
def inline (name : List Char) : Nat → List (List Char) → List Char → List Char
  | _, [], cs => cs
  | i, s :: ss, cs =>
    inline name (i + 1) ss
      (Text.replace (name ++ '[' :: (toString i).toList ++ [']']) s cs)

/-- Puts the strings back into their places. As many characters as the array takes are dropped at
the start of the text. -/
def unpack (cs : List Char) : Except Fault (List Char) := do
  if !detects cs then return cs
  let text := cs.toArray
  match table.find? text with
  | none => return cs
  | some found =>
    let words ← strings (cs.length + 1) (found.group text 2)
    return inline (found.group text 1) 0 words (cs.drop (found.stop - found.start))

end BundleAtlas.Packed.StringTable
