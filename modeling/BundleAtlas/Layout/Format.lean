import BundleAtlas.Layout.Code
import BundleAtlas.Layout.Stylesheet
import BundleAtlas.Packed.Unpacking

/-!
Formatting: code and style sheets in a standard layout. Packed code is unpacked first.
-/

namespace BundleAtlas

/-- The languages that have a layout. -/
inductive Layouter where
  | code
  | stylesheet
deriving Repr, DecidableEq, Inhabited

namespace Layouter

/-- The name by which a layout is asked for. -/
def name : Layouter → String
  | code => "babel"
  | stylesheet => "css"

/-- The layout of a name. -/
def ofName? (n : String) : Option Layouter :=
  [code, stylesheet].find? (·.name == n)

end Layouter

/-- Code before its layout. A text that only looks packed stays as it is. -/
def unpackForLayout (text : String) : Except String String :=
  match Packed.unpack text with
  | .ok code => .ok code
  | .error (.malformed _) => .ok text
  | .error (.fault f) => .error f.text

/-- Lays out a text in one of the languages. -/
def layOutAs (l : Layouter) (width : Nat) (text : String) : Except String String :=
  match l with
  | .stylesheet => .ok (Layout.stylesheet width text)
  | .code => do Layout.code width text (← unpackForLayout text)

/-- Formats a text in the language of a name. -/
def prettyPrint (language : String) (width : Nat) (text : String) : Except Fault String :=
  let details := [("parser", Datum.text language)]
  match Layouter.ofName? language with
  | none => .error (Failure.formatError
      ("Unsupported parser: " ++ language ++ ". Supported parsers: " ++
        ", ".intercalate ([Layouter.code, .stylesheet].map Layouter.name)) details)
  | some l => match layOutAs l width text with
    | .ok s => .ok s
    | .error reason => .error (Failure.formatError ("Failed to format code: " ++ reason) details)

end BundleAtlas
