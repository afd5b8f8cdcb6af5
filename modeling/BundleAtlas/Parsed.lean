import BundleAtlas.Dialect
import BundleAtlas.Grammar.Script

/-!
Documents with their trees.
-/

namespace BundleAtlas

/-- A document that has been read: its tree and its text. -/
structure Parsed where
  root : Node
  source : Source

/-- A way to read documents. -/
abbrev Parse := String → Except Fault Parsed

/-- The failure at a mark where no token fits. -/
def unexpectedToken (m : Mark) : Failure :=
  .parseFailure ("Unexpected token (" ++ toString (m.row + 1) ++ ":" ++ toString m.column ++ ")")
    (some (m.row + 1 : Nat))

/-- Reads a document of a dialect. -/
def Dialect.parse (d : Dialect) (text : String) : Except Fault Parsed :=
  match readDocument (Grammar.dialect d.isTyped) text.toList with
  | .ok root => .ok ⟨root, .ofString text⟩
  | .error m => .error (unexpectedToken m)

/-- Reads a document of the dialect of a name. -/
def parseSource (dialect : Option String) (text : String) : Except Fault Parsed := do
  let d ← Dialect.ofName dialect
  d.parse text

end BundleAtlas
