import BundleAtlas.Fault

/-!
The two dialects that documents can be written in, and the names they go by.
-/

namespace BundleAtlas

/-- A dialect: plain scripts, or scripts with types. -/
inductive Dialect where
  | javascript
  | typescript
deriving Repr, DecidableEq, Inhabited

namespace Dialect

/-- The full name of a dialect. -/
def name : Dialect → String
  | javascript => "javascript"
  | typescript => "typescript"

/-- Whether documents of the dialect have types. -/
def isTyped : Dialect → Bool
  | javascript => false
  | typescript => true

/-- The dialect that a name in small letters stands for. -/
def ofKey? : String → Option Dialect
  | "javascript" | "js" | "jsx" => some javascript
  | "typescript" | "ts" | "tsx" => some typescript
  | _ => none

/-- The message about a name that stands for no dialect. -/
def unsupported (name : String) : String := "Unsupported dialect: " ++ name

/-- The dialect of a name in any case; no name, or an empty one, is the plain dialect. -/
def ofName (name : Option String) : Except Fault Dialect :=
  match name with
  | none | some "" => .ok javascript
  | some s => match ofKey? s.toLower with
    | some d => .ok d
    | none => .error (.badValue (unsupported s))

end Dialect

end BundleAtlas
