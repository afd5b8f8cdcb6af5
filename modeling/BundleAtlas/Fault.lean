import BundleAtlas.Datum

/-!
What can go wrong. A `Failure` is an answer of the tools: it has a kind, a message for people and
details for programs. A `Fault` is a failure or a request that could not even be carried out.
-/

namespace BundleAtlas

/-- Failures of the tools, by cause. -/
inductive Failure where
  | general (message : String) (details : List (String × Datum))
  | noBundle (message : String)
  | unitNotFound (id : String)
  | symbolNotFound (name : String)
  | invalidPattern (pattern reason : String)
  | missingInput (message : String)
  | inputTooLarge (size limit : Int)
  | sourceNotFound (path : String)
  | sourceUnreadable (path reason : String)
  | parseFailure (reason : String) (line : Option Int)
  | transformError (message : String) (details : List (String × Datum))
  | formatError (message : String) (details : List (String × Datum))
  | unknownTool (name : String)
deriving Repr, Inhabited

namespace Failure

/-- The kind of a failure, by which programs tell failures apart. -/
def kind : Failure → String
  | general .. => "BundleError"
  | noBundle _ => "NoBundle"
  | unitNotFound _ => "UnitNotFound"
  | symbolNotFound _ => "SymbolNotFound"
  | invalidPattern .. => "InvalidPattern"
  | missingInput _ => "MissingInput"
  | inputTooLarge .. => "InputTooLarge"
  | sourceNotFound _ => "SourceNotFound"
  | sourceUnreadable .. => "SourceUnreadable"
  | parseFailure .. => "ParseFailure"
  | transformError .. => "TransformError"
  | formatError .. => "FormatError"
  | unknownTool _ => "UnknownTool"

/-- Whole mebibytes of a size, rounded down. -/
def mebibytes (size : Int) : Int := (size.fdiv 1024).fdiv 1024

/-- The message of a failure. -/
def message : Failure → String
  | general m _ | noBundle m | missingInput m | transformError m _ | formatError m _ => m
  | unitNotFound id => "Module " ++ id ++ " not found."
  | symbolNotFound name => "Symbol '" ++ name ++ "' not found."
  | invalidPattern pattern _ => "Invalid regular expression: " ++ pattern
  | inputTooLarge _ limit => "Input code too large (max " ++ toString (mebibytes limit) ++ "MB)"
  | sourceNotFound path => "File not found: " ++ path
  | sourceUnreadable path _ => "Cannot read file as UTF-8 text: " ++ path
  | parseFailure reason _ => "Failed to parse AST: " ++ reason
  | unknownTool name => "No documentation found for tool: " ++ name

/-- The details of a failure. -/
def details : Failure → List (String × Datum)
  | general _ d | transformError _ d | formatError _ d => d
  | noBundle _ | missingInput _ => []
  | unitNotFound id => [("id", .text id)]
  | symbolNotFound name => [("symbol", .text name)]
  | invalidPattern pattern reason => [("pattern", .text pattern), ("reason", .text reason)]
  | inputTooLarge size limit => [("size", .integer size), ("limit", .integer limit)]
  | sourceNotFound path => [("path", .text path)]
  | sourceUnreadable path reason => [("path", .text path), ("reason", .text reason)]
  | parseFailure _ line => match line with
    | some n => [("line", .integer n)]
    | none => []
  | unknownTool name => [("tool_name", .text name)]

/-- The message when no bundle has been unpacked yet. -/
def noBundleYet : Failure := .noBundle "No bundle found. Run 'deobfuscate' first."

/-- The message when neither a text nor a file is given. -/
def nothingGiven : Failure := .missingInput "Either 'code' or 'file_path' must be provided."

end Failure

/-- A value that a schema refuses: where it stands, the rule it breaks, and why. -/
structure Issue where
  place : List String
  rule : String
  reason : String
deriving Repr, DecidableEq, Inhabited

/-- Why a request has no result. -/
inductive Fault where
  | failure (f : Failure)
  | badValue (message : String)
  | badIndex (message : String)
  | badKey (key : String)
  | overflow (message : String)
  | badCall (message : String)
  | badPadding (message : String)
  | undecodable (message : String)
  /-- more calls inside one another than there is room for -/
  | exhausted (message : String)
  /-- an error of the file system, by its number -/
  | system (number : Nat) (message : String)
  | invalid (issues : List Issue)
deriving Repr, Inhabited

namespace Fault

/-- The text of a fault. -/
def text : Fault → String
  | failure f => f.message
  | badValue m | badIndex m | badKey m | overflow m | badCall m | badPadding m |
    undecodable m | exhausted m | system _ m => m
  | invalid issues => "\n".intercalate (issues.map (·.reason))

end Fault

instance : Coe Failure Fault := ⟨.failure⟩

end BundleAtlas
