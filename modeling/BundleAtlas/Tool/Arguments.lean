import BundleAtlas.Schema.Basic
import BundleAtlas.Tool.Catalog

/-!
The arguments of a request. A tool that is asked for from outside takes values that only look
different from what it expects; a direct call takes them as they are.
-/

namespace BundleAtlas

/-- Values by the names of arguments. -/
abbrev Arguments := List (String × Datum)

namespace ParameterKind

/-- Reads a value by what an argument has to be. -/
def read : ParameterKind → Datum → Schema.Read Datum
  | text, d | textOr _, d => (Schema.text d).map .text
  | optionalText, d => (Schema.optional Schema.text d).map Datum.ofText?
  | flag _, d => (Schema.flag d).map .flag
  | optionalInteger, d => (Schema.optional Schema.integer d).map fun n => match n with
    | some n => .integer n
    | none => .null

/-- What becomes of an argument that is left out. -/
def missing (k : ParameterKind) : Schema.Read Datum :=
  if k.isRequired then .error .missing else .ok k.default

end ParameterKind

namespace Tool

/-- Checks all arguments of a request from outside. Unknown ones are ignored. -/
def check (t : Tool) (given : Datum) : Schema.Checked Arguments :=
  t.parameters.foldr (fun p rest => Schema.both (fun d ds => (p.name, d) :: ds)
    (Schema.field given p.name p.kind.read p.kind.missing) rest) (.ok [])

/-- The names of the given arguments. -/
def givenNames : Datum → List String
  | .record fields => fields.map (·.1)
  | _ => []

/-- The first given argument that a tool does not take. -/
def unexpected? (t : Tool) (given : Datum) : Option String :=
  (givenNames given).find? fun n => !t.parameters.any (·.name == n)

/-- The arguments that a tool needs and that are not given. -/
def missing (t : Tool) (given : Datum) : List String :=
  (t.parameters.filter fun p => p.kind.isRequired && (given.get? p.name).isNone).map (·.name)

/-- The message about arguments that are missing. -/
def missingMessage (t : Tool) (names : List String) : String :=
  let quoted := names.map fun n => "'" ++ n ++ "'"
  t.name ++ "() missing " ++ toString names.length ++ " required keyword-only argument" ++
    (if names.length == 1 then "" else "s") ++ ": " ++ " and ".intercalate quoted

/-- The arguments of a direct call. -/
def accept (t : Tool) (given : Datum) : Except Fault Arguments :=
  match t.unexpected? given with
  | some n => .error (.badCall (t.name ++ "() got an unexpected keyword argument '" ++ n ++ "'"))
  | none => match t.missing given with
    | [] => .ok (t.parameters.map fun p => (p.name, (given.get? p.name).getD p.kind.default))
    | names => .error (.badCall (t.missingMessage names))

end Tool

namespace Arguments

/-- A text among the arguments. -/
def text? (a : Arguments) (name : String) : Option String :=
  match a.lookup name with
  | some (.text s) => some s
  | _ => none

/-- A text that is always given. -/
def text (a : Arguments) (name : String) : String := (a.text? name).getD ""

/-- A flag among the arguments; null, zero and empty values count as unset. -/
def flag (a : Arguments) (name : String) : Bool :=
  match a.lookup name with
  | some (.flag b) => b
  | some (.integer n) => n != 0
  | some (.decimal n _) => n != 0
  | some (.text s) => s != ""
  | some (.list xs) => !xs.isEmpty
  | some (.record fs) => !fs.isEmpty
  | some .null | none => false

/-- A number among the arguments. -/
def integer? (a : Arguments) (name : String) : Option Int :=
  match a.lookup name with
  | some (.integer n) => some n
  | some (.flag b) => some (if b then 1 else 0)
  | _ => none

end Arguments

end BundleAtlas
