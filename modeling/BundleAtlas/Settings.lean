import BundleAtlas.Dialect
import BundleAtlas.Schema.Basic

/-!
Settings: limits and options that all tools share. They are given as values, or read from
variables of the environment.
-/

namespace BundleAtlas

/-- The settings of the tools. -/
structure Settings where
  /-- the most code points that an input may have -/
  maxCodeSize : Int := 50 * 1024 * 1024
  /-- how many results a listing has if nothing else is asked for -/
  defaultLimit : Int := 50
  dialect : Dialect := .javascript
  /-- the width of a step of indentation in formatted code -/
  indentSize : Int := 2
  /-- the folder that relative paths start from -/
  workspaceRoot : Option String := none
deriving Repr, DecidableEq, Inhabited

namespace Settings

/-- The settings without any choice. -/
def standard : Settings := {}

/-- A dialect by its name. -/
def readDialect (d : Datum) : Schema.Read Dialect := do
  let name ← Schema.text d
  match Dialect.ofName (some name) with
  | .ok dialect => .ok dialect
  | .error e => .error (.badValue e.text)

/-- Settings from a record of values; unknown names are ignored. -/
def ofValues (values : Datum) : Schema.Checked Settings :=
  let size := Schema.field values "max_code_size"
    (fun d => Schema.integer d >>= Schema.above 0) (.ok standard.maxCodeSize)
  let limit := Schema.field values "default_limit"
    (fun d => Schema.integer d >>= Schema.above 0) (.ok standard.defaultLimit)
  let dialect := Schema.field values "dialect" readDialect (.ok standard.dialect)
  let indent := Schema.field values "indent_size"
    (fun d => Schema.integer d >>= Schema.atLeast 0) (.ok standard.indentSize)
  let root := Schema.field values "workspace_root" (Schema.optional Schema.text)
    (.ok standard.workspaceRoot)
  let limits := Schema.both Prod.mk size limit
  let options := Schema.both Prod.mk (Schema.both Prod.mk limits dialect) indent
  Schema.both (fun (((s, l), d), i) r => ⟨s, l, d, i, r⟩) options root

/-- The values of settings, by name. -/
def toDatum (s : Settings) : Datum :=
  .record [("max_code_size", .integer s.maxCodeSize), ("default_limit", .integer s.defaultLimit),
    ("dialect", .text s.dialect.name), ("indent_size", .integer s.indentSize),
    ("workspace_root", .ofText? s.workspaceRoot)]

end Settings

/-- Variables of the environment; the first of several with one name counts. -/
abbrev Environment := List (String × String)

namespace Settings

/-- The variables that hold settings, each with the name of its value. -/
def keys : List (String × String) :=
  [("LITE_BUNDLE_MAX_CODE_SIZE", "max_code_size"),
    ("LITE_BUNDLE_DEFAULT_LIMIT", "default_limit"),
    ("LITE_BUNDLE_DIALECT", "dialect"),
    ("LITE_BUNDLE_INDENT_SIZE", "indent_size"),
    ("LITE_BUNDLE_WORKSPACE_ROOT", "workspace_root")]

/-- The values that an environment gives; an empty variable gives none. -/
def valuesOf (env : Environment) : Datum :=
  .record (keys.filterMap fun (key, name) => match env.lookup key with
    | some "" => none
    | some s => some (name, .text s)
    | none => none)

/-- Settings from the environment. -/
def ofEnvironment (env : Environment) : Schema.Checked Settings := ofValues (valuesOf env)

end Settings

/-- The settings of a process: those that were chosen or read last, and the environment. -/
structure Ambient where
  chosen : Option Settings := none
  environment : Environment := []
deriving Repr, Inhabited

namespace Ambient

/-- Sets a variable. -/
def assign (name value : String) (p : Ambient) : Ambient :=
  { p with environment := (name, value) :: p.environment }

/-- Chooses settings, or none: then the next use reads them from the environment. -/
def choose (s : Option Settings) (p : Ambient) : Ambient := { p with chosen := s }

/-- The settings of a process. They are read from the environment once and then kept. -/
def settings (p : Ambient) : Except Fault Settings × Ambient :=
  match p.chosen with
  | some s => (.ok s, p)
  | none => match Settings.ofEnvironment p.environment with
    | .ok s => (.ok s, { p with chosen := some s })
    | .error issues => (.error (.invalid issues), p)

end Ambient

end BundleAtlas
