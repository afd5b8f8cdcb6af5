import BundleAtlas.Datum

/-!
The catalog of tools: their names, what they are for, and the arguments that they take.
-/

namespace BundleAtlas

/-- The tools. -/
inductive Tool where
  | deobfuscate
  | listModules
  | getModule
  | searchModules
  | listFunctions
  | getCallGraph
  | analyzeStructure
  | getSymbolSource
  | formatCode
  | getHelp
deriving Repr, DecidableEq, Inhabited

/-- What an argument has to be, with its default if it may be left out. -/
inductive ParameterKind where
  | text
  | textOr (default : String)
  | optionalText
  | flag (default : Bool)
  | optionalInteger
deriving Repr, DecidableEq, Inhabited

namespace ParameterKind

/-- Whether an argument must be given. -/
def isRequired : ParameterKind → Bool
  | text => true
  | _ => false

/-- The value of an argument that is left out. -/
def default : ParameterKind → Datum
  | text | optionalText | optionalInteger => .null
  | textOr s => .text s
  | flag b => .flag b

end ParameterKind

/-- An argument of a tool. -/
structure Parameter where
  name : String
  kind : ParameterKind
deriving Repr, DecidableEq, Inhabited

namespace Tool

/-- All tools in the order of the catalog. -/
def all : List Tool :=
  [deobfuscate, listModules, getModule, searchModules, listFunctions, getCallGraph,
    analyzeStructure, getSymbolSource, formatCode, getHelp]

/-- The name of a tool. -/
def name : Tool → String
  | deobfuscate => "deobfuscate"
  | listModules => "list_modules"
  | getModule => "get_module"
  | searchModules => "search_modules"
  | listFunctions => "list_functions"
  | getCallGraph => "get_call_graph"
  | analyzeStructure => "analyze_structure"
  | getSymbolSource => "get_symbol_source"
  | formatCode => "format_code"
  | getHelp => "get_help"

/-- The tool of a name. -/
def ofName? (n : String) : Option Tool := all.find? (·.name == n)

/-- What a tool is for, in a line. -/
def description : Tool → String
  | deobfuscate => "Unpacks/deobfuscates minified code and caches the resulting modules."
  | listModules => "Lists modules from the cached bundle."
  | getModule => "Gets formatted code for a specific module ID from the cache."
  | searchModules => "Searches text or a case-insensitive regex in cached modules."
  | listFunctions => "Scans cached modules to list defined functions and classes."
  | getCallGraph =>
    "Generates a call graph (outgoing and incoming calls) for a specific function."
  | analyzeStructure => "Returns a structural summary (AST) of code."
  | getSymbolSource => "Extracts specific function/class/variable source code."
  | formatCode => "Formats code with jsbeautifier ('babel') or cssbeautifier ('css')."
  | getHelp => "Get detailed usage info for a specific tool."

/-- The arguments of a tool. -/
def parameters : Tool → List Parameter
  | deobfuscate => [⟨"code", .optionalText⟩, ⟨"file_path", .optionalText⟩, ⟨"unbundle", .flag true⟩,
      ⟨"return_code", .flag false⟩, ⟨"mangle", .flag false⟩, ⟨"jsx", .flag true⟩,
      ⟨"skip_vendor", .flag false⟩]
  | listModules => [⟨"exclude_vendor", .flag false⟩]
  | getModule => [⟨"id", .text⟩]
  | searchModules => [⟨"query", .text⟩, ⟨"is_regex", .flag false⟩, ⟨"limit", .optionalInteger⟩]
  | listFunctions => [⟨"module_id", .optionalText⟩, ⟨"limit", .optionalInteger⟩]
  | getCallGraph => [⟨"symbol_name", .text⟩, ⟨"module_id", .text⟩,
      ⟨"scan_all_modules", .flag false⟩]
  | analyzeStructure => [⟨"code", .optionalText⟩, ⟨"file_path", .optionalText⟩,
      ⟨"limit", .optionalInteger⟩]
  | getSymbolSource => [⟨"symbol_name", .text⟩, ⟨"code", .optionalText⟩,
      ⟨"file_path", .optionalText⟩, ⟨"module_id", .optionalText⟩]
  | formatCode => [⟨"code", .optionalText⟩, ⟨"file_path", .optionalText⟩,
      ⟨"parser", .textOr "babel"⟩]
  | getHelp => [⟨"tool_name", .text⟩]

/-- The entry of a tool in the catalog. -/
def toDatum (t : Tool) : Datum :=
  .record [("name", .text t.name), ("description", .text t.description),
    ("params", .list (t.parameters.map fun p => .record [("name", .text p.name),
      ("required", .flag p.kind.isRequired), ("default", p.kind.default)]))]

end Tool

end BundleAtlas
