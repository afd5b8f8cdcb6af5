import BundleAtlas.Tool.Arguments

/-!
Requests to the tools, each with the arguments of its tool.
-/

namespace BundleAtlas

/-- Where a text comes from: it is given, or stands in a file. A given text wins. -/
structure Input where
  code : Option String := none
  filePath : Option String := none
deriving Repr, DecidableEq, Inhabited

/-- The options of unpacking. -/
structure UnpackOptions where
  unbundle : Bool := true
  returnCode : Bool := false
  mangle : Bool := false
  jsx : Bool := true
  skipVendor : Bool := false
deriving Repr, DecidableEq, Inhabited

/-- A request to a tool. -/
inductive Request where
  | deobfuscate (input : Input) (options : UnpackOptions)
  | listModules (excludeVendor : Bool)
  | getModule (id : String)
  | searchModules (query : String) (isRegex : Bool) (limit : Option Int)
  | listFunctions (moduleId : Option String) (limit : Option Int)
  | getCallGraph (symbol moduleId : String) (everywhere : Bool)
  | analyzeStructure (input : Input) (limit : Option Int)
  | getSymbolSource (symbol : String) (input : Input) (moduleId : Option String)
  | formatCode (input : Input) (parser : String)
  | getHelp (toolName : String)
deriving Repr, DecidableEq, Inhabited

namespace Request

/-- The tool of a request. -/
def tool : Request → Tool
  | deobfuscate .. => .deobfuscate
  | listModules _ => .listModules
  | getModule _ => .getModule
  | searchModules .. => .searchModules
  | listFunctions .. => .listFunctions
  | getCallGraph .. => .getCallGraph
  | analyzeStructure .. => .analyzeStructure
  | getSymbolSource .. => .getSymbolSource
  | formatCode .. => .formatCode
  | getHelp _ => .getHelp

/-- A request from the arguments of its tool. -/
def ofArguments (t : Tool) (a : Arguments) : Request :=
  let input : Input := ⟨a.text? "code", a.text? "file_path"⟩
  match t with
  | .deobfuscate => .deobfuscate input
      ⟨a.flag "unbundle", a.flag "return_code", a.flag "mangle", a.flag "jsx", a.flag "skip_vendor"⟩
  | .listModules => .listModules (a.flag "exclude_vendor")
  | .getModule => .getModule (a.text "id")
  | .searchModules => .searchModules (a.text "query") (a.flag "is_regex") (a.integer? "limit")
  | .listFunctions => .listFunctions (a.text? "module_id") (a.integer? "limit")
  | .getCallGraph =>
    .getCallGraph (a.text "symbol_name") (a.text "module_id") (a.flag "scan_all_modules")
  | .analyzeStructure => .analyzeStructure input (a.integer? "limit")
  | .getSymbolSource => .getSymbolSource (a.text "symbol_name") input (a.text? "module_id")
  | .formatCode => .formatCode input (a.text "parser")
  | .getHelp => .getHelp (a.text "tool_name")

end Request

end BundleAtlas
