import BundleAtlas.Tool.Catalog

/-!
How to use the tools: a page for each.
-/

namespace BundleAtlas

namespace Tool

/-- The lines of the page about a tool. -/
def manual : Tool → List String
  | deobfuscate => [
      "Tool: deobfuscate",
      "Description: Primary entry point. Unpacks packed/obfuscated JavaScript and splits " ++
        "webpack bundles into modules.",
      "Key Behavior:",
      "- Caches the modules in memory for 'list_modules', 'get_module', 'search_modules', " ++
        "'list_functions' and 'get_call_graph'.",
      "- Without a bundle, the whole result is cached as a single '(entry)' module.",
      "- Returns a summary by default; set return_code=true to get the formatted entry code.",
      "Input:",
      "- code (string): The raw code (Max 50MB). Or file_path.",
      "- file_path (string): Path to a file to read instead of 'code'.",
      "- unbundle (boolean): Default true. Set to false to skip bundle splitting.",
      "- return_code (boolean): Default false.",
      "- skip_vendor (boolean): Default false. Drop vendor modules (node_modules, webpack " ++
        "runtime, ...) before caching."]
  | listModules => [
      "Tool: list_modules",
      "Description: Returns a JSON list of all modules in the cached bundle.",
      "Input:",
      "- exclude_vendor (boolean): Default false. If true, filters out modules from " ++
        "'node_modules', 'webpack', etc.",
      "Key Behavior:",
      "- Requires 'deobfuscate' to have been run successfully first.",
      "- Returns objects containing \x7b id, path, size, is_vendor \x7d."]
  | getModule => [
      "Tool: get_module",
      "Description: Fetches the formatted source code of one module from the cached bundle.",
      "Input:",
      "- id (string): The module ID (as returned by 'list_modules')."]
  | searchModules => [
      "Tool: search_modules",
      "Description: Scans all cached modules for a text string or regular expression.",
      "Input:",
      "- query (string): The text or regex pattern to search for.",
      "- is_regex (boolean): Default false. Regex matching is case-insensitive.",
      "- limit (number): Optional. Max number of results. Default 50.",
      "Key Behavior:",
      "- Returns a list of matches with module IDs and paths."]
  | listFunctions => [
      "Tool: list_functions",
      "Description: Lists functions, classes and function-valued variables defined in cached " ++
        "modules.",
      "Input:",
      "- module_id (string): Optional. Restrict the scan to one module.",
      "- limit (number): Optional. Default 50.",
      "Key Behavior:",
      "- Each entry has unit_id, unit_path, name, kind, start_line, line_count, parameters and " ++
        "signature.",
      "- Modules that fail to parse are skipped."]
  | getCallGraph => [
      "Tool: get_call_graph",
      "Description: Outgoing calls made by a symbol and incoming call sites that reference it.",
      "Input:",
      "- symbol_name (string): The function/variable/class name.",
      "- module_id (string): The module that declares the symbol.",
      "- scan_all_modules (boolean): Default false. Look for callers in every module " ++
        "mentioning the name."]
  | analyzeStructure => [
      "Tool: analyze_structure",
      "Description: Static (AST) summary of the provided code.",
      "Input:",
      "- code (string): The JS code to analyze (Max 50MB). Or file_path.",
      "- limit (number): Optional. Default 50.",
      "Key Behavior:",
      "- Identifies functions, classes and exported names; does NOT return the code."]
  | getSymbolSource => [
      "Tool: get_symbol_source",
      "Description: Extracts the source of one function, class or variable.",
      "Input:",
      "- symbol_name (string): The name of the symbol to extract.",
      "- code (string): Optional. The source code to search in (Max 50MB).",
      "- file_path (string): Optional. A file to read instead.",
      "- module_id (string): Optional. A module of the cached bundle.",
      "Key Behavior:",
      "- Saves tokens by returning only the requested symbol instead of the entire file."]
  | formatCode => [
      "Tool: format_code",
      "Description: Formats code with jsbeautifier / cssbeautifier.",
      "Input:",
      "- code (string): The code to format (Max 50MB). Or file_path.",
      "- parser (enum): 'babel' (for JS) or 'css'."]
  | getHelp => [
      "Tool: get_help",
      "Description: Returns detailed documentation for a specific tool.",
      "Input:",
      "- tool_name (string): The name of the tool to get help for."]

/-- The page about a tool. -/
def help (t : Tool) : String := "\n" ++ "\n".intercalate t.manual ++ "\n"

end Tool

end BundleAtlas
