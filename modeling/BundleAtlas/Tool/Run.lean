import BundleAtlas.Bundle.Search
import BundleAtlas.Layout.Format
import BundleAtlas.Tool.Answer
import BundleAtlas.Tool.Envelope
import BundleAtlas.Tool.Manual
import BundleAtlas.Tool.Workspace

/-!
The tools at work. Only unpacking writes to the store, and it does so as its last step; all other
tools are queries.
-/

namespace BundleAtlas

namespace Action

/-- The id and path of a text that is no bundle. -/
def entryId : String := "(entry)"

/-- Lays out a text with the indentation of the settings. -/
def format (s : Settings) (parser text : String) : Action String :=
  ofExcept (prettyPrint parser s.indentSize.toNat text)

/-- The limit that is asked for, or the one of the settings. -/
def limitOf (s : Settings) (limit : Option Int) : Int := limit.getD s.defaultLimit

/-- What is reported about the options of unpacking. -/
def optionEntries (o : UnpackOptions) : List Entry :=
  let source := Part.unpacking.name
  (if o.mangle then [⟨.debug, source,
    "mangle requested; identifier renaming is not available, leaving names as-is"⟩] else []) ++
  (if o.jsx then [] else [⟨.debug, source, "jsx=False has no effect; both grammars accept JSX"⟩])

/-- What is reported about splitting a bundle. -/
def splittingEntries : Splitting → List Entry
  | .unreadable reason => [⟨.debug, Part.unpacking.name,
      "Not splitting bundle, source does not parse: " ++ reason⟩]
  | .modules units => [⟨.info, Part.unpacking.name,
      "Split webpack bundle into " ++ toString units.length ++ " modules"⟩]
  | .untried | .noTable => []

/-- The lines above the code of a bundle. -/
def banner (count : Nat) : String :=
  "// Unbundled " ++ toString count ++ " modules.\n" ++
    "// Use 'list_modules' to see them all.\n// Main entry point:\n"

/-- What is said when a bundle has been stored. -/
def unpackSummary (stored skipped : Nat) : String :=
  "Deobfuscation complete. Cached " ++ toString stored ++ " module(s)" ++
    (if skipped == 0 then "" else " (" ++ toString skipped ++ " vendor module(s) skipped)") ++
    ". Use 'list_modules' to explore them or set return_code=true to see the code."

/-- The units that come of unpacking. -/
def unitsOf (u : Unpacked) : List Piece :=
  u.splitting.units?.getD [⟨entryId, entryId, u.code⟩]

/-- Unpacks a text and stores the units. The code is laid out before the store is touched. -/
def deobfuscate (given : Option Settings) (input : Input) (o : UnpackOptions) :
    Action String := do
  let s ← settings given
  let source ← resolve s input
  report (optionEntries o)
  let result ← ofExcept (unpackWith s.dialect.parse source o.unbundle)
  report (splittingEntries result.splitting)
  let all := unitsOf result
  let units := if o.skipVendor then all.filter fun u => !isVendorPath u.path else all
  let response ← if o.returnCode then
      let head := if result.splitting.units?.isSome then banner all.length else ""
      pure (some (← format s "babel" (head ++ result.code)))
    else pure none
  let live ← replace units
  return response.getD (unpackSummary live.units.length (all.length - units.length))

/-- The rows of the bundle. -/
def listModules (excludeVendor : Bool) : Action (List UnitSummary) := do
  return listUnits (← current) excludeVendor

/-- The text of a unit, laid out. -/
def getModule (given : Option Settings) (id : String) : Action String := do
  let u ← unit id
  format (← settings given) "babel" u.text

/-- The units that match a query. -/
def searchModules (given : Option Settings) (query : String) (isRegex : Bool)
    (limit : Option Int) : Action (List Piece) := do
  let s ← settings given
  let live ← current
  ofExcept (searchUnits (← get).patterns live query isRegex (limitOf s limit))

/-- What is reported about a scan. -/
def scanEntries (i : Inventory) : List Entry :=
  i.skipped.map fun u => ⟨.warning, Part.inventory.name,
    "Skipping unit " ++ u.unitId ++ " during symbol scan: " ++ u.error⟩

/-- The symbols of a unit, or of all units if none is named. -/
def listFunctions (given : Option Settings) (moduleId : Option String) (limit : Option Int) :
    Action (List SymbolEntry) := do
  let s ← settings given
  let units ← match moduleId with
    | none | some "" => do pure (← current).units
    | some id => do pure [← unit id]
  let found := scanSymbols s.dialect.parse units (some (limitOf s limit))
  report (scanEntries found)
  return found.symbols

/-- What is reported about a call graph. -/
def graphEntries (g : CallGraph) : List Entry :=
  let source := Part.callGraph.name
  let unread := g.skipped.any (·.unitId == g.unitId)
  (if unread || g.declared then [] else [⟨.debug, source,
    "No declaration of " ++ g.symbol ++ " in unit " ++ g.unitId⟩]) ++
  g.skipped.map fun u => ⟨.warning, source,
    "Skipping unit " ++ u.unitId ++ " during call graph build: " ++ u.error⟩

/-- The calls around a symbol. -/
def getCallGraph (given : Option Settings) (symbol moduleId : String) (everywhere : Bool) :
    Action CallGraph := do
  let s ← settings given
  let live ← current
  let graph ← ofExcept (CallGraph.build s.dialect.parse live symbol moduleId everywhere)
  report (graphEntries graph)
  return graph

/-- The outline of a text. -/
def analyzeStructure (given : Option Settings) (input : Input) (limit : Option Int) :
    Action Outline := do
  let s ← settings given
  let source ← resolve s input
  ofExcept (BundleAtlas.analyzeStructure s.dialect.parse source (some (limitOf s limit)))

/-- The message when no source of a symbol is given. -/
def noSymbolSource : Failure :=
  .missingInput "Either 'code', 'file_path' or 'module_id' must be provided."

/-- The text that a symbol is looked for in: a unit if one is named, else the input. -/
def symbolText (s : Settings) (input : Input) (moduleId : Option String) : Action String := do
  match moduleId with
  | none | some "" =>
    tryCatch (resolve s input) fun e => match e with
      | .failure (.missingInput _) => fail noSymbolSource
      | e => throw e
  | some id => return (← unit id).text

/-- The source of a symbol, laid out. -/
def getSymbolSource (given : Option Settings) (symbol : String) (input : Input)
    (moduleId : Option String) : Action String := do
  let s ← settings given
  let source ← symbolText s input moduleId
  let parsed ← ofExcept (s.dialect.parse source)
  let found ← ofExcept (parsed.findSymbol symbol)
  format s "babel" found.text

/-- A text, laid out. -/
def formatCode (given : Option Settings) (input : Input) (parser : String) : Action String := do
  let s ← settings given
  format s parser (← resolve s input)

/-- The manual page of a tool. -/
def getHelp (toolName : String) : Action String :=
  match Tool.ofName? toolName with
  | some t => pure t.help
  | none => fail (.unknownTool toolName)

end Action

namespace Request

/-- Carries out a request with the given settings, or those of the process. -/
def run (given : Option Settings) : Request → Action Datum
  | deobfuscate input o => return .text (← Action.deobfuscate given input o)
  | listModules x => return .list ((← Action.listModules x).map UnitSummary.toDatum)
  | getModule id => return .text (← Action.getModule given id)
  | searchModules q r l =>
    return .list ((← Action.searchModules given q r l).map Piece.toRow)
  | listFunctions m l =>
    return .list ((← Action.listFunctions given m l).map SymbolEntry.toDatum)
  | getCallGraph s m e => return (← Action.getCallGraph given s m e).toDatum
  | analyzeStructure i l => return (← Action.analyzeStructure given i l).toDatum
  | getSymbolSource s i m => return .text (← Action.getSymbolSource given s i m)
  | formatCode i p => return .text (← Action.formatCode given i p)
  | getHelp n => return .text (← Action.getHelp n)

/-- Carries out a request and puts its result or its failure into an envelope. -/
def runTool (given : Option Settings) (r : Request) : Action Datum :=
  tryCatch (do return Envelope.ok (← r.run given)) fun e => match e with
    | .failure f => return Envelope.ofFailure f
    | e => throw e

end Request

end BundleAtlas
