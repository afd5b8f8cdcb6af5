import BundleAtlas.Bundle.Store
import BundleAtlas.Files.Folder
import BundleAtlas.Journal.Entry
import BundleAtlas.Pattern.Reader
import BundleAtlas.Settings
import BundleAtlas.Tool.Request

/-!
What the tools work on: the store, the settings of the process, the files, the reader of patterns,
and the journal. An action changes them and has a result or a fault; what it has changed before a
fault stays.
-/

namespace BundleAtlas

/-- What the tools work on. -/
structure Workspace where
  store : Store := {}
  ambient : Ambient := {}
  files : FolderTree := {}
  patterns : PatternReader := {}
  journal : List Entry := []
deriving Inhabited

/-- An action on a workspace. -/
abbrev Action := ExceptT Fault (StateM Workspace)

namespace Action

/-- The outcome of an action, and the workspace behind it. -/
def outcome {α : Type} (a : Action α) (w : Workspace) : Except Fault α × Workspace :=
  StateT.run (ExceptT.run a) w

/-- Writes entries into the journal. -/
def report (entries : List Entry) : Action Unit :=
  modify fun w => { w with journal := w.journal ++ entries }

/-- Ends an action with a failure. -/
def fail {α : Type} (f : Failure) : Action α := throw (.failure f)

/-- A computation without effects as an action. -/
def ofExcept {α : Type} (e : Except Fault α) : Action α := liftM e

/-- The settings that are given, or those of the process. -/
def settings (given : Option Settings) : Action Settings := do
  match given with
  | some s => return s
  | none =>
    let w ← get
    let (outcome, ambient) := w.ambient.settings
    set { w with ambient }
    ofExcept outcome

/-- The live snapshot. -/
def current : Action Snapshot := do ofExcept (← get).store.current

/-- The unit of an id in the live snapshot. -/
def unit (id : String) : Action Piece := do ofExcept ((← get).store.get id)

/-- Stores units in place of those that are there. -/
def replace (units : List Piece) : Action Snapshot := do
  let w ← get
  let (outcome, store) := w.store.replace units
  set { w with store }
  let live ← ofExcept outcome
  report [⟨.info, Part.store.name, "Cached bundle generation=" ++
    toString live.generation ++ " units=" ++ toString live.units.length⟩]
  return live

/-- Empties the store. -/
def clear : Action Unit := modify fun w => { w with store := w.store.clear }

/-- The path of a file: a relative one starts at the workspace root of the settings, or at the
working folder. -/
def place (s : Settings) (filePath : String) : Action Path := do
  let p := Path.ofText filePath
  if p.isAbsolute then return p
  match s.workspaceRoot with
  | some root =>
    if root != "" then return (Path.ofText root).join p
    else return Path.join ⟨"/", (← get).files.working⟩ p
  | none => return Path.join ⟨"/", (← get).files.working⟩ p

/-- The text of a file. What the system refuses is no failure of the tools. -/
def readFile (s : Settings) (filePath : String) : Action String := do
  let p ← place s filePath
  match (← get).files.bytesAt p with
  | .error e => throw (.system e.number (e.message p.text))
  | .ok none =>
    report [⟨.warning, Part.files.name, "File not found: " ++ p.text⟩]
    fail (Failure.sourceNotFound p.text)
  | .ok (some bytes) => match fileText bytes with
    | .ok text => return text
    | .error m => fail (Failure.sourceUnreadable p.text m.message)

/-- The text of an input, if it is not too large. -/
def resolve (s : Settings) (input : Input) : Action String := do
  let text ← match input.code, input.filePath with
    | some code, _ => pure code
    | none, some "" => fail Failure.nothingGiven
    | none, some path => readFile s path
    | none, none => fail Failure.nothingGiven
  if s.maxCodeSize < text.length then fail (Failure.inputTooLarge text.length s.maxCodeSize)
  return text

end Action

end BundleAtlas
