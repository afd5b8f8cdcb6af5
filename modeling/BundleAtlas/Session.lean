import BundleAtlas.Tool.Run

/-!
Sessions: steps on one workspace, one after the other. A step that fails does not end the session.
-/

namespace BundleAtlas

/-- A step of a session. -/
inductive Step where
  /-- a direct call of what stands behind a tool -/
  | call (t : Tool) (arguments : Datum)
  /-- a request to a tool -/
  | tool (t : Tool) (arguments : Datum)
  | replace (units : List Piece)
  /-- looks at the live snapshot and may keep it under a name -/
  | current (hold : Option String)
  | unit (id : String)
  | clear
  | held (name : String)
  | read (path : String)
  | resolve (input : Input)
  /-- chooses settings for the process, or none -/
  | choose (values : Option Datum)
  | assign (pairs : Environment)
  | settings
deriving Inhabited

/-- A session: its workspace, the settings that every call is given, those that the tools were made
with, and the snapshots that were kept. -/
structure Session where
  workspace : Workspace := {}
  given : Option Settings := none
  captured : Option Settings := none
  held : List (String × Snapshot) := []
deriving Inhabited

namespace Session

/-- A step on a session. -/
abbrev Turn := ExceptT Fault (StateM Session)

/-- An action on the workspace of a session. -/
def lift {α : Type} (a : Action α) : Turn α := do
  let s ← get
  let (outcome, workspace) := a.outcome s.workspace
  set { s with workspace }
  liftM outcome

/-- The settings of the tools: those that are in force when a tool is first asked for. -/
def capture : Turn Settings := do
  let s ← get
  match s.captured with
  | some settings => return settings
  | none =>
    let settings ← lift (Action.settings s.given)
    modify fun s => { s with captured := some settings }
    return settings

/-- A snapshot at a glance. -/
def glance (s : Snapshot) : Datum :=
  .record [("repr", .text s.summary), ("ids", .texts s.ids), ("len", .count s.units.length)]

/-- A snapshot with its units. -/
def contents (s : Snapshot) : Datum :=
  .record [("repr", .text s.summary), ("units", .list (s.units.map Piece.toDatum))]

/-- Carries out a step. -/
def turn : Step → Turn Datum
  | .call t arguments => do
    let a ← liftM (t.accept arguments)
    lift ((Request.ofArguments t a).run (← get).given)
  | .tool t arguments => do
    let settings ← capture
    let a ← liftM (t.check arguments).outcome
    lift ((Request.ofArguments t a).runTool (some settings))
  | .replace units => do return .text (← lift (Action.replace units)).summary
  | .current hold => do
    let live ← lift Action.current
    match hold with
    | some name => modify fun s => { s with held := (name, live) :: s.held }
    | none => pure ()
    return glance live
  | .unit id => do return (← lift (Action.unit id)).toDatum
  | .clear => do
    lift Action.clear
    return .null
  | .held name => do
    match (← get).held.lookup name with
    | some live => return contents live
    | none => throw (.badKey (Text.quoted name))
  | .read path => do
    let given := (← get).given
    return .text (← lift (do Action.readFile (← Action.settings given) path))
  | .resolve input => do
    let given := (← get).given
    return .text (← lift (do Action.resolve (← Action.settings given) input))
  | .choose values => do
    let chosen ← match values with
      | some v => do pure (some (← liftM (Settings.ofValues v).outcome))
      | none => pure none
    modify fun s => { s with workspace := { s.workspace with
      ambient := s.workspace.ambient.choose chosen } }
    return .null
  | .assign pairs => do
    modify fun s => { s with workspace := { s.workspace with
      ambient := pairs.foldl (fun p (k, v) => p.assign k v) s.workspace.ambient } }
    return .null
  | .settings => do return (← lift (Action.settings none)).toDatum

/-- What a step gives: its outcome, the live snapshot behind it, and what was reported. -/
structure Row where
  outcome : Except Fault Datum
  live : Option Snapshot
  entries : List Entry

/-- Carries out a step of a session. -/
def step (s : Session) (st : Step) : Row × Session :=
  let before := s.workspace.journal.length
  let (outcome, s) := StateT.run (ExceptT.run (turn st)) s
  (⟨outcome, s.workspace.store.live, s.workspace.journal.drop before⟩, s)

/-- Carries out steps one after the other. -/
def steps (s : Session) : List Step → List Row
  | [] => []
  | st :: rest =>
    let (row, s) := s.step st
    row :: steps s rest

end Session

end BundleAtlas
