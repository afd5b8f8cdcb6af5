import BundleAtlas.Proofs.Tool.Envelope
import BundleAtlas.Proofs.Tool.SettingsInForce

/-!
Sessions as runs of a process. A step of a session comes down to a few deeds of
a process that has the workspace of the session and the tools that the session
has made, and a deed comes down to moves on the store. So what is known of all
runs of deeds and of all histories of a store is known of all sessions.
-/

namespace BundleAtlas

theorem storeAfter_append (store : Store) (moves more : List (Move × Workspace)) :
    storeAfter store (moves ++ more) = storeAfter (storeAfter store moves) more := by
  induction moves generalizing store with
  | nil => rfl
  | cons first rest ih =>
      obtain ⟨move, around⟩ := first
      exact ih (Visit.after ⟨move, { around with store }⟩)

/-- Variables that are set one after the other stand in front of the older ones, the last one
first. -/
theorem Ambient.foldl_assign (pairs : Environment) (p : Ambient) :
    pairs.foldl (fun p (name, value) => p.assign name value) p =
      { p with environment := pairs.reverse ++ p.environment } := by
  induction pairs generalizing p with
  | nil => rfl
  | cons pair pairs ih =>
      rw [List.foldl_cons, ih, List.reverse_cons, List.append_assoc]
      rfl

/-- An envelope around the answer makes no difference to the store. -/
theorem Request.store_runTool (r : Request) (s : Settings) (w : Workspace) :
    ((r.runTool (some s)).outcome w).2.store = ((r.run (some s)).outcome w).2.store := by
  rw [runTool_outcome]
  split
  · rename_i hrun
    rw [hrun]
  · rename_i hrun
    rw [hrun]
  · rename_i hrun
    rw [hrun]

namespace Host

theorem run_append (h : Host) (ds more : List Deed) : h.run (ds ++ more) = (h.run ds).run more := by
  induction ds generalizing h with
  | nil => rfl
  | cons d ds ih => exact ih (h.step d).2

/-- The moves that a deed makes on the store. A request without settings of its
own is one under the settings that it reads, or under any if it reads none. -/
def moves (h : Host) : Deed → List (Move × Workspace)
  | .request (some s) r => [(.request s r, h.workspace)]
  | .request none r =>
    if r.readsSettings h.workspace.store then
      match (Action.settings none).outcome h.workspace with
      | (.ok s, ready) => [(.request s r, ready)]
      | (.error _, _) => []
    else [(.request .standard r, h.workspace)]
  | .useTools index r =>
    match h.tools[index]? with
    | some s => [(.request s r, h.workspace)]
    | none => []
  | .visit m => [(m, h.workspace)]
  | .enter _ | .choose _ | .ask | .makeTools _ | .read .. | .resolve .. => []

/-- The moves of a run of deeds. -/
def trail (h : Host) : List Deed → List (Move × Workspace)
  | [] => []
  | d :: ds => h.moves d ++ (h.step d).2.trail ds

theorem store_request (h : Host) (given : Option Settings) (r : Request) :
    ((r.run given).outcome h.workspace).2.store =
      storeAfter h.workspace.store (h.moves (.request given r)) := by
  cases given with
  | some s => rfl
  | none =>
      change _ = storeAfter h.workspace.store
        (if r.readsSettings h.workspace.store then
          match (Action.settings none).outcome h.workspace with
          | (.ok s, ready) => [(.request s r, ready)]
          | (.error _, _) => []
        else [(.request .standard r, h.workspace)])
      have hkept := Action.KeepsStore.settings none h.workspace
      split
      · rename_i hreads
        rw [Request.run_none_of_reads hreads]
        rcases hread : (Action.settings none).outcome h.workspace with ⟨e | s, ready⟩
        · rw [hread] at hkept
          exact hkept
        · rw [hread] at hkept
          rw [← hkept]
          rfl
      · rename_i hreads
        rw [Request.run_none_of_not_reads (by simpa using hreads) (some .standard)]
        rfl

/-- A deed does to the store what its moves do. -/
theorem store_step (h : Host) (d : Deed) :
    (h.step d).2.workspace.store = storeAfter h.workspace.store (h.moves d) := by
  cases d with
  | enter env => rfl
  | choose s => rfl
  | ask => exact (Action.KeepsStore.settings none |>.bind fun _ => .pure _) h.workspace
  | request given r => exact h.store_request given r
  | makeTools given =>
      have hkept := Action.KeepsStore.settings given h.workspace
      unfold step
      dsimp only
      rcases hread : (Action.settings given).outcome h.workspace with ⟨e | s, after⟩
      · rw [hread] at hkept
        exact hkept
      · rw [hread] at hkept
        exact hkept
  | useTools index r =>
      unfold step moves
      dsimp only
      cases h.tools[index]? with
      | some s => exact r.store_runTool s h.workspace
      | none => rfl
  | visit m => rfl
  | read given path =>
      have hread := fun s => Action.KeepsStore.composes.readFile (fun _ _ => trivial) s path
      exact (Action.KeepsStore.settings given |>.bind fun s => (hread s).bind fun _ => .pure _)
        h.workspace
  | resolve given input =>
      exact (Action.KeepsStore.settings given |>.bind fun s =>
        (Action.KeepsStore.resolve s input).bind fun _ => .pure _) h.workspace

/-- A run of deeds does to the store what its moves do one after the other. -/
theorem store_run (h : Host) (ds : List Deed) :
    (h.run ds).workspace.store = storeAfter h.workspace.store (h.trail ds) := by
  induction ds generalizing h with
  | nil => rfl
  | cons d ds ih => rw [run, trail, storeAfter_append, ← store_step, ih]

end Host

namespace Session

variable {α β : Type}

/-- How a turn ends, and the session behind it. -/
def outcome (t : Turn α) (s : Session) : Except Fault α × Session := StateT.run (ExceptT.run t) s

theorem outcome_bind (t : Turn α) (f : α → Turn β) (s : Session) :
    outcome (t >>= f) s = match outcome t s with
      | (.ok x, after) => outcome (f x) after
      | (.error e, after) => (.error e, after) := by
  unfold outcome
  rw [ExceptT.run_bind, StateT.run_bind]
  rcases StateT.run (ExceptT.run t) s with ⟨e | x, after⟩
  · rfl
  · rfl

theorem outcome_get (s : Session) : outcome get s = (.ok s, s) := rfl

theorem outcome_liftM (x : Except Fault α) (s : Session) : outcome (liftM x) s = (x, s) := by
  cases x <;> rfl

theorem outcome_lift (a : Action α) (s : Session) :
    outcome (lift a) s =
      ((a.outcome s.workspace).1, { s with workspace := (a.outcome s.workspace).2 }) := by
  change outcome (liftM (a.outcome s.workspace).1)
    { s with workspace := (a.outcome s.workspace).2 } = _
  exact outcome_liftM _ _

/-- The process that a session runs: its tools are those that it has made. -/
def host (s : Session) : Host := ⟨s.workspace, s.captured.toList⟩

/-- An action of a session is one of its process. -/
theorem host_lift (a : Action Datum) (s : Session) :
    (outcome (lift a) s).2.host = (s.host.perform a).2 := by
  rw [outcome_lift]
  rfl

/-- It makes no difference where its answer is put into another form. -/
theorem host_answer (a : Action α) (f : α → Datum) (s : Session) :
    (outcome (do return f (← lift a)) s).2.host = (s.host.perform (do return f (← a))).2 := by
  rw [outcome_bind, outcome_lift, Host.perform, Action.outcome_answer]
  change _ = (⟨(a.outcome s.workspace).2, s.captured.toList⟩ : Host)
  rcases a.outcome s.workspace with ⟨e | x, after⟩
  · rfl
  · rfl

/-- What the process does in a step. Nothing is done where what is given is
refused, or where a snapshot is looked at that was kept. -/
def deeds (s : Session) : Step → List Deed
  | .call t arguments =>
    match t.accept arguments with
    | .ok a => [.request s.given (.ofArguments t a)]
    | .error _ => []
  | .tool t arguments =>
    (if s.captured.isNone then [.makeTools s.given] else []) ++
    match (t.check arguments).outcome with
    | .ok a => [.useTools 0 (.ofArguments t a)]
    | .error _ => []
  | .replace units => [.visit (.replace units)]
  | .current _ => [.visit .current]
  | .unit id => [.visit (.unit id)]
  | .clear => [.visit .clear]
  | .held _ => []
  | .read path => [.read s.given path]
  | .resolve input => [.resolve s.given input]
  | .choose none => [.choose none]
  | .choose (some values) =>
    match (Settings.ofValues values).outcome with
    | .ok chosen => [.choose (some chosen)]
    | .error _ => []
  | .assign pairs => [.enter (pairs.reverse ++ s.workspace.ambient.environment)]
  | .settings => [.ask]

/-- Tools are made when one is first asked for. -/
theorem capture_of_none (w : Workspace) (given : Option Settings)
    (held : List (String × Snapshot)) :
    outcome capture ⟨w, given, none, held⟩ = match (Action.settings given).outcome w with
      | (.ok c, after) => (.ok c, ⟨after, given, some c, held⟩)
      | (.error e, after) => (.error e, ⟨after, given, none, held⟩) := by
  change outcome (do
    let settings ← lift (Action.settings given)
    modify fun s => { s with captured := some settings }
    return settings) _ = _
  rw [outcome_bind, outcome_lift]
  rcases (Action.settings given).outcome w with ⟨e | c, after⟩
  · rfl
  · rfl

/-- What the tools of a session do when they are there. -/
theorem host_use (w : Workspace) (given : Option Settings) (c : Settings)
    (held : List (String × Snapshot)) (t : Tool) (arguments : Datum) :
    (outcome (do
      let a ← liftM (t.check arguments).outcome
      lift ((Request.ofArguments t a).runTool (some c))) ⟨w, given, some c, held⟩).2.host =
    Host.run ⟨w, [c]⟩ (match (t.check arguments).outcome with
      | .ok a => [.useTools 0 (.ofArguments t a)]
      | .error _ => []) := by
  rw [outcome_bind, outcome_liftM]
  cases (t.check arguments).outcome with
  | error e => rfl
  | ok a => exact host_lift ((Request.ofArguments t a).runTool (some c)) ⟨w, given, some c, held⟩

theorem host_tool (s : Session) (t : Tool) (arguments : Datum) :
    (outcome (turn (.tool t arguments)) s).2.host = s.host.run (s.deeds (.tool t arguments)) := by
  obtain ⟨w, given, _ | c, held⟩ := s
  · rw [turn, outcome_bind, capture_of_none, deeds, Host.run_append]
    change _ = Host.run (Host.step ⟨w, []⟩ (.makeTools given)).2 _
    rw [Host.step]
    rcases (Action.settings given).outcome w with ⟨e | c, after⟩
    · -- No tools are made, and a request to them comes to nothing.
      cases (t.check arguments).outcome with
      | ok a => rfl
      | error e => rfl
    · exact host_use after given c held t arguments
  · exact host_use w given c held t arguments

/-- A step of a session is what its deeds are for the process. -/
theorem host_step (s : Session) (st : Step) : (s.step st).2.host = s.host.run (s.deeds st) := by
  change (outcome (turn st) s).2.host = _
  cases st with
  | call t arguments =>
      rw [turn, outcome_bind, outcome_liftM, deeds]
      cases t.accept arguments with
      | error e => rfl
      | ok a => exact host_lift ((Request.ofArguments t a).run s.given) s
  | tool t arguments => exact host_tool s t arguments
  | replace units => exact host_answer (Action.replace units) (fun live => .text live.summary) s
  | current hold =>
      refine Eq.trans ?_ (host_answer Action.current glance s)
      rw [turn, outcome_bind, outcome_bind, outcome_lift]
      rcases Action.current.outcome s.workspace with ⟨e | live, after⟩
      · rfl
      · cases hold with
        | some name => rfl
        | none => rfl
  | unit id => exact host_answer (Action.unit id) Piece.toDatum s
  | clear => rfl
  | held name =>
      rw [turn, outcome_bind, outcome_get, deeds]
      dsimp only
      cases s.held.lookup name with
      | some live => rfl
      | none => rfl
  | read path =>
      exact (host_answer (do Action.readFile (← Action.settings s.given) path) .text s).trans
        (by rw [bind_assoc]; rfl)
  | resolve input =>
      exact (host_answer (do Action.resolve (← Action.settings s.given) input) .text s).trans
        (by rw [bind_assoc]; rfl)
  | choose values =>
      cases values with
      | none => rfl
      | some values =>
          rw [turn, deeds]
          cases (Settings.ofValues values).outcome with
          | ok chosen => rfl
          | error e => rfl
  | assign pairs =>
      change (⟨{ s.workspace with ambient := _ }, _⟩ : Host) = _
      rw [Ambient.foldl_assign]
      rfl
  | settings => exact host_answer (Action.settings none) Settings.toDatum s

/-- The session behind some steps. -/
def behind (s : Session) : List Step → Session
  | [] => s
  | st :: sts => (s.step st).2.behind sts

/-- What the process does in some steps. -/
def doings (s : Session) : List Step → List Deed
  | [] => []
  | st :: sts => s.deeds st ++ (s.step st).2.doings sts

theorem host_behind (s : Session) (sts : List Step) :
    (s.behind sts).host = s.host.run (s.doings sts) := by
  induction sts generalizing s with
  | nil => rfl
  | cons st sts ih => rw [behind, doings, Host.run_append, ← host_step, ih]

theorem length_steps (s : Session) (sts : List Step) : (s.steps sts).length = sts.length := by
  induction sts generalizing s with
  | nil => rfl
  | cons st sts ih => exact congrArg (· + 1) (ih (s.step st).2)

/-- Each row is that of its own step, taken by the session behind the steps
before. -/
theorem steps_append (s : Session) (before : List Step) (st : Step) (later : List Step) :
    s.steps (before ++ st :: later) =
      s.steps before ++ ((s.behind before).step st).1 :: ((s.behind before).step st).2.steps later := by
  induction before generalizing s with
  | nil => rfl
  | cons first before ih => exact congrArg ((s.step first).1 :: ·) (ih (s.step first).2)

/-- A request of a session, direct or to the tools that it has made, is
answered as by its process. -/
theorem outcome_request (s : Session) (t : Tool) (arguments : Datum) :
    (∀ a, t.accept arguments = .ok a → (s.step (.call t arguments)).1.outcome =
      (s.host.step (.request s.given (.ofArguments t a))).1) ∧
    ∀ c a, s.captured = some c → (t.check arguments).outcome = .ok a →
      (s.step (.tool t arguments)).1.outcome = (s.host.step (.useTools 0 (.ofArguments t a))).1 := by
  refine ⟨fun a ha => ?_, fun c a hcaptured ha => ?_⟩
  · change (outcome (turn (.call t arguments)) s).1 = _
    rw [turn, outcome_bind, outcome_liftM, ha]
    exact congrArg Prod.fst (outcome_lift ((Request.ofArguments t a).run s.given) s)
  · obtain ⟨w, given, captured, held⟩ := s
    cases hcaptured
    change (outcome (do
      let a ← liftM (t.check arguments).outcome
      lift ((Request.ofArguments t a).runTool (some c))) ⟨w, given, some c, held⟩).1 = _
    rw [outcome_bind, outcome_liftM, ha]
    exact congrArg Prod.fst
      (outcome_lift ((Request.ofArguments t a).runTool (some c)) ⟨w, given, some c, held⟩)

/-- The store behind some steps is the one behind the moves of its process. -/
theorem store_behind (s : Session) (sts : List Step) :
    (s.behind sts).workspace.store =
      storeAfter s.workspace.store (s.host.trail (s.doings sts)) := by
  have hrun := s.host.store_run (s.doings sts)
  rw [← host_behind] at hrun
  exact hrun

theorem behind_append (s : Session) (before later : List Step) :
    s.behind (before ++ later) = (s.behind before).behind later := by
  induction before generalizing s with
  | nil => rfl
  | cons first before ih => exact ih (s.step first).2

end Session

/-- Every session from a fresh store, under no settings of the process and
without tools. Its process is that of a run of deeds, whose past tells the
settings in force; its store is that of a run of moves, whose visits account for
what it holds; and each row shows the snapshot that is live behind its step. -/
theorem session_accounts (s : Session) (hstore : s.workspace.store = {})
    (hchosen : s.workspace.ambient.chosen = none) (sts : List Step) :
    (s.behind sts).host = s.host.run (s.doings sts) ∧
    Remembers (s.host.history (s.doings sts)) (s.behind sts).host ∧
    Accounts (history {} (s.host.trail (s.doings sts))) (s.behind sts).workspace.store ∧
    ∀ before st later, sts = before ++ st :: later →
      ∃ row, (s.steps sts)[before.length]? = some row ∧
        row.live = (storeAfter {} (s.host.trail (s.doings (before ++ [st])))).live := by
  have hstart : Remembers [] s.host := by
    change s.workspace.ambient.chosen = _
    rw [hchosen]
    rfl
  have hremembers := hstart.run (s.doings sts)
  have haccounts := Accounts.fresh.run (s.host.trail (s.doings sts))
  refine ⟨s.host_behind sts, ?_, ?_, ?_⟩
  · rw [s.host_behind]
    exact hremembers
  · rw [s.store_behind, hstore]
    exact haccounts
  · rintro before st later rfl
    refine ⟨((s.behind before).step st).1, ?_, ?_⟩
    · rw [s.steps_append, ← s.length_steps before, List.getElem?_append_right (Nat.le_refl _),
        Nat.sub_self]
      rfl
    · rw [← hstore, ← s.store_behind, s.behind_append]
      rfl

-- What was refused leaves the bundle that is there, and an emptied store goes on counting.
example : (({} : Session).steps [.replace [⟨"a", "a.js", "1"⟩],
    .replace [⟨"b", "b.js", "2"⟩, ⟨"b", "c.js", "3"⟩], .clear,
    .replace [⟨"b", "b.js", "2"⟩]]).map (fun row => row.live.map (·.generation)) =
      [some 1, some 1, none, some 3] := by
  rfl

end BundleAtlas
