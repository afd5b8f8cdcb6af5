import BundleAtlas.Proofs.Tool.Unpacking

/-!
The settings that a request works under. A request with settings of its own
neither sees nor changes those of the process. A request without any reads
those of the process at most once, and then does what it does when they are
given.
-/

namespace BundleAtlas

namespace Action

variable {α β : Type}

/-- The settings of the process have no part in the action: in place of them
there could be any others, and they are left as they are. -/
def IgnoresAmbient (a : Action α) : Prop :=
  ∀ (w : Workspace) (ambient : Ambient),
    a.outcome { w with ambient } = ((a.outcome w).1, { (a.outcome w).2 with ambient })

namespace IgnoresAmbient

theorem pure (x : α) : IgnoresAmbient (Pure.pure x) := fun _ _ => rfl

theorem report (entries : List Entry) : IgnoresAmbient (Action.report entries) := fun _ _ => rfl

theorem throw (e : Fault) : IgnoresAmbient (MonadExcept.throw e : Action α) := fun _ _ => rfl

theorem ofExcept (e : Except Fault α) : IgnoresAmbient (Action.ofExcept e) := by
  intro w ambient
  rw [outcome_ofExcept, outcome_ofExcept]

theorem bind {a : Action α} {f : α → Action β} (ha : IgnoresAmbient a)
    (hf : ∀ x, IgnoresAmbient (f x)) : IgnoresAmbient (a >>= f) := by
  intro w ambient
  rw [outcome_bind, outcome_bind, ha w ambient]
  rcases a.outcome w with ⟨fault | x, after⟩
  · rfl
  · exact hf x after ambient

theorem tryCatch {a : Action α} {handle : Fault → Action α} (ha : IgnoresAmbient a)
    (hhandle : ∀ e, IgnoresAmbient (handle e)) :
    IgnoresAmbient (MonadExcept.tryCatch a handle) := by
  intro w ambient
  rw [outcome_tryCatch, outcome_tryCatch, ha w ambient]
  rcases a.outcome w with ⟨fault | x, after⟩
  · exact hhandle fault after ambient
  · rfl

theorem get {f : Workspace → Action α} (hf : ∀ w, IgnoresAmbient (f w))
    (hblind : ∀ w ambient, f { w with ambient } = f w) :
    IgnoresAmbient (MonadState.get >>= f) := by
  intro w ambient
  change (f { w with ambient }).outcome { w with ambient } = _
  rw [hblind w ambient]
  exact hf w w ambient

theorem composes : Composes (fun _ => True) @IgnoresAmbient where
  failure := fun _ => trivial
  bind := bind
  tryCatch := fun ha hhandle => tryCatch ha fun e => hhandle e (throw e)
  ofExcept := fun _ => ofExcept _
  get := get
  report := report

theorem settings (s : Settings) : IgnoresAmbient (Action.settings (some s)) := pure s

theorem resolve (s : Settings) (input : Input) : IgnoresAmbient (Action.resolve s input) :=
  composes.resolve (fun _ _ => trivial) s input

theorem replace (units : List Piece) : IgnoresAmbient (Action.replace units) := by
  intro w ambient
  -- The store is written first; what follows it only reports.
  exact IgnoresAmbient.bind (.ofExcept (w.store.replace units).1)
    (fun live => .bind (.report _) fun _ => .pure live)
    { w with store := (w.store.replace units).2 } ambient

theorem deobfuscate (s : Settings) (input : Input) (o : UnpackOptions) :
    IgnoresAmbient (Action.deobfuscate (some s) input o) := by
  have hpreparation : IgnoresAmbient (Action.preparation (some s) input o) := by
    refine .bind (.settings s) fun s => .bind (.resolve s input) fun source => ?_
    refine .bind (.report _) fun _ => .bind (.ofExcept _) fun result => ?_
    exact .bind (.report _) fun _ => .bind (composes.response s o result) fun answer => .pure _
  rw [deobfuscate_eq]
  exact .bind hpreparation fun prepared => .bind (.replace _) fun live => .pure _

theorem keeps {a : Action α} (ha : IgnoresAmbient a) (w : Workspace) :
    (a.outcome w).2.ambient = w.ambient := by
  have hsame := congrArg (fun outcome => outcome.2.ambient) (ha w w.ambient)
  exact hsame

end IgnoresAmbient

end Action

namespace Request

/-- Whether a request without settings of its own gets so far that it reads
those of the process. -/
def readsSettings (store : Store) : Request → Bool
  | listModules _ | getHelp _ => false
  | getModule id => (store.get id).isOk
  | _ => true

theorem run_ignoresAmbient (s : Settings) (r : Request) :
    Action.IgnoresAmbient (r.run (some s)) := by
  by_cases hunpacks : r.tool = .deobfuscate
  · cases r with
    | deobfuscate input o => exact .bind (.deobfuscate s input o) fun _ => .pure _
    | _ => cases hunpacks
  · by_cases hsearches : r.tool = .searchModules
    · cases r with
      | searchModules query isRegex limit =>
          refine .bind (.bind (.settings s) fun s => ?_) fun _ => .pure _
          exact .bind Action.IgnoresAmbient.composes.current fun live =>
            .get (fun _ => .ofExcept _) fun _ _ => rfl
      | _ => cases hsearches
    · exact Action.IgnoresAmbient.composes.run (.settings s) ⟨hunpacks, hsearches⟩
        fun s input _ => .resolve s input

theorem runTool_ignoresAmbient (s : Settings) (r : Request) :
    Action.IgnoresAmbient (r.runTool (some s)) := by
  refine .tryCatch (.bind (r.run_ignoresAmbient s) fun _ => .pure _) fun e => ?_
  split
  · exact .pure _
  · exact .throw e

/-- Work that starts with the settings of the process is the work under given
ones, behind reading them. -/
theorem settings_none_bind {α : Type} (work : Settings → Action α) (answer : α → Action Datum)
    (w : Workspace) :
    (Action.settings none >>= work >>= answer).outcome w =
      match (Action.settings none).outcome w with
      | (.ok s, after) => (Action.settings (some s) >>= work >>= answer).outcome after
      | (.error e, after) => (.error e, after) := by
  rw [bind_assoc, Action.outcome_bind]
  rcases (Action.settings none).outcome w with ⟨fault | s, after⟩
  · rfl
  · rfl

/-- A request that reads the settings of the process goes on as if they had
been given, and ends there if they cannot be read. -/
theorem run_none_of_reads {r : Request} {w : Workspace}
    (hreads : r.readsSettings w.store = true) :
    (r.run none).outcome w = match (Action.settings none).outcome w with
      | (.ok s, after) => (r.run (some s)).outcome after
      | (.error e, after) => (.error e, after) := by
  cases r with
  | listModules x => cases hreads
  | getHelp n => cases hreads
  | getModule id =>
      have hkept := Action.KeepsStore.settings none w
      obtain ⟨u, hu⟩ : ∃ u, w.store.get id = .ok u := by
        cases hget : w.store.get id with
        | ok u => exact ⟨u, rfl⟩
        | error e => simp [readsSettings, hget, Except.isOk, Except.toBool] at hreads
      simp only [run, Action.getModule, Action.outcome_bind, Action.outcome_unit, hu]
      rcases hread : (Action.settings none).outcome w with ⟨fault | s, after⟩
      · rfl
      · rw [hread] at hkept
        simp only [show after.store = w.store from hkept, hu]
        rfl
  | deobfuscate input o => exact settings_none_bind _ _ w
  | searchModules query isRegex limit => exact settings_none_bind _ _ w
  | listFunctions moduleId limit => exact settings_none_bind _ _ w
  | getCallGraph symbol moduleId everywhere => exact settings_none_bind _ _ w
  | analyzeStructure input limit => exact settings_none_bind _ _ w
  | getSymbolSource symbol input moduleId => exact settings_none_bind _ _ w
  | formatCode input parser => exact settings_none_bind _ _ w

theorem run_none_of_not_reads {r : Request} {w : Workspace}
    (hreads : r.readsSettings w.store = false) (given : Option Settings) :
    (r.run none).outcome w = (r.run given).outcome w := by
  cases r with
  | listModules x => rfl
  | getHelp n => rfl
  | getModule id =>
      obtain ⟨e, he⟩ : ∃ e, w.store.get id = .error e := by
        cases hget : w.store.get id with
        | ok u => simp [readsSettings, hget, Except.isOk, Except.toBool] at hreads
        | error e => exact ⟨e, rfl⟩
      simp only [run, Action.getModule, Action.outcome_bind, Action.outcome_unit, he]
  | _ => cases hreads

end Request

end BundleAtlas
