import BundleAtlas.Proofs.Fault
import BundleAtlas.Tool.Run

/-!
Outcomes of actions, one equation for each way to make an action, and the
properties that an action has when its parts have them. One of these is that
the store is left as it is, with a result or with a fault.
-/

namespace BundleAtlas

theorem Snapshot.ofUnits_of_nodup {units : List Piece} (generation : Nat)
    (hnodup : (units.map (·.id)).Nodup) :
    ofUnits units generation = .ok ⟨units, generation, hnodup⟩ := by
  unfold ofUnits
  split
  · rename_i id hid
    have hnone := (duplicate?_eq_none [] units).mpr ⟨hnodup, by simp⟩
    rw [hid] at hnone
    cases hnone
  · rfl

theorem Snapshot.ofUnits_of_not_nodup {units : List Piece} (generation : Nat)
    (hnodup : ¬ (units.map (·.id)).Nodup) : ∃ e, ofUnits units generation = .error e := by
  unfold ofUnits
  split
  · exact ⟨_, rfl⟩
  · rename_i hnone
    exact absurd ((duplicate?_eq_none [] units).mp hnone).1 hnodup

/-- Units under distinct ids are stored under the next number. -/
theorem Store.replace_of_nodup (s : Store) {units : List Piece}
    (hnodup : (units.map (·.id)).Nodup) :
    s.replace units =
      (.ok ⟨units, s.attempts + 1, hnodup⟩,
        ⟨some ⟨units, s.attempts + 1, hnodup⟩, s.attempts + 1⟩) := by
  simp only [replace, Snapshot.ofUnits_of_nodup _ hnodup]

/-- Units that share an id are refused. The number of the attempt is used up. -/
theorem Store.replace_of_not_nodup (s : Store) {units : List Piece}
    (hnodup : ¬ (units.map (·.id)).Nodup) :
    ∃ e, s.replace units = (.error e, { s with attempts := s.attempts + 1 }) := by
  obtain ⟨e, he⟩ := Snapshot.ofUnits_of_not_nodup (s.attempts + 1) hnodup
  exact ⟨e, by simp only [replace, he]⟩

namespace Action

variable {α β : Type}

theorem outcome_pure (x : α) (w : Workspace) : outcome (pure x) w = (.ok x, w) := rfl

theorem outcome_bind (a : Action α) (f : α → Action β) (w : Workspace) :
    (a >>= f).outcome w = match a.outcome w with
      | (.ok x, after) => (f x).outcome after
      | (.error e, after) => (.error e, after) := by
  unfold outcome
  rw [ExceptT.run_bind, StateT.run_bind]
  cases hrun : StateT.run (ExceptT.run a) w with
  | mk result after =>
      cases result with
      | ok x => rfl
      | error e => rfl

/-- An action whose result is passed on in another form ends as the action does. -/
theorem outcome_answer (a : Action α) (f : α → β) (w : Workspace) :
    Action.outcome (do return f (← a)) w = ((a.outcome w).1.map f, (a.outcome w).2) := by
  rw [outcome_bind]
  cases hrun : a.outcome w with
  | mk result after =>
      cases result with
      | ok x => rfl
      | error e => rfl

theorem outcome_ofExcept (e : Except Fault α) (w : Workspace) :
    (ofExcept e).outcome w = (e, w) := by
  cases e <;> rfl

theorem outcome_report (entries : List Entry) (w : Workspace) :
    (report entries).outcome w = (.ok (), { w with journal := w.journal ++ entries }) := rfl

theorem outcome_get_bind (f : Workspace → Action α) (w : Workspace) :
    Action.outcome (get >>= f) w = (f w).outcome w := rfl

theorem outcome_current (w : Workspace) : current.outcome w = (w.store.current, w) :=
  outcome_ofExcept w.store.current w

theorem outcome_unit (id : String) (w : Workspace) :
    (unit id).outcome w = (w.store.get id, w) :=
  outcome_ofExcept (w.store.get id) w

theorem outcome_tryCatch (a : Action α) (handle : Fault → Action α) (w : Workspace) :
    (tryCatch a handle).outcome w = match a.outcome w with
      | (.ok x, after) => (.ok x, after)
      | (.error e, after) => (handle e).outcome after := by
  unfold outcome
  rw [ExceptT.run_tryCatch, StateT.run_bind]
  cases hrun : StateT.run (ExceptT.run a) w with
  | mk result after =>
      cases result with
      | ok x => rfl
      | error e => rfl

/-- Storing units has the outcome of the store, and the store behind it. -/
theorem outcome_replace (units : List Piece) (w : Workspace) :
    ((replace units).outcome w).1 = (w.store.replace units).1 ∧
      ((replace units).outcome w).2.store = (w.store.replace units).2 := by
  change (((ofExcept (w.store.replace units).1 >>= fun live => report [_] >>= fun _ => pure live) :
    Action Snapshot).outcome { w with store := (w.store.replace units).2 }).1 = _ ∧
    (((ofExcept (w.store.replace units).1 >>= fun live => report [_] >>= fun _ => pure live) :
    Action Snapshot).outcome { w with store := (w.store.replace units).2 }).2.store = _
  rw [outcome_bind, outcome_ofExcept]
  cases (w.store.replace units).1 with
  | ok live => exact ⟨rfl, rfl⟩
  | error e => exact ⟨rfl, rfl⟩

/-- A symbol is looked for in the unit of an id that is not empty. -/
theorem symbolText_of_ne {id : String} (hid : id ≠ "") (s : Settings) (input : Input) :
    symbolText s input (some id) = do return (← unit id).text := by
  unfold symbolText
  split
  · contradiction
  · simp_all
  · simp_all

/-- Whether an id names a unit: it is there and not empty. -/
def namesUnit (moduleId : Option String) : Bool := moduleId.any (· != "")

end Action

/-- The input that a request reads. A symbol is looked for in an input only if
no unit is named. -/
def Request.input? : Request → Option Input
  | deobfuscate input _ | analyzeStructure input _ | formatCode input _ => some input
  | getSymbolSource _ input moduleId => if Action.namesUnit moduleId then none else some input
  | listModules _ | getModule _ | searchModules .. | listFunctions .. | getCallGraph .. |
    getHelp _ => none

namespace Action

variable {α β : Type}

/-- A property of actions that comes with their parts: it holds of reporting
and of every computation with a result or a fault that is allowed, as failures
are, and of what is put together from such. What goes on with a look at the
workspace has it as well, if the look is not at the settings of the process. -/
structure Composes (allowed : Fault → Prop) (P : (α : Type) → Action α → Prop) : Prop where
  failure : ∀ f : Failure, allowed f
  bind : ∀ {α β : Type} {a : Action α} {f : α → Action β}, P α a → (∀ x, P β (f x)) →
    P β (a >>= f)
  /-- A handler may throw again what it was given. -/
  tryCatch : ∀ {α : Type} {a : Action α} {handle : Fault → Action α}, P α a →
    (∀ e, P α (MonadExcept.throw e) → P α (handle e)) → P α (MonadExcept.tryCatch a handle)
  ofExcept : ∀ {α : Type} {x : Except Fault α}, ErrsBy allowed x → P α (Action.ofExcept x)
  get : ∀ {α : Type} {f : Workspace → Action α}, (∀ w, P α (f w)) →
    (∀ w ambient, f { w with ambient } = f w) → P α (MonadState.get >>= f)
  report : ∀ entries, P Unit (Action.report entries)

namespace Composes

variable {allowed : Fault → Prop} {P : (α : Type) → Action α → Prop} (h : Composes allowed P)

include h

theorem pure (x : α) : P α (Pure.pure x) := h.ofExcept (.ok x)

theorem fail (f : Failure) : P α (Action.fail f) := h.ofExcept (.error (h.failure f))

theorem ofFailing {x : Except Fault α} (hx : ErrsByFailure x) : P α (Action.ofExcept x) := by
  refine h.ofExcept fun e he => ?_
  obtain ⟨f, rfl⟩ := Fault.eq_of_isFailure (hx e he)
  exact h.failure f

theorem current : P Snapshot Action.current :=
  h.get (fun w => h.ofFailing w.store.current_errsByFailure) fun _ _ => rfl

theorem unit (id : String) : P Piece (Action.unit id) :=
  h.get (fun w => h.ofFailing (w.store.get_errsByFailure id)) fun _ _ => rfl

theorem format (s : Settings) (parser text : String) : P String (Action.format s parser text) :=
  h.ofFailing (prettyPrint_errsByFailure parser _ text)

theorem place (s : Settings) (filePath : String) : P Path (Action.place s filePath) := by
  unfold Action.place
  dsimp only
  split
  · exact h.pure _
  · split
    · split
      · exact h.pure _
      · exact h.get (fun _ => h.pure _) fun _ _ => rfl
    · exact h.get (fun _ => h.pure _) fun _ _ => rfl

theorem readFile (hsystem : ∀ number message, allowed (.system number message)) (s : Settings)
    (filePath : String) : P String (Action.readFile s filePath) := by
  refine h.bind (h.place s filePath) fun p => h.get (fun w => ?_) fun _ _ => rfl
  split
  · exact h.ofExcept (.error (hsystem _ _))
  · exact h.bind (h.report _) fun _ => h.fail _
  · split
    · exact h.pure _
    · exact h.fail _

/-- What is done with the text of an input. -/
theorem limited (s : Settings) (text : String) : P String (do
    if s.maxCodeSize < text.length then
      Action.fail (Failure.inputTooLarge text.length s.maxCodeSize)
    return text) := by
  dsimp only
  split
  · exact h.bind (h.fail _) fun _ => h.pure _
  · exact h.pure _

theorem resolve (hsystem : ∀ number message, allowed (.system number message)) (s : Settings)
    (input : Input) : P String (Action.resolve s input) := by
  unfold Action.resolve
  split
  · exact h.bind (h.pure _) (h.limited s)
  · exact h.bind (h.fail _) (h.limited s)
  · exact h.bind (h.readFile hsystem s _) (h.limited s)
  · exact h.bind (h.fail _) (h.limited s)

theorem symbolText (s : Settings) (input : Input) (moduleId : Option String)
    (hresolve : namesUnit moduleId = false → P String (Action.resolve s input)) :
    P String (Action.symbolText s input moduleId) := by
  unfold Action.symbolText
  split
  case h_3 => exact h.bind (h.unit _) fun _ => h.pure _
  all_goals
    refine h.tryCatch (hresolve rfl) fun e hthrow => ?_
    split
    · exact h.fail _
    · exact hthrow

theorem listFunctions {given : Option Settings} (hsettings : P Settings (Action.settings given))
    (moduleId : Option String) (limit : Option Int) :
    P (List SymbolEntry) (Action.listFunctions given moduleId limit) := by
  refine h.bind hsettings fun s => ?_
  have hscan : ∀ units : List Piece, P (List SymbolEntry) (do
      let found := scanSymbols s.dialect.parse units (some (limitOf s limit))
      Action.report (scanEntries found)
      return found.symbols) :=
    fun units => h.bind (h.report _) fun _ => h.pure _
  dsimp only
  split
  · exact h.bind h.current fun _ => h.bind (h.pure _) hscan
  · exact h.bind h.current fun _ => h.bind (h.pure _) hscan
  · exact h.bind (h.unit _) fun _ => h.bind (h.pure _) hscan

/-- All requests have the property, if reading their input has it, but
unpacking, which writes to the store, and searching, which may end with a fault
that is no failure. -/
theorem run {given : Option Settings} (hsettings : P Settings (Action.settings given))
    {r : Request} (htool : r.tool ≠ .deobfuscate ∧ r.tool ≠ .searchModules)
    (hresolve : ∀ s input, r.input? = some input → P String (Action.resolve s input)) :
    P Datum (r.run given) := by
  cases r with
  | deobfuscate => exact absurd rfl htool.1
  | searchModules => exact absurd rfl htool.2
  | listModules x => exact h.bind (h.bind h.current fun _ => h.pure _) fun _ => h.pure _
  | getModule id =>
      refine h.bind (h.bind (h.unit id) fun u => ?_) fun _ => h.pure _
      exact h.bind hsettings fun s => h.format s _ _
  | listFunctions m l => exact h.bind (h.listFunctions hsettings m l) fun _ => h.pure _
  | getCallGraph symbol m everywhere =>
      refine h.bind (h.bind hsettings fun s => h.bind h.current fun live => ?_) fun _ => h.pure _
      have hbuild := CallGraph.build_errsByFailure s.dialect.parse live symbol m everywhere
      exact h.bind (h.ofFailing hbuild) fun _ => h.bind (h.report _) fun _ => h.pure _
  | analyzeStructure i l =>
      refine h.bind (h.bind hsettings fun s => h.bind (hresolve s i rfl) fun text => ?_) fun _ =>
        h.pure _
      exact h.ofFailing (.bind (s.dialect.parse_errsByFailure text) fun _ => .pure _)
  | getSymbolSource name i m =>
      have hinput : namesUnit m = false → (Request.getSymbolSource name i m).input? = some i :=
        fun hnames => by rw [Request.input?, if_neg (by simp [hnames])]
      refine h.bind (h.bind hsettings fun s => h.bind (h.symbolText s i m fun hnames =>
        hresolve s i (hinput hnames)) fun text => ?_) fun _ => h.pure _
      refine h.bind (h.ofFailing (s.dialect.parse_errsByFailure text)) fun parsed => ?_
      exact h.bind (h.ofFailing (parsed.findSymbol_errsByFailure name)) fun _ => h.format s _ _
  | formatCode i p =>
      refine h.bind (h.bind hsettings fun s => h.bind (hresolve s i rfl) fun text => ?_) fun _ =>
        h.pure _
      exact h.format s _ _
  | getHelp n =>
      refine h.bind ?_ fun _ => h.pure _
      unfold Action.getHelp
      split
      · exact h.pure _
      · exact h.fail _

end Composes

/-- An action leaves the store as it is, with a result or with a fault. -/
def KeepsStore (a : Action α) : Prop := ∀ w, (a.outcome w).2.store = w.store

namespace KeepsStore

theorem pure (x : α) : KeepsStore (Pure.pure x) := fun _ => rfl

theorem bind {a : Action α} {f : α → Action β} (ha : KeepsStore a)
    (hf : ∀ x, KeepsStore (f x)) : KeepsStore (a >>= f) := by
  intro w
  have hfirst := ha w
  rw [outcome_bind]
  cases hrun : a.outcome w with
  | mk result after =>
      rw [hrun] at hfirst
      cases result with
      | ok x => exact (hf x after).trans hfirst
      | error e => exact hfirst

theorem tryCatch {a : Action α} {handle : Fault → Action α} (ha : KeepsStore a)
    (hhandle : ∀ e, KeepsStore (handle e)) : KeepsStore (MonadExcept.tryCatch a handle) := by
  intro w
  have hfirst := ha w
  rw [outcome_tryCatch]
  cases hrun : a.outcome w with
  | mk result after =>
      rw [hrun] at hfirst
      cases result with
      | ok x => exact hfirst
      | error e => exact (hhandle e after).trans hfirst

theorem ofExcept (e : Except Fault α) : KeepsStore (Action.ofExcept e) := by
  intro w
  rw [outcome_ofExcept]

theorem throw (e : Fault) : KeepsStore (MonadExcept.throw e : Action α) := fun _ => rfl

theorem get : KeepsStore (MonadState.get : Action Workspace) := fun _ => rfl

theorem report (entries : List Entry) : KeepsStore (Action.report entries) := fun _ => rfl

theorem current : KeepsStore Action.current := by
  intro w
  rw [outcome_current]

theorem unit (id : String) : KeepsStore (Action.unit id) := by
  intro w
  rw [outcome_unit]

theorem settings (given : Option Settings) : KeepsStore (Action.settings given) := by
  unfold Action.settings
  cases given with
  | some s => exact .pure s
  | none =>
      intro w
      exact ofExcept w.ambient.settings.1 { w with ambient := w.ambient.settings.2 }

theorem composes : Composes (fun _ => True) @KeepsStore where
  failure := fun _ => trivial
  bind := bind
  tryCatch := fun ha hhandle => tryCatch ha fun e => hhandle e (throw e)
  ofExcept := fun _ => ofExcept _
  get := fun hf _ => bind get hf
  report := report

theorem resolve (s : Settings) (input : Input) : KeepsStore (Action.resolve s input) :=
  composes.resolve (fun _ _ => trivial) s input

end KeepsStore

end Action

end BundleAtlas
