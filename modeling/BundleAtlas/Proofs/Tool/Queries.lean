import BundleAtlas.Proofs.Tool.Outcome

/-!
Queries: all requests but unpacking. They leave the store as it is, and those
that look into the bundle complain that there is none exactly when the store
is empty. Every other fault that a query can end with is of another kind.
-/

namespace BundleAtlas

/-- Whether a fault says that no bundle has been unpacked. -/
def Fault.isNoBundle : Fault → Bool
  | .failure (.noBundle _) => true
  | _ => false

namespace Request

/-- Requests that only look. -/
def isQuery : Request → Bool
  | deobfuscate .. => false
  | _ => true

/-- Requests that look into the bundle: a symbol is looked for there only if
a unit is named. -/
def needsBundle : Request → Bool
  | listModules _ | getModule _ | searchModules .. | listFunctions .. | getCallGraph .. => true
  | getSymbolSource _ _ (some id) => id != ""
  | _ => false

end Request

/-- A query leaves the store as it is, with a result or with a fault. -/
theorem Request.run_keepsStore (given : Option Settings) {r : Request} (hquery : r.isQuery = true) :
    Action.KeepsStore (r.run given) := by
  have hunpacks : r.tool ≠ .deobfuscate := by
    intro htool
    cases r with
    | deobfuscate => cases hquery
    | _ => cases htool
  by_cases hsearches : r.tool = .searchModules
  · cases r with
    | searchModules q x l =>
        refine .bind (.bind (.settings given) fun s => ?_) fun _ => Action.KeepsStore.pure _
        exact .bind .current fun live => .bind .get fun _ => .ofExcept _
    | _ => cases hsearches
  · exact Action.KeepsStore.composes.run (.settings given) ⟨hunpacks, hsearches⟩
      fun s input _ => .resolve s input

namespace Action

variable {α β : Type}

/-- The action ends with the complaint that no bundle has been unpacked. -/
def MissesBundle (a : Action α) (w : Workspace) : Prop :=
  ∃ e, (a.outcome w).1 = .error e ∧ e.isNoBundle = true

theorem not_missesBundle_pure (x : α) (w : Workspace) : ¬ MissesBundle (pure x) w := by
  rintro ⟨e, he, _⟩
  cases he

theorem not_missesBundle_report (entries : List Entry) (w : Workspace) :
    ¬ MissesBundle (report entries) w := by
  rintro ⟨e, he, _⟩
  cases he

theorem not_missesBundle_ofExcept {x : Except Fault α}
    (hx : ∀ e, x = .error e → e.isNoBundle = false) (w : Workspace) :
    ¬ MissesBundle (ofExcept x) w := by
  rintro ⟨e, he, hmissing⟩
  rw [outcome_ofExcept] at he
  rw [hx e he] at hmissing
  cases hmissing

/-- If the rest of an action never misses a bundle, only its start can. -/
theorem missesBundle_bind {a : Action α} {f : α → Action β} {w : Workspace}
    (hrest : ∀ x after, ¬ MissesBundle (f x) after) :
    MissesBundle (a >>= f) w ↔ MissesBundle a w := by
  unfold MissesBundle
  rw [outcome_bind]
  rcases hrun : a.outcome w with ⟨fault | x, after⟩
  · constructor
    · rintro ⟨e, he, hmissing⟩
      cases he
      exact ⟨fault, rfl, hmissing⟩
    · rintro ⟨e, he, hmissing⟩
      cases he
      exact ⟨fault, rfl, hmissing⟩
  · constructor
    · intro hmisses
      exact absurd hmisses (hrest x after)
    · rintro ⟨e, he, _⟩
      cases he

theorem missesBundle_current (w : Workspace) :
    MissesBundle current w ↔ w.store.live = none := by
  unfold MissesBundle
  rw [outcome_current, Store.current]
  cases w.store.live with
  | none => exact ⟨fun _ => rfl, fun _ => ⟨_, rfl, rfl⟩⟩
  | some live => simp

theorem missesBundle_unit (id : String) (w : Workspace) :
    MissesBundle (unit id) w ↔ w.store.live = none := by
  unfold MissesBundle
  rw [outcome_unit, Store.get, Store.current]
  cases w.store.live with
  | none => exact ⟨fun _ => rfl, fun _ => ⟨_, rfl, rfl⟩⟩
  | some live =>
      simp only [bind, Except.bind, reduceCtorEq, iff_false]
      rintro ⟨e, he, hmissing⟩
      split at he
      · cases he
      · cases he
        cases hmissing

end Action

theorem Dialect.isNoBundle_of_parse {dialect : Dialect} {text : String} {e : Fault}
    (he : dialect.parse text = .error e) : e.isNoBundle = false := by
  unfold Dialect.parse at he
  split at he
  · cases he
  · cases he
    rfl

theorem Parsed.isNoBundle_of_findSymbol {p : Parsed} {name : String} {e : Fault}
    (he : p.findSymbol name = .error e) : e.isNoBundle = false := by
  unfold Parsed.findSymbol at he
  split at he
  · cases he
  · cases he
    rfl

theorem isNoBundle_of_prettyPrint {language : String} {width : Nat} {text : String} {e : Fault}
    (he : prettyPrint language width text = .error e) : e.isNoBundle = false := by
  unfold prettyPrint at he
  dsimp only at he
  split at he
  · cases he
    rfl
  · split at he
    · cases he
    · cases he
      rfl

theorem isNoBundle_of_searchUnits {reader : PatternReader} {s : Snapshot} {query : String}
    {isPattern : Bool} {limit : Int} {e : Fault}
    (he : searchUnits reader s query isPattern limit = .error e) : e.isNoBundle = false := by
  unfold searchUnits matcher at he
  split at he
  · split at he
    · cases he
    · rename_i problem _
      cases he
      cases problem <;> rfl
  · cases he

theorem CallGraph.isNoBundle_of_build {parse : Parse} {s : Snapshot} {symbol unitId : String}
    {everywhere : Bool} {e : Fault} (he : build parse s symbol unitId everywhere = .error e) :
    e.isNoBundle = false := by
  unfold build at he
  split at he
  · cases he
    rfl
  · cases he

namespace Action

variable (s : Settings) (w : Workspace)

theorem not_missesBundle_bind {α β : Type} {a : Action α} {f : α → Action β} {w : Workspace}
    (hstart : ¬ MissesBundle a w) (hrest : ∀ x after, ¬ MissesBundle (f x) after) :
    ¬ MissesBundle (a >>= f) w := by
  rw [missesBundle_bind hrest]
  exact hstart

theorem not_missesBundle_format (parser text : String) : ¬ MissesBundle (format s parser text) w :=
  not_missesBundle_ofExcept (fun _ => isNoBundle_of_prettyPrint) w

theorem missesBundle_listModules (excludeVendor : Bool) :
    MissesBundle (listModules excludeVendor) w ↔ w.store.live = none := by
  rw [listModules, missesBundle_bind fun _ => not_missesBundle_pure _]
  exact missesBundle_current w

theorem missesBundle_getModule (id : String) :
    MissesBundle (getModule (some s) id) w ↔ w.store.live = none := by
  rw [getModule, missesBundle_bind]
  · exact missesBundle_unit id w
  · intro u after
    exact not_missesBundle_bind (not_missesBundle_pure s after) fun settings later =>
      not_missesBundle_format settings later "babel" u.text

theorem missesBundle_searchModules (query : String) (isRegex : Bool) (limit : Option Int) :
    MissesBundle (searchModules (some s) query isRegex limit) w ↔ w.store.live = none := by
  rw [searchModules, settings, pure_bind, missesBundle_bind]
  · exact missesBundle_current w
  · intro live after
    rw [MissesBundle, outcome_get_bind]
    exact not_missesBundle_ofExcept (fun _ => isNoBundle_of_searchUnits) after

theorem missesBundle_listFunctions (moduleId : Option String) (limit : Option Int) :
    MissesBundle (listFunctions (some s) moduleId limit) w ↔ w.store.live = none := by
  have hscan : ∀ (units : List Piece) (after : Workspace), ¬ MissesBundle (do
      let found := scanSymbols s.dialect.parse units (some (limitOf s limit))
      report (scanEntries found)
      return found.symbols : Action (List SymbolEntry)) after := by
    intro units after
    exact not_missesBundle_bind (not_missesBundle_report _ after) fun _ =>
      not_missesBundle_pure _
  rw [listFunctions, settings, pure_bind]
  split
  · rw [missesBundle_bind fun live after =>
      not_missesBundle_bind (not_missesBundle_pure _ after) hscan]
    exact missesBundle_current w
  · rw [missesBundle_bind fun live after =>
      not_missesBundle_bind (not_missesBundle_pure _ after) hscan]
    exact missesBundle_current w
  · rw [missesBundle_bind fun u after =>
      not_missesBundle_bind (not_missesBundle_pure _ after) hscan]
    exact missesBundle_unit _ w

theorem missesBundle_getCallGraph (symbol moduleId : String) (everywhere : Bool) :
    MissesBundle (getCallGraph (some s) symbol moduleId everywhere) w ↔ w.store.live = none := by
  rw [getCallGraph, settings, pure_bind, missesBundle_bind]
  · exact missesBundle_current w
  · intro live after
    have hbuild : ¬ MissesBundle (ofExcept
        (CallGraph.build s.dialect.parse live symbol moduleId everywhere)) after :=
      not_missesBundle_ofExcept (fun _ => CallGraph.isNoBundle_of_build) after
    refine not_missesBundle_bind hbuild fun graph later => ?_
    exact not_missesBundle_bind (not_missesBundle_report _ later) fun _ =>
      not_missesBundle_pure _

theorem missesBundle_getSymbolSource (symbol : String) (input : Input) {id : String}
    (hid : id ≠ "") :
    MissesBundle (getSymbolSource (some s) symbol input (some id)) w ↔ w.store.live = none := by
  rw [getSymbolSource, settings, pure_bind, symbolText_of_ne hid, missesBundle_bind]
  · rw [missesBundle_bind fun _ => not_missesBundle_pure _]
    exact missesBundle_unit id w
  · intro text after
    have hparse : ¬ MissesBundle (ofExcept (s.dialect.parse text)) after :=
      not_missesBundle_ofExcept (fun _ => Dialect.isNoBundle_of_parse) after
    refine not_missesBundle_bind hparse fun parsed later => ?_
    have hfind : ¬ MissesBundle (ofExcept (parsed.findSymbol symbol)) later :=
      not_missesBundle_ofExcept (fun _ => Parsed.isNoBundle_of_findSymbol) later
    exact not_missesBundle_bind hfind fun found last =>
      not_missesBundle_format s last "babel" found.text

end Action

/-- A request that looks into the bundle misses it exactly when the store is
empty. -/
theorem Request.missesBundle_run (s : Settings) {r : Request} (hneeds : r.needsBundle = true)
    (w : Workspace) : (r.run (some s)).MissesBundle w ↔ w.store.live = none := by
  have hanswer : ∀ {α : Type} (a : Action α) (f : α → Datum),
      Action.MissesBundle (do return f (← a)) w ↔ a.MissesBundle w :=
    fun a f => Action.missesBundle_bind fun _ => Action.not_missesBundle_pure _
  cases r with
  | deobfuscate | analyzeStructure | formatCode | getHelp => cases hneeds
  | listModules x => exact (hanswer _ _).trans (Action.missesBundle_listModules w x)
  | getModule id => exact (hanswer _ _).trans (Action.missesBundle_getModule s w id)
  | searchModules q x l =>
      exact (hanswer _ _).trans (Action.missesBundle_searchModules s w q x l)
  | listFunctions m l => exact (hanswer _ _).trans (Action.missesBundle_listFunctions s w m l)
  | getCallGraph symbol m e =>
      exact (hanswer _ _).trans (Action.missesBundle_getCallGraph s w symbol m e)
  | getSymbolSource name i m =>
      cases m with
      | none => cases hneeds
      | some id =>
          have hid : id ≠ "" := by simpa [needsBundle] using hneeds
          exact (hanswer _ _).trans (Action.missesBundle_getSymbolSource s w name i hid)

end BundleAtlas
