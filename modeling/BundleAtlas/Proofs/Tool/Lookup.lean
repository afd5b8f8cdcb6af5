import BundleAtlas.Proofs.Symbol.CallGraph
import BundleAtlas.Proofs.Symbol.Scan
import BundleAtlas.Proofs.Tool.Outcome

/-!
Operations on one unit of the bundle. Each of them takes an id and looks it up
in its own way; as no two units share an id, all come to the same unit or to
none. An empty id is looked up only where an id must be given: where it may be
left out, an empty one counts as left out, also if a unit goes by it.
-/

namespace BundleAtlas

namespace Snapshot

theorem get?_of_mem {live : Snapshot} {u : Piece} (hu : u ∈ live.units) :
    live.get? u.id = some u := by
  obtain ⟨target, htarget, hid, hget⟩ := get?_of_mem_ids (List.mem_map_of_mem hu)
  rw [hget, eq_of_id_eq htarget hu hid]

theorem get?_of_not_mem_ids {live : Snapshot} {id : String} (hid : id ∉ live.ids) :
    live.get? id = none := by
  refine List.find?_eq_none.mpr fun u hu heq => hid ?_
  rw [← eq_of_beq heq]
  exact List.mem_map_of_mem hu

end Snapshot

namespace Store

variable {store : Store} {live : Snapshot}

theorem current_of_live (hlive : store.live = some live) : store.current = .ok live := by
  rw [current, hlive]

theorem get_of_mem (hlive : store.live = some live) {u : Piece} (hu : u ∈ live.units) :
    store.get u.id = .ok u := by
  rw [get, current_of_live hlive]
  simp only [bind, Except.bind, Snapshot.get?_of_mem hu]

theorem get_of_not_mem_ids (hlive : store.live = some live) {id : String} (hid : id ∉ live.ids) :
    store.get id = .error (Failure.unitNotFound id) := by
  rw [get, current_of_live hlive]
  simp only [bind, Except.bind, Snapshot.get?_of_not_mem_ids hid]

end Store

theorem unit_of_mem_collectSymbols {u : Piece} {p : Parsed} {x : SymbolEntry}
    (hx : x ∈ collectSymbols u p) : x.unitId = u.id ∧ x.unitPath = u.path := by
  obtain ⟨site, _, hentry⟩ := List.mem_filterMap.mp hx
  unfold Site.entry? at hentry
  dsimp only at hentry
  -- Branches without an entry close; in all others `Site.entry` copies the unit.
  repeat' split at hentry
  all_goals cases hentry
  all_goals exact ⟨rfl, rfl⟩

theorem unit_of_mem_unitSymbols {parse : Parse} {u : Piece} {x : SymbolEntry}
    (hx : x ∈ unitSymbols parse u) : x.unitId = u.id ∧ x.unitPath = u.path := by
  unfold unitSymbols at hx
  split at hx
  · exact unit_of_mem_collectSymbols hx
  · cases hx

/-- A scan of one unit gives the first symbols of that unit. -/
theorem scanSymbols_singleton (parse : Parse) (u : Piece) (limit : Int) :
    (scanSymbols parse [u] (some limit)).symbols = (unitSymbols parse u).take limit.toNat := by
  have hcut : (max 0 limit).toNat = limit.toNat := by omega
  rw [symbols_scanSymbols, List.flatMap_singleton, upTo, hcut]

theorem CallGraph.unitId_of_build {parse : Parse} {live : Snapshot} {symbol unitId : String}
    {everywhere : Bool} {g : CallGraph} (hg : build parse live symbol unitId everywhere = .ok g) :
    g.unitId = unitId := by
  unfold build at hg
  split at hg
  · cases hg
  · cases hg
    rfl

namespace Action

variable {s : Settings} {w : Workspace} {live : Snapshot} {id : String} {u : Piece}

theorem listFunctions_of_ne (hid : id ≠ "") (limit : Option Int) :
    listFunctions (some s) (some id) limit = (do
      let u ← unit id
      let found := scanSymbols s.dialect.parse [u] (some (limitOf s limit))
      report (scanEntries found)
      return found.symbols) := by
  rw [listFunctions, settings, pure_bind]
  split
  · contradiction
  · simp_all
  · simp_all

/-- What the operations on a unit of the bundle give under its id: the text of
the unit laid out, its symbols only, the source of a symbol found in its text,
and the calls around a symbol of it. -/
structure Resolves (s : Settings) (w : Workspace) (live : Snapshot) (id : String) (u : Piece) :
    Prop where
  moduleText : (getModule (some s) id).outcome w =
    (prettyPrint "babel" s.indentSize.toNat u.text, w)
  callGraph : ∀ symbol everywhere, ∃ g,
    ((getCallGraph (some s) symbol id everywhere).outcome w).1 = .ok g ∧ g.unitId = u.id ∧
    g.outgoing = (CallGraph.callsFrom s.dialect.parse symbol u).eraseDups ∧
    g.incoming = ((CallGraph.candidates live symbol u everywhere).flatMap
      (CallGraph.callsIn s.dialect.parse symbol)).eraseDups
  functions : id ≠ "" → ∀ limit, ∃ symbols,
    ((listFunctions (some s) (some id) limit).outcome w).1 = .ok symbols ∧
    symbols = (unitSymbols s.dialect.parse u).take (limitOf s limit).toNat ∧
    ∀ x ∈ symbols, x.unitId = u.id ∧ x.unitPath = u.path
  symbolSource : id ≠ "" → ∀ symbol input,
    (getSymbolSource (some s) symbol input (some id)).outcome w = ((do
      let found ← (← s.dialect.parse u.text).findSymbol symbol
      prettyPrint "babel" s.indentSize.toNat found.text), w)

/-- What they end with under an id of no unit. -/
structure Refuses (s : Settings) (w : Workspace) (id : String) : Prop where
  moduleText : (getModule (some s) id).outcome w = (.error (Failure.unitNotFound id), w)
  callGraph : ∀ symbol everywhere, (getCallGraph (some s) symbol id everywhere).outcome w =
    (.error (Failure.unitNotFound id), w)
  functions : id ≠ "" → ∀ limit, (listFunctions (some s) (some id) limit).outcome w =
    (.error (Failure.unitNotFound id), w)
  symbolSource : id ≠ "" → ∀ symbol input,
    (getSymbolSource (some s) symbol input (some id)).outcome w =
      (.error (Failure.unitNotFound id), w)

theorem outcome_getCallGraph (hlive : w.store.live = some live) (symbol : String)
    (everywhere : Bool) :
    ((getCallGraph (some s) symbol id everywhere).outcome w).1 =
      CallGraph.build s.dialect.parse live symbol id everywhere := by
  rw [getCallGraph, settings, pure_bind, outcome_bind, outcome_current,
    Store.current_of_live hlive]
  simp only [outcome_bind, outcome_ofExcept]
  cases CallGraph.build s.dialect.parse live symbol id everywhere with
  | ok g => rfl
  | error e => rfl

theorem resolves_of_mem (s : Settings) (hlive : w.store.live = some live) (hu : u ∈ live.units) :
    Resolves s w live u.id u where
  moduleText := by
    rw [getModule, outcome_bind, outcome_unit, Store.get_of_mem hlive hu]
    exact outcome_ofExcept _ w
  callGraph := by
    intro symbol everywhere
    obtain ⟨target, htarget, hid, g, hg, hout, -, hin, -⟩ :=
      CallGraph.build_of_mem_ids s.dialect.parse symbol everywhere (List.mem_map_of_mem hu)
    obtain rfl := Snapshot.eq_of_id_eq htarget hu hid
    exact ⟨g, (outcome_getCallGraph hlive symbol everywhere).trans hg,
      CallGraph.unitId_of_build hg, hout, hin⟩
  functions := by
    intro hid limit
    refine ⟨_, ?_, rfl, fun x hx => unit_of_mem_unitSymbols (List.mem_of_mem_take hx)⟩
    rw [listFunctions_of_ne hid, outcome_bind, outcome_unit, Store.get_of_mem hlive hu,
      ← scanSymbols_singleton]
    rfl
  symbolSource := by
    intro hid symbol input
    rw [getSymbolSource, settings, pure_bind, symbolText_of_ne hid, outcome_bind, outcome_bind,
      outcome_unit, Store.get_of_mem hlive hu]
    simp only [outcome_pure, outcome_bind, outcome_ofExcept, format]
    cases s.dialect.parse u.text with
    | error e => rfl
    | ok parsed =>
        cases hfound : parsed.findSymbol symbol with
        | error e => simp [hfound, bind, Except.bind]
        | ok found => simp [hfound, bind, Except.bind]

theorem refuses_of_not_mem_ids (s : Settings) (hlive : w.store.live = some live)
    (hid : id ∉ live.ids) : Refuses s w id where
  moduleText := by
    rw [getModule, outcome_bind, outcome_unit, Store.get_of_not_mem_ids hlive hid]
  callGraph := by
    intro symbol everywhere
    rw [getCallGraph, settings, pure_bind, outcome_bind, outcome_current,
      Store.current_of_live hlive]
    simp only [outcome_bind, outcome_ofExcept, CallGraph.build, Snapshot.get?_of_not_mem_ids hid]
  functions := by
    intro hne limit
    rw [listFunctions_of_ne hne, outcome_bind, outcome_unit, Store.get_of_not_mem_ids hlive hid]
  symbolSource := by
    intro hne symbol input
    rw [getSymbolSource, settings, pure_bind, symbolText_of_ne hne, outcome_bind, outcome_bind,
      outcome_unit, Store.get_of_not_mem_ids hlive hid]

end Action

/-- All operations on one unit look up an id to the same unit, or all complain
that there is none. The empty id is the exception: where an id may be left out,
it counts as left out. -/
theorem operations_resolve_id (s : Settings) {w : Workspace} {live : Snapshot}
    (hlive : w.store.live = some live) (id : String) :
    (∀ u ∈ live.units, u.id = id → Action.Resolves s w live id u) ∧
    (id ∉ live.ids → Action.Refuses s w id) ∧
    (∀ limit, Action.listFunctions (some s) (some "") limit =
      Action.listFunctions (some s) none limit) ∧
    ∀ symbol input, Action.getSymbolSource (some s) symbol input (some "") =
      Action.getSymbolSource (some s) symbol input none := by
  refine ⟨?_, Action.refuses_of_not_mem_ids s hlive, fun _ => rfl, fun _ _ => rfl⟩
  rintro u hu rfl
  exact Action.resolves_of_mem s hlive hu

namespace TwoUnits

def first : Piece := ⟨"a", "./a.js", "function f()\x7b\x7d"⟩

def second : Piece := ⟨"b", "./b.js", "function g()\x7b f(); \x7d"⟩

def live : Snapshot := ⟨[first, second], 1, by decide⟩

/-- A store with two units that declare a function each. -/
def workspace : Workspace := ((Action.replace [first, second]).outcome {}).2

end TwoUnits

open TwoUnits in
/-- Each id is looked up to its own unit and to no other, and a third one to
nothing. -/
theorem operations_resolve_id_twoUnits :
    Action.Resolves Settings.standard workspace live "a" first ∧
    Action.Resolves Settings.standard workspace live "b" second ∧
    (∃ symbols, ((Action.listFunctions (some Settings.standard) (some "b") none).outcome
      workspace).1 = .ok symbols ∧ ∀ x ∈ symbols, x.unitId = "b" ∧ x.unitPath = "./b.js") ∧
    Action.Refuses Settings.standard workspace "c" := by
  have hlive : workspace.store.live = some live := rfl
  have hsecond := (operations_resolve_id Settings.standard hlive "b").1 second (by decide) rfl
  obtain ⟨symbols, hsymbols, _, hunit⟩ := hsecond.functions (by decide) none
  exact ⟨(operations_resolve_id Settings.standard hlive "a").1 first (by decide) rfl, hsecond,
    ⟨symbols, hsymbols, hunit⟩,
    (operations_resolve_id Settings.standard hlive "c").2.1 (by decide)⟩

/-- A unit under the empty id is not looked up for the source of a symbol, and
no complaint is made when symbols are asked for under the empty id of no unit. -/
theorem operations_ignore_empty_id :
    ((Action.getSymbolSource (some Settings.standard) "f" {} (some "")).outcome
      ((Action.replace [⟨"", "./.js", "function f(){}"⟩]).outcome {}).2).1 =
      .error Action.noSymbolSource ∧
    ((Action.listFunctions (some Settings.standard) (some "") none).outcome
      ((Action.replace []).outcome {}).2).1 = .ok [] :=
  ⟨rfl, rfl⟩

end BundleAtlas
