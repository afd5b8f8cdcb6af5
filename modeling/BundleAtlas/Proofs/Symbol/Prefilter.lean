import BundleAtlas.Proofs.Bundle.Search
import BundleAtlas.Proofs.Grammar.Invariant
import BundleAtlas.Proofs.Symbol.CallGraph
import BundleAtlas.Proofs.Symbol.Shape

/-!
Units that do not mention a symbol need not be read. A call of a symbol has
the symbol in its text, and the text of a node is a piece of the unit; so a
unit without the symbol contributes no calls, and leaving it out changes
nothing. The same units are found by a search for the symbol.
-/

namespace BundleAtlas

/-- A call has what it calls in the text of its callee or of a property, and
the text of every node occurs in the unit. -/
theorem Node.Calls.occursIn {call : Node} {symbol text : String}
    (hcalls : call.Calls (.ofString text) symbol) : Text.occursIn symbol text = true := by
  cases hcalls with
  | function hcallee hkind htext =>
      rw [← htext]
      exact Source.occursIn_slice text _ _
  | member hmember htext =>
      rw [← htext]
      exact Source.occursIn_slice text _ _

theorem mem_incomingCalls {unitId : String} {p : Parsed} {symbol : String} {c : IncomingCall}
    (hc : c ∈ incomingCalls unitId p symbol) :
    c.callerUnitId = unitId ∧ ∃ call : Node, call.Calls p.source symbol := by
  obtain ⟨site, _, hsite⟩ := List.mem_filterMap.mp hc
  split at hsite
  · rename_i hcall
    cases hsite
    rw [Bool.and_eq_true] at hcall
    exact ⟨rfl, site.node, Node.callsSymbol_iff.mp hcall.2⟩
  · cases hsite

namespace CallGraph

variable {dialect : Option String} {symbol : String} {u : Piece}

theorem of_mem_callsIn {c : IncomingCall} (hc : c ∈ callsIn (parseSource dialect) symbol u) :
    c.callerUnitId = u.id ∧ Text.occursIn symbol u.text = true := by
  unfold callsIn at hc
  split at hc
  · rename_i p hparse
    obtain ⟨hunit, call, hcall⟩ := mem_incomingCalls hc
    obtain ⟨d, hd⟩ := exists_parse_of_parseSource hparse
    rw [d.source_of_parse hd] at hcall
    exact ⟨hunit, hcall.occursIn⟩
  · cases hc

/-- Leaving out units that contribute nothing changes nothing. -/
theorem flatMap_callsIn_filter (units : List Piece) :
    (units.filter fun u => Text.occursIn symbol u.text).flatMap
        (callsIn (parseSource dialect) symbol) =
      units.flatMap (callsIn (parseSource dialect) symbol) := by
  induction units with
  | nil => rfl
  | cons u units ih =>
      rw [List.flatMap_cons, ← ih, List.filter_cons]
      split
      · rw [List.flatMap_cons]
      · rename_i hmention
        have hnone : callsIn (parseSource dialect) symbol u = [] := by
          refine List.eq_nil_iff_forall_not_mem.mpr fun c hc => ?_
          exact hmention (of_mem_callsIn hc).2
        rw [hnone, List.nil_append]

end CallGraph

/-- With room for all units, a search finds every unit that matches. -/
theorem searchFrom_eq_filter (matching : String → Bool) {room : Nat} {units : List Piece}
    (hroom : units.length ≤ room) :
    searchFrom matching room units = units.filter fun u => matching u.text := by
  rw [searchFrom_eq_take, List.take_of_length_le]
  exact (List.length_filter_le _ _).trans hroom

/-- The calls of a symbol that are found by reading only the units that
mention it are those of all units, each at its first occurrence. So a search
for the symbol finds every unit that a call comes from. -/
theorem incoming_eq_of_all_units (dialect : Option String) (s : Snapshot) (symbol : String)
    {unitId : String} (hunit : unitId ∈ s.ids) :
    ∃ g, CallGraph.build (parseSource dialect) s symbol unitId true = .ok g ∧
      g.incoming =
        (s.units.flatMap (CallGraph.callsIn (parseSource dialect) symbol)).eraseDups ∧
      g.incoming.Nodup ∧
      ∀ (reader : PatternReader) (limit : Int), s.units.length ≤ limit →
        ∃ found, searchUnits reader s symbol false limit = .ok found ∧
          ∀ c ∈ g.incoming, c.callerUnitId ∈ found.map (·.id) := by
  obtain ⟨target, _, _, g, hbuild, _, _, hincoming, hnodup, _⟩ :=
    CallGraph.build_of_mem_ids (parseSource dialect) symbol true hunit
  have hall : g.incoming =
      (s.units.flatMap (CallGraph.callsIn (parseSource dialect) symbol)).eraseDups := by
    rw [hincoming, CallGraph.candidates, if_pos rfl, CallGraph.flatMap_callsIn_filter]
  refine ⟨g, hbuild, hall, hnodup, ?_⟩
  intro reader limit hlimit
  refine ⟨_, rfl, ?_⟩
  intro c hc
  rw [hall, List.mem_eraseDups] at hc
  obtain ⟨u, hu, hcalls⟩ := List.mem_flatMap.mp hc
  obtain ⟨hcaller, hmention⟩ := CallGraph.of_mem_callsIn hcalls
  rw [searchFrom_eq_filter _ (by omega)]
  exact List.mem_map.mpr ⟨u, List.mem_filter.mpr ⟨hu, hmention⟩, hcaller.symm⟩

/-- Units that call `go` through parentheses and more than once on a line, one
that cannot be read, and one that does not mention it. -/
def callersOfGo : Snapshot :=
  ⟨[⟨"0", "0.js", "go(); go(); ((o.go))()"⟩, ⟨"1", "1.js", "const go = () => stop()"⟩,
    ⟨"2", "2.js", "go("⟩, ⟨"3", "3.js", "stop()"⟩], 1, by decide⟩

theorem incoming_eq_of_all_units_callersOfGo :
    "1" ∈ callersOfGo.ids ∧
    ∃ g, CallGraph.build (parseSource none) callersOfGo "go" "1" true = .ok g ∧
      g.incoming =
        (callersOfGo.units.flatMap (CallGraph.callsIn (parseSource none) "go")).eraseDups ∧
      g.incoming.Nodup ∧
      ∀ (reader : PatternReader) (limit : Int), callersOfGo.units.length ≤ limit →
        ∃ found, searchUnits reader callersOfGo "go" false limit = .ok found ∧
          ∀ c ∈ g.incoming, c.callerUnitId ∈ found.map (·.id) :=
  ⟨by decide, incoming_eq_of_all_units none callersOfGo "go" (by decide)⟩

end BundleAtlas
