import BundleAtlas.Proofs.Symbol.Skipped

/-!
The calls around a symbol within its own unit. They are the part of the calls
in all units that comes from the target: a call tells the unit it comes from,
and leaving out repetitions does not mix units.
-/

namespace BundleAtlas

namespace CallGraph

variable {parse : Parse} {s : Snapshot} {symbol : String} {target u : Piece}

theorem filter_callsIn_of_ne (hne : u.id ≠ target.id) :
    (callsIn parse symbol u).filter (·.callerUnitId = target.id) = [] := by
  refine List.filter_eq_nil_iff.mpr fun c hc => ?_
  rw [(parse_of_mem_callsIn hc).1]
  simpa using hne

theorem filter_callsIn_self :
    (callsIn parse symbol target).filter (·.callerUnitId = target.id) =
      callsIn parse symbol target := by
  refine List.filter_eq_self.mpr fun c hc => ?_
  simpa using (parse_of_mem_callsIn hc).1

/-- Of the calls in all units, those that come from the target are its own. -/
theorem filter_flatMap_callsIn (htarget : target ∈ s.units) :
    (s.units.flatMap (callsIn parse symbol)).filter (·.callerUnitId = target.id) =
      callsIn parse symbol target := by
  obtain ⟨before, behind, horder⟩ := List.append_of_mem htarget
  have hids := s.nodup
  rw [horder, List.map_append, List.map_cons, List.nodup_middle, List.nodup_cons] at hids
  have hother : ∀ u ∈ before ++ behind,
      (callsIn parse symbol u).filter (·.callerUnitId = target.id) = [] := by
    intro u hu
    apply filter_callsIn_of_ne
    intro hid
    apply hids.1
    rw [← List.map_append, ← hid]
    exact List.mem_map_of_mem hu
  have hbefore : before.flatMap (fun u => (callsIn parse symbol u).filter
      (·.callerUnitId = target.id)) = [] :=
    List.flatMap_eq_nil_iff.mpr fun u hu => hother u (List.mem_append_left _ hu)
  have hbehind : behind.flatMap (fun u => (callsIn parse symbol u).filter
      (·.callerUnitId = target.id)) = [] :=
    List.flatMap_eq_nil_iff.mpr fun u hu => hother u (List.mem_append_right _ hu)
  rw [List.filter_flatMap, horder, List.flatMap_append, List.flatMap_cons, hbefore, hbehind,
    filter_callsIn_self, List.nil_append, List.append_nil]

end CallGraph

/-- The graph of a symbol within its unit is the restriction of the graph over
all units: the same outgoing calls, the incoming calls that come from the unit
itself in their order, and the beginning of the skipped units. -/
theorem local_graph_restricts (dialect : Option String) (s : Snapshot) (symbol : String)
    {unitId : String} (hunit : unitId ∈ s.ids) :
    ∃ here all, CallGraph.build (parseSource dialect) s symbol unitId false = .ok here ∧
      CallGraph.build (parseSource dialect) s symbol unitId true = .ok all ∧
      here.outgoing = all.outgoing ∧
      here.incoming = all.incoming.filter (·.callerUnitId = unitId) ∧
      here.skipped <+: all.skipped := by
  obtain ⟨target, htarget, rfl, here, hhere, houtgoing, _, hincoming, _⟩ :=
    CallGraph.build_of_mem_ids (parseSource dialect) symbol false hunit
  obtain ⟨found, hfound, hid, all, hall, houtgoingAll, _, hincomingAll, _⟩ :=
    CallGraph.build_of_mem_ids (parseSource dialect) symbol true hunit
  obtain rfl := Snapshot.eq_of_id_eq hfound htarget hid
  refine ⟨here, all, hhere, hall, houtgoing.trans houtgoingAll.symm, ?_, ?_⟩
  · rw [hincoming, hincomingAll, CallGraph.candidates, if_neg (by decide), CallGraph.candidates,
      if_pos rfl, CallGraph.flatMap_callsIn_filter, Text.filter_eraseDups,
      CallGraph.filter_flatMap_callsIn htarget, List.flatMap_singleton]
  · rw [CallGraph.skipped_of_build htarget hhere, CallGraph.skipped_of_build htarget hall]
    apply List.IsPrefix.filterMap
    exact ⟨_, rfl⟩

theorem local_graph_restricts_callersOfGo :
    "0" ∈ callersOfGo.ids ∧
    ∃ here all, CallGraph.build (parseSource none) callersOfGo "go" "0" false = .ok here ∧
      CallGraph.build (parseSource none) callersOfGo "go" "0" true = .ok all ∧
      here.outgoing = all.outgoing ∧
      here.incoming = all.incoming.filter (·.callerUnitId = "0") ∧
      here.skipped <+: all.skipped :=
  ⟨by decide, local_graph_restricts none callersOfGo "go" (by decide)⟩

end BundleAtlas
