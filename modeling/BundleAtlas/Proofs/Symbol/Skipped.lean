import Mathlib.Data.List.Nodup
import BundleAtlas.Proofs.Symbol.Edges
import BundleAtlas.Proofs.Symbol.Prefilter

/-!
Units that a call graph could not read. A unit is read at most once, the
target always and first; each unit that cannot be read is reported with the
fault of its own text, and contributes no call.
-/

namespace BundleAtlas

/-- A unit that cannot be read is reported under its id, with the text of its
own fault. -/
def Reports (parse : Parse) (u : Piece) (r : Skipped) : Prop :=
  ∃ e, parse u.text = .error e ∧ r = ⟨u.id, e.text⟩

/-- What is gathered keeps the keys of the items that it comes from. -/
theorem Gathers.sublist_keys {α β γ : Type} {R : α → β → Prop} {xs : List α} {ys : List β}
    {key : α → γ} {origin : β → γ} (h : Gathers R xs ys)
    (hkey : ∀ x y, R x y → origin y = key x) : (ys.map origin).Sublist (xs.map key) := by
  induction h with
  | nil => exact List.Sublist.refl _
  | take hresult _ ih =>
      rw [List.map_cons, List.map_cons, hkey _ _ hresult]
      exact ih.cons_cons _
  | skip _ _ ih => exact ih.cons _

namespace CallGraph

/-- The units that are read beside the target: everywhere, all others that
mention the symbol. -/
def others (s : Snapshot) (symbol : String) (target : Piece) (everywhere : Bool) : List Piece :=
  if everywhere then s.units.filter fun u => u ≠ target ∧ symbol.toList <:+: u.text.toList else []

variable {parse : Parse} {s : Snapshot} {symbol : String} {target u : Piece} {everywhere : Bool}
  {g : CallGraph}

theorem mem_units_of_mem_read (htarget : target ∈ s.units)
    (hu : u ∈ target :: others s symbol target everywhere) : u ∈ s.units := by
  rcases List.mem_cons.mp hu with rfl | hu
  · exact htarget
  · unfold others at hu
    split at hu
    · exact (List.mem_filter.mp hu).1
    · cases hu

theorem nodup_read_ids (htarget : target ∈ s.units) :
    ((target :: others s symbol target everywhere).map (·.id)).Nodup := by
  have hnodup : (target :: others s symbol target everywhere).Nodup := by
    refine List.nodup_cons.mpr ⟨?_, ?_⟩
    · unfold others
      split <;> simp
    · unfold others
      split
      · exact s.nodup.of_map.filter _
      · exact List.nodup_nil
  refine List.Nodup.map_on ?_ hnodup
  intro u hu v hv hid
  exact Snapshot.eq_of_id_eq (mem_units_of_mem_read htarget hu) (mem_units_of_mem_read htarget hv) hid

/-- The candidates without the target, which has been read before them. -/
theorem filter_candidates (s : Snapshot) (symbol : String) (target : Piece) (everywhere : Bool) :
    (candidates s symbol target everywhere).filter (· ≠ target) =
      others s symbol target everywhere := by
  rw [candidates_eq, others]
  split
  · rw [List.filter_filter]
    refine List.filter_congr fun u _ => ?_
    rw [Bool.eq_iff_iff]
    simp
  · simp

theorem report?_eq_some_iff {r : Skipped} : report? parse u = some r ↔ Reports parse u r := by
  unfold report? Reports
  cases parse u.text with
  | ok p => simp
  | error e => simp [eq_comm]

/-- The reports of some units are gathered from them in order. -/
theorem gathers_reports (parse : Parse) (units : List Piece) :
    Gathers (Reports parse) units (units.filterMap (report? parse)) := by
  have hreport : ∀ u r, report? parse u = some r ↔ Reports parse (id u) r :=
    fun _ _ => report?_eq_some_iff
  have hiff := gathers_map_iff hreport units (units.filterMap (report? parse))
  rw [List.map_id] at hiff
  exact hiff.mpr rfl

/-- The skipped units of a graph are those of the target and of the others. -/
theorem skipped_of_build (htarget : target ∈ s.units)
    (hbuild : build parse s symbol target.id everywhere = .ok g) :
    g.skipped = (target :: others s symbol target everywhere).filterMap (report? parse) := by
  obtain ⟨found, hfound, hid, h, hh, _, _, _, _, hskipped⟩ :=
    build_of_mem_ids parse symbol everywhere (List.mem_map_of_mem htarget)
  obtain rfl := Snapshot.eq_of_id_eq hfound htarget hid
  rw [hbuild] at hh
  cases hh
  rw [hskipped, filter_candidates]

/-- A unit that contributes a call has been read. -/
theorem parse_of_mem_callsIn {c : IncomingCall} (hc : c ∈ callsIn parse symbol u) :
    c.callerUnitId = u.id ∧ ∃ p, parse u.text = .ok p := by
  unfold callsIn at hc
  split at hc
  · rename_i p hparse
    exact ⟨(mem_incomingCalls hc).1, p, hparse⟩
  · cases hc

end CallGraph

/-- The skipped units of a graph, each once: the target if it cannot be read,
and then, if all units are looked at, every other unit in order that mentions
the symbol and cannot be read. Each comes with the fault of its own text. None
of them is the unit of a call, and without the target there are no outgoing
calls. -/
theorem call_graph_skips (parse : Parse) (s : Snapshot) (symbol : String) (everywhere : Bool)
    {unitId : String} (hunit : unitId ∈ s.ids) :
    ∃ target ∈ s.units, target.id = unitId ∧
    ∃ g, CallGraph.build parse s symbol unitId everywhere = .ok g ∧
      Gathers (Reports parse)
        (target :: if everywhere then
            s.units.filter fun u => u ≠ target ∧ symbol.toList <:+: u.text.toList
          else []) g.skipped ∧
      (g.skipped.map (·.unitId)).Nodup ∧
      (∀ r ∈ g.skipped, ∀ c ∈ g.incoming, c.callerUnitId ≠ r.unitId) ∧
      (unitId ∈ g.skipped.map (·.unitId) → g.outgoing = []) := by
  obtain ⟨target, htarget, rfl, g, hbuild, houtgoing, _, hincoming, _⟩ :=
    CallGraph.build_of_mem_ids parse symbol everywhere hunit
  have hgather : Gathers (Reports parse)
      (target :: CallGraph.others s symbol target everywhere) g.skipped := by
    have hreport : ∀ u r, CallGraph.report? parse u = some r ↔ Reports parse (id u) r :=
      fun _ _ => CallGraph.report?_eq_some_iff
    have hiff := gathers_map_iff hreport
      (target :: CallGraph.others s symbol target everywhere) g.skipped
    rw [List.map_id] at hiff
    exact hiff.mpr (CallGraph.skipped_of_build htarget hbuild)
  -- A report names a unit that was read, so its id tells which unit has failed.
  have hfails : ∀ r ∈ g.skipped, ∀ u ∈ s.units, u.id = r.unitId →
      ∃ e, parse u.text = .error e := by
    intro r hr u hu hid
    obtain ⟨v, hv, e, herror, rfl⟩ := hgather.exists_of_mem hr
    have hsame : u = v := Snapshot.eq_of_id_eq hu (CallGraph.mem_units_of_mem_read htarget hv) hid
    exact ⟨e, by rw [hsame]; exact herror⟩
  refine ⟨target, htarget, rfl, g, hbuild, hgather, ?_, ?_, ?_⟩
  · refine (CallGraph.nodup_read_ids htarget).sublist (hgather.sublist_keys ?_)
    rintro u r ⟨e, _, rfl⟩
    rfl
  · intro r hr c hc hid
    rw [hincoming, List.mem_eraseDups] at hc
    obtain ⟨u, hu, hcalls⟩ := List.mem_flatMap.mp hc
    obtain ⟨hcaller, p, hparse⟩ := CallGraph.parse_of_mem_callsIn hcalls
    obtain ⟨e, herror⟩ := hfails r hr u (CallGraph.mem_units_of_mem_candidates htarget hu)
      (hcaller.symm.trans hid)
    rw [hparse] at herror
    cases herror
  · intro hskipped
    obtain ⟨r, hr, hid⟩ := List.mem_map.mp hskipped
    obtain ⟨e, herror⟩ := hfails r hr target htarget hid.symm
    rw [houtgoing, CallGraph.callsFrom, herror]
    rfl

theorem call_graph_skips_callersOfGo :
    "2" ∈ callersOfGo.ids ∧
    ∃ target ∈ callersOfGo.units, target.id = "2" ∧
    ∃ g, CallGraph.build (parseSource none) callersOfGo "go" "2" true = .ok g ∧
      Gathers (Reports (parseSource none))
        (target :: if true then
            callersOfGo.units.filter fun u => u ≠ target ∧ "go".toList <:+: u.text.toList
          else []) g.skipped ∧
      (g.skipped.map (·.unitId)).Nodup ∧
      (∀ r ∈ g.skipped, ∀ c ∈ g.incoming, c.callerUnitId ≠ r.unitId) ∧
      ("2" ∈ g.skipped.map (·.unitId) → g.outgoing = []) :=
  ⟨by decide, call_graph_skips (parseSource none) callersOfGo "go" true (by decide)⟩

-- Of a dialect that is not known nothing can be read: the target comes first.
example : (CallGraph.build (parseSource (some "basic")) callersOfGo "go" "2" true).toOption.map
    (·.skipped) = some (["2", "0", "1"].map fun id => ⟨id, "Unsupported dialect: basic"⟩) := by
  decide +kernel

end BundleAtlas
