import Mathlib.Data.List.Nodup
import BundleAtlas.Proofs.Text.Occurrence
import BundleAtlas.Symbol.CallGraph

/-!
How a call graph is put together. Units are read once, and what came of it is
looked up by id; as no two units share one, the memo always answers with what
the unit's own text gives, and every candidate contributes its calls as if it
were read alone. The memo is followed through one look-up, and from there
through the whole loop over the candidates.
-/

namespace BundleAtlas

namespace Snapshot

theorem get?_of_mem_ids {s : Snapshot} {id : String} (hid : id ∈ s.ids) :
    ∃ target ∈ s.units, target.id = id ∧ s.get? id = some target := by
  obtain ⟨u, hu, huid⟩ := List.mem_map.mp hid
  have hsome : (s.get? id).isSome = true :=
    List.find?_isSome.mpr ⟨u, hu, by simp [huid]⟩
  obtain ⟨target, htarget⟩ := Option.isSome_iff_exists.mp hsome
  refine ⟨target, List.mem_of_find?_eq_some htarget, ?_, htarget⟩
  simpa using List.find?_some htarget

theorem eq_of_id_eq {s : Snapshot} {u v : Piece} (hu : u ∈ s.units) (hv : v ∈ s.units)
    (hid : u.id = v.id) : u = v :=
  List.inj_on_of_nodup_map s.nodup hu hv hid

end Snapshot

namespace CallGraph

/-- The calls of a name in a unit that is read on its own. -/
def callsIn (parse : Parse) (symbol : String) (u : Piece) : List IncomingCall :=
  match parse u.text with
  | .ok p => incomingCalls u.id p symbol
  | .error _ => []

/-- The calls that the declaration of a name makes in a unit that is read on
its own; none if there is no declaration or the unit cannot be read. -/
def callsFrom (parse : Parse) (symbol : String) (u : Piece) : List OutgoingCall :=
  match parse u.text with
  | .ok p => match p.root.findDeclaration? p.source symbol with
    | some declaration => declaration.outgoingCalls p.source
    | none => []
  | .error _ => []

variable {parse : Parse} {s : Snapshot} {symbol : String} {target u : Piece} {everywhere : Bool}

theorem mem_units_of_mem_candidates (htarget : target ∈ s.units)
    (hu : u ∈ candidates s symbol target everywhere) : u ∈ s.units := by
  unfold candidates at hu
  split at hu
  · exact (List.mem_filter.mp hu).1
  · rw [List.mem_singleton.mp hu]
    exact htarget

/-- The report of a unit, if it cannot be read. -/
def report? (parse : Parse) (u : Piece) : Option Skipped :=
  match parse u.text with
  | .ok _ => none
  | .error e => some ⟨u.id, e.text⟩

/-- The units that have been read, in their order, behind one more look-up. -/
def readBehind (read : List Piece) (u : Piece) : List Piece :=
  if u ∈ read then read else read ++ [u]

/-- A memo keeps what came of reading these units, and of no others. -/
structure Memo.Remembers (parse : Parse) (s : Snapshot) (read : List Piece) (m : Memo) : Prop where
  parsed : ∀ u ∈ s.units,
    m.parsed.lookup u.id = if u ∈ read then some (parse u.text).toOption else none
  skipped : m.skipped = read.filterMap (report? parse)

theorem Memo.Remembers.empty (parse : Parse) (s : Snapshot) : Remembers parse s [] {} :=
  ⟨fun _ _ => by simp, rfl⟩

/-- What is looked up is what the unit is read as, now or before. -/
theorem Memo.Remembers.get {read : List Piece} {m : Memo} (h : m.Remembers parse s read)
    (hu : u ∈ s.units) : (m.get parse u).1 = (parse u.text).toOption ∧
      (m.get parse u).2.Remembers parse s (readBehind read u) := by
  have hfound := h.parsed u hu
  by_cases hread : u ∈ read
  · rw [if_pos hread] at hfound
    rw [Memo.get, hfound, readBehind, if_pos hread]
    exact ⟨rfl, h⟩
  · rw [if_neg hread] at hfound
    -- a unit under the id that is entered is the unit itself
    have hparsed : ∀ v ∈ s.units,
        ((u.id, (parse u.text).toOption) :: m.parsed).lookup v.id =
          if v ∈ read ++ [u] then some (parse v.text).toOption else none := by
      intro v hv
      by_cases hid : v.id = u.id
      · rw [Snapshot.eq_of_id_eq hv hu hid]
        simp
      · have hne : v ≠ u := fun heq => hid (by rw [heq])
        rw [List.lookup_cons, beq_eq_false_iff_ne.mpr hid]
        simpa [hne] using h.parsed v hv
    have hskipped : (read ++ [u]).filterMap (report? parse) =
        m.skipped ++ (report? parse u).toList := by
      rw [List.filterMap_append, ← h.skipped]
      cases hreport : report? parse u <;> simp [hreport]
    rw [readBehind, if_neg hread, Memo.get, hfound]
    dsimp only
    rw [report?] at hskipped
    cases hparse : parse u.text with
    | ok p =>
        rw [hparse] at hparsed hskipped
        refine ⟨rfl, hparsed, ?_⟩
        rw [hskipped]
        exact (List.append_nil _).symm
    | error e =>
        rw [hparse] at hparsed hskipped
        exact ⟨rfl, hparsed, hskipped.symm⟩

/-- Along the candidates every unit contributes the calls of its own text. -/
theorem Memo.Remembers.gather {read : List Piece} {m : Memo} (h : m.Remembers parse s read)
    (symbol : String) {us : List Piece} (hus : ∀ u ∈ us, u ∈ s.units) :
    (gather parse symbol m us).1 = us.flatMap (callsIn parse symbol) ∧
      (gather parse symbol m us).2.Remembers parse s (us.foldl readBehind read) := by
  induction us generalizing read m with
  | nil => exact ⟨rfl, h⟩
  | cons u us ih =>
      obtain ⟨hfound, hnext⟩ := h.get (hus u List.mem_cons_self)
      obtain ⟨hcalls, hlast⟩ := ih hnext fun v hv => hus v (List.mem_cons_of_mem u hv)
      refine ⟨?_, hlast⟩
      rw [List.flatMap_cons, ← hcalls, callsIn, CallGraph.gather]
      dsimp only
      rw [hfound]
      cases parse u.text with
      | ok p => rfl
      | error e => rfl

/-- Units that are all different are read unless they were before. -/
theorem foldl_readBehind {us : List Piece} (hus : us.Nodup) (read : List Piece) :
    us.foldl readBehind read = read ++ us.filter (· ∉ read) := by
  induction us generalizing read with
  | nil => simp
  | cons u us ih =>
      obtain ⟨hu, hus⟩ := List.nodup_cons.mp hus
      rw [List.foldl_cons, ih hus, readBehind]
      split
      · rename_i hread
        simp [hread]
      · rename_i hread
        have hothers : us.filter (· ∉ read ++ [u]) = us.filter (· ∉ read) := by
          refine List.filter_congr fun v hv => ?_
          have hne : v ≠ u := fun heq => hu (heq ▸ hv)
          simp [hne]
        rw [hothers, List.filter_cons_of_pos (by simpa using hread), List.append_assoc]
        rfl

theorem nodup_candidates (s : Snapshot) (symbol : String) (target : Piece) (everywhere : Bool) :
    (candidates s symbol target everywhere).Nodup := by
  unfold candidates
  split
  · exact s.nodup.of_map.filter _
  · exact List.nodup_singleton target

/-- The graph of a unit of the snapshot always comes out. Its edges are those
of the units read one by one, without repetitions; the units that it reports are
among the target and, behind it, the other candidates. -/
theorem build_of_mem_ids (parse : Parse) (symbol : String) (everywhere : Bool) {unitId : String}
    (hid : unitId ∈ s.ids) :
    ∃ target ∈ s.units, target.id = unitId ∧
    ∃ g, build parse s symbol unitId everywhere = .ok g ∧
      g.outgoing = (callsFrom parse symbol target).eraseDups ∧ g.outgoing.Nodup ∧
      g.incoming = ((candidates s symbol target everywhere).flatMap
        (callsIn parse symbol)).eraseDups ∧ g.incoming.Nodup ∧
      g.skipped = (target :: (candidates s symbol target everywhere).filter
        (· ≠ target)).filterMap (report? parse) := by
  obtain ⟨target, htarget, htargetId, hget⟩ := Snapshot.get?_of_mem_ids hid
  obtain ⟨hfound, hstart⟩ := (Memo.Remembers.empty parse s).get htarget
  have hunits : ∀ u ∈ candidates s symbol target everywhere, u ∈ s.units :=
    fun u hu => mem_units_of_mem_candidates htarget hu
  obtain ⟨hincoming, hend⟩ := hstart.gather symbol hunits
  have houtgoing : ((Memo.get parse {} target).1.bind (outgoing? · symbol)).getD [] =
      callsFrom parse symbol target := by
    rw [hfound, callsFrom]
    cases parse target.text with
    | error e => rfl
    | ok p =>
        cases hdeclared : p.root.findDeclaration? p.source symbol with
        | none => simp [outgoing?, hdeclared, Except.toOption]
        | some declaration => simp [outgoing?, hdeclared, Except.toOption]
  refine ⟨target, htarget, htargetId, ?_⟩
  unfold build
  rw [hget]
  refine ⟨_, rfl, ?_, Text.nodup_distinct _, ?_, Text.nodup_distinct _, ?_⟩
  · exact (Text.distinct_eq_eraseDups _).trans (congrArg List.eraseDups houtgoing)
  · exact (Text.distinct_eq_eraseDups _).trans (congrArg List.eraseDups hincoming)
  · refine hend.skipped.trans ?_
    rw [foldl_readBehind (nodup_candidates s symbol target everywhere)]
    simp [readBehind]

end CallGraph

end BundleAtlas
