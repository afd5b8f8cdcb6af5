import BundleAtlas.Bundle.Unpack
import BundleAtlas.Proofs.Grammar.Spacing
import Mathlib.Data.List.Nodup
import Std.Data.String.ToNat

/-!
The ids of the modules of a bundle. Elements of an array have their numbers as
ids, which grow because commas stand between them; members of an object share
no key because a repeated key keeps its position. No id stands for two modules,
whatever text was split.
-/

namespace BundleAtlas.Split

open Spacing

private theorem along_crowded (ns : List Node) : along .array .crowded ns = .crowded := by
  induction ns with
  | nil => rfl
  | cons n ns ih =>
      change along .array (Spacing.crowded.step (RowView.array.role n.kind)) ns = .crowded
      have hstep : Spacing.crowded.step (RowView.array.role n.kind) = .crowded := by
        cases RowView.array.role n.kind <;> rfl
      rw [hstep, ih]

private theorem array_role (n : Node) : RowView.array.role n.kind =
    if n.kind = .token "[" ∨ n.kind = .token "]" ∨ n.kind = .comment then .passed
    else if n.kind = .token "," then .separator
    else .item := rfl

/-- The ids of the elements of an array that keeps them apart are numbers in
ascending order, from the given one on. After an item without a comma behind
it the number itself is used up. -/
theorem arrayEntries_ascending (cs : List Node) (index : Nat) (l : Spacing)
    (hrow : along .array l cs ≤ .single) :
    ∃ numbers : List Nat, (arrayEntries index cs).map Prod.fst = numbers.map toString ∧
      numbers.Pairwise (· < ·) ∧ ∀ i ∈ numbers, index ≤ i ∧ (l = .single → index < i) := by
  induction cs generalizing index l with
  | nil => exact ⟨[], rfl, List.Pairwise.nil, by simp⟩
  | cons c cs ih =>
      change along .array (l.step (RowView.array.role c.kind)) cs ≤ .single at hrow
      rw [array_role] at hrow
      rw [arrayEntries]
      by_cases hpassed : c.kind = .token "[" ∨ c.kind = .token "]" ∨ c.kind = .comment
      · rw [if_pos hpassed] at hrow
        have htest : (c.kind == .token "[" || c.kind == .token "]" || c.isComment) = true := by
          simpa [Node.isComment, or_assoc] using hpassed
        rw [if_pos htest]
        exact ih index l hrow
      · rw [if_neg hpassed] at hrow
        have htest : ¬ (c.kind == .token "[" || c.kind == .token "]" || c.isComment) = true := by
          simpa [Node.isComment, or_assoc] using hpassed
        rw [if_neg htest]
        by_cases hcomma : c.kind = .token ","
        · rw [if_pos hcomma] at hrow
          rw [if_pos (by simpa using hcomma)]
          have hopen : l.step .separator = .vacant := by
            cases l with
            | vacant | single => rfl
            | crowded =>
                have hcrowded : along .array .crowded cs ≤ .single := hrow
                rw [along_crowded] at hcrowded
                exact absurd hcrowded (by decide)
          rw [hopen] at hrow
          obtain ⟨numbers, hids, hascending, hfrom⟩ := ih (index + 1) .vacant hrow
          refine ⟨numbers, hids, hascending, ?_⟩
          intro i hi
          have := (hfrom i hi).1
          exact ⟨by omega, fun _ => by omega⟩
        · rw [if_neg hcomma] at hrow
          rw [if_neg (by simpa using hcomma)]
          cases l with
          | vacant =>
              obtain ⟨numbers, hids, hascending, hfrom⟩ := ih index .single hrow
              refine ⟨index :: numbers, ?_, ?_, ?_⟩
              · rw [List.map_cons, List.map_cons, hids]
              · exact List.pairwise_cons.mpr ⟨fun i hi => (hfrom i hi).2 rfl, hascending⟩
              · intro i hi
                refine ⟨?_, by simp⟩
                rcases List.mem_cons.mp hi with rfl | hrest
                · exact le_refl i
                · exact (hfrom i hrest).1
          | single | crowded =>
              -- A second item without a comma crowds the row for good.
              have hcrowded : along .array .crowded cs ≤ .single := hrow
              rw [along_crowded] at hcrowded
              exact absurd hcrowded (by decide)

theorem toString_injective : Function.Injective (toString : Nat → String) := by
  intro a b hab
  exact Nat.repr_injective hab

theorem arrayEntries_nodup {cs : List Node} (hrow : along .array .vacant cs ≤ .single) :
    ((arrayEntries 0 cs).map Prod.fst).Nodup := by
  obtain ⟨numbers, hids, hascending, _⟩ := arrayEntries_ascending cs 0 .vacant hrow
  rw [hids]
  exact (List.nodup_map_iff toString_injective).mpr (hascending.imp fun hlt => Nat.ne_of_lt hlt)

/-- A known key stays where it is, a new one comes last. -/
theorem map_fst_put (key : String) (value : Node) (entries : List (String × Node)) :
    (put key value entries).map Prod.fst =
      if key ∈ entries.map Prod.fst then entries.map Prod.fst
      else entries.map Prod.fst ++ [key] := by
  induction entries with
  | nil => simp [put]
  | cons entry rest ih =>
      obtain ⟨k, v⟩ := entry
      rw [put]
      by_cases hkey : k = key
      · simp [hkey]
      · have hother : ¬ key = k := fun h => hkey h.symm
        by_cases hrest : key ∈ rest.map Prod.fst
        · rw [if_pos hrest] at ih
          simp [hkey, hother, ih, hrest]
        · rw [if_neg hrest] at ih
          simp only [List.map_cons, List.mem_cons, hother, hrest, or_self, if_false,
            beq_iff_eq, hkey, ih, List.cons_append]

theorem put_nodup {key : String} {value : Node} {entries : List (String × Node)}
    (hnodup : (entries.map Prod.fst).Nodup) : ((put key value entries).map Prod.fst).Nodup := by
  rw [map_fst_put]
  split
  · exact hnodup
  · rename_i hnew
    exact List.nodup_append.mpr ⟨hnodup, List.nodup_singleton key, by
      intro a ha b hb hab
      rw [hab, List.mem_singleton.mp hb] at ha
      exact hnew ha⟩

theorem foldl_put_nodup (pairs entries : List (String × Node))
    (hnodup : (entries.map Prod.fst).Nodup) :
    ((pairs.foldl (fun entries p => put p.1 p.2 entries) entries).map Prod.fst).Nodup := by
  induction pairs generalizing entries with
  | nil => exact hnodup
  | cons p pairs ih => exact ih (put p.1 p.2 entries) (put_nodup hnodup)

theorem entries?_nodup {src : Source} {table : Node} {entries : List (String × Node)}
    (hspaced : table.SpacesElements) (hentries : entries? src table = some entries) :
    (entries.map Prod.fst).Nodup := by
  unfold entries? at hentries
  split at hentries
  · rename_i harray
    cases hentries
    exact arrayEntries_nodup (hspaced (by simpa using harray))
  · split at hentries
    · unfold objectEntries? at hentries
      obtain ⟨pairs, _, hfold⟩ := Option.bind_eq_some_iff.mp hentries
      cases hfold
      exact foldl_put_nodup pairs [] List.nodup_nil
    · cases hentries

/-- A unit has the id of its entry. -/
theorem id_of_unit? {src : Source} {entry : String × Node} {u : Piece}
    (hunit : unit? src entry = some u) : u.id = entry.1 := by
  unfold unit? at hunit
  obtain ⟨factory, _, hrest⟩ := Option.bind_eq_some_iff.mp hunit
  obtain ⟨_, _, hpure⟩ := Option.bind_eq_some_iff.mp hrest
  cases hpure
  rfl

theorem ids_of_mapM_unit? {src : Source} {entries : List (String × Node)} {units : List Piece}
    (hunits : entries.mapM (unit? src) = some units) :
    units.map (·.id) = entries.map Prod.fst := by
  induction entries generalizing units with
  | nil =>
      cases hunits
      rfl
  | cons entry rest ih =>
      rw [List.mapM_cons] at hunits
      obtain ⟨u, hu, hrest⟩ := Option.bind_eq_some_iff.mp hunits
      obtain ⟨us, hus, hpure⟩ := Option.bind_eq_some_iff.mp hrest
      cases hpure
      rw [List.map_cons, List.map_cons, id_of_unit? hu, ih hus]

/-- The table that a node brings stands below the node. -/
theorem everywhere_of_table? {P : Node → Prop} {src : Source} {n table : Node}
    (h : n.Everywhere P) (htable : table? src n = some table) : table.Everywhere P := by
  unfold table? at htable
  split at htable
  · unfold bootstrapTable? at htable
    obtain ⟨_, _, htable⟩ := Option.bind_eq_some_iff.mp htable
    obtain ⟨_, _, htable⟩ := Option.bind_eq_some_iff.mp htable
    obtain ⟨arguments, harguments, htable⟩ := Option.bind_eq_some_iff.mp htable
    obtain ⟨value, hvalue, htable⟩ := Option.bind_eq_some_iff.mp htable
    obtain ⟨first, hfirst, htable⟩ := Option.bind_eq_some_iff.mp htable
    obtain ⟨_, _, hpure⟩ := Option.bind_eq_some_iff.mp htable
    cases hpure
    have hlist := h.of_child? harguments
    exact (hlist.of_mem_children (Node.mem_children_of_head? hvalue)).of_bare? hfirst
  · split at htable
    · obtain ⟨value, hvalue, hbare⟩ := Option.bind_eq_some_iff.mp htable
      exact (h.of_child? hvalue).of_bare? hbare
    · cases htable

theorem units?_nodup {src : Source} {table : Node} {units : List Piece}
    (hspaced : table.SpacesElements) (hunits : units? src table = some units) :
    (units.map (·.id)).Nodup := by
  unfold units? at hunits
  obtain ⟨entries, hentries, hrest⟩ := Option.bind_eq_some_iff.mp hunits
  obtain ⟨_, _, hmap⟩ := Option.bind_eq_some_iff.mp hrest
  rw [ids_of_mapM_unit? hmap]
  exact entries?_nodup hspaced hentries

theorem ofParsed_nodup {p : Parsed} {units : List Piece}
    (hspaced : p.root.Everywhere Node.SpacesElements) (hunits : ofParsed p = some units) :
    (units.map (·.id)).Nodup := by
  obtain ⟨site, hsite, hfound⟩ := List.exists_of_findSome?_eq_some hunits
  obtain ⟨table, htable, hgood⟩ := Option.bind_eq_some_iff.mp hfound
  have hbelow := everywhere_of_table? (hspaced.of_mem_walk hsite) htable
  exact units?_nodup hbelow.here hgood

end BundleAtlas.Split

namespace BundleAtlas

/-- Whatever text of either dialect is split, no id stands for two modules. -/
theorem split_nodup {dialect : Dialect} {text : String} {units : List Piece}
    (hsplit : split dialect.parse text = .ok (.modules units)) :
    (units.map (·.id)).Nodup := by
  unfold split at hsplit
  split at hsplit
  · rename_i p hparse
    split at hsplit
    · rename_i found hfound
      cases hsplit
      exact Split.ofParsed_nodup (Dialect.parse_spacesElements hparse) hfound
    · cases hsplit
  · cases hsplit
  · cases hsplit

/-- The modules of an unpacked text come of splitting a text. -/
theorem split_of_unpackWith {parse : Parse} {text : String} {unbundle : Bool} {result : Unpacked}
    {units : List Piece} (hresult : unpackWith parse text unbundle = .ok result)
    (hsplitting : result.splitting = .modules units) :
    ∃ code, split parse code = .ok (.modules units) := by
  unfold unpackWith at hresult
  rcases hcode : unpackText text with fault | code
  · simp [hcode, bind, Except.bind] at hresult
  cases unbundle with
  | false =>
      simp only [hcode, bind, Except.bind] at hresult
      cases hresult
      cases hsplitting
  | true =>
      rcases hsplit : split parse code with fault | splitting
      · simp [hcode, hsplit, bind, Except.bind] at hresult
      · simp only [hcode, hsplit, bind, Except.bind] at hresult
        cases hresult
        exact ⟨code, by rw [hsplit, ← hsplitting]⟩

end BundleAtlas
