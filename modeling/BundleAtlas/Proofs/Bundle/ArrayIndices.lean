import BundleAtlas.Proofs.Bundle.FirstTable
import BundleAtlas.Proofs.Bundle.ModuleIds
import BundleAtlas.Proofs.Grammar.ArrayForm

/-!
The indices of an array of modules. An array is written from optional
elements; the number of commas before an element is its position among them,
whatever holes and comments stand in between. So the modules of an array have
their indices as ids, and none of them is lost or has the id of another.
-/

namespace BundleAtlas

namespace Split

/-- The elements among optional ones, each under its position. -/
def indexed (xs : List (Option Node)) : List (String × Node) :=
  xs.zipIdx.filterMap fun (x, i) => x.map fun e => (toString i, e)

theorem arrayEntries_comma {c : Node} (hkind : c.kind = .token ",") (i : Nat) (cs : List Node) :
    arrayEntries i (c :: cs) = arrayEntries (i + 1) cs := by
  simp [arrayEntries, Node.isComment, hkind]

theorem arrayEntries_element {c : Node} (h : c.IsElement) (i : Nat) (cs : List Node) :
    arrayEntries i (c :: cs) = (toString i, c) :: arrayEntries i cs := by
  obtain ⟨hopening, hclosing, hcomma, hcomment⟩ := h
  simp [arrayEntries, Node.isComment, hopening, hclosing, hcomma, hcomment]

/-- Comments do not count. -/
theorem arrayEntries_filter (i : Nat) (cs : List Node) :
    arrayEntries i (cs.filter (!·.isComment)) = arrayEntries i cs := by
  induction cs generalizing i with
  | nil => rfl
  | cons c cs ih =>
      cases hcomment : c.isComment with
      | true => simp [hcomment, arrayEntries, ih]
      | false => simp [hcomment, arrayEntries, ih]

/-- From a given index on, the elements of a row are found under their
positions. The induction is on how the row is written. -/
theorem arrayEntries_of_separated {xs : List (Option Node)} {cs : List Node} {closing : Node}
    (hrow : Separated xs cs) (helements : ∀ e, some e ∈ xs → e.IsElement)
    (hclosing : closing.kind = .token "]") (i : Nat) :
    arrayEntries i (cs ++ [closing]) =
      (xs.zipIdx i).filterMap fun (x, i) => x.map fun e => (toString i, e) := by
  have hend : ∀ i, arrayEntries i [closing] = [] := by
    intro i
    simp [arrayEntries, hclosing]
  induction hrow generalizing i with
  | empty => exact hend i
  | last x =>
      cases x with
      | none => exact hend i
      | some e =>
          rw [Option.toList_some, List.singleton_append,
            arrayEntries_element (helements e List.mem_cons_self), hend]
          rfl
  | next x hcomma _ ih =>
      have hrest := ih (fun e he => helements e (List.mem_cons_of_mem _ he)) (i + 1)
      cases x with
      | none => simp [arrayEntries_comma hcomma, hrest]
      | some e =>
          have helement := helements e List.mem_cons_self
          simp [arrayEntries_element helement, arrayEntries_comma hcomma, hrest]

theorem arrayEntries_of_writesArray {xs : List (Option Node)} {cs : List Node}
    (h : WritesArray xs cs) : arrayEntries 0 cs = indexed xs := by
  obtain ⟨opening, closing, body, hopening, hclosing, hrow, hcs⟩ := h.row
  have hbracket : arrayEntries 0 (opening :: body ++ [closing]) =
      arrayEntries 0 (body ++ [closing]) := by
    simp [arrayEntries, hopening]
  rw [← arrayEntries_filter, hcs, hbracket]
  exact arrayEntries_of_separated hrow h.elements hclosing 0

theorem mem_indexed {xs : List (Option Node)} {entry : String × Node} :
    entry ∈ indexed xs ↔ ∃ i : Nat, xs[i]? = some (some entry.2) ∧ toString i = entry.1 := by
  obtain ⟨id, e⟩ := entry
  simp [indexed, List.mem_filterMap, List.mem_zipIdx_iff_getElem?]

/-- Different positions are written differently. -/
theorem nodup_indexed (xs : List (Option Node)) : ((indexed xs).map Prod.fst).Nodup := by
  have hpositions : xs.zipIdx.Pairwise fun a b => a.2 ≠ b.2 := by
    apply List.pairwise_map.mp
    change (xs.zipIdx.map Prod.snd).Nodup
    rw [List.zipIdx_map_snd]
    exact List.nodup_range'
  rw [List.nodup_iff_pairwise_ne, List.pairwise_map]
  refine hpositions.filterMap _ ?_
  rintro ⟨x, i⟩ ⟨y, j⟩ hother entry hentry entry' hentry' hsame
  obtain ⟨e, _, rfl⟩ := Option.map_eq_some_iff.mp hentry
  obtain ⟨e', _, rfl⟩ := Option.map_eq_some_iff.mp hentry'
  exact hother (toString_injective hsame)

/-- A node brings an array of modules: some of the optional elements that it is
written from are there, and all that are there are functions. -/
structure BringsArray (src : Source) (n : Node) (xs : List (Option Node)) : Prop where
  brings : ∃ table, BringsTable src n table ∧ table.kind = .array ∧ WritesArray xs table.children
  nonempty : ∃ e, some e ∈ xs
  factories : ∀ e, some e ∈ xs → ∃ factory, IsFactory e factory

/-- An array of modules is a good table, and retains them under their
positions. -/
theorem BringsArray.goodSite {src : Source} {n : Node} {xs : List (Option Node)}
    (h : BringsArray src n xs) : GoodSite src n (indexed xs) := by
  obtain ⟨table, hbrings, hkind, hwritten⟩ := h.brings
  refine ⟨⟨table, hbrings, ?_⟩, ?_, ?_⟩
  · rw [← arrayEntries_of_writesArray hwritten, arrayEntries_zero]
    exact .elements hkind
  · obtain ⟨e, he⟩ := h.nonempty
    obtain ⟨i, hi⟩ := List.mem_iff_getElem?.mp he
    have hmem : (toString i, e) ∈ indexed xs := mem_indexed.mpr ⟨i, hi, rfl⟩
    exact List.ne_nil_of_mem hmem
  · intro entry hentry
    obtain ⟨i, hi, _⟩ := mem_indexed.mp hentry
    exact h.factories entry.2 (List.mem_of_getElem? hi)

theorem ids_of_forall₂ {src : Source} {entries : List (String × Node)} {units : List Piece}
    (hunits : List.Forall₂ (IsUnitOf src) entries units) :
    units.map (·.id) = entries.map Prod.fst := by
  have hmap : entries.mapM (unit? src) = some units := by
    rw [mapM_eq_some_iff_forall₂]
    simpa only [unit?_eq_some_iff] using hunits
  exact ids_of_mapM_unit? hmap

end Split

/-- An array that is written from optional elements, with holes and comments
among them, has its elements under their positions, in their order. If the
elements of the first good table are modules, they are split into units under
their positions, each into one, and no two units share an id. Every array
table of a text that can be read is written so. -/
theorem array_modules_keep_indices :
    (∀ xs cs, WritesArray xs cs → Split.arrayEntries 0 cs = Split.indexed xs) ∧
    (∀ (parse : Parse) (text : String) (p : Parsed), parse text = .ok p →
      ∀ before site xs,
        IsFirst (fun s : Site => ∃ entries, Split.GoodSite p.source s.node entries)
          p.root.sites before site →
        Split.BringsArray p.source site.node xs →
        ∃ units, split parse text = .ok (.modules units) ∧
          List.Forall₂ (Split.IsUnitOf p.source) (Split.indexed xs) units ∧
          (units.map (·.id)).Nodup) ∧
    ∀ (dialect : Option String) (text : String) (p : Parsed), parseSource dialect text = .ok p →
      ∀ site ∈ p.root.sites, ∀ table, Split.BringsTable p.source site.node table →
        table.kind = .array → ∃ xs, WritesArray xs table.children := by
  refine ⟨fun _ _ => Split.arrayEntries_of_writesArray, ?_, ?_⟩
  · intro parse text p hparse before site xs hfirst harray
    obtain ⟨units, hunits⟩ := Split.exists_units_iff.mpr harray.goodSite.factories
    have hsplit : split parse text = .ok (.modules units) := by
      have hfound : Split.ofParsed p = some units :=
        Split.ofParsed_eq_some_iff.mpr ⟨before, site, _, hfirst, harray.goodSite, hunits⟩
      simp [split, hparse, hfound]
    refine ⟨units, hsplit, hunits, ?_⟩
    rw [Split.ids_of_forall₂ hunits]
    exact Split.nodup_indexed xs
  · intro dialect text p hparse site hsite table hbrings hkind
    obtain ⟨dialect, hparse⟩ := exists_parse_of_parseSource hparse
    have hsite : site ∈ p.root.walk := by rwa [Node.walk_eq_sites]
    have hbelow := (Dialect.parse_isWrittenArray hparse).of_mem_walk hsite
    exact (Split.everywhere_of_table? hbelow (Split.table?_of_bringsTable hbrings)).here hkind

/-!
The document `var __webpack_modules__ = [() => a(),, /**/ () => b(),];`.
-/

namespace SparseModules

open Node

/-- A function without parameters that calls a function with a short name. -/
def factory (start : Nat) : Node :=
  inLine .arrowFunction none start (start + 9)
    [emptyParens "formal_parameters" .parameters start,
      inLine (.token "=>") none (start + 3) (start + 5),
      inLine .callExpression (some .body) (start + 6) (start + 9)
        [inLine .identifier (some .function) (start + 6) (start + 7),
          emptyParens "arguments" .arguments (start + 7)]]

def comma (start : Nat) : Node := inLine (.token ",") none start (start + 1)

def opening : Node := inLine (.token "[") none 26 27

def closing : Node := inLine (.token "]") none 54 55

def table : Node :=
  inLine .array (some .value) 26 55
    [opening, factory 27, comma 36, comma 37, inLine .comment none 39 43, factory 44, comma 53,
      closing]

def declarator : Node :=
  inLine .variableDeclarator none 4 55
    [inLine .identifier (some .name) 4 23, inLine (.token "=") none 24 25, table]

def statement : Node :=
  inLine .variableDeclaration none 0 56
    [inLine (.token "var") (some .kind) 0 3, declarator, inLine (.token ";") none 55 56]

def program : Node := inLine .program none 0 56 [statement]

def text : String := "var __webpack_modules__ = [() => a(),, /**/ () => b(),];"

def document : Parsed := ⟨program, .ofString text⟩

def elements : List (Option Node) := [some (factory 27), none, some (factory 44)]

theorem writesArray : WritesArray elements table.children := by
  refine ⟨?_, opening, closing, [factory 27, comma 36, comma 37, factory 44, comma 53], rfl, rfl,
    ?_, rfl⟩
  · simp [elements, IsElement, factory, inLine]
  · exact .next (some (factory 27)) rfl (.next none rfl (.next (some (factory 44)) rfl .empty))

def site : Site := ⟨declarator, [statement, program]⟩

theorem bringsArray : Split.BringsArray document.source site.node elements := by
  have hname : declarator.declaratorName document.source = "__webpack_modules__" := by
    decide +kernel
  have hvalue : declarator.BareChild .value table := ⟨table, rfl, .itself (by decide)⟩
  refine ⟨⟨table, .ofVariable rfl hname hvalue (Or.inl rfl), rfl, writesArray⟩,
    ⟨factory 27, by simp [elements]⟩, ?_⟩
  intro e he
  have hkind : e.kind = .arrowFunction := by
    have hcases : e = factory 27 ∨ e = factory 44 := by simpa [elements] using he
    rcases hcases with rfl | rfl <;> rfl
  exact ⟨e, .itself (by rw [hkind]; decide), by rw [hkind]; rfl⟩

theorem isFirst :
    IsFirst (fun s : Site => ∃ entries, Split.GoodSite document.source s.node entries)
      document.root.sites (document.root.sites.take 3) site := by
  refine ⟨⟨document.root.sites.drop 4, rfl⟩, ⟨_, bringsArray.goodSite⟩, ?_⟩
  rintro s hs ⟨entries, ⟨table, hbrings, _⟩, _⟩
  have hnone : ∀ s ∈ document.root.sites.take 3,
      (Split.table? document.source s.node).isNone = true := by decide +kernel
  have hno := hnone s hs
  rw [Split.table?_of_bringsTable hbrings] at hno
  cases hno

end SparseModules

open SparseModules in
/-- The second function is the third element, and its id is that of a third
one. -/
theorem array_modules_keep_indices_sparse :
    Split.arrayEntries 0 table.children = [("0", factory 27), ("2", factory 44)] ∧
    ∃ units, split (fun _ => .ok document) text = .ok (.modules units) ∧
      units.map (·.id) = ["0", "2"] := by
  obtain ⟨hentries, hsplit, _⟩ := array_modules_keep_indices
  obtain ⟨units, hunits, hall, _⟩ := hsplit (fun _ => .ok document) text document rfl _ _ _
    isFirst bringsArray
  refine ⟨hentries elements table.children writesArray, units, hunits, ?_⟩
  rw [Split.ids_of_forall₂ hall]
  rfl

end BundleAtlas
