import BundleAtlas.Bundle.Unpack
import BundleAtlas.Proofs.Bundle.Table
import BundleAtlas.Proofs.Symbol.Shape
import BundleAtlas.Proofs.Tree.First
import Mathlib.Data.Option.Basic

/-!
Which table a bundle is split by. Rules say which nodes bring a table and
when a table is good: it retains something, and all that it retains are
functions. The first node that brings a good table decides; its entries become
the units, all of them and in their order, and other tables give nothing.
-/

namespace BundleAtlas

namespace Split

/-- A function takes something: a parameter without a list around it, or a
list with a construct in it. -/
inductive Takes (fn : Node) : Prop
  | single {parameter : Node} (hsingle : fn.child? .parameter = some parameter)
  | list {parameters parameter : Node} (hlist : fn.child? .parameters = some parameters)
      (hmem : parameter ∈ parameters.namedChildren)

/-- A node brings a table, an array or an object: as the first argument of a
function that is called on the spot, or as the value of the variable with the
known name. Parentheses may stand around each of them. -/
inductive BringsTable (src : Source) (n table : Node) : Prop
  | ofCall {fn arguments first : Node} (hcall : n.kind = .callExpression)
      (hcallee : n.BareChild .function fn) (hfn : fn.kind.isFunctionValue = true)
      (htakes : Takes fn) (harguments : n.child? .arguments = some arguments)
      (hfirst : arguments.properChildren.head? = some first) (hbare : first.Bare table)
      (htable : table.kind = .array ∨ table.kind = .object)
  | ofVariable (hkind : n.kind = .variableDeclarator)
      (hname : n.declaratorName src = "__webpack_modules__") (hvalue : n.BareChild .value table)
      (htable : table.kind = .array ∨ table.kind = .object)

/-- A value is a function, through parentheses. -/
def IsFactory (value factory : Node) : Prop :=
  value.Bare factory ∧ factory.kind.isFunctionValue = true

/-- A node brings a good table, which retains these entries: at least one, and
functions only. -/
structure GoodSite (src : Source) (n : Node) (entries : List (String × Node)) : Prop where
  brings : ∃ table, BringsTable src n table ∧ Retains src table entries
  nonempty : entries ≠ []
  factories : ∀ entry ∈ entries, ∃ factory, IsFactory entry.2 factory

/-- The unit of an entry. -/
structure IsUnitOf (src : Source) (entry : String × Node) (u : Piece) : Prop where
  id : u.id = entry.1
  path : u.path = Split.path entry.1
  text : ∃ factory, IsFactory entry.2 factory ∧ u.text = factoryBody src factory

variable {src : Source}

theorem takesParameter_iff {fn : Node} : takesParameter fn = true ↔ Takes fn := by
  unfold takesParameter
  rw [Bool.or_eq_true]
  constructor
  · rintro (hsingle | hlist)
    · obtain ⟨parameter, hparameter⟩ := Option.isSome_iff_exists.mp hsingle
      exact .single hparameter
    · split at hlist
      · rename_i parameters hparameters
        have hne : parameters.namedChildren ≠ [] := by simpa using hlist
        obtain ⟨parameter, hmem⟩ := List.exists_mem_of_ne_nil _ hne
        exact .list hparameters hmem
      · cases hlist
  · intro htakes
    cases htakes with
    | single hsingle => exact Or.inl (by simp [hsingle])
    | list hlist hmem =>
        refine Or.inr ?_
        simp [hlist, List.ne_nil_of_mem hmem]

theorem bringsTable_of_bootstrapTable? {call table : Node} (hcall : call.kind = .callExpression)
    (htable : bootstrapTable? call = some table) : BringsTable src call table := by
  unfold bootstrapTable? at htable
  obtain ⟨fn, hcallee, htable⟩ := Option.bind_eq_some_iff.mp htable
  obtain ⟨_, hfn, htable⟩ := Option.bind_eq_some_iff.mp htable
  obtain ⟨arguments, harguments, htable⟩ := Option.bind_eq_some_iff.mp htable
  obtain ⟨first, hfirst, htable⟩ := Option.bind_eq_some_iff.mp htable
  obtain ⟨bare, hbare, htable⟩ := Option.bind_eq_some_iff.mp htable
  obtain ⟨_, hkind, hpure⟩ := Option.bind_eq_some_iff.mp htable
  cases hpure
  have hfn : fn.kind.isFunctionValue = true ∧ takesParameter fn = true := by
    simpa [guard] using hfn
  have hkind : table.kind = .array ∨ table.kind = .object := by
    simpa [guard, or_iff_not_imp_left] using hkind
  exact .ofCall hcall (Node.bareChild_iff.mp hcallee) hfn.1 (takesParameter_iff.mp hfn.2)
    harguments hfirst (Node.bare?_eq_some_iff.mp hbare) hkind

theorem table?_of_bringsTable {n table : Node} (hbrings : BringsTable src n table) :
    table? src n = some table := by
  unfold table?
  cases hbrings with
  | ofCall hcall hcallee hfn htakes harguments hfirst hbare htable =>
      have hcallee := Node.bareChild_iff.mpr hcallee
      have hbare := Node.bare?_eq_some_iff.mpr hbare
      have htakes := takesParameter_iff.mpr htakes
      simp [hcall, bootstrapTable?, hcallee, hfn, htakes, harguments, hfirst, hbare, htable]
  | ofVariable hkind hname hvalue htable =>
      simp [hkind, hname, tableVariable, Node.bareChild_iff.mpr hvalue]

/-- An array or an object that is found as a table is brought by the rules. -/
theorem bringsTable_of_kind {n table : Node} (htable : table? src n = some table)
    (hkind : table.kind = .array ∨ table.kind = .object) : BringsTable src n table := by
  unfold table? at htable
  split at htable
  · rename_i hcall
    exact bringsTable_of_bootstrapTable? (by simpa using hcall) htable
  · split at htable
    · rename_i hvariable
      have hvariable : n.kind = .variableDeclarator ∧ n.declaratorName src = tableVariable := by
        simpa using hvariable
      exact .ofVariable hvariable.1 hvariable.2 (Node.bareChild_iff.mp htable) hkind
    · cases htable

/-- A table that retains something is brought by the rules. -/
theorem bringsTable_of_table? {n table : Node} {entries : List (String × Node)}
    (htable : table? src n = some table) (hretains : Retains src table entries) :
    BringsTable src n table := by
  apply bringsTable_of_kind htable
  cases hretains with
  | elements hkind => exact Or.inl hkind
  | members hkind _ => exact Or.inr hkind

theorem unit?_eq_some_iff {entry : String × Node} {u : Piece} :
    unit? src entry = some u ↔ IsUnitOf src entry u := by
  unfold unit?
  constructor
  · intro hunit
    obtain ⟨factory, hbare, hunit⟩ := Option.bind_eq_some_iff.mp hunit
    obtain ⟨_, hfn, hpure⟩ := Option.bind_eq_some_iff.mp hunit
    cases hpure
    have hfn : factory.kind.isFunctionValue = true := by simpa [guard] using hfn
    exact ⟨rfl, rfl, factory, ⟨Node.bare?_eq_some_iff.mp hbare, hfn⟩, rfl⟩
  · rintro ⟨hid, hpath, factory, ⟨hbare, hfn⟩, htext⟩
    obtain ⟨id, path, text⟩ := u
    dsimp only at hid hpath htext
    subst hid hpath htext
    simp [Node.bare?_eq_some_iff.mpr hbare, hfn]

theorem units?_eq_some_iff {table : Node} {units : List Piece} :
    units? src table = some units ↔ ∃ entries, Retains src table entries ∧ entries ≠ [] ∧
      List.Forall₂ (IsUnitOf src) entries units := by
  have hunits : ∀ entries : List (String × Node), entries.mapM (unit? src) = some units ↔
      List.Forall₂ (IsUnitOf src) entries units := by
    intro entries
    simp only [mapM_eq_some_iff_forall₂, unit?_eq_some_iff]
  unfold units?
  constructor
  · intro hfound
    obtain ⟨entries, hentries, hrest⟩ := Option.bind_eq_some_iff.mp hfound
    obtain ⟨_, hne, hmap⟩ := Option.bind_eq_some_iff.mp hrest
    have hne : entries ≠ [] := by simpa [guard] using hne
    exact ⟨entries, entries?_eq_some_iff.mp hentries, hne, (hunits entries).mp hmap⟩
  · rintro ⟨entries, hretains, hne, hall⟩
    simp [entries?_eq_some_iff.mpr hretains, hne, (hunits entries).mpr hall]

/-- There is a unit for each of some entries if and only if all of them are
functions. -/
theorem exists_units_iff {entries : List (String × Node)} :
    (∃ units, List.Forall₂ (IsUnitOf src) entries units) ↔
      ∀ entry ∈ entries, ∃ factory, IsFactory entry.2 factory := by
  induction entries with
  | nil => simp
  | cons entry entries ih =>
      rw [List.forall_mem_cons, ← ih]
      constructor
      · rintro ⟨units, hunits⟩
        cases hunits with
        | cons hunit hrest =>
            obtain ⟨factory, hfactory, _⟩ := hunit.text
            exact ⟨⟨factory, hfactory⟩, _, hrest⟩
      · rintro ⟨⟨factory, hfactory⟩, units, hrest⟩
        exact ⟨⟨entry.1, path entry.1, factoryBody src factory⟩ :: units,
          .cons ⟨rfl, rfl, factory, hfactory, rfl⟩ hrest⟩

/-- A node gives units if and only if it is a good site, one unit for each
entry that is retained. -/
theorem bind_units?_eq_some_iff {n : Node} {units : List Piece} :
    (table? src n).bind (units? src) = some units ↔
      ∃ entries, GoodSite src n entries ∧ List.Forall₂ (IsUnitOf src) entries units := by
  rw [Option.bind_eq_some_iff]
  constructor
  · rintro ⟨table, htable, hunits⟩
    obtain ⟨entries, hretains, hne, hall⟩ := units?_eq_some_iff.mp hunits
    have hbrings := bringsTable_of_table? htable hretains
    exact ⟨entries, ⟨⟨table, hbrings, hretains⟩, hne, exists_units_iff.mp ⟨units, hall⟩⟩, hall⟩
  · rintro ⟨entries, ⟨⟨table, hbrings, hretains⟩, hne, _⟩, hall⟩
    exact ⟨table, table?_of_bringsTable hbrings,
      units?_eq_some_iff.mpr ⟨entries, hretains, hne, hall⟩⟩

/-- A node gives units if and only if it is a good site. -/
theorem exists_bind_units?_iff {n : Node} :
    (∃ units, (table? src n).bind (units? src) = some units) ↔
      ∃ entries, GoodSite src n entries := by
  constructor
  · rintro ⟨units, hunits⟩
    obtain ⟨entries, hsite, _⟩ := bind_units?_eq_some_iff.mp hunits
    exact ⟨entries, hsite⟩
  · rintro ⟨entries, hsite⟩
    obtain ⟨units, hall⟩ := exists_units_iff.mpr hsite.factories
    exact ⟨units, bind_units?_eq_some_iff.mpr ⟨entries, hsite, hall⟩⟩

/-- The units of a document are those of its first good site. -/
theorem ofParsed_eq_some_iff {p : Parsed} {units : List Piece} :
    ofParsed p = some units ↔ ∃ before site entries,
      IsFirst (fun s : Site => ∃ entries, GoodSite p.source s.node entries) p.root.sites before
        site ∧
      GoodSite p.source site.node entries ∧ List.Forall₂ (IsUnitOf p.source) entries units := by
  unfold ofParsed
  rw [Node.walk_eq_sites, findSome?_eq_some_iff_isFirst]
  simp only [exists_bind_units?_iff]
  simp only [bind_units?_eq_some_iff]
  constructor
  · rintro ⟨before, site, hfirst, entries, hsite, hall⟩
    exact ⟨before, site, entries, hfirst, hsite, hall⟩
  · rintro ⟨before, site, entries, hfirst, hsite, hall⟩
    exact ⟨before, site, hfirst, entries, hsite, hall⟩

theorem ofParsed_eq_none_iff {p : Parsed} :
    ofParsed p = none ↔
      ∀ site ∈ p.root.sites, ∀ entries, ¬ GoodSite p.source site.node entries := by
  constructor
  · intro hnone site hsite entries hgood
    obtain ⟨before, first, hfirst⟩ :=
      exists_isFirst (P := fun s : Site => ∃ entries, GoodSite p.source s.node entries)
        ⟨site, hsite, entries, hgood⟩
    obtain ⟨entries, hgood⟩ := hfirst.holds
    obtain ⟨units, hall⟩ := exists_units_iff.mpr hgood.factories
    have hsome := ofParsed_eq_some_iff.mpr ⟨before, first, entries, hfirst, hgood, hall⟩
    rw [hnone] at hsome
    cases hsome
  · intro hnone
    refine Option.eq_none_iff_forall_not_mem.mpr fun units hunits => ?_
    obtain ⟨before, site, entries, ⟨⟨behind, horder⟩, _, _⟩, hgood, _⟩ :=
      ofParsed_eq_some_iff.mp hunits
    have hsite : site ∈ p.root.sites := by simp [horder]
    exact hnone site hsite entries hgood

end Split

theorem units?_of_split {parse : Parse} {text : String} {p : Parsed}
    (hparse : parse text = .ok p) :
    ∃ result, split parse text = .ok result ∧ result.units? = Split.ofParsed p := by
  unfold split
  rw [hparse]
  cases hfound : Split.ofParsed p with
  | none => exact ⟨.noTable, by simp [hfound], rfl⟩
  | some units => exact ⟨.modules units, by simp [hfound], rfl⟩

/-- A text is split by its first good table, and by nothing else. A text that
can be read gives no units if and only if no node of it brings a good table;
else its units are those of the first node that does, one for each entry that
the table retains, in their order, and at least one. A text that cannot be
read gives none. -/
theorem split_by_first_good_table (dialect : Option String) (text : String) :
    match parseSource dialect text with
    | .ok p => ∃ result, splitBundle dialect text = .ok result ∧
        (result.units? = none ↔
          ∀ site ∈ p.root.sites, ∀ entries, ¬ Split.GoodSite p.source site.node entries) ∧
        ∀ units, result.units? = some units ↔ units ≠ [] ∧ ∃ before site entries,
          IsFirst (fun s : Site => ∃ entries, Split.GoodSite p.source s.node entries)
            p.root.sites before site ∧
          Split.GoodSite p.source site.node entries ∧
          List.Forall₂ (Split.IsUnitOf p.source) entries units
    | .error _ => ∀ result, splitBundle dialect text = .ok result → result.units? = none := by
  cases hparse : parseSource dialect text with
  | ok p =>
      obtain ⟨result, hresult, hunits⟩ := units?_of_split hparse
      refine ⟨result, hresult, ?_, ?_⟩
      · rw [hunits]
        exact Split.ofParsed_eq_none_iff
      · intro units
        rw [hunits, Split.ofParsed_eq_some_iff]
        constructor
        · rintro ⟨before, site, entries, hfirst, hgood, hall⟩
          refine ⟨?_, before, site, entries, hfirst, hgood, hall⟩
          rintro rfl
          exact hgood.nonempty (List.forall₂_nil_right_iff.mp hall)
        · exact fun h => h.2
  | error e =>
      intro result hresult
      unfold splitBundle split at hresult
      rw [hparse] at hresult
      cases e with
      | failure f =>
          cases hresult
          rfl
      | _ => cases hresult

end BundleAtlas
