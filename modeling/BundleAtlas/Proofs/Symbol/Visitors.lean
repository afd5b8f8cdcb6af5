import BundleAtlas.Proofs.Symbol.Shape
import BundleAtlas.Proofs.Tree.First
import BundleAtlas.Symbol.Inventory
import BundleAtlas.Symbol.Locate

/-!
Three ways to look for a name in a document: its first declaration, the
entries of the inventory that have it, and the symbol that is found for it.
Each goes through the sites in the same order and stops at, or keeps, the
sites that bind the name. A declaration is a binding of a stricter kind, so
the symbol that is found never comes behind the first declaration, and comes
before it only where a plain variable or a loop binds the name.
-/

namespace BundleAtlas

namespace Node

/-- A declarator binds a name and does not start out as a function. -/
structure BindsPlainly (src : Source) (name : String) (n : Node) : Prop where
  kind : n.kind = .variableDeclarator
  bound : n.declaratorName src = name
  value : ∀ fn, n.BareChild .value fn → fn.kind.isFunctionValue = false

/-- A loop over the items of a value binds a name, behind a keyword. -/
structure BindsInLoop (src : Source) (name : String) (n : Node) : Prop where
  kind : n.kind = .forIn
  keyword : ∃ word, n.child? .kind = some word
  bound : ∃ left, n.child? .left = some left ∧ left.kind = .identifier ∧ src.text left = name

/-- All nodes that bind a name. -/
inductive Binds (src : Source) (name : String) (n : Node) : Prop
  | declaring (h : Declares src name n)
  | plainly (h : BindsPlainly src name n)
  | inLoop (h : BindsInLoop src name n)

end Node

namespace Site

variable {src : Source} {name : String} {s : Site}

theorem binds_of_symbol? {found : SymbolSpan} (hfound : s.symbol? src name = some found) :
    s.node.Binds src name := by
  unfold symbol? at hfound
  split at hfound
  · rename_i hkind
    split at hfound
    · rename_i hdeclared
      have hdeclared : s.node.declaredName src = name := by simpa using hdeclared
      rcases Bool.or_eq_true_iff.mp hkind with hfunction | hclass
      · exact .declaring (.ofFunction hfunction hdeclared)
      · exact .declaring (.ofClass hclass hdeclared)
    · cases hfound
  · split at hfound
    · rename_i hkind
      have hkind : s.node.kind = .variableDeclarator := by simpa using hkind
      split at hfound
      · rename_i hbound
        have hbound : s.node.declaratorName src = name := by simpa using hbound
        by_cases hfn : ∃ fn, s.node.BareChild .value fn ∧ fn.kind.isFunctionValue = true
        · obtain ⟨fn, hvalue, hfn⟩ := hfn
          exact .declaring (.ofVariable hkind hbound hvalue hfn)
        · refine .plainly ⟨hkind, hbound, fun fn hvalue => ?_⟩
          rw [← Bool.not_eq_true]
          exact fun hfunction => hfn ⟨fn, hvalue, hfunction⟩
      · cases hfound
    · split at hfound
      · rename_i hkind
        split at hfound
        · rename_i word left hword hleft
          split at hfound
          · rename_i hbound
            have hbound : left.kind = .identifier ∧ src.text left = name := by
              simpa using hbound
            exact .inLoop ⟨by simpa using hkind, ⟨word, hword⟩, left, hleft, hbound⟩
          · cases hfound
        · cases hfound
      · cases hfound

theorem symbol?_of_binds (hbinds : s.node.Binds src name) :
    ∃ found, s.symbol? src name = some found := by
  unfold symbol?
  cases hbinds with
  | declaring hdeclares =>
      cases hdeclares with
      | ofFunction hkind hdeclared => simp [hkind, hdeclared]
      | ofClass hkind hdeclared => simp [hkind, hdeclared]
      | ofVariable hkind hbound _ _ =>
          simp [hkind, hbound, Kind.isFunctionDeclaration, Kind.isClassDeclaration]
  | plainly hplain =>
      simp [hplain.kind, hplain.bound, Kind.isFunctionDeclaration, Kind.isClassDeclaration]
  | inLoop hloop =>
      obtain ⟨word, hword⟩ := hloop.keyword
      obtain ⟨left, hleft, hidentifier, htext⟩ := hloop.bound
      simp [hloop.kind, hword, hleft, hidentifier, htext, Kind.isFunctionDeclaration,
        Kind.isClassDeclaration]

/-- What a site has an entry for is what it declares. Nameless declarations
have none. -/
theorem declares_of_entry? {unit : Piece} {e : SymbolEntry}
    (hentry : s.entry? unit src = some e) : e.name ≠ "" ∧ s.node.Declares src e.name := by
  unfold entry? at hentry
  dsimp only at hentry
  split at hentry
  · rename_i hkind
    split at hentry
    · cases hentry
    · rename_i hnamed
      cases hentry
      exact ⟨by simpa [entry] using hnamed, .ofFunction hkind rfl⟩
  · split at hentry
    · rename_i hkind
      split at hentry
      · cases hentry
      · rename_i hnamed
        cases hentry
        exact ⟨by simpa [entry] using hnamed, .ofClass hkind rfl⟩
    · split at hentry
      · rename_i hkind
        split at hentry
        · cases hentry
        · rename_i hnamed
          split at hentry
          · rename_i fn hfn
            cases hentry
            have hsome : s.node.declaratorFunction?.isSome = true := by simp [hfn]
            obtain ⟨value, hvalue, hfunction⟩ := Node.declaratorFunction?_isSome_iff.mp hsome
            exact ⟨by simpa [entry] using hnamed,
              .ofVariable (by simpa using hkind) rfl hvalue hfunction⟩
          · cases hentry
      · cases hentry

theorem entry?_of_declares (unit : Piece) (hname : name ≠ "")
    (hdeclares : s.node.Declares src name) :
    ∃ e, s.entry? unit src = some e ∧ e.name = name := by
  unfold entry?
  cases hdeclares with
  | ofFunction hkind hdeclared => simp [hkind, hdeclared, hname, entry]
  | ofClass hkind hdeclared =>
      have hfunction := Kind.not_isFunctionDeclaration_of_isClassDeclaration hkind
      simp [hkind, hfunction, hdeclared, hname, entry]
  | ofVariable hkind hbound hvalue hfn =>
      have hsome := Node.declaratorFunction?_isSome_iff.mpr ⟨_, hvalue, hfn⟩
      obtain ⟨fn, hfound⟩ := Option.isSome_iff_exists.mp hsome
      simp [hkind, hbound, hname, hfound, entry, Kind.isFunctionDeclaration,
        Kind.isClassDeclaration]

end Site

namespace Parsed

variable (p : Parsed)

/-- The first entry of the inventory under a name is the one of a site: the
entries before it come from the sites before, and have other names. -/
structure FirstEntry (unit : Piece) (name : String) (before : List Site) (site : Site) : Prop where
  order : ∃ behind e, p.root.sites = before ++ site :: behind ∧
    site.entry? unit p.source = some e ∧ e.name = name ∧
    collectSymbols unit p = before.filterMap (Site.entry? unit p.source) ++
      e :: behind.filterMap (Site.entry? unit p.source)
  others : ∀ e ∈ before.filterMap (Site.entry? unit p.source), e.name ≠ name

/-- The symbol that is found for a name is the one of a site, and no site
before has one. -/
structure FoundAt (name : String) (before : List Site) (site : Site) : Prop where
  order : ∃ behind, p.root.sites = before ++ site :: behind
  found : ∃ symbol, site.symbol? p.source name = some symbol ∧ p.findSymbol name = .ok symbol
  others : ∀ s ∈ before, s.symbol? p.source name = none

variable {p} {name : String}

theorem findDeclaration?_of_isFirst {before : List Site} {site : Site}
    (hfirst : IsFirst (fun s : Site => s.node.Declares p.source name) p.root.sites before site) :
    p.root.findDeclaration? p.source name = some site.node := by
  obtain ⟨⟨behind, horder⟩, hdeclares, hbefore⟩ := hfirst
  rw [Node.findDeclaration?, Node.walk_eq_sites, horder]
  refine List.find?_eq_some_iff_append.mpr ⟨Node.declares_iff.mpr hdeclares,
    before.map (·.node), behind.map (·.node), by simp, ?_⟩
  intro n hn
  obtain ⟨s, hs, rfl⟩ := List.mem_map.mp hn
  simpa using mt Node.declares_iff.mp (hbefore s hs)

theorem findDeclaration?_eq_none (hnone : ∀ s ∈ p.root.sites, ¬ s.node.Declares p.source name) :
    p.root.findDeclaration? p.source name = none := by
  rw [Node.findDeclaration?, Node.walk_eq_sites]
  refine List.find?_eq_none.mpr fun n hn => ?_
  obtain ⟨s, hs, rfl⟩ := List.mem_map.mp hn
  exact mt Node.declares_iff.mp (hnone s hs)

theorem mem_collectSymbols_iff (unit : Piece) (hname : name ≠ "") :
    (∃ e ∈ collectSymbols unit p, e.name = name) ↔
      ∃ s ∈ p.root.sites, s.node.Declares p.source name := by
  rw [collectSymbols, Node.walk_eq_sites]
  constructor
  · rintro ⟨e, he, rfl⟩
    obtain ⟨s, hs, hentry⟩ := List.mem_filterMap.mp he
    exact ⟨s, hs, (Site.declares_of_entry? hentry).2⟩
  · rintro ⟨s, hs, hdeclares⟩
    obtain ⟨e, hentry, hnamed⟩ := Site.entry?_of_declares unit hname hdeclares
    exact ⟨e, List.mem_filterMap.mpr ⟨s, hs, hentry⟩, hnamed⟩

theorem firstEntry_of_isFirst (unit : Piece) (hname : name ≠ "") {before : List Site}
    {site : Site}
    (hfirst : IsFirst (fun s : Site => s.node.Declares p.source name) p.root.sites before site) :
    p.FirstEntry unit name before site := by
  obtain ⟨⟨behind, horder⟩, hdeclares, hbefore⟩ := hfirst
  obtain ⟨e, hentry, hnamed⟩ := Site.entry?_of_declares unit hname hdeclares
  refine ⟨⟨behind, e, horder, hentry, hnamed, ?_⟩, ?_⟩
  · rw [collectSymbols, Node.walk_eq_sites, horder, List.filterMap_append,
      List.filterMap_cons_some hentry]
  · intro other hother hsame
    obtain ⟨s, hs, hentry⟩ := List.mem_filterMap.mp hother
    have hdeclares := (Site.declares_of_entry? hentry).2
    rw [hsame] at hdeclares
    exact hbefore s hs hdeclares

theorem foundAt_of_isFirst {before : List Site} {site : Site}
    (hfirst : IsFirst (fun s : Site => s.node.Binds p.source name) p.root.sites before site) :
    p.FoundAt name before site := by
  obtain ⟨⟨behind, horder⟩, hbinds, hbefore⟩ := hfirst
  obtain ⟨symbol, hsymbol⟩ := Site.symbol?_of_binds hbinds
  have hnone : ∀ s ∈ before, s.symbol? p.source name = none := by
    intro s hs
    refine Option.eq_none_iff_forall_not_mem.mpr fun found hfound => ?_
    exact hbefore s hs (Site.binds_of_symbol? hfound)
  have hsome : p.root.walk.findSome? (Site.symbol? p.source name) = some symbol := by
    rw [Node.walk_eq_sites, horder]
    exact List.findSome?_eq_some_iff.mpr ⟨before, site, behind, rfl, hsymbol, hnone⟩
  exact ⟨⟨behind, horder⟩, ⟨symbol, hsymbol, by rw [findSymbol, hsome]⟩, hnone⟩

theorem not_binds_of_findSymbol {e : Fault} (herror : p.findSymbol name = .error e) :
    ∀ s ∈ p.root.sites, ¬ s.node.Binds p.source name := by
  intro s hs hbinds
  obtain ⟨before, site, hfirst⟩ :=
    exists_isFirst (P := fun s : Site => s.node.Binds p.source name) ⟨s, hs, hbinds⟩
  obtain ⟨symbol, _, hfound⟩ := (foundAt_of_isFirst hfirst).found
  rw [hfound] at herror
  cases herror

end Parsed

/-- The three ways to look for a name agree. There is a first declaration of
it if and only if the inventory has an entry under it, and the first such
entry is built from that declaration. Then a symbol is found as well, at a
site no later in the order; it is the same site, or one where a plain variable
or a loop binds the name. Where no symbol is found, there is neither a
declaration nor an entry. -/
theorem symbol_visitors_agree (unit : Piece) (p : Parsed) {name : String} (hname : name ≠ "") :
    ((p.root.findDeclaration? p.source name).isSome = true ↔
      ∃ e ∈ collectSymbols unit p, e.name = name) ∧
    (∀ declaration, p.root.findDeclaration? p.source name = some declaration →
      ∃ before site, site.node = declaration ∧ p.FirstEntry unit name before site ∧
      ∃ earlier found, p.FoundAt name earlier found ∧ earlier.length ≤ before.length ∧
        (earlier = before ∧ found = site ∨ found.node.BindsPlainly p.source name ∨
          found.node.BindsInLoop p.source name)) ∧
    (∀ e, p.findSymbol name = .error e →
      p.root.findDeclaration? p.source name = none ∧
      ∀ entry ∈ collectSymbols unit p, entry.name ≠ name) := by
  have hentries := Parsed.mem_collectSymbols_iff (p := p) unit hname
  by_cases hdeclared : ∃ s ∈ p.root.sites, s.node.Declares p.source name
  · obtain ⟨before, site, hfirst⟩ := exists_isFirst hdeclared
    have hdeclaration := Parsed.findDeclaration?_of_isFirst hfirst
    refine ⟨?_, ?_, ?_⟩
    · simp [hdeclaration, hentries.mpr hdeclared]
    · intro declaration hfound
      rw [hdeclaration] at hfound
      obtain ⟨s, hs, hdeclares⟩ := hdeclared
      obtain ⟨earlier, found, hfoundFirst⟩ :=
        exists_isFirst (P := fun s : Site => s.node.Binds p.source name)
          ⟨s, hs, .declaring hdeclares⟩
      obtain ⟨hle, hsame⟩ := hfirst.compare hfoundFirst (.declaring hfirst.holds)
      refine ⟨before, site, Option.some_inj.mp hfound,
        Parsed.firstEntry_of_isFirst unit hname hfirst, earlier, found,
        Parsed.foundAt_of_isFirst hfoundFirst, hle, ?_⟩
      cases hfoundFirst.holds with
      | declaring hdeclares => exact Or.inl (hsame hdeclares)
      | plainly hplain => exact Or.inr (Or.inl hplain)
      | inLoop hloop => exact Or.inr (Or.inr hloop)
    · intro e herror
      obtain ⟨s, hs, hdeclares⟩ := hdeclared
      exact absurd (.declaring hdeclares) (Parsed.not_binds_of_findSymbol herror s hs)
  · have hnone : p.root.findDeclaration? p.source name = none :=
      Parsed.findDeclaration?_eq_none fun s hs hdeclares => hdeclared ⟨s, hs, hdeclares⟩
    have hempty := mt hentries.mp hdeclared
    refine ⟨?_, ?_, ?_⟩
    · simpa [hnone] using hempty
    · intro declaration hfound
      rw [hnone] at hfound
      cases hfound
    · intro e _
      exact ⟨hnone, fun entry hentry hsame => hempty ⟨entry, hentry, hsame⟩⟩

open Node in
/-- The document `let go; function go() {}`. -/
def goBoundTwice : Parsed where
  source := .ofString "let go; function go() \x7b\x7d"
  root := inLine .program none 0 24
    [inLine .lexicalDeclaration none 0 7
      [inLine (.token "let") (some .kind) 0 3,
        inLine .variableDeclarator none 4 6 [inLine .identifier (some .name) 4 6],
        inLine (.token ";") none 6 7],
      inLine .functionDeclaration none 8 24
        [inLine (.token "function") none 8 16, inLine .identifier (some .name) 17 19,
          emptyParens "formal_parameters" .parameters 19, emptyBody 22]]

theorem symbol_visitors_agree_goBoundTwice :
    "go" ≠ "" ∧
    ((goBoundTwice.root.findDeclaration? goBoundTwice.source "go").isSome = true ↔
      ∃ e ∈ collectSymbols ⟨"0", "0.js", ""⟩ goBoundTwice, e.name = "go") ∧
    (∀ declaration, goBoundTwice.root.findDeclaration? goBoundTwice.source "go" = some declaration →
      ∃ before site, site.node = declaration ∧
        goBoundTwice.FirstEntry ⟨"0", "0.js", ""⟩ "go" before site ∧
      ∃ earlier found, goBoundTwice.FoundAt "go" earlier found ∧ earlier.length ≤ before.length ∧
        (earlier = before ∧ found = site ∨ found.node.BindsPlainly goBoundTwice.source "go" ∨
          found.node.BindsInLoop goBoundTwice.source "go")) ∧
    (∀ e, goBoundTwice.findSymbol "go" = .error e →
      goBoundTwice.root.findDeclaration? goBoundTwice.source "go" = none ∧
      ∀ entry ∈ collectSymbols ⟨"0", "0.js", ""⟩ goBoundTwice, entry.name ≠ "go") :=
  ⟨by decide, symbol_visitors_agree ⟨"0", "0.js", ""⟩ goBoundTwice (by decide)⟩

-- The plain variable is found, the function is declared and listed.
example : (goBoundTwice.findSymbol "go").toOption.map (·.text) = some "let go;" ∧
    (collectSymbols ⟨"0", "0.js", ""⟩ goBoundTwice).map (·.signature) = ["function go()"] := by
  decide +kernel

end BundleAtlas
