import BundleAtlas.Proofs.Symbol.Visitors

/-!
What is found under a name. A declaration has its name in a child: functions
and classes carry it, variables and loops bind an identifier. A declarator that
takes its value apart has none, and is read as one with the empty name. So what
is found under a name has exactly that name, and a value that is taken apart is
found under no name; only under the empty one it is.
-/

namespace BundleAtlas

namespace Node

/-- A node declares something under a name: a function or a class that carries
it, a variable whose identifier it is, or the identifier that a loop binds. -/
inductive Names (src : Source) (name : String) (n : Node) : Prop
  | ofFunction {word : Node} (hkind : n.kind.isFunctionDeclaration = true)
      (hword : n.child? .name = some word) (htext : src.text word = name)
  | ofClass {word : Node} (hkind : n.kind.isClassDeclaration = true)
      (hword : n.child? .name = some word) (htext : src.text word = name)
  | ofVariable {word : Node} (hkind : n.kind = .variableDeclarator)
      (hword : n.child? .name = some word) (hidentifier : word.kind = .identifier)
      (htext : src.text word = name)
  | ofLoop (hloop : BindsInLoop src name n)

/-- A node declares something without a name: a function or a class that
carries none, or a declarator that binds no identifier. -/
inductive Nameless (n : Node) : Prop
  | ofFunction (hkind : n.kind.isFunctionDeclaration = true) (hnone : n.child? .name = none)
  | ofClass (hkind : n.kind.isClassDeclaration = true) (hnone : n.child? .name = none)
  | ofVariable (hkind : n.kind = .variableDeclarator)
      (hother : ∀ target, n.child? .name = some target → target.kind ≠ .identifier)

/-- A declarator takes its value apart by a pattern. -/
structure TakesApart (n : Node) : Prop where
  kind : n.kind = .variableDeclarator
  target : ∃ pattern, n.child? .name = some pattern ∧ pattern.kind.isDestructuring = true

variable {src : Source} {name : String} {n : Node}

theorem TakesApart.target_ne (h : n.TakesApart) {target : Node}
    (htarget : n.child? .name = some target) : target.kind ≠ .identifier := by
  obtain ⟨pattern, hpattern, hdestructuring⟩ := h.target
  obtain rfl : pattern = target := Option.some_inj.mp (hpattern.symm.trans htarget)
  intro hidentifier
  rw [hidentifier] at hdestructuring
  cases hdestructuring

theorem TakesApart.not_names (h : n.TakesApart) : ¬ n.Names src name := by
  intro hnames
  have hkind := h.kind
  cases hnames with
  | ofFunction hfunction _ _ => simp [hkind, Kind.isFunctionDeclaration] at hfunction
  | ofClass hclass _ _ => simp [hkind, Kind.isClassDeclaration] at hclass
  | ofVariable _ hword hidentifier _ => exact h.target_ne hword hidentifier
  | ofLoop hloop => exact absurd (hkind.symm.trans hloop.kind) (by decide)

/-- The name of a function or a class is the text of a child; without one it
is empty. -/
theorem declaredName_cases (src : Source) (n : Node) :
    (∃ word, n.child? .name = some word ∧ src.text word = n.declaredName src) ∨
      n.child? .name = none ∧ n.declaredName src = "" := by
  unfold declaredName
  cases n.child? .name with
  | some word => exact Or.inl ⟨word, rfl, rfl⟩
  | none => exact Or.inr ⟨rfl, rfl⟩

/-- The name of a declarator is the text of its identifier; if it binds
anything else, it is empty. -/
theorem declaratorName_cases (src : Source) (n : Node) :
    (∃ word, n.child? .name = some word ∧ word.kind = .identifier ∧
        src.text word = n.declaratorName src) ∨
      (∀ target, n.child? .name = some target → target.kind ≠ .identifier) ∧
        n.declaratorName src = "" := by
  unfold declaratorName
  cases n.child? .name with
  | none => exact Or.inr ⟨by simp, rfl⟩
  | some target =>
      by_cases hidentifier : target.kind = .identifier
      · exact Or.inl ⟨target, rfl, hidentifier, by simp [hidentifier]⟩
      · exact Or.inr ⟨by simpa using hidentifier, by simp [hidentifier]⟩

theorem TakesApart.declaratorName_eq (h : n.TakesApart) (src : Source) :
    n.declaratorName src = "" := by
  rcases declaratorName_cases src n with ⟨word, hword, hidentifier, _⟩ | ⟨_, hempty⟩
  · exact absurd hidentifier (h.target_ne hword)
  · exact hempty

/-- What binds a name has that name; only the empty one is bound by what has
none. -/
theorem Binds.names_or_nameless (h : n.Binds src name) :
    n.Names src name ∨ name = "" ∧ n.Nameless := by
  have hvariable : n.kind = .variableDeclarator → n.declaratorName src = name →
      n.Names src name ∨ name = "" ∧ n.Nameless := by
    rintro hkind rfl
    rcases declaratorName_cases src n with ⟨word, hword, hidentifier, htext⟩ | ⟨hother, hempty⟩
    · exact Or.inl (.ofVariable hkind hword hidentifier htext)
    · exact Or.inr ⟨hempty, .ofVariable hkind hother⟩
  cases h with
  | declaring hdeclares =>
      cases hdeclares with
      | ofFunction hkind hname =>
          subst hname
          rcases declaredName_cases src n with ⟨word, hword, htext⟩ | ⟨hnone, hempty⟩
          · exact Or.inl (.ofFunction hkind hword htext)
          · exact Or.inr ⟨hempty, .ofFunction hkind hnone⟩
      | ofClass hkind hname =>
          subst hname
          rcases declaredName_cases src n with ⟨word, hword, htext⟩ | ⟨hnone, hempty⟩
          · exact Or.inl (.ofClass hkind hword htext)
          · exact Or.inr ⟨hempty, .ofClass hkind hnone⟩
      | ofVariable hkind hbound _ _ => exact hvariable hkind hbound
  | plainly hplain => exact hvariable hplain.kind hplain.bound
  | inLoop hloop => exact Or.inl (.ofLoop hloop)

/-- A declarator that takes its value apart declares nothing but, if it holds a
function, the empty name. -/
theorem TakesApart.declares_iff (h : n.TakesApart) :
    n.Declares src name ↔
      name = "" ∧ ∃ fn, n.BareChild .value fn ∧ fn.kind.isFunctionValue = true := by
  have hkind := h.kind
  constructor
  · intro hdeclares
    cases hdeclares with
    | ofFunction hfunction _ => simp [hkind, Kind.isFunctionDeclaration] at hfunction
    | ofClass hclass _ => simp [hkind, Kind.isClassDeclaration] at hclass
    | ofVariable _ hbound hvalue hfn =>
        exact ⟨hbound.symm.trans (h.declaratorName_eq src), _, hvalue, hfn⟩
  · rintro ⟨rfl, fn, hvalue, hfn⟩
    exact .ofVariable hkind (h.declaratorName_eq src) hvalue hfn

end Node

/-- At a declarator that takes its value apart, a symbol is found for the empty
name alone. -/
theorem Site.symbol?_of_takesApart {src : Source} {name : String} {s : Site}
    (h : s.node.TakesApart) : (∃ symbol, s.symbol? src name = some symbol) ↔ name = "" := by
  constructor
  · rintro ⟨symbol, hsymbol⟩
    rcases (Site.binds_of_symbol? hsymbol).names_or_nameless with hnames | ⟨hempty, _⟩
    · exact absurd hnames h.not_names
    · exact hempty
  · rintro rfl
    simp [symbol?, h.kind, h.declaratorName_eq src, Kind.isFunctionDeclaration,
      Kind.isClassDeclaration]

namespace Parsed

variable {p : Parsed} {name : String}

theorem exists_foundAt {symbol : SymbolSpan} (hfound : p.findSymbol name = .ok symbol) :
    ∃ before site, p.FoundAt name before site ∧ site.symbol? p.source name = some symbol := by
  have hsome : p.root.walk.findSome? (Site.symbol? p.source name) = some symbol := by
    unfold findSymbol at hfound
    split at hfound
    · rename_i found hfirst
      cases hfound
      exact hfirst
    · cases hfound
  rw [Node.walk_eq_sites] at hsome
  obtain ⟨before, site, behind, horder, hsite, hbefore⟩ := List.findSome?_eq_some_iff.mp hsome
  exact ⟨before, site, ⟨⟨behind, horder⟩, ⟨symbol, hsite, hfound⟩, hbefore⟩, hsite⟩

theorem declares_of_findDeclaration? {declaration : Node}
    (hfound : p.root.findDeclaration? p.source name = some declaration) :
    declaration.Declares p.source name :=
  Node.declares_iff.mp (List.find?_some hfound)

end Parsed

/-- The symbol that is found for a name, and its first declaration, have
exactly that name, and none of them takes a value apart. Only what is found for
the empty name may have no name. A declarator that takes its value apart is a
match for the empty name, and as a declaration only if it holds a function. -/
theorem found_under_exact_name (p : Parsed) (name : String) :
    (∀ symbol, p.findSymbol name = .ok symbol →
      ∃ before site, p.FoundAt name before site ∧ site.symbol? p.source name = some symbol ∧
        (site.node.Names p.source name ∧ ¬ site.node.TakesApart ∨
          name = "" ∧ site.node.Nameless)) ∧
    (∀ declaration, p.root.findDeclaration? p.source name = some declaration →
      declaration.Names p.source name ∧ ¬ declaration.TakesApart ∨
        name = "" ∧ declaration.Nameless) ∧
    ∀ s ∈ p.root.sites, s.node.TakesApart →
      ((∃ symbol, s.symbol? p.source name = some symbol) ↔ name = "") ∧
      (s.node.Declares p.source name ↔
        name = "" ∧ ∃ fn, s.node.BareChild .value fn ∧ fn.kind.isFunctionValue = true) := by
  have hexact : ∀ n : Node, n.Binds p.source name →
      n.Names p.source name ∧ ¬ n.TakesApart ∨ name = "" ∧ n.Nameless := by
    intro n hbinds
    rcases hbinds.names_or_nameless with hnames | hnameless
    · exact Or.inl ⟨hnames, fun hapart => hapart.not_names hnames⟩
    · exact Or.inr hnameless
  refine ⟨?_, ?_, ?_⟩
  · intro symbol hfound
    obtain ⟨before, site, hsite, hsymbol⟩ := Parsed.exists_foundAt hfound
    exact ⟨before, site, hsite, hsymbol, hexact _ (Site.binds_of_symbol? hsymbol)⟩
  · intro declaration hfound
    exact hexact _ (.declaring (Parsed.declares_of_findDeclaration? hfound))
  · intro s _ hapart
    exact ⟨Site.symbol?_of_takesApart hapart, hapart.declares_iff⟩

/-- Of the two declarations of `go` the variable is found. -/
theorem found_under_exact_name_goBoundTwice :
    ∃ symbol before site, goBoundTwice.findSymbol "go" = .ok symbol ∧ symbol.text = "let go;" ∧
      goBoundTwice.FoundAt "go" before site ∧ site.node.Names goBoundTwice.source "go" ∧
      ¬ site.node.TakesApart := by
  have hfound : goBoundTwice.findSymbol "go" = .ok ⟨"go", "variable", ⟨1, 1, 1, 8⟩, "let go;"⟩ := by
    rw [Parsed.findSymbol, Node.walk_eq_sites]
    rfl
  obtain ⟨before, site, hsite, _, hexact⟩ :=
    (found_under_exact_name goBoundTwice "go").1 _ hfound
  obtain ⟨hnames, happart⟩ := hexact.resolve_right fun hempty => absurd hempty.1 (by decide)
  exact ⟨_, before, site, hfound, rfl, hsite, hnames, happart⟩

/-!
The document `const {a} = () => go();`.
-/

namespace FunctionTakenApart

open Node

def pattern : Node :=
  inLine .objectPattern (some .name) 6 9
    [inLine (.token "\x7b") none 6 7,
      inLine (.other "shorthand_property_identifier_pattern") none 7 8,
      inLine (.token "\x7d") none 8 9]

def call : Node :=
  inLine .callExpression (some .body) 18 22
    [inLine .identifier (some .function) 18 20, emptyParens "arguments" .arguments 20]

def value : Node :=
  inLine .arrowFunction (some .value) 12 22
    [emptyParens "formal_parameters" .parameters 12, inLine (.token "=>") none 15 17, call]

def declarator : Node :=
  inLine .variableDeclarator none 6 22 [pattern, inLine (.token "=") none 10 11, value]

def statement : Node :=
  inLine .lexicalDeclaration none 0 23
    [inLine (.token "const") (some .kind) 0 5, declarator, inLine (.token ";") none 22 23]

def program : Node := inLine .program none 0 23 [statement]

def document : Parsed := ⟨program, .ofString "const \x7ba\x7d = () => go();"⟩

end FunctionTakenApart

open FunctionTakenApart in
/-- The declarator takes its value apart, but for the empty name it is found
both as a symbol and as a declaration. -/
theorem taken_apart_found_under_empty_name :
    declarator.TakesApart ∧
    (∃ before, document.FoundAt "" before ⟨declarator, [statement, program]⟩) ∧
    document.root.findDeclaration? document.source "" = some declarator := by
  refine ⟨⟨rfl, pattern, rfl, rfl⟩, ⟨document.root.sites.take 3, ?_⟩, ?_⟩
  · refine ⟨⟨document.root.sites.drop 4, rfl⟩, ⟨_, rfl, ?_⟩, by decide +kernel⟩
    rw [Parsed.findSymbol, Node.walk_eq_sites]
    rfl
  · rw [Node.findDeclaration?, Node.walk_eq_sites]
    rfl

end BundleAtlas
