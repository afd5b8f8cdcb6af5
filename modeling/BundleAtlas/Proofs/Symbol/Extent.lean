import BundleAtlas.Proofs.Grammar.DeclarationForm
import BundleAtlas.Proofs.Grammar.Placement
import BundleAtlas.Proofs.Symbol.ExactName
import BundleAtlas.Proofs.Text.LineColumn

/-!
The extent of a symbol. What is found under a name comes with a span and with a
text, and the two are made apart. Read by its bytes, the text of the document
at the span is the text of the symbol, but for two cases: of several variables
in one statement the text shows one, with the keyword before it and a semicolon
behind it, and of a loop the span reaches from the keyword to the name.
-/

namespace BundleAtlas

namespace Source

theorem toList_slice (src : Source) (a b : Nat) :
    (src.slice a b).toList = (src.chars.toList.drop a).take (b - a) := by
  rw [slice, String.toList_ofList, Array.toList_extract, List.extract_eq_take_drop]

theorem slice_prefix (src : Source) {b c : Nat} (a : Nat) (hle : b ≤ c) :
    (src.slice a b).toList <+: (src.slice a c).toList := by
  rw [toList_slice, toList_slice]
  exact List.take_prefix_take_left (Nat.sub_le_sub_right hle a)

theorem slice_suffix (src : Source) {a b : Nat} (c : Nat) (hle : a ≤ b) :
    (src.slice b c).toList <:+ (src.slice a c).toList := by
  have hcut : (src.slice b c).toList = (src.slice a c).toList.drop (b - a) := by
    rw [toList_slice, toList_slice, List.drop_take, List.drop_drop]
    congr 1
    · omega
    · congr 1
      omega
  rw [hcut]
  exact List.drop_suffix _ _

end Source

namespace Node

/-- The variables that a statement declares. -/
def declarators (statement : Node) : List Node :=
  statement.namedChildren.filter (·.kind == .variableDeclarator)

/-- A statement starts with a keyword for variables, and the keyword is a token
of that text. -/
structure HasKeyword (src : Source) (statement : Node) (keyword : String) : Prop where
  known : keyword = "let" ∨ keyword = "const" ∨ keyword = "var"
  first : ∃ token rest, statement.children = token :: rest ∧ token.kind = .token keyword ∧
    src.text token = keyword

/-- The bytes at the span of a node give its text. -/
theorem Placed.read_span {text : String} {n : Node} (h : n.Placed text.toList)
    (hk : n.kind ≠ .program) : n.span.read text = .ok ((Source.ofString text).text n) :=
  Span.read_eq_slice h.start h.stop (h.row hk).le

end Node

namespace Site

/-- What the span of a symbol that was found at a site has to do with its
text. -/
inductive Shows (text : String) (src : Source) (name : String) (site : Site)
    (found : SymbolSpan) : Prop
  /-- a function or a class: the span covers the text -/
  | whole
      (hkind : (site.node.kind.isFunctionDeclaration || site.node.kind.isClassDeclaration) = true)
      (hread : found.span.read text = .ok found.text)
  /-- a variable outside a statement for variables -/
  | outside (hkind : site.node.kind = .variableDeclarator)
      (hparent : ∀ statement, site.parent? = some statement →
        statement.kind.isVariableDeclaration = false)
      (hread : found.span.read text = .ok found.text)
  /-- the only variable of its statement: the span covers the statement, which
  starts with its keyword -/
  | only {statement : Node} {keyword : String} (hkind : site.node.kind = .variableDeclarator)
      (hparent : site.parent? = some statement)
      (hstatement : statement.kind.isVariableDeclaration = true)
      (honly : statement.declarators = [site.node]) (hkeyword : statement.HasKeyword src keyword)
      (hread : found.span.read text = .ok found.text) (hwhole : found.text = src.text statement)
      (hstart : keyword.toList <+: found.text.toList)
  /-- one of several variables: the span covers it alone -/
  | several {statement : Node} {keyword declarator : String}
      (hkind : site.node.kind = .variableDeclarator) (hparent : site.parent? = some statement)
      (hstatement : statement.kind.isVariableDeclaration = true)
      (hseveral : 2 ≤ statement.declarators.length) (hkeyword : statement.HasKeyword src keyword)
      (hread : found.span.read text = .ok declarator)
      (htext : found.text = keyword ++ " " ++ declarator ++ ";")
  /-- what a loop binds: the span reaches from the keyword to the name -/
  | loop {keyword : Node} {slice : String} (hkind : site.node.kind = .forIn)
      (hkeyword : site.node.child? .kind = some keyword)
      (hread : found.span.read text = .ok slice)
      (hstart : (src.text keyword).toList <+: slice.toList)
      (hstop : name.toList <:+ slice.toList)

end Site

/-- A document stands in a text as it is written there: all nodes at their
places, tokens spelled out, declarations behind their keywords. -/
structure Parsed.WrittenIn (text : String) (p : Parsed) : Prop where
  source : p.source = .ofString text
  placed : p.root.Everywhere (Node.Placed text.toList)
  tokens : p.root.Everywhere (Node.SpellsToken (.ofString text))
  keywords : p.root.Everywhere Node.StartsWithKeyword
  loops : p.root.Everywhere Node.KeywordBeforeBinding

/-- A text that can be read, in either dialect, gives a document that is written
in it. -/
theorem parseSource_writtenIn {dialect : Option String} {text : String} {p : Parsed}
    (hparse : parseSource dialect text = .ok p) : p.WrittenIn text := by
  obtain ⟨d, hd⟩ := exists_parse_of_parseSource hparse
  exact ⟨d.source_of_parse hd, Dialect.parse_placed hd, Dialect.parse_spellsToken hd,
    Dialect.parse_startsWithKeyword hd, Dialect.parse_keywordBeforeBinding hd⟩

namespace Parsed.WrittenIn

variable {text : String} {p : Parsed} {site : Site} {name : String}

theorem read_span (h : p.WrittenIn text) (hsite : site ∈ p.root.sites)
    (hk : site.node.kind ≠ .program) :
    site.node.span.read text = .ok ((Source.ofString text).text site.node) :=
  (h.placed.of_mem_preorder hsite).here.read_span hk

/-- A statement for variables has a keyword, and its text starts with it. -/
theorem exists_keyword (h : p.WrittenIn text) (hsite : site ∈ p.root.sites)
    (hkind : site.node.kind.isVariableDeclaration = true) :
    ∃ token rest, site.node.children = token :: rest ∧
      site.node.HasKeyword (.ofString text) ((Source.ofString text).text token) ∧
      ((Source.ofString text).text token).toList <+:
        ((Source.ofString text).text site.node).toList := by
  have hplaced := h.placed.of_mem_preorder hsite
  obtain ⟨token, rest, hchildren, htoken⟩ := (h.keywords.of_mem_preorder hsite).here hkind
  have hmem : token ∈ site.node.children := by
    rw [hchildren]
    exact List.mem_cons_self
  have hspells := ((h.tokens.of_mem_preorder hsite).of_mem_children hmem).here
  have hknown : ∃ word, token.kind = .token word ∧
      (word = "let" ∨ word = "const" ∨ word = "var") := by
    simp only [Kind.isDeclarationKeyword, Bool.or_eq_true, beq_iff_eq] at htoken
    rcases htoken with (hword | hword) | hword
    · exact ⟨"let", hword, Or.inl rfl⟩
    · exact ⟨"const", hword, Or.inr (Or.inl rfl)⟩
    · exact ⟨"var", hword, Or.inr (Or.inr rfl)⟩
  obtain ⟨word, hword, hknown⟩ := hknown
  have htext := hspells word hword
  refine ⟨token, rest, hchildren, ⟨?_, token, rest, hchildren, ?_, rfl⟩, ?_⟩
  · rw [htext]
    exact hknown
  · rw [htext]
    exact hword
  · -- the first child starts where the statement does
    have hstart : token.start = site.node.start :=
      hplaced.here.first token (by rw [hchildren]; rfl)
    have hprogram : site.node.kind ≠ .program := by
      intro hk
      rw [hk] at hkind
      cases hkind
    have hstop := ((hplaced.here.row hprogram).bounds hmem).2
    rw [Source.text, Source.text, hstart]
    exact Source.slice_prefix _ _ hstop

/-- A variable that was found is shown with its statement. -/
theorem shows_declarationSpan (h : p.WrittenIn text) (hsite : site ∈ p.root.sites)
    (hkind : site.node.kind = .variableDeclarator) :
    site.Shows text (.ofString text) name (site.declarationSpan (.ofString text) name) := by
  have hread := h.read_span hsite (by rw [hkind]; decide)
  unfold Site.declarationSpan
  split
  · rename_i hnone
    exact .outside hkind (by simp [hnone]) hread
  · rename_i statement hparent
    split
    · rename_i hother
      refine .outside hkind ?_ hread
      intro other hsome
      rw [hparent] at hsome
      cases hsome
      simpa using hother
    · rename_i hstatement
      have hstatement : statement.kind.isVariableDeclaration = true := by simpa using hstatement
      obtain ⟨rest, habove, hchild, habovesite⟩ : ∃ rest, site.above = statement :: rest ∧
          site.node ∈ statement.children ∧ ⟨statement, rest⟩ ∈ p.root.sites := by
        rcases Node.parent_of_mem_preorder hsite with hroot | ⟨m, rest, habove, hchild, hm⟩
        · rw [hroot] at hparent
          cases hparent
        · rw [Site.parent?, habove] at hparent
          cases hparent
          exact ⟨rest, habove, hchild, hm⟩
      have hmem : site.node ∈ statement.declarators := by
        refine List.mem_filter.mpr ⟨List.mem_filter.mpr ⟨hchild, ?_⟩, by simp [hkind]⟩
        rw [Node.isNamed, hkind]
        rfl
      obtain ⟨token, more, hchildren, hkeyword, hstart⟩ := h.exists_keyword habovesite hstatement
      split
      · rename_i hone
        have honly : statement.declarators = [site.node] := by
          obtain ⟨only, honly⟩ := List.length_eq_one_iff.mp (by simpa using hone)
          have hsame : statement.declarators = [only] := honly
          rw [hsame] at hmem ⊢
          rw [List.mem_singleton.mp hmem]
        have hwhole := h.read_span habovesite (by
          intro hk
          rw [show statement.kind = .program from hk] at hstatement
          cases hstatement)
        exact .only hkind hparent hstatement honly hkeyword hwhole rfl hstart
      · rename_i hmany
        have hseveral : 2 ≤ statement.declarators.length := by
          have hpos := List.length_pos_of_mem hmem
          have hne : statement.declarators.length ≠ 1 := by simpa [Node.declarators] using hmany
          omega
        refine .several hkind hparent hstatement hseveral hkeyword hread ?_
        simp only [Site.keyword, hparent, hstatement, if_true]
        rw [show statement.children = token :: more from hchildren]

/-- What a loop binds is shown from the keyword to the name. -/
theorem shows_loopSpan (h : p.WrittenIn text) (hsite : site ∈ p.root.sites)
    (hkind : site.node.kind = .forIn) {keyword left : Node}
    (hkeyword : site.node.child? .kind = some keyword)
    (hleft : site.node.child? .left = some left)
    (hname : (Source.ofString text).text left = name) :
    site.Shows text (.ofString text) name (Site.loopSpan (.ofString text) name keyword left) := by
  have hplaced := h.placed.of_mem_preorder hsite
  have hrow := hplaced.here.row (by rw [hkind]; decide)
  have horder : keyword.stop.offset ≤ left.start.offset := by
    obtain ⟨hfield, before, behind, hchildren, _⟩ := List.find?_eq_some_iff_append.mp hkeyword
    have hleftField : left.field = some .left := by simpa using List.find?_some hleft
    have hkeywordField : keyword.field = some .kind := by simpa using hfield
    have hloop := (h.loops.of_mem_preorder hsite).here hkind
    have hpairs := hrow.pairwise
    have hmem := List.mem_of_find?_eq_some hleft
    rw [hchildren] at hloop hpairs hmem
    rcases List.mem_append.mp hmem with hbefore | hrest
    · -- nothing that is bound stands before the keyword
      have hno := (List.pairwise_append.mp hloop).2.2 left hbefore keyword List.mem_cons_self
      exact absurd hkeywordField (hno hleftField)
    · rcases List.mem_cons.mp hrest with rfl | hbehind
      · rw [hkeywordField] at hleftField
        cases hleftField
      · have htail := (List.pairwise_append.mp hpairs).2.1
        exact (List.pairwise_cons.mp htail).1 left hbehind
  have hkeywordPlaced := (hplaced.of_child? hkeyword).here
  have hleftPlaced := (hplaced.of_child? hleft).here
  have hfirst := hrow.start_le_stop (List.mem_of_find?_eq_some hkeyword)
  have hlast := hrow.start_le_stop (List.mem_of_find?_eq_some hleft)
  refine .loop hkind hkeyword
    (Span.read_eq_slice hkeywordPlaced.start hleftPlaced.stop (by omega)) ?_ ?_
  · exact Source.slice_prefix _ _ (by omega)
  · rw [← hname]
    exact Source.slice_suffix _ _ (by omega)

theorem shows_of_symbol? (h : p.WrittenIn text) (hsite : site ∈ p.root.sites)
    {found : SymbolSpan} (hsymbol : site.symbol? (.ofString text) name = some found) :
    site.Shows text (.ofString text) name found := by
  unfold Site.symbol? at hsymbol
  split at hsymbol
  · rename_i hkind
    split at hsymbol
    · cases hsymbol
      have hprogram : site.node.kind ≠ .program := by
        intro hk
        rw [hk] at hkind
        cases hkind
      exact .whole hkind (h.read_span hsite hprogram)
    · cases hsymbol
  · split at hsymbol
    · rename_i hkind
      split at hsymbol
      · cases hsymbol
        exact h.shows_declarationSpan hsite (by simpa using hkind)
      · cases hsymbol
    · split at hsymbol
      · rename_i hkind
        split at hsymbol
        · rename_i keyword left hkeyword hleft
          split at hsymbol
          · rename_i hbinds
            cases hsymbol
            have hname : (Source.ofString text).text left = name := by
              rw [Bool.and_eq_true] at hbinds
              simpa using hbinds.2
            exact h.shows_loopSpan hsite (by simpa using hkind) hkeyword hleft hname
          · cases hsymbol
        · cases hsymbol
      · cases hsymbol

/-- The symbol that is found for a name is shown at the first site that has
one. -/
theorem shows_findSymbol (h : p.WrittenIn text) {found : SymbolSpan}
    (hfound : p.findSymbol name = .ok found) :
    ∃ before site, p.FoundAt name before site ∧ site.Shows text p.source name found := by
  obtain ⟨before, site, hfirst, hsymbol⟩ := Parsed.exists_foundAt hfound
  have hsite : site ∈ p.root.sites := by
    obtain ⟨behind, horder⟩ := hfirst.order
    rw [horder]
    exact List.mem_append_right _ List.mem_cons_self
  refine ⟨before, site, hfirst, ?_⟩
  rw [h.source] at hsymbol ⊢
  exact h.shows_of_symbol? hsite hsymbol

end Parsed.WrittenIn

/-- The span and the text of a symbol describe the same part of the text, in
every document that was read from it and in every one that stands in it as it is
written there. -/
theorem symbol_span_shows_text (text name : String) :
    (∀ dialect p found, parseSource dialect text = .ok p → p.findSymbol name = .ok found →
      ∃ before site, p.FoundAt name before site ∧ site.Shows text p.source name found) ∧
    ∀ (p : Parsed) found, p.WrittenIn text → p.findSymbol name = .ok found →
      ∃ before site, p.FoundAt name before site ∧ site.Shows text p.source name found := by
  refine ⟨?_, fun p found hwritten hfound => hwritten.shows_findSymbol hfound⟩
  intro dialect p found hparse hfound
  exact (parseSource_writtenIn hparse).shows_findSymbol hfound

/-!
The document `let a,\n  é = 2;`, with two variables on two lines.
-/

namespace SecondVariable

def text : String := "let a,\n  é = 2;"

/-- A node between two code points of the text. -/
def node (kind : Kind) (field : Option Field) (start stop : Nat) (children : List Node) : Node :=
  ⟨kind, field, Mark.pushAll {} (text.toList.take start), Mark.pushAll {} (text.toList.take stop),
    children⟩

def second : Node :=
  node .variableDeclarator none 9 14
    [node .identifier (some .name) 9 10 [], node (.token "=") none 11 12 [],
      node (.other "number") (some .value) 13 14 []]

def statement : Node :=
  node .lexicalDeclaration none 0 15
    [node (.token "let") (some .kind) 0 3 [],
      node .variableDeclarator none 4 5 [node .identifier (some .name) 4 5 []],
      node (.token ",") none 5 6 [], second, node (.token ";") none 14 15 []]

def document : Parsed := ⟨node .program none 0 15 [statement], .ofString text⟩

theorem writtenIn : document.WrittenIn text := by
  have hplaced : ∀ s ∈ document.root.preorder [], s.node.Placed text.toList := by decide +kernel
  have htokens : ∀ s ∈ document.root.preorder [], s.node.SpellsToken (.ofString text) := by
    decide +kernel
  have hkeywords : ∀ s ∈ document.root.preorder [], s.node.StartsWithKeyword := by decide +kernel
  have hloops : ∀ s ∈ document.root.preorder [], s.node.KeywordBeforeBinding := by decide +kernel
  exact ⟨rfl, .of_forall_mem_preorder hplaced, .of_forall_mem_preorder htokens,
    .of_forall_mem_preorder hkeywords, .of_forall_mem_preorder hloops⟩

end SecondVariable

open SecondVariable in
/-- The second variable is found on the second line, and what stands there is
shown behind the keyword of the first. -/
theorem symbol_span_shows_text_secondVariable :
    document.WrittenIn text ∧
    document.findSymbol "é" = .ok ⟨"é", "variable", ⟨2, 3, 2, 9⟩, "let é = 2;"⟩ ∧
    ∃ before site, document.FoundAt "é" before site ∧
      site.Shows text document.source "é" ⟨"é", "variable", ⟨2, 3, 2, 9⟩, "let é = 2;"⟩ := by
  have hfound : document.findSymbol "é" = .ok ⟨"é", "variable", ⟨2, 3, 2, 9⟩, "let é = 2;"⟩ := by
    rw [Parsed.findSymbol, Node.walk_eq_sites]
    rfl
  exact ⟨writtenIn, hfound, (symbol_span_shows_text text "é").2 document _ writtenIn hfound⟩

end BundleAtlas
