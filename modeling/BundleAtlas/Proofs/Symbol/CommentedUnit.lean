import BundleAtlas.Proofs.Dialect.Agreement
import BundleAtlas.Proofs.Symbol.CommentedNode

/-!
Units with more comments. A walk meets the nodes that were there before, with
their ancestors, and comments, of which no analysis takes anything. Comments
that move nothing to another line therefore change neither the inventory nor
the call graph nor the outline.
-/

namespace BundleAtlas

namespace Node.Recommented

variable {src src' : Source} {n m : Node}

/-- A walk meets the nodes that were there before, and comments. -/
theorem interleaved_walk (h : Recommented src src' n m) :
    Interleaved (Site.Pairs (Recommented src src')) (fun t => t.node.IsRemark) n.walk m.walk := by
  rw [walk_eq_preorder, walk_eq_preorder]
  exact interleaved_preorder (fun _ _ hc => transparent.children hc) h .nil

theorem outgoingCalls_eq (h : Recommented src src' n m) :
    m.outgoingCalls src' = n.outgoingCalls src := by
  apply h.interleaved_walk.filterMap_eq
  · intro s t hst
    rw [hst.node.kind, hst.node.calleeName_eq, hst.node.startLine_eq]
  · intro t ht
    rw [ht.kind]
    rfl

/-- What is collected by node is the same. -/
theorem flatMap_node_walk_eq (h : Recommented src src' n m) {names names' : Node → List String}
    (hsame : ∀ {c c' : Node}, Recommented src src' c c' → names' c' = names c)
    (hcomment : ∀ c : Node, c.IsRemark → names' c = []) :
    (m.walk.map (·.node)).flatMap names' = (n.walk.map (·.node)).flatMap names := by
  rw [List.flatMap_map, List.flatMap_map]
  apply h.interleaved_walk.flatMap_eq
  · intro s t hst
    exact hsame hst.node
  · intro t ht
    exact hcomment t.node ht

end Node.Recommented

namespace Site

variable {src src' : Source} {s t : Site}

theorem keyword_eq_head? (src : Source) (s : Site) :
    s.keyword src = s.parent?.elim "const" fun p =>
      if p.kind.isVariableDeclaration then p.children.head?.elim "const" src.text else "const" := by
  unfold keyword
  cases s.parent? with
  | none => rfl
  | some p => cases hchildren : p.children <;> simp [hchildren]

/-- The keyword of a declaration is its first child, before which no comment is
put. -/
theorem keyword_eq_of_pairs (h : Pairs (Node.Recommented src src') s t) :
    t.keyword src' = s.keyword src := by
  rw [keyword_eq_head?, keyword_eq_head?]
  rcases rel_cases h.parent? with ⟨hn, hm⟩ | ⟨p, p', hn, hm, hp⟩
  · rw [hn, hm]
    rfl
  · rw [hn, hm, Option.elim_some, Option.elim_some, hp.kind]
    split
    · rename_i hkind
      obtain ⟨first, rest, hchildren, hkeyword⟩ := hp.usual.here.names.keyword hkind
      rcases rel_cases hp.rel_head? with ⟨hn, hm⟩ | ⟨c, c', hn, hm, hc⟩
      · rw [hn, hm]
        rfl
      · rw [hchildren] at hn
        cases hn
        have hatom : first.kind.isAtom = true := by
          cases hk : first.kind <;> simp_all [Kind.isDeclarationKeyword, Kind.isAtom, Kind.isNamed]
        rw [hchildren, hm, List.head?_cons, Option.elim_some, Option.elim_some,
          hc.text_of_atom hatom]
    · rfl

theorem entry_eq_of_pairs (h : Pairs (Node.Recommented src src') s t) (unit : Piece)
    (name : String) (kind : SymbolKind) (params : List String) (signature : String) :
    t.entry unit name kind params signature = s.entry unit name kind params signature := by
  rw [entry, entry, h.node.startLine_eq, h.node.stopLine_eq]

/-- A site has the same entry in the inventory. -/
theorem entry?_eq_of_pairs (h : Pairs (Node.Recommented src src') s t) (unit : Piece) :
    t.entry? unit src' = s.entry? unit src := by
  unfold entry?
  rw [h.node.kind]
  by_cases hfunction : s.node.kind.isFunctionDeclaration
  · have hname := h.node.declaredName_eq (by rw [Kind.isNamedDeclaration, hfunction, Bool.true_or])
    simp only [hfunction, if_true, hname, h.node.renderParameters_eq (Or.inl hfunction),
      h.node.functionSignature_eq, entry_eq_of_pairs h]
  · by_cases hclass : s.node.kind.isClassDeclaration
    · have hname := h.node.declaredName_eq (by rw [Kind.isNamedDeclaration, hclass, Bool.or_true])
      simp only [hfunction, hclass, Bool.false_eq_true, if_false, if_true, hname,
        entry_eq_of_pairs h]
    · simp only [hfunction, hclass, Bool.false_eq_true, if_false, h.node.declaratorName_eq,
        keyword_eq_of_pairs h]
      rcases rel_cases h.node.rel_declaratorFunction? with ⟨hn, hm⟩ | ⟨fn, fn', hn, hm, hfn⟩
      · rw [hn, hm]
      · obtain ⟨_, hvalue⟩ := h.node.usual.of_declaratorFunction? hn
        rw [hn, hm]
        simp only [hfn.renderParameters_eq (Or.inr hvalue), hfn.variableSignature_eq,
          entry_eq_of_pairs h]

theorem functionLabel_eq_of_pairs (h : Pairs (Node.Recommented src src') s t) :
    t.functionLabel src' = s.functionLabel src := by
  unfold functionLabel
  rw [h.node.kind]
  by_cases hfunction : s.node.kind.isFunctionDeclaration
  · simp only [hfunction, if_true,
      h.node.declaredName_eq (by rw [Kind.isNamedDeclaration, hfunction, Bool.true_or])]
  · simp only [hfunction, Bool.false_eq_true, if_false]
    rcases rel_cases h.parent? with ⟨hn, hm⟩ | ⟨p, p', hn, hm, hp⟩
    · rw [hn, hm]
    · have hkey := Node.Recommented.keyLabel_eq
        (Node.Recommented.transparent.child? h.node .name)
      have hfield := Node.Recommented.keyLabel_eq
        (rel_or (Node.Recommented.transparent.child? hp .property)
          (Node.Recommented.transparent.child? hp .name))
      rw [hn, hm]
      dsimp only
      rw [hp.kind, hp.declaratorName_eq, hkey, hfield]

theorem callerLabel_eq_of_pairs (h : Pairs (Node.Recommented src src') s t) :
    t.callerLabel src' = s.callerLabel src := by
  unfold callerLabel
  rcases rel_cases (h.enclosing? fun _ _ => Node.Recommented.kind) with
    ⟨hn, hm⟩ | ⟨fn, fn', hn, hm, hfn⟩
  · rw [hn, hm]
  · rw [hn, hm]
    exact functionLabel_eq_of_pairs hfn

end Site

namespace Parsed

variable {p p' : Parsed}

theorem collectSymbols_eq_of_recommented (h : p.root.Recommented p.source p'.source p'.root)
    (unit : Piece) : collectSymbols unit p' = collectSymbols unit p := by
  apply h.interleaved_walk.filterMap_eq
  · intro s t hst
    exact Site.entry?_eq_of_pairs hst unit
  · intro t ht
    rw [Site.entry?, ht.kind]
    rfl

/-- The first declaration of a name is the same one, and makes the same calls. -/
theorem declarationCalls_eq_of_recommented (h : p.root.Recommented p.source p'.source p'.root)
    (name : String) :
    (p'.root.findDeclaration? p'.source name).map (Node.outgoingCalls p'.source) =
      (p.root.findDeclaration? p.source name).map (Node.outgoingCalls p.source) := by
  rw [Node.map_findDeclaration?, Node.map_findDeclaration?,
    ← List.head?_filterMap, ← List.head?_filterMap]
  congr 1
  apply h.interleaved_walk.filterMap_eq
  · intro s t hst
    rw [hst.node.declares_eq, hst.node.outgoingCalls_eq]
  · intro t ht
    rw [Node.declares, ht.kind]
    rfl

theorem incomingCalls_eq_of_recommented (h : p.root.Recommented p.source p'.source p'.root)
    (unitId name : String) : incomingCalls unitId p' name = incomingCalls unitId p name := by
  apply h.interleaved_walk.filterMap_eq
  · intro s t hst
    rw [hst.node.kind, hst.node.callsSymbol_eq, Site.callerLabel_eq_of_pairs hst,
      hst.node.startLine_eq]
  · intro t ht
    rw [ht.kind]
    rfl

theorem outline_eq_of_recommented (h : p.root.Recommented p.source p'.source p'.root) :
    p'.outline = p.outline := by
  have hfunctions := h.flatMap_node_walk_eq Node.Recommented.functionNames_eq
    fun c hc => by rw [Node.functionNames, hc.kind]; rfl
  have hclasses := h.flatMap_node_walk_eq Node.Recommented.classNames_eq
    fun c hc => by rw [Node.classNames, hc.kind]; rfl
  have hexports := h.flatMap_node_walk_eq Node.Recommented.exportNames_eq
    fun c hc => by rw [Node.exportNames, hc.kind]; rfl
  have hvariables := h.flatMap_node_walk_eq Node.Recommented.variableNames_eq
    fun c hc => by rw [Node.variableNames, hc.kind]; rfl
  unfold outline
  simp only [hfunctions, hclasses, hexports, hvariables]

end Parsed

/-- Comments do not change what is told of a unit. The names of every document
that can be read are written as the grammar says. If such a document has
parameters of the usual forms, and another one has more comments, at any places
behind a first child, but all other nodes on the same lines, both have the same
inventory, the same calls from the first declaration of every name and to every
name, and the same outline. -/
theorem comments_keep_analyses :
    (∀ dialect text p, parseSource dialect text = .ok p →
      p.root.Everywhere Node.FollowsNameForm) ∧
    ∀ p p' : Parsed, p.root.Everywhere Node.FollowsNameForm →
      p.root.Everywhere Node.HasUsualParameters →
      p.root.Commented (Node.SameOnLines p.source p'.source) Node.OnSameLines p'.root →
      (∀ unit, collectSymbols unit p' = collectSymbols unit p) ∧
      (∀ name, (p'.root.findDeclaration? p'.source name).map (Node.outgoingCalls p'.source) =
        (p.root.findDeclaration? p.source name).map (Node.outgoingCalls p.source)) ∧
      (∀ unitId name, incomingCalls unitId p' name = incomingCalls unitId p name) ∧
      p'.outline = p.outline := by
  refine ⟨fun _ _ _ => parseSource_followsNameForm, ?_⟩
  intro p p' hnames hparameters hcomments
  have husual : p.root.Everywhere Node.IsUsual :=
    (hnames.and hparameters).imp fun _ hn => ⟨hn.1, hn.2⟩
  have h : p.root.Recommented p.source p'.source p'.root := ⟨hcomments, husual⟩
  exact ⟨Parsed.collectSymbols_eq_of_recommented h, Parsed.declarationCalls_eq_of_recommented h,
    Parsed.incomingCalls_eq_of_recommented h, Parsed.outline_eq_of_recommented h⟩

/-!
A variable that holds a function, `const f = (...a) => (go)();`, with and without
comments.
-/

namespace CommentedVariable

open Node

def dots (start : Nat) : Node := inLine (.token "...") none start (start + 3)

/-- The function of the parameter `rest`, that calls the value of `callee`. -/
def function (rest callee : Node) : Node :=
  let start := rest.start.offset
  let stop := rest.stop.offset
  inLine .arrowFunction (some .value) (start - 1) (callee.stop.offset + 2)
    [inLine (.other "formal_parameters") (some .parameters) (start - 1) (stop + 1)
        [sign "(" (start - 1), rest, sign ")" stop],
      inLine (.token "=>") none (stop + 2) (stop + 4),
      inLine .callExpression (some .body) (stop + 5) (callee.stop.offset + 2)
        [callee, emptyParens "arguments" .arguments callee.stop.offset]]

/-- The declaration of `f` as a function, with something before the name. -/
def document (text : String) (before : List Node) (start : Nat) (function : Node) : Parsed where
  source := .ofString text
  root := inLine .program none 0 (function.stop.offset + 1)
    [inLine .lexicalDeclaration none 0 (function.stop.offset + 1)
      (inLine (.token "const") (some .kind) 0 5 :: before ++
        [inLine .variableDeclarator none start function.stop.offset
            [inLine .identifier (some .name) start (start + 1), sign "=" (start + 2), function],
          sign ";" function.stop.offset])]

def rest : Node := inLine .restPattern none 11 15 [dots 11, inLine .identifier none 14 15]

def callee : Node :=
  inLine .parenthesized (some .function) 20 24
    [sign "(" 20, inLine .identifier none 21 23, sign ")" 23]

def plain : Parsed := document "const f = (...a) => (go)();" [] 6 (function rest callee)

def commentedRest : Node :=
  inLine .restPattern none 14 22 [dots 14, emptyComment 17, inLine .identifier none 21 22]

def commentedCallee : Node :=
  inLine .parenthesized (some .function) 27 35
    [sign "(" 27, emptyComment 28, inLine .identifier none 32 34, sign ")" 34]

def commented : Parsed :=
  document "const/**/f = (.../**/a) => (/**/go)();" [emptyComment 5] 9
    (function commentedRest commentedCallee)

theorem plain_commented :
    plain.root.Commented (SameOnLines plain.source commented.source) OnSameLines
      commented.root := by
  apply commented_of_isCommented
    (fun n m => commented.source.text m == plain.source.text n &&
      (m.start.row == n.start.row && m.stop.row == n.stop.row))
    (fun n m => m.start.row == n.start.row && m.stop.row == n.stop.row)
  · intro n m h
    simpa [SameOnLines, OnSameLines] using h
  · intro n m h
    simpa [OnSameLines] using h
  · decide +kernel

theorem plain_followsNameForm : plain.root.Everywhere FollowsNameForm := by
  have hsites : ∀ s ∈ plain.root.preorder [],
      s.node.KeepsWordsWhole ∧ s.node.KeepsNameWhole ∧ s.node.StartsWithKeyword := by
    decide +kernel
  exact .of_forall_mem_preorder fun s hs => ⟨(hsites s hs).1, (hsites s hs).2.1, (hsites s hs).2.2⟩

theorem rest_usual : rest.UsualParameter := by
  refine .rest rfl ?_
  intro c hc
  obtain rfl : inLine .identifier none 14 15 = c := Option.some.inj hc
  exact .name rfl

theorem plain_hasUsualParameters : plain.root.Everywhere HasUsualParameters := by
  have hfunctions : ((plain.root.preorder []).map (·.node)).filter
      (fun n => n.kind.isFunctionDeclaration || n.kind.isFunctionValue) =
        [function rest callee] := rfl
  have hsites : ∀ s ∈ plain.root.preorder [], s.node.HasUsualParameters := by
    intro s hs hkind
    have hmem : s.node ∈ ((plain.root.preorder []).map (·.node)).filter
        (fun n => n.kind.isFunctionDeclaration || n.kind.isFunctionValue) :=
      List.mem_filter.mpr ⟨List.mem_map_of_mem hs, Bool.or_eq_true_iff.mpr hkind⟩
    rw [hfunctions, List.mem_singleton] at hmem
    rw [hmem]
    intro c hc
    obtain rfl : c = rest := List.mem_singleton.mp hc
    exact rest_usual
  exact .of_forall_mem_preorder hsites

end CommentedVariable

open CommentedVariable in
/-- Comments before a name, in a parameter and in parentheses. -/
theorem comments_keep_analyses_variable :
    plain.root.Everywhere Node.FollowsNameForm ∧ plain.root.Everywhere Node.HasUsualParameters ∧
    plain.root.Commented (Node.SameOnLines plain.source commented.source) Node.OnSameLines
      commented.root ∧
    (collectSymbols ⟨"0", "0.js", ""⟩ commented).map (·.signature) = ["const f = (...a) => ..."] ∧
    (commented.root.findDeclaration? commented.source "f").map
      (Node.outgoingCalls commented.source) = some [⟨"go", 1⟩] ∧
    incomingCalls "0" commented "go" = [⟨"0", "f", 1⟩] ∧
    commented.outline = ⟨[], [], [], 0, 1⟩ := by
  obtain ⟨hsymbols, houtgoing, hincoming, houtline⟩ := comments_keep_analyses.2 plain commented
    plain_followsNameForm plain_hasUsualParameters plain_commented
  refine ⟨plain_followsNameForm, plain_hasUsualParameters, plain_commented, ?_, ?_, ?_, ?_⟩
  · rw [hsymbols]
    decide +kernel
  · rw [houtgoing]
    decide +kernel
  · rw [hincoming]
    decide +kernel
  · rw [houtline]
    decide +kernel

end BundleAtlas
