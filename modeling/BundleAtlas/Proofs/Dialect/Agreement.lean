import BundleAtlas.Proofs.Dialect.Site
import BundleAtlas.Proofs.Tree.First

/-!
The analyses of a plain document and of its form in the dialect with types. Each
of them takes the same from a node and its counterpart, so the inventory, the
declaration of a name, the calls and the outline are the same in both forms.
-/

namespace BundleAtlas

/-- A document in the dialect with types. -/
def Parsed.typed (p : Parsed) : Parsed := ⟨p.root.typed, p.source⟩

namespace Node.Counterpart

variable {n n' : Node} {src : Source}

/-- A declaration makes the same calls in both forms. -/
theorem outgoingCalls_eq (h : Counterpart n n') (hplain : n.Everywhere (IsPlain src)) :
    n'.outgoingCalls src = n.outgoingCalls src := by
  unfold outgoingCalls
  refine Agree.filterMap_walk ⟨?_, ?_⟩ h hplain
  · intro s hs
    simp [hs.call]
  · intro s s' hsite
    simp only [hsite.node.ask (· == .callExpression) rfl, hsite.node.startLine_eq]
    by_cases hcall : s.node.kind = .callExpression
    · rw [hsite.node.calleeName_eq hcall]
    · have hother : (s.node.kind == .callExpression) = false := by simpa using hcall
      simp [hother]

/-- What is collected by node is the same in both forms. -/
theorem flatMap_node_walk_eq (h : Counterpart n n') (hplain : n.Everywhere (IsPlain src))
    (names : Node → List String) (hunasked : ∀ m : Node, m.kind.Unasked → names m = [])
    (hsame : ∀ {m m' : Node}, Counterpart m m' → names m' = names m) :
    (n'.walk.map (·.node)).flatMap names = (n.walk.map (·.node)).flatMap names := by
  rw [List.flatMap_map, List.flatMap_map]
  refine Agree.flatMap_walk ⟨?_, ?_⟩ h hplain
  · intro s hs
    exact ⟨hunasked s.node hs, hunasked s.node hs⟩
  · intro s s' hsite
    exact hsame hsite.node

/-- The first declaration of a name is found at the same place in both forms. -/
theorem findDeclaration?_eq {β : Type} (h : Counterpart n n')
    (hplain : n.Everywhere (IsPlain src)) (name : String) {view view' : Node → β}
    (hsame : ∀ {m m' : Node}, Counterpart m m' → m.Everywhere (IsPlain src) →
      view' m' = view m) :
    (n'.findDeclaration? src name).map view' = (n.findDeclaration? src name).map view := by
  rw [map_findDeclaration?, map_findDeclaration?]
  refine Agree.findSome?_walk ⟨?_, ?_⟩ h hplain
  · intro s hs
    simp [declares, hs.functionDeclaration, hs.classDeclaration, hs.declarator]
  · intro s s' hsite
    rw [hsite.node.declares_eq, hsame hsite.node hsite.plain]

end Node.Counterpart

namespace Parsed

variable {p : Parsed}

@[simp] theorem typed_source (p : Parsed) : p.typed.source = p.source := rfl

theorem collectSymbols_typed (hplain : p.root.Everywhere (Node.IsPlain p.source)) (unit : Piece) :
    collectSymbols unit p.typed = collectSymbols unit p := by
  refine Agree.filterMap_walk ⟨?_, ?_⟩ p.root.counterpart_typed hplain
  · intro s hs
    simp [Site.entry?, hs.functionDeclaration, hs.classDeclaration, hs.declarator]
  · intro s s' hsite
    exact hsite.entry?_eq unit

theorem findSymbol_typed (hplain : p.root.Everywhere (Node.IsPlain p.source)) (name : String) :
    p.typed.findSymbol name = p.findSymbol name := by
  have hfound : p.typed.root.walk.findSome? (Site.symbol? p.source name) =
      p.root.walk.findSome? (Site.symbol? p.source name) := by
    refine Agree.findSome?_walk ⟨?_, ?_⟩ p.root.counterpart_typed hplain
    · intro s hs
      simp [Site.symbol?, hs.functionDeclaration, hs.classDeclaration, hs.declarator, hs.loop]
    · intro s s' hsite
      exact hsite.symbol?_eq name
  unfold findSymbol
  rw [typed_source, hfound]

theorem incomingCalls_typed (hplain : p.root.Everywhere (Node.IsPlain p.source))
    (unitId name : String) : incomingCalls unitId p.typed name = incomingCalls unitId p name := by
  unfold incomingCalls
  rw [typed_source]
  refine Agree.filterMap_walk ⟨?_, ?_⟩ p.root.counterpart_typed hplain
  · intro s hs
    simp [hs.call]
  · intro s s' hsite
    simp only [hsite.node.ask (· == .callExpression) rfl, hsite.node.startLine_eq]
    by_cases hcall : s.node.kind = .callExpression
    · rw [hsite.node.callsSymbol_eq hcall, hsite.callerLabel_eq]
    · have hother : (s.node.kind == .callExpression) = false := by simpa using hcall
      simp [hother]

theorem outline_typed (hplain : p.root.Everywhere (Node.IsPlain p.source)) :
    p.typed.outline = p.outline := by
  have h := p.root.counterpart_typed
  have hfunctions := h.flatMap_node_walk_eq hplain (Node.functionNames p.source)
    (fun m hm => by simp [Node.functionNames, hm.functionDeclaration]) Node.Counterpart.functionNames_eq
  have hclasses := h.flatMap_node_walk_eq hplain (Node.classNames p.source)
    (fun m hm => by simp [Node.classNames, hm.classDeclaration]) Node.Counterpart.classNames_eq
  have hexports := h.flatMap_node_walk_eq hplain (Node.exportNames p.source)
    (fun m hm => by simp [Node.exportNames, hm.exporting]) Node.Counterpart.exportNames_eq
  have hvariables := h.flatMap_node_walk_eq hplain (Node.variableNames p.source)
    (fun m hm => by simp [Node.variableNames, hm.variableDeclaration]) Node.Counterpart.variableNames_eq
  unfold outline typed
  simp only [hfunctions, hclasses, hexports, hvariables]

end Parsed

/-- No analysis depends on the dialect that a plain document is read in. Every
document that the plain dialect can read follows the plain grammar. If such a
document has plain parameters only, its form with types has the same inventory,
the same declaration of every name as it is shown, the form of the same
declaration as the one that calls are gathered from, the same calls from it and
to every name, and the same outline. -/
theorem typed_form_analyzed_alike :
    (∀ text p, Dialect.javascript.parse text = .ok p →
      p.root.Everywhere (Node.FollowsPlainGrammar p.source)) ∧
    ∀ p : Parsed, p.root.Everywhere (Node.FollowsPlainGrammar p.source) →
      p.root.Everywhere Node.HasPlainParameters →
      (∀ unit, collectSymbols unit p.typed = collectSymbols unit p) ∧
      (∀ name, p.typed.findSymbol name = p.findSymbol name) ∧
      (∀ name, (p.typed.root.findDeclaration? p.source name).map Node.alone =
        (p.root.findDeclaration? p.source name).map fun n => n.typed.alone) ∧
      (∀ name, (p.typed.root.findDeclaration? p.source name).map (Node.outgoingCalls p.source) =
        (p.root.findDeclaration? p.source name).map (Node.outgoingCalls p.source)) ∧
      (∀ unitId name, incomingCalls unitId p.typed name = incomingCalls unitId p name) ∧
      p.typed.outline = p.outline := by
  refine ⟨fun text p hparse => Dialect.parse_followsPlainGrammar hparse, ?_⟩
  intro p hgrammar hparameters
  have hplain : p.root.Everywhere (Node.IsPlain p.source) :=
    (hgrammar.and hparameters).imp fun _ hn => ⟨hn.1, hn.2⟩
  have h := p.root.counterpart_typed
  refine ⟨Parsed.collectSymbols_typed hplain, Parsed.findSymbol_typed hplain, ?_, ?_,
    Parsed.incomingCalls_typed hplain, Parsed.outline_typed hplain⟩
  · intro name
    exact h.findDeclaration?_eq hplain name fun hm _ => hm.alone_eq
  · intro name
    exact h.findDeclaration?_eq hplain name fun hm hmPlain => hm.outgoingCalls_eq hmPlain

/-- The parameters `(a, b = a, {c}, ...d)` of the function below. -/
def parametersOfGo : Node :=
  .inLine (.other "formal_parameters") (some .parameters) 40 61 [
    .inLine (.token "(") none 40 41,
    .inLine .identifier none 41 42,
    .inLine (.token ",") none 42 43,
    .inLine .assignmentPattern none 44 49 [
      .inLine .identifier (some .left) 44 45,
      .inLine (.token "=") none 46 47,
      .inLine .identifier none 48 49],
    .inLine (.token ",") none 49 50,
    .inLine .objectPattern none 51 54 [
      .inLine (.token "\x7b") none 51 52,
      .inLine (.other "shorthand_property_identifier_pattern") none 52 53,
      .inLine (.token "\x7d") none 53 54],
    .inLine (.token ",") none 54 55,
    .inLine .restPattern none 56 60 [
      .inLine (.token "...") none 56 59,
      .inLine .identifier none 59 60],
    .inLine (.token ")") none 60 61]

/-- The document `class A { f = () => go(1); } function go(a, b = a, {c}, ...d) {}`. -/
def goOfField : Parsed where
  source := .ofString
    "class A \x7b f = () => go(1); \x7d function go(a, b = a, \x7bc\x7d, ...d) \x7b\x7d"
  root := .inLine .program none 0 64 [
    .inLine .classDeclaration none 0 28 [
      .inLine (.token "class") none 0 5,
      .inLine .identifier (some .name) 6 7,
      .inLine .classBody (some .body) 8 28 [
        .inLine (.token "\x7b") none 8 9,
        .inLine .fieldDefinition none 10 25 [
          .inLine .propertyIdentifier (some .property) 10 11,
          .inLine (.token "=") none 12 13,
          .inLine .arrowFunction (some .value) 14 25 [
            .emptyParens "formal_parameters" .parameters 14,
            .inLine (.token "=>") none 17 19,
            .inLine .callExpression (some .body) 20 25 [
              .inLine .identifier (some .function) 20 22,
              .inLine (.other "arguments") (some .arguments) 22 25 [
                .inLine (.token "(") none 22 23,
                .inLine (.other "number") none 23 24,
                .inLine (.token ")") none 24 25]]]],
        .inLine (.token ";") none 25 26,
        .inLine (.token "\x7d") none 27 28]],
    .inLine .functionDeclaration none 29 64 [
      .inLine (.token "function") none 29 37,
      .inLine .identifier (some .name) 38 40,
      parametersOfGo,
      .inLine .statementBlock (some .body) 62 64 [
        .inLine (.token "\x7b") none 62 63,
        .inLine (.token "\x7d") none 63 64]]]

theorem goOfField_followsPlainGrammar :
    goOfField.root.Everywhere (Node.FollowsPlainGrammar goOfField.source) := by
  have hsites : ∀ s ∈ goOfField.root.preorder [],
      (s.node.kind = .identifier → goOfField.source.text s.node ≠ destructured) ∧
        (s.node.kind = .fieldDefinition → ∀ c ∈ s.node.children, c.field ≠ some .name) := by
    decide +kernel
  exact .of_forall_mem_preorder fun s hs => ⟨(hsites s hs).1, (hsites s hs).2⟩

theorem parametersOfGo_plain : ∀ c ∈ parametersOfGo.properChildren, c.PlainParameter := by
  change ∀ c ∈ [_, _, _, _], Node.PlainParameter c
  simp only [List.forall_mem_cons]
  refine ⟨.name rfl, ?_, .pattern rfl, .rest rfl rfl (.name rfl), nofun⟩
  exact .default rfl rfl (.inl rfl) (List.mem_cons_of_mem _ List.mem_cons_self) nofun

theorem goOfField_hasPlainParameters : goOfField.root.Everywhere Node.HasPlainParameters := by
  have hlists : ((goOfField.root.preorder []).filter (·.node.kind == .formalParameters)).map
      (·.node) = [.emptyParens "formal_parameters" .parameters 14, parametersOfGo] := rfl
  have hsites : ∀ s ∈ goOfField.root.preorder [], s.node.HasPlainParameters := by
    intro s hs hkind
    have hmem : s.node ∈ ((goOfField.root.preorder []).filter
        (·.node.kind == .formalParameters)).map (·.node) :=
      List.mem_map.mpr ⟨s, List.mem_filter.mpr ⟨hs, by simpa using hkind⟩, rfl⟩
    rw [hlists, List.mem_cons, List.mem_singleton] at hmem
    rcases hmem with hempty | hgo
    · rw [hempty]
      nofun
    · rw [hgo]
      exact parametersOfGo_plain
  exact .of_forall_mem_preorder hsites

theorem typed_form_analyzed_alike_goOfField :
    goOfField.root.Everywhere (Node.FollowsPlainGrammar goOfField.source) ∧
    goOfField.root.Everywhere Node.HasPlainParameters ∧
    (collectSymbols ⟨"0", "0.js", ""⟩ goOfField.typed).map (·.signature) =
      ["class A", "function go(a, b?, \x7bdestructured\x7d, ...d)"] ∧
    (goOfField.typed.findSymbol "go").toOption.map (·.span) = some ⟨1, 30, 1, 65⟩ ∧
    (goOfField.typed.root.findDeclaration? goOfField.source "A").map Node.alone =
      (goOfField.root.findDeclaration? goOfField.source "A").map (fun n => n.typed.alone) ∧
    (goOfField.typed.root.findDeclaration? goOfField.source "A").map
      (Node.outgoingCalls goOfField.source) = some [⟨"go", 1⟩] ∧
    incomingCalls "0" goOfField.typed "go" = [⟨"0", "f", 1⟩] ∧
    goOfField.typed.outline = ⟨["go"], ["A"], [], 1, 0⟩ := by
  obtain ⟨hsymbols, hfound, hdeclaration, houtgoing, hincoming, houtline⟩ :=
    typed_form_analyzed_alike.2 goOfField goOfField_followsPlainGrammar
      goOfField_hasPlainParameters
  refine ⟨goOfField_followsPlainGrammar, goOfField_hasPlainParameters, ?_, ?_, hdeclaration "A", ?_,
    ?_, ?_⟩
  · rw [hsymbols]
    decide +kernel
  · rw [hfound]
    decide +kernel
  · rw [houtgoing]
    decide +kernel
  · rw [hincoming]
    decide +kernel
  · rw [houtline]
    decide +kernel

end BundleAtlas
