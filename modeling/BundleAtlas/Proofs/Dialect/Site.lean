import Mathlib.Data.List.Find
import BundleAtlas.Proofs.Dialect.Walk
import BundleAtlas.Symbol.Locate

/-!
What the analyses take from a site and from its counterpart: its entry in the
inventory, the declaration that it is, and the label of the function around it.
Parents and enclosing functions are counterparts as well, or of no interest, so
that what is asked of them is the same in both forms.
-/

namespace BundleAtlas

namespace Node.Counterpart

variable {n n' : Node} {src : Source}

theorem asyncWord_eq (h : Counterpart n n') (hk : n.kind.adapts = false) :
    n'.asyncWord = n.asyncWord := by
  have hasync : n'.isAsync = n.isAsync := by
    unfold isAsync
    rw [h.children_eq_map_typed hk]
    cases n.children with
    | nil => rfl
    | cons c cs => exact c.counterpart_typed.ask (· == .token "async") rfl
  unfold asyncWord
  rw [hasync]

theorem star_eq (h : Counterpart n n') : n'.star = n.star := by
  unfold star
  rw [h.ask Kind.isGenerator rfl]

theorem functionSignature_eq (h : Counterpart n n') (hk : n.kind.adapts = false) (name : String)
    (params : List String) :
    n'.functionSignature name params = n.functionSignature name params := by
  unfold functionSignature
  rw [h.asyncWord_eq hk, h.star_eq]

theorem variableSignature_eq (h : Counterpart n n') (hk : n.kind.adapts = false)
    (keyword name : String) (params : List String) :
    variableSignature keyword n' name params = variableSignature keyword n name params := by
  unfold variableSignature
  rw [h.asyncWord_eq hk, h.star_eq, h.ask (· == .arrowFunction) rfl]

theorem keyLabel_eq (h : Counterpart n n') : keyLabel src (some n') = keyLabel src (some n) := by
  unfold keyLabel
  simp only [h.ask Kind.isMemberName rfl, h.text_eq]

theorem keyLabel_map_typed (key : Option Node) :
    keyLabel src (key.map typed) = keyLabel src key := by
  cases key with
  | none => rfl
  | some c => exact c.counterpart_typed.keyLabel_eq

theorem field_adapted_fieldDefinition (c : Node) : (adapted .fieldDefinition c.typed).field =
    if c.field == some .property then some .name else c.field := by
  rw [adapted_fieldDefinition, typed_field]
  split_ifs
  · rfl
  · exact c.typed_field

/-! The key of a class field is its property in one form and its name in the other. -/

theorem child?_property_eq_none (h : Counterpart n n') (hk : n.kind = .fieldDefinition) :
    n'.child? .property = none := by
  unfold child?
  rw [h.children, hk, List.find?_eq_none]
  intro c' hc'
  obtain ⟨c, _, rfl⟩ := List.mem_map.mp hc'
  rw [field_adapted_fieldDefinition]
  split_ifs with hc
  · simp
  · exact hc

theorem child?_name_eq_map (h : Counterpart n n') (hk : n.kind = .fieldDefinition)
    (hfree : n.KeepsNameFree) :
    n'.child? .name = (n.child? .property).map fun c => { c.typed with field := some .name } := by
  have hsame : n.children.find? (fun c => (adapted .fieldDefinition c.typed).field == some .name) =
      n.child? .property := by
    apply List.find?_congr
    intro c hc
    have hother := hfree hk c hc
    rw [field_adapted_fieldDefinition]
    split_ifs with hproperty
    · simp [hproperty]
    · simp [hproperty, hother]
  have hfound : n'.child? .name = (n.child? .property).map fun c => adapted .fieldDefinition c.typed := by
    unfold child? at hsame ⊢
    rw [h.children, hk, List.find?_map, ← hsame]
    rfl
  rw [hfound]
  cases hkey : n.child? .property with
  | none => rfl
  | some c =>
      have hpart : c.field = some .property := by simpa using List.find?_some hkey
      simp [adapted_fieldDefinition, hpart]

theorem fieldKeyLabel_eq (h : Counterpart n n') (hk : n.kind.isClassField = true)
    (hfree : n.KeepsNameFree) :
    keyLabel src ((n'.child? .property).or (n'.child? .name)) =
      keyLabel src ((n.child? .property).or (n.child? .name)) := by
  by_cases hkind : n.kind = .fieldDefinition
  · have hname : n.child? .name = none := by
      unfold child?
      rw [List.find?_eq_none]
      intro c hc
      simpa using hfree hkind c hc
    rw [h.child?_property_eq_none hkind, h.child?_name_eq_map hkind hfree, hname, Option.none_or,
      Option.or_none]
    cases n.child? .property with
    | none => rfl
    | some c => exact (c.counterpart_typed.withField (some .name)).keyLabel_eq
  · have hpublic : n.kind = .publicFieldDefinition := by
      cases hn : n.kind <;> simp_all [Kind.isClassField]
    have hplain : n.kind.adapts = false := by
      rw [hpublic]
      rfl
    rw [h.child?_eq_map_typed hplain, h.child?_eq_map_typed hplain, ← Option.map_or]
    exact keyLabel_map_typed _

end Node.Counterpart

theorem Node.Everywhere.of_declaratorFunction? {P : Node → Prop} {n fn : Node}
    (h : n.Everywhere P) (hfn : n.declaratorFunction? = some fn) :
    fn.Everywhere P ∧ fn.kind.isFunctionValue = true := by
  unfold declaratorFunction? at hfn
  split at hfn
  · rename_i value hvalue
    obtain ⟨child, hchild, hbare⟩ := Option.bind_eq_some_iff.mp hvalue
    split at hfn
    · rename_i hkind
      cases hfn
      exact ⟨(h.of_child? hchild).of_bare? hbare, hkind⟩
    · cases hfn
  · cases hfn

namespace Site.Counterpart

variable {src : Source} {s s' : Site}

theorem keyword_eq (h : Counterpart src s s') : s'.keyword src = s.keyword src := by
  unfold keyword
  rcases h.parents with ⟨hp, hp'⟩ | ⟨p, p', hp, hp', ⟨hparent, _⟩ | ⟨hkind, hother⟩⟩
  · rw [hp, hp']
  · rw [hp, hp']
    simp only [hparent.ask Kind.isVariableDeclaration rfl]
    by_cases hvariable : p.kind.isVariableDeclaration
    · rw [hparent.children_eq_map_typed (Kind.adapts_eq_false (.inr (.inr hvariable)))]
      cases p.children with
      | nil => rfl
      | cons c cs => simp only [List.map_cons, c.counterpart_typed.text_eq]
    · simp [hvariable]
  · rw [hp, hp']
    simp [hkind.variableDeclaration, hother.variableDeclaration]

theorem entry_eq (h : Counterpart src s s') (unit : Piece) (name : String) (kind : SymbolKind)
    (params : List String) (signature : String) :
    s'.entry unit name kind params signature = s.entry unit name kind params signature := by
  unfold entry
  rw [h.node.startLine_eq, h.node.stopLine_eq]

/-- A site has the same entry in the inventory as its counterpart. -/
theorem entry?_eq (h : Counterpart src s s') (unit : Piece) :
    s'.entry? unit src = s.entry? unit src := by
  unfold entry?
  simp only [h.node.ask Kind.isFunctionDeclaration rfl, h.node.ask Kind.isClassDeclaration rfl,
    h.node.ask (· == .variableDeclarator) rfl, h.entry_eq]
  by_cases hfunction : s.node.kind.isFunctionDeclaration
  · have hplain := Kind.adapts_eq_false (.inl hfunction)
    simp only [hfunction, if_true, h.node.declaredName_of_not_adapts hplain,
      h.node.renderParameters_eq hplain h.plain, h.node.functionSignature_eq hplain]
  · by_cases hclass : s.node.kind.isClassDeclaration
    · simp only [hfunction, hclass, if_true, if_false, Bool.false_eq_true,
        h.node.declaredName_eq (Kind.ne_of_isClassDeclaration hclass)]
    · by_cases hvariable : s.node.kind = .variableDeclarator
      · simp only [hfunction, hclass, if_false, Bool.false_eq_true,
          h.node.declaratorName_eq hvariable, h.node.declaratorFunction?_eq hvariable,
          h.keyword_eq]
        cases hfn : s.node.declaratorFunction? with
        | none => rfl
        | some fn =>
            obtain ⟨hfnPlain, hvalue⟩ := h.plain.of_declaratorFunction? hfn
            have hcounterpart := fn.counterpart_typed
            have hplain := Kind.adapts_eq_false (.inr (.inl hvalue))
            simp only [Option.map_some, hcounterpart.renderParameters_eq hplain hfnPlain,
              hcounterpart.variableSignature_eq hplain]
      · have hother : (s.node.kind == .variableDeclarator) = false := by simpa using hvariable
        simp [hfunction, hclass, hother]

theorem declarationSpan_eq (h : Counterpart src s s') (name : String) :
    s'.declarationSpan src name = s.declarationSpan src name := by
  unfold declarationSpan
  simp only [h.node.span_eq, h.node.text_eq, h.keyword_eq]
  rcases h.parents with ⟨hp, hp'⟩ | ⟨p, p', hp, hp', ⟨hparent, _⟩ | ⟨hkind, hother⟩⟩
  · rw [hp, hp']
  · rw [hp, hp']
    simp only [hparent.ask Kind.isVariableDeclaration rfl]
    by_cases hvariable : p.kind.isVariableDeclaration
    · have hplain := Kind.adapts_eq_false (.inr (.inr hvariable))
      rw [hparent.declarators_eq_map hplain, List.length_map, hparent.span_eq, hparent.text_eq]
    · simp [hvariable]
  · rw [hp, hp']
    simp [hkind.variableDeclaration, hother.variableDeclaration]

/-- A site declares a name exactly as its counterpart does. -/
theorem symbol?_eq (h : Counterpart src s s') (name : String) :
    s'.symbol? src name = s.symbol? src name := by
  unfold symbol?
  simp only [h.node.ask Kind.isFunctionDeclaration rfl, h.node.ask Kind.isClassDeclaration rfl,
    h.node.ask (· == .variableDeclarator) rfl, h.node.ask (· == .forIn) rfl, h.node.span_eq,
    h.node.text_eq, h.declarationSpan_eq]
  by_cases hfunction : s.node.kind.isFunctionDeclaration
  · have hplain := Kind.adapts_eq_false (.inl hfunction)
    simp only [hfunction, Bool.true_or, if_true, h.node.declaredName_of_not_adapts hplain]
  · by_cases hclass : s.node.kind.isClassDeclaration
    · simp only [hclass, Bool.or_true, if_true,
        h.node.declaredName_eq (Kind.ne_of_isClassDeclaration hclass)]
    · by_cases hvariable : s.node.kind = .variableDeclarator
      · simp only [h.node.declaratorName_eq hvariable, hvariable]
        rfl
      · have hother : (s.node.kind == .variableDeclarator) = false := by simpa using hvariable
        simp only [hfunction, hclass, hother, Bool.or_self, Bool.false_eq_true, if_false]
        by_cases hloop : s.node.kind = .forIn
        · have hplain : s.node.kind.adapts = false := by
            rw [hloop]
            rfl
          rw [h.node.child?_eq_map_typed hplain, h.node.child?_eq_map_typed hplain]
          cases s.node.child? .kind with
          | none => rfl
          | some kind =>
              cases s.node.child? .left with
              | none => rfl
              | some left =>
                  have hkind := kind.counterpart_typed
                  have hleft := left.counterpart_typed
                  simp only [Option.map_some, loopSpan, hkind.span_eq, hkind.text_eq, hleft.span_eq,
                    hleft.text_eq, hleft.ask (· == .identifier) rfl]
        · have hstraight : (s.node.kind == .forIn) = false := by simpa using hloop
          simp [hstraight]

theorem functionLabel_eq (h : Counterpart src s s') :
    s'.functionLabel src = s.functionLabel src := by
  unfold functionLabel
  simp only [h.node.ask Kind.isFunctionDeclaration rfl, h.node.ask (· == .methodDefinition) rfl]
  by_cases hfunction : s.node.kind.isFunctionDeclaration
  · have hplain := Kind.adapts_eq_false (.inl hfunction)
    simp only [hfunction, if_true, h.node.declaredName_of_not_adapts hplain]
  · simp only [hfunction, Bool.false_eq_true, if_false]
    rcases h.parents with ⟨hp, hp'⟩ | ⟨p, p', hp, hp', ⟨hparent, hplain⟩ | ⟨hkind, hother⟩⟩
    · rw [hp, hp']
    · rw [hp, hp']
      simp only [hparent.ask (· == .classBody) rfl, hparent.ask (· == .variableDeclarator) rfl,
        hparent.ask Kind.isClassField rfl]
      by_cases hmethod : s.node.kind = .methodDefinition
      · have hmethodPlain : s.node.kind.adapts = false := by
          rw [hmethod]
          rfl
        have hname : Node.keyLabel src (s'.node.child? .name) =
            Node.keyLabel src (s.node.child? .name) := by
          rw [h.node.child?_eq_map_typed hmethodPlain]
          exact Node.Counterpart.keyLabel_map_typed _
        simp [hmethod, hname]
      · have hvalue : (s.node.kind == .methodDefinition) = false := by simpa using hmethod
        by_cases hvariable : p.kind = .variableDeclarator
        · simp [hvalue, hvariable, hparent.declaratorName_eq hvariable]
        · by_cases hfield : p.kind.isClassField
          · have hkey : Node.keyLabel src ((p'.child? .property).or (p'.child? .name)) =
                Node.keyLabel src ((p.child? .property).or (p.child? .name)) :=
              hparent.fieldKeyLabel_eq hfield hplain.here.grammar.key
            simp [hvalue, hvariable, hfield, hkey]
          · simp [hvalue, hvariable, hfield]
    · rw [hp, hp']
      simp [hkind.classBody, hkind.declarator, hkind.classField, hother.classBody,
        hother.declarator, hother.classField]

/-- A call stands in a function of the same label as its counterpart. -/
theorem callerLabel_eq (h : Counterpart src s s') : s'.callerLabel src = s.callerLabel src := by
  unfold callerLabel
  rcases h.enclosing with ⟨hnone, hnone'⟩ | ⟨fn, fn', hfn, hfn', hfunction⟩
  · rw [hnone, hnone']
  · rw [hfn, hfn']
    exact hfunction.functionLabel_eq

end Site.Counterpart

end BundleAtlas
