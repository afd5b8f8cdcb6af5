import BundleAtlas.Proofs.Dialect.Parameter
import BundleAtlas.Proofs.Grammar.NameForm
import BundleAtlas.Proofs.Tree.Commented
import BundleAtlas.Symbol.CallGraph
import BundleAtlas.Symbol.Outline

/-!
What is told of a node with more comments in it. Names are words with nothing
below them, so no comment can stand in one, and what is shown of a usual
parameter is a name or a mark. All else that is asked of a node is its kind, its
first child, before which no comment is put, and its lines.
-/

namespace BundleAtlas

namespace Node

/-- Two nodes that start and stop on the same lines. -/
def OnSameLines (n m : Node) : Prop := m.start.row = n.start.row ∧ m.stop.row = n.stop.row

/-- Two nodes with the same text on the same lines. -/
def SameOnLines (src src' : Source) (n m : Node) : Prop :=
  src'.text m = src.text n ∧ OnSameLines n m

/-- A parameter of a usual form: a name, a pattern, one with a value to fall back
on, one that takes the rest, or one of these in the node that the dialect with
types puts around it. -/
inductive UsualParameter : Node → Prop
  | name {n : Node} (hkind : n.kind = .identifier) : UsualParameter n
  | pattern {n : Node} (hkind : n.kind = .objectPattern ∨ n.kind = .arrayPattern) :
      UsualParameter n
  | default {n : Node} (hkind : n.kind = .assignmentPattern) : UsualParameter n
  | rest {n : Node} (hkind : n.kind = .restPattern)
      (hinner : ∀ c, n.properChildren.head? = some c → UsualParameter c) : UsualParameter n
  | wrapped {n inner : Node} (hkind : n.kind = .requiredParameter ∨ n.kind = .optionalParameter)
      (hpattern : n.child? .pattern = some inner) (hinner : UsualParameter inner) :
      UsualParameter n

/-- If the node is a function whose parameters are shown, they are of a usual
form. -/
def HasUsualParameters (n : Node) : Prop :=
  n.kind.isFunctionDeclaration = true ∨ n.kind.isFunctionValue = true →
    ∀ c ∈ n.parameterNodes, c.UsualParameter

/-- What is asked of a unit: the form of its names and of its parameters. -/
structure IsUsual (n : Node) : Prop where
  names : n.FollowsNameForm
  parameters : n.HasUsualParameters

/-- A node of a unit, and the same one with more comments in it. -/
structure Recommented (src src' : Source) (n m : Node) : Prop where
  comments : n.Commented (SameOnLines src src') OnSameLines m
  usual : n.Everywhere IsUsual

theorem isAsync_eq_head? (fn : Node) :
    fn.isAsync = fn.children.head?.elim false (·.kind == .token "async") := by
  unfold isAsync
  cases fn.children <;> rfl

end Node

namespace Node.Recommented

variable {src src' : Source} {n m : Node}

theorem transparent : Transparent (Recommented src src') where
  kind h := h.comments.kind
  field h := h.comments.field
  children h := h.comments.children.imp fun _ hc _ hcc' => ⟨hcc', h.usual.of_mem_children hc⟩

theorem kind (h : Recommented src src' n m) : m.kind = n.kind := transparent.kind h

theorem lines (h : Recommented src src' n m) : OnSameLines n m := by
  cases h.comments with
  | copied h => exact h.same.2
  | opened _ _ hopen => exact hopen

theorem startLine_eq (h : Recommented src src' n m) : m.startLine = n.startLine := by
  rw [startLine, startLine, h.lines.1]

theorem stopLine_eq (h : Recommented src src' n m) : m.stopLine = n.stopLine := by
  rw [stopLine, stopLine, h.lines.2]

theorem text_of_leaf (h : Recommented src src' n m) (hleaf : n.children = []) :
    src'.text m = src.text n := (h.comments.copied_of_leaf hleaf).same.1

/-- No comment can stand in a word. -/
theorem text_of_atom (h : Recommented src src' n m) (hkind : n.kind.isAtom = true) :
    src'.text m = src.text n := h.text_of_leaf (h.usual.here.names.words hkind)

theorem text_of_identifier (h : Recommented src src' n m) (hkind : n.kind = .identifier) :
    src'.text m = src.text n := h.text_of_atom (by rw [hkind]; rfl)

theorem rel_head? (h : Recommented src src' n m) :
    Option.Rel (Recommented src src') n.children.head? m.children.head? := by
  rcases rel_cases h.comments.head? with ⟨hn, hm⟩ | ⟨c, c', hn, hm, hc⟩
  · rw [hn, hm]
    exact .none
  · rw [hn, hm]
    exact .some ⟨hc, h.usual.of_mem_children (List.mem_of_head? hn)⟩

theorem declaredName_eq (h : Recommented src src' n m) (hkind : n.kind.isNamedDeclaration = true) :
    m.declaredName src' = n.declaredName src := by
  unfold declaredName
  rcases rel_cases (transparent.child? h .name) with ⟨hn, hm⟩ | ⟨name, name', hn, hm, hname⟩
  · rw [hn, hm]
    rfl
  · have hpart : name.field = some .name := by simpa using List.find?_some hn
    have hleaf := h.usual.here.names.name hkind name (List.mem_of_find?_eq_some hn) hpart
    rw [hn, hm]
    exact hname.text_of_leaf hleaf

theorem declaratorName_eq (h : Recommented src src' n m) :
    m.declaratorName src' = n.declaratorName src := by
  apply h.comments.declaratorName_eq fun _ _ hsame => hsame.1
  intro c hc hkind
  exact (h.usual.of_mem_children hc).here.names.words (by rw [hkind]; rfl)

theorem rel_declaratorFunction? (h : Recommented src src' n m) :
    Option.Rel (Recommented src src') n.declaratorFunction? m.declaratorFunction? := by
  unfold declaratorFunction?
  rcases rel_cases (transparent.bareChild h .value) with ⟨hn, hm⟩ | ⟨value, value', hn, hm, hvalue⟩
  · rw [hn, hm]
    exact .none
  · rw [hn, hm]
    dsimp only
    rw [hvalue.kind]
    split
    · exact .some hvalue
    · exact .none

theorem rel_parameterNodes (h : Recommented src src' n m) :
    List.Forall₂ (Recommented src src') n.parameterNodes m.parameterNodes := by
  unfold parameterNodes
  rcases rel_cases (transparent.child? h .parameter) with
    ⟨hn, hm⟩ | ⟨single, single', hn, hm, hsingle⟩
  · rw [hn, hm]
    rcases rel_cases (transparent.child? h .parameters) with
      ⟨hn, hm⟩ | ⟨list, list', hn, hm, hlist⟩
    · rw [hn, hm]
      exact .nil
    · rw [hn, hm]
      exact transparent.properChildren hlist
  · rw [hn, hm]
    exact .cons hsingle .nil

/-- A parameter of a usual form is shown as before. -/
theorem renderParameter_eq (h : Recommented src src' n m) (husual : n.UsualParameter) :
    m.renderParameter src' = n.renderParameter src := by
  induction husual generalizing m with
  | name hkind =>
      rw [renderParameter_def src' m, renderParameter_def, h.kind, hkind]
      exact h.text_of_identifier hkind
  | pattern hkind =>
      rw [renderParameter_def src' m, renderParameter_def, h.kind]
      rcases hkind with hkind | hkind <;> rw [hkind]
  | default hkind =>
      rw [renderParameter_def src' m, renderParameter_def, h.kind, hkind]
      dsimp only
      rcases rel_cases (transparent.child? h .left) with ⟨hn, hm⟩ | ⟨left, left', hn, hm, hleft⟩
      · rw [hn, hm]
      · rw [hn, hm]
        dsimp only
        rw [hleft.kind]
        split
        · rename_i hname
          rw [hleft.text_of_identifier (by simpa using hname)]
        · rfl
  | @rest n hkind _ ih =>
      rw [renderParameter_def src' m, renderParameter_def src n, h.kind, hkind]
      dsimp only
      rcases rel_cases (BundleAtlas.rel_head? (transparent.properChildren h)) with
        ⟨hn, hm⟩ | ⟨c, c', hn, hm, hc⟩
      · rw [hn, hm]
        rfl
      · rw [hn, hm, Option.elim_some, Option.elim_some, ih c hn hc]
  | @wrapped n inner hkind hpattern _ ih =>
      rw [renderParameter_def src' m, renderParameter_def src n, h.kind]
      have hvalue := rel_isSome (transparent.child? h .value)
      rcases rel_cases (transparent.child? h .pattern) with ⟨hn, hm⟩ | ⟨c, c', hn, hm, hc⟩
      · rw [hpattern] at hn
        cases hn
      · obtain rfl : inner = c := Option.some.inj (hpattern.symm.trans hn)
        rcases hkind with hkind | hkind <;> rw [hkind] <;> dsimp only <;>
          simp only [hn, hm, Option.map_some, hvalue, ih hc]

theorem renderParameters_eq (h : Recommented src src' n m)
    (hkind : n.kind.isFunctionDeclaration = true ∨ n.kind.isFunctionValue = true) :
    m.renderParameters src' = n.renderParameters src := by
  apply map_eq_of_forall₂ h.rel_parameterNodes
  intro c hc c' hcc'
  exact hcc'.renderParameter_eq (h.usual.here.parameters hkind c hc)

theorem asyncWord_eq (h : Recommented src src' n m) : m.asyncWord = n.asyncWord := by
  have hasync : m.isAsync = n.isAsync := by
    rw [isAsync_eq_head?, isAsync_eq_head?]
    rcases rel_cases h.rel_head? with ⟨hn, hm⟩ | ⟨c, c', hn, hm, hc⟩
    · rw [hn, hm]
    · rw [hn, hm, Option.elim_some, Option.elim_some, hc.kind]
  rw [asyncWord, asyncWord, hasync]

theorem star_eq (h : Recommented src src' n m) : m.star = n.star := by
  rw [star, star, h.kind]

theorem functionSignature_eq (h : Recommented src src' n m) (name : String)
    (params : List String) :
    m.functionSignature name params = n.functionSignature name params := by
  rw [functionSignature, functionSignature, h.asyncWord_eq, h.star_eq]

theorem variableSignature_eq (h : Recommented src src' n m) (keyword name : String)
    (params : List String) :
    variableSignature keyword m name params = variableSignature keyword n name params := by
  unfold variableSignature
  rw [h.asyncWord_eq, h.star_eq, h.kind]

/-- A declaration is found under the same name. -/
theorem declares_eq (h : Recommented src src' n m) (name : String) :
    m.declares src' name = n.declares src name := by
  unfold declares
  rw [h.kind, h.declaratorName_eq, rel_isSome h.rel_declaratorFunction?]
  split
  · rename_i hkind
    rw [h.declaredName_eq hkind]
  · rfl

theorem rel_callee? (h : Recommented src src' n m) :
    Option.Rel (Recommented src src') n.callee? m.callee? := transparent.bareChild h .function

theorem calleeName_eq (h : Recommented src src' n m) : m.calleeName src' = n.calleeName src := by
  unfold calleeName
  rcases rel_cases h.rel_callee? with ⟨hn, hm⟩ | ⟨fn, fn', hn, hm, hfn⟩
  · rw [hn, hm]
  · rw [hn, hm]
    dsimp only
    rw [hfn.kind]
    split
    · rename_i hname
      exact hfn.text_of_identifier (by simpa using hname)
    · split
      · rcases rel_cases (transparent.child? hfn .property) with
          ⟨hn, hm⟩ | ⟨property, property', hn, hm, hproperty⟩
        · rw [hn, hm]
        · rw [hn, hm]
          dsimp only
          rw [hproperty.kind]
          split
          · rfl
          · rename_i hname
            have hkind : property.kind = .propertyIdentifier := by simpa using hname
            have hword := hproperty.text_of_atom (by rw [hkind]; rfl)
            rcases rel_cases (transparent.bareChild hfn .object) with
              ⟨hn, hm⟩ | ⟨object, object', hn, hm, hobject⟩
            · rw [hn, hm]
              dsimp only
              rw [hword]
            · rw [hn, hm]
              dsimp only
              rw [hobject.kind, hword]
              split
              · rename_i hidentifier
                rw [hobject.text_of_identifier (by simpa using hidentifier)]
              · rfl
      · rfl

theorem callsSymbol_eq (h : Recommented src src' n m) (name : String) :
    m.callsSymbol src' name = n.callsSymbol src name := by
  unfold callsSymbol
  rcases rel_cases h.rel_callee? with ⟨hn, hm⟩ | ⟨fn, fn', hn, hm, hfn⟩
  · rw [hn, hm]
  · rw [hn, hm]
    dsimp only
    rw [hfn.kind]
    split
    · rename_i hname
      rw [hfn.text_of_identifier (by simpa using hname)]
    · split
      · rcases rel_cases (transparent.child? hfn .property) with
          ⟨hn, hm⟩ | ⟨property, property', hn, hm, hproperty⟩
        · rw [hn, hm]
        · rw [hn, hm]
          dsimp only
          rw [hproperty.kind]
          by_cases hkind : property.kind = .propertyIdentifier
          · rw [hproperty.text_of_atom (by rw [hkind]; rfl)]
          · have hother : (property.kind == .propertyIdentifier) = false := by simpa using hkind
            rw [hother, Bool.false_and, Bool.false_and]
      · rfl

theorem keyLabel_eq {key key' : Option Node} (h : Option.Rel (Recommented src src') key key') :
    keyLabel src' key' = keyLabel src key := by
  rcases rel_cases h with ⟨rfl, rfl⟩ | ⟨c, c', rfl, rfl, hc⟩
  · rfl
  · unfold keyLabel
    dsimp only
    rw [hc.kind]
    split
    · rename_i hkind
      have hatom : c.kind.isAtom = true := by
        cases hk : c.kind <;> simp_all [Kind.isMemberName, Kind.isAtom, Kind.isWord]
      exact hc.text_of_atom hatom
    · rfl

theorem boundNames_eq (h : Recommented src src' n m) : m.boundNames src' = n.boundNames src := by
  have hdeclarators : ∀ o : Node, o.namedChildren.filter (·.kind == .variableDeclarator) =
      o.children.filter fun c => c.kind == .variableDeclarator && c.kind.isNamed := by
    intro o
    exact List.filter_filter
  have hfound := transparent.filter h (p := fun k => k == .variableDeclarator && k.isNamed) rfl
  unfold boundNames
  rw [hdeclarators, hdeclarators]
  congr 1
  apply map_eq_of_forall₂ hfound
  intro c _ c' hc
  exact hc.declaratorName_eq

theorem functionNames_eq (h : Recommented src src' n m) :
    m.functionNames src' = n.functionNames src := by
  unfold functionNames
  rw [h.kind]
  split
  · rename_i hkind
    rw [h.declaredName_eq (by rw [Kind.isNamedDeclaration, hkind, Bool.true_or])]
  · rfl

theorem classNames_eq (h : Recommented src src' n m) : m.classNames src' = n.classNames src := by
  unfold classNames
  rw [h.kind]
  split
  · rename_i hkind
    rw [h.declaredName_eq (by rw [Kind.isNamedDeclaration, hkind, Bool.or_true])]
  · rfl

theorem variableNames_eq (h : Recommented src src' n m) :
    m.variableNames src' = n.variableNames src := by
  rw [variableNames, variableNames, h.kind, h.boundNames_eq]

theorem exportNames_eq (h : Recommented src src' n m) : m.exportNames src' = n.exportNames src := by
  have hdefault : m.children.any (·.kind == .token "default") =
      n.children.any (·.kind == .token "default") := by
    apply (transparent.children h).any_eq
    · intro c c' hc
      rw [hc.kind]
    · intro c hc
      rw [hc.kind]
      rfl
  unfold exportNames exportedNames
  rw [h.kind, hdefault]
  rcases rel_cases (transparent.child? h .declaration) with ⟨hn, hm⟩ | ⟨d, d', hn, hm, hd⟩
  · rw [hn, hm]
  · have hfunctions := hd.functionNames_eq
    unfold functionNames at hfunctions
    rw [hd.kind] at hfunctions
    rw [hn, hm]
    dsimp only
    rw [hd.kind, hd.boundNames_eq]
    by_cases hkind : d.kind.isFunctionDeclaration
    · rw [if_pos hkind, if_pos hkind] at hfunctions
      rw [hfunctions]
    · simp only [hkind, Bool.false_eq_true, if_false]

end Node.Recommented

end BundleAtlas
