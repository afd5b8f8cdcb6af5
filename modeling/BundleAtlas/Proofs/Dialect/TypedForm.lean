import Mathlib.Tactic.SplitIfs
import BundleAtlas.Proofs.Tree.Preorder
import BundleAtlas.Symbol.CallGraph
import BundleAtlas.Symbol.Inventory
import BundleAtlas.Symbol.Outline

/-!
The form that a plain document has in the dialect with types. Node for node it
is the same document, at the same places: only every parameter stands in a
node of its own, class fields are of another kind with their key in another
part, and the names of classes are names of types. What the analyses read off a
single node is the same in both forms.
-/

namespace BundleAtlas

namespace Kind

/-- A list of parameters. -/
def formalParameters : Kind := .other "formal_parameters"

/-- The name of a type. -/
def typeIdentifier : Kind := .other "type_identifier"

/-- Classes, declared or as values. -/
def isClass (k : Kind) : Bool := k.isClassDeclaration || k == .other "class"

/-- The kind that a construct has in the dialect with types. -/
def typed : Kind → Kind
  | fieldDefinition => publicFieldDefinition
  | k => k

/-- The kinds whose children take another form. -/
def adapts (k : Kind) : Bool := k == .formalParameters || k == .fieldDefinition || k.isClass

/-- Whoever does not tell the two kinds of class fields apart gets the same
answer in both forms. -/
theorem ask_typed {α : Sort _} (ask : Kind → α)
    (hask : ask .publicFieldDefinition = ask .fieldDefinition) (k : Kind) :
    ask k.typed = ask k := by
  by_cases hk : k = .fieldDefinition
  · rw [hk]
    exact hask
  · have hsame : k.typed = k := by
      unfold typed
      split
      · exact absurd rfl hk
      · rfl
    rw [hsame]

theorem adapts_eq_false {k : Kind} (hk : k.isFunctionDeclaration = true ∨
    k.isFunctionValue = true ∨ k.isVariableDeclaration = true) : k.adapts = false := by
  cases k with
  | other name => simp [isFunctionDeclaration, isFunctionValue, isVariableDeclaration] at hk
  | fieldDefinition | classDeclaration | abstractClassDeclaration =>
      simp [isFunctionDeclaration, isFunctionValue, isVariableDeclaration] at hk
  | _ => rfl

theorem ne_of_isClassDeclaration {k : Kind} (hk : k.isClassDeclaration = true) :
    k ≠ .fieldDefinition := by
  rintro rfl
  cases hk

end Kind

namespace Node

/-- Whether the node is a construct and no comment. -/
def isProper (n : Node) : Bool := n.isNamed && !n.isComment

theorem properChildren_eq_filter (n : Node) : n.properChildren = n.children.filter isProper := by
  unfold properChildren namedChildren isProper
  rw [List.filter_filter]
  congr 1
  funext c
  exact Bool.and_comm _ _

/-- A part of a parameter with a value to fall back on: the left side is the
pattern, and the right side the value. -/
def defaultPart (n : Node) : Node :=
  { n with field := if n.field == some .left then some .pattern
    else if n.isProper then some .value else none }

/-- A parameter in a node of its own. One with a value to fall back on is such
a node already. -/
def asParameter (n : Node) : Node :=
  if n.kind == .assignmentPattern then
    { n with kind := .requiredParameter, children := n.children.map defaultPart }
  else ⟨.requiredParameter, n.field, n.start, n.stop, [{ n with field := some .pattern }]⟩

/-- What becomes of a child by the kind of its parent. -/
def adapted (parent : Kind) (n : Node) : Node :=
  if parent == .formalParameters && n.isProper then n.asParameter
  else if parent == .fieldDefinition && n.field == some .property then
    { n with field := some .name }
  else if parent.isClass && n.field == some .name && n.kind == .identifier then
    { n with kind := .typeIdentifier }
  else n

mutual

/-- The form of a tree in the dialect with types. -/
def typed : Node → Node
  | ⟨k, f, start, stop, cs⟩ => ⟨k.typed, f, start, stop, typedAll k cs⟩

/-- The forms of the children of a node of some kind. -/
def typedAll (parent : Kind) : List Node → List Node
  | [] => []
  | n :: ns => adapted parent (typed n) :: typedAll parent ns

end

theorem typedAll_eq_map (k : Kind) (ns : List Node) :
    typedAll k ns = ns.map fun n => adapted k n.typed := by
  induction ns with
  | nil => rfl
  | cons n ns ih => rw [typedAll, ih, List.map_cons]

@[simp] theorem typed_kind (n : Node) : n.typed.kind = n.kind.typed := by
  cases n
  rfl

@[simp] theorem typed_field (n : Node) : n.typed.field = n.field := by
  cases n
  rfl

@[simp] theorem typed_start (n : Node) : n.typed.start = n.start := by
  cases n
  rfl

@[simp] theorem typed_stop (n : Node) : n.typed.stop = n.stop := by
  cases n
  rfl

theorem typed_children (n : Node) :
    n.typed.children = n.children.map fun c => adapted n.kind c.typed := by
  cases n
  exact typedAll_eq_map _ _

theorem isProper_typed (n : Node) : n.typed.isProper = n.isProper := by
  unfold isProper isNamed isComment
  rw [typed_kind]
  exact Kind.ask_typed (fun k => k.isNamed && !(k == .comment)) rfl n.kind

theorem adapted_of_not_adapts {k : Kind} (hk : k.adapts = false) (n : Node) :
    adapted k n = n := by
  simp only [Kind.adapts, Bool.or_eq_false_iff] at hk
  simp [adapted, hk.1.1, hk.1.2, hk.2]

theorem adapted_fieldDefinition (n : Node) : adapted .fieldDefinition n =
    if n.field == some .property then { n with field := some .name } else n := by
  have hlist : (Kind.fieldDefinition == .formalParameters) = false := rfl
  have hclass : Kind.fieldDefinition.isClass = false := rfl
  simp [adapted, hlist, hclass]

@[simp] theorem adapted_start (k : Kind) (n : Node) : (adapted k n).start = n.start := by
  unfold adapted asParameter
  split_ifs <;> rfl

@[simp] theorem adapted_stop (k : Kind) (n : Node) : (adapted k n).stop = n.stop := by
  unfold adapted asParameter
  split_ifs <;> rfl

/-- Only the key of a class field plays another part. -/
theorem adapted_field {k : Kind} (hk : k ≠ .fieldDefinition) (n : Node) :
    (adapted k n).field = n.field := by
  have hfield : (k == .fieldDefinition) = false := by simpa using hk
  unfold adapted asParameter
  simp only [hfield, Bool.false_and, Bool.false_eq_true, if_false]
  split_ifs <;> rfl

theorem isProper_adapted (k : Kind) (n : Node) : (adapted k n).isProper = n.isProper := by
  unfold adapted
  split_ifs with hparameter hkey hname
  · have hproper : n.isProper = true := by simp_all
    rw [hproper]
    unfold asParameter
    split_ifs <;> rfl
  · rfl
  · have hkind : n.kind = .identifier := by simp_all
    unfold isProper isNamed isComment
    rw [hkind]
    rfl
  · rfl

/-- The node by itself, whatever part it plays. -/
def alone (n : Node) : Node := { n with field := none }

/-- A node and what becomes of it in the dialect with types, whatever part it
plays there. -/
structure Counterpart (n n' : Node) : Prop where
  kind : n'.kind = n.kind.typed
  start : n'.start = n.start
  stop : n'.stop = n.stop
  children : n'.children = n.children.map fun c => adapted n.kind c.typed

theorem counterpart_typed (n : Node) : Counterpart n n.typed :=
  ⟨n.typed_kind, n.typed_start, n.typed_stop, n.typed_children⟩

end Node

namespace Node.Counterpart

variable {n n' : Node} {src : Source}

theorem withField (h : Counterpart n n') (f : Option Field) :
    Counterpart n { n' with field := f } :=
  ⟨h.kind, h.start, h.stop, h.children⟩

theorem alone_eq (h : Counterpart n n') : n'.alone = n.typed.alone := by
  unfold alone
  rw [h.kind, h.start, h.stop, h.children, typed_kind, typed_start, typed_stop, typed_children]

theorem ask (h : Counterpart n n') {α : Sort _} (ask : Kind → α)
    (hask : ask .publicFieldDefinition = ask .fieldDefinition) : ask n'.kind = ask n.kind := by
  rw [h.kind]
  exact Kind.ask_typed ask hask n.kind

theorem text_eq (h : Counterpart n n') : src.text n' = src.text n := by
  unfold Source.text
  rw [h.start, h.stop]

theorem span_eq (h : Counterpart n n') : n'.span = n.span := by
  unfold span
  rw [h.start, h.stop]

theorem startLine_eq (h : Counterpart n n') : n'.startLine = n.startLine := by
  unfold startLine
  rw [h.start]

theorem stopLine_eq (h : Counterpart n n') : n'.stopLine = n.stopLine := by
  unfold stopLine
  rw [h.stop]

theorem children_eq_map_typed (h : Counterpart n n') (hk : n.kind.adapts = false) :
    n'.children = n.children.map typed := by
  rw [h.children]
  exact List.map_congr_left fun c _ => adapted_of_not_adapts hk c.typed

theorem child?_eq_map (h : Counterpart n n') (hk : n.kind ≠ .fieldDefinition) (f : Field) :
    n'.child? f = (n.child? f).map fun c => adapted n.kind c.typed := by
  have hpart : ((fun c : Node => c.field == some f) ∘ fun c : Node => adapted n.kind c.typed) =
      fun c : Node => c.field == some f := by
    funext c
    simp [adapted_field hk]
  unfold child?
  rw [h.children, List.find?_map, hpart]

theorem child?_eq_map_typed (h : Counterpart n n') (hk : n.kind.adapts = false) (f : Field) :
    n'.child? f = (n.child? f).map typed := by
  have hfield : n.kind ≠ .fieldDefinition := by
    intro hkind
    rw [hkind] at hk
    cases hk
  rw [h.child?_eq_map hfield]
  congr 1
  funext c
  exact adapted_of_not_adapts hk c.typed

theorem properChildren_eq_map (h : Counterpart n n') :
    n'.properChildren = n.properChildren.map fun c => adapted n.kind c.typed := by
  have hkept : (isProper ∘ fun c => adapted n.kind c.typed) = isProper := by
    funext c
    simp [isProper_adapted, isProper_typed]
  rw [properChildren_eq_filter, properChildren_eq_filter, h.children, List.filter_map, hkept]

theorem bare?_typed (n : Node) : n.typed.bare? = n.bare?.map typed := by
  induction n using tree_induction with
  | step n ih =>
      have h := n.counterpart_typed
      rw [bare?_eq, bare?_eq, h.ask (· == .parenthesized) rfl]
      split
      · rename_i hkind
        have hplain : n.kind.adapts = false := by
          rw [eq_of_beq hkind]
          rfl
        have hsame : (fun c : Node => adapted n.kind c.typed) = typed := by
          funext c
          exact adapted_of_not_adapts hplain c.typed
        rw [h.properChildren_eq_map, hsame, List.head?_map]
        cases hhead : n.properChildren.head? with
        | none => rfl
        | some first => exact ih first (mem_children_of_head? hhead)
      · rfl

theorem bareChild_eq_map_typed (h : Counterpart n n') (hk : n.kind.adapts = false) (f : Field) :
    (n'.child? f).bind bare? = ((n.child? f).bind bare?).map typed := by
  rw [h.child?_eq_map_typed hk]
  cases n.child? f with
  | none => rfl
  | some c => exact bare?_typed c

/-! Names of declarations. -/

theorem declaredName_eq (h : Counterpart n n') (hk : n.kind ≠ .fieldDefinition) :
    n'.declaredName src = n.declaredName src := by
  unfold declaredName
  rw [h.child?_eq_map hk]
  cases n.child? .name with
  | none => rfl
  | some name => simp [Source.text?, Source.text]

theorem declaredName_of_not_adapts (h : Counterpart n n') (hk : n.kind.adapts = false) :
    n'.declaredName src = n.declaredName src := by
  apply h.declaredName_eq
  intro hkind
  rw [hkind] at hk
  cases hk

theorem declaratorName_eq (h : Counterpart n n') (hk : n.kind = .variableDeclarator) :
    n'.declaratorName src = n.declaratorName src := by
  have hplain : n.kind.adapts = false := by
    rw [hk]
    rfl
  unfold declaratorName
  rw [h.child?_eq_map_typed hplain]
  cases n.child? .name with
  | none => rfl
  | some name =>
      have hname := name.counterpart_typed
      simp only [Option.map_some, hname.ask (· == .identifier) rfl, hname.text_eq]

theorem declaratorFunction?_eq (h : Counterpart n n') (hk : n.kind = .variableDeclarator) :
    n'.declaratorFunction? = n.declaratorFunction?.map typed := by
  have hplain : n.kind.adapts = false := by
    rw [hk]
    rfl
  unfold declaratorFunction?
  rw [h.bareChild_eq_map_typed hplain]
  cases (n.child? .value).bind bare? with
  | none => rfl
  | some value =>
      change (if value.typed.kind.isFunctionValue then some value.typed else none) = _
      rw [value.counterpart_typed.ask Kind.isFunctionValue rfl]
      by_cases hvalue : value.kind.isFunctionValue <;> simp [hvalue]

theorem declares_eq (h : Counterpart n n') (name : String) :
    n'.declares src name = n.declares src name := by
  unfold declares
  rw [h.ask (fun k => k.isFunctionDeclaration || k.isClassDeclaration) rfl,
    h.ask (· == .variableDeclarator) rfl]
  split
  · rename_i hkind
    rw [Bool.or_eq_true] at hkind
    rcases hkind with hfunction | hclass
    · rw [h.declaredName_of_not_adapts (Kind.adapts_eq_false (.inl hfunction))]
    · rw [h.declaredName_eq (Kind.ne_of_isClassDeclaration hclass)]
  · by_cases hkind : n.kind = .variableDeclarator
    · rw [h.declaratorName_eq hkind, h.declaratorFunction?_eq hkind, Option.isSome_map]
    · have hother : (n.kind == .variableDeclarator) = false := by simpa using hkind
      simp [hother]

/-! The names that statements bind and give out. -/

theorem declarators_eq_map (h : Counterpart n n') (hk : n.kind.adapts = false) :
    n'.namedChildren.filter (·.kind == .variableDeclarator) =
      (n.namedChildren.filter (·.kind == .variableDeclarator)).map typed := by
  have hnamed : (isNamed ∘ typed) = isNamed := by
    funext c
    exact c.counterpart_typed.ask Kind.isNamed rfl
  have hdeclarator : ((fun c : Node => c.kind == .variableDeclarator) ∘ typed) =
      fun c => c.kind == .variableDeclarator := by
    funext c
    exact c.counterpart_typed.ask (· == .variableDeclarator) rfl
  unfold namedChildren
  rw [h.children_eq_map_typed hk, List.filter_map, hnamed, List.filter_map, hdeclarator]

theorem boundNames_eq (h : Counterpart n n') (hk : n.kind.adapts = false) :
    n'.boundNames src = n.boundNames src := by
  unfold boundNames
  rw [h.declarators_eq_map hk, List.map_map]
  congr 1
  apply List.map_congr_left
  intro c hc
  have hkind : c.kind = .variableDeclarator := by simpa using (List.mem_filter.mp hc).2
  exact c.counterpart_typed.declaratorName_eq hkind

theorem exportedNames_eq (h : Counterpart n n') (hk : n.kind = .exportStatement) :
    n'.exportedNames src = n.exportedNames src := by
  have hplain : n.kind.adapts = false := by
    rw [hk]
    rfl
  have hdefault : ((fun c : Node => c.kind == .token "default") ∘ typed) =
      fun c => c.kind == .token "default" := by
    funext c
    exact c.counterpart_typed.ask (· == .token "default") rfl
  unfold exportedNames
  rw [h.children_eq_map_typed hplain, List.any_map, hdefault, h.child?_eq_map_typed hplain]
  cases n.child? .declaration with
  | none => rfl
  | some d =>
      have hd := d.counterpart_typed
      simp only [Option.map_some, hd.ask Kind.isFunctionDeclaration rfl,
        hd.ask Kind.isVariableDeclaration rfl]
      by_cases hfunction : d.kind.isFunctionDeclaration
      · have hname : d.typed.declaredName src = d.declaredName src :=
          hd.declaredName_of_not_adapts (Kind.adapts_eq_false (.inl hfunction))
        simp [hfunction, hname]
      · by_cases hvariable : d.kind.isVariableDeclaration
        · have hbound : d.typed.boundNames src = d.boundNames src :=
            hd.boundNames_eq (Kind.adapts_eq_false (.inr (.inr hvariable)))
          simp [hfunction, hvariable, hbound]
        · simp [hfunction, hvariable]

theorem functionNames_eq (h : Counterpart n n') : n'.functionNames src = n.functionNames src := by
  unfold functionNames
  rw [h.ask Kind.isFunctionDeclaration rfl]
  by_cases hkind : n.kind.isFunctionDeclaration
  · rw [h.declaredName_of_not_adapts (Kind.adapts_eq_false (.inl hkind))]
  · simp [hkind]

theorem classNames_eq (h : Counterpart n n') : n'.classNames src = n.classNames src := by
  unfold classNames
  rw [h.ask Kind.isClassDeclaration rfl]
  by_cases hkind : n.kind.isClassDeclaration
  · rw [h.declaredName_eq (Kind.ne_of_isClassDeclaration hkind)]
  · simp [hkind]

theorem variableNames_eq (h : Counterpart n n') : n'.variableNames src = n.variableNames src := by
  unfold variableNames
  rw [h.ask Kind.isVariableDeclaration rfl]
  by_cases hkind : n.kind.isVariableDeclaration
  · rw [h.boundNames_eq (Kind.adapts_eq_false (.inr (.inr hkind)))]
  · simp [hkind]

theorem exportNames_eq (h : Counterpart n n') : n'.exportNames src = n.exportNames src := by
  unfold exportNames
  rw [h.ask (· == .exportStatement) rfl]
  by_cases hkind : n.kind = .exportStatement
  · rw [h.exportedNames_eq hkind]
  · have hother : (n.kind == .exportStatement) = false := by simpa using hkind
    simp [hother]

/-! Calls. -/

theorem callee?_eq (h : Counterpart n n') (hk : n.kind = .callExpression) :
    n'.callee? = n.callee?.map typed := by
  apply h.bareChild_eq_map_typed
  rw [hk]
  rfl

theorem calleeName_eq (h : Counterpart n n') (hk : n.kind = .callExpression) :
    n'.calleeName src = n.calleeName src := by
  unfold calleeName
  rw [h.callee?_eq hk]
  cases n.callee? with
  | none => rfl
  | some fn =>
      have hfn := fn.counterpart_typed
      simp only [Option.map_some, hfn.ask (· == .identifier) rfl, hfn.text_eq,
        hfn.ask (· == .memberExpression) rfl]
      by_cases hmember : fn.kind = .memberExpression
      · have hplain : fn.kind.adapts = false := by
          rw [hmember]
          rfl
        rw [hfn.child?_eq_map_typed hplain, hfn.bareChild_eq_map_typed hplain]
        cases fn.child? .property with
        | none => rfl
        | some property =>
            have hproperty := property.counterpart_typed
            simp only [Option.map_some, hproperty.ask (· != .propertyIdentifier) rfl,
              hproperty.text_eq]
            cases (fn.child? .object).bind bare? with
            | none => rfl
            | some object =>
                have hobject := object.counterpart_typed
                simp only [Option.map_some, hobject.ask (· == .identifier) rfl, hobject.text_eq]
      · have hother : (fn.kind == .memberExpression) = false := by simpa using hmember
        simp [hother]

theorem callsSymbol_eq (h : Counterpart n n') (hk : n.kind = .callExpression) (name : String) :
    n'.callsSymbol src name = n.callsSymbol src name := by
  unfold callsSymbol
  rw [h.callee?_eq hk]
  cases n.callee? with
  | none => rfl
  | some fn =>
      have hfn := fn.counterpart_typed
      simp only [Option.map_some, hfn.ask (· == .identifier) rfl, hfn.text_eq,
        hfn.ask (· == .memberExpression) rfl]
      by_cases hmember : fn.kind = .memberExpression
      · have hplain : fn.kind.adapts = false := by
          rw [hmember]
          rfl
        rw [hfn.child?_eq_map_typed hplain]
        cases fn.child? .property with
        | none => rfl
        | some property =>
            have hproperty := property.counterpart_typed
            simp only [Option.map_some, hproperty.ask (· == .propertyIdentifier) rfl,
              hproperty.text_eq]
      · have hother : (fn.kind == .memberExpression) = false := by simpa using hmember
        simp [hother]

end Node.Counterpart

end BundleAtlas
