import Mathlib.Data.List.Basic
import BundleAtlas.Proofs.Tree.Preorder
import BundleAtlas.Symbol.CallGraph

/-!
The function that a node stands in, found on the way down. A descent hands
every node the innermost function around it; the analyses look for it upwards,
along the ancestors of a site, and find the same. The label of a function
follows the rules of its name.
-/

namespace BundleAtlas

/-- A function that code can stand in, with the node around it. -/
structure Scope where
  fn : Node
  parent? : Option Node

namespace Scope

/-- The name of a function: what it declares, the key of a method of a class,
the variable it is the value of, or the key of the class field that holds it. -/
inductive HasName (src : Source) : Scope → String → Prop
  | ofDeclaration {fn : Node} {parent? : Option Node} (hkind : fn.kind.isFunctionDeclaration = true)
      (hname : fn.declaredName src ≠ "") : HasName src ⟨fn, parent?⟩ (fn.declaredName src)
  | ofMethod {fn body key : Node} (hkind : fn.kind = .methodDefinition)
      (hbody : body.kind = .classBody) (hkey : fn.child? .name = some key)
      (hkeyKind : key.kind.isMemberName = true) : HasName src ⟨fn, some body⟩ (src.text key)
  | ofVariable {fn declarator : Node} (hkind : fn.kind.isFunctionValue = true)
      (hdeclarator : declarator.kind = .variableDeclarator)
      (hname : declarator.declaratorName src ≠ "") :
      HasName src ⟨fn, some declarator⟩ (declarator.declaratorName src)
  | ofField {fn holder key : Node} (hkind : fn.kind.isFunctionValue = true)
      (hholder : holder.kind.isClassField = true)
      (hkey : (holder.child? .property).or (holder.child? .name) = some key)
      (hkeyKind : key.kind.isMemberName = true) : HasName src ⟨fn, some holder⟩ (src.text key)

end Scope

/-- How code names the function that it stands in. -/
inductive CallerLabel (src : Source) : Option Scope → String → Prop
  | topLevel : CallerLabel src none topLevel
  | named {scope : Scope} {name : String} (hname : scope.HasName src name) :
      CallerLabel src (some scope) name
  | anonymous {scope : Scope} (hname : ∀ name, ¬ scope.HasName src name) :
      CallerLabel src (some scope) anonymous

namespace Node

mutual

/-- The nodes of a tree from top to bottom and left to right, each with the
innermost function around it. -/
def descent (parent? : Option Node) (around : Option Scope) : Node → List (Node × Option Scope)
  | ⟨k, f, start, stop, cs⟩ =>
    let n : Node := ⟨k, f, start, stop, cs⟩
    (n, around) :: descentAll (some n) (if k.isFunctionLike then some ⟨n, parent?⟩ else around) cs

/-- The nodes of several trees that stand side by side. -/
def descentAll (parent? : Option Node) (around : Option Scope) :
    List Node → List (Node × Option Scope)
  | [] => []
  | n :: ns => descent parent? around n ++ descentAll parent? around ns

end

theorem descentAll_eq_flatMap (parent? : Option Node) (around : Option Scope) (ns : List Node) :
    descentAll parent? around ns = ns.flatMap (descent parent? around) := by
  induction ns with
  | nil => rfl
  | cons n ns ih => rw [descentAll, ih, List.flatMap_cons]

theorem descent_eq (parent? : Option Node) (around : Option Scope) (n : Node) :
    n.descent parent? around =
      (n, around) :: n.children.flatMap
        (descent (some n) (if n.kind.isFunctionLike then some ⟨n, parent?⟩ else around)) := by
  cases n
  rw [descent, descentAll_eq_flatMap]

end Node

/-- The site of a function as a scope. -/
def Site.toScope (fn : Site) : Scope := ⟨fn.node, fn.parent?⟩

/-- The innermost function around a site, found among its ancestors. -/
def Site.scope? (s : Site) : Option Scope := s.enclosing?.map toScope

theorem Site.scope?_below (n : Node) (above : List Node) (c : Node) :
    scope? ⟨c, n :: above⟩ =
      if n.kind.isFunctionLike then some ⟨n, above.head?⟩ else scope? ⟨n, above⟩ := by
  unfold scope? enclosing?
  rw [enclosing?.go]
  split
  · rfl
  · rfl

/-- The way down and the way up agree on the function around every node. -/
theorem Node.descent_eq_preorder (above : List Node) (n : Node) :
    n.descent above.head? (Site.scope? ⟨n, above⟩) =
      (n.preorder above).map fun s => (s.node, s.scope?) := by
  induction n using tree_induction generalizing above with
  | step n ih =>
      -- For a child the node itself is the nearest ancestor, and may be the function.
      rw [descent_eq, preorder_eq, List.map_cons, List.map_flatMap]
      refine congrArg _ (List.flatMap_congr fun c hc => ?_)
      rw [← ih c hc (n :: above), Site.scope?_below n above c]
      rfl

theorem Kind.of_isFunctionValue {k : Kind} (hvalue : k.isFunctionValue = true) :
    k.isFunctionDeclaration = false ∧ k ≠ .methodDefinition := by
  cases k <;> simp_all [isFunctionValue, isFunctionDeclaration]

theorem Kind.isFunctionValue_of_isFunctionLike {k : Kind} (hlike : k.isFunctionLike = true)
    (hdeclaration : k.isFunctionDeclaration = false) (hmethod : k ≠ .methodDefinition) :
    k.isFunctionValue = true := by
  simpa [isFunctionLike, hdeclaration, hmethod] using hlike

theorem Kind.ne_of_isClassField {k : Kind} (hfield : k.isClassField = true) :
    k ≠ .variableDeclarator := by
  rintro rfl
  cases hfield

theorem Node.nameOrAnonymous_of_ne {name : String} (hname : name ≠ "") :
    nameOrAnonymous name = name := by
  simp [nameOrAnonymous, hname]

theorem Node.nameOrAnonymous_eq (name : String) :
    name ≠ "" ∨ nameOrAnonymous name = anonymous := by
  by_cases hname : name = ""
  · exact Or.inr (by simp [nameOrAnonymous, hname])
  · exact Or.inl hname

theorem Node.keyLabel_eq (src : Source) (key? : Option Node) :
    (∃ key, key? = some key ∧ key.kind.isMemberName = true) ∨ keyLabel src key? = anonymous := by
  cases key? with
  | none => exact Or.inr rfl
  | some key =>
      cases hkind : key.kind.isMemberName with
      | true => exact Or.inl ⟨key, rfl, hkind⟩
      | false => exact Or.inr (by simp [keyLabel, hkind])

namespace Site

variable {src : Source} {fn : Site}

theorem functionLabel_of_hasName {name : String} (hname : fn.toScope.HasName src name) :
    fn.functionLabel src = name := by
  obtain ⟨n, above⟩ := fn
  change Scope.HasName src ⟨n, above.head?⟩ name at hname
  unfold functionLabel parent?
  generalize above.head? = parent? at hname
  cases hname with
  | ofDeclaration hkind hne => simp [hkind, Node.nameOrAnonymous_of_ne hne]
  | ofMethod hkind hbody hkey hkeyKind =>
      simp [hkind, hbody, hkey, hkeyKind, Node.keyLabel, Kind.isFunctionDeclaration]
  | ofVariable hkind hdeclarator hne =>
      obtain ⟨hdeclaration, hmethod⟩ := Kind.of_isFunctionValue hkind
      simp [hdeclaration, hmethod, hdeclarator, Node.nameOrAnonymous_of_ne hne]
  | ofField hkind hholder hkey hkeyKind =>
      obtain ⟨hdeclaration, hmethod⟩ := Kind.of_isFunctionValue hkind
      simp [hdeclaration, hmethod, Kind.ne_of_isClassField hholder, hholder, hkey, hkeyKind,
        Node.keyLabel]

theorem hasName_or_anonymous (hlike : fn.node.kind.isFunctionLike = true) :
    (∃ name, fn.toScope.HasName src name) ∨ fn.functionLabel src = anonymous := by
  obtain ⟨n, above⟩ := fn
  unfold functionLabel toScope parent?
  dsimp only at hlike ⊢
  generalize above.head? = parent?
  split
  · rename_i hkind
    rcases Node.nameOrAnonymous_eq (n.declaredName src) with hname | hnone
    · exact Or.inl ⟨_, .ofDeclaration hkind hname⟩
    · exact Or.inr hnone
  · rename_i hdeclaration
    rw [Bool.not_eq_true] at hdeclaration
    split
    · exact Or.inr rfl
    · rename_i parent
      split
      · rename_i hmethod
        split
        · rename_i hbody
          rcases Node.keyLabel_eq src (n.child? .name) with ⟨key, hkey, hkeyKind⟩ | hnone
          · exact Or.inl ⟨_, .ofMethod (by simpa using hmethod) (by simpa using hbody) hkey hkeyKind⟩
          · exact Or.inr hnone
        · exact Or.inr rfl
      · rename_i hmethod
        have hvalue : n.kind.isFunctionValue = true :=
          Kind.isFunctionValue_of_isFunctionLike hlike hdeclaration (by simpa using hmethod)
        split
        · rename_i hdeclarator
          rcases Node.nameOrAnonymous_eq (parent.declaratorName src) with hname | hnone
          · exact Or.inl ⟨_, .ofVariable hvalue (by simpa using hdeclarator) hname⟩
          · exact Or.inr hnone
        · split
          · rename_i hholder
            rcases Node.keyLabel_eq src ((parent.child? .property).or (parent.child? .name)) with
              ⟨key, hkey, hkeyKind⟩ | hnone
            · exact Or.inl ⟨_, .ofField hvalue hholder hkey hkeyKind⟩
            · exact Or.inr hnone
          · exact Or.inr rfl

theorem isFunctionLike_of_enclosing? {s scope : Site} (hscope : s.enclosing? = some scope) :
    scope.node.kind.isFunctionLike = true := by
  have hgo : ∀ above, enclosing?.go above = some scope →
      scope.node.kind.isFunctionLike = true := by
    intro above hfound
    induction above with
    | nil => cases hfound
    | cons n above ih =>
        rw [enclosing?.go] at hfound
        split at hfound
        · rename_i hlike
          cases hfound
          exact hlike
        · exact ih hfound
  exact hgo s.above hscope

/-- The label that is found for a site is the one that the rules give for the
innermost function around it. -/
theorem callerLabel_eq_iff {s : Site} {label : String} :
    s.callerLabel src = label ↔ CallerLabel src s.scope? label := by
  unfold callerLabel scope?
  cases hscope : s.enclosing? with
  | none =>
      constructor
      · rintro rfl
        exact .topLevel
      · intro h
        cases h
        rfl
  | some fn =>
      have hlike := isFunctionLike_of_enclosing? hscope
      constructor
      · rintro rfl
        by_cases hnamed : ∃ name, fn.toScope.HasName src name
        · obtain ⟨name, hname⟩ := hnamed
          simp only [functionLabel_of_hasName hname]
          exact .named hname
        · simp only [(hasName_or_anonymous hlike).resolve_left hnamed]
          exact .anonymous (not_exists.mp hnamed)
      · intro h
        cases h with
        | named hname => exact functionLabel_of_hasName hname
        | anonymous hnone =>
            exact (hasName_or_anonymous hlike).resolve_left (not_exists.mpr hnone)

end Site

end BundleAtlas
