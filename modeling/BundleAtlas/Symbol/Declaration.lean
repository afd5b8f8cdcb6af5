import BundleAtlas.Parsed
import BundleAtlas.Tree.Walk

/-!
Reading declarations off a tree: the names they bind, the functions they hold, and the function
that a node belongs to.
-/

namespace BundleAtlas

/-- Where a node stands: first and last line and byte column, all counted from one. -/
structure Span where
  startLine : Nat
  startColumn : Nat
  stopLine : Nat
  stopColumn : Nat
deriving Repr, DecidableEq, Inhabited

namespace Node

/-- The span of a node. -/
def span (n : Node) : Span :=
  ⟨n.start.row + 1, n.start.column + 1, n.stop.row + 1, n.stop.column + 1⟩

/-- The name that a declarator binds; one that takes a value apart has the empty name. -/
def declaratorName (src : Source) (n : Node) : String :=
  match n.child? .name with
  | some name => if name.kind == .identifier then src.text name else ""
  | none => ""

/-- The function that a declarator has as its value, through parentheses. -/
def declaratorFunction? (n : Node) : Option Node :=
  match (n.child? .value).bind bare? with
  | some value => if value.kind.isFunctionValue then some value else none
  | none => none

/-- The name of a function or class declaration; one without a name has the empty name. -/
def declaredName (src : Source) (n : Node) : String := src.text? (n.child? .name)

/-- The parameters of a function. -/
def parameterNodes (fn : Node) : List Node :=
  match fn.child? .parameter with
  | some single => [single]
  | none => match fn.child? .parameters with
    | some list => list.properChildren
    | none => []

/-- Whether a function starts with the word for asynchronous ones. -/
def isAsync (fn : Node) : Bool :=
  match fn.children with
  | c :: _ => c.kind == .token "async"
  | [] => false

end Node

namespace Site

/-- The keyword of the declaration that a declarator stands in. -/
def keyword (src : Source) (s : Site) : String :=
  match s.parent? with
  | some p => if p.kind.isVariableDeclaration then
      match p.children with
      | c :: _ => src.text c
      | [] => "const"
    else "const"
  | none => "const"

/-- The innermost function around a site, with its own ancestors. -/
def enclosing? (s : Site) : Option Site :=
  go s.above
where
  /-- The nearest function among some ancestors. -/
  go : List Node → Option Site
    | [] => none
    | n :: above => if n.kind.isFunctionLike then some ⟨n, above⟩ else go above

end Site

end BundleAtlas
