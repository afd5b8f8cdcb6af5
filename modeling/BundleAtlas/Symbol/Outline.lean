import BundleAtlas.Symbol.Declaration
import BundleAtlas.Text.Piece

/-!
The outline of a document: the names of its functions, classes and exports, and how many functions
and variables it has.
-/

namespace BundleAtlas

/-- The outline of a document. -/
structure Outline where
  functions : List String
  classes : List String
  exports : List String
  totalFunctions : Nat
  totalVariables : Nat
deriving Repr, DecidableEq, Inhabited

namespace Node

/-- The plain names that a declaration statement binds. -/
def boundNames (src : Source) (n : Node) : List String :=
  ((n.namedChildren.filter (·.kind == .variableDeclarator)).map (declaratorName src)).filter
    (!·.isEmpty)

/-- The names that an export gives out by a declaration; a default export has none. -/
def exportedNames (src : Source) (n : Node) : List String :=
  if n.children.any (·.kind == .token "default") then []
  else match n.child? .declaration with
    | none => []
    | some d =>
      if d.kind.isFunctionDeclaration then [d.declaredName src].filter (!·.isEmpty)
      else if d.kind.isVariableDeclaration then d.boundNames src
      else []

/-- The name of a function declaration, as a list of at most one. -/
def functionNames (src : Source) (n : Node) : List String :=
  if n.kind.isFunctionDeclaration then [n.declaredName src].filter (!·.isEmpty) else []

/-- The name of a class declaration, as a list of at most one. -/
def classNames (src : Source) (n : Node) : List String :=
  if n.kind.isClassDeclaration then [n.declaredName src].filter (!·.isEmpty) else []

/-- The names that a node binds as variables. -/
def variableNames (src : Source) (n : Node) : List String :=
  if n.kind.isVariableDeclaration then n.boundNames src else []

/-- The names that a node exports. -/
def exportNames (src : Source) (n : Node) : List String :=
  if n.kind == .exportStatement then n.exportedNames src else []

end Node

/-- The outline of a document with nothing cut off. -/
def Parsed.outline (p : Parsed) : Outline :=
  let nodes := p.root.walk.map (·.node)
  let functions := nodes.flatMap (Node.functionNames p.source)
  ⟨functions, nodes.flatMap (Node.classNames p.source), nodes.flatMap (Node.exportNames p.source),
    functions.length, (nodes.flatMap (Node.variableNames p.source)).length⟩

/-- The outline with its lists cut to a limit; a negative one leaves off names at the end. -/
def Outline.cut (limit : Option Int) (o : Outline) : Outline :=
  match limit with
  | none => o
  | some n => { o with
      functions := Text.slice n o.functions
      classes := Text.slice n o.classes
      exports := Text.slice n o.exports }

/-- What an outline tells its reader to do next. -/
def Outline.advice : String :=
  "Summary generated. Use get_module or get_symbol_source for specific parts."

/-- The outline of a text, cut to a limit. -/
def analyzeStructure (parse : Parse) (text : String) (limit : Option Int) :
    Except Fault Outline := do
  let p ← parse text
  return p.outline.cut limit

end BundleAtlas
