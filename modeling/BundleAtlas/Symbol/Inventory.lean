import BundleAtlas.Bundle.Unit
import BundleAtlas.Symbol.Declaration
import BundleAtlas.Text.Piece

/-!
The inventory of a bundle: its functions, classes and variables that hold a function, with their
signatures.
-/

namespace BundleAtlas

/-- What a symbol of the inventory is. -/
inductive SymbolKind where
  | functionDecl
  | classDecl
  | variableFunction
deriving Repr, DecidableEq, Inhabited

/-- The word for a kind of symbol. -/
def SymbolKind.name : SymbolKind → String
  | functionDecl => "function"
  | classDecl => "class"
  | variableFunction => "variable_function"

/-- A symbol of the inventory. -/
structure SymbolEntry where
  unitId : String
  unitPath : String
  name : String
  kind : SymbolKind
  startLine : Nat
  lineCount : Nat
  parameters : List String
  signature : String
deriving Repr, DecidableEq, Inhabited

/-- How a parameter that takes a value apart is shown. -/
def destructured : String := "\x7bdestructured\x7d"

namespace Node

mutual

/-- How a parameter is shown: its name, with a mark when it may be left out. -/
def renderParameter (src : Source) : Node → String
  | ⟨k, f, start, stop, cs⟩ =>
    let n : Node := ⟨k, f, start, stop, cs⟩
    match k with
    | .identifier => src.text n
    | .objectPattern | .arrayPattern => destructured
    | .assignmentPattern => match n.child? .left with
      | some left => if left.kind == .identifier then src.text left ++ "?" else destructured
      | none => destructured
    | .restPattern => "..." ++ renderRest src cs
    | .requiredParameter => match renderPattern src cs with
      | none => src.text n
      | some shown => if shown != destructured && (n.child? .value).isSome then shown ++ "?"
        else shown
    | .optionalParameter => match renderPattern src cs with
      | none => src.text n
      | some shown => if shown != destructured then shown ++ "?" else shown
    | _ => src.text n

/-- How the first construct among some nodes is shown. -/
def renderRest (src : Source) : List Node → String
  | [] => ""
  | c :: cs => if c.isNamed && !c.isComment then renderParameter src c else renderRest src cs

/-- How the pattern among some nodes is shown, if there is one. -/
def renderPattern (src : Source) : List Node → Option String
  | [] => none
  | c :: cs => if c.field == some .pattern then some (renderParameter src c)
    else renderPattern src cs

end

/-- How the parameters of a function are shown. -/
def renderParameters (src : Source) (fn : Node) : List String :=
  fn.parameterNodes.map (renderParameter src)

/-- The word before an asynchronous function. -/
def asyncWord (fn : Node) : String := if fn.isAsync then "async " else ""

/-- The mark of a generator. -/
def star (fn : Node) : String := if fn.kind.isGenerator then "*" else ""

/-- The signature of a function declaration. -/
def functionSignature (fn : Node) (name : String) (params : List String) : String :=
  fn.asyncWord ++ "function" ++ fn.star ++ " " ++ name ++ "(" ++ ", ".intercalate params ++ ")"

/-- The signature of a variable that holds a function. -/
def variableSignature (keyword : String) (fn : Node) (name : String) (params : List String) :
    String :=
  let joined := ", ".intercalate params
  if fn.kind == .arrowFunction then
    keyword ++ " " ++ name ++ " = " ++ fn.asyncWord ++ "(" ++ joined ++ ") => ..."
  else
    keyword ++ " " ++ name ++ " = " ++ fn.asyncWord ++ "function" ++ fn.star ++ "(" ++ joined ++
      ") ..."

end Node

namespace Site

/-- An entry for a declaration at a site. -/
def entry (unit : Piece) (s : Site) (name : String) (kind : SymbolKind) (params : List String)
    (signature : String) : SymbolEntry :=
  ⟨unit.id, unit.path, name, kind, s.node.startLine, s.node.stopLine - s.node.startLine + 1, params,
    signature⟩

/-- The entry of a site, if it declares a symbol. -/
def entry? (unit : Piece) (src : Source) (s : Site) : Option SymbolEntry :=
  if s.node.kind.isFunctionDeclaration then
    let name := s.node.declaredName src
    if name.isEmpty then none
    else
      let params := s.node.renderParameters src
      some (s.entry unit name .functionDecl params (s.node.functionSignature name params))
  else if s.node.kind.isClassDeclaration then
    let name := s.node.declaredName src
    if name.isEmpty then none else some (s.entry unit name .classDecl [] ("class " ++ name))
  else if s.node.kind == .variableDeclarator then
    let name := s.node.declaratorName src
    if name.isEmpty then none
    else match s.node.declaratorFunction? with
      | some fn =>
        let params := fn.renderParameters src
        some (s.entry unit name .variableFunction params
          (Node.variableSignature (s.keyword src) fn name params))
      | none => none
  else none

end Site

/-- The symbols of a unit in the order of the walk. -/
def collectSymbols (unit : Piece) (p : Parsed) : List SymbolEntry :=
  p.root.walk.filterMap (Site.entry? unit p.source)

/-- What a scan over several units gives. -/
structure Inventory where
  symbols : List SymbolEntry
  skipped : List Skipped
deriving Repr, DecidableEq, Inhabited

/-- Scans units in order and stops before a unit once there are enough symbols. -/
def scanFrom (parse : Parse) (limit : Option Int) (found : Inventory) : List Piece → Inventory
  | [] => found
  | u :: us =>
    if limit.any (fun n => n ≤ (found.symbols.length : Int)) then found
    else match parse u.text with
      | .ok p => scanFrom parse limit
          { found with symbols := found.symbols ++ collectSymbols u p } us
      | .error e => scanFrom parse limit
          { found with skipped := found.skipped ++ [⟨u.id, e.text⟩] } us

/-- The symbols of some units, at most `limit` of them, and the units that could not be read. -/
def scanSymbols (parse : Parse) (units : List Piece) (limit : Option Int) : Inventory :=
  let found := scanFrom parse limit ⟨[], []⟩ units
  match limit with
  | some n => { found with symbols := found.symbols.take n.toNat }
  | none => found

end BundleAtlas
