import BundleAtlas.Bundle.Unit
import BundleAtlas.Symbol.Declaration
import BundleAtlas.Text.Piece

/-!
The call graph around a symbol: the calls that its declaration makes, and the calls elsewhere that
name it.
-/

namespace BundleAtlas

/-- A call that a declaration makes. -/
structure OutgoingCall where
  name : String
  line : Nat
deriving Repr, DecidableEq, Inhabited

/-- A call of a symbol, and the function it stands in. -/
structure IncomingCall where
  callerUnitId : String
  callerName : String
  line : Nat
deriving Repr, DecidableEq, Inhabited

/-- The calls around a symbol of a unit. -/
structure CallGraph where
  symbol : String
  unitId : String
  /-- whether the unit declares the symbol -/
  declared : Bool := false
  outgoing : List OutgoingCall := []
  incoming : List IncomingCall := []
  skipped : List Skipped := []
deriving Repr, DecidableEq, Inhabited

/-- The label of code outside all functions. -/
def topLevel : String := "(top-level)"

/-- The label of a function without a name of its own. -/
def anonymous : String := "(anonymous function)"

namespace Node

/-- Whether a node declares a function, a class, or a variable that holds a function, under the
given name. -/
def declares (src : Source) (name : String) (n : Node) : Bool :=
  if n.kind.isFunctionDeclaration || n.kind.isClassDeclaration then n.declaredName src == name
  else n.kind == .variableDeclarator && n.declaratorName src == name &&
    n.declaratorFunction?.isSome

/-- The first declaration of a name below a node. -/
def findDeclaration? (src : Source) (name : String) (root : Node) : Option Node :=
  (root.walk.map (·.node)).find? (declares src name)

/-- A view of the first declaration of a name is the first such view on the walk. -/
theorem map_findDeclaration? {β : Type} (src : Source) (root : Node) (name : String)
    (view : Node → β) :
    (root.findDeclaration? src name).map view =
      root.walk.findSome? fun s =>
        if s.node.declares src name then some (view s.node) else none := by
  unfold findDeclaration?
  induction root.walk with
  | nil => rfl
  | cons s sites ih =>
      rw [List.map_cons, List.find?_cons, List.findSome?_cons]
      by_cases hdeclares : s.node.declares src name
      · simp [hdeclares]
      · simp only [hdeclares, Bool.false_eq_true, if_false]
        exact ih

/-- What a call calls, through parentheses. -/
def callee? (call : Node) : Option Node := (call.child? .function).bind bare?

/-- How the callee of a call is shown: a name, or a member with or without the name of its object.
Other callees are not shown. -/
def calleeName (src : Source) (call : Node) : String :=
  match call.callee? with
  | none => ""
  | some fn =>
    if fn.kind == .identifier then src.text fn
    else if fn.kind == .memberExpression then
      match fn.child? .property with
      | none => ""
      | some property =>
        if property.kind != .propertyIdentifier then ""
        else match (fn.child? .object).bind bare? with
          | some object =>
            if object.kind == .identifier then src.text object ++ "." ++ src.text property
            else "." ++ src.text property
          | none => "." ++ src.text property
    else ""

/-- Whether a call calls the given name, as a function or as a member of some object. -/
def callsSymbol (src : Source) (name : String) (call : Node) : Bool :=
  match call.callee? with
  | none => false
  | some fn =>
    if fn.kind == .identifier then src.text fn == name
    else if fn.kind == .memberExpression then
      match fn.child? .property with
      | none => false
      | some property => property.kind == .propertyIdentifier && src.text property == name
    else false

/-- The label of a member of a class, by its key. -/
def keyLabel (src : Source) : Option Node → String
  | some key => if key.kind.isMemberName then src.text key else anonymous
  | none => anonymous

/-- A name, or the label of a function without one. -/
def nameOrAnonymous (name : String) : String := if name.isEmpty then anonymous else name

/-- The calls that a declaration makes, in the order of the walk. -/
def outgoingCalls (src : Source) (declaration : Node) : List OutgoingCall :=
  declaration.walk.filterMap fun s =>
    if s.node.kind == .callExpression then
      let name := s.node.calleeName src
      if name.isEmpty then none else some ⟨name, s.node.startLine⟩
    else none

end Node

namespace Site

/-- The label of a function. -/
def functionLabel (src : Source) (fn : Site) : String :=
  if fn.node.kind.isFunctionDeclaration then Node.nameOrAnonymous (fn.node.declaredName src)
  else match fn.parent? with
    | none => anonymous
    | some parent =>
      if fn.node.kind == .methodDefinition then
        if parent.kind == .classBody then Node.keyLabel src (fn.node.child? .name) else anonymous
      else if parent.kind == .variableDeclarator then
        Node.nameOrAnonymous (parent.declaratorName src)
      else if parent.kind.isClassField then
        Node.keyLabel src ((parent.child? .property).or (parent.child? .name))
      else anonymous

/-- The label of the function that a call stands in. -/
def callerLabel (src : Source) (s : Site) : String :=
  match s.enclosing? with
  | none => topLevel
  | some fn => fn.functionLabel src

end Site

/-- The calls of a name in a unit, in the order of the walk. -/
def incomingCalls (unitId : String) (p : Parsed) (name : String) : List IncomingCall :=
  p.root.walk.filterMap fun s =>
    if s.node.kind == .callExpression && s.node.callsSymbol p.source name then
      some ⟨unitId, s.callerLabel p.source, s.node.startLine⟩
    else none

namespace CallGraph

/-- The units that may call a symbol: all whose text mentions it, or the target alone. -/
def candidates (s : Snapshot) (symbol : String) (target : Piece) (everywhere : Bool) : List Piece :=
  if everywhere then s.units.filter fun u => Text.occursIn symbol u.text else [target]

/-- What came of reading units so far: what each of them is, by its id, and those that could not be
read, in their order. -/
structure Memo where
  parsed : List (String × Option Parsed) := []
  skipped : List Skipped := []

/-- What a unit is read as. It is read if it was not before; what came of it is kept, also if it
could not be read. -/
def Memo.get (parse : Parse) (m : Memo) (u : Piece) : Option Parsed × Memo :=
  match m.parsed.lookup u.id with
  | some found => (found, m)
  | none => match parse u.text with
    | .ok p => (some p, { m with parsed := (u.id, some p) :: m.parsed })
    | .error e => (none, ⟨(u.id, none) :: m.parsed, m.skipped ++ [⟨u.id, e.text⟩]⟩)

/-- The calls of a name in units, one unit after the other. -/
def gather (parse : Parse) (symbol : String) : Memo → List Piece → List IncomingCall × Memo
  | m, [] => ([], m)
  | m, u :: us =>
    let (found, m) := m.get parse u
    let calls := match found with
      | some p => incomingCalls u.id p symbol
      | none => []
    let (further, m) := gather parse symbol m us
    (calls ++ further, m)

/-- The calls that the declaration of a name makes, if there is one. -/
def outgoing? (p : Parsed) (symbol : String) : Option (List OutgoingCall) :=
  (p.root.findDeclaration? p.source symbol).map (·.outgoingCalls p.source)

/-- The calls around a symbol: those of its declaration in the target unit, and those that name it
in the target or, everywhere, in all units that mention it. -/
def build (parse : Parse) (s : Snapshot) (symbol unitId : String) (everywhere : Bool) :
    Except Fault CallGraph :=
  match s.get? unitId with
  | none => .error (Failure.unitNotFound unitId)
  | some target =>
    let (found, memo) := Memo.get parse {} target
    let outgoing := found.bind (outgoing? · symbol)
    let (incoming, memo) := gather parse symbol memo (candidates s symbol target everywhere)
    .ok { symbol, unitId
          declared := outgoing.isSome
          outgoing := Text.distinct (outgoing.getD [])
          incoming := Text.distinct incoming
          skipped := memo.skipped }

end CallGraph

end BundleAtlas
