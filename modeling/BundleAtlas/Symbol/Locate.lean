import BundleAtlas.Symbol.Declaration

/-!
Finding where a name is declared: the first function, class, variable or loop binding of that name
on a walk through the document.
-/

namespace BundleAtlas

/-- A declaration that was asked for: its name, what it is, where it stands, and its text. -/
structure SymbolSpan where
  name : String
  kind : String
  span : Span
  text : String
deriving Repr, DecidableEq, Inhabited

namespace Site

/-- The span of a declarator. A statement with a single declarator is taken whole; of several only
the one asked for is shown, behind the keyword. -/
def declarationSpan (src : Source) (name : String) (s : Site) : SymbolSpan :=
  let alone : SymbolSpan := ⟨name, "variable", s.node.span, src.text s.node⟩
  match s.parent? with
  | none => alone
  | some statement =>
    if !statement.kind.isVariableDeclaration then alone
    else if (statement.namedChildren.filter (·.kind == .variableDeclarator)).length == 1 then
      ⟨name, "variable", statement.span, src.text statement⟩
    else ⟨name, "variable", s.node.span, s.keyword src ++ " " ++ src.text s.node ++ ";"⟩

/-- The span of the binding of a loop: from its keyword to its name. -/
def loopSpan (src : Source) (name : String) (kind left : Node) : SymbolSpan :=
  ⟨name, "variable", ⟨kind.span.startLine, kind.span.startColumn, left.span.stopLine,
    left.span.stopColumn⟩, src.text kind ++ " " ++ src.text left⟩

/-- The declaration of a name at a site, if the site is one. -/
def symbol? (src : Source) (name : String) (s : Site) : Option SymbolSpan :=
  if s.node.kind.isFunctionDeclaration || s.node.kind.isClassDeclaration then
    if s.node.declaredName src == name then
      some ⟨name, if s.node.kind.isClassDeclaration then "class" else "function", s.node.span,
        src.text s.node⟩
    else none
  else if s.node.kind == .variableDeclarator then
    if s.node.declaratorName src == name then some (s.declarationSpan src name) else none
  else if s.node.kind == .forIn then
    match s.node.child? .kind, s.node.child? .left with
    | some kind, some left =>
      if left.kind == .identifier && src.text left == name then some (loopSpan src name kind left)
      else none
    | _, _ => none
  else none

end Site

/-- The first declaration of a name in a document. -/
def Parsed.findSymbol (p : Parsed) (name : String) : Except Fault SymbolSpan :=
  match p.root.walk.findSome? (Site.symbol? p.source name) with
  | some found => .ok found
  | none => .error (Failure.symbolNotFound name)

end BundleAtlas
