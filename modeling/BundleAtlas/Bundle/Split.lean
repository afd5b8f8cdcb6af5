import BundleAtlas.Bundle.Unit
import BundleAtlas.Symbol.Declaration
import BundleAtlas.Text.Blank
import BundleAtlas.Text.Piece

/-!
Splitting a bundle into its modules. A bundle holds a table of factories: an array or an object
whose values are functions. The table is the first argument of the function that starts the bundle,
or the value of a variable with a known name.
-/

namespace BundleAtlas.Split

/-- The variable that holds the table of modules. -/
def tableVariable : String := "__webpack_modules__"

/-- Whether a function has something in its list of parameters. -/
def takesParameter (fn : Node) : Bool :=
  (fn.child? .parameter).isSome ||
    match fn.child? .parameters with
    | some list => !list.namedChildren.isEmpty
    | none => false

/-- The table that a call hands to the function it calls on the spot. -/
def bootstrapTable? (call : Node) : Option Node := do
  let fn ← (call.child? .function).bind Node.bare?
  guard (fn.kind.isFunctionValue && takesParameter fn)
  let arguments ← call.child? .arguments
  let value ← arguments.properChildren.head?
  let first ← value.bare?
  guard (first.kind == .array || first.kind == .object)
  return first

/-- The elements of an array with their indices: the index counts the commas before. -/
def arrayEntries (index : Nat) : List Node → List (String × Node)
  | [] => []
  | c :: cs =>
    if c.kind == .token "[" || c.kind == .token "]" || c.isComment then arrayEntries index cs
    else if c.kind == .token "," then arrayEntries (index + 1) cs
    else (toString index, c) :: arrayEntries index cs

/-- Puts a value under a key: a known key keeps its position. -/
def put (key : String) (value : Node) : List (String × Node) → List (String × Node)
  | [] => [(key, value)]
  | (k, v) :: rest => if k == key then (k, value) :: rest else (k, v) :: put key value rest

/-- The text of a key; a quoted one loses its quotes. -/
def keyText (src : Source) (key : Node) : String :=
  if key.kind == .string then Text.inner (src.text key) else src.text key

/-- The key and the value of a member of an object, if it is a pair. -/
def pair? (src : Source) (member : Node) : Option (String × Node) :=
  if member.kind == .pair then
    match member.child? .key, member.child? .value with
    | some key, some value => some (keyText src key, value)
    | _, _ => none
  else none

/-- The members of an object; nothing if one of them is no pair. -/
def objectEntries? (src : Source) (object : Node) : Option (List (String × Node)) := do
  let pairs ← object.properChildren.mapM (pair? src)
  return pairs.foldl (fun entries p => put p.1 p.2 entries) []

/-- The entries of a table. -/
def entries? (src : Source) (table : Node) : Option (List (String × Node)) :=
  if table.kind == .array then some (arrayEntries 0 table.children)
  else if table.kind == .object then objectEntries? src table
  else none

/-- The path of a module: its id if that looks like a path. -/
def path (id : String) : String :=
  if Text.occursIn "/" id || ".js".toList.isSuffixOf id.toList then id else "./" ++ id ++ ".js"

/-- The text of the body of a factory, without the braces of a block and the blanks around it. -/
def factoryBody (src : Source) (factory : Node) : String :=
  match factory.child? .body with
  | none => ""
  | some body =>
    Text.strip (if body.kind == .statementBlock then Text.inner (src.text body) else src.text body)

/-- The unit of an entry, if its value is a function. -/
def unit? (src : Source) (entry : String × Node) : Option Piece := do
  let factory ← entry.2.bare?
  guard factory.kind.isFunctionValue
  return ⟨entry.1, path entry.1, factoryBody src factory⟩

/-- The units of a table: all its entries are functions, and there is at least one. -/
def units? (src : Source) (table : Node) : Option (List Piece) := do
  let entries ← entries? src table
  guard !entries.isEmpty
  entries.mapM (unit? src)

/-- The table at a node, if the node is one that brings a table. -/
def table? (src : Source) (n : Node) : Option Node :=
  if n.kind == .callExpression then bootstrapTable? n
  else if n.kind == .variableDeclarator && n.declaratorName src == tableVariable then
    (n.child? .value).bind Node.bare?
  else none

/-- The units of the first good table of a document. -/
def ofParsed (p : Parsed) : Option (List Piece) :=
  p.root.walk.findSome? fun s => (table? p.source s.node).bind (units? p.source)

end BundleAtlas.Split
