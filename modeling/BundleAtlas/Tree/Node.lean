import BundleAtlas.Text.Place
import BundleAtlas.Tree.Kind

/-!
Syntax trees and the source they describe. A node knows its kind, the part it plays in its
parent, where it starts and stops, and its children in source order, comments among them.
-/

namespace BundleAtlas

/-- A node of a syntax tree. -/
structure Node where
  kind : Kind
  field : Option Field := none
  start : Mark
  stop : Mark
  children : List Node := []
deriving Repr, Inhabited

namespace Node

/-- Whether the node is a construct and not a bare token. -/
def isNamed (n : Node) : Bool := n.kind.isNamed

/-- Whether the node is a comment. -/
def isComment (n : Node) : Bool := n.kind == .comment

/-- The children that are constructs. -/
def namedChildren (n : Node) : List Node := n.children.filter isNamed

/-- The children that are constructs and no comments. -/
def properChildren (n : Node) : List Node := n.namedChildren.filter (!·.isComment)

/-- The first child that plays the given part. -/
def child? (n : Node) (f : Field) : Option Node := n.children.find? (·.field == some f)

/-- The line a node starts on, counted from one. -/
def startLine (n : Node) : Nat := n.start.row + 1

/-- The line a node stops on, counted from one. -/
def stopLine (n : Node) : Nat := n.stop.row + 1

mutual

/-- The number of nodes of a tree. -/
def size : Node → Nat
  | ⟨_, _, _, _, cs⟩ => sizeAll cs + 1

/-- The number of nodes of several trees. -/
def sizeAll : List Node → Nat
  | [] => 0
  | n :: ns => size n + sizeAll ns

end

theorem size_eq (n : Node) : n.size = sizeAll n.children + 1 := by
  cases n; rw [size]

mutual

/-- What stands inside any number of parentheses: the first construct in them that is no comment,
or nothing when there is none. -/
def bare? : Node → Option Node
  | ⟨k, f, start, stop, cs⟩ =>
    if k == .parenthesized then bareFirst? cs else some ⟨k, f, start, stop, cs⟩

/-- The bare form of the first construct among some nodes that is no comment. -/
def bareFirst? : List Node → Option Node
  | [] => none
  | c :: cs => if c.isNamed && !c.isComment then bare? c else bareFirst? cs

end

theorem bareFirst?_eq (cs : List Node) :
    bareFirst? cs = ((cs.filter isNamed).filter (!·.isComment)).head?.bind bare? := by
  induction cs with
  | nil => simp [bareFirst?]
  | cons c cs ih =>
    rw [bareFirst?]
    by_cases h1 : c.isNamed <;> by_cases h2 : c.isComment <;> simp [h1, h2, ih]

theorem bare?_eq (n : Node) :
    n.bare? = if n.kind == .parenthesized then n.properChildren.head?.bind bare? else some n := by
  cases n
  rw [bare?, bareFirst?_eq]
  rfl

end Node

/-- The text that a tree was read from. -/
structure Source where
  chars : Array Char

namespace Source

/-- A source from its text. -/
def ofString (s : String) : Source := ⟨s.toList.toArray⟩

/-- The text between two offsets. -/
def slice (s : Source) (start stop : Nat) : String :=
  String.ofList (s.chars.extract start stop).toList

/-- The text that a node covers. -/
def text (s : Source) (n : Node) : String := s.slice n.start.offset n.stop.offset

/-- The text of an optional node; nothing has no text. -/
def text? (s : Source) : Option Node → String
  | none => ""
  | some n => s.text n

end Source

end BundleAtlas
