import BundleAtlas.Tree.Node

/-!
Walking a tree: every node before its children, children from left to right. `walk` keeps the
nodes still to visit on a stack; `preorder` says the same order by recursion on the tree.
-/

namespace BundleAtlas

/-- A node met on a walk, with its ancestors, the nearest one first. -/
structure Site where
  node : Node
  above : List Node := []
deriving Inhabited

namespace Site

/-- The node that directly contains the site. -/
def parent? (s : Site) : Option Node := s.above.head?

/-- The sites directly below. -/
def below (s : Site) : List Site := s.node.children.map fun c => ⟨c, s.node :: s.above⟩

/-- The number of nodes at and below some sites. -/
def weight : List Site → Nat
  | [] => 0
  | s :: ss => s.node.size + weight ss

theorem weight_append (xs ys : List Site) : weight (xs ++ ys) = weight xs + weight ys := by
  induction xs with
  | nil => simp [weight]
  | cons x xs ih => simp [weight, ih, Nat.add_assoc]

theorem weight_map (above : List Node) (ns : List Node) :
    weight (ns.map fun c => ⟨c, above⟩) = Node.sizeAll ns := by
  induction ns with
  | nil => simp [weight, Node.sizeAll]
  | cons n ns ih => simp [weight, Node.sizeAll, ih]

theorem weight_below (s : Site) : weight s.below + 1 = s.node.size := by
  rw [below, weight_map, Node.size_eq]

theorem weight_reverse (ss : List Site) : weight ss.reverse = weight ss := by
  induction ss with
  | nil => rfl
  | cons s ss ih => simp only [List.reverse_cons, weight_append, weight, ih]; omega

/-- One round of a walk: the last site comes off the stack, and the sites directly below it go on
from right to left, so that the leftmost of them is the last one now. There is no round with an
empty stack. -/
def round (stack : Array Site) : Option (Site × Array Site) :=
  stack.back?.map fun s => (s, stack.pop ++ s.below.reverse)

theorem weight_round {stack rest : Array Site} {s : Site} (h : round stack = some (s, rest)) :
    weight rest.toList + 1 = weight stack.toList := by
  obtain ⟨last, hlast, hround⟩ := Option.map_eq_some_iff.mp h
  cases hround
  obtain ⟨front, rfl⟩ := Array.back?_eq_some_iff.mp hlast
  have := weight_below s
  simp only [Array.pop_push, Array.toList_appendList, Array.toList_push, weight_append,
    weight_reverse, weight]
  omega

/-- Goes on round by round until the stack is empty, and adds what comes off it to the sites that
were seen before. -/
def visit (seen stack : Array Site) : Array Site :=
  match _ : round stack with
  | none => seen
  | some (s, rest) => visit (seen.push s) rest
termination_by weight stack.toList
decreasing_by
  have := weight_round ‹round stack = some (s, rest)›
  omega

end Site

namespace Node

/-- All sites of a tree in the order of the stack walk. -/
def walk (root : Node) : List Site := (Site.visit #[] #[⟨root, []⟩]).toList

mutual

/-- The sites of a tree: the node itself, then those of its children from left to right. -/
def preorder (above : List Node) : Node → List Site
  | ⟨k, f, start, stop, cs⟩ =>
    ⟨⟨k, f, start, stop, cs⟩, above⟩ :: preorderAll (⟨k, f, start, stop, cs⟩ :: above) cs

/-- The sites of several trees that share their ancestors. -/
def preorderAll (above : List Node) : List Node → List Site
  | [] => []
  | n :: ns => preorder above n ++ preorderAll above ns

end

end Node

end BundleAtlas
