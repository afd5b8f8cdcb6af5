import BundleAtlas.Tree.Walk

/-!
The order of the stack walk. `walk` visits the sites of `preorder`, which goes
down a tree by recursion. Properties that hold at every node of a tree pass
to its children, to what stands in its parentheses, and to the sites of a
walk; the analyses use them through these lemmas only.
-/

namespace BundleAtlas

namespace Node

theorem size_lt_of_mem {n c : Node} (hmem : c ∈ n.children) : c.size < n.size := by
  have hall : ∀ ns : List Node, c ∈ ns → c.size ≤ sizeAll ns := by
    intro ns hns
    induction ns with
    | nil => cases hns
    | cons m ms ih =>
        rw [sizeAll]
        rcases List.mem_cons.mp hns with rfl | hrest
        · omega
        · have := ih hrest
          omega
  rw [size_eq n]
  have := hall n.children hmem
  omega

/-- Induction over a tree: a property of all children of a node has to give
the property of the node. -/
theorem tree_induction {motive : Node → Prop}
    (step : ∀ n : Node, (∀ c ∈ n.children, motive c) → motive n) (n : Node) : motive n :=
  step n fun c hmem =>
    have := size_lt_of_mem hmem
    tree_induction step c
termination_by n.size

/-- The first construct in a node that is no comment is one of its children. -/
theorem mem_children_of_head? {n c : Node} (hhead : n.properChildren.head? = some c) :
    c ∈ n.children := by
  have hproper : c ∈ n.namedChildren.filter (!·.isComment) := List.mem_of_head? hhead
  have hnamed : c ∈ n.children.filter isNamed := (List.mem_filter.mp hproper).1
  exact (List.mem_filter.mp hnamed).1

theorem preorderAll_eq_flatMap (above : List Node) (ns : List Node) :
    preorderAll above ns = ns.flatMap (preorder above) := by
  induction ns with
  | nil => rfl
  | cons n ns ih => rw [preorderAll, ih, List.flatMap_cons]

theorem preorder_eq (above : List Node) (n : Node) :
    n.preorder above = ⟨n, above⟩ :: n.children.flatMap (preorder (n :: above)) := by
  cases n
  rw [preorder, preorderAll_eq_flatMap]

/-- The sites of a subtree stand together among those of the tree. -/
theorem preorder_infix_of_mem {n : Node} {above : List Node} {s : Site}
    (hmem : s ∈ n.preorder above) : s.node.preorder s.above <:+: n.preorder above := by
  induction n using tree_induction generalizing above with
  | step n ih =>
      rw [preorder_eq] at hmem
      rcases List.mem_cons.mp hmem with rfl | hbelow
      · exact List.infix_refl _
      · obtain ⟨child, hchild, hsite⟩ := List.mem_flatMap.mp hbelow
        have hinner := ih child hchild hsite
        have hblock : child.preorder (n :: above) <:+:
            n.children.flatMap (preorder (n :: above)) :=
          List.infix_of_mem_flatten (List.mem_map_of_mem hchild)
        rw [preorder_eq above n]
        exact (hinner.trans hblock).trans (List.infix_cons (List.infix_refl _))

theorem mem_preorder_of_mem_children {n c : Node} {above : List Node} {s : Site}
    (hmem : s ∈ n.preorder above) (hc : c ∈ s.node.children) :
    ⟨c, s.node :: s.above⟩ ∈ n.preorder above := by
  apply (preorder_infix_of_mem hmem).subset
  rw [preorder_eq]
  refine List.mem_cons_of_mem _ (List.mem_flatMap.mpr ⟨c, hc, ?_⟩)
  rw [preorder_eq]
  exact List.mem_cons_self

/-- A site of a tree is its root, or a child of a site of the tree. -/
theorem parent_of_mem_preorder {n : Node} {above : List Node} {s : Site}
    (hmem : s ∈ n.preorder above) :
    s = ⟨n, above⟩ ∨ ∃ m rest, s.above = m :: rest ∧ s.node ∈ m.children ∧
      ⟨m, rest⟩ ∈ n.preorder above := by
  induction n using tree_induction generalizing above with
  | step n ih =>
      rw [preorder_eq] at hmem ⊢
      rcases List.mem_cons.mp hmem with rfl | hbelow
      · exact Or.inl rfl
      · obtain ⟨child, hchild, hsite⟩ := List.mem_flatMap.mp hbelow
        rcases ih child hchild hsite with rfl | ⟨m, rest, habove, hnode, hparent⟩
        · exact Or.inr ⟨n, above, rfl, hchild, List.mem_cons_self⟩
        · have hmem := List.mem_flatMap.mpr ⟨child, hchild, hparent⟩
          exact Or.inr ⟨m, rest, habove, hnode, List.mem_cons_of_mem _ hmem⟩

end Node

/-- What a stack of sites still has to give: from its last site to its first
one, the recursive order of each of their trees. -/
def Site.pending (stack : Array Site) : List Site :=
  stack.toList.reverse.flatMap fun s => s.node.preorder s.above

private theorem flatMap_below (s : Site) :
    s.below.flatMap (fun t => t.node.preorder t.above) =
      s.node.children.flatMap (Node.preorder (s.node :: s.above)) := by
  simp only [Site.below, List.flatMap_map]

/-- A round takes the first of the pending sites, and the others stay. -/
theorem Site.pending_eq_cons_of_round {stack rest : Array Site} {s : Site}
    (hround : round stack = some (s, rest)) : pending stack = s :: pending rest := by
  obtain ⟨last, hlast, hpair⟩ := Option.map_eq_some_iff.mp hround
  cases hpair
  obtain ⟨front, rfl⟩ := Array.back?_eq_some_iff.mp hlast
  simp only [pending, Array.pop_push, Array.toList_appendList, Array.toList_push,
    List.reverse_append, List.reverse_reverse, List.reverse_singleton, List.flatMap_append,
    List.flatMap_singleton, flatMap_below]
  rw [Node.preorder_eq, List.cons_append]

theorem Site.eq_empty_of_round_eq_none {stack : Array Site} (hround : round stack = none) :
    stack = #[] := by
  simpa [round] using hround

/-- A walk with a stack gives what is pending on the stack. -/
theorem Site.toList_visit (seen stack : Array Site) :
    (visit seen stack).toList = seen.toList ++ pending stack := by
  fun_induction visit seen stack with
  | case1 seen stack hround =>
      rw [eq_empty_of_round_eq_none hround]
      simp [pending]
  | case2 seen stack s rest hround ih =>
      rw [ih, pending_eq_cons_of_round hround]
      simp

/-- The stack walk visits a tree in the order of the recursion. -/
theorem Node.walk_eq_preorder (root : Node) : root.walk = root.preorder [] := by
  rw [walk, Site.toList_visit]
  simp [Site.pending]

/-- A property holds at a node and at every node below it. -/
inductive Node.Everywhere (P : Node → Prop) : Node → Prop
  | intro {n : Node} (here : P n) (below : ∀ c ∈ n.children, Everywhere P c) : Everywhere P n

namespace Node.Everywhere

variable {P : Node → Prop} {n c : Node}

theorem here (h : Everywhere P n) : P n := by
  cases h with
  | intro hhere _ => exact hhere

theorem of_mem_children (h : Everywhere P n) (hmem : c ∈ n.children) : Everywhere P c := by
  cases h with
  | intro _ hbelow => exact hbelow c hmem

theorem imp {Q : Node → Prop} (h : Everywhere P n) (himp : ∀ m, P m → Q m) :
    Everywhere Q n := by
  induction h with
  | intro here _ ih => exact .intro (himp _ here) ih

theorem and {Q : Node → Prop} (h : Everywhere P n) (hother : Everywhere Q n) :
    Everywhere (fun m => P m ∧ Q m) n := by
  induction h with
  | intro here _ ih =>
      exact .intro ⟨here, hother.here⟩ fun c hc => ih c hc (hother.of_mem_children hc)

theorem of_child? {f : Field} (h : Everywhere P n) (hchild : n.child? f = some c) :
    Everywhere P c :=
  h.of_mem_children (List.mem_of_find?_eq_some hchild)

theorem of_bare? (h : Everywhere P n) (hbare : n.bare? = some c) : Everywhere P c := by
  induction n using tree_induction with
  | step n ih =>
      rw [bare?_eq] at hbare
      split at hbare
      · obtain ⟨first, hfirst, hrest⟩ := Option.bind_eq_some_iff.mp hbare
        have hmem : first ∈ n.children := mem_children_of_head? hfirst
        exact ih first hmem (h.of_mem_children hmem) hrest
      · cases hbare
        exact h

theorem of_mem_preorder {above : List Node} {s : Site} (h : Everywhere P n)
    (hmem : s ∈ n.preorder above) : Everywhere P s.node := by
  induction n using tree_induction generalizing above with
  | step n ih =>
      rw [preorder_eq] at hmem
      rcases List.mem_cons.mp hmem with rfl | hbelow
      · exact h
      · obtain ⟨child, hchild, hsite⟩ := List.mem_flatMap.mp hbelow
        exact ih child hchild (h.of_mem_children hchild) hsite

theorem of_forall_mem_preorder {above : List Node} (h : ∀ s ∈ n.preorder above, P s.node) :
    Everywhere P n := by
  induction n using tree_induction generalizing above with
  | step n ih =>
      rw [preorder_eq] at h
      refine .intro (h ⟨n, above⟩ List.mem_cons_self) ?_
      intro child hchild
      have hbelow : ∀ s ∈ child.preorder (n :: above), P s.node := by
        intro s hs
        exact h s (List.mem_cons_of_mem _ (List.mem_flatMap.mpr ⟨child, hchild, hs⟩))
      exact ih child hchild hbelow

theorem of_mem_walk {s : Site} (h : Everywhere P n) (hmem : s ∈ n.walk) :
    Everywhere P s.node := by
  rw [walk_eq_preorder] at hmem
  exact h.of_mem_preorder hmem

end Node.Everywhere

end BundleAtlas
