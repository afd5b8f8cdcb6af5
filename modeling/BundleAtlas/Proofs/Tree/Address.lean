import Mathlib.Data.List.Basic
import BundleAtlas.Proofs.Tree.Preorder

/-!
Addresses in a tree: which child to take, from the root down. Two nodes of a
tree can be equal, their addresses cannot, so it is by its address that a node
is met once or twice. The rounds of the stack walk come to every address once,
each address before those that are greater in the order of words; what
stands below an address is met in one go.
-/

namespace BundleAtlas

namespace Site

/-- The site at an address: each number says which of the sites directly below
comes next. -/
def at? (s : Site) : List Nat → Option Site
  | [] => some s
  | i :: address => s.below[i]?.bind (·.at? address)

/-- A site of a tree that is itself a part of a larger tree, with the nodes
that are above that part. -/
def under (above : List Node) (s : Site) : Site := ⟨s.node, s.above ++ above⟩

/-- Rounds of a walk, from a stack to another one, with the sites that come
off. -/
inductive Rounds : Array Site → List Site → Array Site → Prop
  | done (stack : Array Site) : Rounds stack [] stack
  | next {stack rest last : Array Site} {s : Site} {given : List Site}
      (hround : round stack = some (s, rest)) (hrest : Rounds rest given last) :
      Rounds stack (s :: given) last

/-- Any number of rounds gives the first of the pending sites. -/
theorem Rounds.pending_eq {stack last : Array Site} {given : List Site}
    (h : Rounds stack given last) : pending stack = given ++ pending last := by
  induction h with
  | done stack => rfl
  | next hround _ ih => rw [pending_eq_cons_of_round hround, ih, List.cons_append]

/-- The rounds come to an end: all that is pending comes off, and the stack is
empty. -/
theorem rounds_pending (stack : Array Site) : Rounds stack (pending stack) #[] := by
  match hround : round stack with
  | none =>
      rw [eq_empty_of_round_eq_none hround]
      exact .done #[]
  | some (s, rest) =>
      have hlighter := weight_round hround
      rw [pending_eq_cons_of_round hround]
      exact .next hround (rounds_pending rest)
termination_by weight stack.toList

theorem at?_append (s : Site) (address more : List Nat) :
    s.at? (address ++ more) = (s.at? address).bind (·.at? more) := by
  induction address generalizing s with
  | nil => rfl
  | cons i address ih =>
      simp only [List.cons_append, at?, Option.bind_assoc, ih]

end Site

namespace Node

mutual

/-- The addresses of the nodes of a tree. -/
def addresses : Node → List (List Nat)
  | ⟨_, _, _, _, cs⟩ => [] :: addressesFrom 0 cs

/-- The addresses below a node, in those of its children that come with the
given number and after it. -/
def addressesFrom (i : Nat) : List Node → List (List Nat)
  | [] => []
  | c :: cs => (addresses c).map (i :: ·) ++ addressesFrom (i + 1) cs

end

theorem addresses_eq (n : Node) : n.addresses = [] :: addressesFrom 0 n.children := by
  cases n
  rw [addresses]

theorem exists_of_mem_addressesFrom {i : Nat} {cs : List Node} {address : List Nat}
    (hmem : address ∈ addressesFrom i cs) : ∃ j rest, i ≤ j ∧ address = j :: rest := by
  induction cs generalizing i with
  | nil => cases hmem
  | cons c cs ih =>
      rw [addressesFrom] at hmem
      rcases List.mem_append.mp hmem with hfirst | hlater
      · obtain ⟨rest, _, rfl⟩ := List.mem_map.mp hfirst
        exact ⟨i, rest, Nat.le_refl i, rfl⟩
      · obtain ⟨j, rest, hle, heq⟩ := ih hlater
        exact ⟨j, rest, by omega, heq⟩

theorem pairwise_addressesFrom {cs : List Node} (i : Nat)
    (hall : ∀ c ∈ cs, c.addresses.Pairwise (· < ·)) :
    (addressesFrom i cs).Pairwise (· < ·) := by
  induction cs generalizing i with
  | nil => exact .nil
  | cons c cs ih =>
      rw [addressesFrom, List.pairwise_append]
      refine ⟨?_, ih (i + 1) fun d hd => hall d (List.mem_cons_of_mem _ hd), ?_⟩
      · rw [List.pairwise_map]
        exact (hall c List.mem_cons_self).imp fun h => List.cons_lt_cons_iff.mpr (.inr ⟨rfl, h⟩)
      · intro a ha b hb
        obtain ⟨rest, _, rfl⟩ := List.mem_map.mp ha
        obtain ⟨j, more, hle, rfl⟩ := exists_of_mem_addressesFrom hb
        exact List.cons_lt_cons_iff.mpr (.inl (by omega))

/-- The addresses of a tree stand in the order of words, so none of them comes
twice. -/
theorem pairwise_addresses (n : Node) : n.addresses.Pairwise (· < ·) := by
  induction n using tree_induction with
  | step n ih =>
      rw [addresses_eq, List.pairwise_cons]
      refine ⟨?_, pairwise_addressesFrom 0 ih⟩
      intro a ha
      obtain ⟨j, rest, _, rfl⟩ := exists_of_mem_addressesFrom ha
      exact List.nil_lt_cons j rest

theorem map_at?_addressesFrom {n : Node} {cs : List Node} (above front : List Node)
    (hchildren : n.children = front ++ cs)
    (hall : ∀ c ∈ cs, c.addresses.map (Site.at? ⟨c, n :: above⟩) =
      (c.preorder (n :: above)).map some) :
    (addressesFrom front.length cs).map (Site.at? ⟨n, above⟩) =
      (cs.flatMap (preorder (n :: above))).map some := by
  -- `front` are the children that are done, so its length is the number of the next child
  induction cs generalizing front with
  | nil => rfl
  | cons c cs ih =>
      have hchild : (⟨n, above⟩ : Site).below[front.length]? = some ⟨c, n :: above⟩ := by
        simp [Site.below, hchildren]
      have hfirst : (c.addresses.map (front.length :: ·)).map (Site.at? ⟨n, above⟩) =
          (c.preorder (n :: above)).map some := by
        rw [← hall c List.mem_cons_self, List.map_map]
        refine List.map_congr_left fun address _ => ?_
        simp only [Function.comp_apply, Site.at?, hchild, Option.bind_some]
      have hlater := ih (front ++ [c]) (by simp [hchildren])
        fun d hd => hall d (List.mem_cons_of_mem _ hd)
      rw [List.length_append, List.length_singleton] at hlater
      rw [addressesFrom, List.map_append, hfirst, hlater, List.flatMap_cons, List.map_append]

/-- Going through the addresses of a tree is going through its sites in the
order of the recursion. -/
theorem map_at?_addresses (n : Node) (above : List Node) :
    n.addresses.map (Site.at? ⟨n, above⟩) = (n.preorder above).map some := by
  induction n using tree_induction generalizing above with
  | step n ih =>
      have hbelow := map_at?_addressesFrom above [] rfl
        fun c hc => ih c hc (n :: above)
      rw [addresses_eq, preorder_eq, List.map_cons, List.map_cons, ← hbelow]
      rfl

theorem addressesFrom_of_getElem? {cs : List Node} {i j : Nat} {c : Node}
    (hchild : cs[j]? = some c) : ∃ before behind,
      addressesFrom i cs = before ++ c.addresses.map ((i + j) :: ·) ++ behind := by
  induction cs generalizing i j with
  | nil => simp at hchild
  | cons d cs ih =>
      rw [addressesFrom]
      cases j with
      | zero =>
          obtain rfl : d = c := by simpa using hchild
          exact ⟨[], addressesFrom (i + 1) cs, by simp⟩
      | succ j =>
          obtain ⟨before, behind, heq⟩ := ih (i := i + 1) (by simpa using hchild)
          refine ⟨d.addresses.map (i :: ·) ++ before, behind, ?_⟩
          rw [heq, show i + 1 + j = i + (j + 1) by omega]
          simp only [List.append_assoc]

/-- The addresses at and below a node stand together among those of the
tree, the node's own first. -/
theorem addresses_block {n : Node} {above : List Node} {address : List Nat} {s : Site}
    (hat : Site.at? ⟨n, above⟩ address = some s) : ∃ before behind,
      n.addresses = before ++ s.node.addresses.map (address ++ ·) ++ behind := by
  induction address generalizing n above with
  | nil =>
      cases hat
      exact ⟨[], [], by simp⟩
  | cons i address ih =>
      -- the block inside the child that the first number leads to, inside the block of that child
      obtain ⟨next, hnext, hrest⟩ := Option.bind_eq_some_iff.mp hat
      obtain ⟨c, hchild, rfl⟩ : ∃ c, n.children[i]? = some c ∧ ⟨c, n :: above⟩ = next := by
        simpa [Site.below] using hnext
      obtain ⟨before, behind, hinner⟩ := ih hrest
      obtain ⟨front, back, houter⟩ := addressesFrom_of_getElem? (i := 0) hchild
      refine ⟨[] :: front ++ before.map (i :: ·), behind.map (i :: ·) ++ back, ?_⟩
      rw [addresses_eq, houter, hinner]
      simp

/-- An address is one of a tree exactly if it leads to a site. -/
theorem mem_addresses_iff {n : Node} {above : List Node} {address : List Nat} :
    address ∈ n.addresses ↔ ((⟨n, above⟩ : Site).at? address).isSome := by
  constructor
  · intro hmem
    have hsite : (⟨n, above⟩ : Site).at? address ∈ (n.preorder above).map some := by
      rw [← map_at?_addresses]
      exact List.mem_map_of_mem hmem
    obtain ⟨t, _, ht⟩ := List.mem_map.mp hsite
    rw [← ht]
    rfl
  · intro hsome
    obtain ⟨t, ht⟩ := Option.isSome_iff_exists.mp hsome
    obtain ⟨before, behind, heq⟩ := addresses_block ht
    rw [heq, addresses_eq t.node]
    simp

/-- The sites of a part of a tree are those of the part on its own, under the
nodes above it. -/
theorem preorder_append (n : Node) (inner above : List Node) :
    n.preorder (inner ++ above) = (n.preorder inner).map (Site.under above) := by
  induction n using tree_induction generalizing inner with
  | step n ih =>
      rw [preorder_eq, preorder_eq, List.map_cons, List.map_flatMap]
      congr 1
      refine List.flatMap_congr fun c hc => ?_
      rw [← List.cons_append]
      exact ih c hc (n :: inner)

/-- The sites at and below an address stand together among those of the tree,
from the place of the address on, in the order of a walk through that part. -/
theorem walk_block {root : Node} {address : List Nat} {s : Site}
    (hat : Site.at? ⟨root, []⟩ address = some s) : ∃ before behind,
      root.walk = before ++ s.node.walk.map (Site.under s.above) ++ behind ∧
      root.addresses[before.length]? = some address := by
  obtain ⟨before, behind, hblock⟩ := addresses_block hat
  have hown : (s.node.addresses.map (address ++ ·)).map (Site.at? ⟨root, []⟩) =
      (s.node.preorder s.above).map some := by
    rw [← map_at?_addresses, List.map_map]
    refine List.map_congr_left fun more _ => ?_
    rw [Function.comp_apply, Site.at?_append, hat, Option.bind_some]
  have hsites : root.walk.map some = before.map (Site.at? ⟨root, []⟩) ++
      (s.node.preorder s.above).map some ++ behind.map (Site.at? ⟨root, []⟩) := by
    rw [walk_eq_preorder, ← map_at?_addresses, hblock, List.map_append, List.map_append, hown]
  obtain ⟨front, back, hwalk, hfront, -⟩ := List.map_eq_append_iff.mp hsites
  obtain ⟨first, own, rfl, hfirst, hmid⟩ := List.map_eq_append_iff.mp hfront
  have hpreorder : own = s.node.walk.map (Site.under s.above) := by
    rw [List.map_injective_iff.mpr (fun _ _ => Option.some.inj) hmid, walk_eq_preorder,
      ← preorder_append, List.nil_append]
  refine ⟨first, back, by rw [hwalk, hpreorder], ?_⟩
  have hlength : first.length = before.length := by
    simpa using congrArg List.length hfirst
  rw [hlength, hblock, addresses_eq s.node]
  simp

end Node

/-- From the root alone on the stack, the rounds of a walk go on until the stack
is empty, and however far they have gone, they gave a beginning of the whole
walk. The walk is the order of the recursion. It goes through the addresses of
the tree, each of them once and each before all greater ones, and the part
of it that starts at an address is the walk through the tree there. -/
theorem stack_walk_is_preorder (root : Node) :
    Site.Rounds #[⟨root, []⟩] root.walk #[] ∧
    (∀ given rest, Site.Rounds #[⟨root, []⟩] given rest → given <+: root.walk) ∧
    root.walk = root.preorder [] ∧
    (root.addresses.Pairwise (· < ·) ∧
      (∀ address, address ∈ root.addresses ↔ (Site.at? ⟨root, []⟩ address).isSome) ∧
      root.walk.map some = root.addresses.map (Site.at? ⟨root, []⟩)) ∧
    ∀ address s, Site.at? ⟨root, []⟩ address = some s → ∃ before behind,
      root.walk = before ++ s.node.walk.map (Site.under s.above) ++ behind ∧
      root.addresses[before.length]? = some address := by
  have hpending : Site.pending #[⟨root, []⟩] = root.walk := by
    simp [Site.pending, Node.walk_eq_preorder]
  refine ⟨?_, ?_, root.walk_eq_preorder, ⟨root.pairwise_addresses, ?_, ?_⟩, ?_⟩
  · rw [← hpending]
    exact Site.rounds_pending _
  · intro given rest hrounds
    rw [← hpending, hrounds.pending_eq]
    exact List.prefix_append _ _
  · intro address
    exact Node.mem_addresses_iff
  · rw [Node.walk_eq_preorder, Node.map_at?_addresses]
  · intro address s hat
    exact Node.walk_block hat

namespace Twins

/-- One of two equal nodes that cover nothing. -/
def leaf : Node := ⟨.token ";", none, ⟨0, 0, 0⟩, ⟨0, 0, 0⟩, []⟩

/-- A node with two equal children. -/
def root : Node := ⟨.program, none, ⟨0, 0, 0⟩, ⟨0, 0, 0⟩, [leaf, leaf]⟩

end Twins

theorem stack_walk_is_preorder_twins :
    Site.Rounds #[⟨Twins.root, []⟩] [⟨Twins.root, []⟩]
      #[⟨Twins.leaf, [Twins.root]⟩, ⟨Twins.leaf, [Twins.root]⟩] ∧
    [⟨Twins.root, []⟩] <+: Twins.root.walk ∧
    Site.at? ⟨Twins.root, []⟩ [1] = some ⟨Twins.leaf, [Twins.root]⟩ ∧
    ∃ before behind, Twins.root.walk =
        before ++ Twins.leaf.walk.map (Site.under [Twins.root]) ++ behind ∧
      Twins.root.addresses[before.length]? = some [1] := by
  have hround : Site.Rounds #[⟨Twins.root, []⟩] [⟨Twins.root, []⟩]
      #[⟨Twins.leaf, [Twins.root]⟩, ⟨Twins.leaf, [Twins.root]⟩] := .next rfl (.done _)
  obtain ⟨-, hbeginning, -, -, hblock⟩ := stack_walk_is_preorder Twins.root
  exact ⟨hround, hbeginning _ _ hround, rfl, hblock [1] ⟨Twins.leaf, [Twins.root]⟩ rfl⟩

end BundleAtlas
