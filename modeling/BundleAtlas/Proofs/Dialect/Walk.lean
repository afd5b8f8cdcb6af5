import Mathlib.Data.List.Basic
import BundleAtlas.Proofs.Dialect.Parameter

/-!
Walks through both forms of a document. The walk through the form with types
meets a few more nodes, and some of other kinds; none of these are of a kind
that an analysis asks for. All others are met in the same order, each with
ancestors that differ in such nodes only. What an analysis takes from one site
after the other is then the same in both forms, if it is the same for a node and
its counterpart.
-/

namespace BundleAtlas

/-- A kind that no analysis asks for. -/
structure Kind.Unasked (k : Kind) : Prop where
  functionDeclaration : k.isFunctionDeclaration = false := by rfl
  functionLike : k.isFunctionLike = false := by rfl
  classDeclaration : k.isClassDeclaration = false := by rfl
  variableDeclaration : k.isVariableDeclaration = false := by rfl
  classField : k.isClassField = false := by rfl
  classBody : k ≠ .classBody := by nofun
  declarator : k ≠ .variableDeclarator := by nofun
  loop : k ≠ .forIn := by nofun
  call : k ≠ .callExpression := by nofun
  exporting : k ≠ .exportStatement := by nofun

namespace Node

/-- The nodes at one place in both forms: a node and its counterpart, or two
nodes that no analysis asks for, with counterparts below them. -/
inductive Twin (n n' : Node) : Prop
  | same (h : Counterpart n n')
  | unasked (form : Node → Node) (hkind : n.kind.Unasked) (hother : n'.kind.Unasked)
      (hchildren : n'.children = n.children.map form) (hform : ∀ c, Counterpart c (form c))

/-- A child becomes its twin, or a node that no analysis asks for is put around
its counterpart. The latter happens in a list of parameters. -/
theorem twin_or_wrapped (k : Kind) (c : Node) :
    Twin c (adapted k c.typed) ∨
      k.Unasked ∧ (adapted k c.typed).kind.Unasked ∧
        ∃ inner, Counterpart c inner ∧ (adapted k c.typed).children = [inner] := by
  have h := c.counterpart_typed
  by_cases hparameter : (k == .formalParameters && c.typed.isProper) = true
  · have hadapted : adapted k c.typed = c.typed.asParameter := by
      unfold adapted
      rw [if_pos hparameter]
    rw [hadapted]
    by_cases hkind : c.kind = .assignmentPattern
    · refine .inl (.unasked (fun d => d.typed.defaultPart) ?_ ?_
        (asParameter_typed_children hkind) fun d => d.counterpart_typed.withField _)
      · rw [hkind]
        exact {}
      · unfold asParameter
        split_ifs <;> exact {}
    · have hother : (c.typed.kind == .assignmentPattern) = false := by
        rw [h.ask (· == .assignmentPattern) rfl]
        simpa using hkind
      have hlist : k = .formalParameters := by
        rw [Bool.and_eq_true, beq_iff_eq] at hparameter
        exact hparameter.1
      unfold asParameter
      rw [hother]
      refine .inr ⟨?_, {}, _, h.withField (some .pattern), rfl⟩
      rw [hlist]
      exact {}
  · unfold adapted
    rw [if_neg hparameter]
    split_ifs with hkey hname
    · exact .inl (.same (h.withField _))
    · have hkind : c.kind = .identifier := by
        simp only [Bool.and_eq_true, h.ask (· == .identifier) rfl, beq_iff_eq] at hname
        exact hname.2
      have hplain : c.kind.adapts = false := by
        rw [hkind]
        rfl
      refine .inl (.unasked typed ?_ {} (h.children_eq_map_typed hplain) counterpart_typed)
      rw [hkind]
      exact {}
    · exact .inl (.same h)

/-- The ancestors of a site in both forms, the nearest one first. -/
inductive Around (src : Source) : List Node → List Node → Prop
  | root : Around src [] []
  | step {n n' : Node} {above above' : List Node} (htwin : Twin n n')
      (hplain : n.Everywhere (IsPlain src)) (h : Around src above above') :
      Around src (n :: above) (n' :: above')
  | wrapped {n wrapper : Node} {above above' : List Node} (hkind : n.kind.Unasked)
      (hother : wrapper.kind.Unasked) (h : Around src (n :: above) above') :
      Around src (n :: above) (wrapper :: above')

end Node

/-- A site of a plain document and the site of its counterpart. -/
structure Site.Counterpart (src : Source) (s s' : Site) : Prop where
  node : Node.Counterpart s.node s'.node
  plain : s.node.Everywhere (Node.IsPlain src)
  around : Node.Around src s.above s'.above

namespace Site.Counterpart

variable {src : Source} {s s' : Site}

/-- The parents of a site in both forms are counterparts, or no analysis asks for
either of them. -/
theorem parents (h : Counterpart src s s') :
    (s.parent? = none ∧ s'.parent? = none) ∨
      ∃ p p', s.parent? = some p ∧ s'.parent? = some p' ∧
        ((Node.Counterpart p p' ∧ p.Everywhere (Node.IsPlain src)) ∨
          (p.kind.Unasked ∧ p'.kind.Unasked)) := by
  obtain ⟨n, above⟩ := s
  obtain ⟨n', above'⟩ := s'
  have haround : Node.Around src above above' := h.around
  unfold parent?
  cases haround with
  | root => exact .inl ⟨rfl, rfl⟩
  | step htwin hplain _ =>
      refine .inr ⟨_, _, rfl, rfl, ?_⟩
      cases htwin with
      | same hcounterpart => exact .inl ⟨hcounterpart, hplain⟩
      | unasked _ hkind hother _ _ => exact .inr ⟨hkind, hother⟩
  | wrapped hkind hother _ => exact .inr ⟨_, _, rfl, rfl, .inr ⟨hkind, hother⟩⟩

/-- The innermost functions around a site in both forms are counterparts. The
induction goes up the ancestors, past those that are no function. -/
theorem enclosing (h : Counterpart src s s') :
    (s.enclosing? = none ∧ s'.enclosing? = none) ∨
      ∃ fn fn', s.enclosing? = some fn ∧ s'.enclosing? = some fn' ∧ Counterpart src fn fn' := by
  obtain ⟨n, above⟩ := s
  obtain ⟨n', above'⟩ := s'
  have haround : Node.Around src above above' := h.around
  unfold enclosing?
  clear h
  induction haround with
  | root => exact .inl ⟨rfl, rfl⟩
  | @step n n' above above' htwin hplain haround ih =>
      rw [enclosing?.go, enclosing?.go]
      cases htwin with
      | same hcounterpart =>
          rw [hcounterpart.ask Kind.isFunctionLike rfl]
          split
          · exact .inr ⟨_, _, rfl, rfl, hcounterpart, hplain, haround⟩
          · exact ih
      | unasked _ hkind hother _ _ =>
          rw [hkind.functionLike, hother.functionLike]
          exact ih
  | @wrapped m wrapper rest rest' _ hother _ ih =>
      have hskip : enclosing?.go (wrapper :: rest') = enclosing?.go rest' := by
        rw [enclosing?.go, hother.functionLike]
        rfl
      rw [hskip]
      exact ih

end Site.Counterpart

/-- Two analyses of a site, one for each form of a document: they take nothing
from nodes of no interest, and the same from a site and its counterpart. -/
structure Agree {β : Type} (src : Source) (nothing : β) (take take' : Site → β) : Prop where
  unasked : ∀ s, s.node.kind.Unasked → take s = nothing ∧ take' s = nothing
  same : ∀ {s s'}, Site.Counterpart src s s' → take' s' = take s

namespace Agree

open Node

variable {β : Type} {src : Source} {n n' : Node} {above above' : List Node}

/-- A walk through both forms takes the same. A node that is put around another
one adds nothing; the children of twins are twins or stand in such a node. -/
theorem flatMap_preorder {take take' : Site → List β} (h : Agree src [] take take')
    (htwin : Twin n n') (hplain : n.Everywhere (IsPlain src)) (haround : Around src above above') :
    (n'.preorder above').flatMap take' = (n.preorder above).flatMap take := by
  induction n using tree_induction generalizing n' above above' with
  | step n ih =>
      have hbelow : Around src (n :: above) (n' :: above') := .step htwin hplain haround
      have hchild : ∀ c ∈ n.children, ∀ {c' : Node} {outer : List Node}, Twin c c' →
          Around src (n :: above) outer →
          (c'.preorder outer).flatMap take' = (c.preorder (n :: above)).flatMap take :=
        fun c hc _ _ hc' houter => ih c hc hc' (hplain.of_mem_children hc) houter
      rw [preorder_eq above' n', preorder_eq above n, List.flatMap_cons, List.flatMap_cons,
        List.flatMap_assoc, List.flatMap_assoc]
      cases htwin with
      | same hcounterpart =>
          have hsite : take' ⟨n', above'⟩ = take ⟨n, above⟩ :=
            h.same ⟨hcounterpart, hplain, haround⟩
          rw [hsite, hcounterpart.children, List.flatMap_map]
          congr 1
          apply List.flatMap_congr
          intro c hc
          rcases twin_or_wrapped n.kind c with hc' | ⟨hkind, hother, inner, hinner, honly⟩
          · exact hchild c hc hc' hbelow
          · have hwrapped := hchild c hc (.same hinner) (.wrapped hkind hother hbelow)
            rw [preorder_eq, List.flatMap_cons, (h.unasked _ hother).2, honly]
            simpa using hwrapped
      | unasked form hkind hother hchildren hform =>
          rw [(h.unasked ⟨n', above'⟩ hother).2, (h.unasked ⟨n, above⟩ hkind).1, hchildren,
            List.flatMap_map]
          congr 1
          apply List.flatMap_congr
          intro c hc
          exact hchild c hc (.same (hform c)) hbelow

theorem flatMap_walk {take take' : Site → List β} (h : Agree src [] take take')
    (hcounterpart : Counterpart n n') (hplain : n.Everywhere (IsPlain src)) :
    n'.walk.flatMap take' = n.walk.flatMap take := by
  rw [walk_eq_preorder, walk_eq_preorder]
  exact h.flatMap_preorder (.same hcounterpart) hplain .root

theorem filterMap_walk {take take' : Site → Option β} (h : Agree src none take take')
    (hcounterpart : Counterpart n n') (hplain : n.Everywhere (IsPlain src)) :
    n'.walk.filterMap take' = n.walk.filterMap take := by
  have hlists : Agree src [] (fun s => (take s).toList) (fun s => (take' s).toList) := by
    constructor
    · intro s hs
      obtain ⟨hnone, hnone'⟩ := h.unasked s hs
      simp [hnone, hnone']
    · intro s s' hsite
      rw [h.same hsite]
  rw [List.filterMap_eq_flatMap_toList, List.filterMap_eq_flatMap_toList]
  exact hlists.flatMap_walk hcounterpart hplain

theorem findSome?_walk {take take' : Site → Option β} (h : Agree src none take take')
    (hcounterpart : Counterpart n n') (hplain : n.Everywhere (IsPlain src)) :
    n'.walk.findSome? take' = n.walk.findSome? take := by
  rw [← List.head?_filterMap, ← List.head?_filterMap, h.filterMap_walk hcounterpart hplain]

end Agree

end BundleAtlas
