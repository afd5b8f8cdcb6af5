import BundleAtlas.Proofs.Tree.First
import BundleAtlas.Symbol.Declaration
import Mathlib.Data.List.Forall2

/-!
Trees with more comments in them. A comment is a node like others, and may be
put behind any child of any node. All nodes that were there before are found
again in their order, with the parts that they play; what stood in parentheses
still does, and on a walk nothing but comments is met besides.
-/

namespace BundleAtlas

/-- A row of items found again in another row, in order, with other items
between them. -/
inductive Interleaved {α β : Type} (R : α → β → Prop) (Other : β → Prop) : List α → List β → Prop
  | nil : Interleaved R Other [] []
  | found {a : α} {b : β} {as : List α} {bs : List β} (h : R a b)
      (hrest : Interleaved R Other as bs) : Interleaved R Other (a :: as) (b :: bs)
  | other {b : β} {as : List α} {bs : List β} (h : Other b)
      (hrest : Interleaved R Other as bs) : Interleaved R Other as (b :: bs)

namespace Interleaved

variable {α β γ : Type} {R : α → β → Prop} {Other : β → Prop} {as as' : List α} {bs bs' : List β}

theorem of_forall₂ (h : List.Forall₂ R as bs) : Interleaved R Other as bs := by
  induction h with
  | nil => exact .nil
  | cons hab _ ih => exact .found hab ih

theorem append (h : Interleaved R Other as bs) (h' : Interleaved R Other as' bs') :
    Interleaved R Other (as ++ as') (bs ++ bs') := by
  induction h with
  | nil => exact h'
  | found hab _ ih => exact .found hab ih
  | other hb _ ih => exact .other hb ih

theorem imp {S : α → β → Prop} (h : Interleaved R Other as bs)
    (himp : ∀ a ∈ as, ∀ b, R a b → S a b) : Interleaved S Other as bs := by
  induction h with
  | nil => exact .nil
  | found hab _ ih =>
      obtain ⟨ha, has⟩ := List.forall_mem_cons.mp himp
      exact .found (ha _ hab) (ih has)
  | other hb _ ih => exact .other hb (ih himp)

/-- What a test keeps is found again item by item, if it keeps none of the other
items. -/
theorem filter {p : α → Bool} {q : β → Bool} (h : Interleaved R Other as bs)
    (hsame : ∀ a b, R a b → p a = q b) (hother : ∀ b, Other b → q b = false) :
    List.Forall₂ R (as.filter p) (bs.filter q) := by
  induction h with
  | nil => exact .nil
  | @found a b _ _ hab _ ih =>
      rw [List.filter_cons, List.filter_cons, hsame a b hab]
      split
      · exact .cons hab ih
      · exact ih
  | @other b _ _ hb _ ih =>
      rw [List.filter_cons_of_neg (by simp [hother b hb])]
      exact ih

theorem flatMap_eq {f : α → List γ} {g : β → List γ} (h : Interleaved R Other as bs)
    (hsame : ∀ a b, R a b → g b = f a) (hother : ∀ b, Other b → g b = []) :
    bs.flatMap g = as.flatMap f := by
  induction h with
  | nil => rfl
  | found hab _ ih => rw [List.flatMap_cons, List.flatMap_cons, hsame _ _ hab, ih]
  | other hb _ ih => rw [List.flatMap_cons, hother _ hb, ih, List.nil_append]

/-- Rows for each item, one behind the other, are found again as the items are, if
the rows of the other items have nothing to be found. -/
theorem flatMap {α' β' : Type} {S : α' → β' → Prop} {Other' : β' → Prop} {f : α → List α'}
    {g : β → List β'} (h : Interleaved R Other as bs)
    (hfound : ∀ a ∈ as, ∀ b, R a b → Interleaved S Other' (f a) (g b))
    (hother : ∀ b, Other b → Interleaved S Other' [] (g b)) :
    Interleaved S Other' (as.flatMap f) (bs.flatMap g) := by
  induction h with
  | nil => exact .nil
  | found hab _ ih =>
      obtain ⟨ha, has⟩ := List.forall_mem_cons.mp hfound
      exact (ha _ hab).append (ih has)
  | other hb _ ih => exact (hother _ hb).append (ih hfound)

theorem exists_of_mem {a : α} (h : Interleaved R Other as bs) (ha : a ∈ as) :
    ∃ b ∈ bs, R a b := by
  induction h with
  | nil => cases ha
  | @found a' b _ _ hab _ ih =>
      rcases List.mem_cons.mp ha with rfl | ha
      · exact ⟨b, List.mem_cons_self, hab⟩
      · obtain ⟨b', hb', hab'⟩ := ih ha
        exact ⟨b', List.mem_cons_of_mem b hb', hab'⟩
  | @other b _ _ _ _ ih =>
      obtain ⟨b', hb', hab'⟩ := ih ha
      exact ⟨b', List.mem_cons_of_mem b hb', hab'⟩

theorem any_eq {p : α → Bool} {q : β → Bool} (h : Interleaved R Other as bs)
    (hsame : ∀ a b, R a b → p a = q b) (hother : ∀ b, Other b → q b = false) :
    bs.any q = as.any p := by
  induction h with
  | nil => rfl
  | found hab _ ih => rw [List.any_cons, List.any_cons, hsame _ _ hab, ih]
  | other hb _ ih => rw [List.any_cons, hother _ hb, ih, Bool.false_or]

theorem filterMap_eq {f : α → Option γ} {g : β → Option γ} (h : Interleaved R Other as bs)
    (hsame : ∀ a b, R a b → g b = f a) (hother : ∀ b, Other b → g b = none) :
    bs.filterMap g = as.filterMap f := by
  rw [List.filterMap_eq_flatMap_toList, List.filterMap_eq_flatMap_toList]
  apply h.flatMap_eq
  · intro a b hab
    rw [hsame a b hab]
  · intro b hb
    rw [hother b hb]
    rfl

end Interleaved

theorem map_eq_of_forall₂ {α β γ : Type} {R : α → β → Prop} {as : List α} {bs : List β}
    {f : α → γ} {g : β → γ} (h : List.Forall₂ R as bs)
    (hsame : ∀ a ∈ as, ∀ b, R a b → g b = f a) : bs.map g = as.map f := by
  induction h with
  | nil => rfl
  | cons hab _ ih =>
      obtain ⟨ha, has⟩ := List.forall_mem_cons.mp hsame
      rw [List.map_cons, List.map_cons, ha _ hab, ih has]

/-- Optional items that are related: both are there, or none of them. -/
theorem rel_cases {α β : Type} {R : α → β → Prop} {x : Option α} {y : Option β}
    (h : Option.Rel R x y) :
    (x = none ∧ y = none) ∨ ∃ a b, x = some a ∧ y = some b ∧ R a b := by
  cases h with
  | none => exact Or.inl ⟨rfl, rfl⟩
  | some hab => exact Or.inr ⟨_, _, rfl, rfl, hab⟩

theorem rel_head? {α β : Type} {R : α → β → Prop} {as : List α} {bs : List β}
    (h : List.Forall₂ R as bs) : Option.Rel R as.head? bs.head? := by
  cases h with
  | nil => exact .none
  | cons hab _ => exact .some hab

theorem rel_bind {α β γ δ : Type} {R : α → β → Prop} {S : γ → δ → Prop} {x : Option α}
    {y : Option β} {f : α → Option γ} {g : β → Option δ} (h : Option.Rel R x y)
    (hfg : ∀ a b, R a b → Option.Rel S (f a) (g b)) : Option.Rel S (x.bind f) (y.bind g) := by
  cases h with
  | none => exact .none
  | some hab => exact hfg _ _ hab

theorem rel_isSome {α β : Type} {R : α → β → Prop} {x : Option α} {y : Option β}
    (h : Option.Rel R x y) : y.isSome = x.isSome := by
  cases h <;> rfl

theorem rel_or {α β : Type} {R : α → β → Prop} {x x' : Option α} {y y' : Option β}
    (h : Option.Rel R x y) (h' : Option.Rel R x' y') : Option.Rel R (x.or x') (y.or y') := by
  cases h with
  | none => exact h'
  | some hab => exact .some hab

namespace Node

/-- A comment by itself: it plays no part and has nothing below it. -/
structure IsRemark (c : Node) : Prop where
  kind : c.kind = .comment
  field : c.field = none
  children : c.children = []

/-- A relation between the nodes of two trees that only comments tell apart:
related nodes are of the same kind and play the same part, and the children of
one are found again among those of the other, in order and with comments between
them. -/
structure Transparent (R : Node → Node → Prop) : Prop where
  kind : ∀ {n m : Node}, R n m → m.kind = n.kind
  field : ∀ {n m : Node}, R n m → m.field = n.field
  children : ∀ {n m : Node}, R n m → Interleaved R IsRemark n.children m.children

namespace Transparent

variable {R : Node → Node → Prop} {n m : Node}

theorem child? (hR : Transparent R) (h : R n m) (f : Field) :
    Option.Rel R (n.child? f) (m.child? f) := by
  unfold Node.child?
  rw [← List.head?_filter, ← List.head?_filter]
  apply rel_head?
  apply (hR.children h).filter
  · intro c c' hc
    rw [hR.field hc]
  · intro c hc
    rw [hc.field]
    rfl

/-- The children of some kinds are found again, if comments are not among
these. -/
theorem filter (hR : Transparent R) (h : R n m) {p : Kind → Bool} (hp : p .comment = false) :
    List.Forall₂ R (n.children.filter (p ·.kind)) (m.children.filter (p ·.kind)) := by
  apply (hR.children h).filter
  · intro c c' hc
    rw [hR.kind hc]
  · intro c hc
    rw [hc.kind, hp]

theorem properChildren (hR : Transparent R) (h : R n m) :
    List.Forall₂ R n.properChildren m.properChildren := by
  have hproper : ∀ o : Node,
      o.properChildren = o.children.filter fun c => !(c.kind == .comment) && c.kind.isNamed := by
    intro o
    exact List.filter_filter
  rw [hproper, hproper]
  exact hR.filter h (p := fun k => !(k == .comment) && k.isNamed) rfl

/-- What stands in parentheses is found again in them. -/
theorem bare? (hR : Transparent R) (h : R n m) : Option.Rel R n.bare? m.bare? := by
  induction n using tree_induction generalizing m with
  | step n ih =>
      rw [bare?_eq, bare?_eq, hR.kind h]
      split
      · rcases rel_cases (rel_head? (hR.properChildren h)) with ⟨hn, hm⟩ | ⟨c, c', hn, hm, hc⟩
        · rw [hn, hm]
          exact .none
        · rw [hn, hm]
          exact ih c (mem_children_of_head? hn) hc
      · exact .some h

theorem bareChild (hR : Transparent R) (h : R n m) (f : Field) :
    Option.Rel R ((n.child? f).bind Node.bare?) ((m.child? f).bind Node.bare?) :=
  rel_bind (hR.child? h f) fun _ _ hc => hR.bare? hc

end Transparent

/-- A tree and its copy: node by node of the same kinds and in the same parts,
and the same in some other way. -/
inductive Copied (Same : Node → Node → Prop) : Node → Node → Prop
  | intro {n m : Node} (hkind : m.kind = n.kind) (hfield : m.field = n.field) (hsame : Same n m)
      (hchildren : List.Forall₂ (Copied Same) n.children m.children) : Copied Same n m

/-- A tree and the same one with more comments. A node is copied, or comments
were put behind its children, at some of them or inside them. -/
inductive Commented (Same Open : Node → Node → Prop) : Node → Node → Prop
  | copied {n m : Node} (h : Copied Same n m) : Commented Same Open n m
  | opened {n m first first' : Node} {rest rest' : List Node} (hkind : m.kind = n.kind)
      (hfield : m.field = n.field) (hopen : Open n m) (hn : n.children = first :: rest)
      (hm : m.children = first' :: rest') (hfirst : Commented Same Open first first')
      (hrest : Interleaved (Commented Same Open) IsRemark rest rest') : Commented Same Open n m

theorem Copied.children {Same : Node → Node → Prop} {n m : Node} (h : Copied Same n m) :
    List.Forall₂ (Copied Same) n.children m.children := by
  cases h with
  | intro _ _ _ hchildren => exact hchildren

theorem Copied.kind {Same : Node → Node → Prop} {n m : Node} (h : Copied Same n m) :
    m.kind = n.kind := by
  cases h with
  | intro hkind => exact hkind

theorem Copied.same {Same : Node → Node → Prop} {n m : Node} (h : Copied Same n m) : Same n m := by
  cases h with
  | intro _ _ hsame _ => exact hsame

namespace Commented

variable {Same Open : Node → Node → Prop} {n m : Node}

theorem kind (h : Commented Same Open n m) : m.kind = n.kind := by
  cases h with
  | copied h => exact h.kind
  | opened hkind => exact hkind

theorem field (h : Commented Same Open n m) : m.field = n.field := by
  cases h with
  | copied h =>
      cases h with
      | intro _ hfield => exact hfield
  | opened _ hfield => exact hfield

/-- A node without children has no place for a comment. -/
theorem copied_of_leaf (h : Commented Same Open n m) (hleaf : n.children = []) :
    Copied Same n m := by
  cases h with
  | copied h => exact h
  | opened _ _ _ hn =>
      rw [hleaf] at hn
      cases hn

theorem children (h : Commented Same Open n m) :
    Interleaved (Commented Same Open) IsRemark n.children m.children := by
  cases h with
  | copied h => exact .of_forall₂ (h.children.imp fun _ _ => .copied)
  | opened _ _ _ hn hm hfirst hrest =>
      rw [hn, hm]
      exact .found hfirst hrest

/-- No comment stands before the first child. -/
theorem head? (h : Commented Same Open n m) :
    Option.Rel (Commented Same Open) n.children.head? m.children.head? := by
  cases h with
  | copied h => exact rel_head? (h.children.imp fun _ _ => .copied)
  | opened _ _ _ hn hm hfirst _ =>
      rw [hn, hm]
      exact .some hfirst

theorem transparent : Transparent (Commented Same Open) := ⟨kind, field, children⟩

/-- A variable keeps its name, if names are words with nothing below them. -/
theorem declaratorName_eq {src src' : Source} (h : Commented Same Open n m)
    (htext : ∀ n m, Same n m → src'.text m = src.text n)
    (hword : ∀ c ∈ n.children, c.kind = .identifier → c.children = []) :
    m.declaratorName src' = n.declaratorName src := by
  unfold declaratorName
  rcases rel_cases (transparent.child? h .name) with ⟨hn, hm⟩ | ⟨name, name', hn, hm, hname⟩
  · rw [hn, hm]
  · rw [hn, hm]
    dsimp only
    rw [hname.kind]
    split
    · rename_i hkind
      have hleaf := hword name (List.mem_of_find?_eq_some hn) (by simpa using hkind)
      exact htext name name' (hname.copied_of_leaf hleaf).same
    · rfl

end Commented

/-! Both relations can be checked. -/

def isRemark (c : Node) : Bool := c.kind == .comment && c.field == none && c.children.isEmpty

theorem isRemark_of_check {c : Node} (h : c.isRemark = true) : c.IsRemark := by
  simp only [isRemark, Bool.and_eq_true, beq_iff_eq, List.isEmpty_iff] at h
  exact ⟨h.1.1, h.1.2, h.2⟩

mutual

/-- Whether a tree is a copy of another one. -/
def isCopy (same : Node → Node → Bool) : Node → Node → Bool
  | n, ⟨k, f, start, stop, ms⟩ =>
    k == n.kind && f == n.field && same n ⟨k, f, start, stop, ms⟩ && areCopies same n.children ms

/-- Whether trees are copies of others, one by one. -/
def areCopies (same : Node → Node → Bool) : List Node → List Node → Bool
  | ns, [] => ns.isEmpty
  | [], _ :: _ => false
  | n :: ns, m :: ms => isCopy same n m && areCopies same ns ms

end

mutual

/-- Whether a tree is another one with more comments. -/
def isCommented (same opens : Node → Node → Bool) : Node → Node → Bool
  | n, ⟨k, f, start, stop, ms⟩ =>
    isCopy same n ⟨k, f, start, stop, ms⟩ ||
      k == n.kind && f == n.field && opens n ⟨k, f, start, stop, ms⟩ &&
        startsCommented same opens n.children ms

/-- Whether trees are others with more comments, the first of them at the front. -/
def startsCommented (same opens : Node → Node → Bool) : List Node → List Node → Bool
  | n :: ns, m :: ms => isCommented same opens n m && areCommented same opens ns ms
  | _, _ => false

/-- Whether trees are others with more comments, in them and among them. -/
def areCommented (same opens : Node → Node → Bool) : List Node → List Node → Bool
  | ns, [] => ns.isEmpty
  | [], m :: ms => m.isRemark && areCommented same opens [] ms
  | n :: ns, m :: ms => isCommented same opens n m && areCommented same opens ns ms ||
      m.isRemark && areCommented same opens (n :: ns) ms

end

section Check

variable {Same Open : Node → Node → Prop} {same opens : Node → Node → Bool}

theorem forall₂_of_areCopies {ns ms : List Node}
    (hone : ∀ m ∈ ms, ∀ n, isCopy same n m = true → Copied Same n m)
    (h : areCopies same ns ms = true) : List.Forall₂ (Copied Same) ns ms := by
  induction ms generalizing ns with
  | nil =>
      rw [areCopies, List.isEmpty_iff] at h
      rw [h]
      exact .nil
  | cons m ms ih =>
      obtain ⟨hm, hms⟩ := List.forall_mem_cons.mp hone
      cases ns with
      | nil =>
          rw [areCopies] at h
          cases h
      | cons n ns =>
          rw [areCopies, Bool.and_eq_true] at h
          exact .cons (hm n h.1) (ih hms h.2)

theorem copied_of_isCopy (hsame : ∀ n m, same n m = true → Same n m) {n m : Node}
    (h : isCopy same n m = true) : Copied Same n m := by
  induction m using tree_induction generalizing n with
  | step m ih =>
      obtain ⟨k, f, start, stop, ms⟩ := m
      simp only [isCopy, Bool.and_eq_true, beq_iff_eq] at h
      obtain ⟨⟨⟨hkind, hfield⟩, hnode⟩, hchildren⟩ := h
      exact .intro hkind hfield (hsame _ _ hnode)
        (forall₂_of_areCopies (fun m hm n => ih m hm) hchildren)

theorem interleaved_of_areCommented {ns ms : List Node}
    (hone : ∀ m ∈ ms, ∀ n, isCommented same opens n m = true → Commented Same Open n m)
    (h : areCommented same opens ns ms = true) :
    Interleaved (Commented Same Open) IsRemark ns ms := by
  induction ms generalizing ns with
  | nil =>
      rw [areCommented, List.isEmpty_iff] at h
      rw [h]
      exact .nil
  | cons m ms ih =>
      obtain ⟨hm, hms⟩ := List.forall_mem_cons.mp hone
      cases ns with
      | nil =>
          rw [areCommented, Bool.and_eq_true] at h
          exact .other (isRemark_of_check h.1) (ih hms h.2)
      | cons n ns =>
          rw [areCommented, Bool.or_eq_true, Bool.and_eq_true, Bool.and_eq_true] at h
          rcases h with ⟨hfound, hrest⟩ | ⟨hremark, hrest⟩
          · exact .found (hm n hfound) (ih hms hrest)
          · exact .other (isRemark_of_check hremark) (ih hms hrest)

theorem commented_of_isCommented (same opens : Node → Node → Bool)
    (hsame : ∀ n m, same n m = true → Same n m)
    (hopen : ∀ n m, opens n m = true → Open n m) {n m : Node}
    (h : isCommented same opens n m = true) : Commented Same Open n m := by
  induction m using tree_induction generalizing n with
  | step m ih =>
      obtain ⟨k, f, start, stop, ms⟩ := m
      simp only [isCommented, Bool.or_eq_true, Bool.and_eq_true, beq_iff_eq] at h
      rcases h with hcopy | ⟨⟨⟨hkind, hfield⟩, hnode⟩, hstarts⟩
      · exact .copied (copied_of_isCopy hsame hcopy)
      · cases hn : n.children with
        | nil =>
            rw [hn, startsCommented.eq_def] at hstarts
            cases hstarts
        | cons first rest =>
            cases ms with
            | nil =>
                rw [hn, startsCommented.eq_def] at hstarts
                cases hstarts
            | cons first' rest' =>
                rw [hn, startsCommented, Bool.and_eq_true] at hstarts
                refine .opened hkind hfield (hopen _ _ hnode) hn rfl
                  (ih first' List.mem_cons_self hstarts.1) ?_
                exact interleaved_of_areCommented
                  (fun m hm n => ih m (List.mem_cons_of_mem _ hm)) hstarts.2

end Check

/-! Parts of documents of one line. -/

def emptyComment (start : Nat) : Node := inLine .comment none start (start + 4)

def sign (text : String) (start : Nat) : Node := inLine (.token text) none start (start + 1)

end Node

namespace Site

/-- Two sites with related nodes, and with related ancestors all the way up. -/
structure Pairs (R : Node → Node → Prop) (s t : Site) : Prop where
  node : R s.node t.node
  above : List.Forall₂ R s.above t.above

variable {R : Node → Node → Prop} {s t : Site}

theorem Pairs.parent? (h : Pairs R s t) : Option.Rel R s.parent? t.parent? := rel_head? h.above

/-- The innermost functions around two sites are related as the sites are, if
related nodes are of the same kinds. -/
theorem Pairs.enclosing? (h : Pairs R s t) (hkind : ∀ n m, R n m → m.kind = n.kind) :
    Option.Rel (Pairs R) s.enclosing? t.enclosing? := by
  have hup : ∀ {above above' : List Node}, List.Forall₂ R above above' →
      Option.Rel (Pairs R) (Site.enclosing?.go above) (Site.enclosing?.go above') := by
    intro above above' habove
    induction habove with
    | nil => exact .none
    | @cons n m above above' hnm habove ih =>
        rw [Site.enclosing?.go, Site.enclosing?.go, hkind n m hnm]
        split
        · exact .some ⟨hnm, habove⟩
        · exact ih
  exact hup h.above

end Site

/-- A walk through a tree finds the nodes of a related one, in order and with
their ancestors, and else comments only. The induction is over the tree. -/
theorem Node.interleaved_preorder {R : Node → Node → Prop}
    (hchildren : ∀ n m, R n m → Interleaved R IsRemark n.children m.children) {n m : Node}
    (h : R n m) {above above' : List Node} (habove : List.Forall₂ R above above') :
    Interleaved (Site.Pairs R) (fun t => t.node.IsRemark) (n.preorder above)
      (m.preorder above') := by
  induction n using tree_induction generalizing m above above' with
  | step n ih =>
      rw [preorder_eq above n, preorder_eq above' m]
      refine .found ⟨h, habove⟩ ((hchildren n m h).flatMap ?_ ?_)
      · intro c hc c' hcc'
        exact ih c hc hcc' (.cons h habove)
      · intro c hc
        rw [preorder_eq, hc.children]
        exact .other hc .nil

end BundleAtlas
