import BundleAtlas.Proofs.Grammar.Invariant
import Mathlib.Data.List.Induction
import Mathlib.Order.Basic

/-!
Commas in arrays. `Phrase.spacing` looks at a phrase without a text and bounds
how many nodes it can put between two separators; the bound holds for all that
a reader can read. Both dialects pass the check `Phrase.spacesArrays`, so two
elements of an array always have a comma between them, in every document.
-/

namespace BundleAtlas

/-- What a node is in a row: passed over, a separator, or an item. -/
inductive Role where
  | passed
  | separator
  | item
deriving DecidableEq

/-- The parts that nodes play in a row by their kinds. Comments are passed over. -/
structure RowView where
  role : Kind → Role
  comment : role .comment = .passed

namespace RowView

/-- Everything but a comment is an item: nothing separates. -/
def items : RowView where
  role k := if k = .comment then .passed else .item
  comment := rfl

/-- The inside of an array: commas separate, and its brackets do not count. -/
def array : RowView where
  role k :=
    if k = .token "[" ∨ k = .token "]" ∨ k = .comment then .passed
    else if k = .token "," then .separator
    else .item
  comment := by decide

end RowView

/-- How far the items of a row keep apart: none since the last separator, at
most one since then, or somewhere two with no separator between them. -/
inductive Spacing where
  | vacant
  | single
  | crowded
deriving DecidableEq

namespace Spacing

def rank : Spacing → Nat
  | vacant => 0
  | single => 1
  | crowded => 2

instance : LE Spacing := ⟨fun a b => a.rank ≤ b.rank⟩

instance (a b : Spacing) : Decidable (a ≤ b) := inferInstanceAs (Decidable (a.rank ≤ b.rank))

instance : Max Spacing := maxOfLe

instance : Preorder Spacing where
  le_refl a := Nat.le_refl a.rank
  le_trans _ _ _ hab hbc := Nat.le_trans hab hbc

/-- One more item. -/
def next : Spacing → Spacing
  | vacant => single
  | single | crowded => crowded

/-- One more node. A separator does not mend what is crowded. -/
def step (l : Spacing) : Role → Spacing
  | .passed => l
  | .separator => if l = crowded then crowded else vacant
  | .item => l.next

/-- More nodes, of which only the number of items is known. -/
def plus (l : Spacing) : Spacing → Spacing
  | vacant => l
  | single => l.next
  | crowded => crowded

/-- The least bound from a start on that a repeated change keeps. -/
def closure (change : Spacing → Spacing) (l : Spacing) : Spacing :=
  if change l ≤ l then l
  else if l ≤ single ∧ change single ≤ single then single
  else crowded

/-- The spacing behind a row of nodes. -/
def along (view : RowView) (l : Spacing) (ns : List Node) : Spacing :=
  ns.foldl (fun l n => l.step (view.role n.kind)) l

theorem vacant_le (l : Spacing) : vacant ≤ l := by cases l <;> decide

theorem le_crowded (l : Spacing) : l ≤ crowded := by cases l <;> decide

theorem le_max_left (a b : Spacing) : a ≤ max a b := by cases a <;> cases b <;> decide

theorem le_max_right (a b : Spacing) : b ≤ max a b := by cases a <;> cases b <;> decide

theorem le_next (l : Spacing) : l ≤ l.next := by cases l <;> decide

theorem step_le_next (l : Spacing) (r : Role) : l.step r ≤ l.next := by
  cases l <;> cases r <;> decide

theorem next_mono {a b : Spacing} (h : a ≤ b) : a.next ≤ b.next := by
  revert h
  cases a <;> cases b <;> decide

theorem step_mono {a b : Spacing} (h : a ≤ b) (r : Role) : a.step r ≤ b.step r := by
  revert h
  cases a <;> cases b <;> cases r <;> decide

theorem plus_mono {a b c d : Spacing} (hab : a ≤ b) (hcd : c ≤ d) : a.plus c ≤ b.plus d := by
  revert hab hcd
  cases a <;> cases b <;> cases c <;> cases d <;> decide

theorem closure_eq_self {change : Spacing → Spacing} {l : Spacing} (h : change l ≤ l) :
    closure change l = l := by
  rw [closure, if_pos h]

theorem le_closure (change : Spacing → Spacing) (l : Spacing) : l ≤ closure change l := by
  unfold closure
  split
  · exact le_refl l
  · split
    · rename_i hsingle
      exact hsingle.1
    · exact le_crowded l

theorem closure_closed (change : Spacing → Spacing) (l : Spacing) :
    change (closure change l) ≤ closure change l := by
  unfold closure
  split
  · assumption
  · split
    · rename_i hsingle
      exact hsingle.2
    · exact le_crowded _

theorem along_append (view : RowView) (l : Spacing) (xs ys : List Node) :
    along view l (xs ++ ys) = along view (along view l xs) ys :=
  List.foldl_append

theorem along_comments (view : RowView) (l : Spacing) {ns : List Node}
    (hcomments : ∀ n ∈ ns, n.kind = .comment) : along view l ns = l := by
  induction ns with
  | nil => rfl
  | cons n ns ih =>
      have hn : view.role n.kind = .passed := by
        rw [hcomments n List.mem_cons_self]
        exact view.comment
      change along view (l.step (view.role n.kind)) ns = l
      rw [hn]
      exact ih fun m hm => hcomments m (List.mem_cons_of_mem n hm)

/-- Whatever separates, a row takes no more room than its items do. -/
theorem along_le_plus (view : RowView) (l : Spacing) (ns : List Node) :
    along view l ns ≤ l.plus (along .items vacant ns) := by
  induction ns using List.reverseRecOn with
  | nil => exact le_refl l
  | append_singleton ns n ih =>
      rw [along_append, along_append]
      change (along view l ns).step (view.role n.kind) ≤
        l.plus ((along .items vacant ns).step (RowView.items.role n.kind))
      by_cases hcomment : n.kind = .comment
      · rw [hcomment, view.comment, RowView.items.comment]
        exact ih
      · have hitem : RowView.items.role n.kind = .item := if_neg hcomment
        rw [hitem]
        cases hcount : along .items vacant ns with
        | vacant =>
            rw [hcount] at ih
            exact (step_le_next _ _).trans (next_mono ih)
        | single => exact le_crowded _
        | crowded => exact le_crowded _

end Spacing

/-- How many nodes a rule can give, comments aside: a few rules are rows of
their own, all others give one. -/
def Rule.spacing : Rule → Spacing
  | .signature | .type | .typePrimary | .typeOperand | .modifiers | .classMember => .crowded
  | _ => .single

namespace Phrase

/-- A bound on the spacing behind a phrase, from a bound on the spacing before
it. Nodes that are read apart count by their number. -/
def spacing (view : RowView) : Phrase → Spacing → Spacing
  | .lex _ k, l | .raw _ k, l => l.step (view.role k)
  | .seq p q, l => q.spacing view (p.spacing view l)
  | .either p q, l => max (p.spacing view l) (q.spacing view l)
  | .many p, l => Spacing.closure (p.spacing view) l
  | .field _ p, l => l.plus (p.spacing .items .vacant)
  | .node _ _, l => l.next
  | .call r, l => l.plus r.spacing
  | .grow base suffix, l =>
    l.plus (Spacing.closure (suffix.spacing .items) (base.spacing .items .vacant))
  | .enclose _ _ _, _ => .single
  | .within _ p, l => p.spacing view l
  | .done, l | .ahead _, l | .unless _, l | .shape _, l | .guard _, l | .implied _, l | .unbroken, l
  | .finish, l => l

/-- Whether every array that a phrase can make has its elements apart. -/
def spacesArrays : Phrase → Bool
  | .seq p q | .either p q | .grow p q => p.spacesArrays && q.spacesArrays
  | .many p | .ahead p | .unless p | .field _ p | .within _ p => p.spacesArrays
  | .node k p =>
    (k != .array || decide (p.spacing .array .vacant ≤ .single)) && p.spacesArrays
  | .enclose k _ p => k != .array && p.spacesArrays
  | _ => true

end Phrase

/-- A grammar whose rules give no more nodes than they are said to, and whose
arrays have their elements apart. -/
structure Grammar.Spaced (g : Grammar) : Prop where
  rule_spacing : ∀ r, (g.body r).spacing .items .vacant ≤ r.spacing
  arrays : ∀ r, (g.body r).spacesArrays = true

namespace Spacing

/-- Dropping comments in front changes nothing. -/
theorem along_dropWhile (view : RowView) (l : Spacing) (ns : List Node) :
    along view l (ns.dropWhile Node.isComment) = along view l ns := by
  have htaken : ∀ n ∈ ns.takeWhile Node.isComment, n.kind = .comment := by
    intro n hn
    have hkind : n.isComment = true := List.mem_takeWhile_imp hn
    simpa [Node.isComment] using hkind
  have hsplit := along_append view l (ns.takeWhile Node.isComment) (ns.dropWhile Node.isComment)
  rw [List.takeWhile_append_dropWhile, along_comments view l htaken] at hsplit
  exact hsplit.symm

/-- A node that is put around others takes the room of one item at most. -/
theorem along_around (view : RowView) (l : Spacing) (k : Kind) (f : Option Field) (stop : Mark)
    (ms : List Node) : along view l (Node.around k f stop ms).reverse ≤ l.next := by
  obtain ⟨made, comments, haround, hcomments, hmade⟩ := Node.around_eq k f stop ms
  have hskip : along view l comments.reverse = l := by
    apply along_comments
    intro n hn
    exact (hcomments n (List.mem_reverse.mp hn)).1
  rw [haround, List.reverse_append, along_append, hskip]
  rcases hmade with rfl | ⟨c, cs, _, rfl⟩
  · exact le_next l
  · exact step_le_next l _

end Spacing

/-- Both dialects pass the check, rule by rule. -/
theorem Grammar.dialect_spaced (typed : Bool) : (Grammar.dialect typed).Spaced where
  rule_spacing r := by cases typed <;> cases r <;> decide
  arrays r := by cases typed <;> cases r <;> decide

private theorem along_remarks (view : RowView) (l : Spacing) (rs : List Remark) :
    Spacing.along view l (rs.map (·.node)) = l := by
  apply Spacing.along_comments
  intro n hn
  obtain ⟨r, _, rfl⟩ := List.mem_map.mp hn
  rfl

private theorem along_mark (view : RowView) (l : Spacing) (f : Field) (ms : List Node) :
    Spacing.along view l (Node.mark f ms).reverse = Spacing.along view l ms.reverse := by
  have hkind : ∀ n : Node, (if n.isComment then n else { n with field := some f }).kind = n.kind := by
    intro n
    split <;> rfl
  rw [Node.mark, ← List.map_reverse]
  simp only [Spacing.along, List.foldl_map, hkind]

/-- The bound of a phrase holds for all nodes that can be read by it. -/
theorem Reads.spacing_le {g : Grammar} (hg : g.Spaced) {text : List Char} {p : Phrase}
    {s : Setting} {c d : Cursor} {ns ms : List Node} (hread : Reads g text p s c ns d ms)
    (view : RowView) {l : Spacing}
    (hns : Spacing.along view .vacant ns.reverse ≤ l) :
    Spacing.along view .vacant ms.reverse ≤ p.spacing view l := by
  induction hread generalizing view l with
  | done => exact hns
  | @lex _ k _ c ns n _ =>
      simp only [Cursor.take, List.reverse_append, List.reverse_cons, List.reverse_reverse,
        Spacing.along_append, along_remarks]
      exact Spacing.step_mono hns _
  | @raw _ k _ c ns n _ =>
      simp only [Cursor.takeRaw, List.reverse_cons, Spacing.along_append]
      exact Spacing.step_mono hns _
  | seq _ _ ihp ihq => exact ihq view (ihp view hns)
  | left _ ih => exact (ih view hns).trans (Spacing.le_max_left _ _)
  | right _ ih => exact (ih view hns).trans (Spacing.le_max_right _ _)
  | stop => exact hns.trans (Spacing.le_closure _ l)
  | @more p _ _ _ _ _ _ _ _ _ ihp ihrest =>
      -- the bound of the loop is kept by its body, so it is its own closure
      have hclosed := Spacing.closure_closed (p.spacing view) l
      have hone := ihp view (hns.trans (Spacing.le_closure (p.spacing view) l))
      have hrest := ihrest view (hone.trans hclosed)
      simp only [Phrase.spacing] at hrest
      rw [Spacing.closure_eq_self hclosed] at hrest
      exact hrest
  | ahead => exact hns
  | «unless» => exact hns
  | field _ ih =>
      rw [List.reverse_append, Spacing.along_append, along_mark]
      have hitems := ih .items (le_refl _)
      exact (Spacing.along_le_plus view _ _).trans (Spacing.plus_mono hns hitems)
  | node _ _ =>
      rw [List.reverse_append, Spacing.along_append]
      exact (Spacing.along_around view _ _ _ _ _).trans (Spacing.next_mono hns)
  | @call r _ _ _ _ _ _ _ _ _ ih =>
      rw [List.reverse_append, Spacing.along_append]
      have hitems := (ih .items (le_refl _)).trans (hg.rule_spacing r)
      exact (Spacing.along_le_plus view _ _).trans (Spacing.plus_mono hns hitems)
  | grow _ _ ihbase ihsuffix =>
      rw [List.reverse_append, Spacing.along_append]
      have hitems := ihsuffix .items (ihbase .items (le_refl _))
      exact (Spacing.along_le_plus view _ _).trans (Spacing.plus_mono hns hitems)
  | enclose _ _ => exact Spacing.along_around view .vacant _ _ _ _
  | shape => exact hns
  | guard => exact hns
  | within _ ih => exact ih view hns
  | implied hclose =>
      obtain ⟨taken, rfl⟩ := Cursor.closeFrom_eq hclose
      rw [List.reverse_append, List.reverse_reverse, Spacing.along_append, along_remarks]
      exact hns
  | unbroken => exact hns
  | finish =>
      rw [List.reverse_append, List.reverse_reverse, Spacing.along_append, along_remarks]
      exact hns

/-- If the node is an array, two of its elements have a comma between them. -/
def Node.SpacesElements (n : Node) : Prop :=
  n.kind = .array → Spacing.along .array .vacant n.children ≤ .single

theorem Phrase.spacesArrays_of_mem_parts {p q : Phrase} (hp : p.spacesArrays = true)
    (hq : q ∈ p.parts) : q.spacesArrays = true := by
  cases p <;> simp_all [parts, spacesArrays]
  all_goals rcases hq with rfl | rfl <;> simp_all [spacesArrays]

/-- Reading by a grammar that passes the check makes arrays whose elements are
apart. -/
theorem Grammar.Spaced.keeps {g : Grammar} (hg : g.Spaced) (text : List Char) :
    g.Keeps text Phrase.spacesArrays Node.SpacesElements where
  rules := hg.arrays
  parts _ hp _ hq := Phrase.spacesArrays_of_mem_parts hp hq
  field _ _ h := h
  comment _ _ := Spacing.vacant_le _
  token _ _ _ _ := Spacing.vacant_le _
  node hp hread hdrop := by
    intro hk
    simp only [Phrase.spacesArrays, Bool.and_eq_true, Bool.or_eq_true, bne_iff_ne,
      decide_eq_true_eq] at hp
    have hrow := (hread.spacing_le hg .array (le_refl _)).trans
      (hp.1.resolve_left fun hne => hne hk)
    rw [← Spacing.along_dropWhile, hdrop] at hrow
    exact hrow
  enclose _ _ _ hp := by
    intro hk
    simp only [Phrase.spacesArrays, Bool.and_eq_true, bne_iff_ne] at hp
    exact absurd hk hp.1

/-- In every document that can be read, of either dialect, two elements of an
array have a comma between them. -/
theorem Dialect.parse_spacesElements {dialect : Dialect} {text : String} {p : Parsed}
    (hparse : dialect.parse text = .ok p) : p.root.Everywhere Node.SpacesElements :=
  Dialect.everywhere_of_parse ((Grammar.dialect_spaced dialect.isTyped).keeps _) rfl
    (fun _ => Spacing.vacant_le _) hparse

end BundleAtlas
