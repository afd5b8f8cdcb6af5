import BundleAtlas.Proofs.Grammar.Placement
import BundleAtlas.Proofs.Tree.First

/-!
The order of the nodes of a document. Where every node has its children in a
row inside of it, a walk that takes each node before its children and children
from left to right never goes back in the text. Documents that have been read
are laid out so: no rule but the first one makes a whole document, and the
comments behind its end stand in the same row as its statements.
-/

namespace BundleAtlas

namespace Node

/-- A node reaches from a mark of the text to another one, with its children in
a row between them. -/
structure InPlace (text : List Char) (n : Node) : Prop where
  start : n.start.Of text
  stop : n.stop.Of text
  row : Row n.start.offset n.children n.stop.offset

instance (text : List Char) (n : Node) : Decidable (n.InPlace text) :=
  decidable_of_iff
    (n.start.Of text ∧ n.stop.Of text ∧ Row n.start.offset n.children n.stop.offset)
    ⟨fun h => ⟨h.1, h.2.1, h.2.2⟩, fun h => ⟨h.start, h.stop, h.row⟩⟩

/-- A tree whose nodes are all in place, except that the children of its root
may reach further than the root itself, if that is a whole document. -/
structure LaidOut (text : List Char) (root : Node) : Prop where
  start : root.start.Of text
  stop : root.stop.Of text
  self : root.kind ≠ .program → Row root.start.offset root.children root.stop.offset
  row : ∃ reach, Row root.start.offset root.children reach
  below : ∀ c ∈ root.children, c.Everywhere (InPlace text)

variable {text : List Char} {n root : Node}

theorem LaidOut.of_everywhere (h : root.Everywhere (InPlace text)) : root.LaidOut text where
  start := h.here.start
  stop := h.here.stop
  self _ := h.here.row
  row := ⟨_, h.here.row⟩
  below _ hc := h.of_mem_children hc

/-- What is below a node in place stays inside of it. -/
theorem InPlace.bounds (h : n.Everywhere (InPlace text)) {above : List Node} {s : Site}
    (hs : s ∈ n.preorder above) :
    n.start.offset ≤ s.node.start.offset ∧ s.node.stop.offset ≤ n.stop.offset := by
  induction n using tree_induction generalizing above with
  | step n ih =>
      rw [preorder_eq] at hs
      rcases List.mem_cons.mp hs with rfl | hs
      · exact ⟨Nat.le_refl _, Nat.le_refl _⟩
      · obtain ⟨c, hc, hs⟩ := List.mem_flatMap.mp hs
        have hchild := h.here.row.bounds hc
        have hinside := ih c hc (h.of_mem_children hc) hs
        omega

/-- The sites of trees in a row come in the order of their starts, if those of
each tree do. -/
theorem Row.pairwise_preorder {lo hi : Nat} {ns above : List Node} (hrow : Row lo ns hi)
    (hplace : ∀ n ∈ ns, n.Everywhere (InPlace text))
    (heach : ∀ n ∈ ns, (n.preorder above).Pairwise
      fun s t => s.node.start.offset ≤ t.node.start.offset) :
    (ns.flatMap (preorder above)).Pairwise
      fun s t => s.node.start.offset ≤ t.node.start.offset := by
  refine List.pairwise_flatMap.mpr ⟨heach, hrow.pairwise.imp_of_mem ?_⟩
  intro a b ha hb hapart s hs t ht
  have hfirst := InPlace.bounds (hplace a ha) hs
  have hself := ((hplace a ha).of_mem_preorder hs).here.row.le
  have hsecond := InPlace.bounds (hplace b hb) ht
  omega

theorem InPlace.pairwise_preorder (h : n.Everywhere (InPlace text)) (above : List Node) :
    (n.preorder above).Pairwise fun s t => s.node.start.offset ≤ t.node.start.offset := by
  induction n using tree_induction generalizing above with
  | step n ih =>
      rw [preorder_eq]
      refine .cons ?_ ?_
      · intro s hs
        obtain ⟨c, hc, hs⟩ := List.mem_flatMap.mp hs
        have hchild := h.here.row.bounds hc
        have hinside := InPlace.bounds (h.of_mem_children hc) hs
        dsimp only
        omega
      · exact h.here.row.pairwise_preorder (fun c hc => h.of_mem_children hc)
          fun c hc => ih c hc (h.of_mem_children hc) _

namespace LaidOut

variable (h : root.LaidOut text)
include h

/-- The sites of a tree that is laid out come in the order of their starts. -/
theorem pairwise_sites :
    root.sites.Pairwise fun s t => s.node.start.offset ≤ t.node.start.offset := by
  obtain ⟨reach, hrow⟩ := h.row
  rw [sites, preorder_eq]
  refine .cons ?_ ?_
  · intro s hs
    obtain ⟨c, hc, hs⟩ := List.mem_flatMap.mp hs
    have hchild := hrow.bounds hc
    have hinside := InPlace.bounds (h.below c hc) hs
    dsimp only
    omega
  · exact hrow.pairwise_preorder h.below fun c hc => InPlace.pairwise_preorder (h.below c hc) _

theorem everywhere (hkind : root.kind ≠ .program) : root.Everywhere (InPlace text) :=
  .intro ⟨h.start, h.stop, h.self hkind⟩ h.below

/-- Every part of a tree that is laid out is laid out. -/
theorem of_mem_sites {s : Site} (hs : s ∈ root.sites) : s.node.LaidOut text := by
  rw [sites, preorder_eq] at hs
  rcases List.mem_cons.mp hs with rfl | hs
  · exact h
  · obtain ⟨c, hc, hs⟩ := List.mem_flatMap.mp hs
    exact .of_everywhere ((h.below c hc).of_mem_preorder hs)

end LaidOut

/-- A node that is put around others leaves all nodes below it as they were. -/
theorem everywhere_of_mem_around {P : Node → Prop} {k : Kind} {f : Option Field} {stop : Mark}
    {ms : List Node} (hfield : ∀ (n : Node) (f : Option Field), P n → P { n with field := f })
    (hmade : ∀ start cs, P ⟨k, none, start, stop, cs⟩) (hms : ∀ n ∈ ms, n.Everywhere P) :
    ∀ n ∈ around k f stop ms, n.Everywhere P := by
  obtain ⟨made, comments, haround, hcomments, hcases⟩ := around_eq k f stop ms
  rw [haround]
  refine List.forall_mem_append.mpr ⟨?_, fun n hn => hms n (hcomments n hn).2⟩
  rcases hcases with rfl | ⟨first, cs, hdrop, rfl⟩
  · simp
  · have hchildren : ∀ m ∈ first :: cs, m.Everywhere P := by
      intro m hm
      rw [← hdrop] at hm
      exact hms m (List.mem_reverse.mp ((List.dropWhile_suffix _).subset hm))
    obtain ⟨hfirst, hrest⟩ := List.forall_mem_cons.mp hchildren
    intro n hn
    rw [List.mem_singleton.mp hn]
    refine .intro (hmade _ _) (List.forall_mem_cons.mpr ⟨?_, hrest⟩)
    exact .intro (hfield first _ hfirst.here) fun _ hc => hfirst.of_mem_children hc

end Node

/-- Whether a phrase makes no whole document. -/
def Phrase.makesParts : Phrase → Bool
  | .lex _ k | .raw _ k => k != .program
  | .seq p q | .either p q | .grow p q => p.makesParts && q.makesParts
  | .many p | .field _ p | .within _ p => p.makesParts
  | .node k p | .enclose k _ p => k != .program && p.makesParts
  | .call r => r != .program
  | _ => true

theorem Grammar.dialect_makesParts (typed : Bool) (r : Rule) (hr : r ≠ .program) :
    ((Grammar.dialect typed).body r).makesParts = true := by
  revert hr
  cases typed <;> cases r <;> decide

/-- Below the nodes that such a phrase gives there is no whole document. -/
theorem Reads.everywhere_ne_program {typed : Bool} {text : List Char} {p : Phrase} {s : Setting}
    {c d : Cursor} {ns ms : List Node}
    (hread : Reads (Grammar.dialect typed) text p s c ns d ms) (hp : p.makesParts = true)
    (hns : ∀ n ∈ ns, n.Everywhere (·.kind ≠ .program)) :
    ∀ n ∈ ms, n.Everywhere (·.kind ≠ .program) := by
  have hnil : ∀ n ∈ ([] : List Node), n.Everywhere (·.kind ≠ .program) := by simp
  have hleaf : ∀ {n : Node}, n.kind ≠ .program → n.children = [] →
      n.Everywhere (·.kind ≠ .program) :=
    fun hkind hchildren => Grammar.Keeps.everywhere_leaf (P := (·.kind ≠ .program)) hkind hchildren
  have hremarks : ∀ {rs : List Remark}, ∀ n ∈ (rs.map (·.node)).reverse,
      n.Everywhere (·.kind ≠ .program) := by
    intro rs n hn
    obtain ⟨r, _, rfl⟩ := List.mem_map.mp (List.mem_reverse.mp hn)
    exact hleaf nofun rfl
  induction hread with
  | done | stop | ahead | «unless» | shape | guard | unbroken => exact hns
  | lex _ =>
      have hkind := bne_iff_ne.mp hp
      exact List.forall_mem_append.mpr
        ⟨List.forall_mem_cons.mpr ⟨hleaf hkind rfl, hremarks⟩, hns⟩
  | raw _ =>
      have hkind := bne_iff_ne.mp hp
      exact List.forall_mem_cons.mpr ⟨hleaf hkind rfl, hns⟩
  | seq _ _ ihp ihq =>
      rw [Phrase.makesParts, Bool.and_eq_true] at hp
      exact ihq hp.2 (ihp hp.1 hns)
  | left _ ih =>
      rw [Phrase.makesParts, Bool.and_eq_true] at hp
      exact ih hp.1 hns
  | right _ ih =>
      rw [Phrase.makesParts, Bool.and_eq_true] at hp
      exact ih hp.2 hns
  | more _ _ ihone ihrest => exact ihrest hp (ihone hp hns)
  | field _ ih =>
      refine List.forall_mem_append.mpr ⟨?_, hns⟩
      intro n hn
      obtain ⟨m, hm, rfl⟩ := List.mem_map.mp hn
      have hinner := ih hp hnil m hm
      split
      · exact hinner
      · exact .intro hinner.here fun _ hc => hinner.of_mem_children hc
  | node _ ih =>
      rw [Phrase.makesParts, Bool.and_eq_true, bne_iff_ne] at hp
      refine List.forall_mem_append.mpr ⟨?_, hns⟩
      exact Node.everywhere_of_mem_around (fun _ _ h => h) (fun _ _ => hp.1) (ih hp.2 hnil)
  | @call r _ _ _ _ _ _ _ _ _ ih =>
      have hr : r ≠ .program := bne_iff_ne.mp hp
      exact List.forall_mem_append.mpr ⟨ih (Grammar.dialect_makesParts typed r hr) hnil, hns⟩
  | grow _ _ ihbase ihsuffix =>
      rw [Phrase.makesParts, Bool.and_eq_true] at hp
      exact List.forall_mem_append.mpr ⟨ihsuffix hp.2 (ihbase hp.1 hnil), hns⟩
  | enclose _ ih =>
      rw [Phrase.makesParts, Bool.and_eq_true, bne_iff_ne] at hp
      exact Node.everywhere_of_mem_around (fun _ _ h => h) (fun _ _ => hp.1) (ih hp.2 hns)
  | within _ ih => exact ih hp hns
  | implied hclose =>
      obtain ⟨taken, rfl⟩ := Cursor.closeFrom_eq hclose
      exact List.forall_mem_append.mpr ⟨hremarks, hns⟩
  | finish => exact List.forall_mem_append.mpr ⟨hremarks, hns⟩

namespace Node

variable {text : List Char}

/-- Placed nodes of which none is a whole document are in place. -/
theorem Placed.inPlace {n : Node} (h : n.Everywhere (Placed text))
    (hparts : n.Everywhere (·.kind ≠ .program)) : n.Everywhere (InPlace text) :=
  (h.and hparts).imp fun _ hn => ⟨hn.1.start, hn.1.stop, hn.1.row hn.2⟩

/-- A whole document that is put around a row is laid out, wherever the row
reaches. -/
theorem LaidOut.around {lo reach : Nat} {stop : Mark} {ms : List Node}
    (hrow : PlacedRow text lo ms.reverse reach) (hstop : stop.Of text)
    (hparts : ∀ n ∈ ms, n.Everywhere (·.kind ≠ .program)) :
    ∀ n ∈ Node.around .program none stop ms, n.kind = .program → n.LaidOut text := by
  obtain ⟨made, comments, haround, hcomments, hmade⟩ := around_eq .program none stop ms
  intro n hn hkind
  rw [haround] at hn
  rcases List.mem_append.mp hn with hn | hn
  · rcases hmade with rfl | ⟨c, cs, hdrop, rfl⟩
    · cases hn
    · have hbelow : ∀ m ∈ c :: cs, m.Everywhere (InPlace text) := by
        intro m hm
        rw [← hdrop] at hm
        have hmem := (List.dropWhile_suffix _).subset hm
        exact Placed.inPlace (hrow.placed m hmem) (hparts m (List.mem_reverse.mp hmem))
      have hsame : { c with field := none.or c.field } = c := by
        cases c
        rw [Option.none_or]
      rw [List.mem_singleton.mp hn, hsame]
      exact ⟨(hbelow c List.mem_cons_self).here.start, hstop, fun hne => absurd rfl hne,
        ⟨reach, hrow.row.dropWhile hdrop⟩, hbelow⟩
  · rw [(hcomments n hn).1] at hkind
    cases hkind

end Node

/-- A whole document is laid out, with the comments behind its last token. -/
theorem Reads.laidOut_program {typed : Bool} {text : List Char} {s : Setting} {c d : Cursor}
    {ms : List Node} (hread : Reads (Grammar.dialect typed) text (.call .program) s c [] d ms) :
    ∀ n ∈ ms, n.kind = .program → n.LaidOut text := by
  cases hread with
  | call hplace _ hbody =>
      change Reads _ text Phrase.program _ _ _ _ _ at hbody
      cases hbody with
      | node hinner =>
          cases hinner with
          | seq hline hrest =>
              cases hrest with
              | seq hstatements hfinish =>
                  have hmiddle := hline.of hplace
                  have hd := hstatements.of hmiddle
                  have hrow := hstatements.placedRow rfl hmiddle
                    (hline.placedRow rfl hplace (.nil (Nat.le_refl _)))
                  have hparts := hfinish.everywhere_ne_program rfl
                    (hstatements.everywhere_ne_program rfl
                      (hline.everywhere_ne_program rfl (by simp)))
                  cases hfinish with
                  | finish _ =>
                      have hall := hrow.append hd.placed_remarks
                      rw [List.append_nil, List.append_nil]
                      rw [← List.reverse_reverse (d.remarks.map _), ← List.reverse_append] at hall
                      exact Node.LaidOut.around hall hd.last.mark hparts

theorem Dialect.kind_root_of_parse {dialect : Dialect} {text : String} {p : Parsed}
    (hparse : dialect.parse text = .ok p) : p.root.kind = .program := by
  unfold Dialect.parse readDocument at hparse
  split at hparse
  · rename_i root hroot
    cases hparse
    split at hroot
    · split at hroot
      · rename_i found hfind
        cases hroot
        simpa using List.find?_some hfind
      · cases hroot
        rfl
    · cases hroot
  · cases hparse

/-- Documents are laid out. -/
theorem Dialect.parse_laidOut {dialect : Dialect} {text : String} {p : Parsed}
    (hparse : dialect.parse text = .ok p) : p.root.LaidOut text.toList := by
  rcases Dialect.reads_of_parse hparse with ⟨d, nodes, hread, hroot⟩ | hroot
  · exact hread.laidOut_program p.root hroot (Dialect.kind_root_of_parse hparse)
  · rw [hroot]
    have hstart : Mark.Of text.toList {} := ⟨[], text.toList, rfl, rfl⟩
    exact ⟨hstart, hstart, fun _ => .nil (Nat.le_refl _), ⟨_, .nil (Nat.le_refl _)⟩,
      by simp⟩

theorem laidOut_of_parseSource {dialect : Option String} {text : String} {p : Parsed}
    (hparse : parseSource dialect text = .ok p) :
    p.source = .ofString text ∧ p.root.LaidOut text.toList := by
  obtain ⟨_, hread⟩ := exists_parse_of_parseSource hparse
  exact ⟨Dialect.source_of_parse hread, Dialect.parse_laidOut hread⟩

end BundleAtlas
