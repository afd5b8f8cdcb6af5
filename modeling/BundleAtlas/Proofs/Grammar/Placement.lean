import BundleAtlas.Proofs.Grammar.Invariant

/-!
Where the nodes of a document stand. A node reaches from a mark of the text to
another one; it starts where its first child starts, and its children stand in
a row inside it. Only the whole document may have comments behind its end.
-/

namespace BundleAtlas

namespace Node

/-- A node stands in a text with its children in a row. -/
structure Placed (text : List Char) (n : Node) : Prop where
  start : n.start.Of text
  stop : n.stop.Of text
  row : n.kind ≠ .program → Row n.start.offset n.children n.stop.offset
  first : ∀ c, n.children.head? = some c → c.start = n.start

instance (text : List Char) (n : Node) : Decidable (n.Placed text) :=
  decidable_of_iff (n.start.Of text ∧ n.stop.Of text ∧
      (n.kind ≠ .program → Row n.start.offset n.children n.stop.offset) ∧
      ∀ c ∈ n.children.head?, c.start = n.start)
    ⟨fun h => ⟨h.1, h.2.1, h.2.2.1, h.2.2.2⟩, fun h => ⟨h.start, h.stop, h.row, h.first⟩⟩

/-- Nodes in a row that stand in a text, with all nodes below them. -/
structure PlacedRow (text : List Char) (lo : Nat) (ns : List Node) (hi : Nat) : Prop where
  row : Row lo ns hi
  placed : ∀ n ∈ ns, n.Everywhere (Placed text)

theorem Row.split {lo hi : Nat} {ns ms : List Node} (h : Row lo (ns ++ ms) hi) :
    ∃ mid, Row lo ns mid ∧ Row mid ms hi := by
  induction ns generalizing lo with
  | nil => exact ⟨lo, .nil (Nat.le_refl lo), h⟩
  | cons n ns ih =>
      cases h with
      | cons hstart hself hrest =>
          obtain ⟨mid, hfront, hback⟩ := ih hrest
          exact ⟨mid, .cons hstart hself hfront, hback⟩

theorem Row.start_le_stop {lo hi : Nat} {ns : List Node} (h : Row lo ns hi) {n : Node}
    (hn : n ∈ ns) : n.start.offset ≤ n.stop.offset := by
  induction h with
  | nil => cases hn
  | cons _ hself _ ih =>
      rcases List.mem_cons.mp hn with rfl | hn
      · exact hself
      · exact ih hn

/-- The nodes of a row stay between its ends. -/
theorem Row.bounds {lo hi : Nat} {ns : List Node} (h : Row lo ns hi) {n : Node} (hn : n ∈ ns) :
    lo ≤ n.start.offset ∧ n.stop.offset ≤ hi := by
  induction h with
  | nil => cases hn
  | cons hstart hself hrest ih =>
      rcases List.mem_cons.mp hn with rfl | hn
      · exact ⟨hstart, hrest.le⟩
      · have := ih hn
        omega

theorem Row.pairwise {lo hi : Nat} {ns : List Node} (h : Row lo ns hi) :
    ns.Pairwise fun a b => a.stop.offset ≤ b.start.offset := by
  induction h with
  | nil => exact .nil
  | cons _ _ hrest ih => exact .cons (fun b hb => (hrest.bounds hb).1) ih

/-- A node that is put around others stands behind the comments before the
first of them. -/
theorem reverse_around (k : Kind) (f : Option Field) (stop : Mark) (ms : List Node) :
    (around k f stop ms).reverse = ms.reverse.takeWhile isComment ++
      match ms.reverse.dropWhile isComment with
      | [] => []
      | c :: cs => [⟨k, none, c.start, stop, { c with field := f.or c.field } :: cs⟩] := by
  unfold around splitRemarks
  dsimp only
  cases ms.reverse.dropWhile isComment with
  | nil => simp
  | cons c cs =>
      cases f with
      | none =>
          cases c
          simp
      | some part => simp

namespace PlacedRow

variable {text : List Char} {lo mid hi : Nat} {ns ms : List Node}

theorem nil (hle : lo ≤ hi) : PlacedRow text lo [] hi := ⟨.nil hle, by simp⟩

theorem append (h : PlacedRow text lo ns mid) (hmore : PlacedRow text mid ms hi) :
    PlacedRow text lo (ns ++ ms) hi :=
  ⟨h.row.append hmore.row, List.forall_mem_append.mpr ⟨h.placed, hmore.placed⟩⟩

theorem leaf {n : Node} (hn : n.Placed text) (hleaf : n.children = [])
    (hself : n.start.offset ≤ n.stop.offset) :
    PlacedRow text n.start.offset [n] n.stop.offset := by
  refine ⟨.cons (Nat.le_refl _) hself (.nil (Nat.le_refl _)), ?_⟩
  intro m hm
  rw [List.mem_singleton.mp hm]
  exact Grammar.Keeps.everywhere_leaf hn hleaf

end PlacedRow

variable {text : List Char}

/-- A token that was skipped stands in the text. -/
theorem placed_token {p : Place} (hp : p.Of text) (k : Kind) (n : Nat) :
    PlacedRow text p.mark.offset [⟨k, none, p.mark, (p.skip n).mark, []⟩]
      (p.skip n).mark.offset :=
  .leaf (n := ⟨k, none, p.mark, (p.skip n).mark, []⟩)
    ⟨hp.mark, (hp.skip n).mark, fun _ => .nil (Place.offset_le_skip n p), by simp⟩ rfl
    (Place.offset_le_skip n p)

theorem Placed.everywhere_field {n : Node} (h : n.Everywhere (Placed text)) (f : Option Field) :
    Node.Everywhere (Placed text) { n with field := f } :=
  .intro ⟨h.here.start, h.here.stop, h.here.row, h.here.first⟩ fun _ hc => h.of_mem_children hc

/-- Giving the nodes of a row a part to play leaves them where they are. -/
theorem PlacedRow.mark {lo hi : Nat} {ms : List Node} (f : Field)
    (h : PlacedRow text lo ms.reverse hi) : PlacedRow text lo (Node.mark f ms).reverse hi := by
  have hmap : ∀ {ns : List Node} {lo : Nat}, PlacedRow text lo ns hi →
      PlacedRow text lo (Node.mark f ns) hi := by
    intro ns
    induction ns with
    | nil => exact fun h => h
    | cons n ns ih =>
        intro lo h
        obtain ⟨hplaced, hrest⟩ := List.forall_mem_cons.mp h.placed
        cases h.row with
        | cons hstart hself hrow =>
            have hmore := ih ⟨hrow, hrest⟩
            rw [Node.mark, List.map_cons]
            split
            · exact ⟨.cons hstart hself hmore.row, List.forall_mem_cons.mpr ⟨hplaced, hmore.placed⟩⟩
            · exact ⟨.cons hstart hself hmore.row,
                List.forall_mem_cons.mpr ⟨Placed.everywhere_field hplaced _, hmore.placed⟩⟩
  have hreverse : (Node.mark f ms).reverse = Node.mark f ms.reverse := by
    rw [Node.mark, Node.mark, List.map_reverse]
  rw [hreverse]
  exact hmap h

theorem Row.dropWhile {lo : Nat} {ms : List Node} {hi : Nat} (h : Row lo ms hi) {c : Node}
    {cs : List Node} (hdrop : ms.dropWhile isComment = c :: cs) :
    Row c.start.offset (c :: cs) hi := by
  rw [← List.takeWhile_append_dropWhile (p := isComment) (l := ms), hdrop] at h
  obtain ⟨mid, _, hinside⟩ := h.split
  cases hinside with
  | cons _ hself hrest => exact .cons (Nat.le_refl _) hself hrest

/-- A node that is put around placed ones is placed, if they reach no further
than it does. -/
theorem Placed.around {k : Kind} {f : Option Field} {stop : Mark} {ms : List Node}
    (hms : ∀ n ∈ ms, n.Everywhere (Placed text)) (hstop : stop.Of text)
    (hrow : k ≠ .program → ∃ lo, Row lo ms.reverse stop.offset) :
    ∀ n ∈ Node.around k f stop ms, n.Everywhere (Placed text) := by
  obtain ⟨made, comments, haround, hcomments, hmade⟩ := around_eq k f stop ms
  rw [haround]
  refine List.forall_mem_append.mpr ⟨?_, fun n hn => hms n (hcomments n hn).2⟩
  rcases hmade with rfl | ⟨c, cs, hdrop, rfl⟩
  · simp
  · have hchildren : ∀ m ∈ c :: cs, m.Everywhere (Placed text) := by
      intro m hm
      rw [← hdrop] at hm
      exact hms m (List.mem_reverse.mp ((List.dropWhile_suffix _).subset hm))
    obtain ⟨hc, hcs⟩ := List.forall_mem_cons.mp hchildren
    intro n hn
    rw [List.mem_singleton.mp hn]
    refine .intro ⟨hc.here.start, hstop, ?_, ?_⟩ ?_
    · intro hk
      obtain ⟨lo, hlo⟩ := hrow hk
      cases hlo.dropWhile hdrop with
      | cons hstart hself hrest => exact .cons hstart hself hrest
    · rintro child hchild
      cases hchild
      rfl
    · exact List.forall_mem_cons.mpr ⟨Placed.everywhere_field hc _, hcs⟩

/-- A node that is put around a row up to its end stands where the row stood. -/
theorem PlacedRow.around {lo : Nat} {ms : List Node} {stop : Mark} (k : Kind) (f : Option Field)
    (h : PlacedRow text lo ms.reverse stop.offset) (hstop : stop.Of text) :
    PlacedRow text lo (Node.around k f stop ms).reverse stop.offset := by
  have hmade := Placed.around (k := k) (f := f) (fun n hn => h.placed n (List.mem_reverse.mpr hn))
    hstop fun _ => ⟨lo, h.row⟩
  refine ⟨?_, fun n hn => hmade n (List.mem_reverse.mp hn)⟩
  have hrow := h.row
  rw [← List.takeWhile_append_dropWhile (p := isComment) (l := ms.reverse)] at hrow
  obtain ⟨mid, hcomments, hinside⟩ := hrow.split
  rw [reverse_around]
  refine hcomments.append ?_
  cases hdrop : ms.reverse.dropWhile isComment with
  | nil =>
      rw [hdrop] at hinside
      exact hinside
  | cons c cs =>
      rw [hdrop] at hinside
      cases hinside with
      | cons hstart hself hrest =>
          exact .cons hstart (Nat.le_trans hself hrest.le) (.nil (Nat.le_refl _))

end Node

namespace Cursor

theorem last_settle (last : Place) (steps : Nat) (p : Place) (found : List Remark) :
    (settle last steps p found).last = last := by
  induction steps generalizing p found with
  | zero => rfl
  | succ steps ih =>
      rw [settle]
      dsimp only
      split
      · rfl
      · exact ih _ _

theorem last_behind (p : Place) : (behind p).last = p := last_settle p _ p []

variable {text : List Char}

/-- The comments between two tokens stand between them. -/
theorem Of.placed_remarks {c : Cursor} (hc : c.Of text) :
    Node.PlacedRow text c.last.mark.offset (c.remarks.map (·.node)) c.next.mark.offset := by
  refine ⟨hc.row, ?_⟩
  intro n hn
  have hself := hc.row.start_le_stop hn
  obtain ⟨r, hr, rfl⟩ := List.mem_map.mp hn
  exact Grammar.Keeps.everywhere_leaf
    ⟨hc.starts r hr, (hc.remarks r hr).mark, fun _ => .nil hself, by simp [Remark.node]⟩ rfl

/-- The comments that a closing statement takes in stand before its end. -/
theorem placed_closeFrom {e : Semicolon.Ending} {next here : Place} {rs : List Remark}
    {ns ms : List Node} {d : Cursor} (hclose : closeFrom e next here rs ns = some (d, ms))
    (h : Of text ⟨here, next, rs⟩) {lo : Nat}
    (hns : Node.PlacedRow text lo ns.reverse here.mark.offset) :
    Node.PlacedRow text lo ms.reverse d.last.mark.offset := by
  induction rs generalizing here ns with
  | nil =>
      rw [closeFrom] at hclose
      split at hclose
      · cases hclose
        exact hns
      · cases hclose
  | cons r rs ih =>
      rw [closeFrom] at hclose
      split at hclose
      · cases hclose
        exact hns
      · have hremarks : Node.PlacedRow text here.mark.offset ([r.node] ++ rs.map (·.node))
            next.mark.offset := h.placed_remarks
        cases hremarks.row with
        | cons hstart hself hrest =>
            have hone : Node.PlacedRow text here.mark.offset [r.node] r.behind.mark.offset := by
              refine ⟨.cons hstart hself (.nil (Nat.le_refl _)), ?_⟩
              exact (List.forall_mem_append.mp hremarks.placed).1
            refine ih hclose ⟨h.remarks r List.mem_cons_self, h.next, ?_, ?_, hrest⟩ ?_
            · exact fun q hq => h.remarks q (List.mem_cons_of_mem r hq)
            · exact fun q hq => h.starts q (List.mem_cons_of_mem r hq)
            · rw [List.reverse_cons]
              exact hns.append hone

end Cursor

namespace Phrase

/-- Whether a phrase reads no further than its nodes reach: the end of the input
takes in the comments before it. -/
def staysBehindLast : Phrase → Bool
  | .seq p q | .either p q | .grow p q => p.staysBehindLast && q.staysBehindLast
  | .many p | .field _ p | .node _ p | .enclose _ _ p | .within _ p => p.staysBehindLast
  | .call r => r != .program
  | .finish => false
  | _ => true

end Phrase

theorem Grammar.dialect_staysBehindLast (typed : Bool) (r : Rule) (hr : r ≠ .program) :
    ((Grammar.dialect typed).body r).staysBehindLast = true := by
  revert hr
  cases typed <;> cases r <;> decide

/-- What has been read stands in a row in the text, up to the last token. -/
theorem Reads.placedRow {typed : Bool} {text : List Char} {p : Phrase} {s : Setting}
    {c d : Cursor} {ns ms : List Node} (hread : Reads (Grammar.dialect typed) text p s c ns d ms)
    (hp : p.staysBehindLast = true) (hc : c.Of text) {lo : Nat}
    (hns : Node.PlacedRow text lo ns.reverse c.last.mark.offset) :
    Node.PlacedRow text lo ms.reverse d.last.mark.offset := by
  have hnil : ∀ {c : Cursor}, Node.PlacedRow text c.last.mark.offset [] c.last.mark.offset :=
    .nil (Nat.le_refl _)
  induction hread generalizing lo with
  | done | stop | ahead | «unless» | shape | guard | unbroken => exact hns
  | @lex _ k _ c ns n _ =>
      have htoken := Node.placed_token hc.next k n
      rw [Cursor.take, Cursor.last_behind]
      simp only [List.reverse_append, List.reverse_cons, List.reverse_reverse]
      exact hns.append (hc.placed_remarks.append htoken)
  | @raw _ k _ c ns n _ =>
      rw [Cursor.takeRaw, Cursor.last_behind, List.reverse_cons]
      exact hns.append (Node.placed_token hc.last k n)
  | seq hfirst _ ihp ihq =>
      rw [Phrase.staysBehindLast, Bool.and_eq_true] at hp
      exact ihq hp.2 (hfirst.of hc) (ihp hp.1 hc hns)
  | left _ ih =>
      rw [Phrase.staysBehindLast, Bool.and_eq_true] at hp
      exact ih hp.1 hc hns
  | right _ ih =>
      rw [Phrase.staysBehindLast, Bool.and_eq_true] at hp
      exact ih hp.2 hc hns
  | more hone _ ihone ihrest => exact ihrest hp (hone.of hc) (ihone hp hc hns)
  | @field f _ _ _ _ _ _ _ ih =>
      rw [List.reverse_append]
      exact hns.append ((ih hp hc hnil).mark f)
  | @node k _ _ _ _ _ _ hinner ih =>
      rw [List.reverse_append]
      exact hns.append ((ih hp hc hnil).around k none (hinner.of hc).last.mark)
  | @call r _ _ _ _ _ _ hplace hsame _ ih =>
      have hr : r ≠ .program := by simpa [Phrase.staysBehindLast] using hp
      have hbody := ih (Grammar.dialect_staysBehindLast typed r hr) hplace hnil
      rw [hsame] at hbody
      rw [List.reverse_append]
      exact hns.append hbody
  | grow hoperand _ ihbase ihsuffix =>
      rw [Phrase.staysBehindLast, Bool.and_eq_true] at hp
      rw [List.reverse_append]
      exact hns.append (ihsuffix hp.2 (hoperand.of hc) (ihbase hp.1 hc hnil))
  | @enclose k f _ _ _ _ _ _ hinner ih =>
      exact (ih hp hc hns).around k f (hinner.of hc).last.mark
  | within _ ih => exact ih hp hc hns
  | implied hclose => exact Cursor.placed_closeFrom hclose hc hns
  | finish => cases hp

/-- A whole document is read up to the comments behind its last token. -/
theorem Reads.placed_program {typed : Bool} {text : List Char} {s : Setting} {c d : Cursor}
    {ms : List Node}
    (hread : Reads (Grammar.dialect typed) text (.call .program) s c [] d ms) :
    ∀ n ∈ ms, n.Everywhere (Node.Placed text) := by
  cases hread with
  | @call _ _ b _ _ _ _ hplace _ hbody =>
      change Reads _ text Phrase.program _ _ _ _ _ at hbody
      cases hbody with
      | node hinner =>
          cases hinner with
          | seq hline hrest =>
              cases hrest with
              | seq hstatements hfinish =>
                  have hmiddle := hline.of hplace
                  have hd := hstatements.of hmiddle
                  have hrow := hstatements.placedRow rfl hmiddle
                    (hline.placedRow rfl hplace (.nil (Nat.le_refl _)))
                  cases hfinish with
                  | finish _ =>
                      simp only [List.append_nil]
                      refine Node.Placed.around ?_ hd.last.mark (fun hk => absurd rfl hk)
                      refine List.forall_mem_append.mpr ⟨?_, ?_⟩
                      · exact fun n hn => hd.placed_remarks.placed n (List.mem_reverse.mp hn)
                      · exact fun n hn => hrow.placed n (List.mem_reverse.mpr hn)

/-- The nodes of a document stand in its text. -/
theorem Dialect.parse_placed {dialect : Dialect} {text : String} {p : Parsed}
    (hparse : dialect.parse text = .ok p) :
    p.root.Everywhere (Node.Placed text.toList) := by
  rcases Dialect.reads_of_parse hparse with ⟨d, nodes, hread, hroot⟩ | hroot
  · exact hread.placed_program p.root hroot
  · rw [hroot]
    have hstart : Mark.Of text.toList {} := ⟨[], text.toList, rfl, rfl⟩
    refine Grammar.Keeps.everywhere_leaf ⟨hstart, hstart, ?_, by simp⟩ rfl
    exact fun _ => .nil (Nat.le_refl _)

end BundleAtlas
