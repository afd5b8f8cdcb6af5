import BundleAtlas.Grammar.Reader

/-!
Places of a text. A reader starts at the first place and only ever skips
characters, so whatever cursor it comes to has counted what stands before it
and has the rest of the same text to read. Hence a token covers the characters
that were scanned for it, and what stands between two tokens is in order.
-/

namespace BundleAtlas

namespace Mark

theorem offset_pushAll (m : Mark) (cs : List Char) :
    (m.pushAll cs).offset = m.offset + cs.length := by
  induction cs generalizing m with
  | nil => rfl
  | cons c cs ih =>
      have hpush : (m.push c).offset = m.offset + 1 := by
        unfold push
        split <;> rfl
      rw [pushAll, List.foldl_cons, ← pushAll, ih, hpush, List.length_cons]
      omega

theorem pushAll_append (m : Mark) (cs ds : List Char) :
    m.pushAll (cs ++ ds) = (m.pushAll cs).pushAll ds :=
  List.foldl_append

/-- A mark of a text counts what stands before some place of it. -/
def Of (text : List Char) (m : Mark) : Prop :=
  ∃ front rest, text = front ++ rest ∧ m = pushAll {} front

theorem of_iff {text : List Char} {m : Mark} :
    m.Of text ↔ m.offset ≤ text.length ∧ m = pushAll {} (text.take m.offset) := by
  constructor
  · rintro ⟨front, rest, rfl, rfl⟩
    rw [offset_pushAll, Nat.zero_add, List.take_left, List.length_append]
    exact ⟨Nat.le_add_right _ _, rfl⟩
  · rintro ⟨_, hmark⟩
    exact ⟨text.take m.offset, text.drop m.offset, (List.take_append_drop _ _).symm, hmark⟩

instance (text : List Char) (m : Mark) : Decidable (m.Of text) := decidable_of_iff' _ of_iff

end Mark

/-- A place of a text: its mark counts all that stands before it, and the rest
of the text follows. -/
def Place.Of (text : List Char) (p : Place) : Prop :=
  ∃ front, text = front ++ p.rest ∧ p.mark = Mark.pushAll {} front

namespace Place

theorem mark_skip (n : Nat) (p : Place) : (p.skip n).mark = p.mark.pushAll (p.rest.take n) := by
  induction n generalizing p with
  | zero => rfl
  | succ n ih =>
      obtain ⟨m, cs⟩ := p
      cases cs with
      | nil => rfl
      | cons c cs =>
          rw [skip, ih]
          rfl

variable {text : List Char} {p : Place}

theorem offset_le_skip (n : Nat) (p : Place) : p.mark.offset ≤ (p.skip n).mark.offset := by
  rw [mark_skip, Mark.offset_pushAll]
  exact Nat.le_add_right _ _

theorem of_first (text : List Char) : (first text).Of text := ⟨[], rfl, rfl⟩

theorem Of.mark (h : p.Of text) : p.mark.Of text := by
  obtain ⟨front, htext, hmark⟩ := h
  exact ⟨front, p.rest, htext, hmark⟩

theorem Of.skip (h : p.Of text) (n : Nat) : (p.skip n).Of text := by
  obtain ⟨front, htext, hmark⟩ := h
  refine ⟨front ++ p.rest.take n, ?_, ?_⟩
  · rw [rest_skip, List.append_assoc, List.take_append_drop, htext]
  · rw [mark_skip, hmark, Mark.pushAll_append]

end Place

/-- The text of a token is what was skipped for it. -/
theorem Source.text_token {text : String} {p : Place} (h : p.Of text.toList) (k : Kind)
    (f : Option Field) (n : Nat) (children : List Node) :
    (ofString text).text ⟨k, f, p.mark, (p.skip n).mark, children⟩ =
      String.ofList (p.rest.take n) := by
  obtain ⟨front, htext, hmark⟩ := h
  have hstart : p.mark.offset = front.length := by
    rw [hmark, Mark.offset_pushAll, Nat.zero_add]
  have hstop : (p.skip n).mark.offset = front.length + (p.rest.take n).length := by
    rw [Place.mark_skip, Mark.offset_pushAll, hstart]
  unfold Source.text slice ofString
  rw [hstart, hstop, Array.toList_extract, List.extract_eq_take_drop, htext,
    Nat.add_sub_cancel_left, List.drop_left, List.length_take, List.take_eq_take_min (i := n)]

/-- Nodes in a row between two offsets: none starts before the last one has
stopped. -/
inductive Node.Row : Nat → List Node → Nat → Prop
  | nil {lo hi : Nat} (hle : lo ≤ hi) : Row lo [] hi
  | cons {lo hi : Nat} {n : Node} {ns : List Node} (hstart : lo ≤ n.start.offset)
      (hself : n.start.offset ≤ n.stop.offset) (hrest : Row n.stop.offset ns hi) :
      Row lo (n :: ns) hi

namespace Node.Row

variable {lo mid hi : Nat} {ns ms : List Node}

theorem le (h : Row lo ns hi) : lo ≤ hi := by
  induction h with
  | nil hle => exact hle
  | cons hstart hself _ ih => omega

theorem append (h : Row lo ns mid) (hmore : Row mid ms hi) : Row lo (ns ++ ms) hi := by
  induction h with
  | nil hle =>
      cases hmore with
      | nil hnext => exact .nil (Nat.le_trans hle hnext)
      | cons hstart hself hrest => exact .cons (Nat.le_trans hle hstart) hself hrest
  | cons hstart hself _ ih => exact .cons hstart hself (ih hmore)

theorem nil_iff : Row lo [] hi ↔ lo ≤ hi := by
  refine ⟨fun h => ?_, .nil⟩
  cases h with
  | nil hle => exact hle

theorem cons_iff {n : Node} : Row lo (n :: ns) hi ↔
    (lo ≤ n.start.offset ∧ n.start.offset ≤ n.stop.offset) ∧ Row n.stop.offset ns hi := by
  refine ⟨fun h => ?_, fun h => .cons h.1.1 h.1.2 h.2⟩
  cases h with
  | cons hstart hself hrest => exact ⟨⟨hstart, hself⟩, hrest⟩

instance decidable : (lo : Nat) → (ns : List Node) → (hi : Nat) → Decidable (Row lo ns hi)
  | _, [], _ => decidable_of_iff' _ nil_iff
  | _, n :: ns, hi =>
    have := decidable n.stop.offset ns hi
    decidable_of_iff' _ cons_iff

end Node.Row

/-- A cursor of a text: the last token, the next one and the comments between
them stand at places of it, in this order. -/
structure Cursor.Of (text : List Char) (c : Cursor) : Prop where
  last : c.last.Of text
  next : c.next.Of text
  remarks : ∀ r ∈ c.remarks, r.behind.Of text
  starts : ∀ r ∈ c.remarks, r.start.Of text
  row : Node.Row c.last.mark.offset (c.remarks.map (·.node)) c.next.mark.offset

namespace Cursor

variable {text : List Char}

/-- Stepping over blanks and comments stays in the text and goes forward. -/
theorem of_settle {last p : Place} {found : List Remark} (steps : Nat)
    (h : Of text ⟨last, p, found.reverse⟩) : (settle last steps p found).Of text := by
  induction steps generalizing p found with
  | zero => exact h
  | succ steps ih =>
      have hnext : p.skipBlanks.Of text := h.next.skip _
      have hblanks : Node.Row last.mark.offset (found.reverse.map (·.node))
          p.skipBlanks.mark.offset := by
        have hforward := h.row.append (.nil (Place.offset_le_skip (Scan.run Letter.isBlank p.rest) p))
        rwa [List.append_nil] at hforward
      rw [settle]
      split
      · exact ⟨h.last, hnext, h.remarks, h.starts, hblanks⟩
      · rename_i n _
        apply ih
        have hmore : Node.Row p.skipBlanks.mark.offset
            [Remark.node ⟨p.skipBlanks.mark, p.skipBlanks.skip n⟩]
            (p.skipBlanks.skip n).mark.offset :=
          .cons (Nat.le_refl _) (Place.offset_le_skip n _) (.nil (Nat.le_refl _))
        rw [List.reverse_cons]
        refine ⟨h.last, hnext.skip n, ?_, ?_, ?_⟩
        · exact List.forall_mem_append.mpr ⟨h.remarks, by simpa using hnext.skip n⟩
        · exact List.forall_mem_append.mpr ⟨h.starts, by simpa using hnext.mark⟩
        · rw [List.map_append]
          exact hblanks.append hmore

theorem of_behind {p : Place} (hp : p.Of text) : (behind p).Of text :=
  of_settle _ ⟨hp, hp, by simp, by simp, .nil (Nat.le_refl _)⟩

/-- A statement that ends where no semicolon is written ends in the text. -/
theorem of_closeFrom {e : Semicolon.Ending} {next here : Place} {rs : List Remark}
    {ns ms : List Node} {d : Cursor} (hclose : closeFrom e next here rs ns = some (d, ms))
    (h : Of text ⟨here, next, rs⟩) : d.Of text := by
  induction rs generalizing here ns with
  | nil =>
      rw [closeFrom] at hclose
      split at hclose
      · cases hclose
        exact h
      · cases hclose
  | cons r rs ih =>
      rw [closeFrom] at hclose
      split at hclose
      · cases hclose
        exact h
      · have hrow : Node.Row r.behind.mark.offset (rs.map (·.node)) next.mark.offset := by
          cases h.row with
          | cons _ _ hrest => exact hrest
        refine ih hclose ⟨h.remarks r List.mem_cons_self, h.next, ?_, ?_, hrow⟩
        · exact fun q hq => h.remarks q (List.mem_cons_of_mem r hq)
        · exact fun q hq => h.starts q (List.mem_cons_of_mem r hq)

end Cursor

end BundleAtlas
