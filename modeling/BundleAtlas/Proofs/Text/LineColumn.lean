import BundleAtlas.Proofs.Grammar.Position
import BundleAtlas.Proofs.Text.Utf8
import BundleAtlas.Symbol.Declaration

/-!
From lines and columns back to the text. A mark counts the line feeds before
it and the bytes since the last one; from them and from the bytes of the text
alone the byte at which it stands is found again. So the bytes between the two
positions of a span are those of the characters between its marks.
-/

namespace BundleAtlas

open Text

/-- How many bytes stand before a line. Lines are counted from zero, and only a
line feed ends one. -/
def lineStart : Nat → List UInt8 → Nat
  | 0, _ => 0
  | _ + 1, [] => 0
  | row + 1, b :: bs => if b = 10 then lineStart row bs + 1 else lineStart (row + 1) bs + 1

/-- What the bytes of a text between the two positions of a span say. -/
def Span.read (s : Span) (text : String) : Except Utf8.Malformed String :=
  let bytes := Utf8.encode text.toList
  let start := lineStart (s.startLine - 1) bytes + (s.startColumn - 1)
  let stop := lineStart (s.stopLine - 1) bytes + (s.stopColumn - 1)
  (Utf8.decode ((bytes.take stop).drop start)).map String.ofList

theorem lineStart_append (row : Nat) {bs : List UInt8} (hbs : 10 ∉ bs) (more : List UInt8) :
    lineStart (row + 1) (bs ++ more) = bs.length + lineStart (row + 1) more := by
  induction bs with
  | nil => simp
  | cons b bs ih =>
      obtain ⟨hb, hrest⟩ : 10 ≠ b ∧ 10 ∉ bs := by simpa using hbs
      rw [List.cons_append, lineStart, if_neg (Ne.symm hb), ih hrest, List.length_cons]
      omega

namespace Mark

theorem row_le_pushAll (m : Mark) (cs : List Char) : m.row ≤ (m.pushAll cs).row := by
  induction cs generalizing m with
  | nil => exact Nat.le_refl _
  | cons c cs ih =>
      have hpush : m.row ≤ (m.push c).row := by
        unfold push
        split <;> simp
      exact Nat.le_trans hpush (ih (m.push c))

/-- A mark that has been pushed over some characters stands as many bytes
behind the one before them as the characters take. While no line feed was among
them, both count from the start of the same line. -/
theorem lineStart_pushAll (m : Mark) (front rest : List Char) :
    lineStart ((m.pushAll front).row - m.row) (Utf8.encode (front ++ rest)) +
        (m.pushAll front).column =
      (Utf8.encode front).length + if (m.pushAll front).row = m.row then m.column else 0 := by
  induction front generalizing m with
  | nil =>
      have hnil : Utf8.encode [] = [] := by rw [Utf8.encode_eq_flatMap, List.flatMap_nil]
      simp [pushAll, lineStart, hnil]
  | cons c front ih =>
      have hstep : m.pushAll (c :: front) = (m.push c).pushAll front := rfl
      have hrow := row_le_pushAll (m.push c) front
      have hback := ih (m.push c)
      rw [hstep, List.cons_append, Utf8.encode_cons, Utf8.encode_cons, List.length_append]
      by_cases hc : c = '\n'
      · -- the next line starts right behind its byte
        subst hc
        have hbytes : String.utf8EncodeChar '\n' = [10] := by decide
        have hpush : m.push '\n' = ⟨m.offset + 1, m.row + 1, 0⟩ := if_pos rfl
        rw [hpush] at hback hrow ⊢
        obtain ⟨rows, hrows⟩ := Nat.exists_eq_add_of_le hrow
        have hbelow : (pushAll ⟨m.offset + 1, m.row + 1, 0⟩ front).row - m.row = rows + 1 := by
          rw [hrows]
          dsimp only
          omega
        have hbelow' : (pushAll ⟨m.offset + 1, m.row + 1, 0⟩ front).row - (m.row + 1) = rows := by
          omega
        rw [hbelow, hbytes, List.singleton_append, lineStart, if_pos rfl, if_neg (by omega)]
        rw [hbelow'] at hback
        simp only [ite_self] at hback
        simp only [List.length_singleton]
        omega
      · have hpush : m.push c = ⟨m.offset + 1, m.row, m.column + c.utf8Size⟩ := if_neg hc
        have hfeed := Utf8.lineFeed_notMem_utf8EncodeChar hc
        rw [hpush] at hback hrow ⊢
        rw [String.length_utf8EncodeChar]
        dsimp only at hback hrow ⊢
        by_cases hsame : (pushAll ⟨m.offset + 1, m.row, m.column + c.utf8Size⟩ front).row = m.row
        · rw [if_pos hsame] at hback ⊢
          rw [hsame, Nat.sub_self, lineStart] at hback ⊢
          omega
        · rw [if_neg hsame] at hback ⊢
          obtain ⟨rows, hrows⟩ : ∃ rows,
              (pushAll ⟨m.offset + 1, m.row, m.column + c.utf8Size⟩ front).row - m.row = rows + 1 :=
            Nat.exists_eq_succ_of_ne_zero (by omega)
          rw [hrows] at hback ⊢
          rw [lineStart_append rows hfeed, String.length_utf8EncodeChar]
          omega

end Mark

/-- The position of a mark of a text is found in the bytes of the text. -/
theorem lineStart_of_front (front rest : List Char) :
    lineStart (Mark.pushAll {} front).row (Utf8.encode (front ++ rest)) +
      (Mark.pushAll {} front).column = (Utf8.encode front).length := by
  have hpushed := Mark.lineStart_pushAll {} front rest
  simpa using hpushed

/-- The bytes between two marks of a text are those of the characters between
them. -/
theorem Span.read_eq_slice {text : String} {a b : Mark} (ha : a.Of text.toList)
    (hb : b.Of text.toList) (hle : a.offset ≤ b.offset) :
    Span.read ⟨a.row + 1, a.column + 1, b.row + 1, b.column + 1⟩ text =
      .ok ((Source.ofString text).slice a.offset b.offset) := by
  obtain ⟨front, behind, htext, rfl⟩ := ha
  obtain ⟨upto, rest, hupto, rfl⟩ := hb
  have hoffset : ∀ cs : List Char, (Mark.pushAll {} cs).offset = cs.length := by
    intro cs
    rw [Mark.offset_pushAll, Nat.zero_add]
  rw [hoffset, hoffset] at hle ⊢
  -- the first mark stands in what the second has counted
  have hfront : front <+: text.toList := ⟨behind, htext.symm⟩
  obtain ⟨between, rfl⟩ : front <+: upto :=
    List.prefix_of_prefix_length_le hfront ⟨rest, hupto.symm⟩ hle
  have hstart : lineStart (Mark.pushAll {} front).row (Utf8.encode text.toList) +
      (Mark.pushAll {} front).column = (Utf8.encode front).length := by
    rw [htext]
    exact lineStart_of_front front behind
  have hstop : lineStart (Mark.pushAll {} (front ++ between)).row (Utf8.encode text.toList) +
      (Mark.pushAll {} (front ++ between)).column = (Utf8.encode (front ++ between)).length := by
    rw [hupto]
    exact lineStart_of_front (front ++ between) rest
  have hcut : ((Utf8.encode text.toList).take (Utf8.encode (front ++ between)).length).drop
      (Utf8.encode front).length = Utf8.encode between := by
    rw [hupto, Utf8.encode_append (front ++ between), List.take_left, Utf8.encode_append,
      List.drop_left]
  have hslice : (Source.ofString text).slice front.length (front ++ between).length =
      String.ofList between := by
    unfold Source.slice Source.ofString
    rw [Array.toList_extract, List.extract_eq_take_drop, hupto, List.length_append,
      Nat.add_sub_cancel_left, List.append_assoc, List.drop_left, List.take_left]
  unfold Span.read
  dsimp only
  rw [Nat.add_sub_cancel, Nat.add_sub_cancel, Nat.add_sub_cancel, Nat.add_sub_cancel, hstart, hstop,
    hcut, Utf8.decode_encode, hslice]
  rfl

end BundleAtlas
