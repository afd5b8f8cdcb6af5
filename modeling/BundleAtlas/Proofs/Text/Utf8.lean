import BundleAtlas.Text.Utf8

/-!
Decoding undoes encoding. The bytes of a text are those of its characters in a
row; the decoder reads one character after the other, each with all its bytes,
and so comes back to the text. Only a line feed has the byte of a line feed
among its bytes.
-/

namespace BundleAtlas.Text.Utf8

private theorem toList_loop (bytes : ByteArray) (i : Nat) (found : List UInt8) :
    ByteArray.toList.loop bytes i found = found.reverse ++ bytes.data.toList.drop i := by
  fun_induction ByteArray.toList.loop bytes i found with
  | case1 i found hlt ih =>
      have hsize : i < bytes.data.toList.length := by simpa using hlt
      have hget : bytes.get! i = bytes.data.toList[i] := by
        change bytes.data[i]! = _
        rw [getElem!_pos bytes.data i (by simpa using hlt)]
        rfl
      rw [ih, List.drop_eq_getElem_cons hsize, hget]
      simp
  | case2 i found hge =>
      have hsize : bytes.data.toList.length ≤ i := by simpa using hge
      rw [List.drop_of_length_le hsize, List.append_nil]

theorem encode_eq_flatMap (cs : List Char) : encode cs = cs.flatMap String.utf8EncodeChar := by
  unfold encode ByteArray.toList
  rw [toList_loop, String.toUTF8_eq_toByteArray, String.toByteArray_ofList]
  simp [List.utf8Encode]

theorem encode_append (cs ds : List Char) : encode (cs ++ ds) = encode cs ++ encode ds := by
  simp only [encode_eq_flatMap, List.flatMap_append]

theorem encode_cons (c : Char) (cs : List Char) :
    encode (c :: cs) = String.utf8EncodeChar c ++ encode cs := by
  simp only [encode_eq_flatMap, List.flatMap_cons]

theorem continues_iff (b : UInt8) : continues b = true ↔ 0x80 ≤ b.toNat ∧ b.toNat < 0xc0 := by
  simp only [continues, Bool.and_eq_true, decide_eq_true_eq, UInt8.le_iff_toNat_le,
    UInt8.lt_iff_toNat_lt]
  rfl

theorem second_iff (a b : UInt8) :
    second a b = true ↔ continues b = true ∧ (a.toNat = 0xe0 → 0xa0 ≤ b.toNat) ∧
      (a.toNat = 0xed → b.toNat < 0xa0) ∧ (a.toNat = 0xf0 → 0x90 ≤ b.toNat) ∧
      (a.toNat = 0xf4 → b.toNat < 0x90) := by
  have hlit : (0xe0 : UInt8).toNat = 0xe0 ∧ (0xed : UInt8).toNat = 0xed ∧
      (0xf0 : UInt8).toNat = 0xf0 ∧ (0xf4 : UInt8).toNat = 0xf4 ∧
      (0xa0 : UInt8).toNat = 0xa0 ∧ (0x90 : UInt8).toNat = 0x90 := by decide
  simp only [second, Bool.and_eq_true, Bool.not_eq_true', Bool.and_eq_false_imp, beq_iff_eq,
    decide_eq_false_iff_not, ← UInt8.toNat_inj, UInt8.le_iff_toNat_le, UInt8.lt_iff_toNat_lt,
    Nat.not_lt, Nat.not_le, hlit, and_assoc]

/-- What stands at the start of some bytes, by the number that the first one is. -/
theorem step_def (a : UInt8) (rest : List UInt8) :
    step a rest =
      if a.toNat < 0x80 then .char (Char.ofNat a.toNat) 1
      else if a.toNat < 0xc2 then .flaw .startByte 1
      else if a.toNat < 0xe0 then
        match rest with
        | [] => .flaw .endOfData 1
        | b :: _ =>
          if continues b then .char (Char.ofNat ((a.toNat % 32) * 64 + low b)) 2
          else .flaw .continuationByte 1
      else if a.toNat < 0xf0 then three a rest
      else if a.toNat < 0xf5 then four a rest
      else .flaw .startByte 1 := by
  rw [step.eq_def]
  simp only [UInt8.lt_iff_toNat_lt]
  rfl

theorem toNat_ofNat_of_lt {n : Nat} (hn : n < 256) : (UInt8.ofNat n).toNat = n := by
  rw [UInt8.toNat_ofNat']
  exact Nat.mod_eq_of_lt hn

/-- A byte with six bits of a character continues a sequence and gives back its bits. -/
theorem continues_ofNat {n : Nat} (hn : n < 64) :
    continues (UInt8.ofNat (n + 128)) = true ∧ low (UInt8.ofNat (n + 128)) = n := by
  have hbyte : (UInt8.ofNat (n + 128)).toNat = n + 128 := toNat_ofNat_of_lt (by omega)
  rw [continues_iff, low, hbyte]
  omega

section Step

variable {v : Nat} (rest : List UInt8)

theorem step_one (hv : v < 128) : step (UInt8.ofNat v) rest = .char (Char.ofNat v) 1 := by
  have ha : (UInt8.ofNat v).toNat = v := toNat_ofNat_of_lt (by omega)
  rw [step_def, ha, if_pos hv]

theorem step_two (hlow : 128 ≤ v) (hhigh : v < 2048) :
    step (UInt8.ofNat (v / 64 % 32 + 192)) (UInt8.ofNat (v % 64 + 128) :: rest) =
      .char (Char.ofNat v) 2 := by
  have ha : (UInt8.ofNat (v / 64 % 32 + 192)).toNat = v / 64 % 32 + 192 :=
    toNat_ofNat_of_lt (by omega)
  obtain ⟨hlast, hlastLow⟩ := continues_ofNat (n := v % 64) (by omega)
  have hvalue : (v / 64 % 32 + 192) % 32 * 64 + v % 64 = v := by omega
  rw [step_def, ha, if_neg (by omega), if_neg (by omega), if_pos (by omega)]
  simp only [hlast, if_true, hlastLow, hvalue]

theorem step_three (hlow : 2048 ≤ v) (hhigh : v < 65536) (hvalid : v < 0xd800 ∨ 0xdfff < v) :
    step (UInt8.ofNat (v / 4096 % 16 + 224))
        (UInt8.ofNat (v / 64 % 64 + 128) :: UInt8.ofNat (v % 64 + 128) :: rest) =
      .char (Char.ofNat v) 3 := by
  have ha : (UInt8.ofNat (v / 4096 % 16 + 224)).toNat = v / 4096 % 16 + 224 :=
    toNat_ofNat_of_lt (by omega)
  have hb : (UInt8.ofNat (v / 64 % 64 + 128)).toNat = v / 64 % 64 + 128 :=
    toNat_ofNat_of_lt (by omega)
  obtain ⟨hmiddle, hmiddleLow⟩ := continues_ofNat (n := v / 64 % 64) (by omega)
  obtain ⟨hlast, hlastLow⟩ := continues_ofNat (n := v % 64) (by omega)
  have hsecond : second (UInt8.ofNat (v / 4096 % 16 + 224))
      (UInt8.ofNat (v / 64 % 64 + 128)) = true := by
    rw [second_iff, ha, hb]
    refine ⟨hmiddle, ?_, ?_, ?_, ?_⟩ <;> omega
  have hvalue : (v / 4096 % 16 + 224) % 16 * 4096 + v / 64 % 64 * 64 + v % 64 = v := by omega
  rw [step_def, ha, if_neg (by omega), if_neg (by omega), if_neg (by omega), if_pos (by omega)]
  simp only [three, hsecond, hlast, Bool.not_true, Bool.false_eq_true, if_false, ha, hmiddleLow,
    hlastLow, hvalue]

theorem step_four (hlow : 65536 ≤ v) (hhigh : v < 0x110000) :
    step (UInt8.ofNat (v / 262144 % 8 + 240))
        (UInt8.ofNat (v / 4096 % 64 + 128) :: UInt8.ofNat (v / 64 % 64 + 128) ::
          UInt8.ofNat (v % 64 + 128) :: rest) =
      .char (Char.ofNat v) 4 := by
  have ha : (UInt8.ofNat (v / 262144 % 8 + 240)).toNat = v / 262144 % 8 + 240 :=
    toNat_ofNat_of_lt (by omega)
  have hb : (UInt8.ofNat (v / 4096 % 64 + 128)).toNat = v / 4096 % 64 + 128 :=
    toNat_ofNat_of_lt (by omega)
  obtain ⟨hupper, hupperLow⟩ := continues_ofNat (n := v / 4096 % 64) (by omega)
  obtain ⟨hmiddle, hmiddleLow⟩ := continues_ofNat (n := v / 64 % 64) (by omega)
  obtain ⟨hlast, hlastLow⟩ := continues_ofNat (n := v % 64) (by omega)
  have hsecond : second (UInt8.ofNat (v / 262144 % 8 + 240))
      (UInt8.ofNat (v / 4096 % 64 + 128)) = true := by
    rw [second_iff, ha, hb]
    refine ⟨hupper, ?_, ?_, ?_, ?_⟩ <;> omega
  have hvalue : (v / 262144 % 8 + 240) % 8 * 262144 + v / 4096 % 64 * 4096 + v / 64 % 64 * 64 +
      v % 64 = v := by omega
  rw [step_def, ha, if_neg (by omega), if_neg (by omega), if_neg (by omega), if_neg (by omega),
    if_pos (by omega)]
  simp only [four, hsecond, hmiddle, hlast, Bool.not_true, Bool.false_eq_true, if_false, ha,
    hupperLow, hmiddleLow, hlastLow, hvalue]

end Step

/-- The decoder reads the bytes of a character as that character. The cases are
the lengths of its encoding. -/
theorem step_utf8EncodeChar (c : Char) (rest : List UInt8) :
    ∃ a tail, String.utf8EncodeChar c = a :: tail ∧
      step a (tail ++ rest) = .char c (tail.length + 1) := by
  obtain ⟨v, hv⟩ : ∃ v, c.toNat = v := ⟨_, rfl⟩
  have hval : c.val.toNat = v := hv
  have hvalid : v < 0xd800 ∨ 0xdfff < v ∧ v < 0x110000 := hv ▸ c.valid
  have hback : Char.ofNat v = c := by rw [← hv, c.ofNat_toNat]
  unfold String.utf8EncodeChar
  rw [hval]
  dsimp only
  split
  · refine ⟨_, [], rfl, ?_⟩
    rw [step_one _ (by omega), hback]
    rfl
  · split
    · refine ⟨_, [_], rfl, ?_⟩
      rw [List.singleton_append, step_two _ (by omega) (by omega), hback]
      rfl
    · split
      · refine ⟨_, [_, _], rfl, ?_⟩
        simp only [List.cons_append, List.nil_append]
        rw [step_three _ (by omega) (by omega) (by omega), hback]
        rfl
      · refine ⟨_, [_, _, _], rfl, ?_⟩
        simp only [List.cons_append, List.nil_append]
        rw [step_four _ (by omega) (by omega), hback]
        rfl

/-- Enough steps bring the decoder back to the text. The induction is on the
text; a character takes one step. -/
theorem decodeFrom_encode (cs : List Char) (steps i : Nat) (hsteps : cs.length ≤ steps) :
    decodeFrom steps i (encode cs) = .ok cs := by
  induction cs generalizing steps i with
  | nil =>
      have hnil : encode [] = [] := by rw [encode_eq_flatMap, List.flatMap_nil]
      rw [hnil]
      cases steps <;> rfl
  | cons c cs ih =>
      cases steps with
      | zero => simp at hsteps
      | succ steps =>
          obtain ⟨a, tail, hbytes, hstep⟩ := step_utf8EncodeChar c (encode cs)
          have hrest : (tail ++ encode cs).drop (tail.length + 1 - 1) = encode cs := by simp
          have hlength : cs.length ≤ steps := by
            rw [List.length_cons] at hsteps
            omega
          rw [encode_cons, hbytes, List.cons_append, decodeFrom, hstep]
          dsimp only
          rw [hrest, ih _ _ hlength]
          rfl

theorem length_le_length_encode (cs : List Char) : cs.length ≤ (encode cs).length := by
  rw [encode_eq_flatMap]
  induction cs with
  | nil => simp
  | cons c cs ih =>
      have hsize := c.utf8Size_pos
      rw [List.flatMap_cons, List.length_append, String.length_utf8EncodeChar, List.length_cons]
      omega

/-- The bytes of a text are read as that text. -/
theorem decode_encode (cs : List Char) : decode (encode cs) = .ok cs :=
  decodeFrom_encode cs _ 0 (length_le_length_encode cs)

/-- Only a line feed has the byte of one. -/
theorem lineFeed_notMem_utf8EncodeChar {c : Char} (hc : c ≠ '\n') :
    10 ∉ String.utf8EncodeChar c := by
  obtain ⟨v, hv⟩ : ∃ v, c.toNat = v := ⟨_, rfl⟩
  have hval : c.val.toNat = v := hv
  have hne : v ≠ 10 := by
    rintro rfl
    exact hc (Char.toNat_inj.mp hv)
  have hbyte : ∀ n, n < 256 → n ≠ 10 → 10 ≠ UInt8.ofNat n := by
    intro n hn hne heq
    have hsame := congrArg UInt8.toNat heq
    rw [toNat_ofNat_of_lt hn] at hsame
    exact hne hsame.symm
  unfold String.utf8EncodeChar
  rw [hval]
  dsimp only
  split
  · exact List.not_mem_cons_of_ne_of_not_mem (hbyte v (by omega) hne) List.not_mem_nil
  · have hlast : 10 ∉ [UInt8.ofNat (v % 64 + 128)] :=
      List.not_mem_cons_of_ne_of_not_mem (hbyte _ (by omega) (by omega)) List.not_mem_nil
    have hmiddle : 10 ∉ [UInt8.ofNat (v / 64 % 64 + 128), UInt8.ofNat (v % 64 + 128)] :=
      List.not_mem_cons_of_ne_of_not_mem (hbyte _ (by omega) (by omega)) hlast
    have hupper : 10 ∉ [UInt8.ofNat (v / 4096 % 64 + 128), UInt8.ofNat (v / 64 % 64 + 128),
        UInt8.ofNat (v % 64 + 128)] :=
      List.not_mem_cons_of_ne_of_not_mem (hbyte _ (by omega) (by omega)) hmiddle
    split
    · exact List.not_mem_cons_of_ne_of_not_mem (hbyte _ (by omega) (by omega)) hlast
    · split
      · exact List.not_mem_cons_of_ne_of_not_mem (hbyte _ (by omega) (by omega)) hmiddle
      · exact List.not_mem_cons_of_ne_of_not_mem (hbyte _ (by omega) (by omega)) hupper

end BundleAtlas.Text.Utf8
