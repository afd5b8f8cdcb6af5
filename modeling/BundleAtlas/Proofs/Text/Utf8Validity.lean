import BundleAtlas.Proofs.Text.Utf8

/-!
Bytes that are decoded are the encoding of what comes out. The decoder takes a
character only from the bytes that the character is encoded with: no overlong
form, no surrogate, nothing beyond the last code point, nothing cut off. So it
accepts exactly the encodings of texts, and gives each of them back.
-/

namespace BundleAtlas.Text.Utf8

variable {a b c d : UInt8} {rest bytes : List UInt8}

theorem ofNat_low (hb : continues b = true) : UInt8.ofNat (low b + 128) = b := by
  rw [continues_iff] at hb
  rw [← UInt8.toNat_inj, toNat_ofNat_of_lt, low]
  · omega
  · rw [low]
    omega

/-- The bytes of a code point, by its number. -/
theorem utf8EncodeChar_ofNat {v : Nat} (hvalid : v < 0xd800 ∨ 0xdfff < v ∧ v < 0x110000) :
    String.utf8EncodeChar (Char.ofNat v) =
      if v ≤ 127 then [UInt8.ofNat v]
      else if v ≤ 2047 then [UInt8.ofNat (v / 64 % 32 + 192), UInt8.ofNat (v % 64 + 128)]
      else if v ≤ 65535 then
        [UInt8.ofNat (v / 4096 % 16 + 224), UInt8.ofNat (v / 64 % 64 + 128),
          UInt8.ofNat (v % 64 + 128)]
      else
        [UInt8.ofNat (v / 262144 % 8 + 240), UInt8.ofNat (v / 4096 % 64 + 128),
          UInt8.ofNat (v / 64 % 64 + 128), UInt8.ofNat (v % 64 + 128)] := by
  have hv : v.isValidChar := hvalid
  have hval : (Char.ofNat v).val.toNat = v := by
    rw [Char.ofNat, dif_pos hv]
    rfl
  unfold String.utf8EncodeChar
  rw [hval]

section Sequence

/-! Sequences that fit are the encodings of their characters. The bounds on the
second byte are what keeps the number in the range of its length. -/

theorem utf8EncodeChar_of_two (hlow : 0xc2 ≤ a.toNat) (hhigh : a.toNat < 0xe0)
    (hb : continues b = true) :
    String.utf8EncodeChar (Char.ofNat (a.toNat % 32 * 64 + low b)) = [a, b] := by
  have hbits : low b < 64 := Nat.mod_lt _ (by decide)
  have hfirst : (a.toNat % 32 * 64 + low b) / 64 % 32 + 192 = a.toNat := by omega
  have hlast : (a.toNat % 32 * 64 + low b) % 64 = low b := by omega
  rw [utf8EncodeChar_ofNat (by omega), if_neg (by omega), if_pos (by omega), hfirst, hlast,
    UInt8.ofNat_toNat, ofNat_low hb]

theorem utf8EncodeChar_of_three (hlow : 0xe0 ≤ a.toNat) (hhigh : a.toNat < 0xf0)
    (hb : second a b = true) (hc : continues c = true) :
    String.utf8EncodeChar (Char.ofNat (a.toNat % 16 * 4096 + low b * 64 + low c)) = [a, b, c] := by
  obtain ⟨hnext, hoverlong, hsurrogate, -, -⟩ := (second_iff a b).mp hb
  have hrange := (continues_iff b).mp hnext
  have hbbits : low b = b.toNat - 128 := by rw [low]; omega
  have hcbits : low c < 64 := Nat.mod_lt _ (by decide)
  have hfirst : (a.toNat % 16 * 4096 + low b * 64 + low c) / 4096 % 16 + 224 = a.toNat := by omega
  have hmiddle : (a.toNat % 16 * 4096 + low b * 64 + low c) / 64 % 64 = low b := by omega
  have hlast : (a.toNat % 16 * 4096 + low b * 64 + low c) % 64 = low c := by omega
  rw [utf8EncodeChar_ofNat (by omega), if_neg (by omega), if_neg (by omega), if_pos (by omega),
    hfirst, hmiddle, hlast, UInt8.ofNat_toNat, ofNat_low hnext, ofNat_low hc]

theorem utf8EncodeChar_of_four (hlow : 0xf0 ≤ a.toNat) (hhigh : a.toNat < 0xf5)
    (hb : second a b = true) (hc : continues c = true) (hd : continues d = true) :
    String.utf8EncodeChar
        (Char.ofNat (a.toNat % 8 * 262144 + low b * 4096 + low c * 64 + low d)) =
      [a, b, c, d] := by
  obtain ⟨hnext, -, -, hoverlong, hbeyond⟩ := (second_iff a b).mp hb
  have hrange := (continues_iff b).mp hnext
  have hbbits : low b = b.toNat - 128 := by rw [low]; omega
  have hcbits : low c < 64 := Nat.mod_lt _ (by decide)
  have hdbits : low d < 64 := Nat.mod_lt _ (by decide)
  generalize hv : a.toNat % 8 * 262144 + low b * 4096 + low c * 64 + low d = v
  have hfirst : v / 262144 % 8 + 240 = a.toNat := by omega
  have hupper : v / 4096 % 64 = low b := by omega
  have hmiddle : v / 64 % 64 = low c := by omega
  have hlast : v % 64 = low d := by omega
  rw [utf8EncodeChar_ofNat (by omega), if_neg (by omega), if_neg (by omega), if_neg (by omega),
    hfirst, hupper, hmiddle, hlast, UInt8.ofNat_toNat, ofNat_low hnext, ofNat_low hc, ofNat_low hd]

end Sequence

theorem exists_of_three {char : Char} {n : Nat} (hread : three a rest = .char char n) :
    ∃ b c more, rest = b :: c :: more ∧ second a b = true ∧ continues c = true ∧
      char = Char.ofNat (a.toNat % 16 * 4096 + low b * 64 + low c) ∧ n = 3 := by
  unfold three at hread
  split at hread
  · cases hread
  · split at hread <;> cases hread
  · rename_i b c more
    cases hb : second a b <;> cases hc : continues c <;> simp only [hb, hc] at hread <;>
      cases hread
    exact ⟨b, c, more, rfl, hb, hc, rfl, rfl⟩

theorem exists_of_four {char : Char} {n : Nat} (hread : four a rest = .char char n) :
    ∃ b c d more, rest = b :: c :: d :: more ∧ second a b = true ∧ continues c = true ∧
      continues d = true ∧
      char = Char.ofNat (a.toNat % 8 * 262144 + low b * 4096 + low c * 64 + low d) ∧ n = 4 := by
  unfold four at hread
  split at hread
  · cases hread
  · split at hread <;> cases hread
  · rename_i b c
    cases hb : second a b <;> cases hc : continues c <;> simp only [hb, hc] at hread <;>
      cases hread
  · rename_i b c d more
    cases hb : second a b <;> cases hc : continues c <;> cases hd : continues d <;>
      simp only [hb, hc, hd] at hread <;> cases hread
    exact ⟨b, c, d, more, rfl, hb, hc, hd, rfl, rfl⟩

/-- What a step reads as a character starts with the encoding of the character,
and the rest is what is behind it. -/
theorem eq_append_of_step {char : Char} {n : Nat} (hstep : step a rest = .char char n) :
    a :: rest = String.utf8EncodeChar char ++ rest.drop (n - 1) := by
  rw [step_def] at hstep
  split at hstep
  · rename_i hone
    cases hstep
    rw [utf8EncodeChar_ofNat (by omega), if_pos (by omega), UInt8.ofNat_toNat]
    rfl
  · split at hstep
    · cases hstep
    · split at hstep
      · rename_i _ hlow hhigh
        split at hstep
        · cases hstep
        · split at hstep
          · rename_i b more hb
            cases hstep
            rw [utf8EncodeChar_of_two (by omega) hhigh hb]
            rfl
          · cases hstep
      · split at hstep
        · obtain ⟨b, c, more, rfl, hb, hc, rfl, rfl⟩ := exists_of_three hstep
          rw [utf8EncodeChar_of_three (by omega) (by omega) hb hc]
          rfl
        · split at hstep
          · obtain ⟨b, c, d, more, rfl, hb, hc, hd, rfl, rfl⟩ := exists_of_four hstep
            rw [utf8EncodeChar_of_four (by omega) (by omega) hb hc hd]
            rfl
          · cases hstep

theorem encode_nil : encode [] = [] := by rw [encode_eq_flatMap, List.flatMap_nil]

/-- With a step for every byte, bytes that are decoded are the encoding of what
comes out. The induction is on the steps; each takes at least one byte. -/
theorem eq_encode_of_decodeFrom {steps i : Nat} {cs : List Char} (hsteps : bytes.length ≤ steps)
    (hdecoded : decodeFrom steps i bytes = .ok cs) : bytes = encode cs := by
  induction steps generalizing i bytes cs with
  | zero =>
      obtain rfl : bytes = [] := List.eq_nil_of_length_eq_zero (Nat.le_zero.mp hsteps)
      cases hdecoded
      exact encode_nil.symm
  | succ steps ih =>
      cases bytes with
      | nil =>
          cases hdecoded
          exact encode_nil.symm
      | cons a rest =>
          rw [decodeFrom] at hdecoded
          cases hstep : step a rest with
          | flaw f n =>
              rw [hstep] at hdecoded
              cases hdecoded
          | char c n =>
              rw [hstep] at hdecoded
              dsimp only at hdecoded
              cases hrest : decodeFrom steps (i + n) (rest.drop (n - 1)) with
              | error m =>
                  rw [hrest] at hdecoded
                  cases hdecoded
              | ok tail =>
                  rw [hrest] at hdecoded
                  cases hdecoded
                  have hshort : (rest.drop (n - 1)).length ≤ steps := by
                    rw [List.length_cons] at hsteps
                    rw [List.length_drop]
                    omega
                  rw [encode_cons, ← ih hshort hrest, ← eq_append_of_step hstep]

/-- The decoder gives a text exactly for the bytes of that text. -/
theorem decode_eq_ok_iff {cs : List Char} : decode bytes = .ok cs ↔ bytes = encode cs := by
  constructor
  · exact eq_encode_of_decodeFrom (Nat.le_refl _)
  · rintro rfl
    exact decode_encode cs

/-- Valid bytes are the encodings of texts. -/
theorem isValidUTF8_iff : bytes.toByteArray.IsValidUTF8 ↔ ∃ cs, bytes = encode cs := by
  simp only [encode_eq_flatMap, ← List.toByteArray_inj]
  constructor
  · rintro ⟨cs, hcs⟩
    exact ⟨cs, hcs⟩
  · rintro ⟨cs, hcs⟩
    exact ⟨cs, hcs⟩

end BundleAtlas.Text.Utf8
