import Mathlib.Data.List.TakeWhile
import BundleAtlas.Schema.Integer

/-!
Decimal texts of numbers are read back. The reader of integers takes off blanks,
a sign, zeros in front, a fraction and underscores. A row of digits without a
zero in front has none of these, so every step leaves it as it is, and what is
left are the digits that the number was written with.
-/

namespace BundleAtlas.Schema

open Text

variable {cs : List Char}

theorem char_le_iff (c d : Char) : c ≤ d ↔ c.toNat ≤ d.toNat := by
  rw [Char.le_def, UInt32.le_iff_toNat_le]
  rfl

theorem isBlank_of_isDigit {c : Char} (hc : c.isDigit = true) : isBlank c = false := by
  rw [Char.isDigit_iff_toNat] at hc
  have hspace : Text.isSpace c = false := by
    simp only [Char.reduceToNat] at hc
    simp only [Text.isSpace, char_le_iff, ← Char.toNat_inj, Char.reduceToNat,
      Bool.or_eq_false_iff, Bool.and_eq_false_imp, decide_eq_true_eq, decide_eq_false_iff_not,
      beq_eq_false_iff_ne, ne_eq]
    omega
  rw [isBlank, hspace, Bool.false_and]

theorem trimBlanks_eq_self (hcs : ∀ c ∈ cs, isBlank c = false) : trimBlanks cs = cs := by
  have hfront : ∀ ds : List Char, (∀ c ∈ ds, isBlank c = false) → ds.dropWhile isBlank = ds := by
    intro ds hds
    cases ds with
    | nil => rfl
    | cons d ds => rw [List.dropWhile_cons_of_neg (by simp [hds d])]
  rw [trimBlanks, hfront cs hcs, hfront cs.reverse (by simpa using hcs), List.reverse_reverse]

theorem dropFraction_eq_self (hcs : '.' ∉ cs) : dropFraction cs = cs := by
  have hwhole : cs.takeWhile (· != '.') = cs := by
    rw [List.takeWhile_eq_self_iff]
    rintro c hc
    rw [bne_iff_ne]
    rintro rfl
    exact hcs hc
  rw [dropFraction, hwhole, List.drop_length]

theorem dropUnderscores_eq_self (hcs : '_' ∉ cs) : dropUnderscores cs = cs := by
  have hfilter : cs.filter (· != '_') = cs := by
    rw [List.filter_eq_self]
    intro c hc
    rw [bne_iff_ne]
    rintro rfl
    exact hcs hc
  rw [dropUnderscores, hfilter, ite_self]

/-- Only a zero that stands alone may be in front, and it is kept. -/
theorem dropZeros_of_areDigits (hcs : areDigits cs = true) : dropZeros cs = some cs := by
  unfold areDigits at hcs
  simp only [Bool.and_eq_true, List.all_eq_true] at hcs
  obtain ⟨⟨hnonempty, hdigits⟩, hzero⟩ := hcs
  cases cs with
  | nil => cases hnonempty
  | cons c ds =>
      by_cases hfirst : c = '0'
      · have hshort : ds = [] := by simpa [hfirst] using hzero
        rw [hfirst, hshort]
        rfl
      · have hpositive : '1' ≤ c ∧ c ≤ '9' := by
          have hc := Char.isDigit_iff_toNat.mp (hdigits c List.mem_cons_self)
          have hne : c.toNat ≠ '0'.toNat := fun h => hfirst (Char.toNat_inj.mp h)
          simp only [char_le_iff, Char.reduceToNat] at hc hne ⊢
          omega
        simp [dropZeros, hfirst, hpositive]

/-- Digits are as bare as a number can be. -/
theorem bareNumber?_of_areDigits (hcs : areDigits cs = true) : bareNumber? cs = some cs := by
  have hdigits : ∀ c ∈ cs, c.isDigit = true := by
    unfold areDigits at hcs
    simp only [Bool.and_eq_true, List.all_eq_true] at hcs
    exact hcs.1.2
  have hother : ∀ c : Char, c.isDigit = false → c ∉ cs := by
    intro c hc hmem
    rw [hdigits c hmem] at hc
    cases hc
  have htrim : trimBlanks cs = cs :=
    trimBlanks_eq_self fun c hc => isBlank_of_isDigit (hdigits c hc)
  have hplus : dropPlus cs = some cs := by
    unfold dropPlus
    split
    · exact absurd List.mem_cons_self (hother '+' rfl)
    · exact absurd List.mem_cons_self (hother '+' rfl)
    · rfl
  simp only [bareNumber?, htrim, hplus, dropZeros_of_areDigits hcs, Option.bind_eq_bind,
    Option.bind_some, dropFraction_eq_self (hother '.' rfl),
    dropUnderscores_eq_self (hother '_' rfl)]
  rfl

/-- The digits of a positive number do not start with a zero. The induction is
on the number: its last digit stands behind those of its tenth part. -/
theorem head?_toDigits_ne_zero {n : Nat} (hn : 0 < n) :
    (Nat.toDigits 10 n).head? ≠ some '0' := by
  induction n using Nat.strong_induction_on with
  | _ n ih =>
      by_cases hsmall : n < 10
      · rw [Nat.toDigits_of_lt_base hsmall, List.head?_cons, ne_eq, Option.some.injEq,
          ← Char.toNat_inj, Nat.toNat_digitChar_of_lt_ten hsmall]
        simp only [Char.reduceToNat]
        omega
      · have hfront : (Nat.toDigits 10 (n / 10)).head?.isSome = true := by
          rw [List.isSome_head?]
          exact Nat.toDigits_ne_nil
        rw [Nat.toDigits_of_base_le (by decide) (by omega), List.head?_append,
          Option.or_of_isSome hfront]
        exact ih (n / 10) (by omega) (by omega)

theorem areDigits_toDigits (n : Nat) : areDigits (Nat.toDigits 10 n) = true := by
  have hnonempty : (Nat.toDigits 10 n).isEmpty = false :=
    List.isEmpty_eq_false_iff.mpr Nat.toDigits_ne_nil
  have hdigits : (Nat.toDigits 10 n).all Char.isDigit = true :=
    List.all_eq_true.mpr fun c hc => Nat.isDigit_of_mem_toDigits (by decide) (by decide) hc
  rw [areDigits, hnonempty, hdigits, Bool.not_false, Bool.true_and, Bool.true_and]
  cases n with
  | zero => rfl
  | succ n =>
      rw [Bool.or_eq_true, bne_iff_ne]
      exact Or.inr (head?_toDigits_ne_zero n.succ_pos)

theorem digitsValue_toDigits (n : Nat) : digitsValue (Nat.toDigits 10 n) = n :=
  Nat.ofDigitChars_ten_toDigits

/-- The decimal text of a number is read as that number, unless it is too
long. -/
theorem readIntegerText_toString {n : Nat} (hlength : (toString n).length ≤ mostDigits) :
    readIntegerText (toString n) = .value n := by
  have htext : (toString n).toList = Nat.toDigits 10 n := by
    rw [Nat.toString_eq_ofList_toDigits, String.toList_ofList]
  have hdigits := areDigits_toDigits n
  have hread : readDigits false (Nat.toDigits 10 n) = .value n := by
    have hfits : ¬ mostDigits < (Nat.toDigits 10 n).length := by
      rw [← htext, String.length_toList]
      omega
    rw [readDigits, hdigits, if_neg (by decide), if_neg hfits, digitsValue_toDigits]
    rfl
  rw [readIntegerText, htext, bareNumber?_of_areDigits hdigits]
  split
  · rename_i hnone
    cases hnone
  · rename_i cs hsign
    rw [Option.some.inj hsign] at hdigits
    simp [areDigits] at hdigits
  · rename_i cs _ hcs
    rw [← Option.some.inj hcs, hread]

end BundleAtlas.Schema
