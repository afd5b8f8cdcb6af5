import BundleAtlas.Text.LineBreak
import BundleAtlas.Text.Piece

/-!
Line breaks as line feeds. Going through a text once and looking one character
ahead is the same as first replacing every carriage return with its line feed,
and then every carriage return that is left.
-/

namespace BundleAtlas.Text

section Replace

variable {piece new cs : List Char}

/-- A step for every character is enough; more steps change nothing. -/
theorem replaceFrom_congr (hpiece : piece ≠ []) {steps more : Nat} (hsteps : cs.length ≤ steps)
    (hmore : cs.length ≤ more) :
    replaceFrom piece new steps cs = replaceFrom piece new more cs := by
  induction steps generalizing more cs with
  | zero =>
      obtain rfl : cs = [] := List.eq_nil_of_length_eq_zero (Nat.le_zero.mp hsteps)
      cases more <;> rfl
  | succ steps ih =>
      cases cs with
      | nil => cases more <;> rfl
      | cons c cs =>
          rw [List.length_cons] at hsteps hmore
          obtain ⟨more, rfl⟩ : ∃ fewer, more = fewer + 1 := ⟨more - 1, by omega⟩
          have hpositive := List.length_pos_iff.mpr hpiece
          rw [replaceFrom, replaceFrom]
          split
          · rw [ih]
            · rw [List.length_drop, List.length_cons]
              omega
            · rw [List.length_drop, List.length_cons]
              omega
          · rw [ih (Nat.le_of_succ_le_succ hsteps) (Nat.le_of_succ_le_succ hmore)]

theorem replace_nil : replace piece new [] = [] := by
  cases piece <;> rfl

/-- How a piece is replaced, character by character. -/
theorem replace_cons (hpiece : piece ≠ []) (c : Char) :
    replace piece new (c :: cs) =
      if piece.isPrefixOf (c :: cs) then new ++ replace piece new ((c :: cs).drop piece.length)
      else c :: replace piece new cs := by
  have hempty : piece.isEmpty = false := List.isEmpty_eq_false_iff.mpr hpiece
  have hpositive := List.length_pos_iff.mpr hpiece
  have hfewer : ((c :: cs).drop piece.length).length ≤ cs.length := by
    rw [List.length_drop, List.length_cons]
    omega
  simp only [replace, hempty, Bool.false_eq_true, if_false, List.length_cons, replaceFrom]
  rw [replaceFrom_congr hpiece hfewer (Nat.le_refl _)]

end Replace

/-- Line feeds for every carriage return with its line feed, and then for every
carriage return that is left. -/
def withLineFeeds (cs : List Char) : List Char :=
  replace ['\r'] ['\n'] (replace ['\r', '\n'] ['\n'] cs)

section WithLineFeeds

variable {c : Char} {cs : List Char}

theorem withLineFeeds_nil : withLineFeeds [] = [] := by
  rw [withLineFeeds, replace_nil, replace_nil]

theorem withLineFeeds_pair : withLineFeeds ('\r' :: '\n' :: cs) = '\n' :: withLineFeeds cs := by
  simp [withLineFeeds, replace_cons]

theorem withLineFeeds_cons (hpair : ∀ ds, c = '\r' → cs ≠ '\n' :: ds) :
    withLineFeeds (c :: cs) = (if c == '\r' then '\n' else c) :: withLineFeeds cs := by
  have hnone : ['\r', '\n'].isPrefixOf (c :: cs) = false := by
    rw [← Bool.not_eq_true, List.isPrefixOf_iff_prefix]
    rintro ⟨ds, hds⟩
    cases hds
    exact hpair ds rfl rfl
  have hkept : replace ['\r', '\n'] ['\n'] (c :: cs) = c :: replace ['\r', '\n'] ['\n'] cs := by
    rw [replace_cons (List.cons_ne_nil _ _), hnone, if_neg Bool.false_ne_true]
  rw [withLineFeeds, hkept, replace_cons (List.cons_ne_nil _ _)]
  by_cases hreturn : c = '\r'
  · subst hreturn
    rfl
  · have hother : ∀ ds, ['\r'].isPrefixOf (c :: ds) = false := by
      intro ds
      simp [List.isPrefixOf, Ne.symm hreturn]
    rw [hother, if_neg Bool.false_ne_true, if_neg (by simpa using hreturn)]
    rfl

/-- Other characters stay as they are. -/
theorem withLineFeeds_other (hc : c ≠ '\r') : withLineFeeds (c :: cs) = c :: withLineFeeds cs := by
  rw [withLineFeeds_cons fun _ h => absurd h hc, if_neg (by simpa using hc)]

theorem withLineFeeds_eq_self (hcs : '\r' ∉ cs) : withLineFeeds cs = cs := by
  induction cs with
  | nil => exact withLineFeeds_nil
  | cons c cs ih =>
      rw [List.mem_cons, not_or] at hcs
      rw [withLineFeeds_other (Ne.symm hcs.1), ih hcs.2]

end WithLineFeeds

/-- One pass with a look ahead does what both replacements do. -/
theorem unifyBreaks_eq_withLineFeeds (cs : List Char) : unifyBreaks cs = withLineFeeds cs := by
  fun_induction unifyBreaks cs with
  | case1 cs ih => rw [withLineFeeds_pair, ih]
  | case2 c cs hpair ih => rw [withLineFeeds_cons hpair, ih]
  | case3 => exact withLineFeeds_nil.symm

end BundleAtlas.Text
