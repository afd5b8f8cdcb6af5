import BundleAtlas.Text.Piece
import BundleAtlas.Tree.Node

/-!
Occurrences. A text occurs in another one if it is a run of its characters; so
whatever a node covers occurs in the text that the tree was read from. A list
without repetitions keeps the first occurrence of each item.
-/

namespace BundleAtlas

namespace Text

theorem occurs_iff_infix (piece whole : List Char) :
    occurs piece whole = true ↔ piece <:+: whole := by
  induction whole with
  | nil => simp [occurs]
  | cons c cs ih =>
      rw [occurs, Bool.or_eq_true, ih, List.isPrefixOf_iff_prefix, List.infix_cons_iff]

/-- A text occurs in another one if that is the text with something before it
and something behind it. -/
theorem occursIn_iff (piece whole : String) :
    occursIn piece whole = true ↔ ∃ a b : String, whole = a ++ piece ++ b := by
  rw [occursIn, occurs_iff_infix]
  constructor
  · rintro ⟨a, b, hwhole⟩
    refine ⟨String.ofList a, String.ofList b, ?_⟩
    rw [← String.toList_inj, ← hwhole]
    simp
  · rintro ⟨a, b, rfl⟩
    exact ⟨a.toList, b.toList, by simp⟩

variable {α : Type} [DecidableEq α]

theorem distinct_filter (p : α → Bool) (xs : List α) :
    distinct (xs.filter p) = (distinct xs).filter p := by
  induction xs with
  | nil => rfl
  | cons x xs ih =>
      cases hx : p x with
      | true =>
          simp only [List.filter_cons, hx, if_true, distinct, ih, List.filter_filter]
          simp only [Bool.and_comm]
      | false =>
          -- An item that the filter drops is dropped from the rest as well.
          have hdrop : ∀ y, (p y && decide (y ≠ x)) = p y := by
            intro y
            by_cases hy : y = x
            · simp [hy, hx]
            · simp [hy]
          simp only [List.filter_cons, hx, Bool.false_eq_true, if_false, distinct, ih,
            List.filter_filter, hdrop]

/-- What is left without repetitions are the first occurrences, in order. -/
theorem distinct_eq_eraseDups (xs : List α) : distinct xs = xs.eraseDups := by
  match xs with
  | [] => rfl
  | x :: xs =>
      have hfewer := List.length_filter_le (fun y => !y == x) xs
      have hpredicate : (fun y => decide (y ≠ x)) = fun y => !y == x := by
        funext y
        rw [decide_not]
        rfl
      rw [distinct, List.eraseDups_cons, ← distinct_filter, hpredicate,
        distinct_eq_eraseDups (xs.filter fun y => !y == x)]
termination_by xs.length

theorem filter_eraseDups (p : α → Bool) (xs : List α) :
    xs.eraseDups.filter p = (xs.filter p).eraseDups := by
  rw [← distinct_eq_eraseDups, ← distinct_eq_eraseDups, distinct_filter]

theorem nodup_distinct (xs : List α) : (distinct xs).Nodup := by
  induction xs with
  | nil => exact List.nodup_nil
  | cons x xs ih =>
      rw [distinct, List.nodup_cons]
      exact ⟨by simp, ih.filter _⟩

end Text

/-- What stands between two offsets of a text occurs in it. -/
theorem Source.occursIn_slice (text : String) (start stop : Nat) :
    Text.occursIn ((ofString text).slice start stop) text = true := by
  unfold Text.occursIn slice ofString
  rw [Text.occurs_iff_infix, String.toList_ofList, Array.toList_extract, List.extract_eq_take_drop]
  exact (List.take_prefix _ _).isInfix.trans (List.drop_suffix _ _).isInfix

end BundleAtlas
