import BundleAtlas.Proofs.Symbol.Outline
import BundleAtlas.Proofs.Symbol.Scan

/-!
Outlines with a limit. The lists of an outline are sliced and not cut up to the
limit as those of a scan are, which is the same as long as the limit is not
below zero. Below zero the names at the end go, so that the first ones stay
unless there are too few of them.
-/

namespace BundleAtlas

namespace Text

variable {α : Type} {n : Int}

theorem slice_eq_upTo (hn : 0 ≤ n) (xs : List α) : slice n xs = upTo (some n) xs := by
  have hsame : (max 0 n).toNat = n.toNat := by omega
  rw [slice, if_neg (by omega), upTo, hsame]

theorem upTo_of_neg (hn : n < 0) (xs : List α) : upTo (some n) xs = [] := by
  have hzero : (max 0 n).toNat = 0 := by omega
  rw [upTo, hzero, List.take_zero]

theorem length_slice_of_neg (hn : n < 0) (xs : List α) :
    (slice n xs).length = xs.length - n.natAbs := by
  rw [slice, if_pos hn, List.length_take]
  omega

theorem slice_prefix_self (n : Int) (xs : List α) : slice n xs <+: xs := by
  unfold slice
  split
  · exact List.take_prefix _ xs
  · exact List.take_prefix _ xs

/-- A slice leaves more than there is up to the limit exactly if the limit is
below zero and the list reaches past it. -/
theorem slice_eq_upTo_iff (n : Int) (xs : List α) :
    slice n xs = upTo (some n) xs ↔ 0 ≤ n ∨ xs.length ≤ n.natAbs := by
  by_cases hn : n < 0
  · rw [upTo_of_neg hn, ← List.length_eq_zero_iff, length_slice_of_neg hn]
    omega
  · have hnonneg : 0 ≤ n := by omega
    exact iff_of_true (slice_eq_upTo hnonneg xs) (Or.inl hnonneg)

end Text

/-- How a list of names comes out of a limit. -/
structure SlicedTo (limit : Int) (all names : List String) : Prop where
  first : names <+: all
  upTo : 0 ≤ limit → names = upTo (some limit) all
  short : 0 ≤ limit → (names.length : Int) ≤ limit
  rest : limit < 0 → names.length = all.length - limit.natAbs
  iff_upTo : names = BundleAtlas.upTo (some limit) all ↔ 0 ≤ limit ∨ all.length ≤ limit.natAbs

theorem slicedTo_slice (limit : Int) (all : List String) :
    SlicedTo limit all (Text.slice limit all) where
  first := Text.slice_prefix_self limit all
  upTo hlimit := Text.slice_eq_upTo hlimit all
  short hlimit := by
    rw [Text.slice_eq_upTo hlimit, BundleAtlas.upTo, List.length_take]
    omega
  rest hlimit := Text.length_slice_of_neg hlimit all
  iff_upTo := Text.slice_eq_upTo_iff limit all

namespace Parsed

/-- What the nodes of a document have, from the first one in reading order to
the last. -/
def allNames (p : Parsed) (names : Source → Node → List String) : List String :=
  p.root.sites.flatMap fun s => names p.source s.node

theorem outline_eq (p : Parsed) : p.outline =
    ⟨p.allNames Node.functionNames, p.allNames Node.classNames, p.allNames Node.exportNames,
      (p.allNames Node.functionNames).length, (p.allNames Node.variableNames).length⟩ := by
  simp only [outline, flatMap_node_walk, allNames]

end Parsed

/-- The outline of a text under a limit, for every reader of documents. A text
that cannot be read has none. Else each list is a first part of all names in
reading order: up to the limit if that is not below zero, and below zero
without as many names at the end, which is more than the limit allows exactly
if there are more names than that. The two counts do not depend on the limit. -/
theorem outline_sliced_to_limit (parse : Parse) (text : String) (limit : Int) :
    match parse text with
    | .error e => analyzeStructure parse text (some limit) = .error e
    | .ok p => ∃ o, analyzeStructure parse text (some limit) = .ok o ∧
      SlicedTo limit (p.allNames Node.functionNames) o.functions ∧
      SlicedTo limit (p.allNames Node.classNames) o.classes ∧
      SlicedTo limit (p.allNames Node.exportNames) o.exports ∧
      o.totalFunctions = (p.allNames Node.functionNames).length ∧
      o.totalVariables = (p.allNames Node.variableNames).length := by
  cases hparse : parse text with
  | error e =>
      simp only [analyzeStructure, hparse]
      rfl
  | ok p =>
      have hcut : analyzeStructure parse text (some limit) = .ok (p.outline.cut (some limit)) := by
        simp only [analyzeStructure, hparse]
        rfl
      refine ⟨_, hcut, ?_⟩
      rw [p.outline_eq]
      exact ⟨slicedTo_slice limit _, slicedTo_slice limit _, slicedTo_slice limit _, rfl, rfl⟩

namespace TwoFunctions

open Node

def text : String := "function a()\x7b\x7d function b()\x7b\x7d"

/-- The declaration of a function with a name of one letter, at an offset. -/
def declaration (start : Nat) : Node :=
  inLine .functionDeclaration none start (start + 14)
    [inLine (.token "function") none start (start + 8),
      inLine .identifier (some .name) (start + 9) (start + 10),
      emptyParens "formal_parameters" .parameters (start + 10), emptyBody (start + 12)]

/-- The document `function a(){} function b(){}`. -/
def document : Parsed := ⟨inLine .program none 0 29 [declaration 0, declaration 15], .ofString text⟩

/-- A reader of this document and of nothing else. -/
def read : Parse := fun t => if t = text then .ok document else .error (unexpectedToken ⟨0, 0, 0⟩)

end TwoFunctions

open TwoFunctions in
/-- A limit of minus one leaves the first of two functions, where a scan of the
same document leaves nothing. -/
theorem negative_limit_leaves_names :
    analyzeStructure read text (some (-1)) = .ok ⟨["a"], [], [], 2, 0⟩ ∧
    upTo (some (-1)) (document.allNames Node.functionNames) = [] ∧
    (scanSymbols read [⟨"0", "0.js", text⟩] (some (-1))).symbols = [] := by
  have hread : read text = .ok document := if_pos rfl
  have hcut : document.outline.cut (some (-1)) = ⟨["a"], [], [], 2, 0⟩ := by decide +kernel
  refine ⟨?_, rfl, ?_⟩
  · simp only [analyzeStructure, hread]
    exact congrArg Except.ok hcut
  · rw [symbols_scanSymbols]
    rfl

end BundleAtlas
