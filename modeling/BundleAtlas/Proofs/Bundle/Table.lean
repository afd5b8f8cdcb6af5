import BundleAtlas.Bundle.Split
import BundleAtlas.Proofs.Text.Occurrence
import Mathlib.Data.List.Forall2
import Mathlib.Data.List.Induction

/-!
What a table of modules retains. The elements of an array stand under their
numbers, which count the commas before them. The members of an object are
pairs; a key that is given more than once stands where it first occurs, with
the value that it has last.
-/

namespace BundleAtlas

theorem mapM_eq_some_iff_forall₂ {α β : Type} {f : α → Option β} {xs : List α}
    {ys : List β} : xs.mapM f = some ys ↔ List.Forall₂ (fun x y => f x = some y) xs ys := by
  induction xs generalizing ys with
  | nil => cases ys <;> simp
  | cons x xs ih =>
      rw [List.mapM_cons]
      cases hx : f x with
      | none => cases ys <;> simp [hx]
      | some y =>
          cases hxs : xs.mapM f with
          | none => cases ys <;> simp [hx, ← ih, hxs]
          | some rest => cases ys <;> simp [hx, ← ih, hxs]

namespace Split

/-- The brackets of an array and the comments in it. -/
def isPassed (c : Node) : Bool := c.kind == .token "[" || c.kind == .token "]" || c.isComment

def isComma (c : Node) : Bool := c.kind == .token ","

/-- The children of an array that are its elements. -/
def isElement (c : Node) : Bool := !isPassed c && !isComma c

/-- The elements among the children of an array, each under the number of
commas before it. -/
def numberedElements (cs : List Node) : List (String × Node) :=
  cs.zipIdx.filterMap fun (c, i) =>
    if isElement c then some (toString ((cs.take i).countP isComma), c) else none

/-- The last pair under each key, in the order in which the keys first occur. -/
def lastPairs (pairs : List (String × Node)) : List (String × Node) :=
  (pairs.map Prod.fst).eraseDups.filterMap fun key => pairs.reverse.find? (·.1 == key)

/-- A member of an object is a pair, with this key and this value. -/
structure IsPair (src : Source) (member : Node) (pair : String × Node) : Prop where
  kind : member.kind = .pair
  key : ∃ key, member.child? .key = some key ∧ pair.1 = keyText src key
  value : member.child? .value = some pair.2

/-- A table retains some entries: an array its elements, an object whose
members are pairs the last pair under each key. -/
inductive Retains (src : Source) (table : Node) : List (String × Node) → Prop
  | elements (hkind : table.kind = .array) : Retains src table (numberedElements table.children)
  | members {pairs : List (String × Node)} (hkind : table.kind = .object)
      (hpairs : List.Forall₂ (IsPair src) table.properChildren pairs) :
      Retains src table (lastPairs pairs)

theorem isComma_of_isPassed {c : Node} (hpassed : isPassed c = true) : isComma c = false := by
  have hkinds : (c.kind = .token "[" ∨ c.kind = .token "]") ∨ c.kind = .comment := by
    simpa [isPassed, Node.isComment] using hpassed
  rcases hkinds with (hkind | hkind) | hkind <;> simp [isComma, hkind]

/-- Reading on behind some children, the numbers go on from the commas among
them. -/
theorem arrayEntries_eq (before cs : List Node) :
    arrayEntries (before.countP isComma) cs =
      (cs.zipIdx before.length).filterMap fun (c, i) =>
        if isElement c then some (toString (((before ++ cs).take i).countP isComma), c)
        else none := by
  induction cs generalizing before with
  | nil => rfl
  | cons c cs ih =>
      have hmove : before ++ c :: cs = (before ++ [c]) ++ cs := by simp
      have hnext := ih (before ++ [c])
      rw [List.length_append, List.length_singleton, List.countP_append,
        List.countP_singleton] at hnext
      have hstep : arrayEntries (before.countP isComma) (c :: cs) =
          if isPassed c then arrayEntries (before.countP isComma) cs
          else if isComma c then arrayEntries (before.countP isComma + 1) cs
          else (toString (before.countP isComma), c) ::
            arrayEntries (before.countP isComma) cs := rfl
      rw [hstep, List.zipIdx_cons, List.filterMap_cons, hmove, ← hnext]
      cases hpassed : isPassed c with
      | true => simp [isElement, hpassed, isComma_of_isPassed hpassed]
      | false => cases hcomma : isComma c <;> simp [isElement, hpassed, hcomma]

theorem arrayEntries_zero (cs : List Node) : arrayEntries 0 cs = numberedElements cs :=
  arrayEntries_eq [] cs

/-- Putting a value under a key among entries that are told by their keys. -/
theorem put_filterMap (key : String) (value : Node) {keys : List String} (hnodup : keys.Nodup)
    {f : String → Option (String × Node)} (hf : ∀ k ∈ keys, ∃ v, f k = some (k, v)) :
    put key value (keys.filterMap f) =
      (if key ∈ keys then keys else keys ++ [key]).filterMap fun k =>
        if k = key then some (key, value) else f k := by
  induction keys with
  | nil => simp [put]
  | cons k keys ih =>
      obtain ⟨v, hv⟩ := hf k List.mem_cons_self
      obtain ⟨hnew, hrest⟩ := List.nodup_cons.mp hnodup
      have hothers := ih hrest fun x hx => hf x (List.mem_cons_of_mem k hx)
      rw [List.filterMap_cons_some hv, put]
      by_cases hkey : k = key
      · subst hkey
        have hsame : ∀ x ∈ keys, (if x = k then some (k, value) else f x) = f x := by
          intro x hx
          have hother : x ≠ k := by
            rintro rfl
            exact hnew hx
          rw [if_neg hother]
        simp [List.filterMap_congr hsame]
      · have hother : key ≠ k := Ne.symm hkey
        rw [if_neg (by simpa using hkey), hothers]
        by_cases hknown : key ∈ keys
        · simp [hknown, hkey, hv]
        · simp [hknown, hother, hkey, hv]

theorem find?_reverse_of_mem {pairs : List (String × Node)} {key : String}
    (hkey : key ∈ pairs.map Prod.fst) :
    ∃ value, pairs.reverse.find? (·.1 == key) = some (key, value) := by
  obtain ⟨pair, hpair, rfl⟩ := List.mem_map.mp hkey
  have hsome : (pairs.reverse.find? (·.1 == pair.1)).isSome = true :=
    List.find?_isSome.mpr ⟨pair, by simpa using hpair, by simp⟩
  obtain ⟨found, hfound⟩ := Option.isSome_iff_exists.mp hsome
  have hsame : found.1 = pair.1 := by simpa using List.find?_some hfound
  exact ⟨found.2, by rw [hfound, ← hsame]⟩

/-- One more pair takes the place of the pair under its key, or comes last. -/
theorem put_lastPairs (pairs : List (String × Node)) (pair : String × Node) :
    put pair.1 pair.2 (lastPairs pairs) = lastPairs (pairs ++ [pair]) := by
  have hlast : ∀ key ∈ (pairs.map Prod.fst).eraseDups,
      ∃ value, pairs.reverse.find? (·.1 == key) = some (key, value) := by
    intro key hkey
    exact find?_reverse_of_mem (List.mem_eraseDups.mp hkey)
  have hnodup : (pairs.map Prod.fst).eraseDups.Nodup := by
    rw [← Text.distinct_eq_eraseDups]
    exact Text.nodup_distinct _
  have hkeys : ((pairs ++ [pair]).map Prod.fst).eraseDups =
      if pair.1 ∈ (pairs.map Prod.fst).eraseDups then (pairs.map Prod.fst).eraseDups
      else (pairs.map Prod.fst).eraseDups ++ [pair.1] := by
    rw [List.map_append, List.eraseDups_append]
    by_cases hknown : pair.1 ∈ pairs.map Prod.fst
    · have hnone : List.removeAll [pair.1] (pairs.map Prod.fst) = [] := by
        simpa [List.removeAll] using hknown
      simp [hnone, hknown]
    · have hall : List.removeAll [pair.1] (pairs.map Prod.fst) = [pair.1] := by
        simpa [List.removeAll] using hknown
      simp [hall, hknown, List.eraseDups_cons]
  unfold lastPairs
  rw [put_filterMap _ _ hnodup hlast, hkeys]
  refine List.filterMap_congr fun key _ => ?_
  rw [List.reverse_append, List.reverse_singleton, List.singleton_append, List.find?_cons]
  by_cases hsame : key = pair.1
  · simp [hsame]
  · have hother : (pair.1 == key) = false := by simpa using Ne.symm hsame
    simp [hsame, hother]

theorem foldl_put_eq_lastPairs (pairs : List (String × Node)) :
    pairs.foldl (fun entries p => put p.1 p.2 entries) [] = lastPairs pairs := by
  induction pairs using List.reverseRecOn with
  | nil => rfl
  | append_singleton pairs pair ih =>
      rw [List.foldl_append, ih]
      exact put_lastPairs pairs pair

theorem pair?_eq_some_iff {src : Source} {member : Node} {pair : String × Node} :
    pair? src member = some pair ↔ IsPair src member pair := by
  unfold pair?
  constructor
  · intro hpair
    split at hpair
    · rename_i hkind
      split at hpair
      · rename_i key value hkey hvalue
        cases hpair
        exact ⟨by simpa using hkind, ⟨key, hkey, rfl⟩, hvalue⟩
      · cases hpair
    · cases hpair
  · rintro ⟨hkind, ⟨key, hkey, htext⟩, hvalue⟩
    simp [hkind, hkey, hvalue, ← htext]

/-- The entries of a table are those that it retains. -/
theorem entries?_eq_some_iff {src : Source} {table : Node} {entries : List (String × Node)} :
    entries? src table = some entries ↔ Retains src table entries := by
  have hmembers : ∀ pairs, table.properChildren.mapM (pair? src) = some pairs ↔
      List.Forall₂ (IsPair src) table.properChildren pairs := by
    intro pairs
    simp only [mapM_eq_some_iff_forall₂, pair?_eq_some_iff]
  unfold entries? objectEntries?
  constructor
  · intro hentries
    split at hentries
    · rename_i hkind
      cases hentries
      rw [arrayEntries_zero]
      exact .elements (by simpa using hkind)
    · split at hentries
      · rename_i hkind
        obtain ⟨pairs, hpairs, hfold⟩ := Option.bind_eq_some_iff.mp hentries
        cases hfold
        rw [foldl_put_eq_lastPairs]
        exact .members (by simpa using hkind) ((hmembers pairs).mp hpairs)
      · cases hentries
  · intro hretains
    cases hretains with
    | elements hkind => simp [hkind, arrayEntries_zero]
    | members hkind hpairs =>
        simp [hkind, (hmembers _).mpr hpairs, foldl_put_eq_lastPairs]

end Split

end BundleAtlas
