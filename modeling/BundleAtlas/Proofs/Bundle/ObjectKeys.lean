import BundleAtlas.Proofs.Bundle.ArrayIndices

/-!
The keys of an object of modules. A key may be given more than once and be
spelled with or without quotes; it stands where it first occurs, with the value
that it has last. Only these values are asked to be functions, so whatever was
given under a key before does not matter.
-/

namespace BundleAtlas

theorem mapM_eq_none_iff {α β : Type} {f : α → Option β} {xs : List α} :
    xs.mapM f = none ↔ ∃ x ∈ xs, f x = none := by
  induction xs with
  | nil => simp
  | cons x xs ih =>
      rw [List.mapM_cons, List.exists_mem_cons_iff, ← ih]
      cases hx : f x with
      | none => simp
      | some y => cases hxs : xs.mapM f <;> simp

namespace Split

/-- Some entries keep the last of the pairs under each key: the keys stand once
each, in the order in which they first occur, and behind the pair that is kept
there is none under its key. -/
structure KeepsLast (pairs entries : List (String × Node)) : Prop where
  keys : entries.map Prod.fst = (pairs.map Prod.fst).eraseDups
  last : ∀ entry ∈ entries, ∃ before behind, pairs = before ++ entry :: behind ∧
    entry.1 ∉ behind.map Prod.fst

/-- How a key is written in a text: as it is, or between quotes. -/
inductive Spells (src : Source) (key : Node) (text : String) : Prop
  | bare (hkind : key.kind ≠ .string) (htext : src.text key = text)
  | quoted {quote : Char} (hkind : key.kind = .string)
      (htext : (src.text key).toList = quote :: text.toList ++ [quote])

/-- Whichever way a key is spelled, its text is the same. -/
theorem keyText_of_spells {src : Source} {key : Node} {text : String}
    (h : Spells src key text) : keyText src key = text := by
  unfold keyText
  cases h with
  | bare hkind htext =>
      rw [if_neg (by simpa using hkind)]
      exact htext
  | quoted hkind htext =>
      rw [if_pos (by simpa using hkind), Text.inner, htext, List.cons_append, List.drop_one,
        List.tail_cons, List.dropLast_concat, String.ofList_toList]

theorem map_fst_lastPairs (pairs : List (String × Node)) :
    (lastPairs pairs).map Prod.fst = (pairs.map Prod.fst).eraseDups := by
  have hfound : ∀ key ∈ (pairs.map Prod.fst).eraseDups,
      (pairs.reverse.find? (·.1 == key)).map Prod.fst = some key := by
    intro key hkey
    obtain ⟨value, hvalue⟩ := find?_reverse_of_mem (List.mem_eraseDups.mp hkey)
    rw [hvalue, Option.map_some]
  unfold lastPairs
  rw [List.map_filterMap, List.filterMap_congr hfound, List.filterMap_some]

theorem keepsLast_lastPairs (pairs : List (String × Node)) : KeepsLast pairs (lastPairs pairs) := by
  refine ⟨map_fst_lastPairs pairs, ?_⟩
  intro entry hentry
  obtain ⟨key, _, hfound⟩ := List.mem_filterMap.mp hentry
  obtain ⟨hkey, behind, before, horder, hbehind⟩ := List.find?_eq_some_iff_append.mp hfound
  refine ⟨before.reverse, behind.reverse, ?_, ?_⟩
  · rw [← List.reverse_reverse pairs, horder]
    simp
  · intro hmem
    obtain ⟨later, hlater, hsame⟩ := List.mem_map.mp hmem
    have hother := hbehind later (List.mem_reverse.mp hlater)
    rw [hsame, hkey] at hother
    cases hother

theorem KeepsLast.nodup {pairs entries : List (String × Node)} (h : KeepsLast pairs entries) :
    (entries.map Prod.fst).Nodup := by
  rw [h.keys, ← Text.distinct_eq_eraseDups]
  exact Text.nodup_distinct _

theorem KeepsLast.ne_nil {pairs entries : List (String × Node)} (h : KeepsLast pairs entries)
    (hpairs : pairs ≠ []) : entries ≠ [] := by
  rintro rfl
  obtain ⟨pair, hpair⟩ := List.exists_mem_of_ne_nil pairs hpairs
  have hkey : pair.1 ∈ (pairs.map Prod.fst).eraseDups :=
    List.mem_eraseDups.mpr (List.mem_map_of_mem hpair)
  rw [← h.keys] at hkey
  cases hkey

theorem objectEntries?_eq_none_iff {src : Source} {object : Node} :
    objectEntries? src object = none ↔
      ∃ member ∈ object.properChildren, ¬ ∃ pair, IsPair src member pair := by
  have hnone : ∀ member, pair? src member = none ↔ ¬ ∃ pair, IsPair src member pair := by
    intro member
    simp only [← pair?_eq_some_iff, ← Option.isSome_iff_exists, Bool.not_eq_true,
      Option.isSome_eq_false_iff, Option.isNone_iff_eq_none]
  simp only [← hnone, ← mapM_eq_none_iff]
  unfold objectEntries?
  cases object.properChildren.mapM (pair? src) <;> simp

theorem objectEntries?_of_pairs {src : Source} {object : Node} {pairs : List (String × Node)}
    (hpairs : List.Forall₂ (IsPair src) object.properChildren pairs) :
    objectEntries? src object = some (lastPairs pairs) := by
  have hmap : object.properChildren.mapM (pair? src) = some pairs := by
    rw [mapM_eq_some_iff_forall₂]
    simpa only [pair?_eq_some_iff] using hpairs
  unfold objectEntries?
  rw [hmap, ← foldl_put_eq_lastPairs]
  rfl

/-- The units of an object of pairs are those of the pairs that it keeps. -/
theorem units?_of_pairs {src : Source} {object : Node} {pairs : List (String × Node)}
    (hkind : object.kind = .object)
    (hpairs : List.Forall₂ (IsPair src) object.properChildren pairs) (hne : pairs ≠ []) :
    units? src object = (lastPairs pairs).mapM (unit? src) := by
  have hkept : lastPairs pairs ≠ [] := (keepsLast_lastPairs pairs).ne_nil hne
  unfold units? entries?
  simp [hkind, objectEntries?_of_pairs hpairs, hkept]

end Split

/-- An object has entries unless one of its members is no pair. They are the last
of the pairs under each key, in the order in which the keys first occur; how a
key is spelled does not count. If there is one, the object is a table of modules
if and only if these last values are functions, and then its units have the keys
as ids, each of them once. -/
theorem object_modules_keep_last_values (src : Source) (object : Node) :
    (Split.objectEntries? src object = none ↔
      ∃ member ∈ object.properChildren, ¬ ∃ pair, Split.IsPair src member pair) ∧
    (∀ key text, Split.Spells src key text → Split.keyText src key = text) ∧
    ∀ pairs, List.Forall₂ (Split.IsPair src) object.properChildren pairs →
      ∃ entries, Split.objectEntries? src object = some entries ∧
        Split.KeepsLast pairs entries ∧ (entries.map Prod.fst).Nodup ∧
        (object.kind = .object → pairs ≠ [] →
          ((∃ units, Split.units? src object = some units) ↔
            ∀ entry ∈ entries, ∃ factory, Split.IsFactory entry.2 factory) ∧
          ∀ units, Split.units? src object = some units →
            List.Forall₂ (Split.IsUnitOf src) entries units ∧ (units.map (·.id)).Nodup) := by
  refine ⟨Split.objectEntries?_eq_none_iff, fun _ _ => Split.keyText_of_spells, ?_⟩
  intro pairs hpairs
  have hlast := Split.keepsLast_lastPairs pairs
  refine ⟨Split.lastPairs pairs, Split.objectEntries?_of_pairs hpairs, hlast, hlast.nodup, ?_⟩
  intro hkind hne
  have hunits : ∀ units, Split.units? src object = some units ↔
      List.Forall₂ (Split.IsUnitOf src) (Split.lastPairs pairs) units := by
    intro units
    simp only [Split.units?_of_pairs hkind hpairs hne, mapM_eq_some_iff_forall₂,
      Split.unit?_eq_some_iff]
  refine ⟨?_, ?_⟩
  · simp only [hunits, Split.exists_units_iff]
  · intro units hfound
    refine ⟨(hunits units).mp hfound, ?_⟩
    rw [Split.units?_of_pairs hkind hpairs hne] at hfound
    rw [Split.ids_of_mapM_unit? hfound]
    exact hlast.nodup

/-!
The object of `({1: 0, b: () => b(), '1': () => a()})`.
-/

namespace RepeatedKey

open Node

def source : Source := .ofString "(\x7b1: 0, b: () => b(), '1': () => a()\x7d)"

def colon (start : Nat) : Node := inLine (.token ":") none start (start + 1)

def number : Node := inLine (.other "number") (some .value) 5 6

/-- The function that starts at a column, as the value of a pair. -/
def factory (start : Nat) : Node := { SparseModules.factory start with field := some .value }

def object : Node :=
  inLine .object none 1 37
    [inLine (.token "\x7b") none 1 2,
      inLine .pair none 2 6 [inLine (.other "number") (some .key) 2 3, colon 3, number],
      SparseModules.comma 6,
      inLine .pair none 8 20
        [inLine .propertyIdentifier (some .key) 8 9, colon 9, factory 11],
      SparseModules.comma 20,
      inLine .pair none 22 36 [inLine .string (some .key) 22 25, colon 25, factory 27],
      inLine (.token "\x7d") none 36 37]

def pairs : List (String × Node) := [("1", number), ("b", factory 11), ("1", factory 27)]

theorem isPair : List.Forall₂ (Split.IsPair source) object.properChildren pairs := by
  refine .cons ⟨rfl, ⟨_, rfl, ?_⟩, rfl⟩ (.cons ⟨rfl, ⟨_, rfl, ?_⟩, rfl⟩
    (.cons ⟨rfl, ⟨_, rfl, ?_⟩, rfl⟩ .nil)) <;> decide +kernel

theorem lastPairs_eq : Split.lastPairs pairs = [("1", factory 27), ("b", factory 11)] := rfl

theorem isFactory (start : Nat) : Split.IsFactory (factory start) (factory start) :=
  ⟨.itself (by rintro ⟨⟩), rfl⟩

end RepeatedKey

open RepeatedKey in
/-- The number is no function, but it is not the last value of its key. -/
theorem object_modules_keep_last_values_repeatedKey :
    List.Forall₂ (Split.IsPair source) object.properChildren pairs ∧
    Split.objectEntries? source object = some [("1", factory 27), ("b", factory 11)] ∧
    ∃ units, Split.units? source object = some units ∧ units.map (·.id) = ["1", "b"] := by
  obtain ⟨_, _, hpairs⟩ := object_modules_keep_last_values source object
  obtain ⟨entries, hentries, _, _, htable⟩ := hpairs pairs isPair
  have hkept : entries = [("1", factory 27), ("b", factory 11)] := by
    rw [Split.objectEntries?_of_pairs isPair, lastPairs_eq] at hentries
    exact (Option.some.inj hentries).symm
  obtain ⟨haccepted, hunits⟩ := htable rfl (by simp [pairs])
  obtain ⟨units, hfound⟩ := haccepted.mpr
    (by simpa [hkept] using ⟨⟨_, isFactory 27⟩, _, isFactory 11⟩)
  refine ⟨isPair, by rw [hentries, hkept], units, hfound, ?_⟩
  rw [Split.ids_of_forall₂ (hunits units hfound).1, hkept]
  rfl

end BundleAtlas
