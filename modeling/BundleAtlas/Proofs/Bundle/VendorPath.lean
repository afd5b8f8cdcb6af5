import Mathlib.Data.List.Forall2
import BundleAtlas.Bundle.Vendor
import BundleAtlas.Proofs.Text.Occurrence

/-!
Paths of libraries and build tools. A path is one of them if a mark occurs in it
once all separators are slashes. So the style of the separators does not count,
and neither does what stands around such a path: a folder in front of it never
hides where its unit comes from.
-/

namespace BundleAtlas

/-- Separators of paths, in either style. -/
def isSeparator (c : Char) : Bool := c == '/' || c == '\\'

/-- A path in which every backslash is a slash. -/
def withSlashes (path : String) : String := String.ofList (path.toList.map slashed)

/-- Characters that are the same or are both separators. -/
def SameCharacter (c d : Char) : Prop := c = d ∨ (isSeparator c = true ∧ isSeparator d = true)

/-- Paths that differ in the style of some of their separators and in nothing
else. -/
def Restyled (p q : String) : Prop := List.Forall₂ SameCharacter p.toList q.toList

theorem slashed_of_isSeparator {c : Char} (hc : isSeparator c = true) : slashed c = '/' := by
  rw [isSeparator, Bool.or_eq_true, beq_iff_eq, beq_iff_eq] at hc
  rcases hc with rfl | rfl
  · rfl
  · rfl

theorem SameCharacter.slashed_eq {c d : Char} (hchar : SameCharacter c d) :
    slashed c = slashed d := by
  rcases hchar with rfl | ⟨hleft, hright⟩
  · rfl
  · rw [slashed_of_isSeparator hleft, slashed_of_isSeparator hright]

theorem withSlashes_append (p q : String) :
    withSlashes (p ++ q) = withSlashes p ++ withSlashes q := by
  rw [withSlashes, String.toList_append, List.map_append, String.ofList_append]
  rfl

theorem Restyled.withSlashes_eq {p q : String} (hstyle : Restyled p q) :
    withSlashes p = withSlashes q := by
  have hsame : ∀ cs ds : List Char, List.Forall₂ SameCharacter cs ds →
      cs.map slashed = ds.map slashed := by
    intro cs ds hchars
    induction hchars with
    | nil => rfl
    | cons hchar _ ih => rw [List.map_cons, List.map_cons, ih, hchar.slashed_eq]
  rw [withSlashes, hsame _ _ hstyle]
  rfl

theorem isVendorPath_iff (path : String) :
    isVendorPath path = true ↔
      ∃ v ∈ vendorPatterns, ∃ a b : String, withSlashes path = a ++ v ++ b := by
  rw [isVendorPath, List.any_eq_true]
  refine exists_congr fun v => and_congr_right fun _ => ?_
  rw [← Text.occursIn_iff, Text.occursIn, withSlashes, String.toList_ofList]

theorem Restyled.isVendorPath_eq {p q : String} (hstyle : Restyled p q) :
    isVendorPath p = isVendorPath q := by
  rw [Bool.eq_iff_iff, isVendorPath_iff, isVendorPath_iff, hstyle.withSlashes_eq]

/-- What stands around a marked path does not take the mark away. -/
theorem isVendorPath_append {path : String} (hvendor : isVendorPath path = true)
    (a b : String) : isVendorPath (a ++ path ++ b) = true := by
  rw [isVendorPath_iff] at hvendor ⊢
  obtain ⟨v, hv, before, behind, hpath⟩ := hvendor
  refine ⟨v, hv, withSlashes a ++ before, behind ++ withSlashes b, ?_⟩
  rw [withSlashes_append, withSlashes_append, hpath]
  simp only [String.append_assoc]

/-- A unit behind another folder: its path has something in front, in any style
of separators. -/
structure Moved (u v : Piece) : Prop where
  id : v.id = u.id
  text : v.text = u.text
  path : ∃ folder : String, Restyled (folder ++ u.path) v.path

theorem Moved.isVendorPath {u v : Piece} (hmoved : Moved u v)
    (hvendor : isVendorPath u.path = true) : BundleAtlas.isVendorPath v.path = true := by
  obtain ⟨folder, hstyle⟩ := hmoved.path
  have hbehind := isVendorPath_append hvendor folder ""
  rw [String.append_empty, hstyle.isVendorPath_eq] at hbehind
  exact hbehind

/-- What a listing says of a unit and of the same unit behind another folder: a
unit of a library stays one. -/
structure KeepsVendor (row moved : UnitSummary) : Prop where
  id : moved.id = row.id
  size : moved.size = row.size
  isVendor : row.isVendor = true → moved.isVendor = true

theorem Moved.keepsVendor {u v : Piece} (hmoved : Moved u v) :
    KeepsVendor u.summary v.summary where
  id := hmoved.id
  size := congrArg String.length hmoved.text
  isVendor := hmoved.isVendorPath

/-- Units that are listed as application code were listed so before they were
moved. The induction is on the rows of both listings. -/
theorem sublist_ids_of_keepsVendor {rows moved : List UnitSummary}
    (hrows : List.Forall₂ KeepsVendor rows moved) :
    ((moved.filter fun row => !row.isVendor).map (·.id)).Sublist
      ((rows.filter fun row => !row.isVendor).map (·.id)) := by
  induction hrows with
  | nil => exact .slnil
  | @cons row other _ _ hrow _ ih =>
      cases hother : other.isVendor with
      | true =>
          rw [List.filter_cons_of_neg (by simp [hother])]
          exact ih.trans ((List.sublist_cons_self _ _).filter _ |>.map _)
      | false =>
          have hbefore : row.isVendor = false := by
            rw [← Bool.not_eq_true]
            intro hvendor
            rw [hrow.isVendor hvendor] at hother
            cases hother
          rw [List.filter_cons_of_pos (by simp [hother]),
            List.filter_cons_of_pos (by simp [hbefore]), List.map_cons, List.map_cons, hrow.id]
          exact ih.cons_cons _

theorem listUnits_false (s : Snapshot) : listUnits s false = s.units.map Piece.summary := by
  simp [listUnits]

theorem listUnits_true (s : Snapshot) :
    listUnits s true = (s.units.map Piece.summary).filter fun row => !row.isVendor := by
  simp [listUnits]

/-- A path is one of a library or a build tool if a mark occurs in it with
slashes for all separators. The style of the separators does not change the
answer, and nothing around such a path does. So units behind other folders are
listed as before, those of libraries as such, and no unit comes up among the
rest that was not among them before. -/
theorem vendor_path_keeps_mark (path : String) :
    (isVendorPath path = true ↔
      ∃ v ∈ vendorPatterns, ∃ a b : String, withSlashes path = a ++ v ++ b) ∧
    (∀ restyled, Restyled path restyled → isVendorPath restyled = isVendorPath path) ∧
    (isVendorPath path = true → ∀ a b : String, isVendorPath (a ++ path ++ b) = true) ∧
    ∀ s moved : Snapshot, List.Forall₂ Moved s.units moved.units →
      List.Forall₂ KeepsVendor (listUnits s false) (listUnits moved false) ∧
      ((listUnits moved true).map (·.id)).Sublist ((listUnits s true).map (·.id)) := by
  refine ⟨isVendorPath_iff path, fun restyled hstyle => hstyle.isVendorPath_eq.symm,
    isVendorPath_append, ?_⟩
  intro s moved hmoved
  have hrows : List.Forall₂ KeepsVendor (s.units.map Piece.summary)
      (moved.units.map Piece.summary) := by
    rw [List.forall₂_map_left_iff, List.forall₂_map_right_iff]
    exact hmoved.imp fun _ _ => Moved.keepsVendor
  rw [listUnits_false, listUnits_false, listUnits_true, listUnits_true]
  exact ⟨hrows, sublist_ids_of_keepsVendor hrows⟩

end BundleAtlas
