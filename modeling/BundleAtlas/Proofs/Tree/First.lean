import BundleAtlas.Proofs.Tree.Preorder

/-!
First matches. An analysis that stops at the first site it can use is said by
the site and by the sites before it, which it could not use. Of two such
analyses, the one that can use more stops no later.
-/

namespace BundleAtlas

/-- The first of some items that has a property, and the items before it. -/
structure IsFirst {α : Type} (P : α → Prop) (xs before : List α) (x : α) : Prop where
  order : ∃ behind, xs = before ++ x :: behind
  holds : P x
  none_before : ∀ y ∈ before, ¬ P y

theorem exists_isFirst {α : Type} {P : α → Prop} {xs : List α} (hexists : ∃ x ∈ xs, P x) :
    ∃ before x, IsFirst P xs before x := by
  classical
  have hfound : (xs.find? fun x => decide (P x)).isSome = true := by
    simpa using hexists
  obtain ⟨x, hx⟩ := Option.isSome_iff_exists.mp hfound
  obtain ⟨hholds, before, behind, horder, hbefore⟩ := List.find?_eq_some_iff_append.mp hx
  refine ⟨before, x, ⟨behind, horder⟩, by simpa using hholds, ?_⟩
  intro y hy
  simpa using hbefore y hy

/-- Of two properties, the weaker one has its first item no later. If that
item has the stronger property as well, both have the same first item. -/
theorem IsFirst.compare {α : Type} {P Q : α → Prop} {xs before earlier : List α} {x y : α}
    (hfirst : IsFirst P xs before x) (hother : IsFirst Q xs earlier y) (hweaker : Q x) :
    earlier.length ≤ before.length ∧ (P y → earlier = before ∧ y = x) := by
  obtain ⟨⟨behind, horder⟩, hx, hbefore⟩ := hfirst
  obtain ⟨⟨later, hsplit⟩, hy, hearlier⟩ := hother
  have hboth : before ++ x :: behind = earlier ++ y :: later := horder.symm.trans hsplit
  rcases List.append_eq_append_iff.mp hboth with
    ⟨between, rfl, hrest⟩ | ⟨between, rfl, hrest⟩
  · cases between with
    | nil =>
        have hsame : x = y ∧ behind = later := by simpa using hrest
        exact ⟨by simp, fun _ => ⟨by simp, hsame.1.symm⟩⟩
    | cons z between =>
        have hx' : x = z := (List.cons.inj hrest).1
        have hearly : x ∈ before ++ z :: between := by simp [hx']
        exact absurd hweaker (hearlier x hearly)
  · refine ⟨by simp, ?_⟩
    intro hstrong
    cases between with
    | nil =>
        have hsame : y = x ∧ later = behind := by simpa using hrest
        exact ⟨by simp, hsame.1⟩
    | cons z between =>
        have hy' : y = z := (List.cons.inj hrest).1
        have hearly : y ∈ earlier ++ z :: between := by simp [hy']
        exact absurd hstrong (hbefore y hearly)

/-- Looking for the first result stops at the first item that has one. -/
theorem findSome?_eq_some_iff_isFirst {α β : Type} {f : α → Option β} {xs : List α} {y : β} :
    xs.findSome? f = some y ↔
      ∃ before x, IsFirst (fun x => ∃ y, f x = some y) xs before x ∧ f x = some y := by
  rw [List.findSome?_eq_some_iff]
  constructor
  · rintro ⟨before, x, behind, horder, hx, hbefore⟩
    refine ⟨before, x, ⟨⟨behind, horder⟩, ⟨y, hx⟩, ?_⟩, hx⟩
    rintro z hz ⟨w, hw⟩
    rw [hbefore z hz] at hw
    cases hw
  · rintro ⟨before, x, ⟨⟨behind, horder⟩, _, hbefore⟩, hx⟩
    refine ⟨before, x, behind, horder, hx, ?_⟩
    intro z hz
    exact Option.eq_none_iff_forall_not_mem.mpr fun w hw => hbefore z hz ⟨w, hw⟩

/-- The sites of a tree, each before those below it. -/
def Node.sites (root : Node) : List Site := root.preorder []

theorem Node.walk_eq_sites (root : Node) : root.walk = root.sites := root.walk_eq_preorder

/-- A node of a document of one line, between two columns. -/
def Node.inLine (kind : Kind) (field : Option Field) (start stop : Nat)
    (children : List Node := []) : Node :=
  ⟨kind, field, ⟨start, 0, start⟩, ⟨stop, 0, stop⟩, children⟩

/-- A pair of parentheses with nothing in them. -/
def Node.emptyParens (kind : String) (field : Field) (start : Nat) : Node :=
  inLine (.other kind) field start (start + 2)
    [inLine (.token "(") none start (start + 1), inLine (.token ")") none (start + 1) (start + 2)]

/-- A body with nothing in it. -/
def Node.emptyBody (start : Nat) : Node :=
  inLine .statementBlock (some .body) start (start + 2)
    [inLine (.token "\x7b") none start (start + 1),
      inLine (.token "\x7d") none (start + 1) (start + 2)]

end BundleAtlas
