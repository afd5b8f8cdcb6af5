import BundleAtlas.Files.Folder

/-!
What opening a file and writing at its end do to a folder tree. Only two things
are asked of a tree here: whether there is a file at a place, and what it holds.
Making folders changes neither. Opening a file makes sure that it is there, and
writing at its end adds to what it holds; no other file is touched.
-/

namespace BundleAtlas.FolderTree

variable {t opened : FolderTree} {place other : List String} {path : Path}

/-- What the file at a place holds; nothing if there is no file. -/
def content (t : FolderTree) (place : List String) : List UInt8 := (t.held? place).getD []

theorem held?_eq_lookup (t : FolderTree) (place : List String) :
    t.held? place = (t.entries.lookup place).bind Inode.bytes? := by
  unfold held? look?
  cases t.entries.lookup place with
  | some i => rfl
  | none =>
      dsimp only
      split
      · rfl
      · rfl

private theorem lookup_filter_ne (hne : other ≠ place) (entries : List (List String × Inode)) :
    (entries.filter (·.1 != place)).lookup other = entries.lookup other := by
  induction entries with
  | nil => rfl
  | cons entry entries ih =>
      obtain ⟨key, i⟩ := entry
      by_cases hkey : key = place
      · have hother : (other == place) = false := beq_eq_false_iff_ne.mpr hne
        simp [List.lookup_cons, hkey, hother, ih]
      · simp [List.lookup_cons, hkey, ih]

/-- Only what is at the place itself changes. -/
theorem held?_put (t : FolderTree) (place other : List String) (i : Inode) :
    (t.put place i).held? other = if other = place then i.bytes? else t.held? other := by
  rw [held?_eq_lookup, held?_eq_lookup, put]
  split
  · rename_i heq
    simp [heq]
  · rename_i hne
    rw [List.lookup_cons, beq_eq_false_iff_ne.mpr hne, lookup_filter_ne hne]

theorem held?_makeFolders (t : FolderTree) (place : List String) (names : List String)
    (other : List String) : (t.makeFolders place names).2.held? other = t.held? other := by
  fun_induction makeFolders t place names with
  | case1 | case2 | case3 => rfl
  | case4 t place n ns next _ _ ih => exact ih
  | case5 t place n ns next _ hnone ih =>
      rw [ih, held?_put]
      split
      · rename_i heq
        rw [heq, held?, hnone]
        rfl
      · rfl

theorem working_makeFolders (t : FolderTree) (place : List String) (names : List String) :
    (t.makeFolders place names).2.working = t.working := by
  fun_induction makeFolders t place names with
  | case1 | case2 | case3 => rfl
  | case4 t place n ns next _ _ ih => exact ih
  | case5 t place n ns next _ _ ih => exact ih

/-- A file that was opened is there with what it held before. -/
theorem held?_of_openAt (h : t.openAt place = (.ok (), opened)) :
    opened.held? other = if other = place then some (t.content other) else t.held? other := by
  unfold openAt at h
  split at h
  · cases h
  · rename_i bytes hfile
    split at h
    all_goals cases h
    split
    · rename_i heq
      have hheld : t.held? other = some bytes := by rw [heq, held?, hfile]; rfl
      rw [content, hheld, Option.getD_some]
    · rfl
  · rename_i hnone
    cases h
    rw [held?_put]
    split
    · rename_i heq
      have hheld : t.held? other = none := by rw [heq, held?, hnone]; rfl
      rw [content, hheld]
      rfl
    · rfl

theorem working_of_openAt (h : t.openAt place = (.ok (), opened)) :
    opened.working = t.working := by
  unfold openAt at h
  split at h
  · cases h
  · split at h
    all_goals cases h
    rfl
  · cases h
    rfl

/-- What opening the file at a path does: the file is there from now on, and
nothing else has changed. -/
theorem of_openFile (h : t.openFile path = (.ok (), opened)) :
    opened.working = t.working ∧ ∀ other, opened.content other = t.content other ∧
      ((opened.held? other).isSome ↔ (t.held? other).isSome ∨ other = path.place t.working) := by
  have hworking := working_makeFolders t (path.origin t.working) path.parent.names
  have hmade := held?_makeFolders t (path.origin t.working) path.parent.names
  unfold openFile at h
  dsimp only at h
  split at h
  · cases h
  · rename_i made heq
    rw [heq] at hworking hmade
    split at h
    · cases h
    refine ⟨(working_of_openAt h).trans hworking, fun other => ?_⟩
    have hheld : opened.held? other =
        if other = path.place t.working then some (t.content other) else t.held? other := by
      rw [held?_of_openAt h, content, content, hmade]
    rw [content, hheld]
    split
    · rename_i hplace
      simp [hplace]
    · rename_i hplace
      simp [content, hplace]

theorem working_append (t : FolderTree) (place : List String) (bytes : List UInt8) :
    (t.append place bytes).working = t.working := by
  unfold append
  split
  · rfl
  · rfl

/-- What writing at the end of a file does. -/
theorem of_append (hfile : (t.held? place).isSome) (bytes : List UInt8) (other : List String) :
    (t.append place bytes).content other =
      t.content other ++ (if other = place then bytes else []) ∧
    ((t.append place bytes).held? other).isSome = (t.held? other).isSome := by
  obtain ⟨held, hheld⟩ := Option.isSome_iff_exists.mp hfile
  unfold append
  rw [hheld]
  dsimp only
  rw [content, content, held?_put]
  split
  · rename_i hplace
    rw [hplace, hheld]
    exact ⟨rfl, rfl⟩
  · simp

end BundleAtlas.FolderTree
