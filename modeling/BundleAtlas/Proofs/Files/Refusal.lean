import BundleAtlas.Files.Folder

/-!
Where a path leads, and what the system refuses on the way. Names are looked up
one after the other, each in the folder that the names before it lead to. The
first one that the system does not look up ends the way, and so does a file
that it does not open.
-/

namespace BundleAtlas

namespace FolderTree

variable {t : FolderTree} {place last : List String} {names : List String} {p : Path}
  {e : SystemError}

/-- Names lead from a place to another one: each is looked up in a folder, and
nothing keeps it from being looked up. -/
inductive Leads (t : FolderTree) : List String → List String → List String → Prop
  | here (place : List String) : Leads t place [] place
  | enter {place last ns : List String} {n : String} (hfolder : t.look? place = some .folder)
      (hfree : t.barrier? place n = none) (hrest : Leads t (Path.enter place n) ns last) :
      Leads t place (n :: ns) last

/-- Some of the names lead to a folder in which the next one is not looked up. -/
def Bars (t : FolderTree) (place names : List String) (e : SystemError) : Prop :=
  ∃ before n after folder, names = before ++ n :: after ∧ t.Leads place before folder ∧
    t.look? folder = some .folder ∧ t.barrier? folder n = some e

/-- What the system says instead of letting the file at a path be read: the path
is too long, a name on the way is not looked up for a reason other than that
nothing is there, or the file is not opened. -/
inductive Refuses (t : FolderTree) (p : Path) : SystemError → Prop
  | path (hchars : '\x00' ∉ p.text.toList) (hlong : longestPath < p.text.utf8ByteSize) :
      Refuses t p .nameTooLong
  | name {e : SystemError} (hchars : '\x00' ∉ p.text.toList)
      (hshort : p.text.utf8ByteSize ≤ longestPath) (hbars : t.Bars (p.origin t.working) p.names e)
      (hpresent : e.isAbsence = false) : Refuses t p e
  | file {place : List String} {bytes : List UInt8} {e : SystemError}
      (hchars : '\x00' ∉ p.text.toList) (hshort : p.text.utf8ByteSize ≤ longestPath)
      (hleads : t.Leads (p.origin t.working) p.names place)
      (hfile : t.look? place = some (.file bytes)) (hclosed : t.refusals.lookup place = some e) :
      Refuses t p e

end FolderTree

end BundleAtlas
