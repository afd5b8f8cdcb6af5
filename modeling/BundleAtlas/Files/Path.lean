import BundleAtlas.Text.Piece

/-!
Paths of files: the names between slashes. Empty names and names of a single dot say nothing and
are left out; two dots stay, because what they mean hangs on the folders that are there.
-/

namespace BundleAtlas

/-- A path. The root is empty for a relative path. -/
structure Path where
  root : String := ""
  names : List String := []
deriving Repr, DecidableEq, Inhabited

namespace Path

/-- The root of a path: exactly two slashes in front are kept. -/
def rootOf : List Char → String
  | '/' :: '/' :: '/' :: _ => "/"
  | '/' :: '/' :: _ => "//"
  | '/' :: _ => "/"
  | _ => ""

/-- A path from its text. -/
def ofText (s : String) : Path :=
  let names := (Text.split ['/'] s.toList).map String.ofList
  ⟨rootOf s.toList, names.filter fun n => n != "" && n != "."⟩

/-- Whether a path starts at the root. -/
def isAbsolute (p : Path) : Bool := p.root != ""

/-- The text of a path. -/
def text (p : Path) : String :=
  if p.root == "" && p.names.isEmpty then "." else p.root ++ "/".intercalate p.names

/-- The path without its last name. -/
def parent (p : Path) : Path := { p with names := p.names.dropLast }

/-- The place that a name leads to from another one, both given by the names from the root on. -/
def enter (place : List String) (name : String) : List String :=
  if name == ".." then place.dropLast else place ++ [name]

/-- The place that a path starts from, in a working folder. -/
def origin (working : List String) (p : Path) : List String := if p.isAbsolute then [] else working

/-- The place that a path leads to, in a working folder. -/
def place (working : List String) (p : Path) : List String := p.names.foldl enter (p.origin working)

/-- A path behind another one; an absolute path stays as it is. -/
def join (base p : Path) : Path := if p.isAbsolute then p else { base with names := base.names ++ p.names }

end Path

end BundleAtlas
