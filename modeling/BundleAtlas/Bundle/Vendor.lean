import BundleAtlas.Bundle.Unit
import BundleAtlas.Text.Piece

/-!
Which units come from libraries and build tools, told by their paths, and the listing of a bundle.
-/

namespace BundleAtlas

/-- Parts of paths that mark code of libraries and build tools. -/
def vendorPatterns : List String :=
  ["node_modules", "webpack/runtime", "webpack/bootstrap", "(webpack)", "vendor/",
    "bower_components", "jspm_packages", "shims/"]

/-- A separator of either style as a slash; other characters stay. -/
def slashed (c : Char) : Char := if c == '\\' then '/' else c

/-- Whether a path marks code of a library or a build tool. -/
def isVendorPath (path : String) : Bool :=
  vendorPatterns.any fun v => Text.occurs v.toList (path.toList.map slashed)

/-- A row of a listing. -/
structure UnitSummary where
  id : String
  path : String
  size : Nat
  isVendor : Bool
deriving Repr, DecidableEq, Inhabited

/-- The row of a unit; its size counts code points. -/
def Piece.summary (u : Piece) : UnitSummary := ⟨u.id, u.path, u.text.length, isVendorPath u.path⟩

/-- The rows of a bundle, with or without vendor units. -/
def listUnits (s : Snapshot) (excludeVendor : Bool) : List UnitSummary :=
  (s.units.map Piece.summary).filter fun row => !(excludeVendor && row.isVendor)

end BundleAtlas
