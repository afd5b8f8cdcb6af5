/-!
Line breaks of texts from different systems.
-/

namespace BundleAtlas.Text

/-- Line breaks of any kind as line feeds: a carriage return, alone or before a line feed, is one
break. -/
def unifyBreaks : List Char → List Char
  | '\r' :: '\n' :: cs => '\n' :: unifyBreaks cs
  | c :: cs => (if c == '\r' then '\n' else c) :: unifyBreaks cs
  | [] => []

end BundleAtlas.Text
