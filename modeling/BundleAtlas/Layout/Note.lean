import BundleAtlas.Layout.Frame
import BundleAtlas.Layout.Scanner

/-!
Comments, and the blank lines that are kept before tokens. A comment is laid out together with the
token that it stands before.
-/

namespace BundleAtlas.Layout

namespace Work

/-- As many blank lines stay as a text may have at one place. -/
def mostNewlines : Nat := 10

/-- Keeps blank lines; a single line break is no blank line. -/
def keepBlankLines (newlines : Nat) (keep : Bool) : Work Unit := do
  let n := min newlines mostNewlines
  if 1 < n then
    newLine false keep
    (List.range (n - 1)).forM fun _ => newLine true keep

/-- Whether every line starts with an asterisk. -/
def isStarred (lines : List String) : Bool :=
  lines.all fun l => (Text.strip l).startsWith "*"

/-- Whether every line that is not empty starts with some blanks. -/
def isIndented (blanks : String) (lines : List String) : Bool :=
  lines.all fun l => l.isEmpty || blanks.isPrefixOf l

/-- Writes a line of a comment behind its first one. -/
def commentLine (blanks : String) (starred indented : Bool) (line : String) : Work Unit := do
  if starred then
    indentLine
    setPage (·.add (Text.strip line))
  else if indented && !line.isEmpty then
    indentLine
    setPage (·.add (String.ofList (line.toList.drop blanks.length)))
  else
    setPage fun p => { p with current := p.current.setIndent {} }
    setPage (·.add line)

/-- A block comment that is not inside a line: each of its lines has one of its own. -/
def blockLines (n : Note) (keep : Bool) : Work Unit := do
  let lines := (Text.split ['\n'] n.text.toList).map String.ofList
  newLine false keep
  write (lines.headD "") n.newlines n.blanks
  newLine false keep
  let rest := lines.drop 1
  let starred := isStarred rest
  let indented := isIndented n.blanks rest
  if !rest.isEmpty then
    if starred then setFrame fun f => { f with columns := 1 }
    rest.forM fun line => do
      commentLine n.blanks starred indented line
      newLine false keep
    setFrame fun f => { f with columns := 0 }

/-- A block comment; those with a directive can make the page raw. -/
def blockComment (n : Note) (keep : Bool) : Work Unit := do
  if (← page).raw then
    setPage (·.addRaw n.newlines n.blanks n.text)
    if n.directive == some .preserveEnd then setPage fun p => { p with raw := false }
  else if n.directive.isSome then
    newLine false keep
    write n.text n.newlines n.blanks
    if n.directive == some .preserveStart then setPage fun p => { p with raw := true }
    newLine false true
  else if n.newlines == 0 && !n.text.toList.any Chars.isFeed then
    space true
    write n.text n.newlines n.blanks
    space true
  else blockLines n keep

/-- A comment that goes up to the end of its line. -/
def lineComment (n : Note) (keep : Bool) : Work Unit := do
  if 0 < n.newlines then newLine false keep else setPage (·.trim true)
  space true
  write n.text n.newlines n.blanks
  newLine false keep

/-- Text that is no code. -/
def foreignText (n : Note) (keep : Bool) : Work Unit := do
  write n.text n.newlines n.blanks
  if n.text.endsWith "\n" then newLine false keep

/-- A comment with the blank lines before it. -/
def note (keep : Bool) (n : Note) : Work Unit := do
  keepBlankLines n.newlines keep
  match n.kind with
  | .blockComment => blockComment n keep
  | .comment => lineComment n keep
  | _ => foreignText n keep

/-- What stands before a token: its comments and blank lines. -/
def lead (t : Token) (keep : Bool) : Work Unit := do
  t.notes.forM (note keep)
  keepBlankLines t.newlines keep

end Work

end BundleAtlas.Layout
