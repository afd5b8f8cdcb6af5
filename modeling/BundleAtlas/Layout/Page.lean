/-!
Pages: the lines of a laid-out text. A line has an indentation that can still change after it is
written, and the pieces of text that stand on it.
-/

namespace BundleAtlas.Layout

/-- How far a line is indented: in steps and further columns, or not at all. -/
structure Indent where
  /-- nothing for a line whose blanks are its own -/
  steps : Option Nat := none
  columns : Nat := 0
deriving Repr, DecidableEq, Inhabited

/-- A line: its indentation and its pieces, the last one first. -/
structure Line where
  indent : Indent := {}
  pieces : List String := []
deriving Repr, Inhabited

namespace Line

def isEmpty (l : Line) : Bool := l.pieces.isEmpty

/-- The last piece of a line. -/
def last? (l : Line) : Option String := l.pieces.head?

/-- The first piece of a line. -/
def first? (l : Line) : Option String := l.pieces.getLast?

/-- Sets the indentation of a line that is still empty. -/
def setIndent (i : Indent) (l : Line) : Line := if l.isEmpty then { l with indent := i } else l

def push (s : String) (l : Line) : Line := { l with pieces := s :: l.pieces }

/-- Drops spaces at the end. -/
def trim (l : Line) : Line := { l with pieces := l.pieces.dropWhile (· == " ") }

/-- Takes back one step of indentation. -/
def outdent (l : Line) : Line :=
  { l with indent := { l.indent with steps := l.indent.steps.map (· - 1) } }

end Line

/-- How indentation is written: the width of a step, and what stands before every line. -/
structure Margin where
  width : Nat
  base : String
deriving Repr, Inhabited

namespace Margin

/-- The blanks before a line. -/
def text (m : Margin) (i : Indent) : String :=
  match i.steps with
  | some n => m.base ++ String.ofList (List.replicate (n * m.width + i.columns) ' ')
  | none => String.ofList (List.replicate i.columns ' ')

/-- A whole line; an empty one has no indentation. -/
def line (m : Margin) (l : Line) : String :=
  if l.isEmpty then "" else m.text l.indent ++ String.join l.pieces.reverse

end Margin

/-- A page: the lines above, the nearest one first, the line that is being written, the indentation
of the next one, and whether a space is due. A raw page takes text as it is. -/
structure Page where
  above : List Line := []
  current : Line := {}
  upcoming : Indent := {}
  spaceDue : Bool := false
  raw : Bool := false
deriving Repr, Inhabited

namespace Page

/-- The number of lines. -/
def height (p : Page) : Nat := p.above.length + 1

/-- Starts a line. -/
def addLine (p : Page) : Page :=
  { p with above := p.current :: p.above, current := { indent := p.upcoming } }

def isEmpty (p : Page) : Bool := p.above.isEmpty && p.current.isEmpty

/-- Whether nothing stands on the current line. -/
def atLineStart (p : Page) : Bool := p.current.isEmpty

/-- Whether the current line and the one above are empty. -/
def afterBlankLine (p : Page) : Bool :=
  p.isEmpty || (p.current.isEmpty && p.above.head?.all Line.isEmpty)

/-- Starts a line unless the page, or the current line and nothing is forced, is empty. Tells
whether it did. -/
def newLine (forced : Bool) (p : Page) : Page × Bool :=
  if p.isEmpty || (!forced && p.atLineStart) then (p, false)
  else if p.raw then (p, true)
  else (p.addLine, true)

/-- Sets the indentation of the current line and the next one; the first line has none. Tells
whether the current line took it. -/
def setIndent (i : Indent) (p : Page) : Page × Bool :=
  if p.above.isEmpty then
    ({ p with upcoming := i, current := p.current.setIndent { steps := some 0 } }, false)
  else ({ p with upcoming := i, current := p.current.setIndent i }, true)

/-- Writes a piece of text, behind a space if one is due. -/
def add (s : String) (p : Page) : Page :=
  let current := if p.spaceDue && !p.atLineStart then p.current.push " " else p.current
  { p with current := current.push s, spaceDue := false }

/-- Writes text with the blanks that stood before it. -/
def addRaw (lines : Nat) (blanks s : String) (p : Page) : Page :=
  let p := (List.range lines).foldl (fun p _ => p.addLine) p
  { p with current := ((p.current.setIndent {}).push blanks).push s, spaceDue := false }

/-- Takes back one step of indentation from the lines behind the first `n`. -/
def outdentFrom (n : Nat) (p : Page) : Page :=
  let count := p.height - n
  if count == 0 then p
  else { p with current := p.current.outdent, above :=
    (p.above.take (count - 1)).map Line.outdent ++ p.above.drop (count - 1) }

/-- Drops empty lines above an empty current line. -/
def dropEmpty (current : Line) : List Line → Line × List Line
  | [] => (current, [])
  | l :: ls => if current.isEmpty then dropEmpty l.trim ls else (current, l :: ls)

/-- Drops spaces at the end and, if told so, empty lines. -/
def trim (lines : Bool) (p : Page) : Page :=
  let current := p.current.trim
  if lines then
    let (current, above) := dropEmpty current p.above
    { p with current, above }
  else { p with current }

/-- Puts an empty line above the lines at the end that start or end in the given way. -/
def blankAbove (start stop : String) : List Line → List Line
  | [] => []
  | l :: ls =>
    if l.isEmpty then l :: ls
    else if !(l.first?.any fun s => start.isPrefixOf s) && l.last? != some stop then
      {} :: l :: ls
    else l :: blankAbove start stop ls

/-- Drops line feeds at the end of a text. -/
def dropFeeds (s : String) : String :=
  String.ofList (s.toList.reverse.dropWhile (· == '\n')).reverse

/-- The text of a page. The line feed at the end is written if told so. -/
def text (m : Margin) (ending : Bool) (p : Page) : String :=
  let p := p.trim true
  let current := { p.current with pieces := match p.current.pieces with
    | s :: rest => dropFeeds s :: rest
    | [] => [] }
  let lines := (current :: p.above).reverse.map m.line
  "\n".intercalate (if ending then lines ++ [""] else lines)

end Page

/-- The blanks that a text starts with. They stay before every line. -/
def baseBlanks (cs : List Char) : String :=
  String.ofList (cs.takeWhile fun c => c == '\t' || c == ' ')

/-- A text with its line feeds written in another way. -/
def withBreaks (feed text : String) : String :=
  if feed == "\n" then text
  else String.join (text.toList.map fun c => if c == '\n' then feed else String.ofList [c])

end BundleAtlas.Layout
