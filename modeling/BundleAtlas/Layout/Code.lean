import BundleAtlas.Layout.Operator

/-!
The layout of code: a token at a time, without a grammar, so that code with mistakes has a layout
too.
-/

namespace BundleAtlas.Layout

namespace Work

/-- A semicolon ends a statement. -/
def semicolon (t : Token) : Work Unit := do
  if ← beginStatement t then space false else lead t false
  leaveFinished (← next)
  setFrame fun f => { f with inImport := false }
  print t

/-- Whether a template belongs to the token right before it. -/
def isTagged (t : Token) : Work Bool := do
  let d ← get
  return t.text.startsWith "`" && t.newlines == 0 && t.blanks.isEmpty &&
    (d.previous.text == ")" || d.frame.lastToken.kind == .word)

/-- A string. -/
def string (t : Token) : Work Unit := do
  if !(← isTagged t) then
    if ← beginStatement t then space true
    else
      lead t false
      let l ← last
      let previous := (← get).previous.text
      match l.kind with
      | .reserved | .word => space true
      | .comma | .startExpr | .equals | .operator => keepBreakOutsideProperty t
      | _ =>
        if t.text.startsWith "`" && l.kind == .endExpr && (previous == "]" || previous == ")") &&
            t.newlines == 0 then space true
        else newLine false false
  print t

/-- An equals sign. -/
def equals (t : Token) : Work Unit := do
  if !(← beginStatement t) then lead t false
  setFrame fun f => { f with assigns := f.assigns || f.declares }
  space true
  print t
  space true

/-- A comma. Behind a value in a declaration, and behind a property, a line ends. -/
def comma (t : Token) : Work Unit := do
  lead t true
  print t
  space true
  let f ← frame
  let parent ← parentMode
  if f.declares then
    setFrame fun f => { f with assigns := false }
    if f.assigns && !parent.isExpression then newLine false true
  else if f.mode == .object || (f.mode == .statement && parent == .object) then
    if f.mode == .statement then leave
    newLine false false

/-- A dot. -/
def dot (t : Token) : Work Unit := do
  if !(← beginStatement t) then lead t true
  let l ← last
  if !l.text.isEmpty && l.text.all Char.isDigit then space true
  if isReserved l closeWords then space false else keepBreak t false
  print t

/-- The end of the code. -/
def finish (t : Token) : Work Unit := do
  leaveStatements
  lead t false

/-- Lays out a token. -/
def place (t : Token) : Work Unit :=
  match t.kind with
  | .startExpr => startExpression t
  | .endExpr => endExpression t
  | .startBlock => startBlock t
  | .endBlock => endBlock t
  | .word | .reserved => word t
  | .semicolon => semicolon t
  | .string => string t
  | .equals => equals t
  | .operator => operator t
  | .comma => comma t
  | .dot => dot t
  | .eof => finish t
  | .start | .blockComment | .comment | .unknown => return

/-- Lays out a token and remembers it. -/
def step (t : Token) : Work Unit := do
  let t ← settle t
  place t
  modify fun d => { d with
    beforeLast := d.frame.lastToken.text
    previous := ⟨t.kind, t.text⟩
    frame := { d.frame with lastToken := t } }

/-- Lays out tokens. -/
def steps : List Token → Work Unit
  | [] => return
  | t :: ts => do
    modify fun d => { d with ahead := ts }
    step t
    steps ts

end Work

/-- The text of laid-out tokens. -/
def layOut (m : Margin) (tokens : List Token) : String :=
  ((Work.steps tokens).run {}).2.page.text m true

/-- Lays out code. Blanks at the start and the kind of line breaks come from the given source. -/
def code (width : Nat) (source text : String) : Except String String := do
  let m : Margin := ⟨width, baseBlanks source.toList⟩
  let feed := (Chars.firstBreak? source.toList).getD "\n"
  return withBreaks feed (layOut m (← tokens text.toList))

end BundleAtlas.Layout
