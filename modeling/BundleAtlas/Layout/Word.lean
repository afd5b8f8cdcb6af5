import BundleAtlas.Layout.Bracket

/-!
Words. Most of what is known about statements hangs on words: loops, branches, cases, functions
and declarations.
-/

namespace BundleAtlas.Layout

namespace Work

/-- Reserved words are names where their meaning does not apply. -/
def settle (t : Token) : Work Token := do
  let f ← frame
  let n ← next
  let plain := (["set", "get"].contains t.text && f.mode != .object) ||
    (t.text == "import" && (n.text == "(" || n.text == ".")) ||
    (["as", "from"].contains t.text && !f.inImport) ||
    (f.mode == .object && n.text == ":")
  return if t.kind == .reserved && plain then { t with kind := .word } else t

/-- The blanks and comments before a word. A line break ends the statement before it, where one
can end. -/
def leadWord (t : Token) : Work Unit := do
  if ← beginStatement t then
    if isReserved (← last) declarers && t.kind == .word then
      setFrame fun f => { f with declares := true }
  else
    let f ← frame
    let l := f.lastToken
    let breaks := 0 < t.newlines && !f.mode.isExpression &&
      (l.kind != .operator || l.text == "--" || l.text == "++") && l.kind != .equals
    lead t false
    if breaks then newLine false false

/-- Ends a branch that no further one belongs to. -/
def settleBranch (t : Token) : Work Unit := do
  let f ← frame
  if f.inIf then
    if !f.inElse && isReserved t ["else"] then setFrame fun f => { f with inElse := true }
    else
      leaveStatements
      setFrame fun f => { f with inIf := false, inElse := false }

/-- A word that names a case. -/
def caseWord (t : Token) : Work Unit := do
  newLine false false
  let f ← frame
  if !f.caseBlock && f.caseBody then outdent
  setFrame fun f => { f with caseBody := false }
  print t
  setFrame fun f => { f with inCase := true }

/-- The blanks before a function: a blank line where it stands on its own. -/
def leadFunction (t : Token) : Work Unit := do
  let d ← get
  let l := d.frame.lastToken
  let alone := l.text == "\x7d" || l.text == ";" || (d.page.atLineStart &&
    !(["(", "[", "\x7b", ":", "=", ","].contains l.text || l.kind == .operator))
  if alone && !d.page.afterBlankLine && t.notes.isEmpty then
    newLine false false
    newLine true false
  let d ← get
  let f := d.frame
  let l := f.lastToken
  if l.kind == .reserved || l.kind == .word then
    let close := isReserved l (["get", "set", "new", "export"] ++ restricted) ||
      (isReserved l ["default"] && d.beforeLast == "export") || l.text == "declare"
    if close then space true else newLine false false
  else if l.kind == .operator || l.text == "=" then space true
  else if !(!f.multiline && (f.mode.isExpression || f.mode == .array)) then newLine false false

/-- What stands between a word and the token before it. -/
inductive Gap where
  | none
  | space
  | line
deriving Repr, DecidableEq, Inhabited

/-- The gap before a word. -/
def gap (t : Token) : Work Gap := do
  let f ← frame
  let l := f.lastToken
  if isReserved t lineStarters && l.text != ")" then
    return if l.text == "else" || l.text == "export" then .space else .line
  match l.kind with
  | .endBlock =>
    return if isReserved t ["else", "catch", "finally", "from"] then .space else .line
  | .semicolon =>
    return if f.mode == .block then .line else if f.mode.isExpression then .space else .none
  | .string | .startBlock | .endExpr => return .line
  | .reserved | .word => return .space
  | _ => return if ← afterGenerator then .space else .none

/-- Whether a space is due before a word whatever the gap is. -/
def dueSpace (t : Token) (l : Token) : Bool :=
  l.kind == .endExpr ||
    (l.kind == .endBlock && isReserved t ["else", "catch", "finally", "from"])

/-- The blanks before a word that goes on with the statement before it. -/
def leadContinuation : Work Unit := do
  let d ← get
  if !(d.frame.lastToken.kind == .endBlock && d.former.mode == .block) then newLine false false
  else
    setPage (·.trim true)
    if (← page).current.last? != some "\x7d" then newLine false false
    space true

/-- The line break before a word. -/
def breakBefore (t : Token) : Work Unit := do
  let d ← get
  let l := d.frame.lastToken
  let declaration := isReserved t declarers
  if isReserved l closeWords || (l.text == "declare" && declaration) then space true
  else if l.kind != .endExpr then
    if (l.kind != .startExpr || !declaration) && l.text != ":" then
      if isReserved t ["if"] && d.previous == ⟨.reserved, "else"⟩ then space true
      else newLine false false
  else if isReserved t lineStarters && l.text != ")" then newLine false false

/-- The blanks before a word. -/
def separateWord (t : Token) : Work Unit := do
  let g ← gap t
  let d ← get
  let f := d.frame
  let l := f.lastToken
  if dueSpace t l then space true
  if isReserved t ["else", "catch", "finally"] then leadContinuation
  else if g == .line then breakBefore t
  else if f.multiline && f.mode == .array && l.text == "," && d.beforeLast == "\x7d" then
    newLine false false
  else if g == .space then space true
  if d.previous.kind == .word || d.previous.kind == .reserved then space true

/-- Notes what a word tells about the tokens behind it. -/
def remember (t : Token) : Work Unit := do
  setFrame fun f => { f with lastWord := t.text }
  if t.kind == .reserved then
    match t.text with
    | "do" => setFrame fun f => { f with inDo := true }
    | "if" => setFrame fun f => { f with inIf := true }
    | "import" => setFrame fun f => { f with inImport := true }
    | "from" => setFrame fun f => { f with inImport := false }
    | _ => return

/-- A word behind the loops and branches before it. -/
def plainWord (t : Token) : Work Unit := do
  settleBranch t
  let f ← frame
  if f.inSwitch && isReserved t ["case", "default"] then caseWord t
  else
    let d ← get
    let l := f.lastToken
    if [.comma, .startExpr, .equals, .operator].contains l.kind then
      let signed := (l.text == "+" || l.text == "-") && d.beforeLast == ":" &&
        (← parentMode) == .object
      if !signed then keepBreakOutsideProperty t
    if isReserved t ["function"] then
      leadFunction t
      print t
      setFrame fun f => { f with lastWord := t.text }
    else
      separateWord t
      print t
      remember t

/-- A word. -/
def word (t : Token) : Work Unit := do
  leadWord t
  let f ← frame
  if f.inDo && !f.inDoWhile then
    if isReserved t ["while"] then
      space true
      print t
      space true
      setFrame fun f => { f with inDoWhile := true }
    else
      newLine false false
      setFrame fun f => { f with inDo := false }
      plainWord t
  else plainWord t

end Work

end BundleAtlas.Layout
