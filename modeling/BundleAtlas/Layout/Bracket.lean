import BundleAtlas.Layout.Statement

/-!
Brackets: parentheses, lists and blocks. A bracket opens a frame, and the bracket that closes it
ends the statements inside.
-/

namespace BundleAtlas.Layout

namespace Work

/-- Whether the last token is the asterisk of a generator without a name. -/
def afterGenerator : Work Bool := do
  let d ← get
  return d.frame.lastToken.text == "*" &&
    (d.beforeLast == "function" || d.beforeLast == "yield" ||
      (d.frame.mode == .object && (d.beforeLast == "\x7b" || d.beforeLast == ",")))

/-- The blanks before a parenthesis, and the mode of what it holds. -/
def leadParenthesis (t : Token) : Work Mode := do
  let f ← frame
  let l := f.lastToken
  let mode := if isReserved l ["for"] then .loopHead
    else if isReserved l ["if", "while", "switch"] then .condition
    else .expression
  match l.kind with
  | .reserved =>
    if mode != .expression || f.lastWord == "await" || f.lastWord == "async" then space true
    else if l.text == "import" && t.blanks.isEmpty then space false
    else if lineStarters.contains l.text || l.text == "catch" then space true
  | .equals | .operator => keepBreakOutsideProperty t
  | .word => space false
  | _ => keepBreak t false
  let named := l.kind == .reserved && (f.lastWord == "function" || f.lastWord == "typeof")
  if named || (← afterGenerator) then space false
  return mode

/-- The blanks before a list. -/
def leadList : Work Unit := do
  let d ← get
  let l := d.frame.lastToken
  if d.frame.mode == .array && (l.text == "[" ||
      (l.text == "," && (d.beforeLast == "]" || d.beforeLast == "\x7d"))) then
    newLine false false
  let close : List TokenKind := [.startExpr, .endExpr, .word, .operator, .dot]
  if !close.contains l.kind then space true

/-- Opens a parenthesis or a list. -/
def openExpression (t : Token) (mode : Mode) : Work Unit := do
  let l ← last
  if l.text == ";" || l.kind == .startBlock then newLine false false
  else if [.endExpr, .startExpr, .endBlock, .comma].contains l.kind || l.text == "." then
    keepBreak t false
  print t
  enter mode
  indent

/-- An opening parenthesis or bracket. -/
def startExpression (t : Token) : Work Unit := do
  if !(← beginStatement t) then lead t false
  let l ← last
  if t.text == "[" then
    if l.kind == .word || l.text == ")" then
      print t
      enter .expression
      indent
    else
      leadList
      openExpression t .array
  else
    let mode ← leadParenthesis t
    openExpression t mode

/-- A closing parenthesis or bracket. What stands behind the condition of a `do` loop is no
statement of that loop. -/
def endExpression (t : Token) : Work Unit := do
  leaveStatements
  lead t false
  let f ← frame
  if f.multiline then keepBreak t (t.text == "]" && f.mode == .array)
  outdent
  print t
  leave
  outdentFrame (← get).former
  let d ← get
  if d.frame.inDoWhile && d.former.mode == .condition then
    set { d with former := { d.former with mode := .expression } }
    setFrame fun f => { f with inDo := false, inDoWhile := false }

/-- Whether the tokens in front belong to the members of an object. -/
def opensObject (first second : Token) : Bool :=
  ((second.text == ":" || second.text == ",") &&
    (first.kind == .string || first.kind == .word || first.kind == .reserved)) ||
  (["get", "set", "..."].contains first.text &&
    (second.kind == .word || second.kind == .reserved))

/-- Enters the frame that an opening brace asks for. -/
def enterBlock (ahead : List Token) : Work Unit := do
  let d ← get
  let f := d.frame
  let l := f.lastToken
  let members := match ahead with
    | first :: second :: _ => some (opensObject first second, second)
    | _ => none
  if f.lastWord == "switch" && l.kind == .endExpr then
    enter .block
    setFrame fun f => { f with inSwitch := true }
  else if f.caseBody then enter .block
  else match members with
    | some (true, second) =>
      let typed := (d.beforeLast == "class" || d.beforeLast == "interface") &&
        second.text != ":" && second.text != ","
      enter (if typed then .block else .object)
    | _ =>
      if l.kind == .operator && l.text == "=>" then enter .block
      else if [.equals, .startExpr, .comma, .operator].contains l.kind ||
          isReserved l ["return", "throw", "import", "default"] then enter .object
      else enter .block

/-- Notes that the frame below has several lines if the frame on top has. -/
def passMultiline : Work Unit := modify fun d =>
  let lift (g : Frame) : Frame := { g with multiline := g.multiline || d.frame.multiline }
  { d with
    former := lift d.former
    below := match d.below with
      | g :: gs => lift g :: gs
      | [] => []
    frame := { d.frame with multiline := false } }

/-- An opening brace. Only braces with nothing between them stay on a line. -/
def startBlock (t : Token) : Work Unit := do
  lead t false
  let ahead := (← get).ahead
  enterBlock ahead
  let empty := match ahead with
    | n :: _ => n.notes.isEmpty && n.text == "\x7d"
    | [] => false
  let l ← last
  if (← get).former.mode == .array && l.kind == .comma then
    space true
    keepBreak t false
    passMultiline
  if l.kind != .operator && l.kind != .startExpr then
    if l.kind == .startBlock || l.kind == .semicolon then newLine false false else space true
  print t
  indent
  if !empty then newLine false false

/-- A closing brace. -/
def endBlock (t : Token) : Work Unit := do
  lead t false
  leaveStatements
  if (← last).kind != .startBlock then newLine false false
  leave
  print t

end Work

end BundleAtlas.Layout
