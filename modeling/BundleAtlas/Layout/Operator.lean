import BundleAtlas.Layout.Word

/-!
Operators. Those with two operands have spaces around them and keep a line break behind them;
signs stay with their operand.
-/

namespace BundleAtlas.Layout

namespace Work

/-- Whether an asterisk marks a generator. -/
def marksGenerator (t l : Token) : Bool :=
  t.text == "*" && (isReserved l ["function", "yield"] ||
    [.startBlock, .comma, .endBlock, .semicolon].contains l.kind)

/-- Whether a plus or minus is a sign. -/
def isSign (t l : Token) : Bool :=
  (t.text == "+" || t.text == "-") &&
    ([.startBlock, .startExpr, .equals, .operator].contains l.kind ||
      lineStarters.contains l.text || l.text == ",")

/-- The colon behind a case. What follows is indented unless it is a block. -/
def caseColon (t : Token) : Work Unit := do
  print t
  setFrame fun f => { f with inCase := false, caseBody := true }
  if (← next).kind != .startBlock then
    indent
    newLine false false
    setFrame fun f => { f with caseBlock := false }
  else
    setFrame fun f => { f with caseBlock := true }
    space true

/-- Counts the open conditional expressions, and tells whether the operator is the colon of one. -/
def countQuestions (t : Token) : Work Bool := do
  if t.text == ":" && (← frame).questions != 0 then
    setFrame fun f => { f with questions := f.questions - 1 }
    return true
  else
    if t.text == "?" then setFrame fun f => { f with questions := f.questions + 1 }
    return false

/-- An operator between two operands. A colon that belongs to no conditional expression stays
with what is before it. -/
def betweenOperands (t : Token) (answers : Bool) : Work Unit := do
  let loose := t.text != ":" || answers
  space loose
  print t
  if loose then keepBreak t false
  space true

/-- Writes an operator with a space on its sides. -/
def printSpaced (t : Token) (before after : Bool) : Work Unit := do
  if before then space true
  print t
  if after then space true

/-- Whether two operators would run into one. -/
def wouldMerge (t l : Token) : Bool :=
  ["--", "-", "++", "+"].contains t.text && ["--", "-", "++", "+"].contains l.text

/-- An operator with one operand. A line break before it is kept, because it may end the
statement before it. -/
def oneOperand (t : Token) : Work Unit := do
  let l ← last
  if l.kind == .comma || l.kind == .startExpr then keepBreak t false
  if 0 < t.newlines && ["--", "++", "~"].contains t.text then
    let needed := isReserved l closeWords
    let former := (← get).former
    if needed && (former.inIf || former.inElse) then leave
    newLine needed true
  let f ← frame
  let l := f.lastToken
  let before := match l.kind with
    | .reserved => true
    | .endExpr => !(l.text == "]" && (t.text == "--" || t.text == "++"))
    | .operator => wouldMerge t l
    | _ => l.text == ";" && f.mode.isExpression
  let after := l.kind == .operator && (t.text == "-" || t.text == "+") &&
    (l.text == "--" || l.text == "++")
  if (f.mode == .block || f.mode == .statement) && (l.text == "\x7b" || l.text == ";") then
    newLine false false
  printSpaced t before after

/-- An operator. -/
def operator (t : Token) : Work Unit := do
  let l ← last
  let generator := marksGenerator t l
  let sign := isSign t l
  if !(← beginStatement t) then lead t (!generator)
  let l ← last
  if (t.text == "*" && l.kind == .dot) || t.text == "::" then print t
  else if (t.text == "-" || t.text == "+") && (← atPropertyValue) then print t
  else
    if l.kind == .operator then keepBreak t false
    if t.text == ":" && (← frame).inCase then caseColon t
    else
      let answers ← countQuestions t
      if !sign && !generator && positionable.contains t.text then betweenOperands t answers
      else if generator then
        keepBreak t false
        let n ← next
        printSpaced t false (n.kind == .word || n.kind == .reserved)
      else if t.text == "..." then
        keepBreak t false
        printSpaced t (l.kind == .startBlock) false
      else if sign || ["--", "++", "!", "~"].contains t.text then oneOperand t
      else printSpaced t true true

end Work

end BundleAtlas.Layout
