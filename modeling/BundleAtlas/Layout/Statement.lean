import BundleAtlas.Layout.Note

/-!
Where statements start. A statement inside another one, or the value of a property, has a frame of
its own, so that its further lines are indented.
-/

namespace BundleAtlas.Layout

namespace Work

/-- Words that declare names. -/
def declarers : List String := ["var", "let", "const"]

/-- Words that no line break may stand behind. -/
def restricted : List String := ["async", "break", "continue", "return", "throw", "yield"]

/-- Words that what follows stays close to. -/
def closeWords : List String := ["case", "return", "do", "if", "throw", "else"]

/-- Whether the last token asks for the value of a property. -/
def asksValue (f : Frame) : Bool :=
  (f.lastToken.text == ":" && f.questions == 0) || isReserved f.lastToken ["get", "set"]

/-- Whether the value of a property starts. -/
def atPropertyValue : Work Bool := do
  let f ← frame
  return (← parentMode) == .object && f.mode == .statement && asksValue f

/-- Whether a token starts a statement of its own. -/
def startsStatement (t : Token) : Work Bool := do
  let d ← get
  let f := d.frame
  let l := f.lastToken
  let inProperty := (← parentMode) == .object && f.mode == .statement
  return (isReserved l declarers && t.kind == .word) ||
    isReserved l ["do"] ||
    (!inProperty && isReserved l restricted && t.newlines == 0) ||
    (isReserved l ["else"] && !(isReserved t ["if"] && t.notes.isEmpty)) ||
    (l.kind == .endExpr && (d.former.mode == .loopHead || d.former.mode == .condition)) ||
    (l.kind == .word && f.mode == .block && !f.inCase && t.text != "--" && t.text != "++" &&
      d.beforeLast != "function" && t.kind != .word && t.kind != .reserved) ||
    (f.mode == .object && asksValue f)

/-- Starts a statement with a token if one starts there, and tells whether it did. -/
def beginStatement (t : Token) : Work Bool := do
  if ← startsStatement t then
    enter .statement
    indent
    lead t true
    if !(← atPropertyValue) then keepBreak t (isReserved t ["do", "for", "if", "while"])
    return true
  else return false

/-- Keeps a line break before a token unless it is the value of a property. -/
def keepBreakOutsideProperty (t : Token) : Work Unit := do
  if !(← atPropertyValue) then keepBreak t false

end Work

end BundleAtlas.Layout
