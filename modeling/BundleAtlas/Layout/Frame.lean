import BundleAtlas.Layout.Page
import BundleAtlas.Layout.Token

/-!
Frames: what the layout knows about the construct that it is in. Frames stand on a stack; a
frame remembers the last token that was laid out while it was on top.
-/

namespace BundleAtlas.Layout

/-- The kinds of constructs. -/
inductive Mode where
  | block
  | statement
  | object
  | array
  | loopHead
  | condition
  | expression
deriving Repr, DecidableEq, Inhabited

/-- Whether a construct is an expression in parentheses. -/
def Mode.isExpression : Mode → Bool
  | expression | loopHead | condition => true
  | _ => false

/-- A frame. -/
structure Frame where
  mode : Mode
  lastToken : Token := { kind := .startBlock, text := "" }
  lastWord : String := ""
  declares : Bool := false
  assigns : Bool := false
  multiline : Bool := false
  inIf : Bool := false
  inElse : Bool := false
  inDo : Bool := false
  inDoWhile : Bool := false
  inImport : Bool := false
  inSwitch : Bool := false
  inCase : Bool := false
  caseBody : Bool := false
  caseBlock : Bool := false
  level : Nat := 0
  columns : Nat := 0
  lineLevel : Nat := 0
  startLine : Nat := 0
  questions : Nat := 0
deriving Repr, Inhabited

/-- What the layout of code keeps: the frame on top and those below, the frame that was left last
or is below, the text of the token before the last one in its frame, the token before the current
one in the text, the page, and the tokens ahead. -/
structure Desk where
  frame : Frame := { mode := .block }
  below : List Frame := []
  former : Frame := { mode := .block }
  beforeLast : String := ""
  previous : Mark := ⟨.start, ""⟩
  page : Page := {}
  ahead : List Token := []
deriving Inhabited

/-- A step of the layout. -/
abbrev Work := StateM Desk

namespace Work

def frame : Work Frame := return (← get).frame

def page : Work Page := return (← get).page

def setFrame (f : Frame → Frame) : Work Unit := modify fun d => { d with frame := f d.frame }

def setPage (f : Page → Page) : Work Unit := modify fun d => { d with page := f d.page }

/-- The last token that was laid out in the frame on top. -/
def last : Work Token := return (← get).frame.lastToken

/-- The mode of the frame below. -/
def parentMode : Work Mode := do
  match (← get).below with
  | f :: _ => return f.mode
  | [] => return .block

/-- The next token, which may be the end. -/
def next : Work Token := do
  match (← get).ahead with
  | t :: _ => return t
  | [] => return { kind := .eof, text := "" }

/-- Makes a space due before the next piece of text, or none. -/
def space (due : Bool) : Work Unit := setPage fun p => { p with spaceDue := due }

/-- Brings the indentation of the page in line with the frame. -/
def align : Work Bool := do
  let f ← frame
  let (p, took) := (← page).setIndent { steps := some f.level, columns := f.columns }
  setPage fun _ => p
  return took

/-- Whether a token is one of some reserved words. -/
def isReserved (t : Token) (words : List String) : Bool :=
  t.kind == .reserved && words.contains t.text

/-- Puts a frame of a mode on top. -/
def enter (mode : Mode) : Work Unit := do
  let d ← get
  let base := d.frame
  let level := if !d.page.atLineStart && base.level < base.lineLevel then base.lineLevel
    else base.level
  set { d with
    below := base :: d.below
    former := base
    frame := { mode, lastToken := base.lastToken, lastWord := base.lastWord, level,
               startLine := d.page.height } }
  let _ ← align

/-- Takes back the indentation of lines that only one construct has caused. -/
def outdentFrame (f : Frame) : Work Unit :=
  if f.multiline || f.mode == .loopHead || f.mode == .condition then return
  else setPage (·.outdentFrom f.startLine)

/-- Takes the frame on top away. -/
def leave : Work Unit := do
  let d ← get
  match d.below with
  | [] => let _ ← align
  | f :: fs =>
    let top := d.frame
    set { d with frame := f, below := fs, former := top }
    if top.mode == .statement then outdentFrame top
    let _ ← align

/-- Takes frames of statements away as long as told so. -/
def leaveWhile (going : Frame → Bool) : Nat → Work Unit
  | 0 => return
  | n + 1 => do
    let f ← frame
    if f.mode == .statement && going f then
      leave
      leaveWhile going n
    else return

/-- Takes all frames of statements away. -/
def leaveStatements : Work Unit := do leaveWhile (fun _ => true) ((← get).below.length + 1)

/-- Takes frames of statements away that no word ahead belongs to. -/
def leaveFinished (next : Token) : Work Unit := do
  leaveWhile (fun f => !(f.inIf && isReserved next ["else"]) && !f.inDo)
    ((← get).below.length + 1)

/-- Starts a line. Unless told otherwise, statements end there. -/
def newLine (forced keep : Bool) : Work Unit := do
  if !keep then
    let t ← last
    if t.text != ";" && t.text != "," && t.text != "=" &&
        (t.kind != .operator || t.text == "--" || t.text == "++") then
      leaveFinished (← next)
  let (p, added) := (← page).newLine forced
  setPage fun _ => p
  if added then setFrame fun f => { f with multiline := true }

/-- Indents the current line if nothing stands on it. -/
def indentLine : Work Unit := do
  if (← page).atLineStart then
    if ← align then setFrame fun f => { f with lineLevel := f.level }

/-- Writes a piece of text, or a token with its blanks on a raw page. -/
def write (text : String) (newlines : Nat) (blanks : String) : Work Unit := do
  if (← page).raw then setPage (·.addRaw newlines blanks text)
  else
    indentLine
    setPage (·.add text)

/-- Writes a token. -/
def print (t : Token) : Work Unit := write t.text t.newlines t.blanks

/-- One step of indentation more. -/
def indent : Work Unit := do
  setFrame fun f => { f with level := f.level + 1 }
  let _ ← align

/-- One step of indentation less, but not less than the frame below has. -/
def outdent : Work Unit := do
  let d ← get
  let base := match d.below with
    | f :: _ => f.level
    | [] => 0
  if 0 < d.frame.level && base < d.frame.level then
    setFrame fun f => { f with level := f.level - 1 }
  let _ ← align

/-- Keeps a line break before a token, or forces one. A line is never left empty. -/
def keepBreak (t : Token) (forced : Bool) : Work Unit := do
  if !(← page).atLineStart && (0 < t.newlines || forced) then newLine false true

end Work

end BundleAtlas.Layout
