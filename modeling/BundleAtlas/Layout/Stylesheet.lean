import BundleAtlas.Layout.Page
import BundleAtlas.Layout.Scanner
import BundleAtlas.Text.LineBreak
import BundleAtlas.Text.SmallLetter

/-!
The layout of style sheets: a character at a time. Rules are apart from each other, a property has
a line of its own, and line breaks inside values are kept.
-/

namespace BundleAtlas.Layout

/-- What the layout of a style sheet keeps: the characters read, the last one first, those ahead,
the page, and where in the sheet it is. -/
structure Sheet where
  read : List Char := []
  ahead : List Char
  page : Page := {}
  level : Nat := 0
  nested : Nat := 0
  parentheses : Nat := 0
  /-- inside the braces of a rule -/
  inRule : Bool := false
  /-- behind the colon of a property -/
  inValue : Bool := false
  /-- in the head of a rule that groups rules by a condition -/
  inGroupHead : Bool := false
  /-- in a rule that groups nothing -/
  inPlainRule : Bool := false
  /-- in a map of names to values -/
  inMap : Bool := false
  /-- in a value whose line breaks carry meaning -/
  inGrid : Bool := false
  /-- the character, or escape, that was laid out last -/
  last : List Char := []
deriving Inhabited

/-- A step of the layout of a style sheet. -/
abbrev Styling := StateM Sheet

namespace Styling

def setPage (f : Page → Page) : Styling Unit := modify fun s => { s with page := f s.page }

def space : Styling Unit := setPage fun p => { p with spaceDue := true }

def newLine (forced : Bool) : Styling Unit := setPage fun p => (p.newLine forced).1

def indent : Styling Unit := modify fun s => { s with level := s.level + 1 }

def outdent : Styling Unit := modify fun s => { s with level := s.level - 1 }

/-- Writes a text. -/
def write (cs : List Char) : Styling Unit := do
  let level := (← get).level
  setPage fun p => (p.setIndent { steps := some level }).1.add (String.ofList cs)

/-- The next character, which stays ahead. -/
def peek : Styling (Option Char) := return (← get).ahead.head?

/-- Takes a number of characters. -/
def take (n : Nat) : Styling (List Char) := do
  let s ← get
  let cs := s.ahead.take n
  set { s with read := cs.reverse ++ s.read, ahead := s.ahead.drop n }
  return cs

/-- Whether a text stands right before the last character. -/
def behind (text : String) : Styling Bool := do
  let before := ((← get).read.drop 1).take text.length
  return before.reverse.map Text.small == text.toList

/-- As many line breaks in a row are kept. -/
def mostBreaks : Nat := 10

/-- Takes white space. -/
def skipBlanks : Styling Unit := do
  let _ ← take ((← get).ahead.takeWhile Text.isSpace).length

/-- Takes white space and keeps its line breaks. -/
def keepBreaks : Styling Unit := do
  let blanks ← take ((← get).ahead.takeWhile Text.isSpace).length
  (List.range (min (blanks.count '\n') mostBreaks)).forM fun _ => newLine true

/-- The length of what stands up to one of some characters, with it. Escaped characters do not
count. -/
def lengthThrough (ends : List Char) : List Char → Nat
  | [] => 0
  | ['\\'] => 1
  | '\\' :: _ :: cs => lengthThrough ends cs + 2
  | c :: cs => if ends.contains c || c == '\n' then 1 else lengthThrough ends cs + 1

/-- Takes what stands up to one of some characters, with it. -/
def takeThrough (ends : List Char) : Styling (List Char) := do
  take (lengthThrough ends (← get).ahead)

/-- Characters that end the name of a rule. -/
def nameEnds : List Char :=
  [':', ' ', ',', ';', '\x7b', '\x7d', '(', ')', '[', ']', '/', '=', '\'', '"']

/-- Takes the name behind a sign if a blank or a colon ends it, and gives the name with what ends
it. -/
def name : Styling (List Char) := do
  let ahead := (← get).ahead
  let body := ahead.takeWhile (!nameEnds.contains ·)
  let found := ahead.take (body.length + 1)
  match found.getLast? with
  | some c =>
    if c == ' ' || c == ':' then
      let text ← takeThrough [':', ' ']
      let text := (text.reverse.dropWhile Text.isSpace).reverse
      write text
      space
      return text
    else return found
  | none => return found

/-- Whether a block opens before the statement ends. -/
def opensBlock (depth : Nat) : List Char → Bool
  | [] => false
  | c :: cs =>
    if c == '\x7b' then true
    else if c == '(' then opensBlock (depth + 1) cs
    else if c == ')' then
      match depth with
      | 0 => false
      | n + 1 => opensBlock n cs
    else if c == ';' || c == '\x7d' then false
    else opensBlock depth cs

/-- A comment on lines of its own. -/
def blockComment : Styling Unit := do
  newLine false
  let s ← get
  let all := '/' :: s.ahead
  let (comment, rest) := Chars.through ['*', '/'] (all.drop 2)
  let comment := '/' :: '*' :: comment
  let ignores := (Chars.directiveWords comment).any fun words =>
    words.reverse.lookup "ignore" == some "start"
  let comment := if ignores then
      comment ++ (Chars.through "/* beautify ignore:end */".toList rest).1
    else comment
  let _ ← take (comment.length - 1)
  write comment
  keepBreaks
  newLine false

/-- A comment up to the end of its line. -/
def lineComment : Styling Unit := do
  space
  let rest ← take ((← get).ahead.takeWhile (!Chars.isFeed ·)).length
  write ('/' :: rest)
  keepBreaks

/-- Enters the value of a name that a colon ends. -/
def enterValue : Styling Unit := do
  modify fun s => { s with inValue := true }
  indent

/-- Leaves a value. -/
def leaveValue : Styling Unit := do
  if (← get).inValue then
    modify fun s => { s with inValue := false }
    outdent

/-- Rules that hold others. -/
def nestingRules : List String :=
  ["page", "font-face", "keyframes", "media", "supports", "document"]

/-- Rules that hold others under a condition. -/
def groupRules : List String := ["media", "supports", "document"]

/-- The name of a value, behind its sign. -/
def valueName (c : Char) : Styling Unit := do
  write [c]
  let n ← name
  if (← get).parentheses == 0 && n.contains ':' then enterValue

/-- A rule with a name, or the name of a value. -/
def namedRule (c : Char) : Styling Unit := do
  if (← peek) == some '\x7b' then write (c :: (← takeThrough ['\x7d']))
  else
    write [c]
    let n ← name
    let text := String.ofList n
    let s ← get
    if s.parentheses == 0 && n.contains ':' then enterValue
    else if nestingRules.contains text then
      set { s with nested := s.nested + 1, inGroupHead := s.inGroupHead || groupRules.contains text }
    else if s.parentheses == 0 && !s.inValue then set { s with inPlainRule := true }

/-- An opening brace. A rule stands apart from what is above it. -/
def openBrace (previous : List Char) : Styling Unit := do
  leaveValue
  modify fun s => { s with
    inPlainRule := false
    inGroupHead := false
    inRule := if s.inGroupHead then s.nested ≤ s.level else s.nested ≤ s.level + 1 }
  let s ← get
  let apart := match s.page.above with
    | l :: _ => l.last? != some "\x7b"
    | [] => false
  if s.inRule && apart then
    setPage fun p => { p with above := Page.blankAbove "/" "," p.above }
  if previous == ['('] then setPage fun p => { p with spaceDue := false }
  else
    space
    if previous != [','] then indent
  write ['\x7b']
  keepBreaks
  newLine false

/-- A closing brace. -/
def closeBrace (previous : List Char) : Styling Unit := do
  outdent
  newLine false
  if previous == ['\x7b'] then setPage (·.trim true)
  leaveValue
  write ['\x7d']
  modify fun s => { s with inRule := false, nested := s.nested - 1 }
  keepBreaks
  newLine false
  let next ← peek
  if !(← get).page.afterBlankLine && next != some '\x7d' then newLine true
  if next == some ')' then setPage (·.trim true)

/-- A colon: between a property and its value, or before a class of elements. -/
def colon : Styling Unit := do
  if (← behind "grid-template-areas") || (← behind "grid-template") then
    modify fun s => { s with inGrid := true }
  let s ← get
  let within := (← behind "&") || opensBlock 0 (s.ahead.drop 1) || (← behind "(")
  if (s.inRule || s.inGroupHead) && !within && !s.inPlainRule && s.parentheses == 0 then
    write [':']
    if !s.inValue then
      modify fun s => { s with inValue := true }
      space
      keepBreaks
      indent
  else
    if ← behind " " then space
    if (← peek) == some ':' then
      let _ ← take 1
      write [':', ':']
    else write [':']

/-- A semicolon ends a property. -/
def semicolon : Styling Unit := do
  modify fun s => { s with inGrid := false }
  if (← get).parentheses == 0 then
    leaveValue
    modify fun s => { s with inPlainRule := false }
    write [';']
    keepBreaks
    if (← peek) != some '/' then newLine false
  else
    write [';']
    keepBreaks
    space

/-- One more parenthesis is open. -/
def enterParenthesis : Styling Unit := do
  modify fun s => { s with parentheses := s.parentheses + 1 }
  indent

/-- One parenthesis less is open. -/
def leaveParenthesis : Styling Unit := do
  let s ← get
  if s.parentheses != 0 then
    set { s with parentheses := s.parentheses - 1 }
    outdent

/-- An opening parenthesis. The address in one is taken as it is. -/
def openParenthesis (blank : Bool) (previous : List Char) : Styling Unit := do
  if ← behind "url" then
    write ['(']
    skipBlanks
    enterParenthesis
    match ← peek with
    | some c =>
      if c != ')' && c != '"' && c != '\'' then
        let _ ← take 1
        write (c :: (← takeThrough [')']))
        leaveParenthesis
    | none => return
  else
    if blank || (← behind "with") then space
    write ['(']
    if (← get).inValue && previous == ['$'] then
      newLine false
      modify fun s => { s with inMap := true }
    else
      skipBlanks
      enterParenthesis

/-- A closing parenthesis. -/
def closeParenthesis : Styling Unit := do
  leaveParenthesis
  if (← get).inMap && (← peek) == some ';' then
    modify fun s => { s with inMap := false }
    outdent
    newLine false
  write [')']

/-- A comma. Selectors have a line each. -/
def comma : Styling Unit := do
  write [',']
  keepBreaks
  let s ← get
  if (!s.inValue || s.inMap) && s.parentheses == 0 && !s.inPlainRule then newLine false
  else space

/-- A character without a meaning of its own. -/
def plain (blank : Bool) (text previous : List Char) : Styling Unit := do
  if blank || previous == ['"'] || previous == ['\''] then space
  write text
  let s ← get
  if !s.page.atLineStart && s.ahead.head? == some '\n' && s.inGrid then newLine false

/-- Lays out a character behind blanks or none. -/
def place (blank : Bool) (previous : List Char) (text : List Char) : Styling Unit := do
  match text with
  | [c] =>
    let next ← peek
    let s ← get
    if c == '/' && next == some '*' then blockComment
    else if c == '/' && next == some '/' then lineComment
    else if c == '$' then
      if blank then space
      valueName c
    else if c == '@' then
      if blank then space
      namedRule c
    else if c == '#' && next == some '\x7b' then
      if blank then space
      write (c :: (← takeThrough ['\x7d']))
    else if c == '\x7b' then openBrace previous
    else if c == '\x7d' then closeBrace previous
    else if c == ':' then colon
    else if c == '"' || c == '\'' then
      if blank || previous == ['"'] || previous == ['\''] then space
      write (c :: (← takeThrough [c]))
      keepBreaks
    else if c == ';' then semicolon
    else if c == '(' then openParenthesis blank previous
    else if c == ')' then closeParenthesis
    else if c == ',' then comma
    else if (c == '>' || c == '+' || c == '~') && !s.inValue && s.parentheses == 0 then
      write [c]
      skipBlanks
    else if c == ']' then write [c]
    else if c == '[' then
      if blank then space
      write [c]
    else if c == '=' then
      skipBlanks
      write [c]
    else if c == '!' && !(← behind "\\") then
      space
      write [c]
    else plain blank text previous
  | _ => plain blank text previous

/-- Lays out what is ahead. The number bounds the steps. -/
def steps : Nat → Styling Unit
  | 0 => return
  | n + 1 => do
    let blanks ← take ((← get).ahead.takeWhile Text.isSpace).length
    let previous := (← get).last
    let c ← take 1
    if c.isEmpty then return
    let more ← if c == ['\\'] then take 1 else pure []
    let text := c ++ more
    modify fun s => { s with last := text }
    place (!blanks.isEmpty) previous text
    steps n

end Styling

/-- The first line break of a style sheet. -/
def firstFeed? : List Char → Option String
  | '\r' :: '\n' :: _ => some "\r\n"
  | c :: cs => if c == '\n' || c == '\r' then some (String.ofList [c]) else firstFeed? cs
  | [] => none

/-- Lays out a style sheet. -/
def stylesheet (width : Nat) (source : String) : String :=
  let cs := Text.unifyBreaks source.toList
  let m : Margin := ⟨width, baseBlanks cs⟩
  let page := ((Styling.steps (cs.length + 1)).run { ahead := cs }).2.page
  withBreaks ((firstFeed? source.toList).getD "\n") (page.text m false)

end BundleAtlas.Layout
