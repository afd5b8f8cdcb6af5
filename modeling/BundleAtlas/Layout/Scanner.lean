import BundleAtlas.Layout.Token
import BundleAtlas.Text.Blank
import BundleAtlas.Text.Piece

/-!
Cutting code into tokens for the layout. The scanner knows no grammar: a slash starts a regular
expression where the token before it allows one.
-/

namespace BundleAtlas.Layout

namespace Chars

/-- Blanks inside a line. -/
def isBlank (c : Char) : Bool :=
  c == '\t' || c == ' ' || c == '\u00a0' || c == '\u1680' || c == '\u180e' ||
    ('\u2000' ≤ c && c ≤ '\u200a') || c == '\u202f' || c == '\u205f' || c == '\u3000' ||
    c == '\ufeff'

/-- Characters that end a line. -/
def isFeed (c : Char) : Bool := c == '\n' || c == '\r' || c == '\u2028' || c == '\u2029'

/-- Line breaks and the blanks behind the last of them, at the start of a text. -/
def blanks : (newlines : Nat) → (after : List Char) → List Char → Nat × String × List Char
  | n, after, '\r' :: '\n' :: cs =>
    let _ := after
    blanks (n + 1) [] cs
  | n, after, c :: cs =>
    if isFeed c then blanks (n + 1) [] cs
    else if isBlank c then blanks n (c :: after) cs
    else (n, String.ofList after.reverse, c :: cs)
  | n, after, [] => (n, String.ofList after.reverse, [])

/-- A text with every line break as a line feed. -/
def unify : List Char → List Char
  | '\r' :: '\n' :: cs => '\n' :: unify cs
  | c :: cs => (if isFeed c then '\n' else c) :: unify cs
  | [] => []

/-- The first line break of a text. -/
def firstBreak? : List Char → Option String
  | '\r' :: '\n' :: _ => some "\r\n"
  | c :: cs => if isFeed c then some (String.ofList [c]) else firstBreak? cs
  | [] => none

/-- Characters that a name can start with. -/
def isNameStart (c : Char) : Bool :=
  c == '#' || c == '$' || c == '@' || c == '_' || c.isAlpha ||
    (127 < c.val && Text.identifierStarts.contains c)

/-- Characters that a name can go on with. -/
def isNamePart (c : Char) : Bool :=
  c == '$' || c == '_' || c.isAlphanum || c == '\u200c' || c == '\u200d' ||
    (127 < c.val && Text.identifierParts.contains c)

def isHex (c : Char) : Bool := c.isDigit || ('a' ≤ c && c ≤ 'f') || ('A' ≤ c && c ≤ 'F')

/-- The length of a written code point at the start of a text, zero if there is none. -/
def codePoint : List Char → Nat
  | '\\' :: 'u' :: '\x7b' :: cs =>
    let n := (cs.takeWhile isHex).length
    if 0 < n && (cs.drop n).head? == some '\x7d' then n + 4 else 0
  | '\\' :: 'u' :: a :: b :: c :: d :: _ => if [a, b, c, d].all isHex then 6 else 0
  | _ => 0

/-- The length of the rest of a name. The number bounds the steps. -/
def nameRest : Nat → List Char → Nat
  | 0, _ => 0
  | _, [] => 0
  | steps + 1, c :: cs =>
    if isNamePart c then nameRest steps cs + 1
    else match codePoint (c :: cs) with
      | 0 => 0
      | n => n + nameRest steps ((c :: cs).drop n)

/-- The length of a name at the start of a text, zero if there is none. -/
def name : List Char → Nat
  | [] => 0
  | c :: cs =>
    if isNameStart c then nameRest cs.length cs + 1
    else match codePoint (c :: cs) with
      | 0 => 0
      | n => n + nameRest cs.length ((c :: cs).drop n)

/-- The length of digits of a kind with underscores, and of the mark of a large number. -/
def marked (p : Char → Bool) (cs : List Char) : Nat :=
  let n := (cs.takeWhile fun c => p c || c == '_').length
  if (cs.drop n).head? == some 'n' then n + 1 else n

def isDigitPart (c : Char) : Bool := c.isDigit || c == '_'

/-- The length of an exponent at the start of a text. -/
def exponent : List Char → Nat
  | e :: cs =>
    if e == 'e' || e == 'E' then
      let sign := if cs.head? == some '+' || cs.head? == some '-' then 1 else 0
      let n := ((cs.drop sign).takeWhile isDigitPart).length
      if n == 0 then 0 else 1 + sign + n
    else 0
  | [] => 0

/-- The length of a decimal number at the start of a text. -/
def decimal (cs : List Char) : Nat :=
  match cs with
  | '.' :: d :: rest =>
    if d.isDigit then
      let n := 2 + (rest.takeWhile isDigitPart).length
      n + exponent (cs.drop n)
    else 0
  | d :: rest =>
    if d.isDigit then
      let whole := 1 + (rest.takeWhile isDigitPart).length
      if (cs.drop whole).head? == some 'n' then whole + 1
      else
        let point := if (cs.drop whole).head? == some '.' then 1 else 0
        let n := whole + point + ((cs.drop (whole + point)).takeWhile isDigitPart).length
        n + exponent (cs.drop n)
    else 0
  | [] => 0

/-- The length of a number at the start of a text, zero if there is none. -/
def number : List Char → Nat
  | '0' :: x :: cs =>
    if x == 'x' || x == 'X' then 2 + marked isHex cs
    else if x == 'o' || x == 'O' then 2 + marked (fun c => '0' ≤ c && c ≤ '7') cs
    else if x == 'b' || x == 'B' then 2 + marked (fun c => c == '0' || c == '1') cs
    else decimal ('0' :: x :: cs)
  | cs => decimal cs

/-- Where a scan inside quotes stands: in plain quotes, in a template, or in a substitution of
one. -/
inductive Quoting where
  | plain (quote : Char)
  | template
  | substitution
deriving Repr, DecidableEq, Inhabited

/-- The character that ends a scan. -/
def Quoting.delimiter : Quoting → Char
  | plain q => q
  | template => '`'
  | substitution => '\x7d'

/-- Reads up to the delimiter, which is not taken; templates and their substitutions nest. The
outer ones stand on a stack. Gives what was read, the last character first, and the rest. -/
def quoted : (outer : List Quoting) → Quoting → List Char → List Char → List Char × List Char
  | _, _, found, [] => (found, [])
  | _, .plain _, found, ['\\'] => ('\\' :: found, [])
  | outer, q, found, '\\' :: '\r' :: '\n' :: cs => quoted outer q ('\n' :: '\r' :: '\\' :: found) cs
  | outer, q, found, '\\' :: c :: cs => quoted outer q (c :: '\\' :: found) cs
  | outer, .template, found, '$' :: '\x7b' :: cs =>
    quoted (.template :: outer) .substitution ('\x7b' :: '$' :: found) cs
  | outer, q, found, c :: cs =>
    if c == q.delimiter then
      match outer with
      | [] => (found, c :: cs)
      | o :: os => quoted os o (c :: found) cs
    else match q with
      | .plain _ => if isFeed c then (found, c :: cs) else quoted outer q (c :: found) cs
      | .substitution =>
        if c == '`' then quoted (.substitution :: outer) .template (c :: found) cs
        else quoted outer q (c :: found) cs
      | .template => quoted outer q (c :: found) cs

/-- A string at the start of a text, with its quotes as far as they are there, and the rest. -/
def string (quote : Char) (cs : List Char) : List Char × List Char :=
  let q := if quote == '`' then .template else .plain quote
  let (found, rest) := quoted [] q [quote] cs
  match rest with
  | c :: cs => if c == quote then (found.reverse ++ [c], cs) else (found.reverse, rest)
  | [] => (found.reverse, [])

/-- Reads a regular expression up to its closing slash or the end of the line, which are not
taken. -/
def regexBody (escaped inClass : Bool) (found : List Char) : List Char → List Char × List Char
  | [] => (found, [])
  | c :: cs =>
    if isFeed c then (found, c :: cs)
    else if !escaped && !inClass && c == '/' then (found, c :: cs)
    else if escaped then regexBody false inClass (c :: found) cs
    else if c == '\\' then regexBody true inClass (c :: found) cs
    else if c == '[' then regexBody false true (c :: found) cs
    else if c == ']' then regexBody false false (c :: found) cs
    else regexBody false inClass (c :: found) cs

/-- A regular expression with its flags, and the rest. -/
def regex (cs : List Char) : List Char × List Char :=
  let (found, rest) := regexBody false false ['/'] cs
  match rest with
  | '/' :: rest =>
    let n := name rest
    (found.reverse ++ '/' :: rest.take n, rest.drop n)
  | _ => (found.reverse, rest)

/-- What stands up to and with a piece of text, or everything, and the rest. -/
def through (piece cs : List Char) : List Char × List Char :=
  match Text.cut? piece cs with
  | some (a, b) => (a ++ piece, b)
  | none => (cs, [])

/-- What stands up to the end of the line with its break, and the rest. -/
def throughLine (cs : List Char) : List Char × List Char :=
  let line := cs.takeWhile (!isFeed ·)
  match cs.drop line.length with
  | '\r' :: '\n' :: rest => (line ++ ['\r', '\n'], rest)
  | c :: rest => (line ++ [c], rest)
  | [] => (line, [])

/-- The words of a directive, a name and a value each. -/
def directiveWords (cs : List Char) : Option (List (String × String)) :=
  let isPart (c : Char) : Bool := c.isAlphanum || c == '_'
  let inner := "/* beautify ".toList.isPrefixOf cs && " */".toList.isSuffixOf cs
  if !inner then none
  else
    let body := (cs.drop 12).take (cs.length - 15)
    (Text.split [' '] body).mapM fun w => match Text.split [':'] w with
      | [a, b] =>
        if !a.isEmpty && !b.isEmpty && a.all isPart && b.all isPart then
          some (String.ofList a, String.ofList b)
        else none
      | _ => none

/-- A block comment with the directive that it holds, and the rest. -/
def blockComment (cs : List Char) : String × Option Directive × List Char :=
  let (body, rest) := through ['*', '/'] (cs.drop 2)
  let comment := '/' :: '*' :: body
  match directiveWords comment with
  | none => (String.ofList (unify comment), none, rest)
  | some words =>
    let value := fun name => (words.reverse.lookup name)
    let (comment, rest) := if value "ignore" == some "start" then
        let (more, rest) := through "/* beautify ignore:end */".toList rest
        (comment ++ more, rest)
      else (comment, rest)
    let directive := match value "preserve" with
      | some "start" => .preserveStart
      | some "end" => .preserveEnd
      | _ => Directive.other
    (String.ofList (unify comment), some directive, rest)

/-- The operator at the start of a text. -/
def operator? (cs : List Char) : Option String :=
  let chain := match cs with
    | '?' :: '.' :: c :: _ => !c.isDigit
    | ['?', '.'] => true
    | _ => false
  if chain then some "?." else operators.find? fun o => o.toList.isPrefixOf cs

end Chars

/-- What a scanner knows: the token before, what stood before each open bracket, what stood before
the bracket that the last token closes, and whether a comment in the style of markup is open. -/
structure Scanner where
  previous : Mark := ⟨.start, ""⟩
  brackets : List (String × Mark) := []
  opened : Option Mark := none
  markup : Bool := false
  first : Bool := true
deriving Repr, Inhabited

namespace Scanner

open Chars

/-- Whether a regular expression may stand behind the last token. Fails behind a parenthesis that
closes nothing. -/
def allowsRegex (s : Scanner) : Except String Bool :=
  let p := s.previous
  if p.kind == .reserved &&
      ["return", "case", "throw", "else", "do", "typeof", "yield"].contains p.text then .ok true
  else if p.kind == .endExpr && p.text == ")" then
    match s.opened with
    | none => .error "'NoneType' object has no attribute 'previous'"
    | some m => .ok (m.kind == .reserved && ["if", "while", "for"].contains m.text)
  else .ok ([.comment, .startExpr, .startBlock, .start, .endBlock, .operator, .equals, .eof,
    .semicolon, .comma].contains p.kind)

/-- A word, told apart by what stands before it. -/
def word (s : Scanner) (text : String) : Mark :=
  let plain := s.previous.kind == .dot ||
    (s.previous.kind == .reserved && (s.previous.text == "set" || s.previous.text == "get"))
  if !plain && reservedWords.contains text then
    if (text == "in" || text == "of") &&
        (s.previous.kind == .word || s.previous.kind == .string) then ⟨.operator, text⟩
    else ⟨.reserved, text⟩
  else ⟨.word, text⟩

/-- The kind of a character that is a token of its own. -/
def single? (c : Char) (next : Option Char) : Option TokenKind :=
  match c with
  | '(' | '[' => some .startExpr
  | ')' | ']' => some .endExpr
  | '\x7b' => some .startBlock
  | '\x7d' => some .endBlock
  | ';' => some .semicolon
  | ',' => some .comma
  | '.' => if next.all fun d => !d.isDigit && d != '.' then some .dot else none
  | _ => none

/-- What a scan gives: the token, its directive, whether a comment in the style of markup is open
then, and the rest of the text. -/
structure Scanned where
  mark : Mark
  directive : Option Directive := none
  markup : Bool
  rest : List Char
deriving Inhabited

/-- Reads the number of an old kind of variable. -/
def sharp (found : List Char) : List Char → List Char × List Char
  | [] => (found.reverse, [])
  | '=' :: '[' :: ']' :: cs => (found.reverse ++ ['=', '[', ']'], cs)
  | '=' :: '\x7b' :: '\x7d' :: cs => (found.reverse ++ ['=', '\x7b', '\x7d'], cs)
  | c :: cs =>
    if c == '#' || c == '=' then (found.reverse ++ [c], cs) else sharp (c :: found) cs

/-- Text at the start of a document that is no code. -/
def foreign? (s : Scanner) (cs : List Char) : Option Scanned :=
  match cs with
  | '#' :: rest =>
    if s.first && rest.head? == some '!' then
      let (line, rest) := throughLine cs
      some ⟨⟨.unknown, Text.strip (String.ofList line) ++ "\n"⟩, none, s.markup, rest⟩
    else if "include".toList.isPrefixOf rest then
      let (line, rest) := throughLine cs
      some ⟨⟨.unknown, Text.strip (String.ofList line) ++ "\n"⟩, none, s.markup, rest⟩
    else if rest.head?.any Char.isDigit then
      let (found, rest) := sharp ['#'] rest
      some ⟨⟨.word, String.ofList found⟩, none, s.markup, rest⟩
    else none
  | '<' :: _ =>
    if s.first && "<!--".toList.isPrefixOf cs then
      let line := cs.takeWhile (!isFeed ·)
      some ⟨⟨.comment, String.ofList line⟩, none, true, cs.drop line.length⟩
    else none
  | '-' :: _ =>
    if s.markup && "-->".toList.isPrefixOf cs then
      some ⟨⟨.comment, "-->"⟩, none, false, cs.drop 3⟩
    else none
  | _ => none

/-- The token at the start of a text that starts with no blank. -/
def scan (s : Scanner) (c : Char) (cs : List Char) : Except String Scanned :=
  let all := c :: cs
  match s.foreign? all with
  | some t => .ok t
  | none =>
    if c == '`' || c == '\'' || c == '"' then
      let (text, rest) := string c cs
      .ok ⟨⟨.string, String.ofList (unify text)⟩, none, s.markup, rest⟩
    else if c == '#' && cs.head? == some '\x7b' then
      .ok ⟨⟨.startBlock, "#\x7b"⟩, none, s.markup, cs.drop 1⟩
    else if 0 < name all then
      .ok ⟨s.word (String.ofList (all.take (name all))), none, s.markup, all.drop (name all)⟩
    else if 0 < number all then
      .ok ⟨⟨.word, String.ofList (all.take (number all))⟩, none, s.markup, all.drop (number all)⟩
    else match single? c cs.head? with
      | some kind => .ok ⟨⟨kind, String.ofList [c]⟩, none, s.markup, cs⟩
      | none =>
        if c == '/' && cs.head? == some '*' then
          let (text, directive, rest) := blockComment all
          .ok ⟨⟨.blockComment, text⟩, directive, s.markup, rest⟩
        else if c == '/' && cs.head? == some '/' then
          let line := all.takeWhile (!isFeed ·)
          .ok ⟨⟨.comment, String.ofList line⟩, none, s.markup, all.drop line.length⟩
        else do
          if c == '/' && (← s.allowsRegex) then
            let (text, rest) := regex cs
            return ⟨⟨.string, String.ofList text⟩, none, s.markup, rest⟩
          else match operator? all with
            | some "=" => return ⟨⟨.equals, "="⟩, none, s.markup, cs⟩
            | some "?." => return ⟨⟨.dot, "?."⟩, none, s.markup, cs.drop 1⟩
            | some o => return ⟨⟨.operator, o⟩, none, s.markup, all.drop o.length⟩
            | none => return ⟨⟨.unknown, String.ofList [c]⟩, none, s.markup, cs⟩

/-- Whether tokens of a kind are notes to the token behind them. -/
def isNote (k : TokenKind) : Bool := k == .comment || k == .blockComment || k == .unknown

/-- The bracket that a bracket closes. -/
def partner : String → String
  | ")" => "("
  | "]" => "["
  | _ => "\x7b"

/-- The scanner behind a token. -/
def advance (s : Scanner) (m : Mark) (markup : Bool) : Scanner :=
  let s' : Scanner := { s with previous := m, opened := none, markup, first := false }
  match m.kind with
  | .startExpr | .startBlock => { s' with brackets := (m.text, s.previous) :: s.brackets }
  | .endExpr | .endBlock =>
    match s.brackets with
    | (text, before) :: rest =>
      if text == partner m.text then { s' with brackets := rest, opened := some before } else s'
    | [] => s'
  | _ => s'

/-- The tokens of a text, the last one for its end. The number bounds the steps. -/
def tokens (s : Scanner) (notes : List Note) : Nat → List Char → Except String (List Token)
  | 0, _ => .ok []
  | steps + 1, text =>
    let (newlines, blanks, rest) := blanks 0 [] text
    match rest with
    | [] => .ok [⟨.eof, "", newlines, blanks, notes.reverse⟩]
    | c :: cs => do
      let t ← s.scan c cs
      if isNote t.mark.kind then
        tokens { s with markup := t.markup }
          (⟨t.mark.kind, t.mark.text, newlines, blanks, t.directive⟩ :: notes) steps t.rest
      else
        let token : Token :=
          ⟨t.mark.kind, t.mark.text, newlines, blanks, notes.reverse⟩
        return token :: (← tokens (s.advance t.mark t.markup) [] steps t.rest)

end Scanner

/-- The tokens of code. -/
def tokens (cs : List Char) : Except String (List Token) :=
  Scanner.tokens {} [] (cs.length + 1) cs

end BundleAtlas.Layout
