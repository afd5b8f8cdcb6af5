import BundleAtlas.Grammar.Letter

/-!
Lexemes: the classes of tokens that the grammar asks for, and how far each one reaches. A scan
answers with the number of code points that the token takes, or with nothing.
-/

namespace BundleAtlas

open Letter

namespace Scan

/-- The length of the longest run of characters with a property. -/
def run (p : Char → Bool) : List Char → Nat
  | [] => 0
  | c :: cs => if p c then run p cs + 1 else 0

/-- What is left after a literal text, if the input starts with it. -/
def literal : List Char → List Char → Option (List Char)
  | [], cs => some cs
  | _ :: _, [] => none
  | t :: ts, c :: cs => if t == c then literal ts cs else none

/-- The length of a `\u` escape, as it may stand in a word. -/
def unicodeEscape : List Char → Option Nat
  | '\\' :: 'u' :: '\x7b' :: cs =>
    let n := run isHex cs
    if n > 0 && (cs.drop n).head? == some '\x7d' then some (n + 4) else none
  | '\\' :: 'u' :: a :: b :: c :: d :: _ =>
    if isHex a && isHex b && isHex c && isHex d then some 6 else none
  | _ => none

/-- The length of the part of a word that stands here. -/
def wordTail (cs : List Char) : Nat :=
  match cs with
  | [] => 0
  | c :: rest =>
    if isWordPart c then wordTail rest + 1
    else match unicodeEscape (c :: rest) with
      | some (n + 1) => wordTail (rest.drop n) + (n + 1)
      | _ => 0
termination_by cs.length
decreasing_by all_goals (simp only [List.length_cons, List.length_drop]; omega)

/-- The length of a word; a word does not start with a digit. -/
def word (cs : List Char) : Nat :=
  match cs with
  | c :: _ => if c.isDigit then 0 else wordTail cs
  | [] => 0

/-- Further digits of a number, each one after at most one underscore. -/
def digitsTail (p : Char → Bool) : List Char → Nat
  | '_' :: c :: cs => if p c then digitsTail p cs + 2 else 0
  | c :: cs => if p c then digitsTail p cs + 1 else 0
  | [] => 0

/-- The length of a run of digits with single underscores between them. -/
def digits (p : Char → Bool) : List Char → Nat
  | c :: cs => if p c then digitsTail p cs + 1 else 0
  | [] => 0

/-- The length of an exponent, zero when there is none. -/
def exponent : List Char → Nat
  | e :: cs =>
    if e == 'e' || e == 'E' then
      let sign := match cs with
        | c :: _ => if c == '+' || c == '-' then 1 else 0
        | [] => 0
      let n := digits Char.isDigit (cs.drop sign)
      if n > 0 then n + sign + 1 else 0
    else 0
  | [] => 0

/-- The length of what follows the whole part of a decimal: a fraction or an exponent. -/
def fraction : List Char → Nat
  | '.' :: cs =>
    let n := digits Char.isDigit cs
    1 + n + exponent (cs.drop n)
  | cs => exponent cs

/-- The length of the whole part of a decimal: a zero, or digits with at most one leading zero. -/
def wholePart : List Char → Nat
  | '0' :: c :: cs => if '1' ≤ c && c ≤ '9' then digitsTail Char.isDigit cs + 2 else 1
  | c :: cs => if c.isDigit then digitsTail Char.isDigit cs + 1 else 0
  | [] => 0

/-- The length of digits after a base mark, with the mark of a big integer. -/
def based (p : Char → Bool) (cs : List Char) : Nat :=
  let n := digits p cs
  if n == 0 then 0 else if (cs.drop n).head? == some 'n' then n + 3 else n + 2

/-- The length of a decimal number, zero when there is none. -/
def decimal (cs : List Char) : Nat :=
  let n := digits Char.isDigit cs
  let plain := if n > 0 && (cs.drop n).head? == some 'n' then n + 1 else n
  let w := wholePart cs
  let f := if w > 0 then fraction (cs.drop w) else 0
  let pointed := if f > 0 then w + f else 0
  let bare := match cs with
    | '.' :: rest =>
      let k := digits Char.isDigit rest
      if k > 0 then 1 + k + exponent (rest.drop k) else 0
    | _ => 0
  max plain (max pointed bare)

/-- The length of a number literal, zero when there is none. -/
def number (cs : List Char) : Nat :=
  let marked := match cs with
    | '0' :: x :: rest =>
      if x == 'x' || x == 'X' then based isHex rest
      else if x == 'b' || x == 'B' then based (fun c => c == '0' || c == '1') rest
      else if x == 'o' || x == 'O' then based isOctal rest
      else 0
    | _ => 0
  max marked (decimal cs)

/-- The length of an escape in a string or template, with its backslash. -/
def escape : List Char → Option Nat
  | '\\' :: 'x' :: a :: b :: _ => if isHex a && isHex b then some 4 else none
  | '\\' :: 'u' :: cs => unicodeEscape ('\\' :: 'u' :: cs)
  | '\\' :: 'x' :: _ => none
  | '\\' :: c :: cs =>
    if isOctal c then some (1 + min 3 (run isOctal (c :: cs)))
    else match cs with
      | d :: _ => if (c == '\r' || c == '?') && isBreak d then some 3 else some 2
      | [] => some 2
  | _ => none

/-- The length of the rest of a string, with its closing quote. -/
def stringRest (quote : Char) (cs : List Char) : Option Nat :=
  match cs with
  | [] => none
  | c :: rest =>
    if c == quote then some 1
    else if c == '\n' || c == '\r' then none
    else if c == '\\' then
      match escape (c :: rest) with
      | some (n + 1) => (stringRest quote (rest.drop n)).map (· + (n + 1))
      | _ => none
    else (stringRest quote rest).map (· + 1)
termination_by cs.length
decreasing_by all_goals (simp only [List.length_cons, List.length_drop]; omega)

/-- The length of a quoted string. -/
def string : List Char → Option Nat
  | '"' :: cs => (stringRest '"' cs).map (· + 1)
  | '\'' :: cs => (stringRest '\'' cs).map (· + 1)
  | _ => none

/-- The length of the rest of a regular expression with its closing slash. -/
def regexRest (inClass : Bool) : List Char → Option Nat
  | '\\' :: c :: cs => if c == '\n' then none else (regexRest inClass cs).map (· + 2)
  | c :: cs =>
    if c == '\n' || c == '\\' then none
    else if inClass then (regexRest (c != ']') cs).map (· + 1)
    else if c == '/' then some 1
    else (regexRest (c == '[') cs).map (· + 1)
  | [] => none

/-- The length of a regular expression with its flags; an empty pattern is none. -/
def regex : List Char → Option Nat
  | '/' :: c :: cs =>
    if c == '/' || c == '*' then none
    else (regexRest false (c :: cs)).map fun n =>
      1 + n + run (fun f => 'a' ≤ f && f ≤ 'z') ((c :: cs).drop n)
  | _ => none

/-- The length of template text up to a backquote, a backslash or a substitution. -/
def templateText : List Char → Nat
  | '$' :: '\x7b' :: _ => 0
  | c :: cs => if c == '`' || c == '\\' then 0 else templateText cs + 1
  | [] => 0

/-- The length of a comment up to the end of its line. -/
def lineComment (cs : List Char) : Nat :=
  run (fun c => c != '\n' && c != '\r' && c != '\u2028' && c != '\u2029') cs

/-- The length of the rest of a block comment with its end. -/
def blockRest : List Char → Option Nat
  | '*' :: '/' :: _ => some 2
  | _ :: cs => (blockRest cs).map (· + 1)
  | [] => none

/-- The length of a comment. -/
def comment : List Char → Option Nat
  | '/' :: '/' :: cs => some (lineComment cs + 2)
  | '/' :: '*' :: cs => (blockRest cs).map (· + 2)
  | _ => none

/-- The length of a comment in the style of markup, which runs to the end of its line. -/
def markupComment (cs : List Char) : Option Nat :=
  match literal "<!--".toList cs, literal "-->".toList cs with
  | some rest, _ => some (4 + run (!isBreak ·) rest)
  | _, some rest => some (3 + run (!isBreak ·) rest)
  | _, _ => none

/-- Characters that end a run of text between elements. -/
def endsElementText (c : Char) : Bool :=
  c == '<' || c == '>' || c == '\x7b' || c == '\x7d' || c == '&'

/-- The length of a run of text between elements, and whether it holds more than line breaks and
the blanks that follow them. -/
def elementTextRun (atBreak sawText : Bool) : List Char → Nat × Bool
  | [] => (0, sawText)
  | c :: cs =>
    if endsElementText c then (0, sawText)
    else if c == '\n' then
      let (n, saw) := elementTextRun true sawText cs
      (n + 1, saw)
    else
      let atBreak := atBreak && isStatementBlank c
      let (n, saw) := elementTextRun atBreak (sawText || !atBreak) cs
      (n + 1, saw)

/-- The length of text between elements. -/
def elementText (cs : List Char) : Option Nat :=
  match elementTextRun false false cs with
  | (n, true) => some n
  | _ => none

/-- Letters of a name with dashes. -/
def isDashedPart (c : Char) : Bool := c.isAlphanum || c == '_' || c == '$' || c == '-'

/-- The length of a name in an element, which may hold dashes. -/
def elementName (cs : List Char) : Nat :=
  let dashed := match cs with
    | c :: _ => if c.isAlpha || c == '_' || c == '$' then run isDashedPart cs else 0
    | [] => 0
  max dashed (word cs)

/-- The length of a quoted attribute value, which may span lines and has no escapes. -/
def attributeText : List Char → Option Nat
  | q :: cs =>
    if q == '"' || q == '\'' then
      let n := run (· != q) cs
      if n < cs.length then some (n + 2) else none
    else none
  | [] => none

/-- The length of a character reference. -/
def reference : List Char → Option Nat
  | '&' :: cs =>
    let n := match cs with
      | '#' :: x :: rest =>
        if x == 'x' || x == 'X' then
          let k := run isHex rest
          if 1 ≤ k && k ≤ 6 then k + 2 else 0
        else
          let k := run Char.isDigit (x :: rest)
          if 1 ≤ k && k ≤ 5 then k + 1 else 0
      | _ =>
        let k := run Char.isAlpha cs
        if 1 ≤ k && k ≤ 30 then k else 0
    if n > 0 && (cs.drop n).head? == some ';' then some (n + 2) else none
  | _ => none

end Scan

/-- The classes of tokens that the grammar asks for. -/
inductive Lexeme where
  /-- exactly this word -/
  | word (text : List Char)
  /-- this text with none of the given characters after it -/
  | mark (text : List Char) (barred : List Char)
  /-- any word but these -/
  | name (barred : List (List Char))
  /-- a word behind a number sign -/
  | privateName
  | number
  | string
  | regex
  /-- the question mark of a conditional expression -/
  | question
  /-- the question mark and point of an optional access -/
  | chain
  | templateText
  | escape
  /-- the first line of a script that names its interpreter -/
  | interpreterLine
  | markupComment
  | elementText
  | elementName
  | attributeText
  | reference
  /-- the end of the input -/
  | finish
deriving Repr, Inhabited

namespace Lexeme

/-- A length that is not zero. -/
def positive (n : Nat) : Option Nat := if n == 0 then none else some n

/-- How many code points the token takes here, if it stands here. -/
def scan : Lexeme → List Char → Option Nat
  | word t, cs => if cs.take (Scan.word cs) == t then some t.length else none
  | mark t barred, cs =>
    match Scan.literal t cs with
    | some [] => some t.length
    | some (c :: _) => if barred.contains c then none else some t.length
    | none => none
  | name barred, cs =>
    match positive (Scan.word cs) with
    | some n => if barred.contains (cs.take n) then none else some n
    | none => none
  | privateName, '#' :: cs => (positive (Scan.word cs)).map (· + 1)
  | privateName, _ => none
  | number, cs => positive (Scan.number cs)
  | string, cs => Scan.string cs
  | regex, cs => Scan.regex cs
  | question, '?' :: '?' :: _ => none
  | question, '?' :: '.' :: c :: _ => if c.isDigit then some 1 else none
  | question, '?' :: '.' :: [] => none
  | question, '?' :: _ => some 1
  | question, _ => none
  | chain, '?' :: '.' :: c :: _ => if c.isDigit then none else some 2
  | chain, '?' :: '.' :: [] => some 2
  | chain, _ => none
  | templateText, cs => positive (Scan.templateText cs)
  | escape, cs => Scan.escape cs
  | interpreterLine, '#' :: '!' :: cs => some (Scan.run (· != '\n') cs + 2)
  | interpreterLine, _ => none
  | markupComment, cs => Scan.markupComment cs
  | elementText, cs => Scan.elementText cs
  | elementName, cs => positive (Scan.elementName cs)
  | attributeText, cs => Scan.attributeText cs
  | reference, cs => Scan.reference cs
  | finish, cs => if cs.isEmpty then some 0 else none

end Lexeme

end BundleAtlas
