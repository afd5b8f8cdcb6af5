import BundleAtlas.Text.Identifier

/-!
Tokens of code, as the layout sees them: words, punctuation, strings and comments, each with the
line breaks and blanks that stand before it.
-/

namespace BundleAtlas.Layout

/-- The kinds of tokens. -/
inductive TokenKind where
  | start
  | startExpr
  | endExpr
  | startBlock
  | endBlock
  | word
  | reserved
  | semicolon
  | string
  | equals
  | operator
  | comma
  | blockComment
  | comment
  | dot
  | unknown
  | eof
deriving Repr, DecidableEq, Inhabited

/-- What a comment tells the layout: to leave a stretch of code as it is. -/
inductive Directive where
  | preserveStart
  | preserveEnd
  | other
deriving Repr, DecidableEq, Inhabited

/-- The kind and the text of a token. -/
structure Mark where
  kind : TokenKind
  text : String
deriving Repr, DecidableEq, Inhabited

/-- A comment before a token. -/
structure Note where
  kind : TokenKind
  text : String
  newlines : Nat
  blanks : String
  directive : Option Directive := none
deriving Repr, Inhabited

/-- A token: its text, the line breaks and the blanks before it, and the comments before it. -/
structure Token where
  kind : TokenKind
  text : String
  newlines : Nat := 0
  blanks : String := ""
  notes : List Note := []
deriving Repr, Inhabited

/-- Words that start a line. -/
def lineStarters : List String :=
  ["continue", "try", "throw", "return", "var", "let", "const", "if", "switch", "case", "default",
    "for", "while", "break", "function", "import", "export"]

/-- Words with a meaning of their own. -/
def reservedWords : List String :=
  lineStarters ++ ["do", "in", "of", "else", "get", "set", "new", "catch", "finally", "typeof",
    "yield", "async", "await", "from", "as", "class", "extends"]

/-- Operators that a line break may stand beside. -/
def positionable : List String :=
  [">>>", "===", "!==", "&&=", "??=", "||=", "<<", "&&", ">=", "**", "!=", "==", "<=", ">>", "||",
    "??", "|>", "<", "/", "-", "+", ">", ":", "&", "%", "?", "^", "|", "*"]

/-- All operators, longer ones first. -/
def operators : List String :=
  [">>>=", "...", ">>=", "<<=", "===", ">>>", "!==", "**=", "&&=", "??=", "||=", "=>", "^=", "::",
    "/=", "<<", "<=", "==", "&&", "-=", ">=", ">>", "!=", "--", "+=", "**", "||", "??", "++", "%=",
    "&=", "*=", "|=", "|>", "=", "!", "?", ">", "<", ":", "/", "^", "-", "+", "*", "&", "%", "~",
    "|"]

end BundleAtlas.Layout
