/-!
Character classes of the grammar: what separates tokens, what ends a line, and what words are
made of. A word may hold any character that is no blank, no ASCII punctuation and no control.
-/

namespace BundleAtlas.Letter

/-- Line feed and the two Unicode line separators. -/
def isBreak (c : Char) : Bool := c == '\n' || c == '\u2028' || c == '\u2029'

/-- The space separators of Unicode outside ASCII. -/
def isSpaceSeparator (c : Char) : Bool :=
  c == '\u00a0' || c == '\u1680' || ('\u2000' ≤ c && c ≤ '\u200a') || c == '\u202f' ||
    c == '\u205f' || c == '\u3000'

/-- Tab, line feed, vertical tab, form feed, carriage return and space. -/
def isPlainBlank (c : Char) : Bool := ('\t' ≤ c && c ≤ '\r') || c == ' '

/-- What may stand between two tokens. -/
def isBlank (c : Char) : Bool :=
  isPlainBlank c || c == '\u0085' || isSpaceSeparator c || isBreak c || c == '\ufeff' ||
    c == '\u2060' || c == '\u200b'

/-- The blanks that the search for the end of a statement steps over; it stops at the
non-breaking ones. -/
def isStatementBlank (c : Char) : Bool :=
  isPlainBlank c || isBreak c || c == '\u1680' || ('\u2000' ≤ c && c ≤ '\u2006') ||
    ('\u2008' ≤ c && c ≤ '\u200a') || c == '\u205f' || c == '\u3000'

/-- ASCII punctuation that ends a word. -/
def isPunctuation (c : Char) : Bool :=
  ":;`\"'@#.,|^&<=>+-*/\\%?!~()[]\x7b\x7d".toList.contains c

/-- Characters that continue a word. -/
def isWordPart (c : Char) : Bool := ' ' < c && !isPunctuation c && !isBlank c

/-- Characters that start a word. -/
def isWordStart (c : Char) : Bool := isWordPart c && !c.isDigit

/-- Hexadecimal digits. -/
def isHex (c : Char) : Bool := c.isDigit || ('a' ≤ c && c ≤ 'f') || ('A' ≤ c && c ≤ 'F')

/-- Octal digits. -/
def isOctal (c : Char) : Bool := '0' ≤ c && c ≤ '7'

end BundleAtlas.Letter
