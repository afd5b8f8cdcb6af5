import BundleAtlas.Grammar.Letter

/-!
Statements that end without a written semicolon: before a closing brace, at the end of the input,
or at a line break that the next token does not continue across.

A comment on the same line is looked through. After an expression it may turn out that the
statement only ends behind the comment; the reader then takes the comment into the statement and
asks again.
-/

namespace BundleAtlas.Semicolon

open Letter

/-- What the question depends on: the dialect, whether an operator could stand here, and whether
the statement is a signature that a body would complete. -/
structure Ending where
  typed : Bool := false
  afterExpression : Bool := true
  signature : Bool := false
deriving Repr, DecidableEq, Inhabited

/-- Where a scan over blanks and comments stands. -/
inductive Stage where
  | blank
  | slash
  | line
  | block
  | star
deriving Repr, DecidableEq

/-- How a scan over blanks and comments ends. -/
inductive Gap where
  /-- something else stands here -/
  | stopped (rest : List Char)
  /-- a block comment without a line break has just ended -/
  | closed (rest : List Char)
  /-- a slash that opens no comment -/
  | division
deriving Repr

/-- Steps over blanks and comments. Unless `through` is set it stops behind a block comment that
no slash follows. `broken` tells whether the block comment at hand holds a line break. -/
def gap (through : Bool) : Stage → Bool → List Char → Gap
  | _, _, [] => .stopped []
  | .blank, _, c :: cs =>
    if isStatementBlank c then gap through .blank false cs
    else if c == '/' then gap through .slash false cs
    else .stopped (c :: cs)
  | .slash, _, c :: cs =>
    if c == '/' then gap through .line false cs
    else if c == '*' then gap through .block false cs
    else .division
  | .line, _, c :: cs =>
    if isBreak c then gap through .blank false cs else gap through .line false cs
  | .block, broken, c :: cs =>
    if c == '*' then gap through .star broken cs else gap through .block (broken || isBreak c) cs
  | .star, broken, c :: cs =>
    if c == '/' then
      if through || cs.head? == some '/' then gap through .blank false cs
      else if broken then .stopped cs
      else .closed cs
    else if c == '*' then gap through .star broken cs
    else gap through .block (broken || isBreak c) cs

/-- What a scan leaves to read. -/
def Gap.rest : Gap → List Char
  | stopped r | closed r => r
  | division => []

theorem length_rest_gap_le (through : Bool) (stage : Stage) (broken : Bool) (cs : List Char) :
    (gap through stage broken cs).rest.length ≤ cs.length := by
  fun_induction gap through stage broken cs <;> simp_all [Gap.rest] <;> omega

/-- Letters, for telling `in` from a longer word. -/
def isWordLetter (c : Char) : Bool := c.isAlpha || '\u007f' < c

/-- Whether the text starts with the operator `in` or `instanceof`. -/
def startsWithRelation : List Char → Bool
  | 'i' :: 'n' :: cs =>
    let ends (r : List Char) : Bool := match r with
      | c :: _ => !isWordLetter c
      | [] => true
    ends cs || ("stanceof".toList.isPrefixOf cs && ends (cs.drop 8))
  | _ => false

/-- Whether the token behind a line break starts a statement of its own. -/
def startsAfresh (e : Ending) : List Char → Bool
  | [] => true
  | c :: cs =>
    if "`,:;*%><=?^|&/".toList.contains c then false
    else if c == '(' || c == '[' then e.typed && !e.afterExpression
    else if c == '\x7b' then !e.signature
    else if c == '.' then !e.typed && cs.head?.any Char.isDigit
    else if c == '+' then cs.head? == some '+'
    else if c == '-' then cs.head? == some '-'
    else if c == '!' then cs.head? != some '='
    else !startsWithRelation (c :: cs)

/-- Whether the text behind a line break starts a statement of its own. -/
def startsAfreshBehind (e : Ending) (cs : List Char) : Bool :=
  match gap true .blank false cs with
  | .division => false
  | .stopped r | .closed r => startsAfresh e r

/-- Whether a closing brace ends the statement: not when a type follows it in a signature. -/
def closes (e : Ending) (behind : List Char) : Bool :=
  !e.typed || e.afterExpression || (behind.dropWhile isStatementBlank).head? != some ':'

/-- Whether a statement may end right here, before the given text. -/
def implied (e : Ending) (cs : List Char) : Bool :=
  match cs with
  | [] => true
  | c :: rest =>
    if c == '/' then
      match _ : gap e.typed .slash false rest with
      | .division => false
      | .stopped [] => !e.afterExpression
      | .stopped (d :: r) =>
        if !e.afterExpression && d != ',' && d != '=' then true
        else if d == '\x7d' then closes e r
        else if isBreak d then startsAfreshBehind e r
        else if isStatementBlank d then implied e r
        else false
      | .closed [] => false
      | .closed (d :: r) =>
        if d == '\x7d' then closes e r
        else if isBreak d then startsAfreshBehind e r
        else if isStatementBlank d then implied e r
        else false
    else if c == '\x7d' then closes e rest
    else if isBreak c then startsAfreshBehind e rest
    else if isStatementBlank c then implied e rest
    else false
termination_by cs.length
decreasing_by
  · have := length_rest_gap_le e.typed .slash false rest
    rw [‹gap e.typed .slash false rest = _›] at this
    simp only [Gap.rest, List.length_cons] at this ⊢
    omega
  · have := length_rest_gap_le e.typed .slash false rest
    rw [‹gap e.typed .slash false rest = _›] at this
    simp only [Gap.rest, List.length_cons] at this ⊢
    omega
  · simp

end BundleAtlas.Semicolon
