import BundleAtlas.Pattern.Basic
import BundleAtlas.Text.CharacterName
import BundleAtlas.Text.Identifier
import BundleAtlas.Text.Letter
import BundleAtlas.Text.Numeral
import BundleAtlas.Text.Quoted

/-!
Reading patterns from their text. The text is cut into tokens, single characters or a backslash
with the character behind it, and read from left to right; an error carries the position at which
it is noticed, or one a few characters before. Two things are not told by the text: the names of
characters, and how deep a pattern may go before it cannot be followed any more.
-/

namespace BundleAtlas

/-- A reader of patterns: the names of characters that it knows, how many calls deep it goes, and
what is said when there is no room for another call. -/
structure PatternReader where
  named? : String → Option Nat := Text.characterNamed?
  calls : Nat := 960
  exhaustion : String := "maximum recursion depth exceeded"
deriving Inhabited

end BundleAtlas

namespace BundleAtlas.PatternText

/-- A character or an escape, and the position of its first character. -/
structure Token where
  chars : List Char
  start : Nat
deriving Repr, Inhabited

/-- Cuts a text into tokens. A backslash at the very end is a token of its own. -/
def tokens : Nat → List Char → List Token
  | _, [] => []
  | i, '\\' :: c :: cs => ⟨['\\', c], i⟩ :: tokens (i + 2) cs
  | i, c :: cs => ⟨[c], i⟩ :: tokens (i + 1) cs

/-- Flags, as letters. -/
abbrev Flags := List Char

/-- How many characters a pattern takes: at least and, if that is bounded, at most. -/
structure Width where
  least : Nat
  most : Option Nat
deriving Repr, DecidableEq, Inhabited

namespace Width

def zero : Width := ⟨0, some 0⟩

def one : Width := ⟨1, some 1⟩

/-- The width of two patterns in a row. -/
def add (a b : Width) : Width :=
  ⟨a.least + b.least, match a.most, b.most with
    | some x, some y => some (x + y)
    | _, _ => none⟩

/-- The width of one of two patterns. -/
def join (a b : Width) : Width :=
  ⟨min a.least b.least, match a.most, b.most with
    | some x, some y => some (max x y)
    | _, _ => none⟩

/-- The width of a repetition. -/
def times (w : Width) (least : Nat) (most : Option Nat) : Width :=
  ⟨w.least * least, match w.most, most with
    | some 0, _ => some 0
    | some x, some n => some (x * n)
    | _, _ => none⟩

end Width

/-- What a part of a pattern is, as far as a repetition behind it asks. -/
inductive PartKind where
  | plain
  | anchor
  | repetition
deriving Repr, DecidableEq, Inhabited

/-- A part of a pattern that has been read. -/
structure Part where
  pattern : Pattern
  width : Width
  kind : PartKind := .plain
deriving Repr, Inhabited

/-- What a reader knows: the tokens ahead, the flags for the whole pattern, the calls that are left,
the groups so far with their widths once they are closed, their names, the number of groups before
the look-behind at hand, the groups that conditions name, and whether a look-behind has no fixed
width. -/
structure Reading where
  reader : PatternReader
  rest : List Token
  stop : Nat
  flags : Flags
  calls : Nat
  groups : List (Option Width) := [some .zero]
  names : List (String × Nat) := []
  lookBehind : Option Nat := none
  conditions : List (Nat × Nat) := []
  unbounded : Bool := false
deriving Inhabited

/-- A step of a reader. -/
abbrev Read := StateT Reading (Except PatternError)

/-- The position of the next token. -/
def Reading.position (r : Reading) : Nat :=
  match r.rest with
  | t :: _ => t.start
  | [] => r.stop

namespace Read

/-- Fails at a position some characters back. -/
def failBack {α : Type} (message : String) (back : Nat) : Read α := do
  throw (.located message ((← get).position - back))

/-- Fails at the next token. -/
def fail {α : Type} (message : String) : Read α := failBack message 0

/-- The position of the next token. -/
def position : Read Nat := return (← get).position

/-- The next token; the end is no token. -/
def next : Read (Option (List Char)) := return (← get).rest.head?.map (·.chars)

/-- Fails if a lone backslash is next. -/
def check : Read Unit := do
  if (← next) == some ['\\'] then
    throw (.located "bad escape (end of pattern)" ((← get).stop - 1))

/-- Takes the next token. -/
def take : Read (Option (List Char)) := do
  let r ← get
  match r.rest with
  | [] => return none
  | t :: ts =>
    set { r with rest := ts }
    check
    return some t.chars

/-- Takes the next token if it is the given character. -/
def accept (c : Char) : Read Bool := do
  if (← next) == some [c] then
    let _ ← take
    return true
  else return false

/-- Takes at most `n` characters with a property. -/
def takeWhile (p : Char → Bool) : Nat → Read (List Char)
  | 0 => return []
  | n + 1 => do
    match ← next with
    | some [c] =>
      if p c then
        let _ ← take
        return c :: (← takeWhile p n)
      else return []
    | _ => return []

/-- Takes characters up to a closing one, which is taken too. -/
def takeUntil (closing : Char) (what : String) : Nat → List Char → Read (List Char)
  | 0, name => return name
  | n + 1, name => do
    match ← take with
    | none =>
      if name.isEmpty then fail ("missing " ++ what)
      else failBack ("missing " ++ String.ofList [closing] ++ ", unterminated name") name.length
    | some cs =>
      if cs == [closing] then
        if name.isEmpty then failBack ("missing " ++ what) 1 else return name
      else takeUntil closing what n (name ++ cs)

/-- Reads something inside of which other things are read, as many calls deeper. -/
def deeper {α : Type} (calls : Nat) (inside : Read α) : Read α := do
  let left := (← get).calls
  if left < calls then throw (.tooDeep (← get).reader.exhaustion)
  else
    modify fun r => { r with calls := left - calls }
    let found ← inside
    modify fun r => { r with calls := left }
    return found

/-- Takes a name up to a closing character. -/
def name (closing : Char) (what : String) : Read (List Char) := do
  takeUntil closing what ((← get).rest.length + 1) []

end Read

open Read

/-- A single code point as a pattern. -/
def literal (flags : Flags) (n : Nat) : Part :=
  ⟨.set false [.range n n] ⟨flags.contains 'i', flags.contains 'a'⟩, .one, .plain⟩

/-- How characters are compared under some flags. -/
def folding (flags : Flags) : Folding := ⟨flags.contains 'i', flags.contains 'a'⟩

def isOctalDigit (c : Char) : Bool := '0' ≤ c && c ≤ '7'

def isHexDigit (c : Char) : Bool :=
  c.isDigit || ('a' ≤ c && c ≤ 'f') || ('A' ≤ c && c ≤ 'F')

/-- The value of digits in a base. -/
def valueOf (base : Nat) (cs : List Char) : Nat :=
  cs.foldl (fun n c => base * n + (Text.digitValue c).getD 0) 0

/-- The code points of the escapes for control characters. -/
def control? : Char → Option Nat
  | 'a' => some 7
  | 'b' => some 8
  | 'f' => some 12
  | 'n' => some 10
  | 'r' => some 13
  | 't' => some 9
  | 'v' => some 11
  | '\\' => some 92
  | _ => none

/-- The classes that escapes name. -/
def category? : Char → Option SetItem
  | 'd' => some (.category .digit false)
  | 'D' => some (.category .digit true)
  | 's' => some (.category .space false)
  | 'S' => some (.category .space true)
  | 'w' => some (.category .word false)
  | 'W' => some (.category .word true)
  | _ => none

/-- The text of an escape. -/
def escapeText (cs : List Char) : String := String.ofList ('\\' :: cs)

/-- Reads an escape of a fixed number of hexadecimal digits. -/
def hexEscape (letter : Char) (n : Nat) : Read Nat := do
  let digits ← takeWhile isHexDigit n
  let text := letter :: digits
  if digits.length != n then failBack ("incomplete escape " ++ escapeText text) (text.length + 1)
  else
    let value := valueOf 16 digits
    if value > 0x10ffff then failBack ("bad escape " ++ escapeText text) (text.length + 1)
    else return value

/-- Reads the name of a character in braces. -/
def nameEscape : Read Nat := do
  if !(← accept '\x7b') then fail "missing \x7b"
  else
    let name ← name '\x7d' "character name"
    match (← get).reader.named? (String.ofList name) with
    | some n => return n
    | none =>
      failBack ("undefined character name " ++ Text.quoted (String.ofList name)) (name.length + 4)

/-- Reads an escape for a code point that means the same everywhere, if it is one. -/
def codeEscape? (c : Char) : Read (Option Nat) := do
  if c == 'x' then return some (← hexEscape c 2)
  else if c == 'u' then return some (← hexEscape c 4)
  else if c == 'U' then return some (← hexEscape c 8)
  else if c == 'N' then return some (← nameEscape)
  else return none

/-- Reads the rest of an escape that has no meaning of its own: the character itself, unless it is
a letter. -/
def plainEscape (c : Char) : Read Nat :=
  if c.isAlpha || c.isDigit then failBack ("bad escape " ++ escapeText [c]) 2
  else return c.toNat

/-- The value of an octal escape. -/
def octalValue (digits : List Char) : Read Nat :=
  let value := valueOf 8 digits
  if value > 0o377 then
    failBack ("octal escape value " ++ escapeText digits ++ " outside of range 0-0o377")
      (digits.length + 1)
  else return value

/-- Reads an escape inside a set. -/
def setEscape (c : Char) : Read SetItem := do
  match control? c with
  | some n => return .range n n
  | none => match category? c with
    | some item => return item
    | none =>
      match ← codeEscape? c with
      | some n => return .range n n
      | none =>
        if isOctalDigit c then
          let n ← octalValue (c :: (← takeWhile isOctalDigit 2))
          return .range n n
        else
          let n ← plainEscape c
          return .range n n

/-- Refuses a group that cannot be referred to inside a look-behind. -/
def checkLookBehind (group : Nat) : Read Unit := do
  let r ← get
  match r.lookBehind with
  | none => return
  | some before =>
    if (r.groups[group]?.join).isNone then fail "cannot refer to an open group"
    else if before ≤ group then
      fail "cannot refer to group defined in the same lookbehind subpattern"

/-- A reference to a group. -/
def reference (flags : Flags) (group : Nat) : Read Part := do
  checkLookBehind group
  let width := ((← get).groups[group]?.join).getD .zero
  return ⟨.reference group (folding flags), width, .plain⟩

/-- Reads an escape that starts with a digit other than zero: three octal digits are a code point,
else it refers to a group. -/
def digitEscape (flags : Flags) (c : Char) : Read Part := do
  let second ← takeWhile Char.isDigit 1
  let third ← if isOctalDigit c && !second.isEmpty && second.all isOctalDigit then
      takeWhile isOctalDigit 1 else pure []
  if !third.isEmpty then return literal flags (← octalValue (c :: second ++ third))
  else
    let digits := c :: second
    let group := valueOf 10 digits
    let r ← get
    if group < r.groups.length then
      if (r.groups[group]?.join).isNone then
        failBack "cannot refer to an open group" (digits.length + 1)
      else reference flags group
    else failBack ("invalid group reference " ++ toString group) digits.length

/-- Reads an escape outside a set. -/
def escape (flags : Flags) (c : Char) : Read Part := do
  let ascii := flags.contains 'a'
  match c with
  | 'A' => return ⟨.anchor .textStart, .zero, .anchor⟩
  | 'Z' => return ⟨.anchor .textStop, .zero, .anchor⟩
  | 'b' => return ⟨.anchor (.boundary ascii false), .zero, .anchor⟩
  | 'B' => return ⟨.anchor (.boundary ascii true), .zero, .anchor⟩
  | _ =>
    match category? c with
    | some item => return ⟨.set false [item] ⟨false, ascii⟩, .one, .plain⟩
    | none => match control? c with
      | some n => return literal flags n
      | none =>
        match ← codeEscape? c with
        | some n => return literal flags n
        | none =>
          if c == '0' then
            return literal flags (valueOf 8 (c :: (← takeWhile isOctalDigit 2)))
          else if c.isDigit then digitEscape flags c
          else return literal flags (← plainEscape c)

/-- The start of a range, if an item of a set is one code point. -/
def codePoint? : SetItem → Option Nat
  | .range a b => if a == b then some a else none
  | .category .. => none

/-- Reads one end of a range or a whole item of a set. -/
def setItem : List Char → Read SetItem
  | ['\\', c] => setEscape c
  | c :: _ => return .range c.toNat c.toNat
  | [] => return .range 0 0

/-- Reads the items of a set up to its closing bracket. `start` is where the set starts. -/
def setItems (start : Nat) : Nat → List SetItem → Read (List SetItem)
  | 0, items => return items
  | fuel + 1, items => do
    let unterminated {α : Type} : Read α := do
      throw (.located "unterminated character set" start)
    match ← take with
    | none => unterminated
    | some this =>
      if this == [']'] && !items.isEmpty then return items
      else
        let first ← setItem this
        if ← accept '-' then
          match ← take with
          | none => unterminated
          | some that =>
            if that == [']'] then return items ++ [first, .range 45 45]
            else
              let last ← setItem that
              let message := "bad character range " ++ String.ofList this ++ "-" ++
                String.ofList that
              let back := this.length + 1 + that.length
              match codePoint? first, codePoint? last with
              | some a, some b =>
                if b < a then failBack message back
                else setItems start fuel (items ++ [.range a b])
              | _, _ => failBack message back
        else setItems start fuel (items ++ [first])

/-- The bound that no number of repetitions reaches. -/
def repeatBound : Nat := 4294967295

/-- A number of repetitions, if digits are given. -/
def repeatCount (digits : List Char) : Read (Option Nat) :=
  if digits.isEmpty then return none
  else if Text.mostDigits < digits.length then throw (.tooLong digits.length)
  else
    let n := valueOf 10 digits
    if repeatBound ≤ n then throw .tooLarge else return some n

/-- Reads the numbers of repetitions behind an opening brace. Nothing, and nothing taken, if the
brace stands for itself. -/
def braces : Read (Option (Nat × Option Nat)) := do
  if (← next) == some ['\x7d'] then return none
  else
    let saved ← get
    let here ← position
    let lo ← takeWhile Char.isDigit saved.rest.length
    let hi ← if ← accept ',' then takeWhile Char.isDigit saved.rest.length else pure lo
    if !(← accept '\x7d') then
      set saved
      return none
    else
      let least ← repeatCount lo
      let most ← repeatCount hi
      match least, most with
      | some a, some b =>
        if b < a then throw (.located "min repeat greater than max repeat" here)
      | _, _ => pure ()
      return some (least.getD 0, most)

/-- Reads how a repetition is tried. -/
def greed : Read Greed := do
  if ← accept '?' then return .lazy
  else if ← accept '+' then return .possessive
  else return .greedy

/-- Letters of flags. -/
def isFlag (c : Char) : Bool := ['i', 'L', 'm', 's', 'x', 'a', 't', 'u'].contains c

/-- Flags that tell what letters are. -/
def isTypeFlag (c : Char) : Bool := ['a', 'L', 'u'].contains c

/-- Reads flags to turn on, from the given letter up to a character that ends them. -/
def flagsOn : Nat → Char → Flags → Read (Flags × Char)
  | 0, c, added => return (added, c)
  | fuel + 1, c, added => do
    if c == 'L' then fail "bad inline flags: cannot use 'L' flag with a str pattern"
    else
      let added := c :: added
      if isTypeFlag c && added.any (fun d => isTypeFlag d && d != c) then
        fail "bad inline flags: flags 'a', 'u' and 'L' are incompatible"
      else match ← take with
        | none => fail "missing -, : or )"
        | some [d] =>
          if d == ')' || d == '-' || d == ':' then return (added, d)
          else if isFlag d then flagsOn fuel d added
          else failBack (if Text.isLetter d then "unknown flag" else "missing -, : or )") 1
        | some cs => failBack "missing -, : or )" cs.length

/-- Reads flags to turn off, from the given letter up to a colon. -/
def flagsOff : Nat → Char → Flags → Read Flags
  | 0, _, removed => return removed
  | fuel + 1, c, removed => do
    if isTypeFlag c then fail "bad inline flags: cannot turn off flags 'a', 'u' and 'L'"
    else
      let removed := c :: removed
      match ← take with
      | none => fail "missing :"
      | some [d] =>
        if d == ':' then return removed
        else if isFlag d then flagsOff fuel d removed
        else failBack (if Text.isLetter d then "unknown flag" else "missing :") 1
      | some cs => failBack "missing :" cs.length

/-- Reads the first flag to turn off and all behind it. -/
def flagsOffFirst : Read Flags := do
  match ← take with
  | none => fail "missing flag"
  | some [c] =>
    if isFlag c then flagsOff ((← get).rest.length + 1) c []
    else failBack (if Text.isLetter c then "unknown flag" else "missing flag") 1
  | some cs => failBack "missing flag" cs.length

/-- Reads flags in a group: for the whole pattern, which gives nothing, or for the group. -/
def groupFlags (c : Char) : Read (Option (Flags × Flags)) := do
  let (added, ending) ← if c == '-' then pure ([], '-')
    else flagsOn ((← get).rest.length + 1) c []
  if ending == ')' then
    modify fun r => { r with flags := added ++ r.flags }
    return none
  else if added.contains 't' then failBack "bad inline flags: cannot turn on global flag" 1
  else
    let removed ← if ending == '-' then flagsOffFirst else pure []
    if removed.contains 't' then failBack "bad inline flags: cannot turn off global flag" 1
    else if added.any removed.contains then failBack "bad inline flags: flag turned on and off" 1
    else return some (added, removed)

/-- The flags inside a group that turns some on and some off. -/
def combine (flags added removed : Flags) : Flags :=
  let kept := if added.any isTypeFlag then flags.filter (!isTypeFlag ·) else flags
  (added ++ kept).filter (!removed.contains ·)

/-- Refuses a name that is no identifier. -/
def checkName (name : List Char) : Read Unit :=
  if Text.isIdentifier name then return
  else failBack ("bad character in group name " ++ Text.quoted (String.ofList name)) (name.length + 1)

/-- Opens a group and gives its number. -/
def openGroup (name : Option (List Char)) : Read Nat := do
  let r ← get
  let group := r.groups.length
  match name with
  | none =>
    set { r with groups := r.groups ++ [none] }
    return group
  | some cs =>
    let text := String.ofList cs
    match r.names.lookup text with
    | some old =>
      failBack ("redefinition of group name " ++ Text.quoted text ++ " as group " ++ toString group ++
        "; was group " ++ toString old) (cs.length + 1)
    | none =>
      set { r with groups := r.groups ++ [none], names := (text, group) :: r.names }
      return group

/-- The largest number of groups. -/
def groupBound : Nat := 1073741823

/-- The group that a condition names. -/
def conditionGroup (name : List Char) : Read Nat := do
  let back := name.length + 1
  if Text.isIdentifier name then
    match (← get).names.lookup (String.ofList name) with
    | some group => return group
    | none => failBack ("unknown group name " ++ Text.quoted (String.ofList name)) back
  else match Text.integer 10 name with
    | .ok (.ofNat group) =>
      if group == 0 then failBack "bad group number" back
      else if groupBound ≤ group then failBack ("invalid group reference " ++ toString group) back
      else
        let place := (← position) - back
        modify fun r => if (r.conditions.lookup group).isSome then r
          else { r with conditions := r.conditions ++ [(group, place)] }
        return group
    | _ => failBack ("bad character in group name " ++ Text.quoted (String.ofList name)) back

/-- A whole sequence as one part. -/
def sequence (parts : List Part) : Part :=
  match parts with
  | [] => ⟨.empty, .zero, .plain⟩
  | [p] => p
  | _ => ⟨parts.foldr (fun p q => .seq p.pattern q) .empty,
      parts.foldl (fun w p => w.add p.width) .zero, .plain⟩

/-- Alternatives as one part. -/
def alternatives : List Part → Part
  | [] => ⟨.empty, .zero, .plain⟩
  | [p] => p
  | p :: ps =>
    let q := alternatives ps
    ⟨.alt p.pattern q.pattern, p.width.join q.width, .plain⟩

/-- Skips the rest of a line. -/
def skipLine : Nat → Read Unit
  | 0 => return
  | fuel + 1 => do
    match ← take with
    | none => return
    | some cs => if cs == ['\n'] then return else skipLine fuel

/-- Skips a comment in a group. `start` is where the group starts. -/
def skipComment (start : Nat) : Nat → Read Unit
  | 0 => return
  | fuel + 1 => do
    if (← next).isNone then throw (.located "missing ), unterminated comment" start)
    else if (← take) == some [')'] then return
    else skipComment start fuel

/-- Closes a group that started at a position. -/
def closeGroup (start : Nat) : Read Unit := do
  if ← accept ')' then return
  else throw (.located "missing ), unterminated subpattern" start)

/-- A look-ahead or look-behind. -/
def assertion (behind negated : Bool) (p : Part) : Read Part := do
  if behind then
    if p.width.most != some p.width.least then modify fun r => { r with unbounded := true }
    return ⟨.lookBehind negated p.width.least p.pattern, .zero, .plain⟩
  else return ⟨.lookAhead negated p.pattern, .zero, .plain⟩

/-- Blanks that do not count in a verbose pattern. -/
def isVerboseBlank (c : Char) : Bool := c == ' ' || ('\t' ≤ c && c ≤ '\r')

/-- Reads a repetition of the last part. -/
def repetition (parts : List Part) (quantifier : Nat) (least : Nat) (most : Option Nat) :
    Read (List Part) := do
  match parts.getLast? with
  | none => throw (.located "nothing to repeat" quantifier)
  | some p =>
    if p.kind == .anchor then throw (.located "nothing to repeat" quantifier)
    else if p.kind == .repetition then throw (.located "multiple repeat" quantifier)
    else
      let greed ← greed
      return parts.dropLast ++
        [⟨.repeated p.pattern least most greed, p.width.times least most, .repetition⟩]

mutual

/-- Reads alternatives. `outer` tells that no group is open. -/
def readAlternatives : Nat → (outer verbose : Bool) → Flags → Read Part
  | 0, _, _, _ => return ⟨.empty, .zero, .plain⟩
  | fuel + 1, outer, verbose, flags => do
    let first ← readSequence fuel outer outer verbose flags []
    return alternatives (← readFurther fuel outer verbose flags [first])
termination_by structural fuel => fuel

/-- Reads further alternatives behind bars. -/
def readFurther : Nat → (outer verbose : Bool) → Flags → List Part → Read (List Part)
  | 0, _, _, _, found => return found
  | fuel + 1, outer, verbose, flags, found => do
    if ← accept '|' then
      let all := (← get).flags
      let verbose := if outer then all.contains 'x' else verbose
      let p ← readSequence fuel outer false verbose (if outer then all else flags) []
      readFurther fuel outer verbose flags (found ++ [p])
    else return found
termination_by structural fuel => fuel

/-- Reads parts up to a bar, a closing parenthesis or the end. `first` tells that flags for the
whole pattern may stand here. -/
def readSequence : Nat → (outer first verbose : Bool) → Flags → List Part → Read Part
  | 0, _, _, _, _, parts => return sequence parts
  | fuel + 1, outer, first, verbose, flags, parts => do
    let place ← position
    match ← next with
    | none => return sequence parts
    | some ['|'] => return sequence parts
    | some [')'] => return sequence parts
    | some token =>
      let _ ← take
      let go (p : Part) : Read Part :=
        readSequence fuel outer first verbose flags (parts ++ [p])
      match token with
      | ['\\', c] => go (← escape flags c)
      | [c] =>
        if verbose && isVerboseBlank c then readSequence fuel outer first verbose flags parts
        else if verbose && c == '#' then
          skipLine ((← get).rest.length + 1)
          readSequence fuel outer first verbose flags parts
        else match c with
          | '.' => go ⟨.any (flags.contains 's'), .one, .plain⟩
          | '^' =>
            go ⟨.anchor (if flags.contains 'm' then .lineStart else .textStart), .zero, .anchor⟩
          | '$' =>
            go ⟨.anchor (if flags.contains 'm' then .lineStop else .lastLineStop), .zero, .anchor⟩
          | '[' =>
            let negated ← accept '^'
            let items ← setItems place ((← get).rest.length + 1) []
            go ⟨.set negated items (folding flags), .one, .plain⟩
          | '*' => readSequence fuel outer first verbose flags (← repetition parts place 0 none)
          | '+' => readSequence fuel outer first verbose flags (← repetition parts place 1 none)
          | '?' =>
            readSequence fuel outer first verbose flags (← repetition parts place 0 (some 1))
          | '\x7b' =>
            match ← braces with
            | none => go (literal flags c.toNat)
            | some (least, most) =>
              readSequence fuel outer first verbose flags
                (← repetition parts place least most)
          | '(' =>
            match ← readGroup fuel (first && parts.isEmpty) verbose flags place with
            | some p => go p
            | none =>
              let all := (← get).flags
              if outer then readSequence fuel outer first (all.contains 'x') all parts
              else readSequence fuel outer first verbose flags parts
          | _ => go (literal flags c.toNat)
      | _ => return sequence parts
termination_by structural fuel => fuel

/-- Reads a group behind its opening parenthesis; comments and flags for the whole pattern are no
part of it. -/
def readGroup : Nat → (first verbose : Bool) → Flags → (start : Nat) → Read (Option Part)
  | 0, _, _, _, _ => return none
  | fuel + 1, first, verbose, flags, start => do
    if !(← accept '?') then return some (← readCapture fuel verbose flags start none)
    else match ← take with
      | none => fail "unexpected end of pattern"
      | some ['P'] =>
        if ← accept '<' then
          let name ← name '>' "group name"
          checkName name
          return some (← readCapture fuel verbose flags start (some name))
        else if ← accept '=' then
          let name ← name ')' "group name"
          checkName name
          let r ← get
          match r.names.lookup (String.ofList name) with
          | none =>
            failBack ("unknown group name " ++ Text.quoted (String.ofList name)) (name.length + 1)
          | some group =>
            if (r.groups[group]?.join).isNone then
              failBack "cannot refer to an open group" (name.length + 1)
            else return some (← reference flags group)
        else match ← take with
          | none => fail "unexpected end of pattern"
          | some cs => failBack ("unknown extension ?P" ++ String.ofList cs) (cs.length + 2)
      | some [':'] =>
        let p ← deeper 2 (readAlternatives fuel false verbose flags)
        closeGroup start
        return some { p with kind := .plain }
      | some ['>'] =>
        let p ← deeper 2 (readAlternatives fuel false verbose flags)
        closeGroup start
        return some ⟨.atomic p.pattern, p.width, .plain⟩
      | some ['#'] =>
        skipComment start ((← get).rest.length + 1)
        return none
      | some ['='] => return some (← readAssertion fuel verbose flags start false false)
      | some ['!'] => return some (← readAssertion fuel verbose flags start false true)
      | some ['<'] =>
        match ← take with
        | none => fail "unexpected end of pattern"
        | some ['='] => return some (← readAssertion fuel verbose flags start true false)
        | some ['!'] => return some (← readAssertion fuel verbose flags start true true)
        | some cs => failBack ("unknown extension ?<" ++ String.ofList cs) (cs.length + 2)
      | some ['('] => return some (← readConditional fuel verbose flags start)
      | some [c] =>
        if isFlag c || c == '-' then
          match ← groupFlags c with
          | none =>
            if first then return none
            else throw (.located "global flags not at the start of the expression" start)
          | some (added, removed) =>
            let inner := (verbose || added.contains 'x') && !removed.contains 'x'
            let p ← deeper 2 (readAlternatives fuel false inner (combine flags added removed))
            closeGroup start
            return some { p with kind := .plain }
        else failBack ("unknown extension ?" ++ String.ofList [c]) 2
      | some cs => failBack ("unknown extension ?" ++ String.ofList cs) (cs.length + 1)
termination_by structural fuel => fuel

/-- Reads a group that captures what it matches. -/
def readCapture : Nat → (verbose : Bool) → Flags → (start : Nat) → Option (List Char) → Read Part
  | 0, _, _, _, _ => return ⟨.empty, .zero, .plain⟩
  | fuel + 1, verbose, flags, start, name => do
    let group ← openGroup name
    let p ← deeper 2 (readAlternatives fuel false verbose flags)
    closeGroup start
    modify fun r => { r with groups := r.groups.set group (some p.width) }
    return ⟨.capture group p.pattern, p.width, .plain⟩
termination_by structural fuel => fuel

/-- Reads a look-ahead or look-behind. -/
def readAssertion : Nat → (verbose : Bool) → Flags → (start : Nat) → (behind negated : Bool) →
    Read Part
  | 0, _, _, _, _, _ => return ⟨.empty, .zero, .plain⟩
  | fuel + 1, verbose, flags, start, behind, negated => do
    let outer := (← get).lookBehind
    if behind && outer.isNone then
      modify fun r => { r with lookBehind := some r.groups.length }
    let p ← deeper 2 (readAlternatives fuel false verbose flags)
    if behind then modify fun r => { r with lookBehind := outer }
    closeGroup start
    assertion behind negated p
termination_by structural fuel => fuel

/-- Reads a pattern that depends on whether a group has matched. -/
def readConditional : Nat → (verbose : Bool) → Flags → (start : Nat) → Read Part
  | 0, _, _, _ => return ⟨.empty, .zero, .plain⟩
  | fuel + 1, verbose, flags, start => do
    let group ← conditionGroup (← name ')' "group name")
    checkLookBehind group
    let yes ← deeper 1 (readSequence fuel false false verbose flags [])
    let no ← if ← accept '|' then
        let no ← deeper 1 (readSequence fuel false false verbose flags [])
        if (← next) == some ['|'] then
          fail "conditional backref with more than two branches"
        else pure no
      else pure ⟨.empty, .zero, .plain⟩
    closeGroup start
    return ⟨.conditional group yes.pattern no.pattern, yes.width.join no.width, .plain⟩
termination_by structural fuel => fuel

end

/-- Why a pattern cannot be used, although it could be read: it goes too deep, it has a look-behind
without a fixed width, or it is a template with a repetition. -/
def unusable? (r : Reading) (p : Pattern) : Option PatternError :=
  if r.reader.calls < p.depth false then some (.tooDeep r.reader.exhaustion)
  else if r.unbounded then some (.whole "look-behind requires fixed-width pattern")
  else if r.flags.contains 't' then p.firstGreed?.map fun greed =>
    .whole ("internal: unsupported template operator " ++ greed.operator)
  else none

/-- Reads a whole pattern. -/
def readPattern (fuel : Nat) : Read Pattern := do
  check
  let p ← readAlternatives fuel true false (← get).flags
  let r ← get
  if r.flags.contains 'a' && r.flags.contains 'u' then throw .incompatible
  else if !r.rest.isEmpty then fail "unbalanced parenthesis"
  else match r.conditions.find? fun (group, _) => r.groups.length ≤ group with
    | some (group, place) =>
      throw (.located ("invalid group reference " ++ toString group) place)
    | none => match unusable? r p.pattern with
      | some problem => throw problem
      | none => return p.pattern

end BundleAtlas.PatternText

namespace BundleAtlas

/-- The pattern of a text under some flags. -/
def Pattern.ofTextWith (reader : PatternReader) (flags : PatternText.Flags) (text : String) :
    Except PatternError Pattern :=
  let ts := PatternText.tokens 0 text.toList
  (PatternText.readPattern (8 * ts.length + 8)).run'
    { reader, rest := ts, stop := text.length, flags, calls := reader.calls }

/-- The pattern of a text; case is ignored unless the text says otherwise. -/
def Pattern.ofText (reader : PatternReader) (text : String) : Except PatternError Pattern :=
  Pattern.ofTextWith reader ['i'] text

/-- A pattern that a module is written with: case counts, and a dot stands for every character if
told so. A text that is no pattern matches nothing. -/
def Pattern.fixed (text : String) (lineFeed : Bool) : Pattern :=
  match Pattern.ofTextWith {} (if lineFeed then ['s'] else []) text with
  | .ok p => p
  | .error _ => .set false [] ⟨false, true⟩

end BundleAtlas
