import BundleAtlas.Pattern.Basic
import BundleAtlas.Text.Blank
import BundleAtlas.Text.Letter
import BundleAtlas.Text.SmallLetter

/-!
Matching by backtracking. A pattern is run at a state with a continuation that tries the rest; the
first way to match everything is the answer.
-/

namespace BundleAtlas.Pattern

/-- Where a match stands: the position, and what the groups have matched, the latest first. -/
structure State where
  position : Nat
  groups : List (Nat × Nat × Nat)
deriving Repr, Inhabited

/-- Whether a character is of a class. -/
def Category.holds (ascii : Bool) (c : Char) : Category → Bool
  | .digit => if ascii then c.isDigit else Text.isDecimal c
  | .space => if ascii then ('\t' ≤ c && c ≤ '\r') || c == ' ' else Text.isSpace c
  | .word => if ascii then c.isAlphanum || c == '_' else Text.isWordCharacter c

/-- The characters that count as the same as a character. -/
def Folding.variants (f : Folding) (c : Char) : List Char :=
  if !f.ignoreCase then [c]
  else if f.ascii then [c, c.toLower, c.toUpper]
  else c :: (Text.smallKin (Text.small c)).flatMap Text.withSmall

/-- Whether an item of a set holds one of some characters that count as the same. -/
def SetItem.holds (f : Folding) (c : Char) (variants : List Char) : SetItem → Bool
  | .range first last => variants.any fun v => first ≤ v.toNat && v.toNat ≤ last
  | .category k negated => Category.holds f.ascii c k != negated

/-- Whether a set holds a character. -/
def holds (negated : Bool) (items : List SetItem) (f : Folding) (c : Char) : Bool :=
  let variants := Folding.variants f c
  (items.any fun i => SetItem.holds f c variants i) != negated

/-- The representative of the characters that count as the same, for comparing a reference. -/
def Folding.key (f : Folding) (c : Char) : Char :=
  if !f.ignoreCase then c else if f.ascii then c.toLower else Text.small c

/-- Whether a position stands between a character of a word and another one. -/
def atBoundary (text : Array Char) (ascii : Bool) (i : Nat) : Bool :=
  let word (c? : Option Char) : Bool := c?.any fun c => Category.holds ascii c .word
  let before := if i == 0 then none else text[i - 1]?
  word before != word text[i]?

/-- Whether a condition holds at a position. -/
def Anchor.holds (text : Array Char) (i : Nat) : Anchor → Bool
  | .textStart => i == 0
  | .lineStart => i == 0 || text[i - 1]? == some '\n'
  | .textStop => i == text.size
  | .lastLineStop => i == text.size || (i + 1 == text.size && text[i]? == some '\n')
  | .lineStop => i == text.size || text[i]? == some '\n'
  | .boundary ascii negated => text.size != 0 && atBoundary text ascii i != negated

/-- What runs after a match. -/
abbrev Continuation := State → Option State

/-- Repeats a match, as often as possible first. `last` is where the latest optional repetition
started: another one is tried only if something was matched since. -/
def greedily (body : State → Continuation → Option State) (k : Continuation) :
    Nat → (least : Nat) → (most : Option Nat) → (last : Option Nat) → State → Option State
  | 0, _, _, _, _ => none
  | fuel + 1, least + 1, most, last, s =>
    body s (greedily body k fuel least (most.map (· - 1)) last)
  | fuel + 1, 0, most, last, s =>
    if most == some 0 || last == some s.position then k s
    else match body s (greedily body k fuel 0 (most.map (· - 1)) (some s.position)) with
      | some r => some r
      | none => k s

/-- Repeats a match, as rarely as possible first. -/
def lazily (body : State → Continuation → Option State) (k : Continuation) :
    Nat → (least : Nat) → (most : Option Nat) → (last : Option Nat) → State → Option State
  | 0, _, _, _, _ => none
  | fuel + 1, least + 1, most, last, s =>
    body s (lazily body k fuel least (most.map (· - 1)) last)
  | fuel + 1, 0, most, last, s =>
    match k s with
    | some r => some r
    | none =>
      if most == some 0 || last == some s.position then none
      else body s (lazily body k fuel 0 (most.map (· - 1)) (some s.position))

/-- Repeats a match as often as possible and never takes a repetition back. -/
def possessively (body : State → Continuation → Option State) :
    Nat → (least : Nat) → (most : Option Nat) → (last : Option Nat) → State → Option State
  | 0, _, _, _, _ => none
  | fuel + 1, least + 1, most, last, s =>
    match body s some with
    | some s => possessively body fuel least (most.map (· - 1)) last s
    | none => none
  | fuel + 1, 0, most, last, s =>
    if most == some 0 || last == some s.position then some s
    else match body s some with
      | some t => possessively body fuel 0 (most.map (· - 1)) (some s.position) t
      | none => some s

/-- Whether two stretches of a text of one length count as the same. -/
def sameStretch (text : Array Char) (f : Folding) (i j : Nat) : Nat → Bool
  | 0 => true
  | n + 1 => match text[i]?, text[j]? with
    | some a, some b => Folding.key f a == Folding.key f b && sameStretch text f (i + 1) (j + 1) n
    | _, _ => false

/-- What a group has matched. -/
def State.group? (s : State) (group : Nat) : Option (Nat × Nat) := s.groups.lookup group

/-- How many characters in a row, at most `n`, have a property. -/
def stretch (text : Array Char) (p : Char → Bool) (i : Nat) : Nat → Nat
  | 0 => 0
  | n + 1 => match text[i]? with
    | some c => if p c then stretch text p (i + 1) n + 1 else 0
    | none => 0

/-- Tries the rest behind `least + n`, then `least + n - 1`, … characters. -/
def giveBack (k : Continuation) (s : State) (least : Nat) : Nat → Option State
  | 0 => k { s with position := s.position + least }
  | n + 1 => match k { s with position := s.position + least + (n + 1) } with
    | some r => some r
    | none => giveBack k s least n

/-- The property of a character that a pattern of one character stands for. -/
def single? : Pattern → Option (Char → Bool)
  | .any lineFeed => some fun c => lineFeed || c != '\n'
  | .set negated items f => some (holds negated items f)
  | _ => none

/-- Runs a pattern and then its continuation. -/
def run (text : Array Char) : Pattern → State → Continuation → Option State
  | .empty, s, k => k s
  | .any lineFeed, s, k => match text[s.position]? with
    | some c => if lineFeed || c != '\n' then k { s with position := s.position + 1 } else none
    | none => none
  | .set negated items f, s, k => match text[s.position]? with
    | some c => if holds negated items f c then k { s with position := s.position + 1 } else none
    | none => none
  | .seq p q, s, k => run text p s fun s => run text q s k
  | .alt p q, s, k => match run text p s k with
    | some r => some r
    | none => run text q s k
  | .repeated p least most greed, s, k =>
    let fuel := least + text.size + 2
    match greed with
    | .greedy => match single? p with
      | some holds =>
        let room := text.size - s.position
        let n := stretch text holds s.position (match most with
          | some m => min m room
          | none => room)
        if n < least then none else giveBack k s least (n - least)
      | none => greedily (run text p) k fuel least most none s
    | .lazy => lazily (run text p) k fuel least most none s
    | .possessive => match possessively (run text p) fuel least most none s with
      | some s => k s
      | none => none
  | .capture group p, s, k => run text p s fun t =>
    k { t with groups := (group, s.position, t.position) :: t.groups }
  | .reference group f, s, k => match s.group? group with
    | some (a, b) =>
      if sameStretch text f a s.position (b - a) then k { s with position := s.position + (b - a) }
      else none
    | none => none
  | .conditional group yes no, s, k =>
    if (s.group? group).isSome then run text yes s k else run text no s k
  | .lookAhead negated p, s, k => match run text p s some with
    | some t => if negated then none else k { t with position := s.position }
    | none => if negated then k s else none
  | .lookBehind negated width p, s, k =>
    if s.position < width then (if negated then k s else none)
    else match run text p { s with position := s.position - width } some with
      | some t => if negated then none else k { t with position := s.position }
      | none => if negated then k s else none
  | .atomic p, s, k => match run text p s some with
    | some s => k s
    | none => none
  | .anchor a, s, k => if Anchor.holds text s.position a then k s else none

/-- Whether a pattern matches at one of the last `n + 1` positions of a text. -/
def matchesFrom (text : Array Char) (p : Pattern) : Nat → Bool
  | 0 => (run text p ⟨text.size, []⟩ some).isSome
  | n + 1 => (run text p ⟨text.size - (n + 1), []⟩ some).isSome || matchesFrom text p n

/-- Whether a pattern matches somewhere in a text. -/
def occursIn (p : Pattern) (text : String) : Bool :=
  let cs := text.toList.toArray
  matchesFrom cs p cs.size

/-- A match: where it starts and stops, and its groups. -/
structure Found where
  start : Nat
  stop : Nat
  groups : List (Nat × Nat × Nat)
deriving Repr, Inhabited

/-- The first match at one of the last `n + 1` positions of a text. -/
def findFrom (text : Array Char) (p : Pattern) : Nat → Option Found
  | 0 => (run text p ⟨text.size, []⟩ some).map fun s => ⟨text.size, s.position, s.groups⟩
  | n + 1 =>
    let start := text.size - (n + 1)
    match run text p ⟨start, []⟩ some with
    | some s => some ⟨start, s.position, s.groups⟩
    | none => findFrom text p n

/-- The first match in a text. -/
def find? (p : Pattern) (text : Array Char) : Option Found := findFrom text p text.size

/-- What a group of a match has matched; a group that took no part has matched nothing. -/
def Found.group (f : Found) (text : Array Char) (group : Nat) : List Char :=
  match f.groups.lookup group with
  | some (a, b) => (text.extract a b).toList
  | none => []

end BundleAtlas.Pattern
