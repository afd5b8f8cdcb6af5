/-!
Search patterns. A pattern is a regular expression with captures, references, assertions and
atomic groups. Code points are natural numbers, because a pattern may name ones that no text holds.
-/

namespace BundleAtlas

/-- The classes of characters that an escape can name. -/
inductive Category where
  | digit
  | space
  | word
deriving Repr, DecidableEq, Inhabited

/-- How characters are compared: whether case counts, and whether only ASCII has letters. -/
structure Folding where
  ignoreCase : Bool
  ascii : Bool
deriving Repr, DecidableEq, Inhabited

/-- A part of a set of characters. -/
inductive SetItem where
  | range (first last : Nat)
  | category (c : Category) (negated : Bool)
deriving Repr, DecidableEq, Inhabited

/-- Conditions on a position. -/
inductive Anchor where
  | textStart
  | lineStart
  | textStop
  /-- the end, or before a line feed at the end -/
  | lastLineStop
  | lineStop
  | boundary (ascii negated : Bool)
deriving Repr, DecidableEq, Inhabited

/-- Which number of repetitions is tried first, and whether others are tried at all. -/
inductive Greed where
  | greedy
  | lazy
  | possessive
deriving Repr, DecidableEq, Inhabited

/-- The name of a repetition, by how it is tried. -/
def Greed.operator : Greed → String
  | greedy => "MAX_REPEAT"
  | lazy => "MIN_REPEAT"
  | possessive => "POSSESSIVE_REPEAT"

/-- A search pattern. -/
inductive Pattern where
  | empty
  /-- any character, a line feed only if told so -/
  | any (lineFeed : Bool)
  | set (negated : Bool) (items : List SetItem) (folding : Folding)
  | seq (p q : Pattern)
  | alt (p q : Pattern)
  | repeated (p : Pattern) (least : Nat) (most : Option Nat) (greed : Greed)
  | capture (group : Nat) (p : Pattern)
  | reference (group : Nat) (folding : Folding)
  /-- one of two patterns, depending on whether a group has matched -/
  | conditional (group : Nat) (yes no : Pattern)
  | lookAhead (negated : Bool) (p : Pattern)
  | lookBehind (negated : Bool) (width : Nat) (p : Pattern)
  | atomic (p : Pattern)
  | anchor (a : Anchor)
deriving Repr, Inhabited

namespace Pattern

/-- How many calls deep a pattern is followed: one for every part inside another part. Alternatives
side by side are inside the same one; `beside` tells that it has been counted. -/
def depth (beside : Bool) : Pattern → Nat
  | empty | any _ | set .. | reference .. | anchor _ => 0
  | seq p q => max (p.depth false) (q.depth false)
  | alt p q => (if beside then 0 else 1) + max (p.depth false) (q.depth true)
  | repeated p .. | capture _ p | lookAhead _ p | lookBehind _ _ p | atomic p => p.depth false + 1
  | conditional _ yes no => max (yes.depth false) (no.depth false) + 1

/-- How the first repetition in a pattern is tried. -/
def firstGreed? : Pattern → Option Greed
  | empty | any _ | set .. | reference .. | anchor _ => none
  | seq p q | alt p q | conditional _ p q => p.firstGreed?.or q.firstGreed?
  | repeated _ _ _ greed => some greed
  | capture _ p | lookAhead _ p | lookBehind _ _ p | atomic p => p.firstGreed?

end Pattern

/-- Why a text is no pattern. -/
inductive PatternError where
  /-- a message about a position -/
  | located (message : String) (position : Nat)
  /-- a message about the whole pattern -/
  | whole (message : String)
  /-- a number of repetitions beyond all bounds -/
  | tooLarge
  /-- a number of repetitions with this many digits, which are too many to read it -/
  | tooLong (digits : Nat)
  /-- more parts inside one another than can be followed -/
  | tooDeep (message : String)
  /-- flags that exclude each other -/
  | incompatible
deriving Repr, DecidableEq, Inhabited

end BundleAtlas
