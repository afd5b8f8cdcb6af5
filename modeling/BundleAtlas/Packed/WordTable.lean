import BundleAtlas.Fault
import BundleAtlas.Pattern.Match
import BundleAtlas.Pattern.Reader
import BundleAtlas.Text.Numeral
import BundleAtlas.Text.Piece
import BundleAtlas.Text.Quoted

/-!
Texts in which every word has been replaced by its number in a table of words.
-/

namespace BundleAtlas.Packed.WordTable

/-- The start of the decoder that such a text hands itself to. -/
def opening : Pattern := .fixed ("eval[ ]*\\([ ]*function[ ]*\\([ ]*p[ ]*,[ ]*a[ ]*,[ ]*c[ ]*,[ ]*" ++
  "k[ ]*,[ ]*e[ ]*,[ ]*") false

/-- What stands before and behind the packed part. -/
structure Frame where
  before : List Char
  behind : List Char
deriving Repr, Inhabited

/-- The frame of a text that has a packed part. -/
def frame? (cs : List Char) : Option Frame := do
  let found ← opening.find? cs.toArray
  let rest := cs.drop found.start
  let behind := match Text.cut? "')))".toList rest with
    | some (_, behind) => behind
    | none => match Text.cut? "\x7d))".toList rest with
      | some (_, behind) => behind
      | none => []
  return ⟨cs.take found.start, behind⟩

/-- The arguments of the decoder, with and without the last two. -/
def arguments : List Pattern :=
  [.fixed ("\x7d\\('(.*)', *(\\d+|\\[\\]), *(\\d+), *'(.*)'\\.split\\('\\|'\\), *(\\d+), *(.*)\\)\\)")
    true,
    .fixed "\x7d\\('(.*)', *(\\d+|\\[\\]), *(\\d+), *'(.*)'\\.split\\('\\|'\\)" true]

/-- A packed text: the numbers, their base, how many words there are, and the words. -/
structure Packing where
  payload : List Char
  base : Nat
  count : Nat
  words : List (List Char)
deriving Repr, Inhabited

/-- The number that digits stand for. -/
def natural (digits : List Char) : Except Text.NumeralError Nat :=
  (Text.integer 10 digits).map Int.toNat

/-- A base as it is written: two brackets stand for 62. -/
def writtenBase (cs : List Char) : Except Text.NumeralError Nat :=
  if cs == "[]".toList then .ok 62 else natural cs

/-- The packed text in a text, unless it has a number with too many digits. Nothing, if the text has
not the shape. -/
def packing? (text : Array Char) : Option (Except Text.NumeralError Packing) :=
  arguments.findSome? fun p => (p.find? text).map fun found => do
    let base ← writtenBase (found.group text 2)
    let count ← natural (found.group text 3)
    return ⟨found.group text 1, base, count, Text.split ['|'] (found.group text 4)⟩

/-- Digits of the larger bases. -/
def alphabet : List Char :=
  "0123456789abcdefghijklmnopqrstuvwxyzABCDEFGHIJKLMNOPQRSTUVWXYZ".toList

/-- The printable characters of ASCII, as digits. -/
def printable : List Char := (List.range 95).map fun n => Char.ofNat (n + 32)

/-- The digits of a base beyond 36, if there are any. -/
def digits? (base : Nat) : Option (List Char) :=
  if 36 < base && base ≤ 62 then some (alphabet.take base)
  else if base == 95 then some printable
  else none

/-- The value of digits, the last one first: every digit weighs as much as its place. -/
def weigh (base : Nat) (digits : List Char) : Nat → List Char → Except Fault Nat
  | _, [] => .ok 0
  | weight, c :: cs =>
    match digits.idxOf? c with
    | none => .error (.badKey (Text.quoted (String.ofList [c])))
    | some v => do return weight * v + (← weigh base digits (weight * base) cs)

/-- How the numbers of a base are read; nothing for a base without digits. -/
def reader? (base : Nat) : Option (List Char → Except Fault Nat) :=
  if 2 ≤ base && base ≤ 36 then
    some fun word => match Text.integer base word with
      | .ok n => .ok n.toNat
      | .error e => .error (.badValue (e.message base word))
  else (digits? base).map fun digits word => weigh base digits 1 word.reverse

/-- Characters of a word. -/
def isWordPart (c : Char) : Bool := c.isAlphanum || c == '_'

/-- The numbers from here on are no index of any table. -/
def indexBound : Nat := 0x8000000000000000

/-- What is said of a number that is no index of a table. -/
def outOfTable (n : Nat) : String :=
  if n < indexBound then "list index out of range"
  else "cannot fit 'int' into an index-sized integer"

/-- The word for a number; an empty word stands for the number itself. -/
def look (read : List Char → Except Fault Nat) (words : Array (List Char)) (word : List Char) :
    Except Fault (List Char) := do
  let n ← read word
  match words[n]? with
  | none => .error (.badIndex (outOfTable n))
  | some [] => return word
  | some w => return w

/-- Replaces all words. `run` holds the word at hand, the last character first. -/
def replaceWords (replacement : List Char → Except Fault (List Char)) (run : List Char) :
    List Char → Except Fault (List Char)
  | [] => if run.isEmpty then .ok [] else replacement run.reverse
  | c :: cs =>
    if isWordPart c then replaceWords replacement (c :: run) cs
    else do
      let word ← if run.isEmpty then pure [] else replacement run.reverse
      return word ++ c :: (← replaceWords replacement [] cs)

/-- An array of strings in the unpacked text. -/
def strings : Pattern := .fixed "var *(_\\w+)=\\[\"(.*?)\"\\];" true

/-- Replaces the uses of an array by its strings, one index after the other. -/
def inline (name : List Char) : Nat → List (List Char) → List Char → List Char
  | _, [], cs => cs
  | i, s :: ss, cs =>
    inline name (i + 1) ss
      (Text.replace (name ++ '[' :: (toString i).toList ++ [']']) ('"' :: s ++ ['"']) cs)

/-- Puts strings back from an array at the start; a text without one gets its frame back. -/
def replaceStrings (frame : Frame) (cs : List Char) : List Char :=
  let text := cs.toArray
  match strings.find? text with
  | some found =>
    (inline (found.group text 1) 0 (Text.split "\",\"".toList (found.group text 2)) cs).drop
      (found.stop - found.start)
  | none => frame.before ++ cs ++ frame.behind

end BundleAtlas.Packed.WordTable
