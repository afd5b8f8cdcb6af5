import BundleAtlas.Text.Blank

/-!
Integers in texts that people write by hand: blanks around them, a sign, zeros in front,
underscores between digits, and a fraction of zeros.
-/

namespace BundleAtlas.Schema

open Text

/-- Digits behind a zero, without the zeros and underscores in front. The last of them stays if
nothing or a fraction follows. -/
def behindZero (last : Char) : List Char → Option (List Char)
  | [] => some [last]
  | c :: cs =>
    if c == '0' || c == '_' then behindZero c cs
    else if '1' ≤ c && c ≤ '9' then some (c :: cs)
    else if c == '.' then some (last :: c :: cs)
    else none

/-- A number without the zeros in front. -/
def dropZeros : List Char → Option (List Char)
  | [] => none
  | c :: cs =>
    if c == '0' then behindZero c cs
    else if ('1' ≤ c && c ≤ '9') || c == '-' then some (c :: cs)
    else none

/-- A number without a plus sign. -/
def dropPlus : List Char → Option (List Char)
  | '+' :: '-' :: _ => none
  | '+' :: cs => some cs
  | cs => some cs

/-- A number without a fraction of zeros. -/
def dropFraction (cs : List Char) : List Char :=
  let whole := cs.takeWhile (· != '.')
  match cs.drop whole.length with
  | _ :: rest => if rest.all (· == '0') then whole else cs
  | [] => cs

/-- Whether two underscores stand side by side. -/
def hasDoubleUnderscore : List Char → Bool
  | '_' :: '_' :: _ => true
  | _ :: cs => hasDoubleUnderscore cs
  | [] => false

/-- A number without underscores, if each of them stands on its own inside the number. -/
def dropUnderscores (cs : List Char) : List Char :=
  if cs.head? == some '_' || cs.getLast? == some '_' || hasDoubleUnderscore cs then cs
  else cs.filter (· != '_')

/-- The digits of a number as they are left when all decoration is dropped. -/
def bareNumber? (cs : List Char) : Option (List Char) := do
  let unsigned ← dropPlus (trimBlanks cs)
  let significant ← dropZeros unsigned
  return dropUnderscores (dropFraction significant)

/-- The value of digits, the first one first. -/
def digitsValue (cs : List Char) : Nat :=
  cs.foldl (fun n c => 10 * n + (c.toNat - '0'.toNat)) 0

/-- Whether characters are the digits of a number without zeros in front. -/
def areDigits (cs : List Char) : Bool :=
  !cs.isEmpty && cs.all Char.isDigit && (cs.length == 1 || cs.head? != some '0')

/-- What a text says about an integer. -/
inductive IntegerText where
  | value (n : Int)
  | tooLong
  | malformed
deriving Repr, DecidableEq, Inhabited

/-- The most digits that are read. -/
def mostDigits : Nat := 4300

/-- Digits behind a sign or none. -/
def readDigits (negative : Bool) (cs : List Char) : IntegerText :=
  if !areDigits cs then .malformed
  else if mostDigits < cs.length then .tooLong
  else .value (if negative then -(digitsValue cs : Int) else digitsValue cs)

/-- Reads an integer from a text. -/
def readIntegerText (s : String) : IntegerText :=
  match bareNumber? s.toList with
  | none => .malformed
  | some ('-' :: cs) => readDigits true cs
  | some cs => readDigits false cs

end BundleAtlas.Schema
