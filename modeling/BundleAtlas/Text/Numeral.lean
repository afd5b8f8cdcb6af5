import BundleAtlas.Text.Blank
import BundleAtlas.Text.Letter
import BundleAtlas.Text.Quoted

/-!
Numbers as people write them: blanks around, a sign, and single underscores between digits. In a
base that is no power of two the time to read a number grows with the square of its digits, and
numbers with too many of them are refused.
-/

namespace BundleAtlas.Text

/-- The value of a digit in a base up to 36: a decimal digit of any script, or a Latin letter in
either case. -/
def digitValue (c : Char) : Option Nat :=
  if c.isLower then some (c.toNat - 'a'.toNat + 10)
  else if c.isUpper then some (c.toNat - 'A'.toNat + 10)
  else decimalValue? c

/-- Why characters are no number. -/
inductive NumeralError where
  | malformed
  /-- the number has this many digits, and that is too many -/
  | tooLong (digits : Nat)
deriving Repr, DecidableEq, Inhabited

/-- The most digits of a number, in a base that is no power of two. -/
def mostDigits : Nat := 4300

/-- Whether a number of a base may have any number of digits. -/
def isUnlimited (base : Nat) : Bool := [2, 4, 8, 16, 32].contains base

/-- Whether a character can stand between the first and the last digit of a number. -/
def isNumeralPart (base : Nat) (c : Char) : Bool := c == '_' || (digitValue c).any (· < base)

/-- Reads digits of a base from left to right. A single underscore may stand between two digits:
`open_` tells whether one may stand here. -/
def digits? (base : Nat) : (value : Nat) → (open_ : Bool) → List Char → Option Nat
  | value, open_, [] => if open_ then some value else none
  | value, open_, '_' :: cs => if open_ then digits? base value false cs else none
  | value, _, c :: cs =>
    match digitValue c with
    | some d => if d < base then digits? base (base * value + d) true cs else none
    | none => none

/-- A number without a sign. The digits at the start are counted before what follows them is looked
at. -/
def natural (base : Nat) (cs : List Char) : Except NumeralError Nat :=
  let written := cs.takeWhile (isNumeralPart base)
  let count := written.countP (· != '_')
  match digits? base 0 false written with
  | none => .error .malformed
  | some n =>
    if !isUnlimited base && mostDigits < count then .error (.tooLong count)
    else if written.length < cs.length then .error .malformed
    else .ok n

/-- Drops the mark of a base, if the digits start with it. -/
def dropMark (base : Nat) : List Char → List Char
  | '0' :: x :: cs =>
    if (base == 16 && (x == 'x' || x == 'X')) || (base == 8 && (x == 'o' || x == 'O')) ||
        (base == 2 && (x == 'b' || x == 'B')) then
      match cs with
      | '_' :: rest => rest
      | _ => cs
    else '0' :: x :: cs
  | cs => cs

/-- A number of a base with blanks around it, a sign, and perhaps the mark of the base. -/
def integer (base : Nat) (cs : List Char) : Except NumeralError Int :=
  match trimBlanks cs with
  | '-' :: rest => (natural base (dropMark base rest)).map fun n => -(n : Int)
  | '+' :: rest => (natural base (dropMark base rest)).map fun n => (n : Int)
  | rest => (natural base (dropMark base rest)).map fun n => (n : Int)

/-- The message about characters that are no number of a base. At most 200 characters of them are
shown. -/
def NumeralError.message (base : Nat) (cs : List Char) : NumeralError → String
  | malformed => "invalid literal for int() with base " ++ toString base ++ ": " ++
      String.ofList ((quoted (String.ofList cs)).toList.take 200)
  | tooLong digits => "Exceeds the limit (" ++ toString mostDigits ++
      " digits) for integer string conversion: value has " ++ toString digits ++
      " digits; use sys.set_int_max_str_digits() to increase the limit"

end BundleAtlas.Text
