import BundleAtlas.Fault
import BundleAtlas.Schema.Integer

/-!
Reading values of requests by what is expected of them. Values that only look different from what
is expected are taken for it: a text of digits for a number, a word for a flag.
-/

namespace BundleAtlas.Schema

/-- Why a value is refused: the rule that it breaks, and the reason in words. -/
structure Refusal where
  rule : String
  reason : String
deriving Repr, DecidableEq, Inhabited

namespace Refusal

def notText : Refusal := ⟨"string_type", "Input should be a valid string"⟩

def notInteger : Refusal := ⟨"int_type", "Input should be a valid integer"⟩

def malformedInteger : Refusal :=
  ⟨"int_parsing", "Input should be a valid integer, unable to parse string as an integer"⟩

def longInteger : Refusal :=
  ⟨"int_parsing_size", "Unable to parse input string as an integer, exceeded maximum size"⟩

def fraction : Refusal :=
  ⟨"int_from_float", "Input should be a valid integer, got a number with a fractional part"⟩

def notFlag : Refusal := ⟨"bool_type", "Input should be a valid boolean"⟩

def unclearFlag : Refusal :=
  ⟨"bool_parsing", "Input should be a valid boolean, unable to interpret input"⟩

def missing : Refusal := ⟨"missing", "Field required"⟩

def notAbove (n : Int) : Refusal :=
  ⟨"greater_than", "Input should be greater than " ++ toString n⟩

def below (n : Int) : Refusal :=
  ⟨"greater_than_equal", "Input should be greater than or equal to " ++ toString n⟩

def badValue (message : String) : Refusal := ⟨"value_error", "Value error, " ++ message⟩

/-- The refusal of a value at a place. -/
def issue (r : Refusal) (place : String) : Issue := ⟨[place], r.rule, r.reason⟩

end Refusal

/-- The outcome of reading a value. -/
abbrev Read (α : Type) := Except Refusal α

/-- The whole number of a decimal fraction, if it is one. -/
def whole? (mantissa : Int) (places : Nat) : Option Int :=
  let unit : Int := Nat.pow 10 places
  if mantissa % unit == 0 then some (mantissa / unit) else none

/-- A text. -/
def text : Datum → Read String
  | .text s => .ok s
  | _ => .error .notText

/-- An integer. Flags count as one and zero. -/
def integer : Datum → Read Int
  | .integer n => .ok n
  | .flag b => .ok (if b then 1 else 0)
  | .decimal m p => match whole? m p with
    | some n => .ok n
    | none => .error .fraction
  | .text s => match readIntegerText s with
    | .value n => .ok n
    | .tooLong => .error .longInteger
    | .malformed => .error .malformedInteger
  | _ => .error .notInteger

/-- Words for yes. -/
def yesWords : List String := ["1", "t", "y", "on", "yes", "true"]

/-- Words for no. -/
def noWords : List String := ["0", "f", "n", "no", "off", "false"]

/-- Numbers this far from zero are too large to be looked at. -/
def wordBound : Int := 9223372036854775808

/-- The flag that a number stands for. -/
def flagOfInteger (n : Int) : Read Bool :=
  if n == 0 then .ok false
  else if n == 1 then .ok true
  else if -wordBound ≤ n && n < wordBound then .error .unclearFlag
  else .error .notFlag

/-- A flag. -/
def flag : Datum → Read Bool
  | .flag b => .ok b
  | .text s =>
    if noWords.contains s.toLower then .ok false
    else if yesWords.contains s.toLower then .ok true
    else .error .unclearFlag
  | .integer n => flagOfInteger n
  | .decimal m p => match whole? m p with
    | some n => flagOfInteger n
    | none => .error .notFlag
  | _ => .error .notFlag

/-- A value that may be null. -/
def optional {α : Type} (read : Datum → Read α) : Datum → Read (Option α)
  | .null => .ok none
  | d => (read d).map some

/-- A number above a bound. -/
def above (bound n : Int) : Read Int := if bound < n then .ok n else .error (.notAbove bound)

/-- A number not below a bound. -/
def atLeast (bound n : Int) : Read Int := if bound ≤ n then .ok n else .error (.below bound)

/-- Values that were read, or all that is wrong with them. -/
abbrev Checked (α : Type) := Except (List Issue) α

/-- Reads a field of a record; a field that is not there has its default. -/
def field {α : Type} (record : Datum) (name : String) (read : Datum → Read α) (missing : Read α) :
    Checked α :=
  let outcome := match record.get? name with
    | some d => read d
    | none => missing
  match outcome with
  | .ok a => .ok a
  | .error r => .error [r.issue name]

/-- Joins two checks; what is wrong with either counts. -/
def both {α β γ : Type} (f : α → β → γ) : Checked α → Checked β → Checked γ
  | .ok a, .ok b => .ok (f a b)
  | .ok _, .error e => .error e
  | .error e, .ok _ => .error e
  | .error e, .error e' => .error (e ++ e')

/-- The outcome of checks as one of a request. -/
def Checked.outcome {α : Type} : Checked α → Except Fault α
  | .ok a => .ok a
  | .error issues => .error (.invalid issues)

end BundleAtlas.Schema
