import BundleAtlas.Bundle.Split
import BundleAtlas.Packed.Unpacking

/-!
Unpacking a bundle: its text is unpacked and then split into modules.
-/

namespace BundleAtlas

/-- What came of splitting a text into modules. -/
inductive Splitting where
  /-- splitting was not asked for -/
  | untried
  /-- the text could not be read -/
  | unreadable (reason : String)
  /-- the text holds no table of modules -/
  | noTable
  | modules (units : List Piece)
deriving Repr, DecidableEq, Inhabited

/-- The modules, if there are any. -/
def Splitting.units? : Splitting → Option (List Piece)
  | modules units => some units
  | _ => none

/-- Splits a text into modules by a way to read it. A text that cannot be read is no bundle; every
other fault of reading is one of the request. -/
def split (parse : Parse) (text : String) : Except Fault Splitting :=
  match parse text with
  | .ok p => .ok (match Split.ofParsed p with
    | some units => .modules units
    | none => .noTable)
  | .error (.failure f) => .ok (.unreadable f.message)
  | .error e => .error e

/-- Splits a text of a dialect into modules. -/
def splitBundle (dialect : Option String) (text : String) : Except Fault Splitting :=
  split (parseSource dialect) text

/-- An unpacked text and what came of splitting it. -/
structure Unpacked where
  code : String
  splitting : Splitting
deriving Repr, DecidableEq, Inhabited

/-- The unpacked form of a text. -/
def unpackText (text : String) : Except Fault String :=
  match Packed.unpack text with
  | .ok code => .ok code
  | .error (.malformed m) => .error (Failure.transformError ("Failed to unpack code: " ++ m) [])
  | .error (.fault f) => .error f

/-- Unpacks a text and, if asked for, splits it into modules by a way to read it. -/
def unpackWith (parse : Parse) (text : String) (unbundle : Bool) : Except Fault Unpacked := do
  let code ← unpackText text
  if unbundle then return ⟨code, ← split parse code⟩
  else return ⟨code, .untried⟩

/-- Unpacks a text of a dialect. -/
def unpack (dialect : Option String) (text : String) (unbundle : Bool) : Except Fault Unpacked :=
  unpackWith (parseSource dialect) text unbundle

end BundleAtlas
