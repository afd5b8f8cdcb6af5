import BundleAtlas.Fault
import BundleAtlas.Journal.Template

/-!
Failures by the names of their kinds: what a failure of a kind is made from, by position or by
name.
-/

namespace BundleAtlas

/-- What failures of a kind are made from: values by position, the number of them that must be
given, and values by name only. -/
structure FailureKind where
  /-- the name that complaints about the values use -/
  owner : String
  positions : List String
  needed : Nat
  named : List String := []
deriving Repr, DecidableEq, Inhabited

namespace FailureKind

/-- Kinds with a message and details of their own. -/
def general : FailureKind := ⟨"BundleError", ["message"], 1, ["details"]⟩

/-- The kind of a name. -/
def ofName? : String → Option FailureKind
  | "BundleError" | "TransformError" | "FormatError" => some general
  | "NoBundle" => some ⟨"NoBundle", ["message"], 0, []⟩
  | "UnitNotFound" => some ⟨"UnitNotFound", ["unit_id"], 1, []⟩
  | "SymbolNotFound" => some ⟨"SymbolNotFound", ["name"], 1, []⟩
  | "InvalidPattern" => some ⟨"InvalidPattern", ["pattern", "reason"], 1, []⟩
  | "MissingInput" => some ⟨"MissingInput", ["message"], 0, []⟩
  | "InputTooLarge" => some ⟨"InputTooLarge", ["size", "limit"], 2, []⟩
  | "SourceNotFound" => some ⟨"SourceNotFound", ["path"], 1, []⟩
  | "SourceUnreadable" => some ⟨"SourceUnreadable", ["path", "reason"], 2, []⟩
  | "ParseFailure" => some ⟨"ParseFailure", ["reason"], 1, ["line"]⟩
  | "UnknownTool" => some ⟨"UnknownTool", ["tool_name"], 1, []⟩
  | _ => none

/-- The subject of a complaint. -/
def subject (k : FailureKind) : String := k.owner ++ ".__init__()"

/-- The complaint about too many values. The failure itself counts as one. -/
def tooMany (k : FailureKind) (count : Nat) : String :=
  let most := k.positions.length + 1
  let range := if k.needed == k.positions.length then toString most
    else "from " ++ toString (k.needed + 1) ++ " to " ++ toString most
  k.subject ++ " takes " ++ range ++ " positional argument" ++ (if most == 1 then "" else "s") ++
    " but " ++ toString (count + 1) ++ " were given"

/-- The complaint about values that are missing. -/
def missing (k : FailureKind) (names : List String) : String :=
  k.subject ++ " missing " ++ toString names.length ++ " required positional argument" ++
    (if names.length == 1 then "" else "s") ++ ": " ++
    " and ".intercalate (names.map fun n => "'" ++ n ++ "'")

/-- Matches values by position and by name with what a kind is made from. -/
def bind (k : FailureKind) (values : List Datum) (named : List (String × Datum)) :
    Except Fault (List (String × Datum)) :=
  let placed := k.positions.zip values
  match named.find? fun (n, _) => !(k.positions ++ k.named).contains n with
  | some (n, _) =>
    .error (.badCall (k.subject ++ " got an unexpected keyword argument '" ++ n ++ "'"))
  | none => match named.find? fun (n, _) => placed.any (·.1 == n) with
    | some (n, _) =>
      .error (.badCall (k.subject ++ " got multiple values for argument '" ++ n ++ "'"))
    | none =>
      let all := placed ++ named
      if k.positions.length < values.length then .error (.badCall (k.tooMany values.length))
      else match (k.positions.take k.needed).filter fun n => !all.any (·.1 == n) with
        | [] => .ok all
        | names => .error (.badCall (k.missing names))

end FailureKind

namespace Failure

/-- A failure of a kind from values by name. -/
def ofValues? (kind : String) (values : List (String × Datum)) : Option Failure :=
  let text := fun name => ((values.lookup name).getD (.text "")).plain
  let number := fun name => match values.lookup name with
    | some (.integer n) => n
    | _ => 0
  let details := match values.lookup "details" with
    | some (.record fields) => fields
    | _ => []
  match kind with
  | "BundleError" => some (.general (text "message") details)
  | "TransformError" => some (.transformError (text "message") details)
  | "FormatError" => some (.formatError (text "message") details)
  | "NoBundle" =>
    some (if (values.lookup "message").isSome then .noBundle (text "message") else noBundleYet)
  | "MissingInput" =>
    some (if (values.lookup "message").isSome then .missingInput (text "message")
      else nothingGiven)
  | "UnitNotFound" => some (.unitNotFound (text "unit_id"))
  | "SymbolNotFound" => some (.symbolNotFound (text "name"))
  | "InvalidPattern" => some (.invalidPattern (text "pattern") (text "reason"))
  | "InputTooLarge" => some (.inputTooLarge (number "size") (number "limit"))
  | "SourceNotFound" => some (.sourceNotFound (text "path"))
  | "SourceUnreadable" => some (.sourceUnreadable (text "path") (text "reason"))
  | "ParseFailure" => some (.parseFailure (text "reason") (match values.lookup "line" with
      | some (.integer n) => some n
      | _ => none))
  | "UnknownTool" => some (.unknownTool (text "tool_name"))
  | _ => none

/-- A failure of a kind from values by position and by name. -/
def make (kind : String) (values : List Datum) (named : List (String × Datum)) :
    Option (Except Fault Failure) := do
  let k ← FailureKind.ofName? kind
  match k.bind values named with
  | .error e => some (.error e)
  | .ok all => (ofValues? kind all).map .ok

end Failure

end BundleAtlas
