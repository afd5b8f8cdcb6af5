import BundleAtlas.Bundle.Unit

/-!
The store: at most one bundle at a time. Every attempt to store units takes a number, also one that
fails.
-/

namespace BundleAtlas

/-- The live snapshot, and how many attempts to store units there were. -/
structure Store where
  live : Option Snapshot := none
  attempts : Nat := 0
deriving Repr, DecidableEq, Inhabited

namespace Store

/-- Stores units in place of those that are there. The store stays as it is, but for the number of
attempts, if two units have one id. -/
def replace (s : Store) (units : List Piece) : Except Fault Snapshot × Store :=
  let attempts := s.attempts + 1
  match Snapshot.ofUnits units attempts with
  | .ok live => (.ok live, ⟨some live, attempts⟩)
  | .error e => (.error e, { s with attempts })

/-- The live snapshot. -/
def current (s : Store) : Except Fault Snapshot :=
  match s.live with
  | some live => .ok live
  | none => .error Failure.noBundleYet

/-- The unit of an id in the live snapshot. -/
def get (s : Store) (id : String) : Except Fault Piece := do
  match (← s.current).get? id with
  | some u => .ok u
  | none => .error (Failure.unitNotFound id)

/-- The store without its snapshot. Attempts are still counted on. -/
def clear (s : Store) : Store := { s with live := none }

end Store

end BundleAtlas
