import BundleAtlas.Fault

/-!
Units, the pieces that a bundle is made of, and snapshots: the units of one bundle under distinct
ids.
-/

namespace BundleAtlas

/-- A piece of a bundle. -/
structure Piece where
  id : String
  path : String
  text : String
deriving Repr, DecidableEq, Inhabited

/-- A unit that could not be read, with the reason. -/
structure Skipped where
  unitId : String
  error : String
deriving Repr, DecidableEq, Inhabited

/-- The units of one bundle in order, and the number of the attempt that stored them. No id stands
for two of the units. -/
structure Snapshot where
  units : List Piece
  generation : Nat
  nodup : (units.map (·.id)).Nodup
deriving Repr, DecidableEq

namespace Snapshot

instance : Inhabited Snapshot := ⟨⟨[], 0, List.nodup_nil⟩⟩

/-- The first id that an earlier unit already has. -/
def duplicate? (seen : List String) : List Piece → Option String
  | [] => none
  | u :: us => if seen.contains u.id then some u.id else duplicate? (u.id :: seen) us

theorem duplicate?_eq_none (seen : List String) (units : List Piece) :
    duplicate? seen units = none ↔
      (units.map (·.id)).Nodup ∧ ∀ u ∈ units, u.id ∉ seen := by
  induction units generalizing seen with
  | nil => simp [duplicate?]
  | cons u us ih =>
    rw [duplicate?]
    by_cases hseen : u.id ∈ seen
    · simp [hseen]
    · simp only [List.contains_iff_mem, hseen, if_false, ih, List.map_cons, List.nodup_cons,
        List.mem_map, List.mem_cons, not_or, forall_eq_or_imp]
      grind

/-- A snapshot of units with distinct ids. -/
def ofUnits (units : List Piece) (generation : Nat) : Except Fault Snapshot :=
  match h : duplicate? [] units with
  | some id => .error (.badValue ("Duplicate unit id in snapshot: " ++ id))
  | none => .ok ⟨units, generation, ((duplicate?_eq_none [] units).1 h).1⟩

/-- The unit of an id. -/
def get? (s : Snapshot) (id : String) : Option Piece := s.units.find? (·.id == id)

/-- The ids in order. -/
def ids (s : Snapshot) : List String := s.units.map (·.id)

/-- A line that says what a snapshot holds. -/
def summary (s : Snapshot) : String :=
  "Snapshot(generation=" ++ toString s.generation ++ ", units=" ++ toString s.units.length ++ ")"

end Snapshot

end BundleAtlas
