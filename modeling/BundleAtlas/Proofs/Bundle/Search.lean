import Mathlib.Data.List.Nodup
import BundleAtlas.Bundle.Search
import BundleAtlas.Proofs.Text.Occurrence
import BundleAtlas.Tool.Answer

/-!
Searches with a limit. A search stops at the unit that fills its room, so what
it finds are the first matching units; a larger limit only adds to them. A
pattern is read before any unit is looked at. How patterns are read, and what
they match, is left open here: the results hold for every engine.
-/

namespace BundleAtlas

/-- A way to read patterns: which texts a pattern matches, or why a text is no
pattern. -/
abbrev PatternEngine := String → Except PatternError (String → Bool)

/-- Patterns as they are read and matched here, by a reader. -/
def Pattern.engine (reader : PatternReader) : PatternEngine :=
  fun query => (Pattern.ofText reader query).map Pattern.occursIn

/-- Whether a text is refused as a pattern with a message about it. -/
def PatternError.isMalformed : PatternError → Bool
  | located .. | whole _ => true
  | tooLarge | tooLong _ | tooDeep _ | incompatible => false

/-- What makes a text match a query, with any engine for patterns. -/
def matcherWith (engine : PatternEngine) (query : String) (isPattern : Bool) :
    Except Fault (String → Bool) :=
  if isPattern then
    match engine query with
    | .ok matching => .ok matching
    | .error e => .error (e.fault query)
  else .ok (Text.occursIn query)

/-- The rows of a search, with any engine for patterns. -/
def searchRows (engine : PatternEngine) (s : Snapshot) (query : String) (isPattern : Bool)
    (limit : Int) : Except Fault (List Datum) := do
  let matching ← matcherWith engine query isPattern
  return (searchFrom matching limit.toNat s.units).map Piece.toRow

/-- Texts in which a query stands as it is. -/
def Contains (query text : String) : Prop := ∃ a b : String, text = a ++ query ++ b

instance (query text : String) : Decidable (Contains query text) :=
  decidable_of_iff _ (Text.occursIn_iff query text)

/-- The rows of the first units whose texts match, as many as a limit allows. -/
def firstRows (matching : String → Bool) (limit : Int) (s : Snapshot) : List Datum :=
  ((s.units.filter fun u => matching u.text).take (max 0 limit).toNat).map Piece.toRow

/-- Stopping when there is no more room is the same as taking so many of all
that match. -/
theorem searchFrom_eq_take (matching : String → Bool) (room : Nat) (units : List Piece) :
    searchFrom matching room units = (units.filter fun u => matching u.text).take room := by
  fun_induction searchFrom matching room units with
  | case1 units => rw [List.take_zero]
  | case2 room => rw [List.filter_nil, List.take_nil]
  | case3 room u units hmatch ih => rw [List.filter_cons, if_pos hmatch, List.take_succ_cons, ih]
  | case4 room u units hmatch ih => rw [List.filter_cons, if_neg hmatch, ih]

section Rows

variable {engine : PatternEngine} {s : Snapshot} {query : String} {isPattern : Bool} {limit : Int}

theorem searchRows_of_matcher {matching : String → Bool}
    (hmatcher : matcherWith engine query isPattern = .ok matching) :
    searchRows engine s query isPattern limit = .ok (firstRows matching limit s) := by
  have hroom : (max 0 limit).toNat = limit.toNat := by omega
  rw [searchRows, hmatcher, firstRows, hroom, ← searchFrom_eq_take]
  rfl

theorem exists_of_searchRows {rows : List Datum}
    (hrows : searchRows engine s query isPattern limit = .ok rows) :
    ∃ matching, matcherWith engine query isPattern = .ok matching ∧
      rows = firstRows matching limit s := by
  cases hmatcher : matcherWith engine query isPattern with
  | error e =>
      rw [searchRows, hmatcher] at hrows
      cases hrows
  | ok matching =>
      rw [searchRows_of_matcher hmatcher] at hrows
      exact ⟨matching, rfl, (Except.ok.inj hrows).symm⟩

end Rows

theorem firstRows_prefix (matching : String → Bool) (s : Snapshot) {limit larger : Int}
    (hlimit : limit ≤ larger) : firstRows matching limit s <+: firstRows matching larger s := by
  refine List.IsPrefix.map _ (List.take_prefix_take_left ?_)
  omega

/-- No id stands in two rows, because it does not stand for two units. -/
theorem nodup_firstRows (matching : String → Bool) (limit : Int) (s : Snapshot) :
    ((firstRows matching limit s).map (·.get? "id")).Nodup := by
  have hids : (firstRows matching limit s).map (·.get? "id") =
      (((s.units.filter fun u => matching u.text).take (max 0 limit).toNat).map (·.id)).map
        fun id => some (.text id) := by
    rw [firstRows, List.map_map, List.map_map]
    rfl
  have hsublist : (((s.units.filter fun u => matching u.text).take (max 0 limit).toNat).map
      (·.id)).Sublist (s.units.map (·.id)) :=
    ((List.take_sublist _ _).trans List.filter_sublist).map _
  rw [hids]
  refine (hsublist.nodup s.nodup).map ?_
  intro a b hab
  cases hab
  rfl

theorem searchUnits_eq_searchRows (reader : PatternReader) (s : Snapshot) (query : String)
    (isPattern : Bool) (limit : Int) :
    (searchUnits reader s query isPattern limit).map (List.map Piece.toRow) =
      searchRows (Pattern.engine reader) s query isPattern limit := by
  unfold searchUnits matcher searchRows matcherWith Pattern.engine
  cases isPattern with
  | false => rfl
  | true => cases Pattern.ofText reader query <;> rfl

/-- A search gives the rows of the first units that match, as many as the limit
allows, for every engine: those in which a literal query stands, or those that
a pattern matches. A text that is malformed as a pattern fails whatever units
and limit there are. The rows under a limit are a first part of those under a
larger one, and no id stands in two of them. Searches are of this kind, with
the engine of their own. -/
theorem search_gives_first_matches (engine : PatternEngine) (query : String) (s : Snapshot)
    (limit : Int) :
    searchRows engine s query false limit =
      .ok (firstRows (fun text => decide (Contains query text)) limit s) ∧
    (∀ matching, engine query = .ok matching →
      searchRows engine s query true limit = .ok (firstRows matching limit s)) ∧
    (∀ problem, engine query = .error problem → problem.isMalformed = true →
      ∃ reason, searchRows engine s query true limit =
        .error (.failure (.invalidPattern query reason))) ∧
    (∀ isPattern rows, searchRows engine s query isPattern limit = .ok rows →
      (rows.map (·.get? "id")).Nodup ∧
      ∀ larger, limit ≤ larger →
        ∃ more, searchRows engine s query isPattern larger = .ok more ∧ rows <+: more) ∧
    ∀ reader isPattern, (searchUnits reader s query isPattern limit).map (List.map Piece.toRow) =
      searchRows (Pattern.engine reader) s query isPattern limit := by
  refine ⟨?_, ?_, ?_, ?_, fun reader isPattern =>
    searchUnits_eq_searchRows reader s query isPattern limit⟩
  · have hliteral : Text.occursIn query = fun text => decide (Contains query text) := by
      funext text
      rw [Bool.eq_iff_iff, decide_eq_true_eq, Text.occursIn_iff]
      rfl
    rw [searchRows_of_matcher rfl, hliteral]
  · intro matching hengine
    exact searchRows_of_matcher (by rw [matcherWith, if_pos rfl, hengine])
  · intro problem hengine hmalformed
    rw [searchRows, matcherWith, if_pos rfl, hengine]
    cases problem with
    | located message position => exact ⟨_, rfl⟩
    | whole message => exact ⟨_, rfl⟩
    | tooLarge | tooLong | tooDeep | incompatible => cases hmalformed
  · intro isPattern rows hrows
    obtain ⟨matching, hmatcher, rfl⟩ := exists_of_searchRows hrows
    refine ⟨nodup_firstRows matching limit s, fun larger hlimit => ?_⟩
    exact ⟨_, searchRows_of_matcher hmatcher, firstRows_prefix matching s hlimit⟩

end BundleAtlas
