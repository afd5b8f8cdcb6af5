import BundleAtlas.Bundle.Store
import BundleAtlas.Layout.Format
import BundleAtlas.Symbol.CallGraph
import BundleAtlas.Symbol.Locate

/-!
Computations by the errors that they can end with. Looking into the store,
reading a document, looking for a symbol, building a call graph and laying out
a text end with a result or with a failure, never with another fault.
-/

namespace BundleAtlas

/-- A failure, which has a kind and a message for people. -/
def Fault.isFailure : Fault → Bool
  | .failure _ => true
  | _ => false

/-- Whatever error the computation ends with is one of these. -/
def ErrsBy {ε α : Type} (P : ε → Prop) (x : Except ε α) : Prop := ∀ e, x = .error e → P e

namespace ErrsBy

variable {ε α β : Type} {P : ε → Prop}

theorem ok (x : α) : ErrsBy P (.ok x) := by
  intro e he
  cases he

theorem pure (x : α) : ErrsBy P (Pure.pure x : Except ε α) := ok x

theorem error {e : ε} (he : P e) : ErrsBy P (.error e : Except ε α) := by
  rintro _ ⟨⟩
  exact he

theorem bind {x : Except ε α} {f : α → Except ε β} (hx : ErrsBy P x)
    (hf : ∀ a, ErrsBy P (f a)) : ErrsBy P (x >>= f) := by
  cases x with
  | ok a => exact hf a
  | error e => exact error (hx e rfl)

end ErrsBy

theorem Fault.eq_of_isFailure {e : Fault} (he : e.isFailure = true) : ∃ f, e = .failure f := by
  cases e with
  | failure f => exact ⟨f, rfl⟩
  | _ => cases he

/-- The computation ends with a result or with a failure. -/
abbrev ErrsByFailure {α : Type} (x : Except Fault α) : Prop := ErrsBy (·.isFailure = true) x

theorem Store.current_errsByFailure (s : Store) : ErrsByFailure s.current := by
  unfold current
  split
  · exact .ok _
  · exact .error rfl

theorem Store.get_errsByFailure (s : Store) (id : String) : ErrsByFailure (s.get id) := by
  refine .bind s.current_errsByFailure fun live => ?_
  split
  · exact .ok _
  · exact .error rfl

theorem Dialect.parse_errsByFailure (d : Dialect) (text : String) :
    ErrsByFailure (d.parse text) := by
  unfold parse
  split
  · exact .ok _
  · exact .error rfl

theorem Parsed.findSymbol_errsByFailure (p : Parsed) (name : String) :
    ErrsByFailure (p.findSymbol name) := by
  unfold findSymbol
  split
  · exact .ok _
  · exact .error rfl

theorem prettyPrint_errsByFailure (language : String) (width : Nat) (text : String) :
    ErrsByFailure (prettyPrint language width text) := by
  unfold prettyPrint
  dsimp only
  split
  · exact .error rfl
  · split
    · exact .ok _
    · exact .error rfl

theorem CallGraph.build_errsByFailure (parse : Parse) (live : Snapshot) (symbol unitId : String)
    (everywhere : Bool) : ErrsByFailure (build parse live symbol unitId everywhere) := by
  unfold build
  split
  · exact .error rfl
  · exact .ok _

end BundleAtlas
