import BundleAtlas.Proofs.Files.Refusal
import BundleAtlas.Proofs.Packed.Broken
import BundleAtlas.Proofs.Pattern.Limit
import BundleAtlas.Proofs.Tool.Unpacking

/-!
Answers in envelopes. A tool puts a result or a failure into an envelope and
lets every other fault through. Nearly all that tools do ends with a result or
a failure; what gets through comes from three places only: a pattern that is
refused for its size, its depth or its flags, a file that the system refuses,
and packed data that breaks a step of unpacking.
-/

namespace BundleAtlas

namespace Action

variable {α β : Type}

/-- The action ends with a result or with a failure. -/
def OnlyFails (a : Action α) : Prop := ∀ w, ErrsByFailure (a.outcome w).1

namespace OnlyFails

theorem bind {a : Action α} {f : α → Action β} (ha : OnlyFails a)
    (hf : ∀ x, OnlyFails (f x)) : OnlyFails (a >>= f) := by
  intro w
  have hfirst := ha w
  rw [outcome_bind]
  rcases hrun : a.outcome w with ⟨e | x, after⟩
  · rw [hrun] at hfirst
    exact .error (hfirst e rfl)
  · exact hf x after

/-- A fault that is caught is a failure, so only failures need handling. -/
theorem tryCatch {a : Action α} {handle : Fault → Action α} (ha : OnlyFails a)
    (hhandle : ∀ e, e.isFailure = true → OnlyFails (handle e)) :
    OnlyFails (MonadExcept.tryCatch a handle) := by
  intro w
  have hfirst := ha w
  rw [outcome_tryCatch]
  rcases hrun : a.outcome w with ⟨e | x, after⟩
  · rw [hrun] at hfirst
    exact hhandle e (hfirst e rfl) after
  · exact .ok x

theorem ofExcept {x : Except Fault α} (hx : ErrsByFailure x) : OnlyFails (Action.ofExcept x) := by
  intro w
  rw [outcome_ofExcept]
  exact hx

theorem throw_iff {e : Fault} :
    OnlyFails (MonadExcept.throw e : Action α) ↔ e.isFailure = true := by
  constructor
  · intro hthrow
    exact hthrow {} e rfl
  · intro he w
    exact .error he

theorem composes : Composes (·.isFailure = true) @OnlyFails where
  failure := fun _ => rfl
  bind := bind
  tryCatch := fun ha hhandle => tryCatch ha fun e he => hhandle e (throw_iff.mpr he)
  ofExcept := ofExcept
  get := fun hf _ => bind (fun w => .ok w) hf
  report := fun _ _ => .ok ()

end OnlyFails

/-- The action ends with a fault that is no failure. -/
def Breaks (a : Action α) (w : Workspace) (e : Fault) : Prop :=
  (a.outcome w).1 = .error e ∧ e.isFailure = false

end Action

namespace Action

variable (s : Settings) (w : Workspace) (e : Fault)

end Action

namespace Request

variable (s : Settings) (w : Workspace) (e : Fault)

/-- A tool answers with what the request itself ends with, in an envelope if it
is a result or a failure, and leaves the workspace that the request leaves. -/
theorem runTool_outcome (given : Option Settings) (r : Request) (w : Workspace) :
    (r.runTool given).outcome w = match (r.run given).outcome w with
      | (.ok data, after) => (.ok (Envelope.ok data), after)
      | (.error (.failure f), after) => (.ok (Envelope.ofFailure f), after)
      | (.error e, after) => (.error e, after) := by
  rw [runTool, Action.outcome_tryCatch, Action.outcome_answer]
  rcases (r.run given).outcome w with ⟨e | data, after⟩
  · cases e <;> rfl
  · rfl

end Request

namespace Escaping

/-- A folder with a file that may not be read. -/
def closed : Workspace :=
  { files :=
    { entries := [(["a.js"], .file [])], refusals := [(["a.js"], ⟨13, "Permission denied"⟩)] } }

end Escaping

end BundleAtlas
