import BundleAtlas.Proofs.Bundle.ModuleIds
import BundleAtlas.Proofs.Tool.Outcome

/-!
Unpacking is atomic. All that can fail comes before the store is touched, and
storing itself cannot fail: the units of a bundle never share an id. So either
the store holds the new units under the next number, or it is as it was.
-/

namespace BundleAtlas

namespace Action

/-- The units that are kept of an unpacked text: all, or all but those of
libraries and build tools. -/
def keptUnits (o : UnpackOptions) (u : Unpacked) : List Piece :=
  if o.skipVendor then (unitsOf u).filter fun unit => !isVendorPath unit.path else unitsOf u

/-- The units that unpacking an input computes, as a query: nothing is stored. -/
def unpackedUnits (given : Option Settings) (input : Input) (o : UnpackOptions) :
    Action (List Piece) := do
  let s ← settings given
  let source ← resolve s input
  let result ← ofExcept (unpackWith s.dialect.parse source o.unbundle)
  return keptUnits o result

/-- The code that is shown of an unpacked text; that of a bundle has a banner. -/
def shownCode (result : Unpacked) : String :=
  (if result.splitting.units?.isSome then banner (unitsOf result).length else "") ++ result.code

/-- What unpacking answers instead of its summary, if code is asked for. -/
def response (s : Settings) (o : UnpackOptions) (result : Unpacked) : Action (Option String) :=
  if o.returnCode then do return some (← format s "babel" (shownCode result)) else pure none

/-- Unpacking up to the point where it stores: the units to store, and the
answer to give for the snapshot that comes of them. -/
def preparation (given : Option Settings) (input : Input) (o : UnpackOptions) :
    Action (List Piece × (Snapshot → String)) := do
  let s ← settings given
  let source ← resolve s input
  report (optionEntries o)
  let result ← ofExcept (unpackWith s.dialect.parse source o.unbundle)
  report (splittingEntries result.splitting)
  let answer ← response s o result
  return (keptUnits o result, fun live => answer.getD (unpackSummary live.units.length
    ((unitsOf result).length - (keptUnits o result).length)))

theorem deobfuscate_eq (given : Option Settings) (input : Input) (o : UnpackOptions) :
    deobfuscate given input o = (do
      let (units, answer) ← preparation given input o
      let live ← replace units
      return answer live) := by
  unfold deobfuscate preparation response
  cases o.returnCode with
  | true =>
      simp only [if_true, bind_assoc, pure_bind]
      rfl
  | false =>
      simp only [Bool.false_eq_true, if_false, bind_assoc, pure_bind]
      rfl

theorem Composes.response {allowed : Fault → Prop} {P : (α : Type) → Action α → Prop}
    (h : Composes allowed P) (s : Settings)
    (o : UnpackOptions) (result : Unpacked) : P (Option String) (Action.response s o result) := by
  unfold Action.response
  split
  · exact h.bind (h.format s _ _) fun _ => h.pure _
  · exact h.pure none

theorem KeepsStore.preparation (given : Option Settings) (input : Input) (o : UnpackOptions) :
    KeepsStore (Action.preparation given input o) := by
  refine .bind (.settings given) fun s => .bind (.resolve s input) fun source => ?_
  refine .bind (.report _) fun _ => .bind (.ofExcept _) fun result => ?_
  exact .bind (.report _) fun _ => .bind (composes.response s o result) fun answer => .pure _

/-- The units that are kept of an unpacked text share no id: they are those
of a split bundle, or a single one. -/
theorem keptUnits_nodup {dialect : Dialect} {text : String} {o : UnpackOptions} {result : Unpacked}
    (hresult : unpackWith dialect.parse text o.unbundle = .ok result) :
    ((keptUnits o result).map (·.id)).Nodup := by
  have hall : ((unitsOf result).map (·.id)).Nodup := by
    unfold unitsOf
    cases hsplitting : result.splitting with
    | modules units =>
        obtain ⟨code, hsplit⟩ := split_of_unpackWith hresult hsplitting
        exact split_nodup hsplit
    | untried => exact List.nodup_singleton entryId
    | unreadable reason => exact List.nodup_singleton entryId
    | noTable => exact List.nodup_singleton entryId
  unfold keptUnits
  split
  · exact (List.filter_sublist.map _).nodup hall
  · exact hall

/-- What is prepared is what was computed, under distinct ids; if nothing is
prepared, computing the units has failed or laying out the code has. -/
theorem preparation_outcome (given : Option Settings) (input : Input) (o : UnpackOptions)
    (w : Workspace) :
    match ((preparation given input o).outcome w).1 with
    | .ok (units, _) => ((unpackedUnits given input o).outcome w).1 = .ok units ∧
        (units.map (·.id)).Nodup
    | .error fault => ((unpackedUnits given input o).outcome w).1 = .error fault ∨
        o.returnCode = true ∧ ∃ width code, prettyPrint "babel" width code = .error fault := by
  simp only [preparation, unpackedUnits, outcome_bind, outcome_report, outcome_ofExcept,
    outcome_pure]
  rcases (settings given).outcome w with ⟨fault | s, ready⟩
  · exact Or.inl rfl
  simp only
  rcases (resolve s input).outcome ready with ⟨fault | source, read⟩
  · exact Or.inl rfl
  simp only
  rcases hresult : unpackWith s.dialect.parse source o.unbundle with fault | result
  · exact Or.inl rfl
  simp only
  have hnodup := keptUnits_nodup hresult
  unfold response
  cases hcode : o.returnCode with
  | false => exact ⟨rfl, hnodup⟩
  | true =>
      simp only [if_true, outcome_bind, format, outcome_ofExcept]
      rcases hprint : prettyPrint "babel" s.indentSize.toNat (shownCode result) with fault | code
      · exact Or.inr ⟨trivial, _, _, hprint⟩
      · exact ⟨rfl, hnodup⟩

/-- Unpacking either stores what was prepared under the next number, or fails
as the preparation does and leaves the store alone. -/
theorem deobfuscate_outcome (given : Option Settings) (input : Input) (o : UnpackOptions)
    (w : Workspace) :
    match (deobfuscate given input o).outcome w with
    | (.ok _, after) => ∃ (live : Snapshot) (answer : Snapshot → String),
        ((preparation given input o).outcome w).1 = .ok (live.units, answer) ∧
        live.generation = w.store.attempts + 1 ∧
        after.store = ⟨some live, w.store.attempts + 1⟩
    | (.error fault, after) =>
        ((preparation given input o).outcome w).1 = .error fault ∧ after.store = w.store := by
  have hkept := KeepsStore.preparation given input o w
  have hprepared := preparation_outcome given input o w
  rw [deobfuscate_eq, outcome_bind]
  rcases hrun : (preparation given input o).outcome w with ⟨fault | ⟨units, answer⟩, ready⟩
  · rw [hrun] at hkept
    exact ⟨rfl, hkept⟩
  · rw [hrun] at hkept hprepared
    have hstore := outcome_replace units ready
    rw [ready.store.replace_of_nodup hprepared.2, hkept] at hstore
    simp only [outcome_bind]
    rcases hreplace : (replace units).outcome ready with ⟨stored, after⟩
    rw [hreplace] at hstore
    obtain ⟨hstored, hafter⟩ := hstore
    dsimp only at hstored
    subst hstored
    exact ⟨_, answer, rfl, rfl, hafter⟩

end Action

/-- Unpacking either returns, and the store holds exactly the units that were
computed, under the next number; or it fails, and the store is as before. A
failure comes from computing the units or from laying out the code that was
asked for, never from storing: no bundle gives two units one id. -/
theorem deobfuscate_atomic (given : Option Settings) (input : Input) (o : UnpackOptions)
    (w : Workspace) :
    (match (Action.deobfuscate given input o).outcome w with
      | (.ok _, after) => ∃ live : Snapshot,
          ((Action.unpackedUnits given input o).outcome w).1 = .ok live.units ∧
          live.generation = w.store.attempts + 1 ∧
          after.store = ⟨some live, w.store.attempts + 1⟩
      | (.error fault, after) => after.store = w.store ∧
          (((Action.unpackedUnits given input o).outcome w).1 = .error fault ∨
            o.returnCode = true ∧ ∃ width code, prettyPrint "babel" width code = .error fault)) ∧
    (∀ (dialect : Dialect) (text : String) (result : Unpacked) (store : Store),
      unpackWith dialect.parse text o.unbundle = .ok result →
      ∃ live, (store.replace (Action.keptUnits o result)).1 = .ok live) := by
  have hprepared := Action.preparation_outcome given input o w
  have houtcome := Action.deobfuscate_outcome given input o w
  refine ⟨?_, ?_⟩
  · split at houtcome
    · obtain ⟨live, answer, hready, hgeneration, hafter⟩ := houtcome
      rw [hready] at hprepared
      exact ⟨live, hprepared.1, hgeneration, hafter⟩
    · obtain ⟨hready, hafter⟩ := houtcome
      rw [hready] at hprepared
      exact ⟨hafter, hprepared⟩
  · intro dialect text result store hresult
    exact ⟨_, by rw [store.replace_of_nodup (Action.keptUnits_nodup hresult)]⟩

end BundleAtlas
