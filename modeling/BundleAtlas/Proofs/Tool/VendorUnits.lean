import BundleAtlas.Proofs.Tool.Unpacking

/-!
Two ways to be rid of the units of libraries and build tools: not to store
them when a bundle is unpacked, and to hide them when it is listed. Unpacking
does the same work for both up to the point where it stores, so two runs from
one workspace fail together or store the same units, one of them without those
that the listing of the other can hide.
-/

namespace BundleAtlas

namespace Action

/-- Unpacking up to the choice of the units that are kept: the unpacked text,
and the code to show if it is asked for. -/
def rendering (given : Option Settings) (input : Input) (o : UnpackOptions) :
    Action (Unpacked × Option String) := do
  let s ← settings given
  let source ← resolve s input
  report (optionEntries o)
  let result ← ofExcept (unpackWith s.dialect.parse source o.unbundle)
  report (splittingEntries result.splitting)
  let shown ← response s o result
  return (result, shown)

/-- What is answered for an unpacked text: its code, or how much of it is kept. -/
def answerFor (o : UnpackOptions) (result : Unpacked) (shown : Option String) : String :=
  shown.getD (unpackSummary (keptUnits o result).length
    ((unitsOf result).length - (keptUnits o result).length))

theorem preparation_eq (given : Option Settings) (input : Input) (o : UnpackOptions) :
    preparation given input o = (do
      let (result, shown) ← rendering given input o
      return (keptUnits o result, fun live => shown.getD (unpackSummary live.units.length
        ((unitsOf result).length - (keptUnits o result).length)))) := by
  unfold preparation rendering
  simp only [bind_assoc, pure_bind]

theorem deobfuscate_error_of_rendering {given : Option Settings} {input : Input}
    {o : UnpackOptions} {w after : Workspace} {fault : Fault}
    (hrun : (rendering given input o).outcome w = (.error fault, after)) :
    (deobfuscate given input o).outcome w = (.error fault, after) := by
  rw [deobfuscate_eq, preparation_eq, outcome_bind, outcome_bind, hrun]

/-- When a text has been unpacked, the units that are kept become the live
ones. -/
theorem deobfuscate_of_rendering {given : Option Settings} {input : Input} {o : UnpackOptions}
    {w ready : Workspace} {result : Unpacked} {shown : Option String}
    (hrun : (rendering given input o).outcome w = (.ok (result, shown), ready)) :
    ∃ after live, (deobfuscate given input o).outcome w = (.ok (answerFor o result shown), after) ∧
      after.store.live = some live ∧ live.units = keptUnits o result := by
  have hprepared := preparation_outcome given input o w
  rw [preparation_eq, outcome_bind, hrun] at hprepared
  have hnodup : ((keptUnits o result).map (·.id)).Nodup := hprepared.2
  obtain ⟨hstored, hstore⟩ := outcome_replace (keptUnits o result) ready
  rw [ready.store.replace_of_nodup hnodup] at hstored hstore
  rw [deobfuscate_eq, preparation_eq, outcome_bind, outcome_bind, hrun]
  simp only [outcome_pure, outcome_bind]
  rcases hreplace : (replace (keptUnits o result)).outcome ready with ⟨stored, after⟩
  rw [hreplace] at hstored hstore
  dsimp only at hstored hstore
  subst hstored
  exact ⟨after, _, rfl, by rw [hstore], rfl⟩

/-- Code is shown only if it is asked for. -/
theorem shown_of_rendering {given : Option Settings} {input : Input} {o : UnpackOptions}
    {w ready : Workspace} {result : Unpacked} {shown : Option String}
    (hcode : o.returnCode = false)
    (hrun : (rendering given input o).outcome w = (.ok (result, shown), ready)) :
    shown = none := by
  simp only [rendering, response, hcode, Bool.false_eq_true, if_false, outcome_bind,
    outcome_report, outcome_ofExcept, outcome_pure] at hrun
  split at hrun
  · split at hrun
    · split at hrun
      · cases hrun
        rfl
      · cases hrun
    · cases hrun
  · cases hrun

/-- The summary in words; modules that were left out are told of only if there are any. -/
theorem unpackSummary_eq (stored skipped : Nat) : unpackSummary stored skipped =
    "Deobfuscation complete. Cached " ++ toString stored ++ " module(s)" ++
      (if skipped = 0 then "" else " (" ++ toString skipped ++ " vendor module(s) skipped)") ++
      ". Use 'list_modules' to explore them or set return_code=true to see the code." := by
  unfold unpackSummary
  simp only [beq_iff_eq]

theorem outcome_listModules {w : Workspace} {live : Snapshot} (hlive : w.store.live = some live)
    (excludeVendor : Bool) :
    ((listModules excludeVendor).outcome w).1 = .ok (listUnits live excludeVendor) := by
  rw [listModules, outcome_answer, outcome_current, Store.current, hlive]
  rfl

end Action

/-- A bundle that was stored without vendor units is listed as the whole one
with these hidden. There is nothing left to hide in it. -/
theorem listUnits_of_trimmed {whole trimmed : Snapshot}
    (htrimmed : trimmed.units = whole.units.filter fun u => !isVendorPath u.path)
    (excludeVendor : Bool) : listUnits trimmed excludeVendor = listUnits whole true := by
  unfold listUnits
  rw [htrimmed, List.filter_map, List.filter_map, List.filter_filter]
  congr 1
  apply List.filter_congr
  intro u _
  change (!(excludeVendor && isVendorPath u.path) && !isVendorPath u.path) =
    !(true && isVendorPath u.path)
  cases excludeVendor <;> cases isVendorPath u.path <;> rfl

theorem length_listUnits (s : Snapshot) : (listUnits s false).length = s.units.length := by
  simp [listUnits]

/-- Unpacking without vendor units agrees with hiding them. Two runs from one
workspace that differ in nothing else fail with the same fault or succeed
together. Then the bundle of the one is listed, with or without hiding, as that
of the other with its vendor units hidden, and its summary accounts for all
modules of the other: it tells how many are stored and how many are left out,
but says nothing of the latter if there are none. -/
theorem vendor_skipped_as_hidden (given : Option Settings) (input : Input) (o : UnpackOptions)
    (w : Workspace) :
    match (Action.deobfuscate given input { o with skipVendor := false }).outcome w,
      (Action.deobfuscate given input { o with skipVendor := true }).outcome w with
    | (.ok _, whole), (.ok answer, trimmed) =>
      ∃ all rows, ((Action.listModules false).outcome whole).1 = .ok all ∧
        ((Action.listModules true).outcome whole).1 = .ok rows ∧
        (∀ excludeVendor, ((Action.listModules excludeVendor).outcome trimmed).1 = .ok rows) ∧
        (o.returnCode = false → ∃ skipped, rows.length + skipped = all.length ∧
          answer = "Deobfuscation complete. Cached " ++ toString rows.length ++ " module(s)" ++
            (if skipped = 0 then "" else
              " (" ++ toString skipped ++ " vendor module(s) skipped)") ++
            ". Use 'list_modules' to explore them or set return_code=true to see the code.")
    | (.error fault, _), (.error other, _) => fault = other
    | _, _ => False := by
  rcases hrun : (Action.rendering given input o).outcome w with ⟨fault | ⟨result, shown⟩, ready⟩
  · rw [Action.deobfuscate_error_of_rendering (o := { o with skipVendor := false }) hrun,
      Action.deobfuscate_error_of_rendering (o := { o with skipVendor := true }) hrun]
  · -- Nothing before this point has looked at the choice about vendor units.
    obtain ⟨whole, all, hwhole, hall, hunits⟩ :=
      Action.deobfuscate_of_rendering (o := { o with skipVendor := false }) hrun
    obtain ⟨trimmed, live, htrimmed, hlive, hkept⟩ :=
      Action.deobfuscate_of_rendering (o := { o with skipVendor := true }) hrun
    rw [hwhole, htrimmed]
    have hunits : all.units = Action.unitsOf result := hunits
    have hkept : live.units = all.units.filter fun u => !isVendorPath u.path := by
      rw [hkept, hunits]
      rfl
    refine ⟨_, _, Action.outcome_listModules hall false, Action.outcome_listModules hall true,
      ?_, ?_⟩
    · intro excludeVendor
      rw [Action.outcome_listModules hlive, listUnits_of_trimmed hkept]
    · intro hcode
      have hshown : shown = none := Action.shown_of_rendering hcode hrun
      have hrows : (listUnits all true).length = live.units.length := by
        rw [← listUnits_of_trimmed hkept false, length_listUnits]
      have hfewer : live.units.length ≤ all.units.length := by
        rw [hkept]
        exact List.length_filter_le _ _
      refine ⟨all.units.length - live.units.length, ?_, ?_⟩
      · rw [hrows, length_listUnits]
        omega
      · rw [hshown, hrows, hunits, hkept, hunits]
        exact Action.unpackSummary_eq _ _

end BundleAtlas
