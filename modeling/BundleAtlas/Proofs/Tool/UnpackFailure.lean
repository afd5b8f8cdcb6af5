import BundleAtlas.Proofs.Packed.Broken
import BundleAtlas.Proofs.Tool.Envelope

/-!
How unpacking ends. A packing that is malformed in a way that is known is
answered with a failure; data that breaks a step is not, and its fault comes
through as it is. No option has a part in which of these it is, nor in the code
that is returned.
-/

namespace BundleAtlas

namespace Action

/-- Unpacking a text of a dialect under all options: what they ask for, and what
comes of splitting, is reported. -/
def unpackUnder (o : UnpackOptions) (d : Dialect) (text : String) : Action Unpacked := do
  report (optionEntries o)
  let result ← ofExcept (unpackWith d.parse text o.unbundle)
  report (splittingEntries result.splitting)
  return result

/-- This is what the tool does with an input before it lays out the code. -/
theorem preparation_eq_unpackUnder (given : Option Settings) (input : Input) (o : UnpackOptions) :
    preparation given input o = (do
      let s ← settings given
      let source ← resolve s input
      let result ← unpackUnder o s.dialect source
      let answer ← response s o result
      return (keptUnits o result, fun live => answer.getD (unpackSummary live.units.length
        ((unitsOf result).length - (keptUnits o result).length)))) := by
  unfold preparation unpackUnder
  simp only [bind_assoc, pure_bind]

end Action

end BundleAtlas
