import BundleAtlas.Fault

/-!
Envelopes: answers of tools that always come back, with a result or with what went wrong.
-/

namespace BundleAtlas

namespace Envelope

/-- The envelope of a result. -/
def ok (data : Datum) : Datum := .record [("ok", .flag true), ("data", data)]

/-- The kind of something that went wrong, if none is told. -/
def someKind : Datum := .text "BundleError"

/-- The envelope of something that went wrong. -/
def fail (message kind details : Datum) : Datum :=
  .record [("ok", .flag false), ("data", .null),
    ("error", .record [("message", message), ("type", kind), ("details", details)])]

/-- The details of a failure, null if there are none. -/
def detailsOf (f : Failure) : Datum := if f.details.isEmpty then .null else .record f.details

/-- The envelope of a failure. -/
def ofFailure (f : Failure) : Datum := fail (.text f.message) (.text f.kind) (detailsOf f)

end Envelope

end BundleAtlas
