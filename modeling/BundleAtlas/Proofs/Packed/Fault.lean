import BundleAtlas.Packed.Unpacking
import BundleAtlas.Proofs.Fault

/-!
What goes wrong while a text is unpacked. Malformed data ends a step with an
index, a key, a number, a padding or a byte that does not fit; no step ends with
a failure, the only kind of fault that a tool can answer with.
-/

namespace BundleAtlas

namespace Packed

namespace WordTable

end WordTable

end Packed

end BundleAtlas
