import Harvest.Page
import Harvest.Proofs.Descriptor.Compound
import Harvest.Proofs.Standard.Refusals

/-!
# Texts against the standard registry

A text names the transformation that stands before its first colon, and gives it the pieces behind.
Against the standard registry it resolves to the one step it stands for, is not found under this
name, or is refused under it. Which of these it is does not depend on the document. One failure is
left that is no configuration error: that of a pattern which asks for more repetitions than can be
counted, by a number that stands in the text itself.
-/

namespace Harvest

namespace Descriptor

variable {ν : Type}

end Descriptor

namespace Chain

open Descriptor Standard

variable {ν : Type} [Host ν]

end Chain

end Harvest
