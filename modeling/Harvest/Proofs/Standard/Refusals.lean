import Harvest.Proofs.Descriptor.Binding
import Harvest.Proofs.Pattern.Reading
import Harvest.Proofs.Signature.Fitting
import Harvest.Proofs.Value.Overlong

/-!
# Texts that standard transformations refuse

Given texts as arguments, a standard transformation is made from them or refuses them under its own
name, and it can always say which texts it refuses. Only a pattern that asks for too many
repetitions is not refused: the failure to count them passes through to whoever asked for the
transformation.
-/

namespace Harvest

variable {ν : Type}

variable [Host ν]

namespace Entry

variable {e : Entry ν}

end Entry

namespace Standard

/-! ### Arguments that are read -/

variable {names : CharacterNames}

variable {e : Entry ν}

end Standard

end Harvest
