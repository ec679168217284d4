import Harvest.Extraction
import Harvest.Page
import Harvest.Proofs.Extraction.Phases
import Harvest.Proofs.Extraction.Replacement
import Harvest.Proofs.Extraction.Refusal
import Harvest.Proofs.Extraction.Independence
import Harvest.Proofs.Extraction.Trace
import Harvest.Proofs.Signature.Folding
import Harvest.Proofs.Descriptor.Decoding
import Harvest.Proofs.Descriptor.Standard
import Harvest.Proofs.Registry.Standard
import Harvest.Proofs.Registry.History
import Harvest.Proofs.Registry.Copies
import Harvest.Proofs.Chain.Staging
import Harvest.Proofs.Chain.Standard
import Harvest.Proofs.Chain.Guards
import Harvest.Proofs.Pattern.Reading
import Harvest.Proofs.Pattern.Decomposition
import Harvest.Proofs.Pattern.SlashedForm
import Harvest.Proofs.Pattern.Flags
import Harvest.Proofs.Pattern.Plain
import Harvest.Proofs.Pattern.Tokens
import Harvest.Proofs.Standard.Refusals
import Harvest.Proofs.Chain.ReadBack
import Harvest.Proofs.Chain.Rounding
import Harvest.Proofs.Chain.Trimming
import Harvest.Proofs.Chain.Splitting
import Harvest.Proofs.Value.Nesting
import Harvest.Proofs.Value.ByKind
import Harvest.Proofs.Registry.Listings
import Harvest.Proofs.Page.FormValue
import Harvest.Proofs.Chain.Products
import Harvest.Proofs.Chain.Slicing
import Harvest.Proofs.Descriptor.Arity
