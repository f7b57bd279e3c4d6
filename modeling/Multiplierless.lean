import Multiplierless.Main
import Multiplierless.Proofs.Acceptance
import Multiplierless.Proofs.Accesses
import Multiplierless.Proofs.CommandLine.Effects
import Multiplierless.Proofs.CommandLine.Products
import Multiplierless.Proofs.Concatenation
import Multiplierless.Proofs.Costs
import Multiplierless.Proofs.Exactness
import Multiplierless.Proofs.Growth
import Multiplierless.Proofs.Headroom
import Multiplierless.Proofs.Linearity
import Multiplierless.Proofs.Listing
import Multiplierless.Proofs.Renaming
import Multiplierless.Proofs.Source.Injectivity
import Multiplierless.Proofs.Source.Meaning
import Multiplierless.Proofs.Source.Verdict
import Multiplierless.Proofs.WordOperations
import Multiplierless.Proofs.WriteOrder
