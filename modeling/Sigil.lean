import Sigil.Main
import Sigil.Proofs.Adjacency
import Sigil.Proofs.Alphabet
import Sigil.Proofs.Alternatives
import Sigil.Proofs.Concatenation
import Sigil.Proofs.Consumption
import Sigil.Proofs.Diagnostics
import Sigil.Proofs.Extension
import Sigil.Proofs.FirstError
import Sigil.Proofs.Invocation
import Sigil.Proofs.Locality
import Sigil.Proofs.Occurrence
import Sigil.Proofs.Quotation
import Sigil.Proofs.Reprinting
import Sigil.Proofs.Speculation
import Sigil.Proofs.Splitting
import Sigil.Proofs.Tag
import Sigil.Proofs.Tiling
