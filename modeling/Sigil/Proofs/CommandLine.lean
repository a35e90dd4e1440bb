import Sigil.CommandLine.Goals
import Sigil.Proofs.Declaration
import Sigil.Proofs.Faults
import Sigil.Proofs.Parsing

namespace Sigil

open Text

variable {terminal friendly : Bool} {settings : CommandLine.Settings} {p : Punctuation}
  {text : Text} {tokens : List Token} {e : Error} {r : CommandLine.Report}

namespace CommandLine

end CommandLine

end Sigil
