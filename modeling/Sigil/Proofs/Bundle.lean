import Sigil.CommandLine.Settings
import Sigil.Proofs.Characters

namespace Sigil.CommandLine

open Text

variable {word rest : Text} {c : Char} {f g : Flag} {fs : List Flag} {short : Bool}

namespace Flag

end Flag

namespace Bundle

variable (hf : Flag.ofSpelling? ['-', c] = some f)
include hf

end Bundle

namespace Settings

end Settings

end Sigil.CommandLine
