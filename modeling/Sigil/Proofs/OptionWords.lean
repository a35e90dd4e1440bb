import Sigil.Proofs.Bundle

namespace Sigil.CommandLine

open Text

variable {word rest symbol : Text} {c : Char} {f : Flag} {fs : List Flag} {gs : List (Flag × Text)}
  {short : Bool} {n : Nat}

namespace Word

end Word

end Sigil.CommandLine
