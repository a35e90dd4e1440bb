import Sigil.Proofs.Faults
import Sigil.Proofs.Literal
import Sigil.Proofs.Relocation

namespace Sigil

open Text Lexer Literal

variable {source : Source} {n : Nat} {c : Char} {text : Text} {ls : List Text} {ts : List Token}
  {e : Error}

end Sigil
