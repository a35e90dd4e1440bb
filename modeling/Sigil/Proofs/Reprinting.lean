import Sigil.Proofs.Alphabet
import Sigil.Proofs.Relocation
import Sigil.Proofs.RoundTrip

namespace Sigil

open Text Lexer

variable {source : Source} {place : Nat → Location} {row column : Nat} {ending : Location}
  {cs s : Text} {ls : List Text} {ts tokens : List Token} {p : Punctuation}

namespace Output

end Output

namespace Lexer

end Lexer

end Sigil
