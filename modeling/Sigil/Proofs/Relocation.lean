import Sigil.Lexer

namespace Sigil

namespace Run

variable {f : Location → Location}

end Run

namespace Lexer

variable {f : Location → Location} {place place' : Nat → Location} {source source' : Source}
  {rows : Nat}

end Lexer

end Sigil
