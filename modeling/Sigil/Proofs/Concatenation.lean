import Sigil.Proofs.Faults
import Sigil.Proofs.Relocation

namespace Sigil

open Text Lexer

/-- The place that many rows further down. -/
def Location.down (rows : Nat) (l : Location) : Location := { l with line := l.line + rows }

variable {source : Source} {row rows : Nat} {ending ending' : Location} {ls ms : List Text}
  {ts : List Token} {e : Error}

namespace Lexer

theorem StopsLines.append (h : StopsLines source row ls ts e) (ms : List Text) :
    StopsLines source row (ls ++ ms) ts e := by
  induction h with
  | here ls h => exact .here (ls ++ ms) h
  | later h _ ih => exact .later h ih

end Lexer

end Sigil
