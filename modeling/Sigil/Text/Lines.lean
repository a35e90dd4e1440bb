import Sigil.Text.Ranges

namespace Sigil.Text

/-- Line feed to carriage return, three of the information separators, next line, and the line and
paragraph separators. -/
def lineEndRanges : Ranges := [(0x0a, 0x0d), (0x1c, 0x1e), (0x85, 0x85), (0x2028, 0x2029)]

def isLineEnd (c : Char) : Bool := lineEndRanges.has c.toNat

/-- Splits at line ends, which are dropped. A carriage return and the line feed after it end one
line, and no line follows the last line end. -/
def lines : Text → List Text
  | [] => []
  | '\r' :: '\n' :: cs => [] :: lines cs
  | c :: cs =>
    if isLineEnd c then [] :: lines cs
    else match lines cs with
      | [] => [[c]]
      | l :: ls => (c :: l) :: ls

/-- The lines of a whole input: an empty one has one empty line. -/
def inputLines (cs : Text) : List Text :=
  match lines cs with
  | [] => [[]]
  | ls => ls

def stripReturns (line : Text) : Text := dropTrailing (fun c => c = '\r' || c = '\n') line

end Sigil.Text
