import Sigil.Text.Ranges

namespace Sigil.Text

/-- Tab to carriage return, the four information separators, the space, and the spaces beyond ASCII.
The zero-width space and the byte order mark are no blanks. -/
def blankRanges : Ranges :=
  [(0x09, 0x0d), (0x1c, 0x20), (0x85, 0x85), (0xa0, 0xa0), (0x1680, 0x1680), (0x2000, 0x200a),
    (0x2028, 0x2029), (0x202f, 0x202f), (0x205f, 0x205f), (0x3000, 0x3000)]

def isBlank (c : Char) : Bool := blankRanges.has c.toNat

end Sigil.Text
