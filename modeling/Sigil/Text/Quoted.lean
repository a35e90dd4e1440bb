import Sigil.Text.Hex
import Sigil.Text.Printable

namespace Sigil.Text

/-- One code point of quoted text. What is not printable becomes the shortest hexadecimal escape
that has room for it. -/
def quotePoint (quote : Char) (n : Nat) : Text :=
  if n = '\\'.toNat ∨ n = quote.toNat then ['\\', Char.ofNat n]
  else if n = 0x09 then ['\\', 't']
  else if n = 0x0a then ['\\', 'n']
  else if n = 0x0d then ['\\', 'r']
  else if isPrintable n then [Char.ofNat n]
  else if n < 0x100 then '\\' :: 'x' :: hex 2 n
  else if n < 0x10000 then '\\' :: 'u' :: hex 4 n
  else '\\' :: 'U' :: hex 8 n

/-- Double quotes serve only where the text holds single quotes and no double ones. -/
def quoteMark (points : List Nat) : Char :=
  if points.contains '\''.toNat && !points.contains '"'.toNat then '"' else '\''

def quotePoints (points : List Nat) : String :=
  let quote := quoteMark points
  String.ofList (quote :: points.flatMap (quotePoint quote) ++ [quote])

def quoted (cs : Text) : String := quotePoints cs.codePoints

end Sigil.Text
