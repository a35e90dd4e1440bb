import Sigil.Text.Blank

namespace Sigil.Text

def isWordStart (c : Char) : Bool := c.isAlpha || c = '_'

def isWordPart (c : Char) : Bool := c.isAlphanum || c = '_'

/-- The first column from `start` on that does not hold a `p`, or `start` itself beyond the end. -/
def skip (p : Char → Bool) (line : Text) (start : Nat) : Nat :=
  start + ((line.drop start).takeWhile p).length

def wordStart (line : Text) (start : Nat) : Nat := skip isBlank line start

def wordEnd (line : Text) (start : Nat) : Nat := skip isWordPart line start

/-- How many characters there are up to and with the first closing quote. A quote right after a
backslash does not close, unless another backslash has taken that one. -/
def quotedLength (isQuote : Char → Bool) (escaped : Bool) : Text → Option Nat
  | [] => none
  | c :: cs =>
    if isQuote c && !escaped then some 1
    else (quotedLength isQuote (c = '\\' && !escaped) cs).map (· + 1)

/-- The column after the quote that closes a literal whose body begins at `start`. -/
def quotedEnd (isQuote : Char → Bool) (line : Text) (start : Nat) : Option Nat :=
  (quotedLength isQuote false (line.drop start)).map (start + ·)

end Sigil.Text
