namespace Sigil

/-- Lines, symbols and the texts of tokens are read one character at a time. -/
abbrev Text := List Char

namespace Text

def dropTrailing (p : Char → Bool) (cs : Text) : Text := (cs.reverse.dropWhile p).reverse

def codePoints (cs : Text) : List Nat := cs.map Char.toNat

/-- The number a run of digits stands for, most significant digit first. -/
def ofDigits (base : Nat) (digits : List Nat) : Nat := digits.foldl (fun n d => n * base + d) 0

end Text

/-- Indices and counts are signed numbers of 64 bits. -/
def isIndex (i : Int) : Bool := -Int.pow 2 63 ≤ i && i < Int.pow 2 63

/-- The most digits that a number is read or written with, leading zeros included. -/
def maxDigits : Nat := 4300

/-- How many bytes a single value may take. -/
def memoryLimit : Nat := Nat.pow 2 34

/-- The place an index stands for in a list of the given size. A negative index counts from the
end. -/
def resolveIndex (size : Nat) (i : Int) : Option Nat :=
  let place := if i < 0 then i + size else i
  if 0 ≤ place ∧ place < size then some place.toNat else none

/-- The place where a slice stops. Unlike an index, a bound beyond either end stops there. -/
def resolveBound (size : Nat) (i : Int) : Nat :=
  min (if i < 0 then i + size else i).toNat size

end Sigil
