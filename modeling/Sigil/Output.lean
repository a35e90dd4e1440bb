import Sigil.Error

namespace Sigil

/-- The tokens printed so far. -/
abbrev Output := List Token

namespace Output

/-- The characters of atoms, each with the location of its atom shifted to it. -/
def placed (atoms : List Atom) (locations : List Location) : List (Char × Location) :=
  (atoms.zip locations).flatMap fun (a, l) => a.text.zipIdx.map fun (c, i) => (c, l.shift i)

/-- Punctuation characters in a row. All are joint but the one that is the last of `count`. -/
def joint (count : Nat) (start : Nat) : List (Char × Location) → List Token
  | [] => []
  | (c, l) :: rest => .punct c l (start + 1 = count) :: joint count (start + 1) rest

/-- Prints punctuation with one location for each atom. -/
def printPunct (out : Output) (text : Text) (locations : List Location) : Except Error Output :=
  let atoms := Symbol.lenient text
  if atoms.length = locations.length then .ok (out ++ joint text.length 0 (placed atoms locations))
  else .error .locationPerAtom

def pieces (t : Token) : Text := if t.trailing then t.text ++ [' '] else t.text

/-- Tokens with trailing whitespace are followed by one space, but the text ends without spaces. -/
def toSource (out : Output) : Text := Text.dropTrailing (· = ' ') (out.flatMap pieces)

/-- The tokens before a bound, or all of them. -/
def upTo (out : Output) (bound : Option Int) : Output :=
  match bound with
  | none => out
  | some i => out.take (resolveBound out.length i)

end Output

end Sigil
