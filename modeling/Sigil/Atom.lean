import Sigil.Text.Basic

namespace Sigil

/-- A smallest piece of punctuation of the host grammar. -/
structure Atom where
  text : Text
  deriving DecidableEq, Repr

namespace Atom

def length (a : Atom) : Nat := a.text.length

/-- An atom whose length is stated beside its text. -/
def ofLength? (text : Text) (length : Int) : Option Atom :=
  if (text.length : Int) = length then some ⟨text⟩ else none

def table : List Atom :=
  [⟨['+']⟩, ⟨['+', '=']⟩, ⟨['&']⟩, ⟨['&', '&']⟩, ⟨['&', '=']⟩, ⟨['@']⟩, ⟨['!']⟩, ⟨['^']⟩,
    ⟨['^', '=']⟩, ⟨[':']⟩, ⟨[':', ':']⟩, ⟨[',']⟩, ⟨['/']⟩, ⟨['/', '=']⟩, ⟨['.']⟩, ⟨['.', '.']⟩,
    ⟨['.', '.', '.']⟩, ⟨['.', '.', '=']⟩, ⟨['=']⟩, ⟨['=', '=']⟩, ⟨['>', '=']⟩, ⟨['>']⟩,
    ⟨['<', '=']⟩, ⟨['<']⟩, ⟨['*', '=']⟩, ⟨['!', '=']⟩, ⟨['|']⟩, ⟨['|', '=']⟩, ⟨['|', '|']⟩, ⟨['#']⟩,
    ⟨['?']⟩, ⟨['-', '>']⟩, ⟨['<', '-']⟩, ⟨['%']⟩, ⟨['%', '=']⟩, ⟨['=', '>']⟩, ⟨[';']⟩, ⟨['<', '<']⟩,
    ⟨['<', '<', '=']⟩, ⟨['>', '>']⟩, ⟨['>', '>', '=']⟩, ⟨['*']⟩, ⟨['-']⟩, ⟨['-', '=']⟩, ⟨['~']⟩]

def find? (text : Text) : Option Atom := table.find? fun a => a.text = text

/-- Every character that occurs in an atom. -/
def characters : List Char := (table.flatMap Atom.text).eraseDups

/-- The longest atom that a text begins with. -/
def longest? (cs : Text) : Option Atom :=
  find? (cs.take 3) <|> find? (cs.take 2) <|> find? (cs.take 1)

end Atom

def isPunctuation (c : Char) : Bool := Atom.characters.contains c

end Sigil
