import Sigil.Features
import Sigil.Text.Identifier

namespace Sigil

/-- A declared punctuation type. The serial number tells apart two declarations that agree in
everything else. -/
structure Punctuation where
  serial : Nat
  name : String
  symbol : Text
  atoms : List Atom
  features : Features
  module : String
  strict_symbol : Symbol.strict symbol = .ok atoms
  deriving DecidableEq

namespace Punctuation

/-- How many locations an instance carries. -/
def length (p : Punctuation) : Nat := (Symbol.lenient p.symbol).length

/-- The name is checked before the symbol, and both ways of splitting the symbol have to agree. -/
def declare (serial : Nat) (name : String) (symbol : Text) (features : Features) (module : String) :
    Except Error Punctuation :=
  if Text.isIdentifier name.toList then
    match h : Symbol.strict symbol with
    | .error e => .error (.ofDecomposition symbol e)
    | .ok atoms =>
      if (Symbol.lenient symbol).length = atoms.length then
        .ok ⟨serial, name, symbol, atoms, features, module, h⟩
      else .error .countsDisagree
  else .error (.invalidName name symbol)

def description (p : Punctuation) : String :=
  "Custom punctuation `" ++ String.ofList p.symbol ++ "` consisting of " ++ toString p.length ++
    " atom(s)."

/-- The module of a declaration that names none, given the name of the module it stands in. -/
def moduleOfCaller (caller : Option String) : String := caller.getD "__main__"

def requireParsing (p : Punctuation) (member : String) : Except Error Unit :=
  if p.features.parsing then .ok () else .error (.absentFromType p.name member)

def display (p : Punctuation) : Except Error String := do
  p.requireParsing "display"
  return "`" ++ String.ofList p.symbol ++ "`"

end Punctuation

end Sigil
