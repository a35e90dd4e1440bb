import Sigil.Cursor
import Sigil.Instance

namespace Sigil

def Punctuation.peek (p : Punctuation) (c : Cursor) : Except Error Bool := do
  p.requireParsing "peek"
  c.peekPunct p.symbol

/-- What can be looked for at a cursor. -/
inductive Target
  | kind (k : TokenKind)
  | type (p : Punctuation)

namespace Target

def display : Target → Except Error String
  | .kind k => .ok k.display
  | .type p => p.display

def peek (c : Cursor) : Target → Except Error Bool
  | .kind k => c.token.map (·.kind = k)
  | .type p => p.peek c

end Target

/-- A lookahead stays where it was made and remembers what it was asked for. -/
structure Lookahead where
  cursor : Cursor
  tried : List String

namespace Lookahead

/-- What is looked for is remembered before the look is taken. -/
def peek (l : Lookahead) (t : Target) : Except Error Bool × Lookahead :=
  match t.display with
  | .error e => (.error e, l)
  | .ok d => (t.peek l.cursor, { l with tried := l.tried ++ [d] })

def messageOf : List String → String
  | [] => "unexpected token"
  | [d] => "expected " ++ d
  | [d, e] => "expected " ++ d ++ " or " ++ e
  | ds => "expected one of: " ++ ", ".intercalate ds

def message (l : Lookahead) : String := messageOf l.tried

def error (l : Lookahead) : Except Error Error := l.cursor.token.map (.parse l.message)

end Lookahead

end Sigil
