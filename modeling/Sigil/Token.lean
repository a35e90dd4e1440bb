import Sigil.Location
import Sigil.Text.Quoted

namespace Sigil

inductive TokenKind
  | integer
  | string
  | identifier
  | punct
  | lbracket
  | rbracket
  | lparen
  | rparen
  | lcurly
  | rcurly
  | eof
  deriving DecidableEq, Repr

namespace TokenKind

def all : List TokenKind :=
  [.integer, .string, .identifier, .punct, .lbracket, .rbracket, .lparen, .rparen, .lcurly, .rcurly,
    .eof]

/-- The name in lower case, as errors show it. -/
def display : TokenKind → String
  | .integer => "integer"
  | .string => "string"
  | .identifier => "identifier"
  | .punct => "punct"
  | .lbracket => "lbracket"
  | .rbracket => "rbracket"
  | .lparen => "lparen"
  | .rparen => "rparen"
  | .lcurly => "lcurly"
  | .rcurly => "rcurly"
  | .eof => "eof"

def name (k : TokenKind) : String := k.display.toUpper

end TokenKind

/-- What a token stands for: a number, or code points, which may be surrogates. -/
inductive Value
  | integer (n : Int)
  | text (points : List Nat)
  deriving DecidableEq, Repr

def Value.ofText (cs : Text) : Value := .text cs.codePoints

def Value.render : Value → String
  | .integer n => toString n
  | .text points => Text.quotePoints points

/-- A lexical token. A punctuation character without trailing whitespace is joint with the next
one. -/
structure Token where
  kind : TokenKind
  text : Text
  value : Value
  location : Location
  trailing : Bool
  deriving DecidableEq, Repr

namespace Token

/-- The token that ends every buffer. -/
def endOfInput (l : Location) : Token := ⟨.eof, [], .integer 0, l, true⟩

def punct (c : Char) (l : Location) (trailing : Bool) : Token :=
  ⟨.punct, [c], .ofText [c], l, trailing⟩

end Token

end Sigil
