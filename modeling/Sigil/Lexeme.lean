import Sigil.Atom
import Sigil.Text.Columns
import Sigil.Text.Escape
import Sigil.Token

namespace Sigil

/-- A lexeme at the head of a text: its first character is given, `more` are the characters after
it. -/
structure Lexeme where
  kind : TokenKind
  more : Text
  value : Value
  deriving DecidableEq, Repr

/-- Why no lexeme begins at a character. An offset counts from that character. -/
inductive LexicalFault
  | unknown (offset : Nat) (character : Char)
  | unclosed
  | undecodable (e : Escape.Error)
  | longInteger (digits : Nat)
  deriving DecidableEq, Repr

namespace Lexeme

def delimiter? : Char → Option TokenKind
  | '[' => some .lbracket
  | ']' => some .rbracket
  | '(' => some .lparen
  | ')' => some .rparen
  | '{' => some .lcurly
  | '}' => some .rcurly
  | _ => none

def single (kind : TokenKind) (c : Char) : Lexeme := ⟨kind, [], .ofText [c]⟩

/-- A string literal after its opening quote. -/
def scanString (cs : Text) : Except LexicalFault Lexeme :=
  match Text.quotedLength (· = '"') false cs with
  | none => .error .unclosed
  | some n =>
    match Escape.unescape (cs.take (n - 1)) with
    | .error e => .error (.undecodable e)
    | .ok points => .ok ⟨.string, cs.take n, .text points⟩

def digitValue (c : Char) : Nat := c.toNat - '0'.toNat

/-- An integer takes every letter that follows it, and refuses the first one. -/
def scanInteger (c : Char) (cs : Text) : Except LexicalFault Lexeme :=
  let more := cs.takeWhile Text.isWordPart
  match more.dropWhile Char.isDigit with
  | letter :: rest => .error (.unknown (more.length - rest.length) letter)
  | [] =>
    if maxDigits < more.length + 1 then .error (.longInteger (more.length + 1))
    else .ok ⟨.integer, more, .integer (Text.ofDigits 10 ((c :: more).map digitValue))⟩

def scanWord (c : Char) (cs : Text) : Lexeme :=
  let more := cs.takeWhile Text.isWordPart
  ⟨.identifier, more, .ofText (c :: more)⟩

/-- The lexeme that begins with `c`, which is no blank and which `cs` follows. -/
def scan (c : Char) (cs : Text) : Except LexicalFault Lexeme :=
  if c = '"' then scanString cs
  else match delimiter? c with
    | some kind => .ok (single kind c)
    | none =>
      if isPunctuation c then .ok (single .punct c)
      else if c.isDigit then scanInteger c cs
      else if Text.isWordStart c then .ok (scanWord c cs)
      else .error (.unknown 0 c)

end Lexeme

end Sigil
