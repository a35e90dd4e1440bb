import Sigil.Lexer
import Sigil.Target

/-!
Streams: places in a buffer that move forward. An operation gives the moved stream where it
succeeds; where it fails there is none, and the stream is where it was.
-/

namespace Sigil

structure Stream where
  cursor : Cursor

namespace Stream

def ofTokens (serial : Nat) (tokens : List Token) : Except Error Stream :=
  (Buffer.ofTokens serial tokens).map fun b => ⟨.start b⟩

def open? (serial : Nat) (text : Text) : Except Error Stream := do
  ofTokens serial (← tokenize text)

def isEmpty (s : Stream) : Except Error Bool := s.cursor.isEof

def peek (s : Stream) (t : Target) : Except Error Bool := t.peek s.cursor

/-- An error at the current place, which is not raised. -/
def error (s : Stream) (message : String) : Except Error Error :=
  s.cursor.token.map (.parse message)

/-- The error that raising one at the current place raises. -/
def failure (s : Stream) (message : String) : Error :=
  match s.error message with
  | .ok e | .error e => e

def expect (s : Stream) (k : TokenKind) : Except Error (Token × Stream) :=
  match s.cursor.token with
  | .error e => .error e
  | .ok t =>
    if t.kind = k then .ok (t, ⟨s.cursor.advance 1⟩)
    else .error (s.failure ("expected " ++ k.display))

/-- A stream moves only forward, and only within its own buffer. -/
def advanceTo (s : Stream) (c : Cursor) : Except Error Stream :=
  if c.buffer.serial ≠ s.cursor.buffer.serial then .error .otherBuffer
  else if c.position < s.cursor.position then .error .backwards
  else .ok ⟨c⟩

/-- Each atom is located at its first character. -/
def atomLocations (text : Text) (tokens : List Token) : List Location :=
  (Symbol.offsets 0 (Symbol.lenient text)).filterMap fun offset =>
    tokens[offset]?.map Token.location

def parsePunct (s : Stream) (text : Text) : Except Error (List Location × Stream) :=
  match s.cursor.matchPunct text with
  | .error e => .error e
  | .ok none => .error (s.failure ("expected `" ++ String.ofList text ++ "`"))
  | .ok (some (tokens, rest)) => (s.advanceTo rest).map (atomLocations text tokens, ·)

def lookahead (s : Stream) : Lookahead := ⟨s.cursor, []⟩

end Stream

def Punctuation.parse (p : Punctuation) (s : Stream) : Except Error (Instance × Stream) := do
  p.requireParsing "parse"
  let (locations, s) ← s.parsePunct p.symbol
  return (← Instance.build p (some (.many (locations.map some))), s)

end Sigil
