import Sigil.Error

namespace Sigil

/-- Tokens that end with the end of input. The serial number tells apart two buffers that hold equal
tokens. -/
structure Buffer where
  serial : Nat
  tokens : List Token
  ends_with_eof : ∃ t, tokens.getLast? = some t ∧ t.kind = .eof

def Buffer.ofTokens (serial : Nat) (tokens : List Token) : Except Error Buffer :=
  match h : tokens.getLast? with
  | none => .error .emptyBuffer
  | some t => if hk : t.kind = .eof then .ok ⟨serial, tokens, t, h, hk⟩ else .error .unendedBuffer

/-- A place in a buffer. It never moves: advancing gives a new cursor. -/
structure Cursor where
  buffer : Buffer
  position : Int

namespace Cursor

def start (b : Buffer) : Cursor := ⟨b, 0⟩

def token (c : Cursor) : Except Error Token :=
  match (resolveIndex c.buffer.tokens.length c.position).bind (c.buffer.tokens[·]?) with
  | some t => .ok t
  | none => .error (if isIndex c.position then .beyondTokens else .oversizedIndex)

def isEof (c : Cursor) : Except Error Bool := c.token.map (·.kind = .eof)

/-- Advancing stops at the last token. -/
def advance (c : Cursor) (count : Int) : Cursor :=
  { c with position := min (c.position + count) (c.buffer.tokens.length - 1) }

/-- The punctuation character at a cursor and the cursor after it. -/
def punct (c : Cursor) : Except Error (Option (Token × Cursor)) :=
  c.token.map fun t => if t.kind = .punct then some (t, c.advance 1) else none

/-- The tokens at a cursor that spell a text, and the cursor after them. All but the last have to be
joint. -/
def matchPunct (c : Cursor) : Text → Except Error (Option (List Token × Cursor))
  | [] => .ok (some ([], c))
  | ch :: rest =>
    match c.punct with
    | .error e => .error e
    | .ok none => .ok none
    | .ok (some (t, after)) =>
      if t.text = [ch] ∧ (rest = [] ∨ t.trailing = false) then
        (after.matchPunct rest).map (Option.map fun (ts, last) => (t :: ts, last))
      else .ok none

def peekPunct (c : Cursor) (text : Text) : Except Error Bool :=
  (c.matchPunct text).map Option.isSome

/-- How many tokens there are from a cursor on. -/
def remaining (c : Cursor) : Nat := (c.buffer.tokens.length - c.position).toNat

end Cursor

end Sigil
