import Sigil.Text.Hex

/-!
The values of string literals. A literal is first written in Latin-1, where a character beyond
U+00FF becomes an escape of its own; then every escape is decoded. Places in errors count characters
of that written form.
-/

namespace Sigil.Escape

open Text

inductive Reason
  | loneBackslash
  | truncated (letter : Char) (digits : Nat)
  | beyondUnicode
  | malformedName
  | unknownName
  deriving DecidableEq, Repr

def Reason.message : Reason → String
  | .loneBackslash => "\\ at end of string"
  | .truncated letter digits =>
    "truncated \\" ++ String.ofList (letter :: List.replicate digits 'X') ++ " escape"
  | .beyondUnicode => "illegal Unicode character"
  | .malformedName => "malformed \\N character escape"
  | .unknownName => "unknown Unicode character name"

/-- The escape from `first` to `last`, both included, cannot be decoded. -/
structure Error where
  first : Nat
  last : Nat
  reason : Reason
  deriving DecidableEq, Repr

def Error.message (e : Error) : String :=
  let place :=
    if e.first = e.last then "byte 0x5c in position " ++ toString e.first
    else "bytes in position " ++ toString e.first ++ "-" ++ toString e.last
  "'unicodeescape' codec can't decode " ++ place ++ ": " ++ e.reason.message

def encodeChar (c : Char) : Text :=
  if c.toNat < 0x100 then [c]
  else if c.toNat < 0x10000 then '\\' :: 'u' :: hex 4 c.toNat
  else '\\' :: 'U' :: hex 8 c.toNat

def encode (cs : Text) : Text := cs.flatMap encodeChar

/-- The character that a one-letter escape stands for; an escaped line feed stands for nothing. -/
def simple? : Char → Option (List Nat)
  | '\n' => some []
  | '\\' => some [0x5c]
  | '\'' => some [0x27]
  | '"' => some [0x22]
  | 'a' => some [0x07]
  | 'b' => some [0x08]
  | 'f' => some [0x0c]
  | 'n' => some [0x0a]
  | 'r' => some [0x0d]
  | 't' => some [0x09]
  | 'v' => some [0x0b]
  | _ => none

def hexWidth? : Char → Option Nat
  | 'x' => some 2
  | 'u' => some 4
  | 'U' => some 8
  | _ => none

/-- What an escape stands for and how many characters it has after its letter, given the place of
its backslash, the letter and the text after that. An unknown letter keeps its backslash. No
character has a name here. -/
def decodeEscape (place : Nat) (letter : Char) (cs : Text) : Except Error (List Nat × Nat) :=
  if let some points := simple? letter then .ok (points, 0)
  else if let some width := hexWidth? letter then
    let digits := leadingDigits hexValue? width cs
    if digits.length < width then .error ⟨place, place + 1 + digits.length, .truncated letter width⟩
    else if 0x10ffff < ofDigits 16 digits then .error ⟨place, place + 1 + width, .beyondUnicode⟩
    else .ok ([ofDigits 16 digits], width)
  else if let some d := octalValue? letter then
    let digits := leadingDigits octalValue? 2 cs
    .ok ([ofDigits 8 (d :: digits)], digits.length)
  else if letter = 'N' then
    match cs with
    | '{' :: rest =>
      let name := rest.takeWhile (· ≠ '}')
      if name.length = rest.length then .error ⟨place, place + 2 + rest.length, .malformedName⟩
      else if name = [] then .error ⟨place, place + 2, .malformedName⟩
      else .error ⟨place, place + 3 + name.length, .unknownName⟩
    | _ => .error ⟨place, place + 1, .malformedName⟩
  else .ok ([0x5c, letter.toNat], 0)

def decodeFrom (place : Nat) : Text → Except Error (List Nat)
  | [] => .ok []
  | ['\\'] => .error ⟨place, place, .loneBackslash⟩
  | '\\' :: letter :: cs =>
    match decodeEscape place letter cs with
    | .error e => .error e
    | .ok (points, used) =>
      (decodeFrom (place + 2 + used) (cs.drop used)).map (points ++ ·)
  | c :: cs => (decodeFrom (place + 1) cs).map (c.toNat :: ·)
termination_by cs => cs.length

/-- The code points of a literal's body. They may be surrogates, which is why they are no
characters. -/
def unescape (cs : Text) : Except Error (List Nat) := decodeFrom 0 (encode cs)

end Sigil.Escape
