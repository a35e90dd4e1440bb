import Sigil.Text.Basic

namespace Sigil.Text

def hexDigit (d : Nat) : Char := Char.ofNat (if d < 10 then '0'.toNat + d else 'a'.toNat + (d - 10))

/-- The last `width` hexadecimal digits of a number, in lower case. -/
def hex : Nat → Nat → Text
  | 0, _ => []
  | width + 1, n => hex width (n / 16) ++ [hexDigit (n % 16)]

def hexValue? (c : Char) : Option Nat :=
  if '0' ≤ c ∧ c ≤ '9' then some (c.toNat - '0'.toNat)
  else if 'a' ≤ c ∧ c ≤ 'f' then some (c.toNat - 'a'.toNat + 10)
  else if 'A' ≤ c ∧ c ≤ 'F' then some (c.toNat - 'A'.toNat + 10)
  else none

def octalValue? (c : Char) : Option Nat :=
  if '0' ≤ c ∧ c ≤ '7' then some (c.toNat - '0'.toNat) else none

/-- The values of the digits a text begins with, at most `limit` of them. -/
def leadingDigits (value? : Char → Option Nat) : Nat → Text → List Nat
  | 0, _ => []
  | _, [] => []
  | limit + 1, c :: cs =>
    match value? c with
    | none => []
    | some d => d :: leadingDigits value? limit cs

end Sigil.Text
