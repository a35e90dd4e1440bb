import Sigil.Shortest
import Sigil.Text.Quoted

namespace Sigil

/-- A plain value that is no token and no location. -/
inductive Datum
  | null
  | bool (b : Bool)
  | integer (n : Int)
  | float (x : Float)
  | text (s : String)
  | list (items : List Datum)
  | record (fields : List (String × Datum))
  deriving Inhabited

namespace Datum

def typeName : Datum → String
  | .null => "NoneType"
  | .bool _ => "bool"
  | .integer _ => "int"
  | .float _ => "float"
  | .text _ => "str"
  | .list _ => "list"
  | .record _ => "dict"

def zeros (n : Nat) : Text := List.replicate n '0'

/-- Digits with a decimal point after the first `point` of them. It is written where it stands from
`1e-4` up to `1e16`, else after the first digit, with the exponent in two digits or more. -/
def placePoint (digits : Text) (point : Int) : Text :=
  if -4 < point ∧ point ≤ 0 then '0' :: '.' :: (zeros (-point).toNat ++ digits)
  else if 0 < point ∧ point ≤ 16 then
    let before := digits.take point.toNat
    let after := digits.drop point.toNat
    before ++ zeros (point.toNat - digits.length) ++ '.' :: (if after = [] then ['0'] else after)
  else
    let exponent := toString (point - 1).natAbs
    let width := if exponent.length < 2 then "0" ++ exponent else exponent
    digits.take 1 ++ (if digits.length = 1 then [] else '.' :: digits.drop 1)
      ++ 'e' :: (if point ≤ 0 then '-' else '+') :: width.toList

/-- A number with the fewest digits that read back. Zero keeps its sign. -/
def renderFloat (x : Float) : String :=
  let sign := if x.toBits < 0x8000000000000000 then "" else "-"
  if x.isNaN then "nan"
  else if x.isInf then sign ++ "inf"
  else
    let d := (Magnitude.ofFloat x).shortest
    let digits := (toString d.digits).toList
    if d.digits = 0 then sign ++ "0.0"
    else sign ++ String.ofList (placePoint digits (digits.length + d.power))

mutual

def render : Datum → String
  | .null => "None"
  | .bool b => if b then "True" else "False"
  | .integer n => toString n
  | .float x => renderFloat x
  | .text s => Text.quoted s.toList
  | .list items => "[" ++ ", ".intercalate (renderAll items) ++ "]"
  | .record fields => "\x7b" ++ ", ".intercalate (renderFields fields) ++ "\x7d"

def renderAll : List Datum → List String
  | [] => []
  | d :: ds => d.render :: renderAll ds

def renderFields : List (String × Datum) → List String
  | [] => []
  | (key, d) :: fields => (Text.quoted key.toList ++ ": " ++ d.render) :: renderFields fields

end

end Datum

end Sigil
