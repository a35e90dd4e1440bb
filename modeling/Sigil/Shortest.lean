/-!
The shortest decimal that reads back as a given floating-point number. The numbers that round to it
form an interval, to which the ends belong if the significand is even. Of the decimals in it the
ones on the coarsest grid of powers of ten have the fewest digits, and of these the nearest is
taken.
-/

namespace Sigil

/-- The number `digits * 10 ^ power`. -/
structure Decimal where
  digits : Nat
  power : Int
  deriving DecidableEq, Repr

/-- The number `significand * 2 ^ exponent`. The gap below a power of two is half the one above. -/
structure Magnitude where
  significand : Nat
  exponent : Int
  narrowBelow : Bool
  deriving DecidableEq, Repr

namespace Magnitude

/-- The absolute value of a finite number. -/
def ofFloat (x : Float) : Magnitude :=
  let bits := x.toBits.toNat
  let scale : Nat := bits / Nat.pow 2 52 % Nat.pow 2 11
  let fraction := bits % Nat.pow 2 52
  if scale = 0 then ⟨fraction, -1074, false⟩
  else ⟨Nat.pow 2 52 + fraction, scale - 1075, fraction = 0 && 1 < scale⟩

/-- The digits of the nearest multiple of `10 ^ power` that reads back, if there is one. Everything
is counted in units that make the value, its interval and the grid whole. A tie goes to the even
digits. -/
def onGrid? (x : Magnitude) (power : Int) : Option Nat :=
  let step := Nat.pow 10 power.toNat * Nat.pow 2 (2 - x.exponent).toNat
  let unit := Nat.pow 10 (-power).toNat * Nat.pow 2 (x.exponent - 2).toNat
  let value := 4 * x.significand * unit
  let low := value - (if x.narrowBelow then 1 else 2) * unit
  let high := value + 2 * unit
  let below := value / step
  let twice := (2 * below + 1) * step
  let belowFirst := 2 * value < twice || 2 * value = twice && below % 2 = 0
  let neighbours := if belowFirst then [below, below + 1] else [below + 1, below]
  neighbours.find? fun digits =>
    if x.significand % 2 = 0 then low ≤ digits * step && digits * step ≤ high
    else low < digits * step && digits * step < high

/-- The powers of ten between which all numbers and their gaps lie, from the largest one down. -/
def grids : List Int := (List.range 633).map fun (i : Nat) => 308 - i

/-- All digits of a number. -/
def exact (x : Magnitude) : Decimal :=
  ⟨x.significand * Nat.pow 2 x.exponent.toNat * Nat.pow 5 (-x.exponent).toNat, min x.exponent 0⟩

def shortest (x : Magnitude) : Decimal :=
  (grids.findSome? fun power => (x.onGrid? power).map (⟨·, power⟩)).getD x.exact

end Magnitude

end Sigil
