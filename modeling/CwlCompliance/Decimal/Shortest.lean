import CwlCompliance.Decimal.Double

/-!
# The shortest decimal that reads back

A positive finite double stands for an interval of reals: those nearer to it than to any other
double, its ends included when the mantissa is even.  The digits to print are those of the
coarsest decimal grid that has a point in the interval, and of two such points the nearer.

## Main definitions

* `Double.shortest` — the digits and the power of ten of that decimal.
-/

namespace CwlCompliance.Double

/-- The interval of a double and its value, as numerators over one denominator. -/
structure Interval where
  /-- The lower end. -/
  low : Nat
  /-- The double itself. -/
  value : Nat
  /-- The upper end. -/
  high : Nat
  /-- The common denominator. -/
  unit : Nat
  /-- Whether the two ends belong to the interval. -/
  closed : Bool

/-- The interval of `mantissa * 2 ^ exponent`.  Below a power of two the neighbour is half as far
away, except at the least exponent. -/
def interval (mantissa : Nat) (exponent : Int) : Interval :=
  let scale : Nat := Nat.pow 2 (exponent - 2).toNat
  let below := if mantissa = Nat.pow 2 52 ∧ exponent ≠ -1074 then 1 else 2
  { low := (4 * mantissa - below) * scale
    value := 4 * mantissa * scale
    high := (4 * mantissa + 2) * scale
    unit := Nat.pow 2 (2 - exponent).toNat
    closed := mantissa % 2 = 0 }

namespace Interval

/-- A point `c * 10 ^ k` as a numerator over the interval's denominator, both sides scaled by the
power of ten that a negative `k` asks for. -/
def scaled (I : Interval) (k : Int) (c : Nat) : Nat × Nat :=
  (c * Nat.pow 10 k.toNat * I.unit, Nat.pow 10 (-k).toNat)

/-- Whether `c * 10 ^ k` lies in the interval. -/
def contains (I : Interval) (k : Int) (c : Nat) : Bool :=
  let (p, s) := I.scaled k c
  if I.closed then I.low * s ≤ p && p ≤ I.high * s else I.low * s < p && p < I.high * s

/-- How far `c * 10 ^ k` is from the double, in a unit that depends on `k` alone. -/
def distance (I : Interval) (k : Int) (c : Nat) : Nat :=
  let (p, s) := I.scaled k c
  (p - I.value * s) + (I.value * s - p)

/-- The largest `c` with `c * 10 ^ k` at most the double. -/
def floorAt (I : Interval) (k : Int) : Nat :=
  I.value * Nat.pow 10 (-k).toNat / (I.unit * Nat.pow 10 k.toNat)

/-- The point of the grid `10 ^ k` in the interval that is nearest to the double, if any; of two
equally near the even one. -/
def pointAt? (I : Interval) (k : Int) : Option Nat :=
  let c := I.floorAt k
  let up := c + 1
  match I.contains k c, I.contains k up with
  | true, true =>
    if I.distance k c < I.distance k up then some c
    else if I.distance k up < I.distance k c then some up
    else if c % 2 = 0 then some c else some up
  | true, false => some c
  | false, true => some up
  | false, false => none

/-- The first grid, from `10 ^ k` downwards, with a point in the interval. -/
def search (I : Interval) : Nat → Int → Nat × Int
  | 0, k => (I.floorAt k, k)
  | n + 1, k =>
    match I.pointAt? k with
    | some 0 => search I n (k - 1)
    | some c => (c, k)
    | none => search I n (k - 1)

end Interval

/-- Digits and a power of ten without trailing zeros in the digits. -/
def stripZeros : Nat → Nat → Int → Nat × Int
  | 0, c, k => (c, k)
  | n + 1, c, k => if c ≠ 0 ∧ c % 10 = 0 then stripZeros n (c / 10) (k + 1) else (c, k)

/-- The digits and power of ten of the shortest decimal that reads back as
`mantissa * 2 ^ exponent`, for a positive mantissa. -/
def shortest (mantissa : Nat) (exponent : Int) : Nat × Int :=
  let I := interval mantissa exponent
  let top : Int := ((mantissa.log2 : Int) + exponent + 1) * 30103 / 100000 + 1
  let (c, k) := I.search 20 top
  stripZeros 20 c k

end CwlCompliance.Double
