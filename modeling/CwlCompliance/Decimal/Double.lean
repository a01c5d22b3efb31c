/-!
# Doubles as exact numbers

A double is held as a whole number of steps of a power of two, so that reading a decimal and
choosing the digits to print are exact calculations on naturals.

## Main definitions

* `Double` — a double: not a number, an infinity, or `mantissa * 2 ^ exponent` with a sign.
* `Double.ofRatio` — the double nearest to a quotient, a tie going to the even mantissa.
* `Double.ofDecimal` — the double nearest to a decimal numeral.
-/

namespace CwlCompliance

/-- A double.  A finite one is `mantissa * 2 ^ exponent`, with the mantissa below `2 ^ 53` and the
exponent at least `-1074`; the mantissa is below `2 ^ 52` only at the least exponent. -/
inductive Double where
  /-- Not a number. -/
  | nan
  /-- An infinity of either sign. -/
  | infinite (negative : Bool)
  /-- A finite number; zero has both signs. -/
  | finite (negative : Bool) (mantissa : Nat) (exponent : Int)
  deriving DecidableEq, Repr

namespace Double

/-- Numeric equality, under which the two zeros agree and not-a-number agrees with itself. -/
def same : Double → Double → Bool
  | .finite _ 0 _, .finite _ 0 _ => true
  | a, b => a = b

/-- The numerator and denominator of `num / den` counted in units of `2 ^ e`. -/
def inUnits (num den : Nat) (e : Int) : Nat × Nat :=
  if 0 ≤ e then (num, den * Nat.pow 2 e.toNat) else (num * Nat.pow 2 (-e).toNat, den)

/-- The quotient rounded to the nearest natural, a tie going to the even one. -/
def roundEven (num den : Nat) : Nat :=
  let q := num / den
  let r := num % den
  if 2 * r < den then q
  else if den < 2 * r then q + 1
  else if q % 2 = 0 then q else q + 1

/-- The double nearest to `num / den`, for a positive denominator. -/
def ofRatio (negative : Bool) (num den : Nat) : Double :=
  if num = 0 then .finite negative 0 (-1074)
  else
    let guess : Int := (num.log2 : Int) - (den.log2 : Int) - 53
    let e₀ := max guess (-1074)
    let (n₀, d₀) := inUnits num den e₀
    let e := if Nat.pow 2 53 ≤ n₀ / d₀ then e₀ + 1 else e₀
    let (n, d) := inUnits num den e
    let m := roundEven n d
    let (m, e) := if m = Nat.pow 2 53 then (Nat.pow 2 52, e + 1) else (m, e)
    if 971 < e then .infinite negative else .finite negative m e

/-- The double nearest to `digits * 10 ^ exponent`.  Magnitudes far outside the range of doubles
are settled without computing the power. -/
def ofDecimal (negative : Bool) (digits : Nat) (exponent : Int) : Double :=
  let magnitude : Int := ((Nat.toDigits 10 digits).length : Int) + exponent
  if digits = 0 then .finite negative 0 (-1074)
  else if 400 < magnitude then .infinite negative
  else if magnitude < -400 then .finite negative 0 (-1074)
  else if 0 ≤ exponent then ofRatio negative (digits * Nat.pow 10 exponent.toNat) 1
  else ofRatio negative digits (Nat.pow 10 (-exponent).toNat)

/-- Whether a double is an ordinary number. -/
def isFinite : Double → Bool
  | .finite .. => true
  | _ => false

end Double

end CwlCompliance
