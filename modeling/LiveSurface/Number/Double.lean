import LiveSurface.Number.Power
/-!
# Double-precision numbers

A `Double` is a binary floating-point number with a 53-bit significand. A finite one is
`± significand · 2 ^ exponent`; results of `ofRatio` are in the one form with `-1074 ≤ exponent ≤ 971` and a
significand below `2 ^ 53` that is at least `2 ^ 52` unless the exponent is `-1074`. All arithmetic goes
through exact ratios of naturals and one rounding, `ofRatio`.
-/
namespace LiveSurface

/-- A binary floating-point number of double precision. -/
inductive Double
  | nan
  | infinite (negative : Bool)
  | finite (negative : Bool) (significand : Nat) (exponent : Int)
deriving DecidableEq, Repr

/-- The integer nearest to `num / den`; a half goes to the even neighbour. -/
def roundHalfEven (num den : Nat) : Nat :=
  let q := num / den
  let twice := 2 * (num % den)
  if twice < den then q
  else if den < twice then q + 1
  else if q % 2 = 0 then q
  else q + 1

namespace Double

/-- The least exponent of a double. -/
def minExponent : Int := -1074

/-- The greatest exponent of a finite double. -/
def maxExponent : Int := 971

/-- The ratio `num / (den · 2 ^ e)` as numerator and denominator. -/
def scaled (num den : Nat) (e : Int) : Nat × Nat :=
  if 0 ≤ e then (num, den * pow2 e.toNat) else (num * pow2 (-e).toNat, den)

/-- Zero with a sign. -/
def zero (negative : Bool) : Double := .finite negative 0 minExponent

/-- The double nearest to `± num / den`; a half goes to the even significand, and what rounds past the
greatest double is infinite. -/
def ofRatio (negative : Bool) (num den : Nat) : Double :=
  if num = 0 ∨ den = 0 then zero negative
  else
    let coarse : Int := max minExponent ((num.log2 : Int) - den.log2 - 53)
    let (n, d) := scaled num den coarse
    let e := if n / d < pow2 53 then coarse else coarse + 1
    let (n, d) := scaled num den e
    let m := roundHalfEven n d
    let (m, e) := if m < pow2 53 then (m, e) else (pow2 52, e + 1)
    if e ≤ maxExponent then .finite negative m e else .infinite negative

/-- The double nearest to an integer. -/
def ofInt (n : Int) : Double := ofRatio (n < 0) n.natAbs 1

/-- The double nearest to `± digits · 10 ^ power`. -/
def ofDecimal (negative : Bool) (digits : Nat) (power : Int) : Double :=
  -- With `k` bits, `digits` lies below `10 ^ k` and, unless zero, not below one.
  if digits = 0 then zero negative
  else if 310 < power then .infinite negative
  else if power + (digits.log2 + 1) < -400 then zero negative
  else if 0 ≤ power then ofRatio negative (digits * pow10 power.toNat) 1
  else ofRatio negative digits (pow10 (-power).toNat)

/-- Whether a double is neither infinite nor a NaN. -/
def isFinite : Double → Bool
  | .finite .. => true
  | _ => false

/-- The ratio of naturals that `significand · 2 ^ exponent` is. -/
def ratio (significand : Nat) (exponent : Int) : Nat × Nat :=
  if 0 ≤ exponent then (significand * pow2 exponent.toNat, 1) else (significand, pow2 (-exponent).toNat)

/-- The integer that a double is, if it is one. -/
def toInt? : Double → Option Int
  | .finite negative m e =>
    let (n, d) := ratio m e
    if n % d = 0 then some (if negative then -((n / d : Nat) : Int) else ((n / d : Nat) : Int)) else none
  | _ => none

/-- Half of a double, rounded. -/
def half : Double → Double
  | .finite negative m e => let (n, d) := ratio m e; ofRatio negative n (2 * d)
  | x => x

/-- The sum of two doubles, rounded. An exact zero is negative only as the sum of negative zeros. -/
def add : Double → Double → Double
  | .finite s m e, .finite t k f =>
    let (a, b) := ratio m e
    let (c, d) := ratio k f
    let left : Int := if s then -((a * d : Nat) : Int) else ((a * d : Nat) : Int)
    let right : Int := if t then -((c * b : Nat) : Int) else ((c * b : Nat) : Int)
    let sum := left + right
    if sum = 0 then zero (s && t) else ofRatio (sum < 0) sum.natAbs (b * d)
  | .nan, _ => .nan
  | _, .nan => .nan
  | .infinite s, .infinite t => if s = t then .infinite s else .nan
  | .infinite s, _ => .infinite s
  | _, .infinite t => .infinite t

end Double

end LiveSurface
