import LiveSurface.Number.Double
/-!
# The fewest digits of a double

A finite double stands for every real that rounds to it: the interval that reaches half-way to its two
neighbours, ends included exactly when the significand is even. `shortest` finds the coarsest power of ten
that has a multiple in that interval, and of the multiples the one nearest to the double.
-/
namespace LiveSurface.Double

/-- A decimal `digits · 10 ^ power`. -/
structure Decimal where
  digits : Nat
  power : Int
deriving DecidableEq, Repr

/-- The rounding interval of `m · 2 ^ e` in quarters of `2 ^ e`: its lower end, the double and its upper
end. Below a power of two the neighbour is only half as far. -/
def interval (m : Nat) (e : Int) : Nat × Nat × Nat :=
  if m = pow2 52 ∧ minExponent < e then (4 * m - 1, 4 * m, 4 * m + 2)
  else (4 * m - 2, 4 * m, 4 * m + 2)

/-- The multiple of `10 ^ power` in the rounding interval of `m · 2 ^ e` that is nearest to it, an even
multiple if two are equally near. -/
def multipleWithin? (m : Nat) (e power : Int) : Option Nat :=
  let (low, mid, high) := interval m e
  -- A multiple `d` and a number `x` of quarters compare as `d * step` and `x * unit`.
  let step := (if 0 ≤ power then pow10 power.toNat else 1) * (if e - 2 < 0 then pow2 (2 - e).toNat else 1)
  let unit := (if 0 ≤ e - 2 then pow2 (e - 2).toNat else 1) * (if power < 0 then pow10 (-power).toNat else 1)
  let inside (d : Nat) : Bool :=
    if m % 2 = 0 then low * unit ≤ d * step && d * step ≤ high * unit
    else low * unit < d * step && d * step < high * unit
  let below := mid * unit / step
  let rest := mid * unit % step
  let belowFirst : Bool := 2 * rest < step || (2 * rest == step && below % 2 == 0)
  let candidates := if belowFirst then [below, below + 1] else [below + 1, below]
  candidates.find? fun d => 0 < d && inside d

/-- A power of ten above the interval of `m · 2 ^ e`: the double lies below `2 ^ (log2 m + 1 + e)`, and
`30103 / 100000` exceeds the decimal logarithm of two. -/
def powerAbove (m : Nat) (e : Int) : Int :=
  (((m.log2 : Int) + 1 + e) * 30103).fdiv 100000 + 2

/-- Tries powers of ten from `power` downwards, `tries` of them. -/
def searchDown (m : Nat) (e : Int) : Nat → Int → Option Decimal
  | 0, _ => none
  | tries + 1, power =>
    match multipleWithin? m e power with
    | some d => some ⟨d, power⟩
    | none => searchDown m e tries (power - 1)

/-- All the digits of `m · 2 ^ e`. -/
def exactDecimal (m : Nat) (e : Int) : Decimal :=
  if 0 ≤ e then ⟨m * pow2 e.toNat, 0⟩ else ⟨m * Nat.pow 5 (-e).toNat, e⟩

/-- The decimal with the fewest digits that rounds to `m · 2 ^ e`, nearest to it among those. -/
def shortest (m : Nat) (e : Int) : Decimal :=
  if m = 0 then ⟨0, 0⟩
  else (searchDown m e 24 (powerAbove m e)).getD (exactDecimal m e)

end LiveSurface.Double
