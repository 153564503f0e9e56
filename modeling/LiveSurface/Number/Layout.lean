import LiveSurface.Number.Shortest
/-!
# Writing doubles

A `NumberLayout` records the decisions of an output format on how a double is written; `Double.write`
applies them to the fewest digits that identify the double.
-/
namespace LiveSurface

/-- How a format writes doubles. -/
structure NumberLayout where
  /-- The least and the greatest decimal exponent that is written positionally. -/
  least : Int
  greatest : Int
  /-- Whether a positive exponent has a plus sign. -/
  plus : Bool
  /-- The least number of digits of a written exponent. -/
  exponentDigits : Nat
  /-- The texts of a NaN and of the infinities. -/
  nan : String
  infinity : String
  negativeInfinity : String
deriving Repr

namespace Double

/-- The digits of a natural number, `0` for zero. -/
def digitChars (n : Nat) : List Char := (Nat.toDigits 10 n)

theorem exists_digit_of_mem_digitChars {n : Nat} {c : Char} (h : c ∈ digitChars n) :
    ∃ m < 10, c = Nat.digitChar m := by
  induction n using Nat.strongRecOn with
  | ind n ih =>
    by_cases hn : n < 10
    · rw [digitChars, Nat.toDigits_of_lt_base hn, List.mem_singleton] at h
      exact ⟨n, hn, h⟩
    · rw [digitChars, Nat.toDigits_of_base_le (by decide) (Nat.le_of_not_lt hn), List.mem_append,
        List.mem_singleton] at h
      rcases h with h | h
      · exact ih (n / 10) (by omega) h
      · exact ⟨n % 10, by omega, h⟩

/-- Zeros. -/
def zeros (n : Nat) : List Char := List.replicate n '0'

/-- The digits with the decimal point after the first `whole` of them. -/
def withPoint (digits : List Char) (whole : Int) : List Char :=
  if whole ≤ 0 then '0' :: '.' :: (zeros (-whole).toNat ++ digits)
  else if whole.toNat < digits.length then
    digits.take whole.toNat ++ '.' :: digits.drop whole.toNat
  else digits ++ zeros (whole.toNat - digits.length) ++ ['.', '0']

/-- The written exponent. -/
def exponentChars (layout : NumberLayout) (exponent : Int) : List Char :=
  let digits := digitChars exponent.natAbs
  let sign := if exponent < 0 then ['-'] else if layout.plus then ['+'] else []
  sign ++ zeros (layout.exponentDigits - digits.length) ++ digits

/-- A non-negative decimal in a layout. -/
def Decimal.write (layout : NumberLayout) (d : Decimal) : List Char :=
  let digits := digitChars d.digits
  let exponent : Int := if d.digits = 0 then 0 else d.power + digits.length - 1
  if layout.least ≤ exponent ∧ exponent ≤ layout.greatest then withPoint digits (exponent + 1)
  else
    let mantissa := match digits with
      | [c] => [c]
      | c :: rest => c :: '.' :: rest
      | [] => []
    mantissa ++ 'e' :: exponentChars layout exponent

/-- The text of a double in a layout. -/
def write (layout : NumberLayout) : Double → String
  | .nan => layout.nan
  | .infinite negative => if negative then layout.negativeInfinity else layout.infinity
  | .finite negative m e =>
    let text := (shortest m e).write layout
    String.ofList (if negative then '-' :: text else text)

end Double

end LiveSurface
