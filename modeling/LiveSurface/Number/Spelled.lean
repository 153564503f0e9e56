import LiveSurface.Number.Basic
import LiveSurface.Number.Numeral
import LiveSurface.Text.Blank
import LiveSurface.Text.DecimalDigit
/-!
# Numbers spelled out in texts

A text may spell a number with decimal digits of any script, single underscores between digits, a sign and
white space around it. `Number.ofText?` reads a finite double with an optional fraction and exponent,
`Number.intOfText?` an integer.
-/
namespace LiveSurface

namespace Number

/-- A decimal digit of any script as one of `0` to `9`. -/
def plainDigit (c : Char) : Char :=
  match Text.digitValue? c with
  | some d => Nat.digitChar d
  | none => c

/-- The text without its underscores, if each stands between two digits; `afterDigit` tells whether a digit
was just read. -/
def dropUnderscores? (afterDigit : Bool) : List Char → Option (List Char)
  | [] => some []
  | '_' :: c :: rest =>
    if afterDigit ∧ Text.isAsciiDigit c then (c :: ·) <$> dropUnderscores? true rest else none
  | c :: rest => if c = '_' then none else (c :: ·) <$> dropUnderscores? (Text.isAsciiDigit c) rest

/-- Splits off a sign. -/
def splitSign : List Char → Bool × List Char
  | '-' :: rest => (true, rest)
  | '+' :: rest => (false, rest)
  | cs => (false, cs)

/-- Reads digits with an optional point and an optional exponent: at least one digit must stand before the
exponent, and one in it. -/
def parseDecimal? (cs : List Char) : Option Double :=
  let (negative, cs) := splitSign cs
  let whole := cs.takeWhile Text.isAsciiDigit
  let rest := cs.drop whole.length
  let (fraction, rest) := match rest with
    | '.' :: after =>
      let fraction := after.takeWhile Text.isAsciiDigit
      (fraction, after.drop fraction.length)
    | _ => ([], rest)
  let digits := Text.decimalValue (whole ++ fraction)
  let places : Int := fraction.length
  if whole = [] ∧ fraction = [] then none
  else
    match rest with
    | [] => some (Double.ofDecimal negative digits (-places))
    | e :: after =>
      let (down, exponent) := splitSign after
      if (e = 'e' ∨ e = 'E') ∧ exponent ≠ [] ∧ exponent.all Text.isAsciiDigit then
        let power : Int := Text.decimalValue exponent
        some (Double.ofDecimal negative digits ((if down then -power else power) - places))
      else none

/-- The finite double that a text spells out, blanks around it set aside. -/
def ofText? (s : String) : Option Number := do
  let cs ← dropUnderscores? false ((Text.stripChars s.toList).map plainDigit)
  let x ← parseDecimal? cs
  if x.isFinite then some (.double x) else none

/-- The integer that a text spells out, spaces around it set aside; it may not have too many digits. -/
def intOfText? (s : String) : Option Int := do
  let cs ← dropUnderscores? false ((Text.trimSpaces s.toList).map plainDigit)
  let (negative, digits) := splitSign cs
  if digits ≠ [] ∧ digits.all Text.isAsciiDigit ∧ digits.length ≤ maxDigits then
    let n : Int := Text.decimalValue digits
    some (if negative then -n else n)
  else none

end Number

end LiveSurface
