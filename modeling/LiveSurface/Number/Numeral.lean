import LiveSurface.Number.Power
/-!
# Long numerals

Integers and their decimal digits are turned into each other only up to a number of digits.
-/
namespace LiveSurface

/-- The greatest number of decimal digits that an integer is read from or written with. -/
def maxDigits : Nat := 4300

/-- What is too long to be turned from digits into an integer or back. -/
inductive LongNumeral
  /-- A numeral of so many digits. -/
  | text (digits : Nat)
  /-- An integer. -/
  | integer
deriving DecidableEq, Repr

/-- The text of the refusal. -/
def LongNumeral.message (e : LongNumeral) : String :=
  let size := match e with
    | .text digits => ": value has " ++ toString digits ++ " digits"
    | .integer => ""
  "Exceeds the limit (" ++ toString maxDigits ++ " digits) for integer string conversion" ++ size ++
    "; use sys.set_int_max_str_digits() to increase the limit"

/-- Whether an integer can be written with decimal digits. -/
def isWritableInt (n : Int) : Bool := n.natAbs < pow10 maxDigits

end LiveSurface
