import LiveSurface.Number.Double
/-!
# Numbers

A number is an integer of any size or a double; the two kinds stay apart.
-/
namespace LiveSurface

/-- An integer of any size or a double. -/
inductive Number
  | int (n : Int)
  | double (x : Double)
deriving DecidableEq, Repr

namespace Number

/-- Whether a number can be used as a finite double: a NaN, an infinity and an integer past the greatest
double cannot. -/
def isUsable : Number → Bool
  | .int n => (Double.ofInt n).isFinite
  | .double x => x.isFinite

/-- Half of a number as a double. -/
def half : Number → Double
  | .int n => Double.ofRatio (n < 0) n.natAbs 2
  | .double x => x.half

/-- The middle of two numbers. Two integers are added exactly; otherwise both are halved first, so that
no sum of finite numbers is infinite. A middle that is an integer is given as one, except for two integers
whose sum is odd. -/
def midpoint : Number → Number → Number
  | .int a, .int b =>
    let total := a + b
    if total % 2 = 0 then .int (total / 2) else .double (half (.int total))
  | a, b =>
    let middle := (half a).add (half b)
    match middle.toInt? with
    | some n => .int n
    | none => .double middle

end Number

end LiveSurface
