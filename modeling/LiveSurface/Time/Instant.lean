import LiveSurface.Number.Double
import LiveSurface.Time.Date
/-!
# Instants

Points in time since 1 January 1970, to the microsecond. An instant that is given in milliseconds is first
turned into seconds as a double, so that its microseconds carry the rounding of that double.
-/
namespace LiveSurface

/-- A point in time: whole seconds since 1 January 1970 and microseconds. -/
structure Instant where
  seconds : Nat
  microseconds : Nat
deriving DecidableEq, Repr

/-- A year that a date cannot be written with. -/
structure FarYear where
  year : Nat
deriving DecidableEq, Repr

/-- The text of the refusal. -/
def FarYear.message (e : FarYear) : String := "year " ++ toString e.year ++ " is out of range"

namespace Instant

/-- The microseconds in a second. -/
def perSecond : Nat := 1000000

/-- The instant `num / den` seconds after the start, the fraction as a double of microseconds rounded to the
nearest integer. -/
def ofRatio (num den : Nat) : Instant :=
  match Double.ofRatio false (num % den * perSecond) den with
  | .finite _ m e =>
    let (n, d) := Double.ratio m e
    let micros := roundHalfEven n d
    if micros < perSecond then ⟨num / den, micros⟩ else ⟨num / den + 1, micros - perSecond⟩
  | _ => ⟨num / den, 0⟩

/-- The instant some milliseconds after the start. -/
def ofMilliseconds (ms : Nat) : Instant :=
  match Double.ofRatio false ms 1000 with
  | .finite _ m e =>
    let (n, d) := Double.ratio m e
    ofRatio n d
  | _ => ⟨ms / 1000, 0⟩

/-- The day of an instant. -/
def date (t : Instant) : Date := Date.ofDays (t.seconds / 86400)

/-- A number with at least so many digits. -/
def padded (width n : Nat) : String :=
  let digits := Nat.toDigits 10 n
  String.ofList (List.replicate (width - digits.length) '0' ++ digits)

/-- The text of an instant in universal time; microseconds are written unless they are zero. Years have four
digits. -/
def text (t : Instant) : Except FarYear String :=
  let date := t.date
  if 9999 < date.year then .error ⟨date.year⟩
  else
    let inDay := t.seconds % 86400
    let fraction := if t.microseconds = 0 then "" else "." ++ padded 6 t.microseconds
    .ok <| padded 4 date.year ++ "-" ++ padded 2 date.month ++ "-" ++ padded 2 date.day ++ "T" ++
      padded 2 (inDay / 3600) ++ ":" ++ padded 2 (inDay / 60 % 60) ++ ":" ++ padded 2 (inDay % 60) ++
      fraction ++ "+00:00"

end Instant

end LiveSurface
