/-!
# Dates

The days of the Gregorian calendar, counted from 1 January 1970. Years are counted from March, so that the
leap day comes last, and in eras of 400 years, each of which has the same number of days.
-/
namespace LiveSurface

/-- A day of the calendar. -/
structure Date where
  year : Nat
  month : Nat
  day : Nat
deriving DecidableEq, Repr

namespace Date

/-- The days from 1 March of the year 0 to 1 January 1970. -/
def epoch : Nat := 719468

/-- The days of an era of 400 years. -/
def eraDays : Nat := 146097

/-- The year, counted from March, of a day of an era. -/
def yearOfEra (day : Nat) : Nat := (day - day / 1460 + day / 36524 - day / 146096) / 365

/-- The first day of a year of an era, counted from March. -/
def yearStart (year : Nat) : Nat := 365 * year + year / 4 - year / 100

/-- The month, counted from March, of a day of a year. -/
def monthOfYear (day : Nat) : Nat := (5 * day + 2) / 153

/-- The first day of a month, both counted from March. -/
def monthStart (month : Nat) : Nat := (153 * month + 2) / 5

/-- The date of a day, counted from 1 January 1970. -/
def ofDays (days : Nat) : Date :=
  let count := days + epoch
  let inEra := count % eraDays
  let year := yearOfEra inEra
  let inYear := inEra - yearStart year
  let month := monthOfYear inYear
  let early := month < 10
  { year := count / eraDays * 400 + year + if early then 0 else 1
    month := if early then month + 3 else month - 9
    day := inYear - monthStart month + 1 }

end Date

end LiveSurface
