import LiveSurface.Time.Date
import Mathlib.Logic.Function.Iterate
import Mathlib.Order.Monotone.Basic
import Mathlib.Tactic.IntervalCases
/-!
# Counting days

The calendar as it is counted: a month has its number of days, a year its twelve months, and every fourth year has a
leap day except for the centuries that 400 does not divide. The formulas that find the date of a day agree with counting
the days one by one from 1 January 1970.

Results:
* `Date.next_ofYearDay`, `Date.next_ofYearDay_last`: the day after a day of a year that starts in March.
* `Date.ofDays_eq_iterate`: the date of a day is so many days after the first one.
* `Date.year_ofDays_le_iff`: the last day of the year 9999.
-/
namespace LiveSurface

namespace Date

/-! ## The calendar -/

/-- Whether a year has a leap day. -/
def isLeap (year : Nat) : Bool := year % 4 = 0 && (year % 100 ≠ 0 || year % 400 = 0)

/-- The days of a month. -/
def monthDays (year month : Nat) : Nat :=
  if month = 2 then if isLeap year then 29 else 28
  else if month = 4 ∨ month = 6 ∨ month = 9 ∨ month = 11 then 30
  else 31

/-- The day after a day. -/
def next (d : Date) : Date :=
  if d.day < monthDays d.year d.month then { d with day := d.day + 1 }
  else if d.month < 12 then { d with month := d.month + 1, day := 1 }
  else { year := d.year + 1, month := 1, day := 1 }

/-- The first day that is counted. -/
def origin : Date := ⟨1970, 1, 1⟩

/-! ## Years that start in March -/

/-- The month of the calendar that a month counted from March is. -/
def civilMonth (month : Nat) : Nat := if month < 10 then month + 3 else month - 9

/-- The date of a day of a year that starts in March. -/
def ofYearDay (year day : Nat) : Date where
  year := year + if monthOfYear day < 10 then 0 else 1
  month := civilMonth (monthOfYear day)
  day := day - monthStart (monthOfYear day) + 1

/-- The days of a year that starts in March; its February is that of the next year of the calendar. -/
def yearDays (year : Nat) : Nat := if isLeap (year + 1) then 366 else 365

variable {year day month era days : Nat}

theorem monthOfYear_eq_iff : monthOfYear day = month ↔ monthStart month ≤ day ∧ day < monthStart (month + 1) := by
  unfold monthOfYear monthStart
  omega

theorem monthStart_lt_succ (month : Nat) : monthStart month < monthStart (month + 1) := by
  unfold monthStart
  omega

theorem monthOfYear_monthStart (month : Nat) : monthOfYear (monthStart month) = month :=
  monthOfYear_eq_iff.2 ⟨le_rfl, monthStart_lt_succ month⟩

theorem yearDays_le (year : Nat) : 365 ≤ yearDays year ∧ yearDays year ≤ 366 := by
  unfold yearDays
  split <;> omega

/-- A month ends where the next one starts; only the length of the last one, February, depends on the year. -/
theorem monthDays_civilMonth (year : Nat) (hmonth : month < 11) :
    monthDays year (civilMonth month) = monthStart (month + 1) - monthStart month := by
  interval_cases month <;> rfl

theorem monthDays_february (year : Nat) : monthDays (year + 1) (civilMonth 11) = yearDays year - monthStart 11 := by
  unfold monthDays yearDays
  simp only [show civilMonth 11 = 2 from rfl, ↓reduceIte]
  split <;> rfl

/-- The month after a month: the year of the calendar changes within the year that starts in March. -/
theorem month_succ (year : Nat) (hmonth : month < 11) :
    (if civilMonth month < 12 then
        { year := year + if month < 10 then 0 else 1, month := civilMonth month + 1, day := 1 }
      else { year := (year + if month < 10 then 0 else 1) + 1, month := 1, day := 1 } : Date) =
    { year := year + if month + 1 < 10 then 0 else 1, month := civilMonth (month + 1), day := 1 } := by
  interval_cases month <;> rfl

/-- The day after a day that is not the last one of a year. -/
theorem next_ofYearDay (hday : day + 1 < yearDays year) : next (ofYearDay year day) = ofYearDay year (day + 1) := by
  obtain ⟨hstart, hend⟩ := monthOfYear_eq_iff.1 (rfl : monthOfYear day = monthOfYear day)
  have hyear := yearDays_le year
  have hlast : monthOfYear day ≤ 11 := by unfold monthOfYear; omega
  by_cases hsame : day + 1 < monthStart (monthOfYear day + 1)
  · -- The month goes on.
    have hmonth : monthOfYear (day + 1) = monthOfYear day := monthOfYear_eq_iff.2 ⟨by omega, hsame⟩
    have hfits : (ofYearDay year day).day < monthDays (ofYearDay year day).year (ofYearDay year day).month := by
      rcases Nat.lt_or_eq_of_le hlast with hlt | heq
      · show day - monthStart (monthOfYear day) + 1 < monthDays _ (civilMonth (monthOfYear day))
        rw [monthDays_civilMonth _ hlt]
        omega
      · show day - monthStart (monthOfYear day) + 1 <
          monthDays (year + if monthOfYear day < 10 then 0 else 1) (civilMonth (monthOfYear day))
        rw [heq, if_neg (by omega), monthDays_february, ← heq]
        omega
    unfold next
    rw [if_pos hfits]
    simp only [ofYearDay, hmonth, Date.mk.injEq, true_and]
    omega
  · -- The next month starts, and it is one of the same year.
    have hnext : day + 1 = monthStart (monthOfYear day + 1) := by omega
    have hlt : monthOfYear day < 11 := by
      rcases Nat.lt_or_eq_of_le hlast with hlt | heq
      · exact hlt
      · rw [heq, show monthStart (11 + 1) = 367 from rfl] at hnext
        omega
    have hmonth : monthOfYear (day + 1) = monthOfYear day + 1 := by rw [hnext, monthOfYear_monthStart]
    have hfull : ¬(ofYearDay year day).day < monthDays (ofYearDay year day).year (ofYearDay year day).month := by
      show ¬day - monthStart (monthOfYear day) + 1 < monthDays _ (civilMonth (monthOfYear day))
      rw [monthDays_civilMonth _ hlt]
      omega
    unfold next
    rw [if_neg hfull]
    simp only [ofYearDay, hmonth, ← hnext, Nat.sub_self]
    exact month_succ year hlt

/-- The day after the last one of a year, which is the last one of February. -/
theorem next_ofYearDay_last (hday : day + 1 = yearDays year) : next (ofYearDay year day) = ofYearDay (year + 1) 0 := by
  have hyear := yearDays_le year
  have hmonth : monthOfYear day = 11 := monthOfYear_eq_iff.2 (by simp only [monthStart]; omega)
  have hfull : ¬(ofYearDay year day).day < monthDays (ofYearDay year day).year (ofYearDay year day).month := by
    show ¬day - monthStart (monthOfYear day) + 1 <
      monthDays (year + if monthOfYear day < 10 then 0 else 1) (civilMonth (monthOfYear day))
    rw [hmonth, if_neg (by omega), monthDays_february]
    omega
  unfold next
  rw [if_neg hfull]
  simp only [ofYearDay, hmonth]
  rfl

/-! ## Years of an era -/

theorem isLeap_add_era (era year : Nat) : isLeap (era * 400 + year) = isLeap year := by
  unfold isLeap
  have h4 : (era * 400 + year) % 4 = year % 4 := by omega
  have h100 : (era * 400 + year) % 100 = year % 100 := by omega
  have h400 : (era * 400 + year) % 400 = year % 400 := by omega
  rw [h4, h100, h400]

theorem yearDays_add_era (era year : Nat) : yearDays (era * 400 + year) = yearDays year := by
  unfold yearDays
  rw [Nat.add_assoc, isLeap_add_era]

theorem isLeap_iff : isLeap year = true ↔ year % 4 = 0 ∧ (year % 100 ≠ 0 ∨ year % 400 = 0) := by
  simp [isLeap]

theorem yearStart_succ (hyear : year + 1 < 400) : yearStart (year + 1) = yearStart year + yearDays year := by
  unfold yearDays yearStart
  split
  · next hleap =>
    have := isLeap_iff.mp hleap
    omega
  · next hplain =>
    rw [isLeap_iff] at hplain
    omega

theorem yearOfEra_yearStart_add (hyear : year < 400) (hday : day < yearDays year) :
    yearOfEra (yearStart year + day) = year := by
  have hlen := yearDays_le year
  -- The century of the era, the block of four years in it and the year in that.
  obtain ⟨c, f, g, hc, hf, hg, rfl⟩ : ∃ c f g, c < 4 ∧ f < 25 ∧ g < 4 ∧ year = 100 * c + 4 * f + g :=
    ⟨year / 100, year % 100 / 4, year % 4, by omega, by omega, by omega, by omega⟩
  have hstart : yearStart (100 * c + 4 * f + g) = 36524 * c + 1461 * f + 365 * g := by
    unfold yearStart
    omega
  have hlast : day = 365 → g = 3 ∧ (f ≠ 24 ∨ c = 3) := by
    intro hday'
    have hleap : isLeap (100 * c + 4 * f + g + 1) = true := by
      by_contra hplain
      rw [yearDays, if_neg hplain] at hday
      omega
    rw [isLeap_iff] at hleap
    omega
  rw [hstart]
  unfold yearOfEra
  by_cases hend : c = 3 ∧ f = 24 ∧ g = 3 ∧ day = 365
  · obtain ⟨rfl, rfl, rfl, rfl⟩ := hend
    rfl
  have hera : (36524 * c + 1461 * f + 365 * g + day) / 146096 = 0 := by omega
  have hcentury : (36524 * c + 1461 * f + 365 * g + day) / 36524 = c := by omega
  by_cases hlate : 24 * c + f + 365 * g + day < 1460
  · have hfour : (36524 * c + 1461 * f + 365 * g + day) / 1460 = 25 * c + f := by omega
    rw [hera, hcentury, hfour]
    omega
  · have hfour : (36524 * c + 1461 * f + 365 * g + day) / 1460 = 25 * c + f + 1 := by omega
    rw [hera, hcentury, hfour]
    omega

/-- An era has as many days as its years have together. -/
theorem yearStart_add_lt (hyear : year < 400) (hday : day < yearDays year) : yearStart year + day < eraDays := by
  have hlen := yearDays_le year
  unfold yearStart eraDays
  omega

/-! ## Counting -/

/-- A day is the day of a year of an era. -/
structure Falls (days era year day : Nat) : Prop where
  year_lt : year < 400
  day_lt : day < yearDays year
  count : days + epoch = eraDays * era + (yearStart year + day)

theorem Falls.ofDays_eq (h : Falls days era year day) : ofDays days = ofYearDay (era * 400 + year) day := by
  have hlt := yearStart_add_lt h.year_lt h.day_lt
  have hera : (days + epoch) / eraDays = era := by
    rw [h.count, Nat.mul_add_div (by decide), Nat.div_eq_of_lt hlt, Nat.add_zero]
  have hrest : (days + epoch) % eraDays = yearStart year + day := by
    rw [h.count, Nat.mul_add_mod, Nat.mod_eq_of_lt hlt]
  unfold ofDays
  simp only [hera, hrest, yearOfEra_yearStart_add h.year_lt h.day_lt, Nat.add_sub_cancel_left]
  rfl

/-- The day after a day is one of the same year, the first one of the next year or the first one of the next era. -/
theorem Falls.succ (h : Falls days era year day) :
    ∃ era' year' day', Falls (days + 1) era' year' day' ∧
      ofYearDay (era' * 400 + year') day' = next (ofYearDay (era * 400 + year) day) := by
  obtain ⟨hyear, hday, hcount⟩ := h
  by_cases hsame : day + 1 < yearDays year
  · refine ⟨era, year, day + 1, ⟨hyear, hsame, by omega⟩, ?_⟩
    rw [next_ofYearDay (by rwa [yearDays_add_era])]
  have hlast : day + 1 = yearDays year := by omega
  have hpos : 0 < yearDays (year + 1) := by have := yearDays_le (year + 1); omega
  have hnext : next (ofYearDay (era * 400 + year) day) = ofYearDay (era * 400 + year + 1) 0 :=
    next_ofYearDay_last (by rwa [yearDays_add_era])
  by_cases hend : year + 1 < 400
  · refine ⟨era, year + 1, 0, ⟨hend, hpos, ?_⟩, by rw [hnext, Nat.add_assoc]⟩
    rw [yearStart_succ hend]
    omega
  · obtain rfl : year = 399 := by omega
    refine ⟨era + 1, 0, 0, ⟨by decide, by decide, ?_⟩, by rw [hnext, Nat.add_mul]⟩
    rw [show yearDays 399 = 366 from rfl] at hlast
    rw [show yearStart 399 = 145731 from rfl] at hcount
    rw [show yearStart 0 = 0 from rfl]
    unfold eraDays at *
    omega

theorem exists_falls (days : Nat) :
    ∃ era year day, Falls days era year day ∧ ofYearDay (era * 400 + year) day = next^[days] origin := by
  induction days with
  | zero => exact ⟨4, 369, 306, ⟨by decide, by decide, by decide⟩, rfl⟩
  | succ days ih =>
    obtain ⟨era, year, day, hfalls, heq⟩ := ih
    obtain ⟨era', year', day', hfalls', heq'⟩ := hfalls.succ
    exact ⟨era', year', day', hfalls', by rw [heq', heq, Function.iterate_succ_apply']⟩

/-- The date of a day is found by counting the days one by one. -/
theorem ofDays_eq_iterate (days : Nat) : ofDays days = next^[days] origin := by
  obtain ⟨era, year, day, hfalls, heq⟩ := exists_falls days
  rw [hfalls.ofDays_eq, heq]

-- The leap day of a century that 400 divides.
example : ofDays 11016 = ⟨2000, 2, 29⟩ := by decide

/-! ## Far years -/

theorem year_le_next (d : Date) : d.year ≤ (next d).year := by
  unfold next
  split
  · exact le_rfl
  split
  · exact le_rfl
  · exact Nat.le_succ _

theorem monotone_year_ofDays : Monotone fun days => (ofDays days).year :=
  monotone_nat_of_le_succ fun days => by
    simp only [ofDays_eq_iterate, Function.iterate_succ_apply']
    exact year_le_next _

/-- The first day of the year 10000. -/
def farDay : Nat := 2932897

theorem year_ofDays_le_iff : (ofDays days).year ≤ 9999 ↔ days < farDay := by
  constructor
  · intro hyear
    by_contra hfar
    have hle : (ofDays farDay).year ≤ (ofDays days).year := monotone_year_ofDays (by omega)
    have : (ofDays farDay).year = 10000 := by decide
    omega
  · intro hnear
    have hle : (ofDays days).year ≤ (ofDays (farDay - 1)).year := monotone_year_ofDays (by omega)
    have : (ofDays (farDay - 1)).year = 9999 := by decide
    omega

end Date

end LiveSurface
