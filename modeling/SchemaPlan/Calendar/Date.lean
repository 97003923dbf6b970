import SchemaPlan.Text.Ascii

/-!
# Dates

The Gregorian calendar, continued without end into past and future. Days are
counted from the first day of the year 1, which is day 0; years before it
are 0, -1 and so on. The year of a day is found from the average length of
a year: that gives the right year or the one before it, so one comparison
with the start of the next year settles it.
-/

namespace SchemaPlan.Calendar

/-- The number of days before the first day of a year, counted from the
first day of the year 1. -/
def daysBeforeYear (year : Int) : Int :=
  365 * (year - 1) + (year - 1) / 4 - (year - 1) / 100 + (year - 1) / 400

/-- Whether a year has a 29 February. -/
def isLeapYear (year : Int) : Bool :=
  year % 4 == 0 && (year % 100 != 0 || year % 400 == 0)

/-- The year that a day is in. The estimate is the right year or the one before
it. -/
def yearOfDay (day : Int) : Int :=
  let year := 400 * day / 146097 + 1
  if daysBeforeYear (year + 1) ≤ day then year + 1 else year

/-- The lengths of the months of a year. -/
def monthLengths (year : Int) : List Nat :=
  [31, if isLeapYear year then 29 else 28, 31, 30, 31, 30, 31, 31, 30, 31, 30, 31]

/-- The month, counted from the given one, and the day of the month, from 1,
of a day that comes so many days after the start of the first of the
months. -/
def monthAndDay (month : Nat) : List Nat → Nat → Nat × Nat
  | [], days => (month, days + 1)
  | length :: later, days =>
    if days < length then (month, days + 1) else monthAndDay (month + 1) later (days - length)

/-- A date. It need not be one that exists; the one of a day does. -/
structure Date where
  /-- The year; 0 is the year before 1. -/
  year : Int
  /-- The month, from 1. -/
  month : Nat
  /-- The day of the month, from 1. -/
  day : Nat
deriving DecidableEq, Repr

/-- The date of a day. -/
def Date.ofDay (day : Int) : Date :=
  let year := yearOfDay day
  let (month, dayOfMonth) :=
    monthAndDay 1 (monthLengths year) (day - daysBeforeYear year).toNat
  ⟨year, month, dayOfMonth⟩

/-- A year in digits: four of them from 0 to 9999, and otherwise a sign and
at least four. -/
def yearText (year : Int) : String :=
  if year < 0 then "-" ++ Text.padded 4 year.natAbs
  else if 9999 < year then "+" ++ Text.padded 4 year.natAbs
  else Text.padded 4 year.natAbs

end SchemaPlan.Calendar
