import MarkerLint.Text.Ranges

/-!
# Calendar dates

Days of the Gregorian calendar, carried back to year 1, and their written form: four digits for the
year, two for the month and two for the day, with hyphens between them.
-/

namespace MarkerLint.Calendar

open Text

/-- A day. -/
structure Date where
  year : Nat
  month : Nat
  day : Nat
deriving DecidableEq, Repr

/-- The year has a 29th of February. -/
def isLeapYear (year : Nat) : Bool :=
  year % 4 == 0 && (year % 100 != 0 || year % 400 == 0)

/-- The number of days of a month; none of a month that does not exist. -/
def daysInMonth (year month : Nat) : Nat :=
  if month == 2 then if isLeapYear year then 29 else 28
  else if [4, 6, 9, 11].contains month then 30
  else if 1 ≤ month ∧ month ≤ 12 then 31
  else 0

/-- The day exists: years count from 1. -/
def Date.isDay (d : Date) : Bool :=
  decide (1 ≤ d.year) && decide (1 ≤ d.day) && decide (d.day ≤ daysInMonth d.year d.month)

/-- The first day comes before the second. -/
def Date.before (a b : Date) : Bool :=
  decide (a.year < b.year)
    || (a.year == b.year
      && (decide (a.month < b.month) || (a.month == b.month && decide (a.day < b.day))))

/-- The value of a digit. -/
def digitValue (c : Char) : Nat :=
  c.toNat - '0'.toNat

/-- The three numbers of a text in the written form of a date, whether or not there is such a day.
-/
def parts? : List Char → Option Date
  | [y1, y2, y3, y4, '-', m1, m2, '-', d1, d2] =>
      if [y1, y2, y3, y4, m1, m2, d1, d2].all isAsciiDigit then
        some
          { year := ((digitValue y1 * 10 + digitValue y2) * 10 + digitValue y3) * 10 + digitValue y4
            month := digitValue m1 * 10 + digitValue m2
            day := digitValue d1 * 10 + digitValue d2 }
      else none
  | _ => none

/-- The text has the written form of a date. -/
def hasDateForm (s : String) : Bool :=
  (parts? s.toList).isSome

/-- The day that a text names. -/
def date? (s : String) : Option Date :=
  (parts? s.toList).filter Date.isDay

end MarkerLint.Calendar
