import FormCheck.Text.Numeral

/-!
# The calendar

* `isLeapYear`, `daysInMonth` — the Gregorian calendar, carried back to the year one;
* `dayNumber`, `weekdayOf` — the number of a day counted from the first day of the year one, and its day of
  the week counted from Monday;
* `isDate` — a day of the years 1 to 9999;
* `isIsoDate` — a text of the form `YYYY-MM-DD` in digits of ASCII that names such a day.
-/

namespace FormCheck.Moment

open FormCheck.Text

/-- A leap year: divisible by four, but by a hundred only together with four hundred. -/
def isLeapYear (year : Nat) : Bool :=
  year % 4 = 0 && (year % 100 ≠ 0 || year % 400 = 0)

/-- The number of days of a month; zero for what is no month. -/
def daysInMonth (year month : Nat) : Nat :=
  match month with
  | 1 | 3 | 5 | 7 | 8 | 10 | 12 => 31
  | 4 | 6 | 9 | 11 => 30
  | 2 => if isLeapYear year then 29 else 28
  | _ => 0

/-- The last year of the calendar. -/
def lastYear : Nat := 9999

/-- A day of the calendar. -/
def isDate (year month day : Nat) : Bool :=
  1 ≤ year && year ≤ lastYear && 1 ≤ day && day ≤ daysInMonth year month

/-- The number of days before a year. -/
def daysBeforeYear (year : Nat) : Nat :=
  let y := year - 1
  365 * y + y / 4 - y / 100 + y / 400

/-- The number of days of a year before a month. -/
def daysBeforeMonth (year month : Nat) : Nat :=
  (List.range (month - 1)).foldl (fun days m => days + daysInMonth year (m + 1)) 0

/-- The number of a day, the first day of the year one having number one. -/
def dayNumber (year month day : Nat) : Nat :=
  daysBeforeYear year + daysBeforeMonth year month + day

/-- The day of the week, Monday being zero. -/
def weekdayOf (year month day : Nat) : Nat :=
  (dayNumber year month day + 6) % 7

/-- The value of digits of ASCII, if all of them are. -/
def asciiNumber? (cs : List Char) : Option Nat :=
  if cs.all Char.isDigit then some (decimalValue cs) else none

/-- A text of the form `YYYY-MM-DD` that names a day. -/
def isIsoDate (cs : List Char) : Bool :=
  match cs with
  | [y1, y2, y3, y4, s1, m1, m2, s2, d1, d2] =>
    s1 == '-' && s2 == '-' &&
      match asciiNumber? [y1, y2, y3, y4], asciiNumber? [m1, m2], asciiNumber? [d1, d2] with
      | some year, some month, some day => isDate year month day
      | _, _, _ => false
  | _ => false

end FormCheck.Moment
