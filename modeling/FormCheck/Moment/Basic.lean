import FormCheck.Fault
import FormCheck.Number.Digits
import FormCheck.Moment.Calendar

/-!
# Moments

* `Moment` — a day of the calendar with a time of day, and perhaps an offset from universal time;
* `Moment.isoText` — its text by ISO 8601;
* `Moment.atLeast` — the order of moments: by local time where only one of them has an offset, or where
  both have the same zone, and by universal time otherwise.
-/

namespace FormCheck

open FormCheck.Number

/-- The zone of a moment. -/
inductive Zone where
  /-- No zone is given. -/
  | none
  | universal
  /-- An offset from universal time in seconds, with the name it was given. -/
  | offset (name : Option String) (seconds : Int)
deriving DecidableEq, Repr

/-- A moment. -/
structure Moment where
  year : Nat
  month : Nat
  day : Nat
  hour : Nat
  minute : Nat
  second : Nat
  microsecond : Nat
  zone : Zone
deriving DecidableEq, Repr

namespace Moment

/-- The number with zeros before it up to a width. -/
def padded (width n : Nat) : List Char :=
  let digits := natDigits n
  List.replicate (width - digits.length) '0' ++ digits

/-- Seconds in a day. -/
def daySeconds : Nat := 86400

/-- The offset from universal time in seconds; it has to be less than a day. -/
def offset? (m : Moment) : Except Fault (Option Int) :=
  match m.zone with
  | .none => .ok none
  | .universal => .ok (some 0)
  | .offset _ seconds =>
    if seconds.natAbs < daySeconds then .ok (some seconds) else .error .offsetOutOfRange

/-- The text of an offset: its sign, hours and minutes. -/
def offsetChars (seconds : Int) : List Char :=
  let minutes := seconds.natAbs / 60
  (if seconds < 0 then '-' else '+') :: (padded 2 (minutes / 60) ++ ':' :: padded 2 (minutes % 60))

/-- The text of a moment by ISO 8601. -/
def isoText (m : Moment) : Except Fault String := do
  let offset ← m.offset?
  let date := padded 4 m.year ++ '-' :: padded 2 m.month ++ '-' :: padded 2 m.day
  let time := padded 2 m.hour ++ ':' :: padded 2 m.minute ++ ':' :: padded 2 m.second
  let fraction := if m.microsecond = 0 then [] else '.' :: padded 6 m.microsecond
  let zone := match offset with
    | some seconds => offsetChars seconds
    | none => []
  return String.ofList (date ++ 'T' :: time ++ fraction ++ zone)

/-- The local time in microseconds, counted from before the first day of the year one. -/
def localTime (m : Moment) : Nat :=
  (((dayNumber m.year m.month m.day * 24 + m.hour) * 60 + m.minute) * 60 + m.second) * 1000000
    + m.microsecond

/-- The moment is the other one or comes after it. -/
def atLeast (m n : Moment) : Except Fault Bool := do
  if m.zone = .none || n.zone = .none || m.zone = n.zone then return n.localTime ≤ m.localTime
  let a ← m.offset?
  let b ← n.offset?
  let universal (x : Moment) (seconds : Option Int) : Int :=
    x.localTime - seconds.getD 0 * 1000000
  return universal n b ≤ universal m a

end Moment

end FormCheck
