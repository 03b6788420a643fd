import Rulebook.Number.Shortest

/-!
# Dates and times of day

A moment is a day of the calendar, perhaps with a time of day, which may say how far its clock is
ahead of universal time.  Documents that are read may hold moments; rules only ever show them or
compare them.
-/

set_option autoImplicit false

namespace Rulebook

/-- A time of day; `offset` is in minutes ahead of universal time. -/
structure Clock where
  hour : Nat
  minute : Nat
  second : Nat
  microsecond : Nat
  offset : Option Int
deriving DecidableEq

/-- A day, perhaps with a time of day. -/
structure Moment where
  year : Nat
  month : Nat
  day : Nat
  clock : Option Clock
deriving DecidableEq

namespace Moment

/-- Whether a year has a 29th of February. -/
def isLeapYear (y : Nat) : Bool := y % 4 == 0 && (y % 100 != 0 || y % 400 == 0)

/-- The number of days of a month. -/
def daysInMonth (y m : Nat) : Nat :=
  if m = 2 then (if isLeapYear y then 29 else 28)
  else if m = 4 ∨ m = 6 ∨ m = 9 ∨ m = 11 then 30
  else 31

private def pad (width n : Nat) : String := String.ofList (Double.paddedNumeral width n)

/-- How far ahead of universal time, as hours and minutes. -/
def offsetText (minutes : Int) : String :=
  let n := minutes.natAbs
  (if minutes < 0 then "-" else "+") ++ pad 2 (n / 60) ++ ":" ++ pad 2 (n % 60)

/-- The text of a moment: day, blank, time, fraction of a second if any, offset if any. -/
def text (m : Moment) : String :=
  let day := pad 4 m.year ++ "-" ++ pad 2 m.month ++ "-" ++ pad 2 m.day
  match m.clock with
  | none => day
  | some c =>
    day ++ " " ++ pad 2 c.hour ++ ":" ++ pad 2 c.minute ++ ":" ++ pad 2 c.second ++
      (if c.microsecond = 0 then "" else "." ++ pad 6 c.microsecond) ++
      (match c.offset with | none => "" | some o => offsetText o)

/-- A time zone inside a quoted moment. -/
def zoneText (minutes : Int) : String :=
  if minutes = 0 then "datetime.timezone.utc"
  else
    let seconds := minutes * 60
    let days := Int.fdiv seconds 86400
    let rest := Int.fmod seconds 86400
    "datetime.timezone(datetime.timedelta(" ++
      (if days = 0 then "" else "days=" ++ toString days ++ ", ") ++
      "seconds=" ++ toString rest ++ "))"

/-- The form of a moment inside a composite value. -/
def quoted (m : Moment) : String :=
  let day := toString m.year ++ ", " ++ toString m.month ++ ", " ++ toString m.day
  match m.clock with
  | none => "datetime.date(" ++ day ++ ")"
  | some c =>
    "datetime.datetime(" ++ day ++ ", " ++ toString c.hour ++ ", " ++ toString c.minute ++
      (if c.second = 0 ∧ c.microsecond = 0 then "" else ", " ++ toString c.second) ++
      (if c.microsecond = 0 then "" else ", " ++ toString c.microsecond) ++
      (match c.offset with | none => "" | some o => ", tzinfo=" ++ zoneText o) ++ ")"

/-- Days since the first of January of the year 1. -/
def dayNumber (m : Moment) : Nat :=
  let y := m.year - 1
  let before := (List.range (m.month - 1)).foldl (fun n k ↦ n + daysInMonth m.year (k + 1)) 0
  y * 365 + y / 4 - y / 100 + y / 400 + before + m.day

/-- Microseconds since the first of January of the year 1, in universal time when the offset is
known. -/
def instant (m : Moment) : Int :=
  match m.clock with
  | none => (m.dayNumber * 86400000000 : Nat)
  | some c =>
    let local' := ((m.dayNumber * 24 + c.hour) * 60 + c.minute : Nat)
    let minutes := (local' : Int) - c.offset.getD 0
    minutes * 60000000 + ((c.second * 1000000 + c.microsecond : Nat) : Int)

/-- Whether two moments are the same.  A day is never a point in time, and a clock with a known
offset never agrees with one without. -/
def same (a b : Moment) : Bool :=
  match a.clock, b.clock with
  | none, none => a == b
  | some c, some d => c.offset.isSome == d.offset.isSome && a.instant == b.instant
  | _, _ => false

end Moment
end Rulebook
