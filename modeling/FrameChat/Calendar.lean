/-!
# Calendar times

Times are seconds since 1970-01-01 00:00, shown in UTC.  A time has a calendar
form only in the years -262143 to 262142; outside, there is nothing to show.
-/

namespace FrameChat

/-- Seconds since 1970-01-01 00:00 UTC, in 64 bits. -/
abbrev Seconds := Int64

/-- The parts of a time that are shown. -/
structure CalendarTime where
  /-- days since 1970-01-01 -/
  day : Int
  /-- month of the year, from 1 -/
  month : Nat
  /-- day of the month, from 1 -/
  dayOfMonth : Nat
  hour : Nat
  minute : Nat
  second : Nat
  deriving Repr, DecidableEq

namespace CalendarTime

/-- The first second that has a calendar form. -/
def earliest : Int := -8334601228800

/-- The last second that has a calendar form. -/
def latest : Int := 8210266876799

/--
Month and day of the month of a day counted from 1970-01-01, in the Gregorian
calendar: years are taken to begin in March, so that the leap day comes last.
-/
def monthAndDay (day : Int) : Nat × Nat :=
  let shifted := day + 719468
  let dayOfEra := (shifted % 146097).toNat
  let yearOfEra := (dayOfEra - dayOfEra / 1460 + dayOfEra / 36524 - dayOfEra / 146096) / 365
  let dayOfYear := dayOfEra - (365 * yearOfEra + yearOfEra / 4 - yearOfEra / 100)
  let marchMonth := (5 * dayOfYear + 2) / 153
  let dayOfMonth := dayOfYear - (153 * marchMonth + 2) / 5 + 1
  (if marchMonth < 10 then marchMonth + 3 else marchMonth - 9, dayOfMonth)

/-- The calendar form of a time, if it has one. -/
def of? (time : Seconds) : Option CalendarTime :=
  let seconds := time.toInt
  if earliest ≤ seconds ∧ seconds ≤ latest then
    let day := seconds / 86400
    let rest := (seconds % 86400).toNat
    let (month, dayOfMonth) := monthAndDay day
    some ⟨day, month, dayOfMonth, rest / 3600, rest / 60 % 60, rest % 60⟩
  else none

/-- Two digits, with a leading zero. -/
def twoDigits (number : Nat) : String :=
  if number < 10 then s!"0{number}" else toString number

/-- The time of day as `22:13`. -/
def hourMinute (time : CalendarTime) : String :=
  s!"{twoDigits time.hour}:{twoDigits time.minute}"

/-- The time of day as `22:13:20`. -/
def hourMinuteSecond (time : CalendarTime) : String :=
  s!"{time.hourMinute}:{twoDigits time.second}"

/-- Month, day and time of day as `11-14 22:13`. -/
def monthDayHourMinute (time : CalendarTime) : String :=
  s!"{twoDigits time.month}-{twoDigits time.dayOfMonth} {time.hourMinute}"

/-- Month and day as `1114`. -/
def monthDay (time : CalendarTime) : String :=
  twoDigits time.month ++ twoDigits time.dayOfMonth

end CalendarTime

/-- Show a time in a given form; a time without calendar form shows as nothing. -/
def Seconds.shown (form : CalendarTime → String) (time : Seconds) : String :=
  ((CalendarTime.of? time).map form).getD ""

end FrameChat
