set_option autoImplicit false

/-! # Dates and times of day

A clients file may hold a date, or a date with a time of day and perhaps an offset from UTC. The
constructors refuse what is not on the calendar. Two times with offsets are the same when they
name the same instant; the printed form is `2001-12-14 21:59:43.100000-05:00`, without fraction
and offset where they are absent. -/

namespace DeviceGrant

/-- A day of the calendar. -/
structure Date where
  year : Nat
  month : Nat
  day : Nat
deriving DecidableEq, Repr

/-- A day and a time of day, with the offset from UTC in minutes if there is one. -/
structure Timestamp where
  date : Date
  hour : Nat
  minute : Nat
  second : Nat
  microsecond : Nat
  offset : Option Int
deriving DecidableEq, Repr

/-- Whether February of a year has 29 days. -/
def isLeapYear (y : Nat) : Bool := y % 4 = 0 && (y % 100 ≠ 0 || y % 400 = 0)

/-- The number of days of a month. -/
def daysInMonth (y m : Nat) : Nat :=
  if m = 2 then (if isLeapYear y then 29 else 28)
  else if m = 4 || m = 6 || m = 9 || m = 11 then 30 else 31

namespace Date

/-- The date with the given parts, if the calendar has it. -/
def ofParts? (y m d : Nat) : Option Date :=
  if 1 ≤ y && y ≤ 9999 && 1 ≤ m && m ≤ 12 && 1 ≤ d && d ≤ daysInMonth y m then some ⟨y, m, d⟩
  else none

/-- The number of days from the first day of year 1. -/
def dayNumber (x : Date) : Nat :=
  let y := x.year - 1
  let before := (List.range (x.month - 1)).map fun m => daysInMonth x.year (m + 1)
  365 * y + y / 4 - y / 100 + y / 400 + before.foldl (· + ·) 0 + (x.day - 1)

end Date

/-- A whole number with zeros in front up to a width. -/
def paddedNumber (width n : Nat) : String :=
  let ds := toString n
  String.ofList (List.replicate (width - ds.length) '0') ++ ds

namespace Date

/-- A date as year, month and day with hyphens. -/
def toText (x : Date) : String :=
  paddedNumber 4 x.year ++ "-" ++ paddedNumber 2 x.month ++ "-" ++ paddedNumber 2 x.day

/-- A date as a constructor call, which is how a log line quotes it. -/
def toQuoted (x : Date) : String := s!"datetime.date({x.year}, {x.month}, {x.day})"

end Date

namespace Timestamp

/-- The timestamp with the given parts, if the calendar and the clock have it and the offset is
less than a day. -/
def ofParts? (date : Date) (h m s us : Nat) (offset : Option Int) : Option Timestamp :=
  let near : Bool := match offset with
    | none => true
    | some o => -1440 < o && o < 1440
  if h < 24 && m < 60 && s < 60 && us < 1000000 && near then some ⟨date, h, m, s, us, offset⟩
  else none

/-- Microseconds from the start of year 1, by the clock on the wall. -/
def wallMicroseconds (x : Timestamp) : Int :=
  (((x.date.dayNumber * 24 + x.hour) * 60 + x.minute) * 60 + x.second) * 1000000 + x.microsecond

/-- Whether two timestamps name the same instant; one with an offset never equals one without. -/
def sameInstant (x y : Timestamp) : Bool :=
  match x.offset, y.offset with
  | none, none => x.wallMicroseconds = y.wallMicroseconds
  | some a, some b =>
    x.wallMicroseconds - a * 60000000 = y.wallMicroseconds - b * 60000000
  | _, _ => false

/-- An offset as sign, hours and minutes. -/
def offsetText (minutes : Int) : String :=
  let n := minutes.natAbs
  (if minutes < 0 then "-" else "+") ++ paddedNumber 2 (n / 60) ++ ":" ++ paddedNumber 2 (n % 60)

/-- A timestamp as date, time of day, fraction if any and offset if any. -/
def toText (x : Timestamp) : String :=
  x.date.toText ++ " " ++ paddedNumber 2 x.hour ++ ":" ++ paddedNumber 2 x.minute ++ ":" ++
    paddedNumber 2 x.second ++
    (if x.microsecond = 0 then "" else "." ++ paddedNumber 6 x.microsecond) ++
    (match x.offset with
    | none => ""
    | some o => offsetText o)

/-- An offset as a constructor call: whole days, then the seconds above them. -/
def offsetQuoted (minutes : Int) : String :=
  if minutes = 0 then "datetime.timezone.utc"
  else
    let days := minutes / 1440
    let seconds := minutes % 1440 * 60
    let parts := (if days = 0 then [] else [s!"days={days}"]) ++
      (if seconds = 0 then [] else [s!"seconds={seconds}"])
    "datetime.timezone(datetime.timedelta(" ++ String.intercalate ", " parts ++ "))"

/-- A timestamp as a constructor call, which is how a log line quotes it. -/
def toQuoted (x : Timestamp) : String :=
  let base := [x.date.year, x.date.month, x.date.day, x.hour, x.minute]
  let parts := base ++
    (if x.microsecond ≠ 0 then [x.second, x.microsecond]
      else if x.second ≠ 0 then [x.second] else [])
  "datetime.datetime(" ++ String.intercalate ", " (parts.map toString) ++
    (match x.offset with
    | none => ""
    | some o => ", tzinfo=" ++ offsetQuoted o) ++ ")"

end Timestamp

end DeviceGrant
