/-!
# Dates and times

Calendar dates, times of day and their combination, with an optional offset from universal time.
Reading a date checks it against the calendar: the years 1 to 9999, the months, the days of the
month with leap years.
-/

namespace BuildPilot.Document

/-- A number in at least `width` digits. -/
def padded (width n : Nat) : String :=
  let s := toString n
  String.ofList (List.replicate (width - s.length) '0') ++ s

/-- A calendar date. -/
structure Date where
  year : Nat
  month : Nat
  day : Nat
deriving DecidableEq, Repr

/-- A time of day to the microsecond, with an optional offset from universal time in seconds. -/
structure Time where
  hour : Nat
  minute : Nat
  second : Nat
  micro : Nat
  offset : Option Int
deriving DecidableEq, Repr

/-- A date with a time of day. -/
structure DateTime where
  date : Date
  time : Time
deriving DecidableEq, Repr

/-- Whether a year has a 29th of February. -/
def isLeapYear (y : Nat) : Bool := y % 4 == 0 && (y % 100 != 0 || y % 400 == 0)

/-- The number of days in a month. -/
def daysInMonth (y m : Nat) : Nat :=
  if m == 2 then (if isLeapYear y then 29 else 28)
  else if m == 4 || m == 6 || m == 9 || m == 11 then 30
  else 31

/-- The date of a year, month and day, if the calendar has it. -/
def Date.of? (y m d : Nat) : Option Date :=
  if 1 ≤ y ∧ y ≤ 9999 ∧ 1 ≤ m ∧ m ≤ 12 ∧ 1 ≤ d ∧ d ≤ daysInMonth y m then some ⟨y, m, d⟩ else none

/-- The time of day of an hour, minute, second and microsecond, if the clock shows it. -/
def Time.of? (h m s micro : Nat) (offset : Option Int) : Option Time :=
  if h < 24 ∧ m < 60 ∧ s < 60 ∧ micro < 1000000 then some ⟨h, m, s, micro, offset⟩ else none

/-- The number of days before a date, counted from the first day of the year 1. -/
def Date.ordinal (d : Date) : Nat :=
  let y := d.year - 1
  y * 365 + y / 4 - y / 100 + y / 400
    + (List.range (d.month - 1)).foldl (fun n m => n + daysInMonth d.year (m + 1)) 0 + (d.day - 1)

/-- The microseconds of a time of day since midnight of universal time. -/
def Time.microseconds (t : Time) : Int :=
  (((t.hour * 60 + t.minute) * 60 + t.second : Nat) - t.offset.getD 0) * 1000000 + t.micro

/-- The microseconds from the first day of the year 1 to a moment, its offset subtracted. -/
def DateTime.microseconds (t : DateTime) : Int :=
  t.date.ordinal * 86400000000 + t.time.microseconds

/-- An offset as sign, hours, minutes and, if needed, seconds. -/
def offsetText (o : Int) : String :=
  let n := o.natAbs
  let seconds := if n % 60 == 0 then "" else ":" ++ padded 2 (n % 60)
  (if o < 0 then "-" else "+") ++ padded 2 (n / 3600) ++ ":" ++ padded 2 (n / 60 % 60) ++ seconds

/-- A date as year, month and day. -/
def Date.text (d : Date) : String :=
  padded 4 d.year ++ "-" ++ padded 2 d.month ++ "-" ++ padded 2 d.day

/-- A time of day as hours, minutes, seconds and, if there are any, microseconds. -/
def Time.text (t : Time) : String :=
  padded 2 t.hour ++ ":" ++ padded 2 t.minute ++ ":" ++ padded 2 t.second
    ++ (if t.micro == 0 then "" else "." ++ padded 6 t.micro)
    ++ (t.offset.map offsetText).getD ""

/-- A date and time with the given character between them. -/
def DateTime.text (t : DateTime) (between : String) : String :=
  t.date.text ++ between ++ t.time.text

/-- An offset in the notation that names its parts. -/
def offsetNotation (o : Int) : String :=
  if o == 0 then "datetime.timezone.utc"
  else
    let days := o.fdiv 86400
    let seconds := o.fmod 86400
    let parts := (if days == 0 then [] else [s!"days={days}"])
      ++ (if seconds == 0 then [] else [s!"seconds={seconds}"])
    "datetime.timezone(datetime.timedelta(" ++ ", ".intercalate parts ++ "))"

/-- The fields of a time of day that the notation lists: seconds and microseconds only when they
are needed. -/
def Time.notationFields (t : Time) : List String :=
  [toString t.hour, toString t.minute]
    ++ (if t.second == 0 && t.micro == 0 then [] else [toString t.second])
    ++ (if t.micro == 0 then [] else [toString t.micro])

/-- The offset of a time of day in the notation. -/
def Time.offsetFields (t : Time) : List String :=
  (t.offset.map fun o => "tzinfo=" ++ offsetNotation o).toList

/-- A date in the notation that names its type. -/
def Date.literal (d : Date) : String := s!"datetime.date({d.year}, {d.month}, {d.day})"

/-- A time of day in the notation that names its type. -/
def Time.literal (t : Time) : String :=
  "datetime.time(" ++ ", ".intercalate (t.notationFields ++ t.offsetFields) ++ ")"

/-- A date and time in the notation that names its type. -/
def DateTime.literal (t : DateTime) : String :=
  let date := [toString t.date.year, toString t.date.month, toString t.date.day]
  "datetime.datetime("
    ++ ", ".intercalate (date ++ t.time.notationFields ++ t.time.offsetFields) ++ ")"

end BuildPilot.Document
