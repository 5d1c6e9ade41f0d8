/-!
# Dates and times

Proleptic Gregorian dates, times of day and offsets from universal time, with
the two ways in which they are written: the ISO form, and the form that a
message uses for a value.
-/

namespace PathExpr

/-- A day of the calendar. -/
structure Date where
  year : Nat
  month : Nat
  day : Nat
  deriving Repr, DecidableEq

/-- A time of day, down to the microsecond. -/
structure TimeOfDay where
  hour : Nat
  minute : Nat
  second : Nat
  micro : Nat
  deriving Repr, DecidableEq

/-- A date with a time of day and, perhaps, an offset from universal time in seconds. -/
structure Moment where
  date : Date
  time : TimeOfDay
  offset : Option Int
  deriving Repr, DecidableEq

/-- Whether February of the year has twenty-nine days. -/
def isLeapYear (year : Nat) : Bool :=
  year % 4 == 0 && (year % 100 != 0 || year % 400 == 0)

/-- The number of days of a month. -/
def daysInMonth (year month : Nat) : Nat :=
  match month with
  | 2 => if isLeapYear year then 29 else 28
  | 4 => 30
  | 6 => 30
  | 9 => 30
  | 11 => 30
  | _ => 31

/-- Which part of a date or time lies outside its range. -/
inductive CalendarFlaw where
  | year (given : Nat)
  | month
  | day
  | hour
  | minute
  | second
  deriving Repr, DecidableEq

/-- The year, the month and the day are tested in this order. -/
def Date.make (year month day : Nat) : Except CalendarFlaw Date :=
  if year < 1 || 9999 < year then .error (.year year)
  else if month < 1 || 12 < month then .error .month
  else if day < 1 || daysInMonth year month < day then .error .day
  else .ok ⟨year, month, day⟩

/-- The hour, the minute and the second are tested in this order. -/
def TimeOfDay.make (hour minute second micro : Nat) : Except CalendarFlaw TimeOfDay :=
  if 23 < hour then .error .hour
  else if 59 < minute then .error .minute
  else if 59 < second then .error .second
  else .ok ⟨hour, minute, second, micro⟩

/-- What is wrong, in words. -/
def CalendarFlaw.message : CalendarFlaw → String
  | .year given => s!"year {given} is out of range"
  | .month => "month must be in 1..12"
  | .day => "day is out of range for month"
  | .hour => "hour must be in 0..23"
  | .minute => "minute must be in 0..59"
  | .second => "second must be in 0..59"

/-- The number with zeros in front up to a width. -/
def zeroPadded (width n : Nat) : String :=
  let digits := Nat.toDigits 10 n
  String.ofList (List.replicate (width - digits.length) '0' ++ digits)

/-- The day written as year, month and day. -/
def Date.iso (d : Date) : String :=
  zeroPadded 4 d.year ++ "-" ++ zeroPadded 2 d.month ++ "-" ++ zeroPadded 2 d.day

/-- The time with its microseconds, when there are any. -/
def TimeOfDay.iso (t : TimeOfDay) : String :=
  let whole := zeroPadded 2 t.hour ++ ":" ++ zeroPadded 2 t.minute ++ ":" ++ zeroPadded 2 t.second
  if t.micro = 0 then whole else whole ++ "." ++ zeroPadded 6 t.micro

/-- An offset as sign, hours and minutes, with seconds when there are any. -/
def offsetIso (offset : Int) : String :=
  let n := offset.natAbs
  let sign := if offset < 0 then "-" else "+"
  let whole := sign ++ zeroPadded 2 (n / 3600) ++ ":" ++ zeroPadded 2 (n / 60 % 60)
  if n % 60 = 0 then whole else whole ++ ":" ++ zeroPadded 2 (n % 60)

/-- The moment with a given mark between date and time. -/
def Moment.iso (mark : String) (m : Moment) : String :=
  m.date.iso ++ mark ++ m.time.iso ++ (m.offset.map offsetIso).getD ""

/-- The arguments after the hour and the minute: zeros at the end are left out. -/
def TimeOfDay.arguments (t : TimeOfDay) : List Nat :=
  if t.micro ≠ 0 then [t.hour, t.minute, t.second, t.micro]
  else if t.second ≠ 0 then [t.hour, t.minute, t.second]
  else [t.hour, t.minute]

private def commaSeparated (ns : List Nat) : String :=
  ", ".intercalate (ns.map Nat.repr)

/-- The day as a message shows it. -/
def Date.display (d : Date) : String :=
  "datetime.date(" ++ commaSeparated [d.year, d.month, d.day] ++ ")"

/-- The time as a message shows it. -/
def TimeOfDay.display (t : TimeOfDay) : String :=
  "datetime.time(" ++ commaSeparated t.arguments ++ ")"

/-- An offset as a message shows it: whole days and the seconds that remain. -/
def offsetDisplay (offset : Int) : String :=
  if offset = 0 then "datetime.timezone.utc"
  else
    let days := offset.fdiv 86400
    let seconds := offset.fmod 86400
    let dayPart := if days = 0 then [] else ["days=" ++ toString days]
    let secondPart := if seconds = 0 then [] else ["seconds=" ++ toString seconds]
    "datetime.timezone(datetime.timedelta(" ++ ", ".intercalate (dayPart ++ secondPart) ++ "))"

/-- The moment as a message shows it. -/
def Moment.display (m : Moment) : String :=
  let numbers := [m.date.year, m.date.month, m.date.day] ++ m.time.arguments
  let zone := match m.offset with
    | none => ""
    | some offset => ", tzinfo=" ++ offsetDisplay offset
  "datetime.datetime(" ++ commaSeparated numbers ++ zone ++ ")"

/-- The number of days from the first day of year one. -/
def Date.dayNumber (d : Date) : Nat :=
  let before := d.year - 1
  let months := (List.range (d.month - 1)).foldl (fun n m => n + daysInMonth d.year (m + 1)) 0
  before * 365 + before / 4 - before / 100 + before / 400 + months + d.day - 1

/-- Microseconds from the start of year one, the offset taken away. -/
def Moment.universal (m : Moment) : Int :=
  let seconds : Int := m.date.dayNumber * 86400 + m.time.hour * 3600 + m.time.minute * 60 +
    m.time.second
  (seconds - m.offset.getD 0) * 1000000 + m.time.micro

end PathExpr
