import SchemaLink.Text.Cut

/-!
# Dates and moments

A date is a day of the calendar, which always has its leap days by the present rule. A moment adds a
time of day and, where it is known, the distance from universal time, which is less than a day.
-/

namespace SchemaLink

/-- A day of the calendar. -/
structure Date where
  year : Nat
  month : Nat
  day : Nat
  deriving DecidableEq, Repr, Inhabited

/-- A moment of a day, with its distance from universal time in minutes where one is given. -/
structure Moment where
  date : Date
  hour : Nat
  minute : Nat
  second : Nat
  microsecond : Nat
  offset : Option Int
  deriving DecidableEq, Repr, Inhabited

/-- Why numbers are no date and no moment. -/
inductive CalendarError where
  | year (year : Nat)
  | month
  | day
  | hour
  | minute
  | second
  | offset (minutes : Int)
  deriving DecidableEq, Repr, Inhabited

/-- A span of minutes in whole days and seconds. -/
def spanText (minutes : Int) : String :=
  let days := minutes / 1440
  let seconds := minutes % 1440 * 60
  let parts := (if days = 0 then [] else ["days=" ++ toString days])
    ++ (if seconds = 0 then [] else ["seconds=" ++ toString seconds])
  "datetime.timedelta(" ++ (if parts.isEmpty then "0" else Text.commaList parts) ++ ")"

/-- The message about numbers that are no date and no moment. -/
def CalendarError.message : CalendarError → String
  | .year y => "year " ++ toString y ++ " is out of range"
  | .month => "month must be in 1..12"
  | .day => "day is out of range for month"
  | .hour => "hour must be in 0..23"
  | .minute => "minute must be in 0..59"
  | .second => "second must be in 0..59"
  | .offset minutes =>
    "offset must be a timedelta strictly between -timedelta(hours=24) and timedelta(hours=24), not "
      ++ spanText minutes ++ "."

namespace Date

/-- Whether a year has a leap day. -/
def isLeap (year : Nat) : Bool := year % 4 = 0 && (year % 100 ≠ 0 || year % 400 = 0)

/-- The number of days of a month. -/
def daysIn (year month : Nat) : Nat :=
  if month = 2 then if isLeap year then 29 else 28
  else if month = 4 ∨ month = 6 ∨ month = 9 ∨ month = 11 then 30
  else 31

/-- The date of a year, a month and a day. -/
def make (year month day : Nat) : Except CalendarError Date :=
  if year < 1 ∨ 9999 < year then .error (.year year)
  else if month < 1 ∨ 12 < month then .error .month
  else if day < 1 ∨ daysIn year month < day then .error .day
  else .ok ⟨year, month, day⟩

/-- The date as year, month and day. -/
def text (d : Date) : String :=
  Text.padded 4 d.year ++ "-" ++ Text.padded 2 d.month ++ "-" ++ Text.padded 2 d.day

/-- The numbers of a date. -/
def parts (d : Date) : List Nat := [d.year, d.month, d.day]

/-- The date as source text. -/
def written (d : Date) : String :=
  "datetime.date(" ++ Text.commaList (d.parts.map toString) ++ ")"

end Date

namespace Moment

/-- The moment of a date and a time of day. -/
def make (date : Date) (hour minute second microsecond : Nat) (offset : Option Int) :
    Except CalendarError Moment :=
  if 23 < hour then .error .hour
  else if 59 < minute then .error .minute
  else if 59 < second then .error .second
  else .ok ⟨date, hour, minute, second, microsecond, offset⟩

/-- A distance from universal time, which is less than a day. -/
def offset? (minutes : Int) : Except CalendarError Int :=
  if minutes.natAbs < 1440 then .ok minutes else .error (.offset minutes)

/-- The distance from universal time as signed hours and minutes. -/
def offsetText : Option Int → String
  | none => ""
  | some minutes =>
    (if minutes < 0 then "-" else "+") ++ Text.padded 2 (minutes.natAbs / 60) ++ ":"
      ++ Text.padded 2 (minutes.natAbs % 60)

/-- The moment as date and time of day. -/
def text (m : Moment) : String :=
  m.date.text ++ " " ++ Text.padded 2 m.hour ++ ":" ++ Text.padded 2 m.minute ++ ":"
    ++ Text.padded 2 m.second
    ++ (if m.microsecond = 0 then "" else "." ++ Text.padded 6 m.microsecond)
    ++ offsetText m.offset

/-- The numbers of a moment, without a second and a microsecond of zero at the end. -/
def parts (m : Moment) : List Nat :=
  m.date.parts ++ [m.hour, m.minute]
    ++ (if m.microsecond ≠ 0 then [m.second, m.microsecond]
        else if m.second ≠ 0 then [m.second] else [])

/-- The distance from universal time as source text. -/
def writtenOffset : Option Int → List String
  | none => []
  | some minutes =>
    let zone := if minutes = 0 then "timezone.utc" else "timezone(" ++ spanText minutes ++ ")"
    ["tzinfo=datetime." ++ zone]

/-- The moment as source text. -/
def written (m : Moment) : String :=
  "datetime.datetime(" ++ Text.commaList (m.parts.map toString ++ writtenOffset m.offset) ++ ")"

end Moment

end SchemaLink
