import DialUp.Numeral.Integer

/-!
# Dates and moments

Dates of the Gregorian calendar from year 1 to 9999, and moments of a day to the microsecond, with
or without an offset from universal time. Both are written in two ways: in short, and at length
with the names of their parts.
-/

namespace DialUp.Document

/-- A day of the calendar. -/
structure Date where
  year : Nat
  month : Nat
  day : Nat
  deriving DecidableEq, Repr, Inhabited

/-- A moment; the offset from universal time is in seconds. -/
structure Moment where
  date : Date
  hour : Nat
  minute : Nat
  second : Nat
  microsecond : Nat := 0
  offset : Option Int := none
  deriving DecidableEq, Repr, Inhabited

/-- Whether a year has a leap day. -/
def isLeapYear (year : Nat) : Bool :=
  year % 4 == 0 && (year % 100 != 0 || year % 400 == 0)

/-- The number of days of a month. -/
def daysIn (year month : Nat) : Nat :=
  if month == 2 then if isLeapYear year then 29 else 28
  else if month == 4 || month == 6 || month == 9 || month == 11 then 30
  else 31

/-- Whether the parts make up a day of the calendar. -/
def Date.valid (d : Date) : Bool :=
  1 ≤ d.year && d.year ≤ 9999 && 1 ≤ d.month && d.month ≤ 12
    && 1 ≤ d.day && d.day ≤ daysIn d.year d.month

/-- Whether the parts make up a moment; an offset is less than a day. -/
def Moment.valid (m : Moment) : Bool :=
  m.date.valid && m.hour < 24 && m.minute < 60 && m.second < 60
    && m.offset.all fun o => -86400 < o && o < 86400

/-- The days from the day before the first of January of year 1. -/
def Date.ordinal (d : Date) : Nat :=
  let y := d.year - 1
  let before := (List.range (d.month - 1)).map fun m => daysIn d.year (m + 1)
  365 * y + y / 4 - y / 100 + y / 400 + before.foldl Nat.add 0 + d.day

/-- The microseconds up to the moment, in universal time if it has an offset. -/
def Moment.microseconds (m : Moment) : Int :=
  let seconds : Int := m.date.ordinal * 86400 + m.hour * 3600 + m.minute * 60 + m.second
  (seconds - m.offset.getD 0) * 1000000 + m.microsecond

/-- Whether two moments are the same point in time. A moment with an offset is never the same as
one without. -/
def Moment.same (a b : Moment) : Bool :=
  a.offset.isSome == b.offset.isSome && a.microseconds == b.microseconds

/-- A number in decimal digits, filled up with zeros to a width. -/
def padded (width n : Nat) : String :=
  let ds := Numeral.decimalText n
  String.ofList (List.replicate (width - ds.length) '0' ++ ds)

/-- A date in short. -/
def Date.text (d : Date) : String :=
  padded 4 d.year ++ "-" ++ padded 2 d.month ++ "-" ++ padded 2 d.day

/-- A date at length. -/
def Date.longText (d : Date) : String :=
  "datetime.date(" ++ String.intercalate ", " ([d.year, d.month, d.day].map (padded 0)) ++ ")"

/-- An offset in short: sign, hours and minutes, and seconds if there are any. -/
def offsetText (o : Int) : String :=
  let n := o.natAbs
  let hoursMinutes := padded 2 (n / 3600) ++ ":" ++ padded 2 (n / 60 % 60)
  (if o < 0 then "-" else "+") ++ hoursMinutes
    ++ (if n % 60 == 0 then "" else ":" ++ padded 2 (n % 60))

/-- A moment in short. -/
def Moment.text (m : Moment) : String :=
  m.date.text ++ " " ++ padded 2 m.hour ++ ":" ++ padded 2 m.minute ++ ":" ++ padded 2 m.second
    ++ (if m.microsecond == 0 then "" else "." ++ padded 6 m.microsecond)
    ++ (m.offset.map offsetText).getD ""

/-- An offset at length: in days and seconds, the seconds never negative. -/
def offsetLongText (o : Int) : String :=
  if o == 0 then "datetime.timezone.utc"
  else
    let days := Int.fdiv o 86400
    let seconds := Int.fmod o 86400
    let parts := (if days == 0 then [] else ["days=" ++ Numeral.integerText days])
      ++ (if seconds == 0 then [] else ["seconds=" ++ Numeral.integerText seconds])
    "datetime.timezone(datetime.timedelta(" ++ String.intercalate ", " parts ++ "))"

/-- A moment at length. Seconds and microseconds that are zero are left out at the end. -/
def Moment.longText (m : Moment) : String :=
  let parts := [m.date.year, m.date.month, m.date.day, m.hour, m.minute]
    ++ (if m.microsecond == 0 then if m.second == 0 then [] else [m.second]
      else [m.second, m.microsecond])
  "datetime.datetime(" ++ String.intercalate ", " (parts.map (padded 0))
    ++ (m.offset.map fun o => ", tzinfo=" ++ offsetLongText o).getD "" ++ ")"

end DialUp.Document
