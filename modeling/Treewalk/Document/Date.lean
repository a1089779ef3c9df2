import Treewalk.Decimal.Layout

/-!
# Days and moments

The two kinds of timestamp that a document can hold, a day and a moment with an optional distance
from universal time, with the bounds that their fields obey and the ways to write them.
-/

namespace Treewalk

/-- A day of the calendar. -/
structure Date where
  year : Nat
  month : Nat
  day : Nat
  deriving DecidableEq

/-- A moment: a day, a time of day, and the distance from universal time in seconds if known. -/
structure Moment where
  date : Date
  hour : Nat
  minute : Nat
  second : Nat
  microsecond : Nat
  offset : Option Int
  deriving DecidableEq

/-- Why fields make no timestamp. -/
inductive DateFault where
  | year (n : Nat)
  | month
  | day
  | hour
  | minute
  | second
  | offset (seconds : Int)
  deriving DecidableEq

namespace Date

def isLeap (y : Nat) : Bool := y % 4 == 0 && (y % 100 != 0 || y % 400 == 0)

/-- The number of days of a month. -/
def daysIn (y m : Nat) : Nat :=
  if m == 2 then (if isLeap y then 29 else 28)
  else if m == 4 || m == 6 || m == 9 || m == 11 then 30 else 31

/-- A day from its fields, checked in their order. -/
def make (y m d : Nat) : Except DateFault Date :=
  if y < 1 || 9999 < y then .error (.year y)
  else if m < 1 || 12 < m then .error .month
  else if d < 1 || daysIn y m < d then .error .day
  else .ok ⟨y, m, d⟩

private def fixed (width n : Nat) : String := String.ofList (Decimal.padded width n)

/-- Year, month and day with dashes. -/
def iso (d : Date) : String := fixed 4 d.year ++ "-" ++ fixed 2 d.month ++ "-" ++ fixed 2 d.day

/-- The day as a constructor call. -/
def shown (d : Date) : String :=
  "datetime.date(" ++ toString d.year ++ ", " ++ toString d.month ++ ", " ++ toString d.day ++ ")"

end Date

namespace Moment

private def two (n : Nat) : String := String.ofList (Decimal.padded 2 n)

/-- A moment from its fields, checked in their order. -/
def make (date : Date) (hour minute second microsecond : Nat) (offset : Option Int) :
    Except DateFault Moment :=
  if 23 < hour then .error .hour
  else if 59 < minute then .error .minute
  else if 59 < second then .error .second
  else .ok ⟨date, hour, minute, second, microsecond, offset⟩

/-- The distance from universal time, signed, in hours and minutes. -/
def offsetText (seconds : Int) : String :=
  let n := seconds.natAbs
  (if seconds < 0 then "-" else "+") ++ two (n / 3600) ++ ":" ++ two (n / 60 % 60)

/-- The day and the time with the given separator between them. -/
def iso (separator : String) (t : Moment) : String :=
  t.date.iso ++ separator ++ two t.hour ++ ":" ++ two t.minute ++ ":" ++ two t.second ++
  (if t.microsecond = 0 then "" else "." ++ String.ofList (Decimal.padded 6 t.microsecond)) ++
  t.offset.elim "" offsetText

/-- A span of seconds as a constructor call: whole days, then the seconds of a day. -/
def spanShown (seconds : Int) : String :=
  let days := seconds.fdiv 86400
  let rest := seconds.fmod 86400
  let parts := (if days = 0 then [] else ["days=" ++ toString days]) ++
    (if rest = 0 then [] else ["seconds=" ++ toString rest])
  "datetime.timedelta(" ++ (if parts.isEmpty then "0" else ", ".intercalate parts) ++ ")"

/-- The moment as a constructor call. Zero seconds are left out at the end. -/
def shown (t : Moment) : String :=
  let fields := [t.date.year, t.date.month, t.date.day, t.hour, t.minute] ++
    (if t.second = 0 && t.microsecond = 0 then [] else [t.second]) ++
    (if t.microsecond = 0 then [] else [t.microsecond])
  let zone := t.offset.elim "" fun s =>
    if s = 0 then ", tzinfo=datetime.timezone.utc"
    else ", tzinfo=datetime.timezone(" ++ spanShown s ++ ")"
  "datetime.datetime(" ++ ", ".intercalate (fields.map toString) ++ zone ++ ")"

end Moment

/-- The wording of a fault in a timestamp's fields. -/
def DateFault.message : DateFault → String
  | .year n => "year " ++ toString n ++ " is out of range"
  | .month => "month must be in 1..12"
  | .day => "day is out of range for month"
  | .hour => "hour must be in 0..23"
  | .minute => "minute must be in 0..59"
  | .second => "second must be in 0..59"
  | .offset s => "offset must be a timedelta strictly between -timedelta(hours=24) and " ++
      "timedelta(hours=24), not " ++ Moment.spanShown s ++ "."

end Treewalk
