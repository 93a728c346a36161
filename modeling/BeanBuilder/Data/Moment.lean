import BeanBuilder.Text.Pieces

/-!
# Dates and times

A moment is a date in the calendar of today, perhaps with a time of day, which may tell by how many
minutes its zone is ahead of Greenwich.  Two times with zones are the same moment if they name the
same instant; a date and a time, or times with and without a zone, never are.
-/

namespace BeanBuilder

/-- A date. -/
structure Date where
  year : Nat
  month : Nat
  day : Nat
  deriving DecidableEq, Repr

/-- A time of day, and by how many minutes its zone is ahead if it names one. -/
structure TimeOfDay where
  hour : Nat
  minute : Nat
  second : Nat
  microsecond : Nat := 0
  zone : Option Int := none
  deriving DecidableEq, Repr

/-- A date, perhaps with a time. -/
structure Moment where
  date : Date
  time : Option TimeOfDay := none
  deriving DecidableEq, Repr

namespace Date

/-- Whether a year has a day more than others. -/
def isLeap (year : Nat) : Bool :=
  year % 4 = 0 && (year % 100 ≠ 0 || year % 400 = 0)

/-- The number of days of a month. -/
def daysOf (year month : Nat) : Nat :=
  if month = 2 then if isLeap year then 29 else 28
  else if month = 4 ∨ month = 6 ∨ month = 9 ∨ month = 11 then 30
  else 31

/-- Whether the calendar has such a date. -/
def exists? (d : Date) : Bool :=
  1 ≤ d.year && 1 ≤ d.month && d.month ≤ 12 && 1 ≤ d.day && d.day ≤ daysOf d.year d.month

/-- The number of days up to a date, the first date being the first day. -/
def dayNumber (d : Date) : Nat :=
  let before := d.year - 1
  let months := (List.range (d.month - 1)).foldl (fun days m => days + daysOf d.year (m + 1)) 0
  365 * before + before / 4 - before / 100 + before / 400 + months + d.day

end Date

namespace TimeOfDay

/-- Whether a day has such a time; a zone is less than a day away. -/
def exists? (t : TimeOfDay) : Bool :=
  t.hour < 24 && t.minute < 60 && t.second < 60 && t.zone.all fun z => z.natAbs < 1440

/-- The seconds since midnight in Greenwich. -/
def seconds (t : TimeOfDay) : Int :=
  ((t.hour * 60 + t.minute : Nat) - t.zone.getD 0) * 60 + t.second

end TimeOfDay

namespace Moment

/-- Whether there is such a moment. -/
def exists? (m : Moment) : Bool :=
  m.date.exists? && m.time.all TimeOfDay.exists?

/-- The seconds and microseconds up to a moment whose time names a zone. -/
def instant? (m : Moment) : Option (Int × Nat) := do
  let t ← m.time
  let _ ← t.zone
  return (m.date.dayNumber * 86400 + t.seconds, t.microsecond)

/-- Whether two moments are the same. -/
def same (m n : Moment) : Bool :=
  match m.instant?, n.instant? with
  | some i, some j => i = j
  | none, none => m = n
  | _, _ => false

/-! ### Texts -/

/-- A number with zeros in front up to a width. -/
def padded (width n : Nat) : String :=
  let digits := Nat.toDigits 10 n
  String.ofList (List.replicate (width - digits.length) '0' ++ digits)

/-- The text of a date. -/
def dateText (d : Date) : String :=
  padded 4 d.year ++ "-" ++ padded 2 d.month ++ "-" ++ padded 2 d.day

/-- The text of a zone: its sign, hours and minutes. -/
def zoneText (zone : Int) : String :=
  (if zone < 0 then "-" else "+") ++ padded 2 (zone.natAbs / 60) ++ ":"
    ++ padded 2 (zone.natAbs % 60)

/-- The text of a time of day; microseconds are left out if there are none. -/
def timeText (t : TimeOfDay) : String :=
  padded 2 t.hour ++ ":" ++ padded 2 t.minute ++ ":" ++ padded 2 t.second
    ++ (if t.microsecond = 0 then "" else "." ++ padded 6 t.microsecond)
    ++ (t.zone.map zoneText).getD ""

/-- The text of a moment: its date, and its time behind a blank. -/
def text (m : Moment) : String :=
  dateText m.date ++ (m.time.map fun t => " " ++ timeText t).getD ""

/-- How a zone is spelled within another value: in days and seconds, the seconds counting
forwards. -/
def zoneWithin (zone : Int) : String :=
  if zone = 0 then "datetime.timezone.utc"
  else
    let days := if zone < 0 then "days=-1, " else ""
    let seconds := (zone % 1440 * 60).toNat
    "datetime.timezone(datetime.timedelta(" ++ days ++ "seconds=" ++ toString seconds ++ "))"

/-- How a moment is spelled within another value: number by number, without seconds if there are
none. -/
def within (m : Moment) : String :=
  let date := [m.date.year, m.date.month, m.date.day]
  let listed (numbers : List Nat) : String := Text.joinStrings ", " (numbers.map toString)
  match m.time with
  | none => "datetime.date(" ++ listed date ++ ")"
  | some t =>
    let seconds :=
      if t.microsecond ≠ 0 then [t.second, t.microsecond]
      else if t.second ≠ 0 then [t.second] else []
    "datetime.datetime(" ++ listed (date ++ [t.hour, t.minute] ++ seconds)
      ++ (t.zone.map fun z => ", tzinfo=" ++ zoneWithin z).getD "" ++ ")"

end Moment
end BeanBuilder
