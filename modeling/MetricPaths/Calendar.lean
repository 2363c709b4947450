import MetricPaths.Decimal.Shortest

/-! Days and moments, and their texts. -/
namespace MetricPaths

structure Day where
  year : Nat
  month : Nat
  day : Nat
deriving Repr, DecidableEq, Inhabited

/-- A time of a day, to the microsecond, with the distance of its clock from
universal time in minutes, where that is known. -/
structure Moment where
  day : Day
  hour : Nat
  minute : Nat
  second : Nat
  micro : Nat
  offset : Option Int
deriving Repr, DecidableEq, Inhabited

namespace Calendar

def isLeap (year : Nat) : Bool := year % 4 = 0 && (year % 100 != 0 || year % 400 = 0)

def daysInMonth (year month : Nat) : Nat :=
  if month = 2 then if isLeap year then 29 else 28
  else if month ∈ [4, 6, 9, 11] then 30 else 31

/-- Years run from 1 to 9999. -/
def isDay (d : Day) : Bool :=
  1 ≤ d.year && d.year ≤ 9999 && 1 ≤ d.month && d.month ≤ 12 &&
    1 ≤ d.day && d.day ≤ daysInMonth d.year d.month

def isMoment (m : Moment) : Bool :=
  isDay m.day && m.hour < 24 && m.minute < 60 && m.second < 60 && m.micro < 1000000 &&
    m.offset.all fun o => o.natAbs < 1440

def padded (width n : Nat) : String := String.ofList (Shortest.padLeft width (Nat.repr n).toList)

end Calendar
open Calendar

/-- Days since the first of March of the year 0. -/
def Day.number (d : Day) : Nat :=
  let (year, month) := if d.month ≤ 2 then (d.year - 1, d.month + 9) else (d.year, d.month - 3)
  365 * year + year / 4 - year / 100 + year / 400 + (153 * month + 2) / 5 + d.day - 1

/-- Microseconds since the first of March of the year 0, by universal time where
the clock's distance from it is known. -/
def Moment.instant (m : Moment) : Int :=
  let minutes : Int := (m.day.number * 24 + m.hour) * 60 + m.minute
  ((minutes - m.offset.getD 0) * 60 + m.second) * 1000000 + m.micro

def Moment.order? (m n : Moment) : Option Ordering :=
  if m.offset.isSome = n.offset.isSome then some (compare m.instant n.instant) else none

def Day.text (d : Day) : String :=
  padded 4 d.year ++ "-" ++ padded 2 d.month ++ "-" ++ padded 2 d.day

def Day.literal (d : Day) : String :=
  s!"datetime.date({d.year}, {d.month}, {d.day})"

def Moment.offsetText (m : Moment) : String :=
  match m.offset with
  | none => ""
  | some o => (if o < 0 then "-" else "+") ++ padded 2 (o.natAbs / 60) ++ ":" ++ padded 2 (o.natAbs % 60)

def Moment.textWith (separator : String) (m : Moment) : String :=
  m.day.text ++ separator ++ padded 2 m.hour ++ ":" ++ padded 2 m.minute ++ ":" ++ padded 2 m.second ++
    (if m.micro = 0 then "" else "." ++ padded 6 m.micro) ++ m.offsetText

def Moment.text (m : Moment) : String := m.textWith " "

def Moment.literal (m : Moment) : String :=
  let time := s!"{m.day.year}, {m.day.month}, {m.day.day}, {m.hour}, {m.minute}"
  let fine := if m.micro != 0 then s!", {m.second}, {m.micro}" else if m.second != 0 then s!", {m.second}" else ""
  let zone := match m.offset with
    | none => ""
    | some 0 => ", tzinfo=datetime.timezone.utc"
    | some o =>
      let seconds := o * 60
      if seconds < 0 then
        s!", tzinfo=datetime.timezone(datetime.timedelta(days=-1, seconds={seconds + 86400}))"
      else s!", tzinfo=datetime.timezone(datetime.timedelta(seconds={seconds}))"
  "datetime.datetime(" ++ time ++ fine ++ zone ++ ")"

end MetricPaths
