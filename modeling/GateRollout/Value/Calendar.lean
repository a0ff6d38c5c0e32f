import GateRollout.Text.Numeral

/-!
# Dates and times of day

Calendar days and points in time, with or without an offset from universal time.
-/

namespace GateRollout

/-- A calendar day. -/
structure Date where
  year : Nat
  month : Nat
  day : Nat
  deriving Repr, DecidableEq

/-- A day and a time on it; the offset from universal time is in seconds. -/
structure DateTime where
  date : Date
  hour : Nat
  minute : Nat
  second : Nat
  micro : Nat
  offset : Option Int
  deriving Repr, DecidableEq

open Text

/-- Whether a year of the Gregorian calendar has a leap day. -/
def isLeapYear (y : Nat) : Bool := y % 4 == 0 && (y % 100 != 0 || y % 400 == 0)

/-- The number of days of a month. -/
def daysInMonth (y m : Nat) : Nat :=
  if m == 2 then (if isLeapYear y then 29 else 28)
  else if m == 4 || m == 6 || m == 9 || m == 11 then 30
  else 31

/-- Why numbers name no point in time. -/
inductive CalendarFault where
  | year (y : Nat)
  | month
  | day
  | hour
  | minute
  | second
  | offset (seconds : Int)
  deriving Repr, DecidableEq

/-- A length of time as a call that makes it: days, then seconds of the last day. -/
def timeSpanCall (o : Int) : String :=
  let days := Int.fdiv o 86400
  let seconds := Int.fmod o 86400
  let parts :=
    (if days == 0 then [] else [s!"days={intText days}"]) ++
      (if seconds == 0 then [] else [s!"seconds={intText seconds}"])
  "datetime.timedelta(" ++ (if parts.isEmpty then "0" else ", ".intercalate parts) ++ ")"

/-- The message of a calendar fault. -/
def CalendarFault.message : CalendarFault → String
  | year y => s!"year {natText y} is out of range"
  | month => "month must be in 1..12"
  | day => "day is out of range for month"
  | hour => "hour must be in 0..23"
  | minute => "minute must be in 0..59"
  | second => "second must be in 0..59"
  | offset o =>
    s!"offset must be a timedelta strictly between -timedelta(hours=24) and timedelta(hours=24), not {timeSpanCall o}."

/-- A calendar day, when the numbers name one. -/
def Date.check (y m d : Nat) : Except CalendarFault Date :=
  if y == 0 then .error (.year y)
  else if m == 0 || 12 < m then .error .month
  else if d == 0 || daysInMonth y m < d then .error .day
  else .ok ⟨y, m, d⟩

/-- A point in time, when the numbers name one. -/
def DateTime.check (date : Except CalendarFault Date) (h mi s micro : Nat) (offset : Option Int) :
    Except CalendarFault DateTime := do
  match offset with
  | some o => if 86400 ≤ o.natAbs then throw (.offset o)
  | none => pure ()
  let d ← date
  if 24 ≤ h then throw .hour
  if 60 ≤ mi then throw .minute
  if 60 ≤ s then throw .second
  return ⟨d, h, mi, s, micro, offset⟩

/-- The day so many days after the first of January 1970.  Years are counted from March on, so that a leap
day is the last day of its year, in spans of 400 years that all have the same length. -/
def Date.ofDays (days : Nat) : Date :=
  let n := days + 719468
  let inSpan := n % 146097
  let year := (inSpan - inSpan / 1460 + inSpan / 36524 - inSpan / 146096) / 365
  let inYear := inSpan - (365 * year + year / 4 - year / 100)
  let fromMarch := (5 * inYear + 2) / 153
  let month := if fromMarch < 10 then fromMarch + 3 else fromMarch - 9
  let year := year + 400 * (n / 146097)
  ⟨if month ≤ 2 then year + 1 else year, month, inYear - (153 * fromMarch + 2) / 5 + 1⟩

/-- The point in universal time so many millionths of a second after the start of 1970. -/
def DateTime.ofMicros (micros : Nat) : DateTime :=
  let seconds := micros / 1000000
  ⟨.ofDays (seconds / 86400), seconds / 3600 % 24, seconds / 60 % 60, seconds % 60, micros % 1000000,
    some 0⟩

/-- The text `2021-02-08`. -/
def Date.text (d : Date) : String :=
  String.ofList (padded 4 d.year ++ '-' :: padded 2 d.month ++ '-' :: padded 2 d.day)

/-- The text `+01:00` of an offset. -/
def offsetDigits (o : Int) : List Char :=
  let n := o.natAbs
  let seconds := if n % 60 == 0 then [] else ':' :: padded 2 (n % 60)
  (if o < 0 then '-' else '+') :: padded 2 (n / 3600) ++ ':' :: padded 2 (n / 60 % 60) ++ seconds

/-- The text of a point in time, with `separator` between day and time; a fraction of a second is
written only where there is one. -/
def DateTime.textWith (separator : Char) (t : DateTime) : String :=
  let micro := if t.micro == 0 then [] else '.' :: padded 6 t.micro
  t.date.text ++ String.ofList
    (separator :: padded 2 t.hour ++ ':' :: padded 2 t.minute ++ ':' :: padded 2 t.second ++ micro ++
      (t.offset.map offsetDigits).getD [])

/-- The text `2021-02-08 10:00:00`. -/
def DateTime.text (t : DateTime) : String := t.textWith ' '

end GateRollout
