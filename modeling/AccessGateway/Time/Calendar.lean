import AccessGateway.Text.Numeral

/-!
# The calendar

Instants in UTC and their written date and time. Days are counted in a year that starts in March, so that the leap
day is the last of its year; a cycle of 400 years has 146097 days.
-/

namespace AccessGateway

/-- A moment: seconds since the start of 1970 and nanoseconds into the second. -/
structure Instant where
  seconds : Int
  nanos : Nat
deriving DecidableEq, Repr

/-- A date of the Gregorian calendar. -/
structure Date where
  year : Int
  month : Nat
  day : Nat
deriving DecidableEq, Repr

namespace Date

/-- The day on which the count of cycles starts, 1 March of year 0, lies this many days before 1970. -/
def epochShift : Int := 719468

/-- Year, month and day from the cycle of 400 years, the year in it and the day of that year, all from March. -/
def ofCycle (cycle : Int) (yearOfCycle dayOfYear : Nat) : Date :=
  let m := (5 * dayOfYear + 2) / 153
  let day := dayOfYear - (153 * m + 2) / 5 + 1
  let year := cycle * 400 + yearOfCycle
  if m < 10 then ⟨year, m + 3, day⟩ else ⟨year + 1, m - 9, day⟩

/-- The date a number of days after the start of 1970. -/
def ofDays (days : Int) : Date :=
  let d := days + epochShift
  let cycle := d / 146097
  let dayOfCycle := (d % 146097).toNat
  let century := min 3 (dayOfCycle / 36524)
  let dayOfCentury := dayOfCycle - century * 36524
  let leap := dayOfCentury / 1461
  let dayOfLeap := dayOfCentury % 1461
  let year := min 3 (dayOfLeap / 365)
  ofCycle cycle (century * 100 + leap * 4 + year) (dayOfLeap - year * 365)

/-- The number of days from the start of 1970 to a date. -/
def toDays (d : Date) : Int :=
  let year := if d.month < 3 then d.year - 1 else d.year
  let m := if d.month < 3 then d.month + 9 else d.month - 3
  year * 365 + year / 4 - year / 100 + year / 400 + ((153 * m + 2) / 5 + d.day - 1 : Nat) - epochShift

end Date

namespace Instant

/-- Digits padded with zeros on the left. -/
def padded (width n : Nat) : List Char :=
  let ds := Text.digits n
  List.replicate (width - ds.length) '0' ++ ds

/-- A year with at least four digits, signed outside the years 0 to 9999. -/
def writeYear (year : Int) : List Char :=
  if 0 ≤ year ∧ year ≤ 9999 then padded 4 year.toNat
  else (if year < 0 then '-' else '+') :: padded 4 year.natAbs

/-- The whole microseconds since the start of 1970. -/
def micros (t : Instant) : Int := t.seconds * 1000000 + (t.nanos / 1000 : Nat)

/-- Date and time of day in UTC, in whole seconds. -/
def writeSeconds (t : Instant) : List Char :=
  let date := Date.ofDays (t.seconds / 86400)
  let s := (t.seconds % 86400).toNat
  writeYear date.year ++ '-' :: padded 2 date.month ++ '-' :: padded 2 date.day ++
    'T' :: padded 2 (s / 3600) ++ ':' :: padded 2 (s / 60 % 60) ++ ':' :: padded 2 (s % 60)

/-- Date and time of day in UTC with six places of a second. -/
def render (t : Instant) : String :=
  String.ofList (t.writeSeconds ++ '.' :: padded 6 (t.nanos / 1000) ++ ['+', '0', '0', '0', '0'])

/-- The fraction of a second in as many groups of three digits as it needs. -/
def writeFraction (nanos : Nat) : List Char :=
  if nanos = 0 then []
  else if nanos % 1000000 = 0 then '.' :: padded 3 (nanos / 1000000)
  else if nanos % 1000 = 0 then '.' :: padded 6 (nanos / 1000)
  else '.' :: padded 9 nanos

/-- Date and time of day in UTC with nothing of the second left out. -/
def renderExact (t : Instant) : String := String.ofList (t.writeSeconds ++ writeFraction t.nanos ++ ['Z'])

end Instant

end AccessGateway
