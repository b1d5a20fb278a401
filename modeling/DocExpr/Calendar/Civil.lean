/-! The proleptic Gregorian calendar: days counted from 1970-01-01 on one side, year, month and day
of the month on the other. -/
namespace DocExpr.Calendar

def isLeapYear (year : Int) : Bool := year % 4 == 0 && (year % 100 != 0 || year % 400 == 0)

def yearLength (year : Int) : Nat := if isLeapYear year then 366 else 365

def monthLengths (year : Int) : List Nat :=
  [31, if isLeapYear year then 29 else 28, 31, 30, 31, 30, 31, 31, 30, 31, 30, 31]

/-- The length of a month, counted from one; zero if there is no such month. -/
def monthLength (year : Int) (month : Nat) : Nat :=
  if month = 0 then 0 else (monthLengths year).getD (month - 1) 0

/-- The days of a year before a month. -/
def daysBeforeMonth (year : Int) (month : Nat) : Nat :=
  ((monthLengths year).take (month - 1)).foldr (· + ·) 0

/-- The days from 0001-01-01 to the first day of a year. -/
def daysBeforeYear (year : Int) : Int :=
  let y := year - 1
  365 * y + y / 4 - y / 100 + y / 400

/-- The days from 0001-01-01 to 1970-01-01. -/
def epochDays : Int := 719162

/-- A day of the calendar. -/
structure Civil where
  year : Int
  month : Nat
  day : Nat
  deriving DecidableEq, Repr

/-- The month exists and has that day. -/
def Civil.isValid (c : Civil) : Bool := 1 ≤ c.day && c.day ≤ monthLength c.year c.month

/-- The number of the day within its year, from one. -/
def Civil.ordinal (c : Civil) : Nat := daysBeforeMonth c.year c.month + c.day

/-- The days from 1970-01-01. -/
def Civil.toDays (c : Civil) : Int := daysBeforeYear c.year + c.ordinal - 1 - epochDays

/-- The year a day lies in, and its number within the year, from zero. A cycle of 400 years has
146097 days, one of 100 years 36524 and one of 4 years 1461, but for the last day of the longer
cycle. -/
def yearOfDays (days : Int) : Int × Nat :=
  let n := days + epochDays
  let cycle := n / 146097
  let r := (n % 146097).toNat
  let century := min (r / 36524) 3
  let r := r - 36524 * century
  let four := r / 1461
  let r := r % 1461
  let one := min (r / 365) 3
  (400 * cycle + 100 * century + 4 * four + one + 1, r - 365 * one)

/-- Finds the month of a day of the year: the months from `month` on have these lengths. -/
def monthOfDay (month : Nat) (day : Nat) : List Nat → Nat × Nat
  | [] => (month, day + 1)
  | length :: lengths =>
    if day < length then (month, day + 1) else monthOfDay (month + 1) (day - length) lengths

/-- The day of the calendar with a number within its year, from zero. -/
def Civil.ofYearDay (year : Int) (day : Nat) : Civil :=
  let (month, day) := monthOfDay 1 day (monthLengths year)
  ⟨year, month, day⟩

/-- The day of the calendar that lies a number of days after 1970-01-01. -/
def Civil.ofDays (days : Int) : Civil :=
  let (year, day) := yearOfDays days
  .ofYearDay year day

/-- The day of the week, Sunday being zero; 1970-01-01 was a Thursday. -/
def weekday (days : Int) : Nat := ((days + 4) % 7).toNat

def firstYear : Int := -262143

def lastYear : Int := 262142

def inRange (year : Int) : Bool := firstYear ≤ year && year ≤ lastYear

/-- The number of a day that exists in a year that is represented. -/
def Civil.toDays? (c : Civil) : Option Int :=
  if inRange c.year && c.isValid then some c.toDays else none

/-- The number of the day with an ordinal from one, if the year is represented and long enough. -/
def ordinalDays? (year : Int) (ordinal : Nat) : Option Int :=
  if inRange year && 1 ≤ ordinal && ordinal ≤ yearLength year then
    some (daysBeforeYear year + ordinal - 1 - epochDays)
  else none

end DocExpr.Calendar
