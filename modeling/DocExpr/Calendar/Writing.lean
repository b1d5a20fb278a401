import DocExpr.Calendar.Pattern
import DocExpr.Calendar.Zone
import DocExpr.Number.Notation

/-! Dates as text: the standard text of each kind, and the text under a pattern at an offset. -/
namespace DocExpr.Calendar
open DocExpr.Number (digitChars)

/-- A natural number with leading zeros up to a width. -/
def padded (width n : Nat) : List Char :=
  let digits := digitChars n
  List.replicate (width - digits.length) '0' ++ digits

/-- A year with at least four digits; outside 0 to 9999 it has a sign. -/
def yearText (year : Int) (zeros : Bool) : List Char :=
  let digits := if zeros then padded 4 year.natAbs else digitChars year.natAbs
  if 0 ≤ year ∧ year < 10000 then digits else (if year < 0 then '-' else '+') :: digits

def monthNames : List String :=
  ["January", "February", "March", "April", "May", "June", "July", "August", "September",
    "October", "November", "December"]

/-- The names of the days of the week, from Sunday. -/
def weekdayNames : List String :=
  ["Sunday", "Monday", "Tuesday", "Wednesday", "Thursday", "Friday", "Saturday"]

/-- A name in full or its first three letters. -/
def nameText (names : List String) (i : Nat) (full : Bool) : List Char :=
  let name := (names.getD i "").toList
  if full then name else name.take 3

/-- An offset as a sign, hours and minutes. -/
def offsetText (seconds : Int) (colon : Bool) : List Char :=
  let minutes := seconds.natAbs / 60
  (if seconds < 0 then '-' else '+') ::
    padded 2 (minutes / 60) ++ (if colon then [':'] else []) ++ padded 2 (minutes % 60)

/-- The hour on a clock of twelve hours. -/
def hourOfHalf (hour : Nat) : Nat := if hour % 12 = 0 then 12 else hour % 12

/-- A number field of an instant; a leap second is the sixtieth second. -/
def numberText (t : Instant) (field : NumberField) (zeros : Bool) : List Char :=
  let two (n : Nat) : List Char := if zeros then padded 2 n else digitChars n
  match field with
  | .year => yearText t.civil.year zeros
  | .yearOfCentury => two (t.civil.year % 100).toNat
  | .month => two t.civil.month
  | .day => two t.civil.day
  | .dayOfYear => if zeros then padded 3 t.civil.ordinal else digitChars t.civil.ordinal
  | .hour => two t.hour
  | .hourOfHalf => two (hourOfHalf t.hour)
  | .minute => two t.minute
  | .second => two (t.secondOfMinute + t.nano / 1000000000)

/-- The leading digits of the fraction of a second. -/
def fractionText (nano digits : Nat) : List Char :=
  padded digits (nano % 1000000000 / Nat.pow 10 (9 - digits))

/-- One item of the text of an instant whose clock is ahead of universal time by `offset`
seconds. -/
def itemText (t : Instant) (offset : Int) : Item → List Char
  | .literal text | .space text => text
  | .number field zeros => numberText t field zeros
  | .monthName full => nameText monthNames (t.civil.month - 1) full
  | .weekdayName full => nameText weekdayNames (weekday t.day) full
  | .half => (if t.hour < 12 then "AM" else "PM").toList
  | .fraction digits => fractionText t.nano digits
  | .pointFraction (some digits) => '.' :: fractionText t.nano digits
  | .pointFraction none =>
    let nano := t.nano % 1000000000
    if nano = 0 then []
    else if nano % 1000000 = 0 then '.' :: fractionText nano 3
    else if nano % 1000 = 0 then '.' :: fractionText nano 6
    else '.' :: fractionText nano 9
  | .zoneName => offsetText offset true
  | .offset colon => offsetText offset colon
  | .invalid => []

/-- The wall clock at an offset, as an instant. It may leave the years that are represented by a
day. -/
def Instant.ahead (t : Instant) (offset : Int) : Instant :=
  let second := t.second + offset
  { t with day := t.day + second / 86400, second := (second % 86400).toNat }

def Kind.specifiers : Kind → String
  | .dateTime => "%Y-%m-%dT%H:%M:%S%.3fZ"
  | .localDateTime => "%Y-%m-%dT%H:%M:%S%.3f"
  | .localDate => "%Y-%m-%d"
  | .localTime => "%H:%M:%S%.3f"

/-- The standard text of a date, with milliseconds. -/
def Date.isoText (d : Date) : String :=
  String.ofList ((itemsOf d.kind.specifiers.toList).flatMap (itemText d.instant 0))

def Date.formatWith (d : Date) (pattern : String) (offset : Int) : Except Fault String :=
  let items := itemsOfPattern pattern
  if items.contains .invalid then .error (.badPattern pattern)
  else .ok (String.ofList (items.flatMap (itemText (d.instant.ahead offset) offset)))

end DocExpr.Calendar
