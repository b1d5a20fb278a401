import DocExpr.Calendar.Date
import DocExpr.Number.Notation

/-! Moving a date by an amount of a unit, and setting one of its fields. Both keep the kind of the
date and fail where the result is not represented. -/
namespace DocExpr.Calendar
open DocExpr.Number (intText)

namespace Date

/-- The date some milliseconds later. The amount is a signed 64-bit number; the least of them is
no duration. -/
def plusMillis (d : Date) (ms : Int) : Except Fault Date :=
  let moved := if ms = -Int.pow 2 63 then none else d.instant.plusMillis? ms
  match moved with
  | some instant => .ok { d with instant }
  | none => .error (.outOfRange (intText ms ++ " ms"))

def plusMonths (d : Date) (months : Int) : Except Fault Date :=
  match d.instant.plusMonths? months with
  | some instant => .ok { d with instant }
  | none => .error (.outOfRange (intText months ++ " months"))

end Date

/-- The fields of a date that can be set. -/
inductive Field where
  | dayOfMonth
  | dayOfYear
  | hourOfDay
  | milliOfSecond
  | minuteOfHour
  | monthOfYear
  | secondOfMinute
  | year
  deriving DecidableEq, Repr

def Field.name : Field → String
  | .dayOfMonth => "DayOfMonth"
  | .dayOfYear => "DayOfYear"
  | .hourOfDay => "HourOfDay"
  | .milliOfSecond => "MillisOfSecond"
  | .minuteOfHour => "MinuteOfHour"
  | .monthOfYear => "MonthOfYear"
  | .secondOfMinute => "SecondOfMinute"
  | .year => "Year"

def Field.all : List Field :=
  [.dayOfMonth, .dayOfYear, .hourOfDay, .milliOfSecond, .minuteOfHour, .monthOfYear,
    .secondOfMinute, .year]

def Field.ofName? (name : String) : Option Field := Field.all.find? fun f => f.name == name

namespace Instant

/-- The instant on another day of the calendar, if that exists. -/
def onCivil? (t : Instant) (c : Civil) : Option Instant := c.toDays?.map fun day => { t with day }

/-- The instant at another time of the same day. -/
def atTime (t : Instant) (hour minute second : Nat) : Instant :=
  { t with second := 3600 * hour + 60 * minute + second }

/-- The instant with one field replaced by a natural number. Setting the milliseconds drops what
is below them. -/
def withNat? (t : Instant) (field : Field) (n : Nat) : Option Instant :=
  match field with
  | .dayOfMonth => t.onCivil? { t.civil with day := n }
  | .dayOfYear => (ordinalDays? t.civil.year n).map fun day => { t with day }
  | .hourOfDay => if n < 24 then some (t.atTime n t.minute t.secondOfMinute) else none
  | .milliOfSecond => if n < 1000 then some { t with nano := n * 1000000 } else none
  | .minuteOfHour => if n < 60 then some (t.atTime t.hour n t.secondOfMinute) else none
  | .monthOfYear => t.onCivil? { t.civil with month := n }
  | .secondOfMinute => if n < 60 then some (t.atTime t.hour t.minute n) else none
  | .year => t.onCivil? { t.civil with year := n }

/-- The instant with one field replaced. Only a year can be negative. -/
def withField? (t : Instant) (field : Field) (value : Int) : Option Instant :=
  let moved :=
    match field with
    | .year => t.onCivil? { t.civil with year := value }
    | _ => if 0 ≤ value then t.withNat? field value.toNat else none
  moved.filter inBounds

end Instant

def Date.setField (d : Date) (field : Field) (value : Int) : Except Fault Date :=
  match d.instant.withField? field value with
  | some instant => .ok { d with instant }
  | none => .error (.outOfRange ("with" ++ field.name ++ "(" ++ intText value ++ ")"))

def Date.withField (d : Date) (name : String) (value : Int) : Except Fault Date :=
  match Field.ofName? name with
  | some field => d.setField field value
  | none => .error (.unknownField name)

end DocExpr.Calendar
