import DocExpr.Calendar.Instant
import DocExpr.Calendar.Reading
import DocExpr.Calendar.Shift
import DocExpr.Calendar.Zone
import DocExpr.Library.Host

/-! The methods of dates, and the functions of the namespaces named after the kinds of dates. All
dates are read in universal time, so the getters with `UTC` in their names agree with the others. -/
namespace DocExpr.Library
open DocExpr.Calendar (Date Field Kind)

inductive DatePart where
  | dayOfMonth
  | dayOfWeek
  | year
  | hours
  | milliseconds
  | minutes
  | month
  | seconds
  | time
  | zoneOffset
  deriving DecidableEq, Repr

structure DateUnit where
  /-- What follows `plus` or `minus` in the names of methods. -/
  name : String
  /-- It is so many months, or else so many milliseconds. -/
  inMonths : Bool
  count : Int
  deriving DecidableEq, Repr

inductive DateMethod where
  | get (part : DatePart)
  | plus (unit : DateUnit)
  | minus (unit : DateUnit)
  | set (field : Field)
  | isoText
  /-- The text under a pattern, which an argument may replace. -/
  | localText (pattern : String)
  deriving DecidableEq, Repr

def DatePart.names : List (String × DatePart) := [
  ("Date", .dayOfMonth),
  ("Day", .dayOfWeek),
  ("FullYear", .year),
  ("Hours", .hours),
  ("Milliseconds", .milliseconds),
  ("Minutes", .minutes),
  ("Month", .month),
  ("Seconds", .seconds)]

def DateUnit.all : List DateUnit := [
  ⟨"", false, 1⟩,
  ⟨"Days", false, 86400000⟩,
  ⟨"Hours", false, 3600000⟩,
  ⟨"Millis", false, 1⟩,
  ⟨"Minutes", false, 60000⟩,
  ⟨"Months", true, 1⟩,
  ⟨"Seconds", false, 1000⟩,
  ⟨"Weeks", false, 604800000⟩,
  ⟨"Years", true, 12⟩]

/-- The methods that read a part of a date, their names behind `lead`. -/
def getters (lead : String) : Catalog DateMethod :=
  DatePart.names.map fun (name, part) => (lead ++ name, .get part, .exact 0)

/-- The methods that shift a date, their names behind `lead`. -/
def shifts (lead : String) (method : DateUnit → DateMethod) : Catalog DateMethod :=
  DateUnit.all.map fun unit => (lead ++ unit.name, method unit, .exact 1)

def setters : Catalog DateMethod :=
  Field.all.map fun field => ("with" ++ field.name, .set field, .exact 1)

def dateTexts : Catalog DateMethod := [
  ("getTime", .get .time, .exact 0),
  ("getTimezoneOffset", .get .zoneOffset, .exact 0),
  ("toISOString", .isoText, .exact 0),
  ("toJSON", .isoText, .exact 0),
  ("toLocaleDateString", .localText "yyyy-MM-dd", .range 0 1),
  ("toLocaleDateTimeString", .localText "yyyy-MM-dd'T'HH:mm:ss.SSS", .range 0 1),
  ("toLocaleString", .localText "yyyy-MM-dd'T'HH:mm:ss.SSS", .range 0 1),
  ("toLocaleTimeString", .localText "HH:mm:ss.SSS", .range 0 1),
  ("toString", .isoText, .exact 0)]

def DateMethod.catalog : Catalog DateMethod :=
  getters "get" ++ getters "getUTC" ++ shifts "minus" .minus ++ shifts "plus" .plus ++
    setters ++ dateTexts

def dateResult {α : Type} : Except Calendar.Fault α → Except EvalError α
  | .ok a => .ok a
  | .error fault => typeError (.date fault)

/-- A part of a date. Months count from one, days of the week from Sunday, and a leap second
counts as the second before. -/
def DatePart.read (part : DatePart) (d : Date) : Float :=
  match part with
  | .dayOfMonth => Float.ofNat d.instant.civil.day
  | .dayOfWeek => Float.ofNat (Calendar.weekday d.instant.day)
  | .year => Number.ofInt d.instant.civil.year
  | .hours => Float.ofNat d.instant.hour
  | .milliseconds => Float.ofNat d.instant.milli
  | .minutes => Float.ofNat d.instant.minute
  | .month => Float.ofNat d.instant.civil.month
  | .seconds => Float.ofNat d.instant.secondOfMinute
  | .time => Number.ofInt d.instant.millis
  | .zoneOffset => 0.0

def wholeArg (name : String) (args : List Value) : Except EvalError Int :=
  let x := numberArg args 0 Number.nan
  if Number.isFinite x then .ok (Number.toInt64 x)
  else typeError (.notANumber name (arg args 0).display)

/-- The opposite amount; that of the least one is the greatest one. -/
def oppositeAmount (n : Int) : Int := min (-n) Number.maxInt64

def shiftDate (d : Date) (unit : DateUnit) (amount : Int) : Except EvalError Date :=
  let scaled := amount * unit.count
  if scaled < Number.minInt64 ∨ Number.maxInt64 < scaled then
    typeError (.amountOutOfRange amount unit.name)
  else dateResult (if unit.inMonths then d.plusMonths scaled else d.plusMillis scaled)

/-- The text of a date under a pattern. An argument may give another pattern, or an object with
the pattern and a zone. -/
def localText (d : Date) (pattern : String) (args : List Value) : Except EvalError String := do
  let (given, zone) :=
    match arg args 0 with
    | .object es =>
      ((Entries.find? es "format").map Value.display,
        (Entries.find? es "timeZone").map Value.display)
    | .string s => (some s, none)
    | _ => (none, none)
  let offset ←
    match zone with
    | some zone => dateResult (Calendar.parseOffset zone)
    | none => pure 0
  dateResult (d.formatWith (given.getD pattern) offset)

/-- Runs a method of a date. The name is that under which the method was called. -/
def DateMethod.run (m : DateMethod) (name : String) (d : Date) (args : List Value) :
    Except EvalError Value := do
  match m with
  | .get part => return .number (part.read d)
  | .plus unit => return .date (← shiftDate d unit (← wholeArg name args))
  | .minus unit => return .date (← shiftDate d unit (oppositeAmount (← wholeArg name args)))
  | .set field => return .date (← dateResult (d.setField field (← wholeArg name args)))
  | .isoText => return .string d.isoText
  | .localText pattern => return .string (← Library.localText d pattern args)

inductive DateFunction where
  | now
  | parse
  | utc
  deriving DecidableEq, Repr

def DateFunction.catalog (kind : Kind) : Catalog DateFunction :=
  let shared : Catalog DateFunction := [("now", .now, .exact 0), ("parse", .parse, .range 1 2)]
  if kind = .dateTime then ("UTC", .utc, .range 1 7) :: shared else shared

/-- The date that a value stands for: milliseconds, a date of any kind, or text, which a pattern
may explain. -/
def parseDate (kind : Kind) (v : Value) (pattern : Option Value) : Option Date :=
  let ofText (s : String) :=
    match pattern with
    | some p => Calendar.parseWithFormat s p.display kind
    | none =>
      if kind = .dateTime then Calendar.parseDefault s else Calendar.parseLocal s kind
  match v with
  | .null => none
  | .number x =>
    if Number.isFinite x then (Calendar.Instant.ofMillis? (Number.toInt64 x)).map (⟨·, kind⟩)
    else ofText v.display
  | .date d => some ⟨d.instant, kind⟩
  | v => ofText v.display

def DateFunction.run (f : DateFunction) (kind : Kind) (ambient : Ambient) (args : List Value) :
    Value :=
  match f with
  | .now => .date ⟨ambient.now, kind⟩
  | .parse =>
    match parseDate kind (arg args 0) args[1]? with
    | some d => .date d
    | none => .null
  | .utc =>
    match Calendar.utcMillis? (args.map Value.toNumber) with
    | some ms => .number (Number.ofInt ms)
    | none => .number Number.nan

end DocExpr.Library
