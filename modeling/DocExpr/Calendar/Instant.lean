import DocExpr.Calendar.Civil
import DocExpr.Number.Binary

/-! Instants of universal time, to the nanosecond. An instant has a day, a second of the day and
nanoseconds; a leap second counts as nanoseconds from `10 ^ 9` on within the second before. The
milliseconds of an instant are also made from a calendar day and a time of day, all given as
numbers. -/
namespace DocExpr.Calendar

structure Instant where
  /-- Days from 1970-01-01. -/
  day : Int
  /-- Seconds of the day. -/
  second : Nat
  /-- Nanoseconds of the second; those of a leap second start at `10 ^ 9`. -/
  nano : Nat
  deriving DecidableEq, Repr

namespace Instant

def civil (t : Instant) : Civil := .ofDays t.day

def hour (t : Instant) : Nat := t.second / 3600

def minute (t : Instant) : Nat := t.second / 60 % 60

/-- The second of the minute; a leap second still counts as the second before. -/
def secondOfMinute (t : Instant) : Nat := t.second % 60

/-- The milliseconds of the second, 1000 and more in a leap second. -/
def milli (t : Instant) : Nat := t.nano / 1000000

/-- The milliseconds from 1970-01-01T00:00:00. -/
def millis (t : Instant) : Int := t.day * 86400000 + t.second * 1000 + t.milli

/-- The instant on a day that is represented. -/
def onDay? (day : Int) (second nano : Nat) : Option Instant :=
  if inRange (yearOfDays day).1 then some ⟨day, second, nano⟩ else none

def ofMillis? (ms : Int) : Option Instant :=
  onDay? (ms / 86400000) (ms % 86400000 / 1000).toNat (ms % 1000 * 1000000).toNat

/-- The instant a number of seconds and nanoseconds away, both of the same sign. -/
def shift? (t : Instant) (seconds nanos : Int) : Option Instant :=
  let second := t.second + seconds
  let nano := t.nano + nanos
  let carried := second * 1000000000 + nano
  let second := carried / 1000000000
  onDay? (t.day + second / 86400) (second % 86400).toNat (carried % 1000000000).toNat

/-- The instant some milliseconds later. From within a leap second the shift either stays in the
second that the leap second belongs to, or it leaves it: forward as if from the second before,
backward as if from the second after. -/
def plusMillis? (t : Instant) (ms : Int) : Option Instant :=
  let seconds := ms.tdiv 1000
  let nanos := ms.tmod 1000 * 1000000
  if t.nano < 1000000000 then t.shift? seconds nanos
  else if 0 < seconds ∨ 2000000000 ≤ t.nano + nanos then
    { t with nano := t.nano - 1000000000 }.shift? seconds nanos
  else if seconds < 0 then
    { t with nano := t.nano - 1000000000, second := t.second + 1 }.shift? seconds nanos
  else some { t with nano := (t.nano + nanos).toNat }

/-- The same time of day in the month that lies some months later, on the last day of that month
if the day does not exist. -/
def plusMonths? (t : Instant) (months : Int) : Option Instant := do
  let c := t.civil
  let target := 12 * c.year + (c.month - 1) + months
  let year := target / 12
  let month := (target % 12).toNat + 1
  let day ← Civil.toDays? ⟨year, month, min c.day (monthLength year month)⟩
  return { t with day }

/-- The last instant that is represented is no leap second. -/
def inBounds (t : Instant) : Bool :=
  inRange (yearOfDays t.day).1 &&
    (t.nano < 1000000000 || t.second != 86399 || inRange (yearOfDays (t.day + 1)).1)

end Instant

/-- The first instant of a month; the index of the month counts from zero and may lead into
another year. -/
def monthStart? (year monthIndex : Int) : Option Instant :=
  (Civil.toDays? ⟨year + monthIndex / 12, (monthIndex % 12).toNat + 1, 1⟩).map fun day =>
    ⟨day, 0, 0⟩

/-- The milliseconds from the start of a month to a day, hour, minute, second and millisecond. -/
def monthOffset (parts : List Float) : Float :=
  let part (i : Nat) (default : Float) := Number.trunc (parts.getD i default)
  (part 2 1.0 - 1.0) * 86400000.0 + part 3 0.0 * 3600000.0 + part 4 0.0 * 60000.0 +
    part 5 0.0 * 1000.0 + part 6 0.0

/-- The milliseconds from 1970-01-01T00:00:00 to the time with these parts: year, index of the
month, day, hour, minute, second and millisecond. Parts outside their usual range move the larger
ones; the result must be a time that is represented. -/
def utcMillis? (parts : List Float) : Option Int := do
  let year ← parts.head?
  if parts.all Number.isFinite then
    let start ← monthStart? (Number.toInt64 year) (Number.toInt64 (parts.getD 1 0.0))
    let offset := Number.toInt64 (monthOffset parts)
    if offset = Number.minInt64 then none
    else (start.plusMillis? offset).map Instant.millis
  else none

end DocExpr.Calendar
