import DocExpr.Calendar.Writing

/-! Dates read from text. Items collect the fields that the text gives; a field given twice must
have one value, and the fields together must determine a day, a time of day, or both. -/
namespace DocExpr.Calendar
open DocExpr.Number (isDigit natOfDigits)

/-- The fields that a text has given so far. The hour is kept as a half of the day and an hour of
that half. -/
structure Fields where
  year : Option Int := none
  yearOfCentury : Option Nat := none
  month : Option Nat := none
  day : Option Nat := none
  dayOfYear : Option Nat := none
  weekday : Option Nat := none
  half : Option Nat := none
  hourOfHalf : Option Nat := none
  minute : Option Nat := none
  second : Option Nat := none
  nano : Option Nat := none
  offset : Option Int := none
  deriving DecidableEq, Repr

/-- A field after the value `v` was given for it; none if it has another one. -/
def agree {α : Type} [DecidableEq α] (field : Option α) (v : α) : Option (Option α) :=
  match field with
  | none => some (some v)
  | some w => if w = v then some field else none

/-- Gives a number field a value, which must lie in the range of the field. -/
def Fields.setNumber? (f : Fields) (field : NumberField) (v : Int) : Option Fields :=
  let n := v.toNat
  match field with
  | .year =>
    if -Int.pow 2 31 ≤ v ∧ v < Int.pow 2 31 then (agree f.year v).map ({ f with year := · })
    else none
  | .yearOfCentury =>
    if n < 100 then (agree f.yearOfCentury n).map ({ f with yearOfCentury := · }) else none
  | .month => if 1 ≤ n ∧ n ≤ 12 then (agree f.month n).map ({ f with month := · }) else none
  | .day => if 1 ≤ n ∧ n ≤ 31 then (agree f.day n).map ({ f with day := · }) else none
  | .dayOfYear =>
    if 1 ≤ n ∧ n ≤ 366 then (agree f.dayOfYear n).map ({ f with dayOfYear := · }) else none
  | .hour =>
    if n < 24 then do
      let half ← agree f.half (n / 12)
      let hourOfHalf ← agree f.hourOfHalf (n % 12)
      return { f with half, hourOfHalf }
    else none
  | .hourOfHalf =>
    if 1 ≤ n ∧ n ≤ 12 then (agree f.hourOfHalf (n % 12)).map ({ f with hourOfHalf := · }) else none
  | .minute => if n < 60 then (agree f.minute n).map ({ f with minute := · }) else none
  | .second => if n ≤ 60 then (agree f.second n).map ({ f with second := · }) else none

/-- Between `least` and `most` digits at the front of a text, as many as there are. The value must
stay below `2 ^ 63`. -/
def takeNumber (least most : Nat) (cs : List Char) : Option (Nat × List Char) :=
  let digits := (cs.take most).takeWhile isDigit
  if digits.length < least then none
  else
    let n := natOfDigits digits
    if n < Nat.pow 2 63 then some (n, cs.drop digits.length) else none

/-- Digits of a fraction of a second as nanoseconds; those after the ninth are passed over. -/
def takeNanos (cs : List Char) : Option (Nat × List Char) := do
  let (n, rest) ← takeNumber 1 9 cs
  let count := cs.length - rest.length
  return (n * Nat.pow 10 (9 - count), rest.dropWhile isDigit)

/-- The most digits of a number field without a sign. -/
def NumberField.width : NumberField → Nat
  | .year => 4
  | .dayOfYear => 3
  | _ => 2

/-- Reads a number field behind white space. A year with a sign may have any number of digits. -/
def readNumber (field : NumberField) (cs : List Char) : Option (Int × List Char) :=
  let cs := Text.trimLeft cs
  match field, cs with
  | .year, '-' :: rest => (takeNumber 1 rest.length rest).map fun (n, rest) => (-(n : Int), rest)
  | .year, '+' :: rest => (takeNumber 1 rest.length rest).map fun (n, rest) => ((n : Int), rest)
  | _, cs => (takeNumber 1 field.width cs).map fun (n, rest) => ((n : Int), rest)

/-- The rest after `lead`, whatever the case of ASCII letters in the text. -/
def dropIgnoringCase? (lead cs : List Char) : Option (List Char) :=
  match lead, cs with
  | [], cs => some cs
  | p :: lead, c :: cs => if p.toLower = c.toLower then dropIgnoringCase? lead cs else none
  | _ :: _, [] => none

/-- Finds the name that a text starts with, by its first three letters, and passes over the rest of
the name where `full` allows it; names are counted from `i`. -/
def readName (full : Bool) (cs : List Char) (i : Nat) : List String → Option (Nat × List Char)
  | [] => none
  | name :: names =>
    match dropIgnoringCase? (name.toList.take 3) cs with
    | none => readName full cs (i + 1) names
    | some rest =>
      some (i, if full then (dropIgnoringCase? (name.toList.drop 3) rest).getD rest else rest)

/-- Hours and minutes of an offset, two digits each, with what `between` passes over in the
middle. -/
def readClock (between : List Char → Option (List Char)) (cs : List Char) :
    Option (Nat × List Char) :=
  match cs with
  | a :: b :: rest =>
    if isDigit a && isDigit b then
      match between rest with
      | some (c :: d :: rest) =>
        if isDigit c && isDigit d && c ≤ '5' then
          some (natOfDigits [a, b] * 3600 + natOfDigits [c, d] * 60, rest)
        else none
      | _ => none
    else none
  | _ => none

/-- A signed offset in seconds. The sign may be a true minus sign. -/
def readOffset (between : List Char → Option (List Char)) (cs : List Char) :
    Option (Int × List Char) :=
  match cs with
  | '+' :: rest => (readClock between rest).map fun (n, rest) => ((n : Int), rest)
  | '-' :: rest | '−' :: rest => (readClock between rest).map fun (n, rest) => (-(n : Int), rest)
  | _ => none

def skipColons (cs : List Char) : Option (List Char) :=
  some (cs.dropWhile fun c => c == ':' || Text.isBlank c)

def Fields.setNano? (f : Fields) (n : Nat) : Option Fields :=
  (agree f.nano n).map ({ f with nano := · })

def readItem (f : Fields) (cs : List Char) : Item → Option (Fields × List Char)
  | .literal text => (Text.dropPrefix? text cs).map (f, ·)
  | .space _ => some (f, Text.trimLeft cs)
  | .number field _ => do
    let (v, rest) ← readNumber field cs
    return (← f.setNumber? field v, rest)
  | .monthName full => do
    let (i, rest) ← readName full cs 1 monthNames
    return (← f.setNumber? .month i, rest)
  | .weekdayName full => do
    let (i, rest) ← readName full cs 0 weekdayNames
    let weekday ← agree f.weekday i
    return ({ f with weekday }, rest)
  | .half =>
    match cs with
    | a :: m :: rest =>
      if m.toLower = 'm' ∧ (a.toLower = 'a' ∨ a.toLower = 'p') then do
        let half ← agree f.half (if a.toLower = 'a' then 0 else 1)
        return ({ f with half }, rest)
      else none
    | _ => none
  | .fraction digits => do
    let (n, rest) ← takeNumber digits digits cs
    return (← f.setNano? (n * Nat.pow 10 (9 - digits)), rest)
  | .pointFraction _ =>
    match cs with
    | '.' :: rest => do
      let (n, rest) ← takeNanos rest
      return (← f.setNano? n, rest)
    | _ => some (f, cs)
  | .zoneName => some (f, cs.dropWhile fun c => !Text.isBlank c)
  | .offset _ => do
    let (seconds, rest) ← readOffset skipColons (Text.trimLeft cs)
    let offset ← agree f.offset seconds
    return ({ f with offset }, rest)
  | .invalid => none

def readItems (f : Fields) (cs : List Char) : List Item → Option (Fields × List Char)
  | [] => some (f, cs)
  | item :: items =>
    match readItem f cs item with
    | some (f, cs) => readItems f cs items
    | none => none

/-- The fields of a text that the items describe as a whole. -/
def readAll (items : List Item) (cs : List Char) : Option Fields :=
  match readItems {} cs items with
  | some (f, []) => some f
  | _ => none

/-- The year. Two digits alone mean 1970 to 2069; beside a year in full they must agree with
it. -/
def Fields.fullYear? (f : Fields) : Option Int :=
  match f.year, f.yearOfCentury with
  | some y, none => some y
  | some y, some r => if 0 ≤ y ∧ y % 100 = r then some y else none
  | none, some r => some (if r < 70 then 2000 + r else 1900 + r)
  | none, none => none

/-- The number of the day; all fields that say something about it must agree with it. -/
def Fields.day? (f : Fields) : Option Int := do
  let year ← f.fullYear?
  let days ←
    match f.month, f.day with
    | some month, some day => Civil.toDays? ⟨year, month, day⟩
    | _, _ => f.dayOfYear.bind (ordinalDays? year)
  let c := Civil.ofDays days
  let fits :=
    f.month.all (· == c.month) && f.day.all (· == c.day) && f.dayOfYear.all (· == c.ordinal) &&
      f.weekday.all (· == Calendar.weekday days)
  if fits then some days else none

/-- Seconds and nanoseconds of the day. Hour and minute must be given; a fraction needs a second;
the sixtieth second is a leap second. -/
def Fields.time? (f : Fields) : Option (Nat × Nat) := do
  let hour := 12 * (← f.half) + (← f.hourOfHalf)
  let minute ← f.minute
  let start := 3600 * hour + 60 * minute
  match f.second with
  | none => if f.nano.isNone then some (start, 0) else none
  | some second =>
    let nano := f.nano.getD 0
    some (if second = 60 then (start + 59, 1000000000 + nano) else (start + second, nano))

/-- The instant of a day and a time without a zone. -/
def Fields.naive? (f : Fields) : Option Instant := do
  let day ← f.day?
  let (second, nano) ← f.time?
  return ⟨day, second, nano⟩

/-- The instant of a day and a time at an offset, which is less than a day. -/
def Fields.zoned? (f : Fields) : Option Instant := do
  let offset ← f.offset
  let t ← f.naive?
  let utc := t.ahead (-offset)
  if offset.natAbs < 86400 then Instant.onDay? utc.day utc.second utc.nano else none

def exactDigits (count : Nat) (cs : List Char) : Option (Int × List Char) :=
  (takeNumber count count cs).map fun (n, rest) => ((n : Int), rest)

def skipColon (cs : List Char) : Option (List Char) := Text.dropPrefix? [':'] cs

/-- The zone of a standard time stamp: `Z` or an offset below a day. -/
def readStandardZone (cs : List Char) : Option (Int × List Char) :=
  match cs with
  | 'Z' :: rest | 'z' :: rest => some (0, rest)
  | _ => (readOffset skipColon cs).filter fun (n, _) => n.natAbs ≤ 86340

/-- A field of exactly that many digits with a separator in front of it. -/
def standardField (f : Fields) (separator : List Char) (field : NumberField) (count : Nat)
    (cs : List Char) : Option (Fields × List Char) := do
  let rest ← Text.dropPrefix? separator cs
  let (v, rest) ← exactDigits count rest
  return (← f.setNumber? field v, rest)

/-- A time stamp with a zone, such as `2024-03-15T10:30:00.5+01:00`; the letter between day and
time may be small or a space. -/
def readStandard (cs : List Char) : Option Instant := do
  let (f, rest) ← standardField {} [] .year 4 cs
  let (f, rest) ← standardField f ['-'] .month 2 rest
  let (f, rest) ← standardField f ['-'] .day 2 rest
  let rest ←
    match rest with
    | 'T' :: rest | 't' :: rest | ' ' :: rest => some rest
    | _ => none
  let (f, rest) ← standardField f [] .hour 2 rest
  let (f, rest) ← standardField f [':'] .minute 2 rest
  let (f, rest) ← standardField f [':'] .second 2 rest
  let (f, rest) ← readItem f rest (.pointFraction none)
  let (offset, rest) ← readStandardZone rest
  let f := { f with offset := some offset }
  if rest.isEmpty then f.zoned? else none

def specified (specifiers : String) : List Item := itemsOf specifiers.toList

/-- A day alone, at midnight. -/
def readDay (cs : List Char) : Option Instant := do
  let f ← readAll (specified "%Y-%m-%d") cs
  return ⟨← f.day?, 0, 0⟩

/-- A day with a time and no zone, or a day alone. -/
def readNaive (cs : List Char) : Option Instant :=
  let shapes :=
    ["%Y-%m-%dT%H:%M:%S%.f", "%Y-%m-%dT%H:%M", "%Y-%m-%d %H:%M:%S%.f", "%Y-%m-%d %H:%M"]
  match shapes.findSome? fun shape => (readAll (specified shape) cs).bind Fields.naive? with
  | some t => some t
  | none => readDay cs

/-- A time alone, on 1970-01-01. -/
def readTime (cs : List Char) : Option Instant :=
  let time? (shape : String) : Option (Nat × Nat) :=
    (readAll (specified shape) cs).bind Fields.time?
  ((time? "%H:%M:%S%.f").or (time? "%H:%M")).map fun (second, nano) => ⟨0, second, nano⟩

/-- A time stamp with or without a zone. -/
def readStamp (cs : List Char) : Option Instant := (readStandard cs).or (readNaive cs)

/-- The date in a text of no given pattern. -/
def parseDefault (s : String) : Option Date :=
  (readStamp (Text.trim s.toList)).map fun t => ⟨t, .dateTime⟩

/-- The date of a kind in a text of no given pattern. -/
def parseLocal (s : String) (kind : Kind) : Option Date :=
  let cs := Text.trim s.toList
  let instant :=
    match kind with
    | .localTime => readTime cs
    | .localDate => readDay cs
    | .localDateTime | .dateTime => readStamp cs
  instant.map fun t => ⟨t, kind⟩

/-- The date that a text writes under a pattern. A zone is used if there is one; a day alone is at
midnight; a time alone is on 1970-01-01, and a local time whatever kind was asked for. -/
def parseWithFormat (s pattern : String) (kind : Kind) : Option Date := do
  let f ← readAll (itemsOfPattern pattern) s.toList
  match f.zoned?.or f.naive? with
  | some t => some ⟨t, kind⟩
  | none =>
    match f.day?, f.time? with
    | some day, _ => some ⟨⟨day, 0, 0⟩, kind⟩
    | none, some (second, nano) => some ⟨⟨0, second, nano⟩, .localTime⟩
    | none, none => none

end DocExpr.Calendar
