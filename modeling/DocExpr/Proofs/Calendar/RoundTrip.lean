import DocExpr.Calendar.Reading
import DocExpr.Proofs.Calendar.Parts
import DocExpr.Proofs.Calendar.Standard
import DocExpr.Proofs.Number.RoundTrip

/-! Reading the standard text of a date. Each field is read from what was written for it, over any
rest that starts with no digit, and the fields determine the instant that they were taken from. -/
namespace DocExpr.Calendar
open DocExpr.Json (NoDigit)
open DocExpr.Number (Digits digitChars isDigit natOfDigits)

theorem digits_padded (width n : Nat) : Digits (padded width n) where
  some := by simp [padded, (Number.digits_digitChars n).some]
  all c isIn := (List.mem_append.mp isIn).elim (Number.isDigit_zeros _ c)
    ((Number.digits_digitChars n).all c)

theorem natOfDigits_padded (width n : Nat) : natOfDigits (padded width n) = n := by
  rw [padded, Number.natOfDigits_zeros_append, Number.natOfDigits_digitChars]

theorem length_padded {width n : Nat} (wide : 0 < width) (short : n < 10 ^ width) :
    (padded width n).length = width := by
  have : (digitChars n).length ≤ width := (Nat.length_toDigits_le_iff (by decide) wide).mpr short
  simp only [padded, List.length_append, List.length_replicate]
  omega

section
variable {rest : List Char}

theorem takeNumber_digits (least most : Nat) {digits : List Char}
    (all : ∀ c ∈ digits, isDigit c = true) (long : least ≤ digits.length)
    (short : digits.length ≤ most) (ends : digits.length = most ∨ NoDigit rest)
    (small : natOfDigits digits < 2 ^ 63) :
    takeNumber least most (digits ++ rest) = some (natOfDigits digits, rest) := by
  have front : ((digits ++ rest).take most).takeWhile isDigit = digits := by
    rw [List.take_append, List.take_of_length_le short]
    refine Json.takeWhile_front all fun c isHead => ?_
    rw [List.head?_take] at isHead
    split at isHead
    · cases isHead
    · refine ends.resolve_left ?_ c isHead
      omega
  have within : ¬ digits.length < least := by omega
  simp only [takeNumber, front, within, if_false, Nat.pow_eq, small, if_true, List.drop_left]

theorem takeNumber_padded (least most : Nat) {width n : Nat} (wide : 0 < width)
    (short : n < 10 ^ width) (long : least ≤ width) (within : width ≤ most)
    (ends : width = most ∨ NoDigit rest) (small : n < 2 ^ 63) :
    takeNumber least most (padded width n ++ rest) = some (n, rest) := by
  have length := length_padded wide short
  have digits := (digits_padded width n).all
  rw [← natOfDigits_padded width n] at small
  rw [takeNumber_digits least most digits (by omega) (by omega) (by rwa [length]) small,
    natOfDigits_padded]

theorem exactDigits_padded (width n : Nat) (wide : 0 < width) (short : n < 10 ^ width)
    (small : n < 2 ^ 63) : exactDigits width (padded width n ++ rest) = some ((n : Int), rest) := by
  rw [exactDigits, takeNumber_padded width width wide short (Nat.le_refl _) (Nat.le_refl _)
    (.inl rfl) small]
  rfl

theorem trimLeft_digits {digits : List Char} (isDigits : Digits digits) (rest : List Char) :
    Text.trimLeft (digits ++ rest) = digits ++ rest := by
  obtain ⟨c, more, rfl, digit⟩ := isDigits.cons
  have solid : Text.isBlank c = false := Number.isBlank_of_isDigit digit
  simp [Text.trimLeft, solid]

theorem readNumber_plain {field : NumberField} (plain : field ≠ .year) (cs : List Char) :
    readNumber field cs =
      (takeNumber 1 field.width (Text.trimLeft cs)).map fun (n, rest) => ((n : Int), rest) := by
  cases field with
  | year => exact absurd rfl plain
  | _ => rfl

theorem readNumber_digits {digits : List Char} (isDigits : Digits digits) (rest : List Char) :
    readNumber .year (digits ++ rest) =
      (takeNumber 1 4 (digits ++ rest)).map fun (n, rest) => ((n : Int), rest) := by
  have trimmed := trimLeft_digits isDigits rest
  obtain ⟨c, more, rfl, digit⟩ := isDigits.cons
  unfold readNumber
  rw [trimmed]
  dsimp only
  split
  next same =>
    cases same
    cases digit
  next same =>
    cases same
    cases digit
  next => rfl

theorem readNumber_two {field : NumberField} (plain : field ≠ .year) (narrow : field.width = 2)
    {n : Nat} (short : n < 100) :
    readNumber field (padded 2 n ++ rest) = some ((n : Int), rest) := by
  rw [readNumber_plain plain, trimLeft_digits (digits_padded 2 n), narrow,
    takeNumber_padded 1 2 (by decide) short (by decide) (by decide) (.inl rfl) (by omega)]
  rfl

/-- A year is read from what was written for it, with its sign. -/
theorem readNumber_year {year : Int} (small : year.natAbs < 2 ^ 63) (ends : NoDigit rest) :
    readNumber .year (yearText year true ++ rest) = some (year, rest) := by
  unfold yearText
  dsimp only
  rw [if_pos rfl]
  split
  next four =>
    have short : year.natAbs < 10 ^ 4 := by omega
    have same : (year.natAbs : Int) = year := by omega
    rw [readNumber_digits (digits_padded 4 _), takeNumber_padded 1 4 (by decide) short (by decide)
      (by decide) (.inl rfl) small, Option.map_some]
    dsimp only
    rw [same]
  next =>
    have digits := digits_padded 4 year.natAbs
    have long : 1 ≤ (padded 4 year.natAbs).length := List.length_pos_of_ne_nil digits.some
    have taken := takeNumber_digits 1 (padded 4 year.natAbs ++ rest).length digits.all long
      (by simp) (.inr ends)
    rw [natOfDigits_padded] at taken
    have taken := taken small
    by_cases negative : year < 0
    · have minus : readNumber .year ('-' :: (padded 4 year.natAbs ++ rest)) =
          (takeNumber 1 (padded 4 year.natAbs ++ rest).length (padded 4 year.natAbs ++ rest)).map
            fun (n, rest) => (-(n : Int), rest) := rfl
      rw [if_pos negative, List.cons_append, minus, taken]
      exact congrArg (fun y => some (y, rest)) (by omega)
    · have plus : readNumber .year ('+' :: (padded 4 year.natAbs ++ rest)) =
          (takeNumber 1 (padded 4 year.natAbs ++ rest).length (padded 4 year.natAbs ++ rest)).map
            fun (n, rest) => ((n : Int), rest) := rfl
      rw [if_neg negative, List.cons_append, plus, taken]
      exact congrArg (fun y => some (y, rest)) (by omega)

theorem takeNanos_milli {milli : Nat} (short : milli < 1000) (ends : NoDigit rest) :
    takeNanos (padded 3 milli ++ rest) = some (milli * 1000000, rest) := by
  have length : (padded 3 milli).length = 3 := length_padded (by decide) short
  have passed : ([] ++ rest).dropWhile isDigit = rest :=
    Json.dropWhile_front (fun _ isIn => nomatch isIn) ends
  have count : (padded 3 milli ++ rest).length - rest.length = 3 := by
    rw [List.length_append, length, Nat.add_sub_cancel]
  have taken : takeNumber 1 9 (padded 3 milli ++ rest) = some (milli, rest) :=
    takeNumber_padded 1 9 (by decide) short (by decide) (by decide) (.inr ends) (by omega)
  rw [takeNanos, taken]
  change some (milli * 10 ^ (9 - ((padded 3 milli ++ rest).length - rest.length)),
    rest.dropWhile isDigit) = _
  rw [count]
  exact congrArg (fun cs => some (milli * 1000000, cs)) passed

end

/-- No leap second, and nothing below the milliseconds. -/
structure Instant.WholeMillis (t : Instant) : Prop where
  noLeap : t.nano < 1000000000
  whole : t.nano % 1000000 = 0

/-- A day in front of a rest. -/
def dayText (c : Civil) (rest : List Char) : List Char :=
  yearText c.year true ++ '-' :: (padded 2 c.month ++ '-' :: (padded 2 c.day ++ rest))

/-- Hour and minute in front of a rest. -/
def clockText (t : Instant) (rest : List Char) : List Char :=
  padded 2 t.hour ++ ':' :: (padded 2 t.minute ++ rest)

/-- Seconds and milliseconds in front of a rest. -/
def secondText (t : Instant) (rest : List Char) : List Char :=
  padded 2 t.secondOfMinute ++ '.' :: (padded 3 t.milli ++ rest)

/-- A time stamp in front of a rest. -/
def stampText (t : Instant) (rest : List Char) : List Char :=
  dayText t.civil ('T' :: clockText t (':' :: secondText t rest))

/-- The items of a day. -/
def dayItems : List Item :=
  [.number .year true, .literal ['-'], .number .month true, .literal ['-'], .number .day true]

/-- The items of hour and minute. -/
def clockItems : List Item := [.number .hour true, .literal [':'], .number .minute true]

/-- The items of a time stamp, which differ in how the fraction is given. -/
def stampItems (fraction : Item) : List Item :=
  dayItems ++ .literal ['T'] :: (clockItems ++ [.literal [':'], .number .second true, fraction])

theorem flatMap_stampItems {t : Instant} (whole : t.WholeMillis) (rest : List Char) :
    (stampItems (.pointFraction (some 3))).flatMap (itemText t 0) ++ rest = stampText t rest := by
  have noLeap : t.nano / 1000000000 = 0 := Nat.div_eq_of_lt whole.noLeap
  have fraction : t.nano % 1000000000 = t.nano := Nat.mod_eq_of_lt whole.noLeap
  simp [stampItems, dayItems, clockItems, itemText, numberText, noLeap, fractionText, fraction,
    stampText, dayText, clockText, secondText, Instant.milli]

theorem isoText_dateTime {t : Instant} (whole : t.WholeMillis) :
    (Date.isoText ⟨t, .dateTime⟩).toList = stampText t ['Z'] := by
  have items : itemsOf Kind.dateTime.specifiers.toList =
      stampItems (.pointFraction (some 3)) ++ [Item.literal ['Z']] := by rfl
  rw [Date.isoText, String.toList_ofList, items, List.flatMap_append, ← flatMap_stampItems whole]
  rfl

theorem isoText_localDateTime {t : Instant} (whole : t.WholeMillis) :
    (Date.isoText ⟨t, .localDateTime⟩).toList = stampText t [] := by
  have items : itemsOf Kind.localDateTime.specifiers.toList =
      stampItems (.pointFraction (some 3)) := by rfl
  rw [Date.isoText, String.toList_ofList, items, ← flatMap_stampItems whole, List.append_nil]

namespace Fields
variable {f : Fields} {n : Nat}

theorem setNumber?_year {v : Int} (absent : f.year = none)
    (small : -2147483648 ≤ v ∧ v < 2147483648) :
    f.setNumber? .year v = some { f with year := some v } := by
  simp [setNumber?, absent, small, agree]

theorem setNumber?_month (absent : f.month = none) (inYear : 1 ≤ n ∧ n ≤ 12) :
    f.setNumber? .month n = some { f with month := some n } := by
  simp [setNumber?, absent, inYear, agree]

theorem setNumber?_day (absent : f.day = none) (inMonth : 1 ≤ n ∧ n ≤ 31) :
    f.setNumber? .day n = some { f with day := some n } := by
  simp [setNumber?, absent, inMonth, agree]

theorem setNumber?_hour (absent : f.half = none) (absent' : f.hourOfHalf = none) (inDay : n < 24) :
    f.setNumber? .hour n = some { f with half := some (n / 12), hourOfHalf := some (n % 12) } := by
  simp [setNumber?, absent, absent', inDay, agree]

theorem setNumber?_minute (absent : f.minute = none) (inHour : n < 60) :
    f.setNumber? .minute n = some { f with minute := some n } := by
  simp [setNumber?, absent, inHour, agree]

theorem setNumber?_second (absent : f.second = none) (inMinute : n ≤ 60) :
    f.setNumber? .second n = some { f with second := some n } := by
  simp [setNumber?, absent, inMinute, agree]

/-- The fields of a time stamp up to the day. -/
def ofCivil (c : Civil) : Fields where
  year := some c.year
  month := some c.month
  day := some c.day

/-- The fields of a time stamp up to the minute. -/
def ofMinutes (t : Instant) : Fields :=
  { ofCivil t.civil with
    half := some (t.hour / 12), hourOfHalf := some (t.hour % 12), minute := some t.minute }

/-- The fields of a time stamp up to the second. -/
def ofSeconds (t : Instant) : Fields := { ofMinutes t with second := some t.secondOfMinute }

/-- The fields of a time stamp. -/
def ofInstant (t : Instant) : Fields := { ofSeconds t with nano := some (t.milli * 1000000) }

end Fields

theorem noDigit_cons {c : Char} (other : isDigit c = false) (rest : List Char) :
    NoDigit (c :: rest) := by
  intro d same
  cases same
  exact other

theorem noDigit_nil : NoDigit [] := fun _ none => nomatch none

theorem readItems_literal {f : Fields} {c : Char} {cs : List Char} {items : List Item} :
    readItems f (c :: cs) (.literal [c] :: items) = readItems f cs items := by
  simp [readItems, readItem, Text.dropPrefix?]

theorem readItems_number {f f' : Fields} {field : NumberField} {cs rest : List Char} {v : Int}
    (read : readNumber field cs = some (v, rest)) (given : f.setNumber? field v = some f')
    (zeros : Bool) (items : List Item) :
    readItems f cs (.number field zeros :: items) = readItems f' rest items := by
  simp [readItems, readItem, read, given]

theorem readItem_fraction {t : Instant} {rest : List Char} (short : t.milli < 1000)
    (ends : NoDigit rest) :
    readItem (.ofSeconds t) ('.' :: (padded 3 t.milli ++ rest)) (.pointFraction none) =
      some (.ofInstant t, rest) := by
  have nanos := takeNanos_milli short ends
  simp [readItem, nanos, Fields.setNano?, agree, Fields.ofSeconds, Fields.ofMinutes,
    Fields.ofCivil, Fields.ofInstant]

theorem standardField_padded {f f' : Fields} {field : NumberField} (width n : Nat)
    (wide : 0 < width) (short : n < 10 ^ width) (small : n < 2 ^ 63)
    (given : f.setNumber? field n = some f') (rest : List Char) :
    standardField f [] field width (padded width n ++ rest) = some (f', rest) := by
  simp [standardField, Text.dropPrefix?, exactDigits_padded width n wide short small, given]

theorem standardField_two {f f' : Fields} {field : NumberField} {n : Nat} (short : n < 100)
    (given : f.setNumber? field n = some f') (c : Char) (rest : List Char) :
    standardField f [c] field 2 (c :: (padded 2 n ++ rest)) = some (f', rest) := by
  have read := standardField_padded 2 n (by decide) short (by omega) given rest
  simpa [standardField, Text.dropPrefix?] using read

/-- Behind a year with a sign nothing is read as a standard time stamp. -/
theorem readStandard_signed {c : Civil} (outside : ¬ (0 ≤ c.year ∧ c.year < 10000))
    (rest : List Char) : readStandard (dayText c rest) = none := by
  have noYear : standardField {} [] .year 4 (dayText c rest) = none := by
    have sign (mark : Char) (noDigit : isDigit mark = false) (cs : List Char) :
        exactDigits 4 (mark :: cs) = none := by
      simp [exactDigits, takeNumber, noDigit]
    simp only [standardField, Text.dropPrefix?, dayText, yearText, outside, if_false]
    split
    · simp [sign '-' rfl]
    · simp [sign '+' rfl]
  rw [readStandard, noYear]
  rfl

theorem readAll_left {items : List Item} {cs : List Char} {f : Fields} {c : Char}
    {rest : List Char} (read : readItems {} cs items = some (f, c :: rest)) :
    readAll items cs = none := by
  rw [readAll, read]

section
variable {t : Instant} (represented : t.Represented)
include represented

theorem readItems_day (rest : List Char) (items : List Item) :
    readItems {} (dayText t.civil rest) (dayItems ++ items) =
      readItems (.ofCivil t.civil) rest items := by
  have valid : t.civil.Valid := Civil.valid_ofDays t.day
  have months : 1 ≤ t.civil.month ∧ t.civil.month ≤ 12 := ⟨valid.firstMonth, valid.lastMonth⟩
  have days := t.dayOfMonth_bounds
  have years := represented.year_bounds
  have small : t.civil.year.natAbs < 2 ^ 63 := by omega
  -- one step for each number, the marks between them being passed over
  refine (readItems_number (readNumber_year small (noDigit_cons rfl _))
    (Fields.setNumber?_year rfl (by omega)) true _).trans (readItems_literal.trans ?_)
  refine (readItems_number (readNumber_two (by decide) rfl (by omega))
    (Fields.setNumber?_month rfl months) true _).trans (readItems_literal.trans ?_)
  exact readItems_number (readNumber_two (by decide) rfl (by omega))
    (Fields.setNumber?_day rfl days) true _

theorem readItems_clock (rest : List Char) (items : List Item) :
    readItems (.ofCivil t.civil) (clockText t rest) (clockItems ++ items) =
      readItems (.ofMinutes t) rest items := by
  obtain ⟨hours, minutes, -, -⟩ := represented.part_bounds
  refine (readItems_number (readNumber_two (by decide) rfl (by omega))
    (Fields.setNumber?_hour rfl rfl hours) true _).trans (readItems_literal.trans ?_)
  exact readItems_number (readNumber_two (by decide) rfl (by omega))
    (Fields.setNumber?_minute rfl minutes) true _

theorem readItems_stamp {rest : List Char} (whole : t.WholeMillis) (ends : NoDigit rest) :
    readItems {} (stampText t rest) (stampItems (.pointFraction none)) =
      some (.ofInstant t, rest) := by
  obtain ⟨-, -, seconds, -⟩ := represented.part_bounds
  have milli : t.milli < 1000 := Nat.div_lt_of_lt_mul whole.noLeap
  rw [stampText, stampItems, readItems_day represented, readItems_literal,
    readItems_clock represented, readItems_literal]
  refine (readItems_number (readNumber_two (by decide) rfl (by omega))
    (Fields.setNumber?_second rfl (by omega)) true _).trans ?_
  change readItems (.ofSeconds t) _ _ = _
  rw [readItems, readItem_fraction milli ends]
  rfl

theorem readAll_stamp (whole : t.WholeMillis) :
    readAll (specified "%Y-%m-%dT%H:%M:%S%.f") (stampText t []) = some (.ofInstant t) := by
  have items : specified "%Y-%m-%dT%H:%M:%S%.f" = stampItems (.pointFraction none) := by rfl
  rw [readAll, items, readItems_stamp represented whole noDigit_nil]

theorem day?_ofInstant (offset : Option Int) :
    { Fields.ofInstant t with offset }.day? = some t.day := by
  have counted : Civil.toDays? t.civil = some t.day := Civil.toDays?_ofDays represented.year
  have same : Civil.ofDays t.day = t.civil := rfl
  simp [Fields.day?, Fields.fullYear?, Fields.ofInstant, Fields.ofSeconds, Fields.ofMinutes,
    Fields.ofCivil, counted, same]

theorem time?_ofInstant (whole : t.WholeMillis) (offset : Option Int) :
    { Fields.ofInstant t with offset }.time? = some (t.second, t.nano) := by
  have := represented.second
  have := whole.whole
  have inMinute : t.secondOfMinute ≠ 60 := by
    unfold Instant.secondOfMinute
    omega
  have clock : 3600 * (12 * (t.hour / 12) + t.hour % 12) + 60 * t.minute + t.secondOfMinute =
      t.second := by
    simp only [Instant.hour, Instant.minute, Instant.secondOfMinute]
    omega
  have nano : t.milli * 1000000 = t.nano := by
    unfold Instant.milli
    omega
  simp [Fields.time?, Fields.ofInstant, Fields.ofSeconds, Fields.ofMinutes, inMinute, clock, nano]

theorem naive?_ofInstant (whole : t.WholeMillis) (offset : Option Int) :
    { Fields.ofInstant t with offset }.naive? = some t := by
  simp [Fields.naive?, day?_ofInstant represented, time?_ofInstant represented whole]

theorem zoned?_ofInstant (whole : t.WholeMillis) :
    { Fields.ofInstant t with offset := some 0 }.zoned? = some t := by
  have := represented.second
  have day : t.day + (t.second : Int) / 86400 = t.day := by omega
  have second : ((t.second : Int) % 86400).toNat = t.second := by omega
  simp [Fields.zoned?, naive?_ofInstant represented whole, Instant.ahead, Instant.onDay?, day,
    second, represented.year]

theorem readNaive_stamp (whole : t.WholeMillis) : readNaive (stampText t []) = some t := by
  have naive : (Fields.ofInstant t).naive? = some t := naive?_ofInstant represented whole none
  simp [readNaive, readAll_stamp represented whole, naive]

theorem readStandard_stamp (whole : t.WholeMillis)
    (inside : 0 ≤ t.civil.year ∧ t.civil.year < 10000) {rest : List Char} (ends : NoDigit rest) :
    readStandard (stampText t rest) = (readStandardZone rest).bind fun (offset, rest) =>
      if rest.isEmpty then { Fields.ofInstant t with offset := some offset }.zoned? else none := by
  have valid : t.civil.Valid := Civil.valid_ofDays t.day
  have months : 1 ≤ t.civil.month ∧ t.civil.month ≤ 12 := ⟨valid.firstMonth, valid.lastMonth⟩
  have days := t.dayOfMonth_bounds
  obtain ⟨hours, minutes, seconds, -⟩ := represented.part_bounds
  have milli : t.milli < 1000 := Nat.div_lt_of_lt_mul whole.noLeap
  have positive : (t.civil.year.natAbs : Int) = t.civil.year := by omega
  have written : yearText t.civil.year true = padded 4 t.civil.year.natAbs := by
    simp [yearText, inside]
  have year := standardField_padded (f := {}) 4 t.civil.year.natAbs (by decide) (by omega)
    (by omega) (Fields.setNumber?_year rfl (by omega))
  have month := standardField_two (f := { year := some t.civil.year }) (by omega)
    (Fields.setNumber?_month rfl months) '-'
  have day := standardField_two
    (f := { year := some t.civil.year, month := some t.civil.month }) (by omega)
    (Fields.setNumber?_day rfl days) '-'
  have hour := standardField_padded (f := .ofCivil t.civil) 2 t.hour (by decide) (by omega)
    (by omega) (Fields.setNumber?_hour rfl rfl hours)
  have minute := standardField_two (f := { Fields.ofCivil t.civil with
    half := some (t.hour / 12), hourOfHalf := some (t.hour % 12) }) (by omega)
    (Fields.setNumber?_minute rfl minutes) ':'
  have second := standardField_two (f := .ofMinutes t) (n := t.secondOfMinute) (by omega)
    (Fields.setNumber?_second rfl (by omega)) ':'
  have fraction := readItem_fraction (t := t) milli ends
  rw [positive] at year
  simp only [Fields.ofInstant, Fields.ofSeconds, Fields.ofMinutes, Fields.ofCivil]
    at hour minute second fraction ⊢
  simp only [readStandard, stampText, dayText, clockText, secondText, written, year, month, day,
    hour, minute, second, fraction,
    Option.bind_eq_bind, Option.bind_some]

/-- The mark of a zone keeps a text from being a time stamp without one. -/
theorem readNaive_zoned (whole : t.WholeMillis) : readNaive (stampText t ['Z']) = none := by
  have full := readItems_stamp represented whole (noDigit_cons (c := 'Z') rfl [])
  have short : readItems {} (stampText t ['Z']) (dayItems ++ .literal ['T'] :: clockItems) =
      some (.ofMinutes t, ':' :: secondText t ['Z']) := by
    have clock := readItems_clock represented (':' :: secondText t ['Z']) []
    rw [List.append_nil] at clock
    rw [stampText, readItems_day represented, readItems_literal, clock]
    rfl
  have spaced (items : List Item) : readItems {} (stampText t ['Z'])
      (dayItems ++ .space [' '] :: .number .hour true :: items) = none := by
    rw [stampText, readItems_day represented]
    rfl
  have day : readItems {} (stampText t ['Z']) dayItems =
      some (.ofCivil t.civil, 'T' :: clockText t (':' :: secondText t ['Z'])) := by
    have day := readItems_day represented ('T' :: clockText t (':' :: secondText t ['Z'])) []
    rwa [List.append_nil] at day
  have first : specified "%Y-%m-%dT%H:%M:%S%.f" = stampItems (.pointFraction none) := by rfl
  have second : specified "%Y-%m-%dT%H:%M" = dayItems ++ .literal ['T'] :: clockItems := by rfl
  have third : specified "%Y-%m-%d %H:%M:%S%.f" = dayItems ++ .space [' '] :: .number .hour true ::
    [.literal [':'], .number .minute true, .literal [':'], .number .second true,
      .pointFraction none] := by rfl
  have fourth : specified "%Y-%m-%d %H:%M" = dayItems ++ .space [' '] :: .number .hour true ::
    [.literal [':'], .number .minute true] := by rfl
  have fifth : specified "%Y-%m-%d" = dayItems := by rfl
  have unspaced (items : List Item) : readAll (dayItems ++ .space [' '] :: .number .hour true ::
      items) (stampText t ['Z']) = none := by
    rw [readAll, spaced]
  simp [readNaive, readDay, first, second, third, fourth, fifth, readAll_left full,
    readAll_left short, readAll_left day, unspaced]

theorem parseLocal_isoText (whole : t.WholeMillis) :
    parseLocal (Date.isoText ⟨t, .localDateTime⟩) .localDateTime = some ⟨t, .localDateTime⟩ := by
  have standard : readStandard (stampText t []) = none := by
    by_cases inside : 0 ≤ t.civil.year ∧ t.civil.year < 10000
    · rw [readStandard_stamp represented whole inside noDigit_nil]
      rfl
    · exact readStandard_signed inside _
  have stamp : readStamp (stampText t []) = some t := by
    rw [readStamp, standard, readNaive_stamp represented whole]
    rfl
  rw [parseLocal, trim_isoText, isoText_localDateTime whole]
  simp [stamp]

/-- Years that need a sign are not read back in front of the mark of a zone. -/
theorem parseDefault_isoText (whole : t.WholeMillis) :
    parseDefault (Date.isoText ⟨t, .dateTime⟩) =
      if 0 ≤ t.civil.year ∧ t.civil.year < 10000 then some ⟨t, .dateTime⟩ else none := by
  rw [parseDefault, trim_isoText, isoText_dateTime whole, readStamp,
    readNaive_zoned represented whole, Option.or_none]
  split
  next inside =>
    have standard := readStandard_stamp represented whole inside (noDigit_cons (c := 'Z') rfl [])
    have zoned := zoned?_ofInstant represented whole
    rw [standard]
    simp [readStandardZone, zoned]
  next outside =>
    rw [stampText, readStandard_signed outside]
    rfl

end
end DocExpr.Calendar
