import DocExpr.Proofs.Calendar.Shift

/-! Setting one field of an instant. The year, the month, the day of the month and the time of day
are set apart from one another, and the day of the year stands for the month and the day. A value is
taken if the field has it in some date and the day that is then meant exists. -/
namespace DocExpr.Calendar

/-- The least and the greatest value that a field has in some date. -/
def Field.bounds : Field → Int × Int
  | .dayOfMonth => (1, 31)
  | .dayOfYear => (1, 366)
  | .hourOfDay => (0, 23)
  | .milliOfSecond => (0, 999)
  | .minuteOfHour => (0, 59)
  | .monthOfYear => (1, 12)
  | .secondOfMinute => (0, 59)
  | .year => (firstYear, lastYear)

/-- The field has the value in some date. -/
def Field.Legal (f : Field) (v : Int) : Prop := f.bounds.1 ≤ v ∧ v ≤ f.bounds.2

instance (f : Field) (v : Int) : Decidable (f.Legal v) := inferInstanceAs (Decidable (_ ∧ _))

/-- The fields that name the day in another way than this one, and so move with it. -/
def Field.linked : Field → List Field
  | .dayOfYear => [.dayOfMonth, .monthOfYear]
  | .dayOfMonth | .monthOfYear | .year => [.dayOfYear]
  | .hourOfDay | .milliOfSecond | .minuteOfHour | .secondOfMinute => []

theorem Field.Legal.nonneg {f : Field} {v : Int} (legal : f.Legal v) (notYear : f ≠ .year) :
    0 ≤ v := by
  cases f with
  | year => exact absurd rfl notYear
  | _ =>
    simp only [Field.Legal, Field.bounds] at legal
    omega

namespace Instant

/-- The value of a field. -/
def field (t : Instant) : Field → Int
  | .dayOfMonth => t.civil.day
  | .dayOfYear => t.civil.ordinal
  | .hourOfDay => t.hour
  | .milliOfSecond => t.milli
  | .minuteOfHour => t.minute
  | .monthOfYear => t.civil.month
  | .secondOfMinute => t.secondOfMinute
  | .year => t.civil.year

/-- The calendar has the day that is meant once the field has this value. -/
def DayExists (t : Instant) : Field → Int → Prop
  | .dayOfMonth, v => v ≤ monthLength t.civil.year t.civil.month
  | .dayOfYear, v => v ≤ yearLength t.civil.year
  | .monthOfYear, v => t.civil.day ≤ monthLength t.civil.year v.toNat
  | .year, v => t.civil.day ≤ monthLength v t.civil.month
  | .hourOfDay, _ | .milliOfSecond, _ | .minuteOfHour, _ | .secondOfMinute, _ => True

instance (t : Instant) : (f : Field) → (v : Int) → Decidable (t.DayExists f v)
  | .dayOfMonth, _ | .dayOfYear, _ => Int.decLe ..
  | .monthOfYear, _ | .year, _ => Nat.decLe ..
  | .hourOfDay, _ | .milliOfSecond, _ | .minuteOfHour, _ | .secondOfMinute, _ => .isTrue trivial

/-- The second instant is the first one with a field set to a value. The other fields stay, and so
do the nanoseconds, unless the milliseconds are set, which leaves nothing below them. -/
structure FieldSet (t : Instant) (f : Field) (v : Int) (u : Instant) : Prop where
  value : u.field f = v
  others : ∀ g, g ≠ f → g ∉ f.linked → u.field g = t.field g
  nano : (u.nano : Int) = if f = .milliOfSecond then v * 1000000 else t.nano

/-- A field that stays, or the field that is set, is the same in all instants with the field set. -/
theorem FieldSet.field_eq {t u w : Instant} {f : Field} {v : Int} (set : t.FieldSet f v u)
    (set' : t.FieldSet f v w) {g : Field} (apart : g ∉ f.linked) : u.field g = w.field g := by
  by_cases same : g = f
  · rw [same, set.value, set'.value]
  · rw [set.others g same apart, set'.others g same apart]

/-- There is one instant with a field set to a value. -/
theorem FieldSet.unique {t u w : Instant} {f : Field} {v : Int} (set : t.FieldSet f v u)
    (set' : t.FieldSet f v w) : u = w := by
  have same {g : Field} (apart : g ∉ f.linked) := set.field_eq set' apart
  have hour : (u.hour : Int) = w.hour := same (g := .hourOfDay) (by cases f <;> decide)
  have minute : (u.minute : Int) = w.minute := same (g := .minuteOfHour) (by cases f <;> decide)
  have second : (u.secondOfMinute : Int) = w.secondOfMinute :=
    same (g := .secondOfMinute) (by cases f <;> decide)
  have year : u.civil.year = w.civil.year := same (g := .year) (by cases f <;> decide)
  have civil : u.civil = w.civil := by
    by_cases byOrdinal : f = .dayOfYear
    · subst byOrdinal
      have ordinal : (u.civil.ordinal : Int) = w.civil.ordinal := same (g := .dayOfYear) (by decide)
      rw [← u.valid_civil.ofYearDay_ordinal, ← w.valid_civil.ofYearDay_ordinal, year,
        Int.ofNat_inj.mp ordinal]
    · have apart : Field.monthOfYear ∉ f.linked ∧ Field.dayOfMonth ∉ f.linked := by
        revert byOrdinal
        cases f <;> decide
      have month : (u.civil.month : Int) = w.civil.month := same apart.1
      have day : (u.civil.day : Int) = w.civil.day := same apart.2
      generalize u.civil = c at *
      generalize w.civil = c' at *
      obtain ⟨_, _, _⟩ := c
      obtain ⟨_, _, _⟩ := c'
      simp only [Civil.mk.injEq] at *
      omega
  have days : u.day = w.day := by
    have number := congrArg Civil.toDays civil
    rwa [Instant.civil, Instant.civil, Civil.toDays_ofDays, Civil.toDays_ofDays] at number
  have nano : (u.nano : Int) = w.nano := set.nano.trans set'.nano.symm
  simp only [Instant.hour, Instant.minute, secondOfMinute] at hour minute second
  obtain ⟨_, _, _⟩ := u
  obtain ⟨_, _, _⟩ := w
  simp only [Instant.mk.injEq] at *
  omega

/-- What setting a field comes to: an instant with the field set, or none as the value is none of the
field or the day does not exist. -/
inductive Sets (t : Instant) (f : Field) (v : Int) : Option Instant → Prop where
  | set {u : Instant} (legal : f.Legal v) (dayExists : t.DayExists f v)
      (set : t.FieldSet f v u) : Sets t f v (some u)
  | refused (not : ¬ (f.Legal v ∧ t.DayExists f v)) : Sets t f v none

variable {t u : Instant} {f : Field} {v : Int}

theorem civil_onOrdinal {year : Int} {n : Nat} (some : 1 ≤ n) (inYear : n ≤ yearLength year)
    (t : Instant) :
    ({ t with day := daysBeforeYear year + n - 1 - epochDays } : Instant).civil =
      .ofYearDay year (n - 1) :=
  ofDays_of_yearDay ⟨by dsimp only; omega, by omega⟩

/-- A field of the day is set as far as the fields of the day say so. -/
theorem FieldSet.of_clock (second : u.second = t.second) (nano : u.nano = t.nano)
    (plain : f ≠ .milliOfSecond) (value : u.field f = v)
    (others : ∀ g ∈ [.dayOfMonth, .dayOfYear, .monthOfYear, .year], g ≠ f → g ∉ f.linked →
      u.field g = t.field g) : t.FieldSet f v u where
  value := value
  others g other apart := by
    cases g with
    | dayOfMonth | dayOfYear | monthOfYear | year => exact others _ (by decide) other apart
    | hourOfDay | minuteOfHour | secondOfMinute =>
      simp only [field, hour, minute, secondOfMinute, second]
    | milliOfSecond => simp only [field, milli, nano]
  nano := by rw [if_neg plain, nano]

/-- A field of the day is set by going to the day of the calendar that has it. -/
theorem sets_onCivil {c : Civil}
    (fits : inRange c.year = true ∧ c.Valid ↔ f.Legal v ∧ t.DayExists f v)
    (set : ∀ u : Instant, u.civil = c → u.second = t.second → u.nano = t.nano →
      t.FieldSet f v u) : Sets t f v (t.onCivil? c) := by
  rw [onCivil?, Civil.toDays?_eq]
  split
  next found =>
    obtain ⟨legal, dayExists⟩ := fits.mp found
    exact .set legal dayExists (set _ found.2.ofDays_toDays rfl rfl)
  next lost => exact .refused (fits.not.mp lost)

section
variable (represented : t.Represented)
include represented

theorem sets_dayOfMonth (n : Nat) : Sets t .dayOfMonth n (t.withNat? .dayOfMonth n) := by
  have valid := t.valid_civil
  refine sets_onCivil ?_ fun u civil second nano => ?_
  · have short := monthLength_le t.civil.year t.civil.month
    have inYear : inRange t.civil.year = true := represented.year
    simp only [inYear, true_and, Field.Legal, Field.bounds, DayExists]
    constructor
    · rintro ⟨-, -, first, last⟩
      dsimp only at first last
      omega
    · rintro ⟨⟨first, -⟩, last⟩
      exact ⟨valid.firstMonth, valid.lastMonth, by dsimp only; omega, by dsimp only; omega⟩
  · refine .of_clock second nano (by decide) (by simp [field, civil]) fun g _ other apart => ?_
    cases g <;> simp_all [field, Field.linked]

theorem sets_monthOfYear (n : Nat) : Sets t .monthOfYear n (t.withNat? .monthOfYear n) := by
  have valid := t.valid_civil
  refine sets_onCivil ?_ fun u civil second nano => ?_
  · have inYear : inRange t.civil.year = true := represented.year
    simp only [inYear, true_and, Field.Legal, Field.bounds, DayExists, Int.toNat_natCast]
    constructor
    · rintro ⟨first, last, -, day⟩
      dsimp only at first last day
      omega
    · rintro ⟨⟨first, last⟩, day⟩
      exact ⟨by dsimp only; omega, by dsimp only; omega, valid.firstDay, by dsimp only; omega⟩
  · refine .of_clock second nano (by decide) (by simp [field, civil]) fun g _ other apart => ?_
    cases g <;> simp_all [field, Field.linked]

omit represented in
theorem sets_year (v : Int) : Sets t .year v (t.onCivil? { t.civil with year := v }) := by
  have valid := t.valid_civil
  refine sets_onCivil ?_ fun u civil second nano => ?_
  · simp only [inRange, Bool.and_eq_true, decide_eq_true_eq, Field.Legal, Field.bounds, DayExists]
    refine and_congr_right fun _ => ⟨fun found => ?_, fun day => ?_⟩
    · have last := found.lastDay
      dsimp only at last
      omega
    · exact ⟨valid.firstMonth, valid.lastMonth, valid.firstDay, by dsimp only; omega⟩
  · refine .of_clock second nano (by decide) (by simp [field, civil]) fun g _ other apart => ?_
    cases g <;> simp_all [field, Field.linked]

theorem sets_dayOfYear (n : Nat) : Sets t .dayOfYear n (t.withNat? .dayOfYear n) := by
  have inYear : inRange t.civil.year = true := represented.year
  have most : yearLength t.civil.year ≤ 366 := by
    unfold yearLength
    split <;> omega
  simp only [withNat?, ordinalDays?, inYear, Bool.true_and, Bool.and_eq_true, decide_eq_true_eq]
  split
  next found =>
    obtain ⟨first, last⟩ := found
    have civil := civil_onOrdinal first last t
    have inside : n - 1 < yearLength t.civil.year := by omega
    have ordinal := (Civil.ofYearDay_spec inside).2
    refine .set ?_ ?_ (.of_clock rfl rfl (by decide) ?_ fun g _ other apart => ?_)
    · simp only [Field.Legal, Field.bounds]
      omega
    · simp only [DayExists]
      omega
    · rw [field, civil, ordinal]
      omega
    · cases g <;> simp_all [field, Field.linked]
      rfl
  next lost =>
    refine .refused ?_
    simp only [Field.Legal, Field.bounds, DayExists]
    omega

end

theorem FieldSet.atTime {hour minute second : Nat} (inHour : minute < 60) (inMinute : second < 60)
    (plain : f ∈ [.hourOfDay, .minuteOfHour, .secondOfMinute])
    (hours : (hour : Int) = if f = .hourOfDay then v else t.hour)
    (minutes : (minute : Int) = if f = .minuteOfHour then v else t.minute)
    (seconds : (second : Int) = if f = .secondOfMinute then v else t.secondOfMinute) :
    t.FieldSet f v (t.atTime hour minute second) := by
  have isHour : (t.atTime hour minute second).hour = hour := by
    simp only [Instant.atTime, Instant.hour]
    omega
  have isMinute : (t.atTime hour minute second).minute = minute := by
    simp only [Instant.atTime, Instant.minute]
    omega
  have isSecond : (t.atTime hour minute second).secondOfMinute = second := by
    simp only [Instant.atTime, Instant.secondOfMinute]
    omega
  simp only [List.mem_cons, List.not_mem_nil, or_false] at plain
  refine ⟨?_, fun g other _ => ?_, ?_⟩
  · rcases plain with rfl | rfl | rfl <;> simp_all [field]
  · rcases plain with rfl | rfl | rfl <;> cases g <;>
      simp_all [field, civil, milli, Instant.atTime]
  · rcases plain with rfl | rfl | rfl <;> rfl

/-- A field of the clock is set if the value is below its bound. -/
theorem sets_clock {n bound : Nat} {found : Instant} (legal : f.Legal n ↔ n < bound)
    (always : t.DayExists f n) (set : n < bound → t.FieldSet f n found) :
    Sets t f n (if n < bound then some found else none) := by
  split
  next inside => exact .set (legal.mpr inside) always (set inside)
  next beyond => exact .refused fun ⟨inside, _⟩ => beyond (legal.mp inside)

theorem sets_time (t : Instant) (n : Nat) :
    Sets t .hourOfDay n (t.withNat? .hourOfDay n) ∧
      Sets t .minuteOfHour n (t.withNat? .minuteOfHour n) ∧
      Sets t .secondOfMinute n (t.withNat? .secondOfMinute n) := by
  have minute : t.minute < 60 := Nat.mod_lt _ (by decide)
  have second : t.secondOfMinute < 60 := Nat.mod_lt _ (by decide)
  refine ⟨sets_clock ?_ trivial fun inside => ?_, sets_clock ?_ trivial fun inside => ?_,
    sets_clock ?_ trivial fun inside => ?_⟩
  · simp only [Field.Legal, Field.bounds]
    omega
  · exact .atTime minute second (by decide) rfl rfl rfl
  · simp only [Field.Legal, Field.bounds]
    omega
  · exact .atTime inside second (by decide) rfl rfl rfl
  · simp only [Field.Legal, Field.bounds]
    omega
  · exact .atTime minute inside (by decide) rfl rfl rfl

theorem sets_milliOfSecond (t : Instant) (n : Nat) :
    Sets t .milliOfSecond n (t.withNat? .milliOfSecond n) := by
  refine sets_clock ?_ trivial fun inside => ⟨?_, fun g other _ => ?_, ?_⟩
  · simp only [Field.Legal, Field.bounds]
    omega
  · simp [field, milli]
  · cases g with
    | milliOfSecond => exact absurd rfl other
    | _ => rfl
  · rw [if_pos rfl]
    exact Int.natCast_mul n 1000000

theorem sets_withNat? (represented : t.Represented) (notYear : f ≠ .year) (n : Nat) :
    Sets t f n (t.withNat? f n) := by
  cases f with
  | dayOfMonth => exact sets_dayOfMonth represented n
  | dayOfYear => exact sets_dayOfYear represented n
  | hourOfDay => exact (sets_time t n).1
  | milliOfSecond => exact sets_milliOfSecond t n
  | minuteOfHour => exact (sets_time t n).2.1
  | monthOfYear => exact sets_monthOfYear represented n
  | secondOfMinute => exact (sets_time t n).2.2
  | year => exact absurd rfl notYear

/-- Setting a field of an instant that is no leap second leads to no leap second. -/
theorem FieldSet.inBounds (regular : t.Regular) (legal : f.Legal v) (set : t.FieldSet f v u) :
    u.inBounds = true := by
  have year : inRange u.civil.year = true := by
    by_cases isYear : f = .year
    · subst isYear
      have value : u.civil.year = v := set.value
      rw [inRange, value, Bool.and_eq_true, decide_eq_true_eq, decide_eq_true_eq]
      exact legal
    · have same : u.civil.year = t.civil.year :=
        set.others .year (Ne.symm isYear) (by cases f <;> decide)
      rw [same]
      exact regular.represented.year
  have noLeap : u.nano < 1000000000 := by
    have kept := set.nano
    have := regular.noLeap
    split at kept
    next isMilli =>
      subst isMilli
      simp only [Field.Legal, Field.bounds] at legal
      omega
    next => omega
  have inYear : inRange (yearOfDays u.day).1 = true := year
  simp [Instant.inBounds, inYear, noLeap]

theorem withField?_of_ne {f : Field} (notYear : f ≠ .year) (t : Instant) (v : Int) :
    t.withField? f v = (if 0 ≤ v then t.withNat? f v.toNat else none).filter inBounds := by
  cases f with
  | year => exact absurd rfl notYear
  | _ => rfl

/-- Setting a field does so for the values of the field that name a day, and for no others. -/
theorem sets_withField? (regular : t.Regular) (f : Field) (v : Int) :
    Sets t f v (t.withField? f v) := by
  have moved : ∃ r, t.withField? f v = r.filter inBounds ∧ Sets t f v r := by
    by_cases isYear : f = .year
    · subst isYear
      exact ⟨_, rfl, sets_year v⟩
    · refine ⟨_, withField?_of_ne isYear t v, ?_⟩
      split
      next natural =>
        have sets := sets_withNat? regular.represented isYear v.toNat
        rwa [Int.toNat_of_nonneg natural] at sets
      next negative => exact .refused fun ⟨legal, _⟩ => negative (legal.nonneg isYear)
  obtain ⟨r, found, sets⟩ := moved
  rw [found]
  cases sets with
  | @set u legal dayExists set =>
    rw [Option.filter_some, if_pos (set.inBounds regular legal)]
    exact .set legal dayExists set
  | refused not => exact .refused not

end Instant
end DocExpr.Calendar
