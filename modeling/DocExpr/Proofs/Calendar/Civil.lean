import DocExpr.Calendar.Civil
import Mathlib.Algebra.GroupWithZero.Nat
import Mathlib.Tactic.ByContra

/-! Days and calendar days are the same thing counted in two ways: every number of a day belongs to
one day of one month of one year, and that day has this number. -/
namespace DocExpr.Calendar

theorem isLeapYear_iff (year : Int) :
    isLeapYear year = true ↔ year % 4 = 0 ∧ (year % 100 ≠ 0 ∨ year % 400 = 0) := by
  simp [isLeapYear]

theorem inRange_iff (year : Int) : inRange year = true ↔ -262143 ≤ year ∧ year ≤ 262142 := by
  rw [inRange, Bool.and_eq_true, decide_eq_true_eq, decide_eq_true_eq]
  rfl

/-- A year, and a day of it counted from zero, for a day counted from 1970-01-01. -/
structure YearDay (days year : Int) (k : Nat) : Prop where
  counted : daysBeforeYear year + k = days + epochDays
  inside : k < yearLength year

/-- A day is counted from the start of its cycle of 400 years, its century, its four years and its
year; only a longest stretch has a day more than the others. -/
theorem yearOfDays_yearDay (days : Int) :
    YearDay days (yearOfDays days).1 (yearOfDays days).2 := by
  simp only [yearOfDays]
  generalize count : days + epochDays = n
  generalize cycle : n / 146097 = a
  generalize r : (n % 146097).toNat = b
  generalize century : min (b / 36524) 3 = c
  generalize r' : b - 36524 * c = d
  generalize four : d / 1461 = e
  generalize r'' : d % 1461 = f
  generalize one : min (f / 365) 3 = g
  have cycleLong : b < 146097 := by omega
  have centuryLong : d < 36525 := by omega
  have years : c ≤ 3 ∧ e ≤ 24 ∧ g ≤ 3 := by omega
  constructor
  · have fours : (400 * a + 100 * c + 4 * e + g : Int) / 4 = 100 * a + 25 * c + e := by omega
    have centuries : (400 * a + 100 * c + 4 * e + g : Int) / 100 = 4 * a + c := by omega
    have cycles : (400 * a + 100 * c + 4 * e + g : Int) / 400 = a := by omega
    simp only [daysBeforeYear, Int.add_sub_cancel, fours, centuries, cycles]
    omega
  · have leap := isLeapYear_iff (400 * a + 100 * c + 4 * e + g + 1)
    unfold yearLength
    split <;> simp_all <;> omega

theorem daysBeforeYear_succ (year : Int) :
    daysBeforeYear (year + 1) = daysBeforeYear year + yearLength year := by
  have leap := isLeapYear_iff year
  simp only [daysBeforeYear, yearLength]
  split <;> simp_all <;> omega

theorem daysBeforeYear_mono {year later : Int} (order : year ≤ later) :
    daysBeforeYear year ≤ daysBeforeYear later := by
  simp only [daysBeforeYear]
  omega

theorem YearDay.year_le_iff {days year : Int} {k : Nat} (yearDay : YearDay days year k)
    (bound : Int) : year ≤ bound ↔ days + epochDays < daysBeforeYear (bound + 1) := by
  obtain ⟨counted, inside⟩ := yearDay
  constructor
  · intro within
    have next := daysBeforeYear_succ year
    have := daysBeforeYear_mono (show year + 1 ≤ bound + 1 by omega)
    omega
  · intro before
    by_contra beyond
    have := daysBeforeYear_mono (show bound + 1 ≤ year by omega)
    omega

theorem YearDay.unique {days year year' : Int} {k k' : Nat} (yearDay : YearDay days year k)
    (yearDay' : YearDay days year' k') : year = year' ∧ k = k' := by
  have below := (yearDay.year_le_iff year').trans (yearDay'.year_le_iff year').symm
  have above := (yearDay.year_le_iff year).trans (yearDay'.year_le_iff year).symm
  have same : year = year' := by omega
  subst same
  have := yearDay.counted
  have := yearDay'.counted
  omega

/-- The days that are represented reach from the first of January -262143 to the 31st of December
262142. -/
theorem inRange_yearOfDays (days : Int) :
    inRange (yearOfDays days).1 = true ↔ -96465292 ≤ days ∧ days ≤ 95026236 := by
  have yearDay := yearOfDays_yearDay days
  have low := yearDay.year_le_iff (-262144)
  have high := yearDay.year_le_iff 262142
  have first : daysBeforeYear (-262144 + 1) = -95746130 := rfl
  have last : daysBeforeYear (262142 + 1) = 95745399 := rfl
  rw [first, epochDays] at low
  rw [last, epochDays] at high
  rw [inRange_iff]
  omega

theorem sum_monthLengths (year : Int) : (monthLengths year).sum = yearLength year := by
  unfold monthLengths yearLength
  split <;> rfl

theorem length_monthLengths (year : Int) : (monthLengths year).length = 12 := rfl

theorem monthOfDay_spec {k : Nat} {lengths : List Nat} (inside : k < lengths.sum) (month : Nat) :
    ∃ i d, monthOfDay month k lengths = (month + i, d + 1) ∧ i < lengths.length ∧
      (lengths.take i).sum + d = k ∧ d < lengths.getD i 0 := by
  induction lengths generalizing k month with
  | nil => simp at inside
  | cons length lengths ih =>
    rw [List.sum_cons] at inside
    by_cases here : k < length
    · refine ⟨0, k, ?_, ?_⟩
      · simp [monthOfDay, here]
      · simpa using here
    · obtain ⟨i, d, found, isMonth, counted, isDay⟩ :=
        ih (k := k - length) (by omega) (month + 1)
      refine ⟨i + 1, d, ?_, ?_, ?_, ?_⟩
      · simp [monthOfDay, here, found]
        omega
      · simpa using isMonth
      · simp only [List.take_succ_cons, List.sum_cons]
        omega
      · simpa using isDay

theorem monthLength_le (year : Int) (month : Nat) : monthLength year month ≤ 31 := by
  unfold monthLength
  split
  · omega
  · rw [List.getD_eq_getElem?_getD]
    cases found : (monthLengths year)[month - 1]? with
    | none => simp
    | some length =>
      have isIn := List.mem_of_getElem? found
      simp only [monthLengths, List.mem_cons, List.not_mem_nil, or_false] at isIn
      rw [Option.getD_some]
      split at isIn <;> omega

theorem monthLength_eq_getD {year : Int} {month : Nat} (some : 1 ≤ month) :
    monthLength year month = (monthLengths year).getD (month - 1) 0 := by
  rw [monthLength, if_neg (by omega)]

theorem le_monthLength {year : Int} {month : Nat} (isMonth : 1 ≤ month ∧ month ≤ 12) :
    28 ≤ monthLength year month := by
  have listed : month - 1 < (monthLengths year).length := by
    rw [length_monthLengths]
    omega
  have isIn := List.getElem_mem listed
  rw [monthLength_eq_getD isMonth.1, List.getD_eq_getElem?_getD, List.getElem?_eq_getElem listed,
    Option.getD_some]
  generalize (monthLengths year)[month - 1] = length at isIn
  simp only [monthLengths, List.mem_cons, List.not_mem_nil, or_false] at isIn
  split at isIn <;> omega

/-- A day of a month is found again from the days in front of it. -/
theorem monthOfDay_of_lengths {lengths : List Nat} {i d : Nat} (isDay : d < lengths.getD i 0)
    (month : Nat) :
    monthOfDay month ((lengths.take i).sum + d) lengths = (month + i, d + 1) := by
  induction lengths generalizing i month with
  | nil => simp at isDay
  | cons length lengths ih =>
    cases i with
    | zero =>
      have here : d < length := by simpa using isDay
      simp [monthOfDay, here]
    | succ i =>
      have later : ¬ length + (lengths.take i).sum + d < length := by omega
      have rest : length + (lengths.take i).sum + d - length = (lengths.take i).sum + d := by omega
      rw [List.take_succ_cons, List.sum_cons, monthOfDay, if_neg later, rest,
        ih (by simpa using isDay), Nat.add_right_comm, Nat.add_assoc]

theorem sum_take_add_lt {lengths : List Nat} {i d : Nat} (isDay : d < lengths.getD i 0) :
    (lengths.take i).sum + d < lengths.sum := by
  induction lengths generalizing i with
  | nil => simp at isDay
  | cons length lengths ih =>
    cases i with
    | zero =>
      rw [List.getD_cons_zero] at isDay
      simp only [List.take_zero, List.sum_nil, List.sum_cons]
      omega
    | succ i =>
      have := ih (i := i) (by simpa using isDay)
      simp only [List.take_succ_cons, List.sum_cons]
      omega

/-- The day exists: its month is one of twelve, and has it. -/
structure Civil.Valid (c : Civil) : Prop where
  firstMonth : 1 ≤ c.month
  lastMonth : c.month ≤ 12
  firstDay : 1 ≤ c.day
  lastDay : c.day ≤ monthLength c.year c.month

theorem Civil.Valid.isValid {c : Civil} (valid : c.Valid) : c.isValid = true := by
  simp [Civil.isValid, valid.firstDay, valid.lastDay]

theorem month_of_monthLength {year : Int} {month : Nat} (some : 0 < monthLength year month) :
    1 ≤ month ∧ month ≤ 12 := by
  unfold monthLength at some
  split at some
  · omega
  · refine ⟨by omega, Nat.le_of_not_lt fun beyond => ?_⟩
    have length := length_monthLengths year
    rw [List.getD_eq_getElem?_getD, List.getElem?_eq_none (by omega)] at some
    exact absurd some (Nat.lt_irrefl 0)

theorem Civil.isValid_iff (c : Civil) : c.isValid = true ↔ c.Valid := by
  refine ⟨fun isValid => ?_, Valid.isValid⟩
  simp only [Civil.isValid, Bool.and_eq_true, decide_eq_true_eq] at isValid
  have isMonth := month_of_monthLength (Nat.lt_of_lt_of_le isValid.1 isValid.2)
  exact ⟨isMonth.1, isMonth.2, isValid.1, isValid.2⟩

instance (c : Civil) : Decidable c.Valid := decidable_of_iff _ c.isValid_iff

theorem Civil.ofYearDay_spec {year : Int} {k : Nat} (inside : k < yearLength year) :
    (ofYearDay year k).Valid ∧ (ofYearDay year k).ordinal = k + 1 := by
  rw [← sum_monthLengths] at inside
  obtain ⟨i, d, found, isMonth, counted, isDay⟩ := monthOfDay_spec inside 1
  rw [length_monthLengths] at isMonth
  have later : 1 + i ≠ 0 := by omega
  have index : 1 + i - 1 = i := by omega
  have before : daysBeforeMonth year (1 + i) = ((monthLengths year).take i).sum := by
    rw [daysBeforeMonth, index]
    rfl
  simp only [ofYearDay, found]
  constructor
  · constructor <;> dsimp only
    · omega
    · omega
    · omega
    · simpa [monthLength, later, index, Nat.succ_le_iff] using isDay
  · simp only [ordinal, before]
    omega

theorem Civil.year_ofDays (days : Int) : (ofDays days).year = (yearOfDays days).1 := rfl

theorem Civil.valid_ofDays (days : Int) : (ofDays days).Valid :=
  (ofYearDay_spec (yearOfDays_yearDay days).inside).1

theorem Civil.toDays_ofDays (days : Int) : (ofDays days).toDays = days := by
  obtain ⟨counted, inside⟩ := yearOfDays_yearDay days
  have ordinal : (ofDays days).ordinal = (yearOfDays days).2 + 1 := (ofYearDay_spec inside).2
  rw [toDays, ordinal, year_ofDays]
  omega

/-- A day of a represented year has its number. -/
theorem Civil.toDays?_ofDays {days : Int} (represented : inRange (yearOfDays days).1 = true) :
    toDays? (ofDays days) = some days := by
  simp [toDays?, year_ofDays, represented, (valid_ofDays days).isValid, toDays_ofDays]

theorem Civil.toDays_of_first (c : Civil) :
    toDays ⟨c.year, c.month, 1⟩ = c.toDays - (c.day - 1) := by
  simp only [toDays, ordinal]
  omega

/-- A day of the calendar has a number if it exists in a year that is represented. -/
theorem Civil.toDays?_eq (c : Civil) :
    c.toDays? = if inRange c.year = true ∧ c.Valid then some c.toDays else none := by
  simp only [toDays?, Bool.and_eq_true, c.isValid_iff]

theorem ofDays_of_yearDay {days year : Int} {k : Nat} (yearDay : YearDay days year k) :
    Civil.ofDays days = Civil.ofYearDay year k := by
  obtain ⟨sameYear, sameDay⟩ := (yearOfDays_yearDay days).unique yearDay
  rw [Civil.ofDays, ← sameYear, ← sameDay]

section
variable {c : Civil} (valid : c.Valid)
include valid

theorem Civil.Valid.lt_length : c.day - 1 < (monthLengths c.year).getD (c.month - 1) 0 := by
  have := valid.firstDay
  have inMonth := valid.lastDay
  rw [monthLength_eq_getD valid.firstMonth] at inMonth
  omega

theorem Civil.Valid.ordinal_eq :
    c.ordinal - 1 = ((monthLengths c.year).take (c.month - 1)).sum + (c.day - 1) := by
  have := valid.firstDay
  have before : daysBeforeMonth c.year c.month = ((monthLengths c.year).take (c.month - 1)).sum :=
    rfl
  rw [ordinal, before]
  omega

theorem Civil.Valid.yearDay_toDays : YearDay c.toDays c.year (c.ordinal - 1) where
  counted := by
    have : 1 ≤ c.ordinal := Nat.le_add_left_of_le valid.firstDay
    rw [toDays]
    omega
  inside := by
    rw [valid.ordinal_eq, ← sum_monthLengths]
    exact sum_take_add_lt valid.lt_length

theorem Civil.Valid.ofYearDay_ordinal : ofYearDay c.year (c.ordinal - 1) = c := by
  have := valid.firstMonth
  have := valid.firstDay
  rw [Civil.ofYearDay, valid.ordinal_eq, monthOfDay_of_lengths valid.lt_length]
  obtain ⟨year, month, day⟩ := c
  simp only [Civil.mk.injEq, true_and] at *
  omega

/-- A day that exists is the day with its number. -/
theorem Civil.Valid.ofDays_toDays : ofDays c.toDays = c := by
  rw [ofDays_of_yearDay valid.yearDay_toDays, valid.ofYearDay_ordinal]

theorem Civil.Valid.ofDays_eq_iff (days : Int) : ofDays days = c ↔ days = c.toDays := by
  constructor
  · rintro rfl
    exact (toDays_ofDays days).symm
  · rintro rfl
    exact valid.ofDays_toDays

end

end DocExpr.Calendar
