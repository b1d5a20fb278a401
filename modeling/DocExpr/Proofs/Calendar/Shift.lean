import DocExpr.Calendar.Shift
import DocExpr.Proofs.Calendar.Parts

/-! Shifts by a fixed length and by months. An instant that is no leap second is one place on the
line of all nanoseconds, and a shift goes to the exact place that many milliseconds on, if that is in
a year that is represented. Months are counted in one row through all years, so a shift by months is
an addition there; the day of the month stays, or it is the last one that the month has. Such a shift
fails only where the year of the month is not represented. -/
namespace DocExpr.Calendar.Instant

/-- The nanoseconds of a day. -/
def dayNanos : Int := 86400000000000

/-- The nanoseconds from 1970-01-01T00:00:00. -/
def nanos (t : Instant) : Int := (t.day * 86400 + t.second) * 1000000000 + t.nano

/-- The instant so many nanoseconds after 1970-01-01T00:00:00. -/
def ofNanos (n : Int) : Instant :=
  ⟨n / dayNanos, (n % dayNanos / 1000000000).toNat, (n % 1000000000).toNat⟩

/-- The place of so many nanoseconds is in a year that is represented. -/
def Covered (n : Int) : Prop := inRange (yearOfDays (n / dayNanos)).1 = true

instance (n : Int) : Decidable (Covered n) := inferInstanceAs (Decidable (_ = true))

/-- A represented instant that is no leap second. -/
structure Regular (t : Instant) : Prop where
  represented : t.Represented
  noLeap : t.nano < 1000000000

theorem nanos_ofNanos (n : Int) : (ofNanos n).nanos = n := by
  simp only [nanos, ofNanos, dayNanos]
  omega

theorem covered_iff {n : Int} : Covered n ↔
    -96465292 * dayNanos ≤ n ∧ n < 95026237 * dayNanos := by
  rw [Covered, inRange_yearOfDays, dayNanos]
  omega

theorem regular_ofNanos {n : Int} (covered : Covered n) : (ofNanos n).Regular where
  represented :=
    { year := covered
      second := by simp only [ofNanos, dayNanos]; omega
      nano := by simp only [ofNanos]; omega }
  noLeap := by simp only [ofNanos]; omega

section
variable {t : Instant} (regular : t.Regular)
include regular

theorem Regular.ofNanos_nanos : ofNanos t.nanos = t := by
  have := regular.represented.second
  have := regular.noLeap
  obtain ⟨day, second, nano⟩ := t
  simp only [ofNanos, nanos, dayNanos, Instant.mk.injEq] at *
  omega

theorem Regular.covered_nanos : Covered t.nanos := by
  have := regular.represented.day_bounds
  have := regular.represented.second
  have := regular.noLeap
  rw [covered_iff, nanos, dayNanos]
  omega

/-- The instants that are represented are less far from one another than this many days. -/
theorem Regular.reach {n : Int} (covered : Covered (t.nanos + n)) :
    n.natAbs < 191491529 * dayNanos := by
  have here := covered_iff.mp regular.covered_nanos
  have there := covered_iff.mp covered
  simp only [dayNanos] at *
  omega

/-- A shift goes to the exact place, or fails if that is not represented. -/
theorem Regular.shift?_eq (seconds more : Int) : t.shift? seconds more =
    if Covered (t.nanos + (seconds * 1000000000 + more)) then
      some (ofNanos (t.nanos + (seconds * 1000000000 + more)))
    else none := by
  have := regular.represented.second
  -- what is carried is the distance from the start of the day
  have carried : t.nanos + (seconds * 1000000000 + more) =
      t.day * dayNanos + ((t.second + seconds) * 1000000000 + (t.nano + more)) := by
    simp only [nanos, dayNanos]
    omega
  rw [carried]
  unfold Instant.shift?
  dsimp only
  generalize (t.second + seconds) * 1000000000 + (t.nano + more) = n
  have day : t.day + n / 1000000000 / 86400 = (t.day * dayNanos + n) / dayNanos := by
    simp only [dayNanos]
    omega
  rw [day, onDay?]
  refine if_congr Iff.rfl (congrArg some ?_) rfl
  simp only [ofNanos, dayNanos, Instant.mk.injEq, true_and]
  omega

/-- The place so many milliseconds on. -/
theorem Regular.plusMillis?_eq (ms : Int) : t.plusMillis? ms =
    if Covered (t.nanos + ms * 1000000) then some (ofNanos (t.nanos + ms * 1000000)) else none := by
  have split : ms.tdiv 1000 * 1000000000 + ms.tmod 1000 * 1000000 = ms * 1000000 := by
    have whole := Int.tdiv_mul_add_tmod ms 1000
    omega
  unfold plusMillis?
  dsimp only
  rw [if_pos regular.noLeap, regular.shift?_eq, split]

end
end DocExpr.Calendar.Instant

namespace DocExpr.Calendar.Date
open Instant (Covered)

/-- The date with its instant so many nanoseconds after 1970-01-01T00:00:00. -/
def atNanos (d : Date) (n : Int) : Date := { d with instant := .ofNanos n }

variable {d : Date} (regular : d.instant.Regular)
include regular

/-- A date moves to the exact place, or not at all. -/
theorem plusMillis_eq (ms : Int) :
    (Covered (d.instant.nanos + ms * 1000000) →
        d.plusMillis ms = .ok (d.atNanos (d.instant.nanos + ms * 1000000))) ∧
      (¬ Covered (d.instant.nanos + ms * 1000000) → ∃ fault, d.plusMillis ms = .error fault) := by
  have moved := regular.plusMillis?_eq ms
  unfold plusMillis
  dsimp only
  constructor
  · intro covered
    have reach := regular.reach covered
    have least : ms ≠ -Int.pow 2 63 := by
      change ms ≠ -9223372036854775808
      simp only [Instant.dayNanos] at reach
      omega
    rw [if_neg least, moved, if_pos covered]
    rfl
  · intro beyond
    rw [moved, if_neg beyond, ite_self]
    exact ⟨_, rfl⟩

end DocExpr.Calendar.Date

namespace DocExpr.Calendar

/-- The day of the calendar in the month some months later: the same day of the month, or the last
one. -/
def Civil.monthsLater (c : Civil) (n : Int) : Civil :=
  let month := 12 * c.year + (c.month - 1) + n
  let year := month / 12
  let month := (month % 12).toNat + 1
  ⟨year, month, min c.day (monthLength year month)⟩

theorem Civil.valid_monthsLater {c : Civil} (some : 1 ≤ c.day) (n : Int) :
    (c.monthsLater n).Valid := by
  generalize target : c.monthsLater n = e
  obtain ⟨year, month, day⟩ := e
  simp only [monthsLater, Civil.mk.injEq] at target
  obtain ⟨isYear, isMonth, isDay⟩ := target
  rw [isYear, isMonth] at isDay
  have inYear : 1 ≤ month ∧ month ≤ 12 := by omega
  have long : 28 ≤ monthLength year month := le_monthLength inYear
  constructor <;> dsimp only <;> omega

namespace Instant

/-- The year of the month some months later. -/
def yearAfter (t : Instant) (n : Int) : Int := (12 * t.civil.year + (t.civil.month - 1) + n) / 12

/-- The second instant is some months after the first: the months are so far apart, the day of the
month is the same as far as the month has it, and the time of day is the same. -/
structure MonthsLater (t : Instant) (n : Int) (u : Instant) : Prop where
  month : 12 * u.civil.year + u.civil.month = 12 * t.civil.year + t.civil.month + n
  day : u.civil.day = min t.civil.day (monthLength u.civil.year u.civil.month)
  second : u.second = t.second
  nano : u.nano = t.nano

/-- There is one instant so many months later. -/
theorem monthsLater_iff {t u : Instant} {n : Int} : t.MonthsLater n u ↔
    u.civil = t.civil.monthsLater n ∧ u.second = t.second ∧ u.nano = t.nano := by
  have := u.valid_civil.firstMonth
  have := u.valid_civil.lastMonth
  constructor
  · rintro ⟨month, day, second, nano⟩
    refine ⟨?_, second, nano⟩
    generalize u.civil = c at *
    obtain ⟨year, index, number⟩ := c
    dsimp only at *
    have isYear : (12 * t.civil.year + (t.civil.month - 1) + n) / 12 = year := by omega
    have isMonth : ((12 * t.civil.year + (t.civil.month - 1) + n) % 12).toNat + 1 = index := by
      omega
    rw [Civil.monthsLater, isYear, isMonth, day]
  · rintro ⟨civil, second, nano⟩
    refine ⟨?_, ?_, second, nano⟩
    · rw [civil]
      simp only [Civil.monthsLater]
      omega
    · rw [civil]
      rfl

theorem plusMonths?_eq (t : Instant) (n : Int) : t.plusMonths? n =
    if inRange (t.yearAfter n) then some { t with day := (t.civil.monthsLater n).toDays }
    else none := by
  have valid := Civil.valid_monthsLater t.valid_civil.firstDay n
  have moved : t.plusMonths? n =
      (t.civil.monthsLater n).toDays?.bind fun day => some { t with day } := rfl
  have year : (t.civil.monthsLater n).year = t.yearAfter n := rfl
  rw [moved, Civil.toDays?_eq, year]
  simp only [valid, and_true]
  split <;> rfl

/-- A shift by months ends in the one instant so many months later, if the year of its month is
represented. -/
theorem plusMonths?_eq_some_iff {t u : Instant} {n : Int} :
    t.plusMonths? n = some u ↔ inRange (t.yearAfter n) = true ∧ t.MonthsLater n u := by
  have valid := Civil.valid_monthsLater t.valid_civil.firstDay n
  rw [plusMonths?_eq, monthsLater_iff, civil_eq_iff valid]
  split
  next inside =>
    obtain ⟨day, second, nano⟩ := u
    simp only [inside, true_and, Option.some.injEq, Instant.mk.injEq, eq_comm]
  next beyond =>
    simp [beyond]

theorem plusMonths?_eq_none {t : Instant} {n : Int} (beyond : ¬ inRange (t.yearAfter n) = true) :
    t.plusMonths? n = none := by
  rw [plusMonths?_eq, if_neg beyond]

theorem MonthsLater.year {t u : Instant} {n : Int} (later : t.MonthsLater n u) :
    u.civil.year = t.yearAfter n := by
  rw [(monthsLater_iff.mp later).1]
  rfl

theorem MonthsLater.represented {t u : Instant} {n : Int} (later : t.MonthsLater n u)
    (represented : t.Represented) (inside : inRange (t.yearAfter n) = true) : u.Represented where
  year := by
    rw [← later.year] at inside
    exact inside
  second := later.second ▸ represented.second
  nano := later.nano ▸ represented.nano

theorem MonthsLater.yearAfter {t u : Instant} {a : Int} (later : t.MonthsLater a u) (b : Int) :
    u.yearAfter b = t.yearAfter (a + b) := by
  have := later.month
  unfold Instant.yearAfter
  congr 1
  omega

/-- Shifts by months add up on the days that every month has. -/
theorem MonthsLater.then_iff {t u w : Instant} {a : Int} (later : t.MonthsLater a u)
    (everywhere : t.civil.day ≤ 28) (b : Int) : u.MonthsLater b w ↔ t.MonthsLater (a + b) w := by
  have inYear : 1 ≤ u.civil.month ∧ u.civil.month ≤ 12 :=
    ⟨u.valid_civil.firstMonth, u.valid_civil.lastMonth⟩
  have long : 28 ≤ monthLength u.civil.year u.civil.month := le_monthLength inYear
  have month := later.month
  have day : u.civil.day = t.civil.day := by
    rw [later.day]
    omega
  constructor
  · rintro ⟨month', day', second, nano⟩
    exact ⟨by omega, day ▸ day', later.second ▸ second, later.nano ▸ nano⟩
  · rintro ⟨month', day', second, nano⟩
    exact ⟨by omega, day ▸ day', later.second ▸ second, later.nano ▸ nano⟩

/-- Only so far is a month in a year that is represented. -/
theorem Represented.yearAfter_near {t : Instant} (represented : t.Represented) {n : Int}
    (inside : inRange (t.yearAfter n) = true) : n.natAbs < 2 ^ 23 := by
  have := represented.year_bounds
  have := t.valid_civil.firstMonth
  have := t.valid_civil.lastMonth
  rw [inRange_iff, yearAfter] at inside
  omega

end DocExpr.Calendar.Instant

namespace DocExpr.Calendar.Date

/-- A date moves to the month so many months later, or not at all. -/
theorem plusMonths_eq (d : Date) (n : Int) :
    (inRange (d.instant.yearAfter n) = true → ∃ e, d.plusMonths n = .ok e ∧ e.kind = d.kind ∧
        d.instant.MonthsLater n e.instant) ∧
      (¬ inRange (d.instant.yearAfter n) = true → ∃ fault, d.plusMonths n = .error fault) := by
  unfold plusMonths
  constructor
  · intro inside
    have moved := d.instant.plusMonths?_eq n
    rw [if_pos inside] at moved
    rw [moved]
    exact ⟨_, rfl, rfl, (Instant.plusMonths?_eq_some_iff.mp moved).2⟩
  · intro beyond
    rw [Instant.plusMonths?_eq_none beyond]
    exact ⟨_, rfl⟩

end DocExpr.Calendar.Date
