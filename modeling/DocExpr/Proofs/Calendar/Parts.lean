import DocExpr.Calendar.Instant
import DocExpr.Proofs.Calendar.Civil
import DocExpr.Proofs.Number.Integer

/-! The parts that are read off an instant: what they are for an instant in a year that is
represented, and the bounds that they keep. -/
namespace DocExpr.Calendar
open DocExpr.Number (Counts counts_ofNat counts_ofInt)

theorem counts_one : Counts 1.0 1 := ⟨by decide, false, 2 ^ 52, 52, by decide, by decide, rfl⟩

namespace Instant

/-- The instant lies in a year that is represented; a second may be a leap second. -/
structure Represented (t : Instant) : Prop where
  year : inRange (yearOfDays t.day).1 = true
  second : t.second < 86400
  nano : t.nano < 2000000000

theorem valid_civil (t : Instant) : t.civil.Valid := Civil.valid_ofDays t.day

theorem civil_eq_iff {t : Instant} {c : Civil} (valid : c.Valid) :
    t.civil = c ↔ t.day = c.toDays :=
  valid.ofDays_eq_iff t.day

/-- The parts of an instant, the month counted from zero. -/
def parts (t : Instant) : List Float :=
  [Number.ofInt t.civil.year, Float.ofNat t.civil.month - 1.0, Float.ofNat t.civil.day,
    Float.ofNat t.hour, Float.ofNat t.minute, Float.ofNat t.secondOfMinute, Float.ofNat t.milli]

theorem Represented.year_bounds {t : Instant} (represented : t.Represented) :
    -262143 ≤ t.civil.year ∧ t.civil.year ≤ 262142 :=
  (inRange_iff _).mp represented.year

theorem Represented.day_bounds {t : Instant} (represented : t.Represented) :
    -96465292 ≤ t.day ∧ t.day ≤ 95026236 :=
  (inRange_yearOfDays _).mp represented.year

theorem Represented.millis_small {t : Instant} (represented : t.Represented) :
    t.millis.natAbs < 2 ^ 53 := by
  have := represented.day_bounds
  have := represented.second
  have := represented.nano
  simp only [millis, milli]
  omega

/-- Only a leap second after the last second of all is out of bounds. -/
theorem Represented.inBounds_iff {t : Instant} (represented : t.Represented) :
    t.inBounds = true ↔ ¬ (t.day = 95026236 ∧ t.second = 86399 ∧ 1000000000 ≤ t.nano) := by
  have := represented.day_bounds
  have next := inRange_yearOfDays (t.day + 1)
  simp only [inBounds, represented.year, Bool.true_and, Bool.or_eq_true, decide_eq_true_eq,
    bne_iff_ne, next]
  omega

theorem dayOfMonth_bounds (t : Instant) : 1 ≤ t.civil.day ∧ t.civil.day ≤ 31 := by
  have valid := t.valid_civil
  exact ⟨valid.firstDay, Nat.le_trans valid.lastDay (monthLength_le _ _)⟩

theorem counts_month (t : Instant) :
    Counts (Float.ofNat t.civil.month - 1.0) ((t.civil.month : Int) - 1) := by
  have valid := t.valid_civil
  have := valid.firstMonth
  have := valid.lastMonth
  have month : Counts (Float.ofNat t.civil.month) t.civil.month := counts_ofNat (by omega)
  exact month.sub counts_one (by omega)

section
variable {t : Instant} (represented : t.Represented)
include represented

theorem Represented.counts_year : Counts (Number.ofInt t.civil.year) t.civil.year := by
  have := represented.year_bounds
  exact counts_ofInt (by omega)

theorem Represented.part_bounds :
    t.hour < 24 ∧ t.minute < 60 ∧ t.secondOfMinute < 60 ∧ t.milli < 2000 := by
  have := represented.second
  have := represented.nano
  simp only [hour, minute, secondOfMinute, milli]
  omega

end
end Instant
end DocExpr.Calendar
