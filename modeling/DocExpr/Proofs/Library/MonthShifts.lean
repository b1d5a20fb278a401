import DocExpr.Proofs.Calendar.Shift
import DocExpr.Proofs.Library.Shifting

/-! The methods that shift a date by months or by years. The amount may be any finite number; one
that is held at an end of the 64 bits leads beyond all years just as the number itself does. -/
namespace DocExpr.Library
open Calendar (Date inRange)
open Number (Counts Held held_toInt64 isFinite toInt64 wholePart)

/-- What a shift of a date by months comes to: the one date of the same kind so many months later,
or a type error if the year of that month is not represented. -/
inductive MonthsTo (d : Date) (n : Int) : EvalM Value → Prop where
  | moved {e : Date} (inside : inRange (d.instant.yearAfter n) = true) (kind : e.kind = d.kind)
      (later : d.instant.MonthsLater n e.instant) : MonthsTo d n (pure (.date e))
  | failed (beyond : ¬ inRange (d.instant.yearAfter n) = true) (fault : TypeFault) :
      MonthsTo d n (lift (typeError fault))

/-- There is one date of each kind so many months later. -/
theorem MonthsTo.pure_iff {d e : Date} {n : Int} {r : EvalM Value} (shifts : MonthsTo d n r) :
    r = pure (.date e) ↔ inRange (d.instant.yearAfter n) = true ∧ e.kind = d.kind ∧
      d.instant.MonthsLater n e.instant := by
  cases shifts with
  | @moved found inside kind later =>
    constructor
    · intro same
      cases EvalM.pure_injective same
      exact ⟨inside, kind, later⟩
    · rintro ⟨-, kind', later'⟩
      have moved := Calendar.Instant.plusMonths?_eq_some_iff.mpr ⟨inside, later⟩
      have moved' := Calendar.Instant.plusMonths?_eq_some_iff.mpr ⟨inside, later'⟩
      have instants : found.instant = e.instant := Option.some.inj (moved.symm.trans moved')
      obtain ⟨instant, kind⟩ := e
      obtain ⟨instant', kind'⟩ := found
      simp_all
  | failed beyond fault =>
    refine iff_of_false (lift_ne_pure fault _) ?_
    rintro ⟨inside, -, -⟩
    exact beyond inside

theorem held_opposite {x : Float} {n : Int} (held : Held (toInt64 x) n) :
    Held (oppositeAmount (toInt64 x)) (-n) := by
  have inside := Number.inInt64_iff.mp (Number.inInt64_toInt64 x)
  change Held (min (-toInt64 x) (2 ^ 63 - 1)) (-n)
  unfold Held at held ⊢
  omega

section
variable {u : DateUnit} (isUnit : u ∈ DateUnit.all) (inMonths : u.inMonths = true) {d : Date}
  (represented : d.instant.Represented) {kept n : Int} (held : Held kept n)
include isUnit inMonths represented held

/-- A shift by a unit of months ends so many months later. -/
theorem shiftDate_monthsTo :
    MonthsTo d (n * u.count) (lift ((shiftDate d u kept).map .date)) := by
  have counts : ∀ u ∈ DateUnit.all, u.inMonths = true → 0 < u.count.natAbs := by decide
  have grows (k : Int) : k.natAbs ≤ (k * u.count).natAbs := by
    rw [Int.natAbs_mul]
    exact Nat.le_mul_of_pos_right _ (counts u isUnit inMonths)
  unfold shiftDate
  dsimp only
  rw [if_pos inMonths]
  by_cases inside : inRange (d.instant.yearAfter (n * u.count)) = true
  · have near := represented.yearAfter_near inside
    have same : kept = n := by
      have := grows n
      unfold Held at held
      omega
    have fits : ¬ (n * u.count < Number.minInt64 ∨ Number.maxInt64 < n * u.count) := by
      change ¬ (n * u.count < -9223372036854775808 ∨ 9223372036854775807 < n * u.count)
      omega
    obtain ⟨e, moved, kind, later⟩ := (d.plusMonths_eq (n * u.count)).1 inside
    rw [same, if_neg fits, moved]
    exact .moved inside kind later
  · have beyond : ¬ inRange (d.instant.yearAfter (kept * u.count)) = true := by
      rcases held with same | ⟨far, -⟩
      · rwa [same]
      · intro inside'
        have near := represented.yearAfter_near inside'
        have := grows kept
        omega
    obtain ⟨fault, failed⟩ := (d.plusMonths_eq (kept * u.count)).2 beyond
    split
    · exact .failed inside _
    · rw [failed]
      exact .failed inside _

end

section
variable (host : Host) (root : Value) {d : Date} (represented : d.instant.Represented) {v : Value}
  (finite : isFinite v.toNumber = true)
include represented finite

theorem monthsTo_plus {u : DateUnit} (isUnit : u ∈ DateUnit.all) (inMonths : u.inMonths = true) :
    MonthsTo d (wholePart v.toNumber * u.count)
      (callMethod host root (.date d) ("plus" ++ u.name) [v]) := by
  rw [callMethod_plus isUnit host root d finite]
  exact shiftDate_monthsTo isUnit inMonths represented (held_toInt64 finite)

theorem monthsTo_minus {u : DateUnit} (isUnit : u ∈ DateUnit.all) (inMonths : u.inMonths = true) :
    MonthsTo d (-wholePart v.toNumber * u.count)
      (callMethod host root (.date d) ("minus" ++ u.name) [v]) := by
  rw [callMethod_minus isUnit host root d finite]
  exact shiftDate_monthsTo isUnit inMonths represented (held_opposite (held_toInt64 finite))

/-- Shifts by months lead to the right month, for every amount: they succeed if the year of that
month is represented, keep the time of day and the kind, and take the day of the month as far as the
month has it. Subtracting the opposite amount does the same, a year is twelve months, and shifts
from a day that every month has add up. -/
theorem month_shifts_land :
    let call (name : String) (d : Date) (v : Value) := callMethod host root (.date d) name [v]
    let n := wholePart v.toNumber
    MonthsTo d n (call "plusMonths" d v) ∧
      (∀ w : Value, isFinite w.toNumber = true → wholePart w.toNumber = -n →
        MonthsTo d n (call "minusMonths" d w)) ∧
      MonthsTo d (12 * n) (call "plusYears" d v) ∧
      (∀ w : Value, isFinite w.toNumber = true → wholePart w.toNumber = 12 * n → ∀ e,
        call "plusYears" d v = pure (.date e) ↔ call "plusMonths" d w = pure (.date e)) ∧
      (d.instant.civil.day ≤ 28 → ∀ e, call "plusMonths" d v = pure (.date e) →
        ∀ w s : Value, isFinite w.toNumber = true → isFinite s.toNumber = true →
          wholePart s.toNumber = n + wholePart w.toNumber → ∀ f,
            call "plusMonths" e w = pure (.date f) ↔ call "plusMonths" d s = pure (.date f)) := by
  have plus {d : Date} (represented : d.instant.Represented) {v : Value}
      (finite : isFinite v.toNumber = true) : MonthsTo d (wholePart v.toNumber)
        (callMethod host root (.date d) "plusMonths" [v]) := by
    have shifts := monthsTo_plus host root represented finite (u := ⟨"Months", true, 1⟩) (by decide)
      rfl
    rwa [Int.mul_one] at shifts
  have years := monthsTo_plus host root represented finite (u := ⟨"Years", true, 12⟩) (by decide)
    rfl
  rw [Int.mul_comm] at years
  dsimp only
  refine ⟨plus represented finite, fun w finite' opposite => ?_, years, fun w finite' whole e => ?_,
    fun everywhere e shifted w s finite' finite'' sum f => ?_⟩
  · have minus := monthsTo_minus host root represented finite' (u := ⟨"Months", true, 1⟩)
      (by decide) rfl
    rwa [opposite, Int.neg_neg, Int.mul_one] at minus
  · have months := plus represented finite'
    rw [whole] at months
    exact years.pure_iff.trans months.pure_iff.symm
  · obtain ⟨inside, kind, later⟩ := (plus represented finite).pure_iff.mp shifted
    have second := plus (later.represented represented inside) finite'
    have whole := plus represented finite''
    rw [sum] at whole
    rw [second.pure_iff, whole.pure_iff, later.yearAfter, later.then_iff everywhere, kind]

end

/-- Two months from the last day of a year to the leap day, in both directions, and two years. -/
theorem leap_day_reached :
    let d : Date := ⟨⟨19722, 45296, 789012345⟩, .localDateTime⟩
    let e : Date := ⟨⟨19782, 45296, 789012345⟩, .localDateTime⟩
    let f : Date := ⟨⟨20453, 45296, 789012345⟩, .localDateTime⟩
    let two : Value := .number (Number.ofInt 2)
    (d.instant.Represented ∧ isFinite two.toNumber = true) ∧
      (d.instant.civil = ⟨2023, 12, 31⟩ ∧ e.instant.civil = ⟨2024, 2, 29⟩ ∧
        f.instant.civil = ⟨2025, 12, 31⟩) ∧ ∀ host root,
      callMethod host root (.date d) "plusMonths" [two] = pure (.date e) ∧
        callMethod host root (.date d) "minusMonths" [.number (Number.ofInt (-2))] =
          pure (.date e) ∧
        callMethod host root (.date d) "plusYears" [two] = pure (.date f) := by
  intro d e f two
  have represented : d.instant.Represented := ⟨by decide, by decide, by decide⟩
  have counts : Counts two.toNumber 2 := Number.counts_ofInt (by decide)
  let back : Value := .number (Number.ofInt (-2))
  have counts' : Counts back.toNumber (-2) := Number.counts_ofInt (by decide)
  have moved : d.instant.plusMonths? 2 = some e.instant := by decide
  have moved' : d.instant.plusMonths? 24 = some f.instant := by decide
  refine ⟨⟨represented, counts.isFinite⟩, by decide, fun host root => ?_⟩
  obtain ⟨plus, minus, years, -⟩ := month_shifts_land host root represented counts.isFinite
  rw [counts.wholePart] at plus minus years
  obtain ⟨inside, later⟩ := Calendar.Instant.plusMonths?_eq_some_iff.mp moved
  obtain ⟨inside', later'⟩ := Calendar.Instant.plusMonths?_eq_some_iff.mp moved'
  refine ⟨plus.pure_iff.mpr ⟨inside, rfl, later⟩, ?_, years.pure_iff.mpr ⟨inside', rfl, later'⟩⟩
  exact (minus back counts'.isFinite counts'.wholePart).pure_iff.mpr ⟨inside, rfl, later⟩

end DocExpr.Library
