import DocExpr.Proofs.Calendar.Fields
import DocExpr.Proofs.Library.Shifting

/-! The methods that set one field of a date. The value may be any finite number; one that is held at
an end of the 64 bits is none of any field, just as the number itself. -/
namespace DocExpr.Calendar

/-- The name behind `get` of the method that reads a field, and the part that it reads. The day of
the year is only written. -/
def Field.getter? : Field → Option (String × Library.DatePart)
  | .dayOfMonth => some ("Date", .dayOfMonth)
  | .dayOfYear => none
  | .hourOfDay => some ("Hours", .hours)
  | .milliOfSecond => some ("Milliseconds", .milliseconds)
  | .minuteOfHour => some ("Minutes", .minutes)
  | .monthOfYear => some ("Month", .month)
  | .secondOfMinute => some ("Seconds", .seconds)
  | .year => some ("FullYear", .year)

/-- No field has large values. -/
theorem Field.Legal.small {f : Field} {v : Int} (legal : f.Legal v) : v.natAbs < 2 ^ 19 := by
  cases f with
  | year =>
    change -262143 ≤ v ∧ v ≤ 262142 at legal
    omega
  | _ =>
    simp only [Field.Legal, Field.bounds] at legal
    omega

end DocExpr.Calendar

namespace DocExpr.Library
open Calendar (Date Field)
open Number (Counts Held held_toInt64 isFinite toInt64 wholePart)

/-- What setting a field of a date comes to: a date of the same kind with the field set, or a type
error if the value is none of the field or the day does not exist. -/
inductive SetsTo (d : Date) (f : Field) (v : Int) : EvalM Value → Prop where
  | set {e : Date} (legal : f.Legal v) (dayExists : d.instant.DayExists f v)
      (kind : e.kind = d.kind) (set : d.instant.FieldSet f v e.instant) :
      SetsTo d f v (pure (.date e))
  | refused (not : ¬ (f.Legal v ∧ d.instant.DayExists f v)) (fault : TypeFault) :
      SetsTo d f v (lift (typeError fault))

/-- There is one date of each kind with a field so set. -/
theorem SetsTo.pure_iff {d e : Date} {f : Field} {v : Int} {r : EvalM Value}
    (sets : SetsTo d f v r) : r = pure (.date e) ↔ (f.Legal v ∧ d.instant.DayExists f v) ∧
      e.kind = d.kind ∧ d.instant.FieldSet f v e.instant := by
  cases sets with
  | @set found legal dayExists kind set =>
    constructor
    · intro same
      cases EvalM.pure_injective same
      exact ⟨⟨legal, dayExists⟩, kind, set⟩
    · rintro ⟨-, kind', set'⟩
      have instants := set.unique set'
      obtain ⟨instant, kind⟩ := e
      obtain ⟨instant', kind'⟩ := found
      simp_all
  | refused not fault =>
    refine iff_of_false (lift_ne_pure fault _) ?_
    rintro ⟨fits, -, -⟩
    exact not fits

theorem SetsTo.of_held {d : Date} {f : Field} {kept v : Int} {r : EvalM Value}
    (sets : SetsTo d f kept r) (held : Held kept v) : SetsTo d f v r := by
  rcases held with rfl | ⟨far, far'⟩
  · exact sets
  · cases sets with
    | set legal =>
      have := legal.small
      omega
    | refused not fault =>
      refine .refused (fun ⟨legal, _⟩ => ?_) fault
      have := legal.small
      omega

section
variable {d : Date} (regular : d.instant.Regular) (f : Field)
include regular

theorem setsTo_setField (v : Int) :
    SetsTo d f v (lift ((dateResult (d.setField f v)).map .date)) := by
  have sets := Calendar.Instant.sets_withField? regular f v
  unfold Calendar.Date.setField
  generalize d.instant.withField? f v = r at sets
  cases sets with
  | set legal dayExists set => exact .set legal dayExists rfl set
  | refused not => exact .refused not _

theorem setsTo_withField (v : Int) :
    SetsTo d f v (lift ((dateResult (d.withField f.name v)).map .date)) := by
  have named : Field.ofName? f.name = some f := by cases f <;> decide
  have sets := setsTo_setField regular f v
  unfold Calendar.Date.withField
  rwa [named]

theorem setsTo_callMethod (host : Host) (root : Value) {w : Value}
    (finite : isFinite w.toNumber = true) : SetsTo d f (wholePart w.toNumber)
      (callMethod host root (.date d) ("with" ++ f.name) [w]) := by
  have found : DateMethod.catalog.find? ("with" ++ f.name) = some (.set f, .exact 1) := by
    cases f <;> decide
  have ran : (DateMethod.set f).run ("with" ++ f.name) d [w] =
      (dateResult (d.setField f (toInt64 w.toNumber))).map .date := by
    unfold DateMethod.run
    dsimp only
    rw [wholeArg_finite finite]
    exact bind_date _
  rw [callMethod_date found rfl, ran]
  exact (setsTo_setField regular f _).of_held (held_toInt64 finite)

end

theorem find?_getters : ∀ p ∈ DatePart.names,
    DateMethod.catalog.find? ("get" ++ p.1) = some (.get p.2, .exact 0) ∧
      DateMethod.catalog.find? ("getUTC" ++ p.1) = some (.get p.2, .exact 0) := by
  decide

theorem getter?_mem (f : Field) : ∀ p ∈ f.getter?, p ∈ DatePart.names := by
  cases f <;> decide

/-- The part that belongs to a field reads the value of the field. -/
theorem read_getter? (e : Date) (f : Field) :
    ∀ p ∈ f.getter?, p.2.read e = Number.ofInt (e.instant.field f) := by
  intro p isGetter
  cases f <;> cases isGetter <;> rfl

theorem callMethod_getter (host : Host) (root : Value) (e : Date) {f : Field}
    {p : String × DatePart} (isGetter : p ∈ f.getter?) :
    callMethod host root (.date e) ("get" ++ p.1) [] =
        pure (.number (Number.ofInt (e.instant.field f))) ∧
      callMethod host root (.date e) ("getUTC" ++ p.1) [] =
        pure (.number (Number.ofInt (e.instant.field f))) := by
  obtain ⟨found, found'⟩ := find?_getters p (getter?_mem f p isGetter)
  have ran (name : String) : (DateMethod.get p.2).run name e [] =
      .ok (.number (Number.ofInt (e.instant.field f))) :=
    congrArg (Except.ok ∘ Value.number) (read_getter? e f p isGetter)
  rw [callMethod_date found rfl, callMethod_date found' rfl, ran, ran]
  exact ⟨rfl, rfl⟩

/-- A setter changes its own field only, on the dates that are no leap seconds. It takes the values of
the field for which the day exists, refuses all others with a type error, keeps the kind, and the
getter of the field returns the value that was set. -/
theorem setters_change_own_field (host : Host) (root : Value) {d : Date}
    (regular : d.instant.Regular) (f : Field) :
    (∀ v, SetsTo d f v (lift ((dateResult (d.withField f.name v)).map .date))) ∧
      (∀ w : Value, isFinite w.toNumber = true → SetsTo d f (wholePart w.toNumber)
        (callMethod host root (.date d) ("with" ++ f.name) [w])) ∧
      ∀ v e, d.instant.FieldSet f v e.instant → ∀ p ∈ f.getter?,
        callMethod host root (.date e) ("get" ++ p.1) [] = pure (.number (Number.ofInt v)) ∧
          callMethod host root (.date e) ("getUTC" ++ p.1) [] = pure (.number (Number.ofInt v)) := by
  refine ⟨setsTo_withField regular f, fun w => setsTo_callMethod regular f host root,
    fun v e set p isGetter => ?_⟩
  have read := callMethod_getter host root e isGetter
  rwa [set.value] at read

/-- The sixtieth day of a leap year is set from a January, and there is no thirtieth of its
February. -/
theorem leap_day_set :
    let d : Date := ⟨⟨19753, 45296, 789012345⟩, .localDateTime⟩
    let e : Date := ⟨⟨19782, 45296, 789012345⟩, .localDateTime⟩
    let sixty : Value := .number (Number.ofInt 60)
    let thirty : Value := .number (Number.ofInt 30)
    (d.instant.Regular ∧ e.instant.Regular ∧ isFinite sixty.toNumber = true ∧
        isFinite thirty.toNumber = true) ∧
      (d.instant.civil = ⟨2024, 1, 31⟩ ∧ e.instant.civil = ⟨2024, 2, 29⟩) ∧ ∀ host root,
        callMethod host root (.date d) "withDayOfYear" [sixty] = pure (.date e) ∧
          callMethod host root (.date e) "getDate" [] = pure (.number (Number.ofInt 29)) ∧
          ∀ f, callMethod host root (.date e) "withDayOfMonth" [thirty] ≠ pure (.date f) := by
  intro d e sixty thirty
  have regular : d.instant.Regular := ⟨⟨by decide, by decide, by decide⟩, by decide⟩
  have regular' : e.instant.Regular := ⟨⟨by decide, by decide, by decide⟩, by decide⟩
  have counts : Counts sixty.toNumber 60 := Number.counts_ofInt (by decide)
  have counts' : Counts thirty.toNumber 30 := Number.counts_ofInt (by decide)
  have set : d.instant.FieldSet .dayOfYear 60 e.instant :=
    ⟨by decide, fun g => by cases g <;> decide, by decide⟩
  have self : e.instant.FieldSet .dayOfMonth 29 e.instant := ⟨by decide, fun _ _ _ => rfl, by decide⟩
  refine ⟨⟨regular, regular', counts.isFinite, counts'.isFinite⟩, by decide, fun host root => ?_⟩
  obtain ⟨-, sets, -⟩ := setters_change_own_field host root regular .dayOfYear
  obtain ⟨-, sets', reads⟩ := setters_change_own_field host root regular' .dayOfMonth
  have sixtieth := sets sixty counts.isFinite
  have thirtieth := sets' thirty counts'.isFinite
  rw [counts.wholePart] at sixtieth
  rw [counts'.wholePart] at thirtieth
  refine ⟨sixtieth.pure_iff.mpr ⟨⟨by decide, by decide⟩, rfl, set⟩,
    (reads 29 e self ("Date", .dayOfMonth) rfl).1, fun f found => ?_⟩
  exact absurd (thirtieth.pure_iff.mp found).1.2 (by decide)

end DocExpr.Library
