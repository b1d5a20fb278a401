import DocExpr.Proofs.Calendar.Shift
import DocExpr.Proofs.Evaluation.Dates
import DocExpr.Proofs.Number.Nearest
import DocExpr.Proofs.Number.Shortest
import DocExpr.Proofs.Value.WholePart

/-! The methods that shift a date by a unit of fixed length. A shift goes to one place on the line
of nanoseconds or fails as that place is not represented, so that shifts add up, undo one another
and do not depend on the unit that they are given in. -/
namespace DocExpr.Number

/-- The double is a whole number that is kept as one of 64 bits. -/
structure Amount (x : Float) (a : Int) : Prop where
  finite : isFinite x = true
  whole : toInt64 x = a

theorem Counts.amount {x : Float} {a : Int} (stands : Counts x a) : Amount x a :=
  ⟨stands.isFinite, stands.toInt64⟩

theorem amount_of_read {x : Float} {negative : Bool} {m e : Nat}
    (reading : read x = .finite negative m e) (small : m * 2 ^ e < 2 ^ 63) :
    Amount x (if negative then -((m * 2 ^ e : Nat) : Int) else (m * 2 ^ e : Nat)) := by
  have split : (splitWhole m e).1 = m * 2 ^ e := by
    rw [splitWhole, if_pos (Int.natCast_nonneg e)]
    rfl
  have whole := wholePart_of_read reading
  rw [split] at whole
  have finite : isFinite x = true := by rw [isFinite, reading]
  refine ⟨finite, ?_⟩
  rw [toInt64, clampInt_of_finite finite, whole]
  change max (-2 ^ 63) (min (2 ^ 63 - 1) _) = _
  split <;> omega

/-- Up to twice as far as all integers the even ones are doubles. -/
theorem amount_ofInt_even {a : Int} (even : 2 ∣ a) (small : a.natAbs < 2 ^ 54) :
    Amount (ofInt a) a := by
  by_cases short : a.natAbs < 2 ^ 53
  · exact (counts_ofInt short).amount
  · obtain ⟨m, twice⟩ : ∃ m, a.natAbs = m * 2 ^ 1 := ⟨a.natAbs / 2, by omega⟩
    have canonical : Canonical m (1 : Nat) := ⟨by omega, by decide, by decide, .inl (by omega)⟩
    have rounds : RoundsTo (a.natAbs : ℚ) m (1 : Nat) := by
      have self := roundsTo_self m (1 : Nat)
      rwa [zpow_natCast, ← Nat.cast_ofNat, ← Nat.cast_pow, ← Nat.cast_mul, ← twice] at self
    have reading := read_ofNat_of_roundsTo canonical (by omega) (by omega) rounds
    unfold ofInt
    split
    next negative =>
      have amount := amount_of_read (read_neg reading (by omega)) (by omega)
      rwa [← twice, Bool.not_false, if_pos rfl, Int.ofNat_natAbs_of_nonpos (by omega),
        Int.neg_neg] at amount
    next =>
      have amount := amount_of_read reading (by omega)
      rwa [← twice, if_neg Bool.false_ne_true, Int.natAbs_of_nonneg (by omega)] at amount

end DocExpr.Number

namespace DocExpr.Library
open Calendar (Date)
open Calendar.Instant (Covered)
open Number (Amount Counts)

/-- What a shift of a date to a place comes to: the date of the same kind there, or a type error if
the place is not represented. -/
inductive ShiftsTo (d : Date) (n : Int) : EvalM Value → Prop where
  | moved {e : Date} (kind : e.kind = d.kind) (regular : e.instant.Regular)
      (there : e.instant.nanos = n) : ShiftsTo d n (pure (.date e))
  | failed (beyond : ¬ Covered n) (fault : TypeFault) : ShiftsTo d n (lift (typeError fault))

theorem lift_ne_pure (fault : TypeFault) (v : Value) :
    (lift (typeError fault) : EvalM Value) ≠ pure v := by
  intro same
  have results := congrArg (fun act => (act.runOn {}).1) same
  cases results

section
variable {d e : Date} {n : Int} {r : EvalM Value}

/-- There is one date of each kind at a place. -/
theorem ShiftsTo.pure_iff (shifts : ShiftsTo d n r) : r = pure (.date e) ↔
    e.kind = d.kind ∧ e.instant.Regular ∧ e.instant.nanos = n := by
  cases shifts with
  | @moved found kind regular there =>
    constructor
    · intro same
      cases EvalM.pure_injective same
      exact ⟨kind, regular, there⟩
    · rintro ⟨kind', regular', there'⟩
      have instants : found.instant = e.instant := by
        rw [← regular.ofNanos_nanos, ← regular'.ofNanos_nanos, there, there']
      obtain ⟨instant, kind⟩ := e
      obtain ⟨instant', kind'⟩ := found
      simp_all
  | failed beyond fault =>
    refine iff_of_false (lift_ne_pure fault _) ?_
    rintro ⟨-, regular, there⟩
    exact beyond (there ▸ regular.covered_nanos)

end

section
variable {u : DateUnit} (isUnit : u ∈ DateUnit.all)

/-- A shift of a unit of fixed length ends in its place. -/
theorem shiftDate_shiftsTo (fixed : u.inMonths = false) {d : Date} (regular : d.instant.Regular)
    (a : Int) :
    ShiftsTo d (d.instant.nanos + a * u.count * 1000000)
      (lift ((shiftDate d u a).map .date)) := by
  obtain ⟨reached, missed⟩ := Calendar.Date.plusMillis_eq regular (a * u.count)
  unfold shiftDate
  dsimp only
  by_cases covered : Covered (d.instant.nanos + a * u.count * 1000000)
  · have reach := regular.reach covered
    have held : ¬ (a * u.count < Number.minInt64 ∨ Number.maxInt64 < a * u.count) := by
      change ¬ (a * u.count < -9223372036854775808 ∨ 9223372036854775807 < a * u.count)
      simp only [Calendar.Instant.dayNanos] at reach
      omega
    rw [if_neg held, if_neg (by simp [fixed]), reached covered]
    exact .moved rfl (Calendar.Instant.regular_ofNanos covered) (Calendar.Instant.nanos_ofNanos _)
  · obtain ⟨fault, failed⟩ := missed covered
    split
    · exact .failed covered _
    · rw [if_neg (by simp [fixed]), failed]
      exact .failed covered _

include isUnit in
theorem find?_shifts : DateMethod.catalog.find? ("plus" ++ u.name) = some (.plus u, .exact 1) ∧
    DateMethod.catalog.find? ("minus" ++ u.name) = some (.minus u, .exact 1) := by
  have all : ∀ u ∈ DateUnit.all,
      DateMethod.catalog.find? ("plus" ++ u.name) = some (.plus u, .exact 1) ∧
        DateMethod.catalog.find? ("minus" ++ u.name) = some (.minus u, .exact 1) := by
    decide
  exact all u isUnit

variable (host : Host) (root : Value) (d : Date) {v : Value}
  (finite : Number.isFinite v.toNumber = true)

include finite in
theorem wholeArg_finite (name : String) : wholeArg name [v] = .ok (Number.toInt64 v.toNumber) := by
  change (if Number.isFinite v.toNumber = true then Except.ok (Number.toInt64 v.toNumber) else _) = _
  rw [if_pos finite]

theorem bind_date (r : Except EvalError Date) : (do return Value.date (← r)) = r.map .date := by
  cases r <;> rfl

include isUnit finite in
theorem callMethod_plus : callMethod host root (.date d) ("plus" ++ u.name) [v] =
    lift ((shiftDate d u (Number.toInt64 v.toNumber)).map .date) := by
  have ran : (DateMethod.plus u).run ("plus" ++ u.name) d [v] =
      (shiftDate d u (Number.toInt64 v.toNumber)).map .date := by
    unfold DateMethod.run
    dsimp only
    rw [wholeArg_finite finite]
    exact bind_date _
  rw [callMethod_date (find?_shifts isUnit).1 rfl, ran]

include isUnit finite in
theorem callMethod_minus : callMethod host root (.date d) ("minus" ++ u.name) [v] =
    lift ((shiftDate d u (oppositeAmount (Number.toInt64 v.toNumber))).map .date) := by
  have ran : (DateMethod.minus u).run ("minus" ++ u.name) d [v] =
      (shiftDate d u (oppositeAmount (Number.toInt64 v.toNumber))).map .date := by
    unfold DateMethod.run
    dsimp only
    rw [wholeArg_finite finite]
    exact bind_date _
  rw [callMethod_date (find?_shifts isUnit).2 rfl, ran]

end

section
variable (host : Host) (root : Value) {u : DateUnit} (isUnit : u ∈ DateUnit.all)
  (fixed : u.inMonths = false) {d : Date} (regular : d.instant.Regular) {x : Float} {a : Int}
include isUnit fixed regular

theorem shiftsTo_plus (amount : Amount x a) : ShiftsTo d (d.instant.nanos + a * u.count * 1000000)
    (callMethod host root (.date d) ("plus" ++ u.name) [.number x]) := by
  have called := callMethod_plus isUnit host root d (v := .number x) amount.finite
  change _ = lift ((shiftDate d u (Number.toInt64 x)).map Value.date) at called
  rw [called, amount.whole]
  exact shiftDate_shiftsTo fixed regular a

theorem shiftsTo_minus (stands : Counts x a) :
    ShiftsTo d (d.instant.nanos - a * u.count * 1000000)
      (callMethod host root (.date d) ("minus" ++ u.name) [.number x]) := by
  have called := callMethod_minus isUnit host root d (v := .number x) stands.isFinite
  change _ = lift ((shiftDate d u (oppositeAmount (Number.toInt64 x))).map Value.date) at called
  have opposite : oppositeAmount a = -a := by
    have small := stands.small
    change min (-a) 9223372036854775807 = -a
    omega
  have shifts := shiftDate_shiftsTo fixed regular (-a)
  rwa [← opposite, ← stands.toInt64, ← called, stands.toInt64, opposite, Int.neg_mul, Int.neg_mul,
    ← Int.sub_eq_add_neg] at shifts

/-- An amount by which a date can be shifted is a double in each finer unit too. -/
theorem amount_in_unit {v : DateUnit} (isUnit' : v ∈ DateUnit.all) (fixed' : v.inMonths = false)
    {k : Int} (finer : u.count = k * v.count) (small : a.natAbs < 2 ^ 53)
    (covered : Covered (d.instant.nanos + a * u.count * 1000000)) :
    Amount (Number.ofInt (k * a)) (k * a) := by
  have counts : ∀ u ∈ DateUnit.all, u.inMonths = false →
      u.count = 1 ∨ 1000 ∣ u.count ∧ 1000 ≤ u.count := by decide
  have reach := regular.reach covered
  simp only [Calendar.Instant.dayNanos] at reach
  have product : a * u.count = k * a * v.count := by
    rw [finer, Int.mul_left_comm, Int.mul_assoc]
  rcases counts v isUnit' fixed' with one | ⟨-, large⟩
  · rw [one, Int.mul_one] at finer product
    rcases counts u isUnit fixed with single | ⟨even, -⟩
    · rw [← finer, single, Int.one_mul]
      exact (Number.counts_ofInt small).amount
    · have even : 2 ∣ k * a := Int.dvd_mul_of_dvd_left (finer ▸ Int.dvd_trans (by decide) even)
      exact Number.amount_ofInt_even even (by omega)
  · have grows : (k * a).natAbs * 1000 ≤ (k * a * v.count).natAbs := by
      rw [Int.natAbs_mul (k * a)]
      exact Nat.mul_le_mul_left _ (by omega)
    exact (Number.counts_ofInt (by omega)).amount

/-- Shifts by units of fixed length act on the dates that are no leap seconds. A shift goes to the
exact place, keeps the kind and fails only where the place is not represented. It is undone by the
opposite shift, shifts of a unit add up, and a finer unit leads to the same date. -/
theorem fixed_shifts_act (stands : Counts x a) :
    let plus (u : DateUnit) (d : Date) (x : Float) :=
      callMethod host root (.date d) ("plus" ++ u.name) [.number x]
    let minus (u : DateUnit) (d : Date) (x : Float) :=
      callMethod host root (.date d) ("minus" ++ u.name) [.number x]
    ShiftsTo d (d.instant.nanos + a * u.count * 1000000) (plus u d x) ∧
      ShiftsTo d (d.instant.nanos - a * u.count * 1000000) (minus u d x) ∧
      ∀ e, plus u d x = pure (.date e) → minus u e x = pure (.date d) ∧
        (∀ b y z, Counts y b → Counts z (a + b) → ∀ f,
          plus u e y = pure (.date f) ↔ plus u d z = pure (.date f)) ∧
        ∀ v ∈ DateUnit.all, v.inMonths = false → ∀ k, u.count = k * v.count →
          plus v d (Number.ofInt (k * a)) = pure (.date e) := by
  dsimp only
  have forward := shiftsTo_plus host root isUnit fixed regular stands.amount
  refine ⟨forward, shiftsTo_minus host root isUnit fixed regular stands, fun e shifted => ?_⟩
  obtain ⟨kind, regular', there⟩ := forward.pure_iff.mp shifted
  refine ⟨?_, fun b y z stands' stands'' f => ?_, fun v isUnit' fixed' k finer => ?_⟩
  · have back := shiftsTo_minus host root isUnit fixed regular' stands
    rw [there, Int.add_sub_cancel] at back
    exact back.pure_iff.mpr ⟨kind.symm, regular, rfl⟩
  · have second := shiftsTo_plus host root isUnit fixed regular' stands'.amount
    have whole := shiftsTo_plus host root isUnit fixed regular stands''.amount
    rw [there, Int.add_assoc, ← Int.add_mul, ← Int.add_mul] at second
    rw [second.pure_iff, whole.pure_iff, kind]
  · have amount := amount_in_unit isUnit fixed regular isUnit' fixed' finer stands.small
      (there ▸ regular'.covered_nanos)
    have finer' := shiftsTo_plus host root isUnit' fixed' regular amount
    have same : k * a * v.count = a * u.count := by
      rw [finer, Int.mul_left_comm, Int.mul_assoc]
    rw [same] at finer'
    exact finer'.pure_iff.mpr ⟨kind, regular', there⟩

end

/-- Three weeks from the last day of a February to the third Thursday of March and back, to the
nanosecond, and the same in days. -/
theorem three_weeks_on :
    let d : Date := ⟨⟨19782, 45296, 789012345⟩, .localDateTime⟩
    let e : Date := ⟨⟨19803, 45296, 789012345⟩, .localDateTime⟩
    (d.instant.Regular ∧ Counts (Number.ofInt 3) 3) ∧ ∀ host root,
      callMethod host root (.date d) "plusWeeks" [.number (Number.ofInt 3)] = pure (.date e) ∧
        callMethod host root (.date d) "plusDays" [.number (Number.ofInt 21)] = pure (.date e) ∧
        callMethod host root (.date e) "minusWeeks" [.number (Number.ofInt 3)] =
          pure (.date d) := by
  intro d e
  have regular : d.instant.Regular := ⟨⟨by decide, by decide, by decide⟩, by decide⟩
  have regular' : e.instant.Regular := ⟨⟨by decide, by decide, by decide⟩, by decide⟩
  have stands : Counts (Number.ofInt 3) 3 := Number.counts_ofInt (by decide)
  refine ⟨⟨regular, stands⟩, fun host root => ?_⟩
  obtain ⟨forward, -, act⟩ := fixed_shifts_act host root (u := ⟨"Weeks", false, 604800000⟩)
    (by decide) rfl regular stands
  have shifted := (forward.pure_iff (e := e)).mpr ⟨rfl, regular', by decide⟩
  obtain ⟨back, -, finer⟩ := act e shifted
  exact ⟨shifted, finer ⟨"Days", false, 86400000⟩ (by decide) rfl 7 (by decide), back⟩

end DocExpr.Library
