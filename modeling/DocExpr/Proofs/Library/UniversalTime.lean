import DocExpr.Proofs.Calendar.Universal
import DocExpr.Proofs.Evaluation.Dates

/-! The milliseconds of universal time that an expression makes of a year, a month and further
parts. The arguments may be any numbers; what is too large is held at an end of the 64 bits, and a
sum of such parts may be rounded or be no number at all. -/
namespace DocExpr.Library
open Calendar (ExactSum Measured inRange measured_ofInt monthOffset monthTerms timeAfter? timeOf?
  unitMillis utcMillis?)
open Calendar.Instant (Covered)
open Number (InInt64 isFinite toInt64 wholePart)

/-- The value stands for a finite number with this whole part. -/
structure Truncates (v : Value) (n : Int) : Prop where
  finite : isFinite v.toNumber = true
  whole : wholePart v.toNumber = n

section
variable (ambient : Ambient)

theorem callNamespace_utc {args : List Value} (some : args ≠ []) (most : args.length ≤ 7) :
    callNamespace ambient "Date" "UTC" args =
      .ok (numberOfMillis (utcMillis? (args.map Value.toNumber))) := by
  have least : 1 ≤ args.length := List.length_pos_iff.mpr some
  have fits : (Arity.range 1 7).check "UTC" args.length = .ok () := by
    simp [Arity.check, Arity.admits, Arity.range, least, most]
  rw [callNamespace_found (f := .date .dateTime .utc) rfl fits, SpaceFunction.run, DateFunction.run]
  cases utcMillis? (args.map Value.toNumber) <;> rfl

/-- The same months, counted in years or not, lead to the same time. -/
theorem callNamespace_utc_years {y y' m m' : Value} {a b k : Int} (year : Truncates y a)
    (year' : Truncates y' (a + k)) (month : Truncates m b) (month' : Truncates m' (b + 12 * k))
    (inside : InInt64 b) (inside' : InInt64 (b + 12 * k)) {rest : List Value}
    (most : rest.length ≤ 5) :
    callNamespace ambient "Date" "UTC" (y :: m' :: rest) =
      callNamespace ambient "Date" "UTC" (y' :: m :: rest) := by
  obtain ⟨finite, rfl⟩ := year
  obtain ⟨finite', whole'⟩ := year'
  obtain ⟨isMonth, rfl⟩ := month
  obtain ⟨isMonth', monthWhole'⟩ := month'
  rw [← monthWhole'] at inside'
  have most (y m : Value) : (y :: m :: rest).length ≤ 7 := by
    simp only [List.length_cons]
    omega
  rw [callNamespace_utc ambient (List.cons_ne_nil _ _) (most y m'),
    callNamespace_utc ambient (List.cons_ne_nil _ _) (most y' m)]
  simp only [List.map_cons]
  rw [Calendar.utcMillis?_years finite finite' isMonth isMonth' whole' monthWhole' inside inside']

/-- Universal time is the time at the sum of its parts. For any arguments only the sum of the year and
the years in the months may leave the 64 bits, and then the answer is no number, as it is where the
month or the time at the sum of what was held in 64 bits is not represented. The year and the month
decide as they are if the month has a place in 64 bits, and years are then moved between them with
any further arguments. If all parts are measured exactly, their exact sum decides, and more of one
part adds so many of its units. -/
theorem universal_time {args : List Value} (some : args ≠ []) (most : args.length ≤ 7) :
    let utc (args : List Value) := callNamespace ambient "Date" "UTC" args
    let ns := args.map Value.toNumber
    let parts := ns.map wholePart
    let year := toInt64 (ns.getD 0 0.0)
    let index := toInt64 (ns.getD 1 0.0)
    let offset := toInt64 (monthOffset ns)
    ((InInt64 year ∧ InInt64 index ∧ InInt64 (index / 12) ∧ (index % 12).toNat + 1 ≤ 12 ∧
          InInt64 offset ∧ ∀ ms, timeAfter? year index offset = .some ms → ms.natAbs < 2 ^ 53) ∧
        (InInt64 (year + index / 12) ∨ utc args = .ok (numberOfMillis none) ∧
          ¬ inRange ((year + index / 12).bmod (2 ^ 64)) = true)) ∧
      utc args = .ok (numberOfMillis
        (if ns.all isFinite = true then timeAfter? year index offset else none)) ∧
      (ns.all isFinite = true → InInt64 (parts.getD 1 0) → utc args = .ok (numberOfMillis
        (timeAfter? (parts.getD 0 0) (parts.getD 1 0) offset))) ∧
      (Measured ns → utc args = .ok (numberOfMillis (timeOf? parts)) ∧
        ∀ ms, timeOf? parts = .some ms → ∀ i, 2 ≤ i → i < args.length → ∀ v k,
          wholePart v.toNumber = parts.getD i 0 + k →
          Measured ((args.set i v).map Value.toNumber) →
            utc (args.set i v) = .ok (numberOfMillis
              (if Covered ((ms + k * unitMillis i) * 1000000) then .some (ms + k * unitMillis i)
              else none))) ∧
      ∀ y y' m m' a b k, Truncates y a → Truncates y' (a + k) → Truncates m b →
        Truncates m' (b + 12 * k) → InInt64 b → InInt64 (b + 12 * k) →
        ∀ rest : List Value, rest.length ≤ 5 →
          utc (y :: m' :: rest) = utc (y' :: m :: rest) := by
  intro utc ns parts year index offset
  have present : ns ≠ [] := mt List.map_eq_nil_iff.mp some
  have answer : utc args = .ok (numberOfMillis
      (if ns.all isFinite = true then timeAfter? year index offset else none)) := by
    rw [← Calendar.utcMillis?_eq present]
    exact callNamespace_utc ambient some most
  have isYear : InInt64 year := Number.inInt64_toInt64 _
  have isIndex : InInt64 index := Number.inInt64_toInt64 _
  obtain ⟨years, sum⟩ := Calendar.year_sum_overflow isYear isIndex
  refine ⟨⟨⟨isYear, isIndex, years, by omega, Number.inInt64_toInt64 _,
    fun ms => Calendar.small_of_timeAfter?⟩, ?_⟩, answer, fun finite month => ?_,
    fun measured => ⟨?_, ?_⟩, ?_⟩
  · refine sum.imp_right fun ⟨outside, wrapped⟩ => ⟨?_, wrapped⟩
    have none : timeAfter? year index offset = none := if_neg fun both => outside both.1
    rw [answer, none, ite_self]
  · rw [← Calendar.utcMillis?_of_month present finite month]
    exact callNamespace_utc ambient some most
  · rw [← measured.utcMillis?_eq present]
    exact callNamespace_utc ambient some most
  · intro ms found i isTime isPart v k whole measured'
    have present' : args.set i v ≠ [] := by
      rwa [ne_eq, List.set_eq_nil_iff]
    have changed : ((args.set i v).map Value.toNumber).map wholePart =
        parts.set i (parts.getD i 0 + k) := by
      rw [List.map_set, List.map_set, whole]
    have isPart' : i < parts.length := by
      simpa [parts, ns] using isPart
    have shifted := measured'.utcMillis?_eq (mt List.map_eq_nil_iff.mp present')
    rw [changed, Calendar.timeOf?_set isTime isPart' found] at shifted
    rw [← shifted]
    exact callNamespace_utc ambient present' (by rwa [List.length_set])
  · intro y y' m m' a b k year year' month month' inside inside' rest
    exact callNamespace_utc_years ambient year year' month month' inside inside'

end

/-- The fourteenth month of a year is the February of the next, and two days from its last day on
lead into March. -/
theorem fourteenth_month_counted :
    let value (n : Int) : Value := .number (Number.ofInt n)
    let parts : List Int := [2023, 13, 29, 12, 34, 56, 789]
    let args := parts.map value
    (args ≠ [] ∧ args.length ≤ 7 ∧ Measured (args.map Value.toNumber) ∧
        Measured ((args.set 2 (value 31)).map Value.toNumber)) ∧
      (Truncates (value 2023) 2023 ∧ Truncates (value 2024) (2023 + 1) ∧ Truncates (value 1) 1 ∧
        Truncates (value 13) (1 + 12 * 1) ∧ InInt64 1 ∧ InInt64 (1 + 12 * 1)) ∧ ∀ ambient,
        callNamespace ambient "Date" "UTC" args = .ok (value 1709210096789) ∧
          callNamespace ambient "Date" "UTC" (args.set 2 (value 31)) = .ok (value 1709382896789) ∧
          callNamespace ambient "Date" "UTC" (value 2024 :: value 1 :: args.drop 2) =
            .ok (value 1709210096789) := by
  intro value parts args
  have amount {n : Int} (small : n.natAbs < 2 ^ 53) : Truncates (value n) n :=
    ⟨(Number.counts_ofInt small).isFinite, (Number.counts_ofInt small).wholePart⟩
  obtain ⟨whole, measured⟩ := measured_ofInt parts (by decide) (by decide) (by decide)
  obtain ⟨whole', measured'⟩ := measured_ofInt (parts.set 2 31) (by decide) (by decide)
    (by decide)
  have some : args ≠ [] := List.cons_ne_nil _ _
  have most : args.length ≤ 7 := by decide
  refine ⟨⟨some, most, measured, measured'⟩, ⟨amount (by decide), amount (by decide),
    amount (by decide), amount (by decide), by decide, by decide⟩, fun ambient => ?_⟩
  have numbers : args.map Value.toNumber = parts.map Number.ofInt := rfl
  obtain ⟨-, -, -, exact, moved⟩ := universal_time ambient some most
  rw [numbers, whole] at exact
  obtain ⟨answer, later⟩ := exact measured
  have found : timeOf? parts = .some 1709210096789 := by decide
  rw [found] at answer
  have covered : Covered ((1709210096789 + 2 * unitMillis 2) * 1000000) := by decide
  have day := later 1709210096789 found 2 (by decide) (by decide) (value 31) 2
    (amount (by decide)).whole measured'
  rw [if_pos covered] at day
  have year := moved (value 2023) (value 2024) (value 1) (value 13) 2023 1 1 (amount (by decide))
    (amount (by decide)) (amount (by decide)) (amount (by decide)) (by decide) (by decide)
    (args.drop 2) (by decide)
  exact ⟨answer, day, year.symm.trans answer⟩

/-- Infinite terms of either sign add up to no number, which is taken for no milliseconds; a month
beyond the 64 bits does not give back its years, and the sum with the year may leave the 64 bits. -/
theorem huge_parts_misplaced :
    let answer (parts : List Float) (ms : Option Int) := ∀ ambient,
      callNamespace ambient "Date" "UTC" (parts.map .number) = .ok (numberOfMillis ms)
    let infinite : List Float := [2020.0, 0.0, 1e308, -1e308]
    let exchanged : List Float := [-1152921504606846976.0, 13835058055282163712.0]
    (timeOf? (infinite.map wholePart) = none ∧ answer infinite (.some 1577836800000)) ∧
      (exchanged.map wholePart = [0 - 1152921504606846976, 0 + 12 * 1152921504606846976] ∧
        timeOf? (exchanged.map wholePart) = .some (-62167219200000) ∧
        answer [0.0, 0.0] (.some (-62167219200000)) ∧ answer exchanged none) ∧
      ¬ InInt64 (toInt64 1e300 + toInt64 1e300 / 12) := by
  intro answer infinite exchanged
  have answers {parts : List Float} {ms : Option Int} (some : parts ≠ [])
      (most : parts.length ≤ 7) (made : utcMillis? parts = ms) : answer parts ms := fun ambient => by
    have numbers : (parts.map Value.number).map Value.toNumber = parts := by
      rw [List.map_map]
      exact List.map_id parts
    rw [callNamespace_utc ambient (mt List.map_eq_nil_iff.mp some) (by rwa [List.length_map]),
      numbers, made]
  have beyond : timeOf? (infinite.map wholePart) = none := by decide +kernel
  have zeroed : utcMillis? infinite = .some 1577836800000 := by decide +kernel
  have whole : exchanged.map wholePart =
      [0 - 1152921504606846976, 0 + 12 * 1152921504606846976] := by decide +kernel
  have lost : utcMillis? exchanged = none := by decide +kernel
  have kept : utcMillis? [0.0, 0.0] = .some (-62167219200000) := by decide +kernel
  have overflow : ¬ InInt64 (toInt64 1e300 + toInt64 1e300 / 12) := by decide +kernel
  refine ⟨⟨beyond, ?_⟩, ⟨whole, ?_, ?_, ?_⟩, overflow⟩
  · exact answers (List.cons_ne_nil _ _) (by decide) zeroed
  · rw [whole]
    decide
  · exact answers (List.cons_ne_nil _ _) (by decide) kept
  · exact answers (List.cons_ne_nil _ _) (by decide) lost

end DocExpr.Library
