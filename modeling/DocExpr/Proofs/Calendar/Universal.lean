import DocExpr.Proofs.Calendar.Shift
import DocExpr.Proofs.Value.WholePart
import Mathlib.Algebra.Ring.Int.Defs

/-! Milliseconds of universal time from a year, the index of a month and the milliseconds from its
start. As integers the parts lead to one sum, which is a time if the month and the sum are in years
that are represented; the computation in doubles and in 64 bits agrees with it as long as nothing is
rounded and the month is not held at an end of the 64 bits. -/
namespace DocExpr.Calendar
open Instant (Covered)
open Number (Counts Held InInt64 isFinite minInt64 toInt64 wholePart)

/-- The first day of a month; the index of the month counts from zero and may lead into another
year. -/
def firstOfMonth (year index : Int) : Civil := ⟨year + index / 12, (index % 12).toNat + 1, 1⟩

/-- The milliseconds to the first of a month and some milliseconds more. -/
def millisAfter (year index ms : Int) : Int := (firstOfMonth year index).toDays * 86400000 + ms

/-- The time some milliseconds after the first of a month, if both are in years that are
represented. -/
def timeAfter? (year index ms : Int) : Option Int :=
  if inRange (firstOfMonth year index).year = true ∧ Covered (millisAfter year index ms * 1000000)
  then some (millisAfter year index ms) else none

/-- The milliseconds that a day, an hour, a minute, a second and a millisecond count for. They stand
behind a year and a month, and those that are missing lead to the start of the month. -/
def monthTerms (parts : List Int) : List Int :=
  [(parts.getD 2 1 - 1) * 86400000, parts.getD 3 0 * 3600000, parts.getD 4 0 * 60000,
    parts.getD 5 0 * 1000, parts.getD 6 0]

/-- The time with these parts, all of them integers. -/
def timeOf? (parts : List Int) : Option Int :=
  timeAfter? (parts.getD 0 0) (parts.getD 1 0) (monthTerms parts).sum

theorem timeAfter?_eq_some_iff {year index ms n : Int} : timeAfter? year index ms = some n ↔
    inRange (firstOfMonth year index).year = true ∧ Covered (n * 1000000) ∧
      n = millisAfter year index ms := by
  unfold timeAfter?
  split
  next both =>
    rw [Option.some.injEq]
    constructor
    · rintro rfl
      exact ⟨both.1, both.2, rfl⟩
    · rintro ⟨-, -, rfl⟩
      rfl
  next outside =>
    refine iff_of_false (fun found => nomatch found) ?_
    rintro ⟨inside, covered, rfl⟩
    exact outside ⟨inside, covered⟩

/-- Every time is counted exactly by a double. -/
theorem small_of_timeAfter? {year index ms n : Int} (found : timeAfter? year index ms = some n) :
    n.natAbs < 2 ^ 53 := by
  obtain ⟨-, covered, -⟩ := timeAfter?_eq_some_iff.mp found
  have := Instant.covered_iff.mp covered
  simp only [Instant.dayNanos] at this
  omega

/-- Twelve months are a year. -/
theorem firstOfMonth_years (year index k : Int) :
    firstOfMonth year (index + 12 * k) = firstOfMonth (year + k) index := by
  have years : year + (index + 12 * k) / 12 = year + k + index / 12 := by omega
  have month : (index + 12 * k) % 12 = index % 12 := by omega
  rw [firstOfMonth, firstOfMonth, years, month]

theorem timeAfter?_years (year index k ms : Int) :
    timeAfter? year (index + 12 * k) ms = timeAfter? (year + k) index ms := by
  rw [timeAfter?, timeAfter?, millisAfter, millisAfter, firstOfMonth_years]

theorem timeAfter?_add {year index ms n : Int} (found : timeAfter? year index ms = some n)
    (more : Int) : timeAfter? year index (ms + more) =
      if Covered ((n + more) * 1000000) then some (n + more) else none := by
  obtain ⟨inside, -, rfl⟩ := timeAfter?_eq_some_iff.mp found
  have sum : millisAfter year index (ms + more) = millisAfter year index ms + more := by
    simp only [millisAfter]
    omega
  simp only [timeAfter?, inside, true_and, sum]

/-- The milliseconds that one more in a place of the parts counts for. -/
def unitMillis : Nat → Int
  | 2 => 86400000
  | 3 => 3600000
  | 4 => 60000
  | 5 => 1000
  | 6 => 1
  | _ => 0

theorem getD_set (parts : List Int) {i : Nat} (isPart : i < parts.length) (n : Int) (j : Nat)
    (missing : Int) : (parts.set i n).getD j missing = if i = j then n else parts.getD j missing := by
  rw [List.getD_eq_getElem?_getD, List.getD_eq_getElem?_getD, List.getElem?_set]
  split
  · rfl
  · rfl

theorem sum_monthTerms_set {parts : List Int} {i : Nat} (isPart : i < parts.length) (k : Int) :
    (monthTerms (parts.set i (parts.getD i 0 + k))).sum =
      (monthTerms parts).sum + k * unitMillis i := by
  have day : 2 < parts.length → parts.getD 2 1 = parts.getD 2 0 := fun present => by
    simp only [List.getD_eq_getElem?_getD, List.getElem?_eq_getElem present, Option.getD_some]
  simp only [monthTerms, getD_set parts isPart, List.sum_cons, List.sum_nil]
  by_cases beyond : 7 ≤ i
  · obtain ⟨j, rfl⟩ := Nat.exists_eq_add_of_le' beyond
    simp only [unitMillis, reduceIte, Nat.reduceEqDiff]
    omega
  · have place : i = 2 ∨ i = 0 ∨ i = 1 ∨ i = 3 ∨ i = 4 ∨ i = 5 ∨ i = 6 := by omega
    rcases place with rfl | rfl | rfl | rfl | rfl | rfl | rfl
    · simp only [unitMillis, reduceIte, Nat.reduceEqDiff, day isPart]
      omega
    all_goals
      simp only [unitMillis, reduceIte, Nat.reduceEqDiff]
      omega

theorem timeOf?_set {parts : List Int} {i : Nat} (isTime : 2 ≤ i) (isPart : i < parts.length)
    {n : Int} (found : timeOf? parts = some n) (k : Int) :
    timeOf? (parts.set i (parts.getD i 0 + k)) =
      if Covered ((n + k * unitMillis i) * 1000000) then some (n + k * unitMillis i) else none := by
  rw [timeOf?, sum_monthTerms_set isPart, getD_set parts isPart, getD_set parts isPart,
    if_neg (by omega), if_neg (by omega)]
  exact timeAfter?_add found _

theorem valid_firstOfMonth (year index : Int) : (firstOfMonth year index).Valid := by
  have isMonth : 1 ≤ (index % 12).toNat + 1 ∧ (index % 12).toNat + 1 ≤ 12 := by omega
  exact ⟨isMonth.1, isMonth.2, Nat.le_refl 1,
    Nat.le_trans (show 1 ≤ 28 by decide) (le_monthLength isMonth)⟩

theorem monthStart?_eq (year index : Int) : monthStart? year index =
    if inRange (firstOfMonth year index).year = true then
      some ⟨(firstOfMonth year index).toDays, 0, 0⟩
    else none := by
  have valid := valid_firstOfMonth year index
  change ((firstOfMonth year index).toDays?.map fun day => (⟨day, 0, 0⟩ : Instant)) = _
  rw [Civil.toDays?_eq]
  simp only [valid, and_true]
  split <;> rfl

theorem Civil.Valid.regular_midnight {c : Civil} (valid : c.Valid)
    (inside : inRange c.year = true) : Instant.Regular ⟨c.toDays, 0, 0⟩ where
  represented :=
    { year := by rwa [← Civil.year_ofDays, valid.ofDays_toDays]
      second := Nat.succ_pos _
      nano := Nat.succ_pos _ }
  noLeap := Nat.succ_pos _

theorem millis_ofNanos (ms : Int) : (Instant.ofNanos (ms * 1000000)).millis = ms := by
  simp only [Instant.millis, Instant.milli, Instant.ofNanos, Instant.dayNanos]
  omega

theorem plusMillis?_eq_timeAfter? (year index ms : Int) :
    ((monthStart? year index).bind fun start => (start.plusMillis? ms).map Instant.millis) =
      timeAfter? year index ms := by
  rw [monthStart?_eq, timeAfter?]
  split
  next inside =>
    have regular := (valid_firstOfMonth year index).regular_midnight inside
    have place : Instant.nanos ⟨(firstOfMonth year index).toDays, 0, 0⟩ + ms * 1000000 =
        millisAfter year index ms * 1000000 := by
      simp only [Instant.nanos, millisAfter]
      omega
    rw [Option.bind_some, regular.plusMillis?_eq, place]
    simp only [inside, true_and]
    split
    · rw [Option.map_some, millis_ofNanos]
    · rfl
  next outside =>
    rw [if_neg fun both => outside both.1]
    rfl

/-- The shift by the least integer is refused in front, but it would lead outside as well. -/
theorem timeAfter?_least (year index : Int) : timeAfter? year index minInt64 = none := by
  refine if_neg ?_
  rintro ⟨inside, covered⟩
  have first := (valid_firstOfMonth year index).regular_midnight inside
  have := first.represented.day_bounds
  have := Instant.covered_iff.mp covered
  have least : minInt64 = -9223372036854775808 := rfl
  simp only [Instant.dayNanos, millisAfter] at *
  omega

/-- The milliseconds of any parts that are finite: the year, the month and the offset are held in 64
bits, and lead to the time at their sum. -/
theorem utcMillis?_eq {ns : List Float} (some : ns ≠ []) : utcMillis? ns =
    if ns.all isFinite = true then
      timeAfter? (toInt64 (ns.getD 0 0.0)) (toInt64 (ns.getD 1 0.0)) (toInt64 (monthOffset ns))
    else none := by
  obtain ⟨year, rest, rfl⟩ := List.exists_cons_of_ne_nil some
  have unfolded : utcMillis? (year :: rest) = if (year :: rest).all isFinite = true then
      (monthStart? (toInt64 year) (toInt64 ((year :: rest).getD 1 0.0))).bind fun start =>
        if toInt64 (monthOffset (year :: rest)) = minInt64 then none
        else (start.plusMillis? (toInt64 (monthOffset (year :: rest)))).map Instant.millis
      else none := rfl
  rw [unfolded, List.getD_cons_zero]
  generalize toInt64 (monthOffset (year :: rest)) = ms
  refine if_congr Iff.rfl ?_ rfl
  by_cases least : ms = minInt64
  · simp only [least, reduceIte, timeAfter?_least, Option.bind_fun_none]
  · simp only [least, reduceIte, plusMillis?_eq_timeAfter?]

/-- A year that is held at an end of the 64 bits leads outside, as the year itself does. -/
theorem timeAfter?_held {kept year index : Int} (held : Held kept year) (inside : InInt64 index)
    (ms : Int) : timeAfter? kept index ms = timeAfter? year index ms := by
  rcases held with same | ⟨far, far'⟩
  · rw [same]
  · have outside {y : Int} (far : 2 ^ 62 ≤ y.natAbs) : timeAfter? y index ms = none := by
      refine if_neg ?_
      rintro ⟨inYear, -⟩
      have bounds := (inRange_iff _).mp inYear
      have := Number.inInt64_iff.mp inside
      simp only [firstOfMonth] at bounds
      omega
    rw [outside far, outside far']

theorem counts_zero : Counts 0.0 0 := (Number.IsInt.zero .positive).counts

theorem getD_map_wholePart (ns : List Float) (i : Nat) {missing : Float} {n : Int}
    (counts : Counts missing n) : (ns.map wholePart).getD i n = wholePart (ns.getD i missing) := by
  rw [← counts.wholePart, List.getD_eq_getElem?_getD, List.getD_eq_getElem?_getD, List.getElem?_map]
  cases ns[i]? <;> rfl

theorem isFinite_getD {ns : List Float} (finite : ns.all isFinite = true) (i : Nat) {missing : Float}
    {n : Int} (counts : Counts missing n) : isFinite (ns.getD i missing) = true := by
  rw [List.getD_eq_getElem?_getD]
  cases found : ns[i]? with
  | none => exact counts.isFinite
  | some x => exact List.all_eq_true.mp finite x (List.mem_of_getElem? found)

/-- Where the month has a place in 64 bits, the whole parts of the year and of the month decide
together with the offset. -/
theorem utcMillis?_of_month {ns : List Float} (some : ns ≠ []) (finite : ns.all isFinite = true)
    (month : InInt64 ((ns.map wholePart).getD 1 0)) : utcMillis? ns =
      timeAfter? ((ns.map wholePart).getD 0 0) ((ns.map wholePart).getD 1 0)
        (toInt64 (monthOffset ns)) := by
  have isYear := isFinite_getD finite 0 counts_zero
  have isMonth := isFinite_getD finite 1 counts_zero
  rw [getD_map_wholePart ns 1 counts_zero] at month ⊢
  rw [utcMillis?_eq some, if_pos finite, Number.toInt64_of_inInt64 isMonth month,
    timeAfter?_held (Number.held_toInt64 isYear) month, getD_map_wholePart ns 0 counts_zero]

/-- Added to a sum one after the other, the terms and the sums stay small enough for doubles. -/
def ExactSum (sum : Int) : List Int → Prop
  | [] => True
  | term :: terms =>
    (term.natAbs < 2 ^ 53 ∧ (sum + term).natAbs < 2 ^ 53) ∧ ExactSum (sum + term) terms

instance ExactSum.decidable : (sum : Int) → (terms : List Int) → Decidable (ExactSum sum terms)
  | _, [] => .isTrue trivial
  | sum, term :: terms =>
    have := ExactSum.decidable (sum + term) terms
    inferInstanceAs (Decidable (_ ∧ _))

/-- The numbers are finite, the month has a place in 64 bits, and nothing is rounded. -/
structure Measured (ns : List Float) : Prop where
  finite : ns.all isFinite = true
  month : InInt64 ((ns.map wholePart).getD 1 0)
  exact : ExactSum 0 (monthTerms (ns.map wholePart))

/-- Nothing is rounded as long as the terms and their sums stay small. -/
theorem counts_monthOffset {ns : List Float} {parts : List Int}
    (day : Counts (Number.trunc (ns.getD 2 1.0)) (parts.getD 2 1))
    (later : ∀ i, 2 < i → i < 7 → Counts (Number.trunc (ns.getD i 0.0)) (parts.getD i 0))
    (exact : ExactSum 0 (monthTerms parts)) :
    Counts (monthOffset ns) (monthTerms parts).sum := by
  have perDay : Counts 86400000.0 86400000 :=
    ⟨by decide, false, 86400000 * 2 ^ 26, 26, by decide, by decide, rfl⟩
  have perHour : Counts 3600000.0 3600000 :=
    ⟨by decide, false, 3600000 * 2 ^ 31, 31, by decide, by decide, rfl⟩
  have perMinute : Counts 60000.0 60000 :=
    ⟨by decide, false, 60000 * 2 ^ 37, 37, by decide, by decide, rfl⟩
  have perSecond : Counts 1000.0 1000 :=
    ⟨by decide, false, 1000 * 2 ^ 43, 43, by decide, by decide, rfl⟩
  have total : (monthTerms parts).sum = (parts.getD 2 1 - 1) * 86400000 + parts.getD 3 0 * 3600000 +
      parts.getD 4 0 * 60000 + parts.getD 5 0 * 1000 + parts.getD 6 0 := by
    simp only [monthTerms, List.sum_cons, List.sum_nil]
    omega
  simp only [monthTerms, ExactSum, Int.zero_add] at exact
  obtain ⟨⟨smallDays, -⟩, ⟨smallHours, two⟩, ⟨smallMinutes, three⟩, ⟨smallSeconds, four⟩,
    ⟨-, five⟩, -⟩ := exact
  have days := (day.sub counts_one (by omega)).mul perDay smallDays
  have hours := (later 3 (by decide) (by decide)).mul perHour smallHours
  have minutes := (later 4 (by decide) (by decide)).mul perMinute smallMinutes
  have seconds := (later 5 (by decide) (by decide)).mul perSecond smallSeconds
  have millis := later 6 (by decide) (by decide)
  rw [total]
  exact (((days.add hours two).add minutes three).add seconds four).add millis five

section
variable {ns : List Float} (measured : Measured ns)
include measured

theorem Measured.counts_monthOffset :
    Counts (monthOffset ns) (monthTerms (ns.map wholePart)).sum := by
  have part (i : Nat) {missing : Float} {n : Int} (counts : Counts missing n)
      (small : ((ns.map wholePart).getD i n).natAbs < 2 ^ 53) :
      Counts (Number.trunc (ns.getD i missing)) ((ns.map wholePart).getD i n) := by
    rw [getD_map_wholePart ns i counts] at small ⊢
    exact Number.counts_trunc_of_small (isFinite_getD measured.finite i counts) small
  have exact := measured.exact
  simp only [monthTerms, ExactSum] at exact
  refine Calendar.counts_monthOffset (part 2 counts_one (by omega)) (fun i low high => ?_)
    measured.exact
  have place : i = 3 ∨ i = 4 ∨ i = 5 ∨ i = 6 := by omega
  rcases place with rfl | rfl | rfl | rfl <;> exact part _ counts_zero (by omega)

/-- Parts that are measured exactly give the time with them. -/
theorem Measured.utcMillis?_eq (some : ns ≠ []) : utcMillis? ns = timeOf? (ns.map wholePart) := by
  rw [utcMillis?_of_month some measured.finite measured.month,
    measured.counts_monthOffset.toInt64, timeOf?]

end

/-- Whole numbers that are small are measured exactly if their terms are. -/
theorem measured_ofInt (parts : List Int) (small : ∀ n ∈ parts, n.natAbs < 2 ^ 53)
    (month : InInt64 (parts.getD 1 0)) (exact : ExactSum 0 (monthTerms parts)) :
    (parts.map Number.ofInt).map wholePart = parts ∧ Measured (parts.map Number.ofInt) := by
  have whole : (parts.map Number.ofInt).map wholePart = parts := by
    rw [List.map_map]
    exact (List.map_congr_left fun n isPart => (Number.counts_ofInt (small n isPart)).wholePart).trans
      (List.map_id _)
  have finite : (parts.map Number.ofInt).all isFinite = true := by
    rw [List.all_map, List.all_eq_true]
    exact fun n isPart => (Number.counts_ofInt (small n isPart)).isFinite
  exact ⟨whole, finite, by rwa [whole], by rwa [whole]⟩

theorem Instant.firstOfMonth_civil (t : Instant) :
    firstOfMonth t.civil.year (t.civil.month - 1) = ⟨t.civil.year, t.civil.month, 1⟩ := by
  have valid := t.valid_civil
  have := valid.firstMonth
  have := valid.lastMonth
  have year : t.civil.year + ((t.civil.month : Int) - 1) / 12 = t.civil.year := by omega
  have month : (((t.civil.month : Int) - 1) % 12).toNat + 1 = t.civil.month := by omega
  rw [firstOfMonth, year, month]

namespace Instant.Represented
variable {t : Instant} (represented : t.Represented)
include represented

theorem wholePart_parts : t.parts.map wholePart = [t.civil.year, t.civil.month - 1, t.civil.day,
    t.hour, t.minute, t.secondOfMinute, t.milli] := by
  have := t.dayOfMonth_bounds
  have := represented.part_bounds
  have part {n : Nat} (small : n < 2000) : wholePart (Float.ofNat n) = n :=
    (Number.counts_ofNat (by omega)).wholePart
  simp only [parts, List.map_cons, List.map_nil, represented.counts_year.wholePart,
    t.counts_month.wholePart]
  rw [part, part, part, part, part]
  all_goals omega

theorem finite_parts : t.parts.all isFinite = true := by
  have := t.dayOfMonth_bounds
  have := represented.part_bounds
  have finite {n : Nat} (small : n < 2000) : isFinite (Float.ofNat n) = true :=
    (Number.counts_ofNat (by omega)).isFinite
  simp only [parts, List.all_cons, List.all_nil, Bool.and_eq_true]
  refine ⟨represented.counts_year.isFinite, t.counts_month.isFinite, ?_, ?_, ?_, ?_, ?_, trivial⟩
  all_goals exact finite (by omega)

theorem measured : Measured t.parts := by
  have valid := t.valid_civil
  have := valid.firstMonth
  have := valid.lastMonth
  have := t.dayOfMonth_bounds
  have := represented.part_bounds
  refine ⟨represented.finite_parts, ?_, ?_⟩
  · simp only [represented.wholePart_parts, List.getD_cons_succ, List.getD_cons_zero,
      Number.inInt64_iff]
    omega
  · simp only [represented.wholePart_parts, monthTerms, ExactSum, List.getD_cons_succ,
      List.getD_cons_zero, and_true]
    omega

/-- Only a leap second at the end of the last year is counted outside. -/
theorem covered_millis : Covered (t.millis * 1000000) ↔ t.inBounds = true := by
  have := represented.day_bounds
  have := represented.second
  have := represented.nano
  rw [covered_iff, represented.inBounds_iff]
  simp only [millis, milli, dayNanos]
  omega

/-- The parts of an instant lead back to its milliseconds, if these can be reached at all. -/
theorem utcMillis?_parts : utcMillis? t.parts = if t.inBounds then some t.millis else none := by
  have clock : t.second = 3600 * t.hour + 60 * t.minute + t.secondOfMinute := by
    simp only [hour, minute, secondOfMinute]
    omega
  have inside : inRange t.civil.year = true := represented.year
  have days : Civil.toDays ⟨t.civil.year, t.civil.month, 1⟩ = t.day - (t.civil.day - 1) := by
    rw [Civil.toDays_of_first, civil, Civil.toDays_ofDays]
  have sum : millisAfter t.civil.year (t.civil.month - 1) (monthTerms (t.parts.map wholePart)).sum =
      t.millis := by
    rw [millisAfter, firstOfMonth_civil, days, represented.wholePart_parts]
    simp only [monthTerms, List.getD_cons_succ, List.getD_cons_zero, List.sum_cons, List.sum_nil,
      millis]
    omega
  rw [represented.measured.utcMillis?_eq (List.cons_ne_nil _ _), timeOf?,
    represented.wholePart_parts, List.getD_cons_succ, List.getD_cons_zero, List.getD_cons_zero,
    ← represented.wholePart_parts, timeAfter?, sum, firstOfMonth_civil]
  simp only [inside, true_and, represented.covered_millis]

end Instant.Represented

/-- The months of any numbers are counted within 64 bits. Only the year may leave them, and then it
is far from all years that are represented, also where the sum wraps around. -/
theorem year_sum_overflow {year index : Int} (isYear : InInt64 year) (isIndex : InInt64 index) :
    InInt64 (index / 12) ∧ (InInt64 (year + index / 12) ∨
      ¬ inRange (year + index / 12) = true ∧
        ¬ inRange ((year + index / 12).bmod (2 ^ 64)) = true) := by
  rw [Number.inInt64_iff] at isYear isIndex
  simp only [Number.inInt64_iff, inRange_iff]
  refine ⟨by omega, ?_⟩
  by_cases fits : -2 ^ 63 ≤ year + index / 12 ∧ year + index / 12 ≤ 2 ^ 63 - 1
  · exact .inl fits
  · refine .inr ⟨by omega, ?_⟩
    -- the sum is beyond an end by little, and wraps around to the far side
    rw [Int.bmod_def]
    split <;> omega

/-- A number of years may be moved from the year to the month, where the months stay within 64
bits. -/
theorem utcMillis?_years {y y' m m' : Float} {k : Int} (finite : isFinite y = true)
    (finite' : isFinite y' = true) (isMonth : isFinite m = true) (isMonth' : isFinite m' = true)
    (year : wholePart y' = wholePart y + k) (month : wholePart m' = wholePart m + 12 * k)
    (inside : InInt64 (wholePart m)) (inside' : InInt64 (wholePart m')) (rest : List Float) :
    utcMillis? (y :: m' :: rest) = utcMillis? (y' :: m :: rest) := by
  have offset : monthOffset (y :: m' :: rest) = monthOffset (y' :: m :: rest) := rfl
  have all : (y :: m' :: rest).all isFinite = (y' :: m :: rest).all isFinite := by
    simp only [List.all_cons, finite, finite', isMonth, isMonth']
  by_cases rests : (y' :: m :: rest).all isFinite = true
  · rw [utcMillis?_of_month (List.cons_ne_nil _ _) (all.trans rests) inside',
      utcMillis?_of_month (List.cons_ne_nil _ _) rests inside, offset]
    simp only [List.map_cons, List.getD_cons_succ, List.getD_cons_zero]
    rw [month, year, timeAfter?_years]
  · rw [utcMillis?_eq (List.cons_ne_nil _ _), utcMillis?_eq (List.cons_ne_nil _ _), all,
      if_neg rests, if_neg rests]

end DocExpr.Calendar
