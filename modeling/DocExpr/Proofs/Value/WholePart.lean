import DocExpr.Number.Index
import DocExpr.Proofs.Value.Readers

/-! Numbers cut off toward zero, as counts and positions are taken from them: what is read of the
numbers that are not finite, the signs, that what is left has no fraction to cut off, how the
integer that a number stands for is held between bounds, and the position that it is. -/
namespace DocExpr.Number
open Float.Model (Format UnpackedFloat)
open Float.Model.UnpackedFloat

theorem sign_of_bit {b : BitVec Format.binary64.numBits} {negative : Bool}
    (sign : (b.toNat / 2 ^ 63 % 2 == 1) = negative) :
    Sign.ofBitVec (unpackSign b) = signOf negative := by
  have bit := toNat_unpackSign b
  subst sign
  rcases Nat.mod_two_eq_zero_or_one (b.toNat / 2 ^ 63) with zero | one
  · rw [zero] at bit ⊢
    rw [show unpackSign b = 0#1 from BitVec.eq_of_toNat_eq bit]
    rfl
  · rw [one] at bit ⊢
    rw [show unpackSign b = 1#1 from BitVec.eq_of_toNat_eq bit]
    rfl

/-- The largest exponent is that of the infinite numbers and of what is no number. -/
theorem unpack_of_top {b : BitVec Format.binary64.numBits}
    (top : b.toNat / 2 ^ 52 % 2048 = 2047) :
    unpack .binary64 b =
      if b.toNat % 2 ^ 52 = 0 then .infinity (Sign.ofBitVec (unpackSign b)) else .notANumber := by
  have exponent := toNat_unpackExponent b
  have fraction := toNat_unpackMantissa b
  have isTop : unpackExponent b = -1#11 := BitVec.eq_of_toNat_eq (exponent.trans top)
  have isZero : unpackMantissa b = 0#52 ↔ b.toNat % 2 ^ 52 = 0 := by
    rw [← fraction]
    exact ⟨fun zero => by rw [zero]; rfl, fun zero => BitVec.eq_of_toNat_eq zero⟩
  unfold unpack
  dsimp only
  rw [if_pos isTop]
  by_cases zero : b.toNat % 2 ^ 52 = 0
  · rw [if_pos (isZero.mpr zero), if_pos zero]
  · rw [if_neg (mt isZero.mp zero), if_neg zero]

/-- What the bits are of what is not finite. -/
theorem top_of_readBits {b : Nat} {r : Reading} (reading : readBits b = r)
    (other : ∀ negative m e, r ≠ .finite negative m e) :
    b / 2 ^ 52 % 2048 = 2047 ∧
      r = if b % 2 ^ 52 = 0 then .infinite (b / 2 ^ 63 % 2 == 1) else .nan := by
  simp only [readBits, Nat.pow_eq] at reading
  split at reading
  next top => exact ⟨top, reading.symm⟩
  next => split at reading <;> exact absurd reading.symm (other _ _ _)

section
variable {x : Float}

theorem unpack_infinite {negative : Bool} (reading : read x = .infinite negative) :
    x.toModel.unpack = .infinity (signOf negative) := by
  obtain ⟨top, parts⟩ := top_of_readBits reading (by simp)
  have unpacked := @unpack_of_top x.toModel.toBits.toBitVec top
  split at parts
  next zero =>
    cases parts
    exact (unpacked.trans (if_pos zero)).trans (congrArg _ (sign_of_bit rfl))
  next => cases parts

theorem unpack_nan (reading : read x = .nan) : x.toModel.unpack = .notANumber := by
  obtain ⟨top, parts⟩ := top_of_readBits reading (by simp)
  have unpacked := @unpack_of_top x.toModel.toBits.toBitVec top
  split at parts
  next => cases parts
  next some => exact unpacked.trans (if_neg some)

theorem isNaN_iff : x.isNaN = true ↔ read x = .nan := by
  change x.toModel.unpack.isNaN = true ↔ _
  cases reading : read x with
  | nan =>
    rw [unpack_nan reading]
    exact iff_of_true rfl rfl
  | infinite negative =>
    rw [unpack_infinite reading]
    exact iff_of_false (fun none => nomatch none) (by simp)
  | finite negative m e =>
    have finite : isFinite x = true := by rw [isFinite, reading]
    have number := unpack_of_finite finite
    refine iff_of_false (fun none => number ?_) (by simp)
    cases unpacked : x.toModel.unpack with
    | notANumber => rfl
    | infinity | zero | finite =>
      rw [unpacked] at none
      cases none

/-- A number is negative by its sign, if it is not a zero. -/
theorem negative_iff : x < 0.0 ↔ match read x with
    | .nan => False
    | .infinite negative => negative = true
    | .finite negative m _ => negative = true ∧ 0 < m := by
  split
  next reading =>
    exact iff_of_false (unordered (.inl (isNaN_iff.mpr reading))).1 id
  next negative reading =>
    rw [lt_iff, unpack_infinite reading]
    cases negative with
    | true => exact iff_of_true rfl rfl
    | false => exact iff_of_false (fun less => nomatch less) Bool.false_ne_true
  next negative m e reading =>
    by_cases zero : m = 0
    · subst zero
      refine iff_of_false ?_ (by simp)
      rcases eq_zero_of_read reading with rfl | rfl
      · decide
      · decide
    · have some := Nat.pos_of_ne_zero zero
      rw [lt_zero_iff reading some, and_iff_left some]

theorem Counts.negative_iff {i : Int} (counts : Counts x i) : x < 0.0 ↔ i < 0 := by
  have zero : IsInt (0.0 : Float).toModel.unpack 0 := .zero .positive
  rw [lt_iff, counts.isInt.compare_eq zero, Option.some.injEq, Int.compare_eq_lt]

section
variable {negative : Bool} {m : Nat} {e : Int} (reading : read x = .finite negative m e)
include reading

theorem wholePart_of_read :
    wholePart x = if negative then -((splitWhole m e).1 : Int) else (splitWhole m e).1 := by
  unfold wholePart
  rw [reading]

/-- Where there may be a fraction, what is left without it is small. -/
theorem counts_trunc (fine : e < 0) : Counts (trunc x) (wholePart x) := by
  have canonical := canonical_of_read reading
  have small : (splitWhole m e).1 < 2 ^ 53 := by
    unfold splitWhole
    rw [if_neg (by omega)]
    exact Nat.lt_of_le_of_lt (Nat.div_le_self _ _) canonical.high
  rw [trunc_of_read reading, if_neg (by omega), wholePart_of_read reading]
  exact counts_ofDyadic negative small

end

/-- A full mantissa that is scaled up is no small number. -/
theorem Canonical.flat {m : Nat} {e : Int} (canonical : Canonical m e) (coarse : 0 ≤ e)
    (small : (splitWhole m e).1 < 2 ^ 53) : e = 0 := by
  have full : 2 ^ 52 ≤ m := by
    have := canonical.full
    omega
  rw [splitWhole, if_pos coarse] at small
  change m * 2 ^ e.toNat < 2 ^ 53 at small
  by_contra scaled
  have double : 2 ^ 1 ≤ 2 ^ e.toNat := Nat.pow_le_pow_right (by decide) (by omega)
  have := Nat.mul_le_mul full double
  omega

/-- A number with a small whole part is cut off to it. -/
theorem counts_trunc_of_small (finite : isFinite x = true)
    (small : (wholePart x).natAbs < 2 ^ 53) : Counts (trunc x) (wholePart x) := by
  unfold isFinite at finite
  split at finite
  next negative m e reading =>
    by_cases fine : e < 0
    · exact counts_trunc reading fine
    · have whole := wholePart_of_read reading
      have short : (splitWhole m e).1 < 2 ^ 53 := by
        rw [whole] at small
        split at small <;> omega
      have flat := (canonical_of_read reading).flat (by omega) short
      subst flat
      have unscaled : (splitWhole m 0).1 = m := Nat.mul_one m
      rw [unscaled] at whole
      rw [trunc_of_read reading, if_pos (Int.le_refl 0)]
      refine ⟨small, negative, m, 0, reading, ?_, ?_⟩
      · rw [whole, Nat.pow_zero, Nat.mul_one]
        split <;> simp
      · rw [whole]
        split <;> simp
  next => cases finite

/-- What is not infinite keeps the sign of its whole part. -/
theorem trunc_negative_iff (bounded : isInfinite x = false) :
    trunc x < 0.0 ↔ wholePart x < 0 := by
  cases reading : read x with
  | nan =>
    have other : isFinite x = false := by rw [isFinite, reading]
    have none : wholePart x = 0 := by rw [wholePart, reading]
    rw [trunc_of_not_finite other, none, negative_iff, reading]
    exact iff_of_false id (by decide)
  | infinite negative =>
    rw [isInfinite, reading] at bounded
    cases bounded
  | finite negative m e =>
    by_cases fine : e < 0
    · exact (counts_trunc reading fine).negative_iff
    · have coarse : 0 ≤ e := by omega
      have some : 0 < m := by
        have full := (canonical_of_read reading).full
        omega
      have whole : 0 < (splitWhole m e).1 := by
        rw [splitWhole, if_pos coarse]
        exact Nat.mul_pos some (Nat.two_pow_pos _)
      rw [trunc_of_read reading, if_pos coarse, negative_iff, reading, wholePart_of_read reading]
      cases negative with
      | true => exact iff_of_true ⟨rfl, some⟩ (by simpa using whole)
      | false => exact iff_of_false (by simp) (by simp)

theorem clampInt_of_finite (finite : isFinite x = true) (low high : Int) :
    clampInt low high x = max low (min high (wholePart x)) := by
  unfold isFinite at finite
  unfold clampInt
  split at finite
  next reading => rw [reading]
  next => cases finite

/-- What is no number is cut off to zero, which lies between the bounds. -/
theorem clampInt_of_bounded (bounded : isInfinite x = false) {low high : Int} (below : low ≤ 0)
    (above : 0 ≤ high) : clampInt low high x = max low (min high (wholePart x)) := by
  cases reading : read x with
  | nan =>
    rw [clampInt, reading, wholePart, reading]
    dsimp only
    omega
  | infinite negative =>
    rw [isInfinite, reading] at bounded
    cases bounded
  | finite negative m e =>
    have finite : isFinite x = true := by rw [isFinite, reading]
    exact clampInt_of_finite finite low high

/-- Cutting off changes nothing, or leaves a number with the same whole part. -/
theorem trunc_cases (x : Float) :
    trunc x = x ∨ isFinite x = true ∧ Counts (trunc x) (wholePart x) := by
  cases finite : isFinite x with
  | false => exact .inl (trunc_of_not_finite finite)
  | true =>
    have same := finite
    unfold isFinite at same
    split at same
    next negative m e reading =>
      by_cases fine : e < 0
      · exact .inr ⟨rfl, counts_trunc reading fine⟩
      · rw [trunc_of_read reading, if_pos (by omega)]
        exact .inl rfl
    next => cases same

theorem clampInt_trunc (x : Float) (low high : Int) :
    clampInt low high (trunc x) = clampInt low high x := by
  rcases trunc_cases x with same | ⟨finite, counts⟩
  · rw [same]
  · rw [clampInt_of_finite counts.isFinite, clampInt_of_finite finite, counts.wholePart]

theorem isInfinite_of_isFinite (finite : isFinite x = true) : isInfinite x = false := by
  unfold isFinite at finite
  unfold isInfinite
  split at finite
  next reading => rw [reading]
  next => cases finite

theorem isInfinite_trunc (x : Float) : isInfinite (trunc x) = isInfinite x := by
  rcases trunc_cases x with same | ⟨finite, counts⟩
  · rw [same]
  · rw [isInfinite_of_isFinite counts.isFinite, isInfinite_of_isFinite finite]

end

/-- An integer, or what is below or above all of them. -/
inductive Extended where
  | below
  | whole (i : Int)
  | above
  deriving DecidableEq, Repr

/-- At most the integer. -/
def Extended.AtMost (i : Int) : Extended → Prop
  | .below => True
  | .whole k => k ≤ i
  | .above => False

/-- At least the integer. -/
def Extended.AtLeast (i : Int) : Extended → Prop
  | .below => False
  | .whole k => i ≤ k
  | .above => True

/-- A number as an integer: without its fraction, and zero for what is no number. -/
def integer (x : Float) : Extended :=
  match read x with
  | .nan => .whole 0
  | .infinite negative => if negative then .below else .above
  | .finite .. => .whole (wholePart x)

section
variable {x : Float} {negative : Bool} {m : Nat} {e : Int}
  (reading : read x = .finite negative m e)
include reading

theorem wholePart_nonpos (less : x < 0.0) : wholePart x ≤ 0 := by
  rw [negative_iff, reading] at less
  rw [wholePart_of_read reading, if_pos less.1]
  omega

theorem wholePart_nonneg (notLess : ¬ x < 0.0) : 0 ≤ wholePart x := by
  rw [negative_iff, reading] at notLess
  rw [wholePart_of_read reading]
  split
  next isNegative =>
    have none : m = 0 := by
      by_contra some
      exact notLess ⟨isNegative, Nat.pos_of_ne_zero some⟩
    have whole : (splitWhole m e).1 = 0 := by
      rw [none, splitWhole]
      split
      · exact Nat.zero_mul _
      · exact Nat.zero_div _
    omega
  next => omega

end

/-- A number is that integer, by its sign and by how it is held between bounds. -/
inductive HeldAs (x : Float) : Extended → Prop where
  | below (negative : x < 0.0) (held : ∀ low high, clampInt low high x = low) : HeldAs x .below
  | above (notLess : ¬ x < 0.0) (held : ∀ low high, clampInt low high x = high) : HeldAs x .above
  | between {w : Int} (nonpos : x < 0.0 → w ≤ 0) (nonneg : ¬ x < 0.0 → 0 ≤ w)
      (held : ∀ low high, low ≤ 0 → 0 ≤ high → clampInt low high x = max low (min high w)) :
      HeldAs x (.whole w)

theorem heldAs_integer (x : Float) : HeldAs x (integer x) := by
  unfold integer
  cases reading : read x with
  | nan =>
    have notLess : ¬ x < 0.0 := by
      rw [negative_iff, reading]
      exact id
    refine .between (w := 0) (fun less => absurd less notLess) (fun _ => Int.le_refl 0) ?_
    intro low high below above
    rw [clampInt, reading]
    dsimp only
    omega
  | infinite negative =>
    have sign : x < 0.0 ↔ negative = true := by rw [negative_iff, reading]
    cases negative with
    | true =>
      refine .below (sign.mpr rfl) fun low high => ?_
      rw [clampInt, reading]
      rfl
    | false =>
      refine .above (mt sign.mp Bool.false_ne_true) fun low high => ?_
      rw [clampInt, reading]
      rfl
  | finite negative m e =>
    have finite : isFinite x = true := by rw [isFinite, reading]
    exact .between (wholePart_nonpos reading) (wholePart_nonneg reading)
      fun low high _ _ => clampInt_of_finite finite low high

/-- The integer has a place in 64 bits. -/
def InInt64 (n : Int) : Prop := minInt64 ≤ n ∧ n ≤ maxInt64

instance (n : Int) : Decidable (InInt64 n) := inferInstanceAs (Decidable (_ ∧ _))

theorem inInt64_iff {n : Int} : InInt64 n ↔ -2 ^ 63 ≤ n ∧ n ≤ 2 ^ 63 - 1 := Iff.rfl

theorem inInt64_toInt64 (x : Float) : InInt64 (toInt64 x) :=
  clampInt_mem (by decide) (by decide) x

theorem toInt64_of_inInt64 {x : Float} (finite : isFinite x = true)
    (inside : InInt64 (wholePart x)) : toInt64 x = wholePart x := by
  unfold InInt64 at inside
  rw [toInt64, clampInt_of_finite finite]
  omega

/-- What is kept of an amount is the amount, or both are far from zero. -/
def Held (kept n : Int) : Prop := kept = n ∨ 2 ^ 62 ≤ kept.natAbs ∧ 2 ^ 62 ≤ n.natAbs

theorem held_toInt64 {x : Float} (finite : isFinite x = true) : Held (toInt64 x) (wholePart x) := by
  rw [toInt64, clampInt_of_finite finite]
  change Held (max (-2 ^ 63) (min (2 ^ 63 - 1) (wholePart x))) _
  unfold Held
  omega

/-- An integer held between zero and a length. -/
def Extended.clamped (n : Extended) (length : Nat) : Nat :=
  match n with
  | .below => 0
  | .whole i => min i.toNat length
  | .above => length

/-- An integer that counts from the end if it is negative, held between zero and the length. -/
def Extended.relative (n : Extended) (length : Nat) : Nat :=
  match n with
  | .below => 0
  | .whole i => if i < 0 then (length + i).toNat else min i.toNat length
  | .above => length

theorem Extended.clamped_le (n : Extended) (length : Nat) : n.clamped length ≤ length := by
  cases n with
  | below => exact Nat.zero_le length
  | whole i => exact Nat.min_le_right i.toNat length
  | above => exact Nat.le_refl length

theorem Extended.relative_le (n : Extended) (length : Nat) : n.relative length ≤ length := by
  cases n with
  | below => exact Nat.zero_le length
  | whole i =>
    unfold relative
    dsimp only
    split <;> omega
  | above => exact Nat.le_refl length

theorem Extended.clamped_whole {i length : Nat} (within : i ≤ length) :
    (Extended.whole i).clamped length = i := Nat.min_eq_left within

theorem Extended.relative_whole {i length : Nat} (within : i ≤ length) :
    (Extended.whole i).relative length = i := by
  rw [relative, if_neg (by omega), Int.toNat_natCast, Nat.min_eq_left within]

theorem clampIndex_eq (x : Float) (length : Nat) :
    clampIndex x length = (integer x).clamped length := by
  have number := heldAs_integer x
  generalize integer x = n at number ⊢
  unfold clampIndex Extended.clamped
  cases number with
  | below negative held =>
    rw [held]
    rfl
  | above notLess held =>
    rw [held]
    rfl
  | between nonpos nonneg held =>
    rw [held _ _ (Int.le_refl 0) (by omega)]
    dsimp only
    omega

theorem relativeIndex_eq (x : Float) (length : Nat) :
    relativeIndex x length = (integer x).relative length := by
  have number := heldAs_integer x
  generalize integer x = n at number ⊢
  unfold relativeIndex Extended.relative
  cases number with
  | below negative held =>
    rw [held]
    dsimp only
    split <;> omega
  | above notLess held =>
    rw [held]
    dsimp only
    split <;> omega
  | between nonpos nonneg held =>
    rw [held _ _ (by omega) (by omega)]
    dsimp only
    split <;> split <;> omega

theorem integer_of_finite {x : Float} (finite : isFinite x = true) :
    integer x = .whole (wholePart x) := by
  unfold isFinite at finite
  unfold integer
  split at finite
  next reading => rw [reading]
  next => cases finite

theorem Counts.integer {x : Float} {i : Int} (counts : Counts x i) : integer x = .whole i := by
  rw [integer_of_finite counts.isFinite, counts.wholePart]

theorem integer_zero : integer 0.0 = .whole 0 :=
  Counts.integer (IsInt.zero .positive).counts

end DocExpr.Number
