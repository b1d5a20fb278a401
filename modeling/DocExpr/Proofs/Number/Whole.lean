import DocExpr.Proofs.Json.Numeral
import DocExpr.Proofs.Number.Parts

/-! Whole numbers below `2 ^ 53` have doubles of their own: what the numeral of such a number is
read as stands for exactly that number. Each rounding on the way has nothing to round. -/
namespace DocExpr.Number
open Float.Model (Format UnpackedFloat totalExponent)
open Float.Model.UnpackedFloat

/-- A mantissa of 53 bits and an exponent that a double has room for. -/
structure Fits (m : Nat) (e : Int) : Prop where
  low : 2 ^ 52 ≤ m
  high : m < 2 ^ 53
  least : -1074 ≤ e
  most : e ≤ 971

section
variable {m : Nat} {e : Int} (fits : Fits m e)
include fits

theorem Fits.log2 : m.log2 = 52 := (Nat.log2_eq_iff (by have := fits.low; omega)).mpr
  ⟨fits.low, fits.high⟩

theorem Fits.canonical : Canonical m e := ⟨fits.high, fits.least, fits.most, .inl fits.low⟩

end

theorem shift_exact (m k : Nat) :
    (⟨m * 2 ^ k, false, false⟩ : ExtendedMantissa) >>> k = ⟨m, false, false⟩ := by
  change Nat.repeat ExtendedMantissa.shiftRightOne k _ = _
  induction k generalizing m with
  | zero => rw [Nat.pow_zero, Nat.mul_one]; rfl
  | succ k ih =>
    have even : m * 2 ^ (k + 1) = m * 2 * 2 ^ k := by rw [Nat.pow_succ', Nat.mul_assoc]
    rw [Nat.repeat, even, ih, ExtendedMantissa.shiftRightOne, Nat.mul_div_cancel m (by decide),
      Nat.mul_mod_left]
    rfl

/-- A mantissa with zeros at its end is shifted until it fits, and nothing is lost. -/
theorem shift_filled {m : Nat} {e : Int} (low : 2 ^ 52 ≤ m) (high : m < 2 ^ 53)
    (least : -1074 ≤ e) (k : Nat) :
    shiftToTargetExponent .binary64 (m * 2 ^ k) (e - k) .exact = (⟨m, false, false⟩, e) := by
  have log : (m * 2 ^ k).log2 = 52 + k := by
    have low := Nat.mul_le_mul_right (2 ^ k) low
    have high := Nat.mul_lt_mul_of_pos_right high (Nat.two_pow_pos k)
    rw [← Nat.pow_add] at low high
    refine (Nat.log2_eq_iff ?_).mpr ⟨low, by rwa [Nat.add_right_comm]⟩
    have := Nat.two_pow_pos (52 + k)
    omega
  have target : Format.binary64.targetExponent (totalExponent (m * 2 ^ k) (e - k)) = e := by
    rw [totalExponent, log]
    change max (((52 + k : Nat) : Int) + 1 + (e - k) - (53 : Nat)) (-1074) = e
    omega
  have amount : (e - (e - k)).toNat = k := by omega
  unfold shiftToTargetExponent shiftToExponent
  dsimp only
  rw [target, amount, ExtendedMantissa.ofMantissaAndAccuracy, shift_exact, Int.sub_add_cancel]

section
variable {m : Nat} {e : Int} (fits : Fits m e)
include fits

theorem shift_of_fits (k : Nat) :
    shiftToTargetExponent .binary64 (m * 2 ^ k) (e - k) .exact = (⟨m, false, false⟩, e) :=
  shift_filled fits.low fits.high fits.least k

theorem roundWithAccuracy_of_fits (s : Sign) (pos : 0 < m) (k : Nat) :
    roundWithAccuracy .binary64 s (m * 2 ^ k) (e - k) .exact = .finite s m e pos := by
  have again := shift_of_fits fits 0
  rw [Nat.pow_zero, Nat.mul_one, Int.natCast_zero, Int.sub_zero] at again
  have rounded : (⟨m, false, false⟩ : ExtendedMantissa).roundedMantissa = m := rfl
  unfold roundWithAccuracy
  rw [shift_of_fits fits k]
  dsimp only
  rw [rounded, again]
  dsimp only
  rw [dif_neg (Nat.pos_iff_ne_zero.mp pos)]

end

section
variable {n : Nat} (pos : 0 < n) (small : n < 2 ^ 53)
include pos small

theorem fits_whole : Fits (n * 2 ^ (52 - n.log2)) (-((52 - n.log2 : Nat) : Int)) := by
  have short : n.log2 ≤ 52 := by
    have := (Nat.log2_lt (by omega)).mpr small
    omega
  have filled : ∀ a, 2 ^ (n.log2 + a) * 2 ^ (52 - n.log2) = 2 ^ (52 + a) := by
    intro a
    rw [← Nat.pow_add]
    congr 1
    omega
  refine ⟨?_, ?_, by omega, by omega⟩
  · have low := Nat.mul_le_mul_right (2 ^ (52 - n.log2)) (Nat.log2_self_le (n := n) (by omega))
    exact Nat.le_trans (Nat.le_of_eq (filled 0).symm) low
  · have high := Nat.mul_lt_mul_of_pos_right (Nat.lt_log2_self (n := n))
      (Nat.two_pow_pos (52 - n.log2))
    rwa [filled] at high

theorem ofNat_whole (filled : 0 < n * 2 ^ (52 - n.log2)) :
    UnpackedFloat.ofNat .binary64 n =
      .finite .positive (n * 2 ^ (52 - n.log2)) (-((52 - n.log2 : Nat) : Int)) filled := by
  have fits := fits_whole pos small
  have greater : compare (n : Int) 0 = .gt := Int.compare_eq_gt.mpr (by omega)
  have target : Format.binary64.targetExponent (totalExponent n 0) = (n.log2 : Int) - 52 := by
    change max (((n.log2 : Nat) : Int) + 1 + 0 - (53 : Nat)) (-1074) = _
    omega
  have amount : ((0 : Int) - ((n.log2 : Int) - 52)).toNat = 52 - n.log2 := by omega
  have rounded := roundWithAccuracy_of_fits fits .positive filled 0
  rw [Nat.pow_zero, Nat.mul_one, Int.natCast_zero, Int.sub_zero] at rounded
  unfold UnpackedFloat.ofNat UnpackedFloat.ofInt UnpackedFloat.normalize
  rw [greater]
  unfold UnpackedFloat.round decreaseExponent
  dsimp only
  rw [Int.toNat_natCast, target, amount, Nat.shiftLeft_eq, Int.zero_sub, rounded]

theorem unpack_whole (filled : 0 < n * 2 ^ (52 - n.log2)) :
    n.toUInt64.toFloat.toModel.unpack =
      .finite .positive (n * 2 ^ (52 - n.log2)) (-((52 - n.log2 : Nat) : Int)) filled := by
  have whole : n.toUInt64.toNat = n := Nat.mod_eq_of_lt (by omega)
  change (Float.Model.pack (UnpackedFloat.ofNat .binary64 n.toUInt64.toNat)).unpack = _
  rw [whole, ofNat_whole pos small filled]
  exact @unpack_pack false _ _ (fits_whole pos small).canonical filled

end

theorem unpack_one : (Float.exactlyRepresentablePowersOfTen[0]).toModel.unpack =
    .finite .positive (2 ^ 52) (-52) (Nat.two_pow_pos 52) := rfl

/-- Digits without a point are multiplied by one, which changes nothing. -/
theorem read_ofScientific {n : Nat} (pos : 0 < n) (small : n < 2 ^ 53) :
    read (Float.ofScientific n false 0) =
      .finite false (n * 2 ^ (52 - n.log2)) (-((52 - n.log2 : Nat) : Int)) := by
  have fits := fits_whole pos small
  have filled : 0 < n * 2 ^ (52 - n.log2) := Nat.mul_pos pos (Nat.two_pow_pos _)
  have product := roundWithAccuracy_of_fits fits .positive filled 52
  unfold Float.ofScientific
  rw [dif_pos ⟨small, by decide⟩]
  dsimp only
  rw [if_neg (by decide)]
  change read ⟨.pack (UnpackedFloat.mul .binary64 n.toUInt64.toFloat.toModel.unpack
    (Float.exactlyRepresentablePowersOfTen[0]).toModel.unpack)⟩ = _
  rw [unpack_whole pos small filled, unpack_one]
  change read ⟨.pack (roundWithAccuracy .binary64 .positive (n * 2 ^ (52 - n.log2) * 2 ^ 52)
    (-((52 - n.log2 : Nat) : Int) - (52 : Nat)) .exact)⟩ = _
  rw [product]
  exact @read_pack false _ _ fits.canonical filled

theorem read_ofDecimal {n : Nat} (small : n < 2 ^ 53) :
    ∃ m k : Nat, m = n * 2 ^ k ∧ read (ofDecimal n 0) = .finite false m (-(k : Int)) := by
  unfold ofDecimal
  split
  next zero =>
    subst zero
    have scaled : ∀ k, 0 = 0 * 2 ^ k := fun k => (Nat.zero_mul _).symm
    exact ⟨0, 1074, scaled 1074, rfl⟩
  next positive =>
    have short : (Nat.toDigits 10 n).length ≤ 16 :=
      (Nat.length_toDigits_le_iff (by decide) (by decide)).mpr (by omega)
    have above : ¬ (310 < ((Nat.toDigits 10 n).length : Int) + 0) := by omega
    have below : ¬ (((Nat.toDigits 10 n).length : Int) + 0 < -330) := by omega
    dsimp only
    rw [if_neg above, if_neg below]
    exact ⟨_, _, rfl, read_ofScientific (Nat.pos_of_ne_zero positive) small⟩

theorem natOfDigits_digitChars (n : Nat) : natOfDigits (digitChars n) = n :=
  Nat.ofDigitChars_toDigits (by decide) (by decide)

theorem splitWhole_exact (n k : Nat) : splitWhole (n * 2 ^ k) (-(k : Int)) = (n, false) := by
  unfold splitWhole
  split
  next whole =>
    have : k = 0 := by omega
    subst this
    exact congrArg (·, false) ((Nat.mul_one _).trans (Nat.mul_one n))
  next =>
    dsimp only
    rw [Int.neg_neg, Int.toNat_natCast, Nat.pow_eq, Nat.mul_div_cancel n (Nat.two_pow_pos k),
      Nat.mul_mod_left]
    rfl

/-- A double that stands for a whole number is cut off to it. -/
theorem isWhole_of_read {x : Float} {n k : Nat}
    (reading : read x = .finite false (n * 2 ^ k) (-(k : Int))) (small : n < 2 ^ 53) :
    isWhole x = true ∧ toInt64 x = n := by
  have split := splitWhole_exact n k
  constructor
  · unfold isWhole
    rw [reading]
    dsimp only
    rw [split]
    rfl
  · unfold toInt64 clampInt wholePart
    rw [reading]
    dsimp only
    rw [split]
    change max (-2 ^ 63) (min (2 ^ 63 - 1) (n : Int)) = n
    omega

/-- The numeral of a whole number is read as that number. -/
theorem ofNumeral?_whole {n : Nat} (small : n < 2 ^ 53) :
    ∃ x, ofNumeral? (digitChars n) = some x ∧ isWhole x = true ∧ toInt64 x = n := by
  have digits := digits_digitChars n
  obtain ⟨m, k, rfl, reading⟩ := read_ofDecimal small
  refine ⟨ofDecimal n 0, ?_, isWhole_of_read reading small⟩
  obtain ⟨c, cs, written, digit⟩ := digits.cons
  have span : spanPoint (digitChars n) = (digitChars n, [], []) := by
    have ends : Json.NoDigit [] := fun _ none => nomatch none
    have whole := Json.spanDigits_digits digits.all ends
    rw [List.append_nil] at whole
    rw [spanPoint, whole]
  have signless : spanSign (digitChars n) = (false, digitChars n) := by
    rw [written, Json.spanSign_digit digit]
  unfold ofNumeral?
  rw [signless]
  dsimp only
  rw [span, List.append_nil, written]
  change some (ofDecimal (natOfDigits (c :: cs)) 0) = some (ofDecimal n 0)
  rw [← written, natOfDigits_digitChars]

end DocExpr.Number
