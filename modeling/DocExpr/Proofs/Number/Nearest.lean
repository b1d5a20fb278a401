import DocExpr.Proofs.Number.Equality
import DocExpr.Proofs.Number.NearestDouble

/-! Decimals are read as the nearest double: whatever way the reader takes, by a table of powers of
ten or by a product or quotient of integers, the double it returns is the one nearest to the
decimal, however large or small that is. -/
namespace DocExpr.Number
open Float.Model (Format UnpackedFloat totalExponent)
open Float.Model.UnpackedFloat

section
variable {m₁ m₂ m : Nat} {e₁ e₂ e : Int} (pos₁ : 0 < m₁) (pos₂ : 0 < m₂)

/-- A quotient has as many bits before the point as the numbers of bits differ by, or one more. -/
theorem quotient_low (pos₁ : 0 < m₁) (pos₂ : 0 < m₂) :
    (2 : ℚ) ^ (totalExponent m₁ e₁ - totalExponent m₂ e₂ - 1) < m₁ * 2 ^ e₁ / (m₂ * 2 ^ e₂) := by
  have least : ((2 ^ m₁.log2 : Nat) : ℚ) ≤ m₁ :=
    Nat.cast_le.mpr (Nat.log2_self_le (Nat.pos_iff_ne_zero.mp pos₁))
  have most : (m₂ : ℚ) < (2 ^ (m₂.log2 + 1) : Nat) := Nat.cast_lt.mpr Nat.lt_log2_self
  have divisor : (0 : ℚ) < m₂ * 2 ^ e₂ := mul_pos (Nat.cast_pos.mpr pos₂) (two_zpow_pos e₂)
  have exponent : totalExponent m₁ e₁ - totalExponent m₂ e₂ - 1 + (((m₂.log2 + 1 : Nat) : Int) + e₂)
      = (m₁.log2 : Int) + e₁ := by
    unfold totalExponent
    push_cast
    ring
  push_cast at least most
  rw [lt_div_iff₀ divisor]
  calc (2 : ℚ) ^ (totalExponent m₁ e₁ - totalExponent m₂ e₂ - 1) * (m₂ * 2 ^ e₂)
      < 2 ^ (totalExponent m₁ e₁ - totalExponent m₂ e₂ - 1) * (2 ^ (m₂.log2 + 1) * 2 ^ e₂) := by
        gcongr
    _ = 2 ^ m₁.log2 * 2 ^ e₁ := by
        rw [two_pow_mul_zpow, ← zpow_add₀ two_ne_zero, exponent, two_pow_mul_zpow]
    _ ≤ m₁ * 2 ^ e₁ := by gcongr

theorem approximates_mul (long : 2 ^ 52 ≤ m₁ * m₂) :
    Approximates (m₁ * 2 ^ e₁ * (m₂ * 2 ^ e₂)) (UnpackedFloat.mul .binary64
      (.finite .positive m₁ e₁ pos₁) (.finite .positive m₂ e₂ pos₂)) := by
  change Approximates _ (roundWithAccuracy .binary64 .positive (m₁ * m₂) (e₁ + e₂) .exact)
  refine .rounded ?_ ?_
  · have whole : (m₁ * 2 ^ e₁ * (m₂ * 2 ^ e₂) / 2 ^ (e₁ + e₂) : ℚ) = (m₁ * m₂ : Nat) := by
      rw [zpow_add₀ two_ne_zero, div_eq_iff (by positivity)]
      push_cast
      ring
    rw [whole]
    exact standsFor_exact _
  · have log : 52 ≤ (m₁ * m₂).log2 := (Nat.le_log2 (by omega)).mpr long
    rw [target_eq_max]
    omega

theorem approximates_div :
    Approximates (m₁ * 2 ^ e₁ / (m₂ * 2 ^ e₂)) (UnpackedFloat.div .binary64
      (.finite .positive m₁ e₁ pos₁) (.finite .positive m₂ e₂ pos₂)) := by
  generalize finest : min (e₁ - e₂)
    (Format.binary64.targetExponent (totalExponent m₁ e₁ - totalExponent m₂ e₂)) = E
  generalize dividend : m₁ <<< (e₁ - e₂ - E).toNat = n
  have core : divCore .binary64 m₁ e₁ m₂ e₂ = (n / m₂, E, accuracyOfFraction (n % m₂) m₂) := by
    unfold divCore
    dsimp only
    rw [finest, dividend]
  change Approximates _ (match divCore .binary64 m₁ e₁ m₂ e₂ with
    | (m, e, acc) => roundWithAccuracy .binary64 .positive m e acc)
  rw [core]
  have stands : StandsFor (.ofMantissaAndAccuracy (n / m₂) (accuracyOfFraction (n % m₂) m₂))
      (m₁ * 2 ^ e₁ / (m₂ * 2 ^ e₂) / 2 ^ E) := by
    have scaled : (m₁ * 2 ^ e₁ / (m₂ * 2 ^ e₂) / 2 ^ E : ℚ) = n / m₂ := by
      have enough : (((e₁ - e₂ - E).toNat : Nat) : Int) + (e₂ + E) = e₁ := by
        have : E ≤ e₁ - e₂ := finest ▸ Int.min_le_left _ _
        omega
      have powers : (2 : ℚ) ^ e₁ = 2 ^ (e₁ - e₂ - E).toNat * (2 ^ e₂ * 2 ^ E) := by
        rw [← zpow_add₀ two_ne_zero, two_pow_mul_zpow, enough]
      have divisor : (0 : ℚ) < m₂ := Nat.cast_pos.mpr pos₂
      rw [← dividend, Nat.shiftLeft_eq, powers]
      push_cast
      field_simp
    rw [scaled]
    exact standsFor_fraction n pos₂
  refine .rounded stands ?_
  have low : (2 : ℚ) ^ (totalExponent m₁ e₁ - totalExponent m₂ e₂ - 1) <
      m₁ * 2 ^ e₁ / (m₂ * 2 ^ e₂) := quotient_low pos₁ pos₂
  have limit : E ≤ max (totalExponent m₁ e₁ - totalExponent m₂ e₂ - 53) (-1074) :=
    finest ▸ Int.min_le_right _ _
  rw [target_eq_max]
  by_cases none : n / m₂ = 0
  · have small := two_zpow_lt_iff.mp (low.trans (below_unit stands none))
    omega
  · have := two_zpow_lt_iff.mp (low.trans (binade stands none).2)
    omega

variable (canonical : Canonical m e) (pos : 0 < m)
include canonical

theorem mul_of_roundsTo (long : 2 ^ 52 ≤ m₁ * m₂)
    (rounds : RoundsTo (m₁ * 2 ^ e₁ * (m₂ * 2 ^ e₂)) m e) :
    UnpackedFloat.mul .binary64 (.finite .positive m₁ e₁ pos₁) (.finite .positive m₂ e₂ pos₂) =
      .finite .positive m e pos :=
  (approximates_mul pos₁ pos₂ long).of_roundsTo canonical pos rounds

theorem div_of_roundsTo (rounds : RoundsTo (m₁ * 2 ^ e₁ / (m₂ * 2 ^ e₂)) m e) :
    UnpackedFloat.div .binary64 (.finite .positive m₁ e₁ pos₁) (.finite .positive m₂ e₂ pos₂) =
      .finite .positive m e pos :=
  (approximates_div pos₁ pos₂).of_roundsTo canonical pos rounds

end

/-- The table of powers of ten holds them exactly. -/
theorem read_powersOfTen : ∀ k, (_ : k < 23) →
    read Float.exactlyRepresentablePowersOfTen[k] =
        .finite false (10 ^ k * 2 ^ 52 / 2 ^ (10 ^ k).log2) ((10 ^ k).log2 - 52) ∧
      10 ^ k * 2 ^ 52 % 2 ^ (10 ^ k).log2 = 0 := by
  decide

theorem unpack_powerOfTen {k : Nat} (listed : k < 23) :
    ∃ (m : Nat) (e : Int) (pos : 0 < m), Canonical m e ∧
      (Float.exactlyRepresentablePowersOfTen[k]).toModel.unpack = .finite .positive m e pos ∧
        (m * 2 ^ e : ℚ) = 10 ^ k := by
  obtain ⟨reading, divides⟩ := read_powersOfTen k listed
  have product := Nat.div_mul_cancel (Nat.dvd_of_mod_eq_zero divides)
  generalize 10 ^ k * 2 ^ 52 / 2 ^ (10 ^ k).log2 = m at reading product
  have pos : 0 < m := by
    refine Nat.pos_of_ne_zero fun none => ?_
    rw [none, Nat.zero_mul] at product
    have := Nat.mul_pos (Nat.pow_pos (n := k) (by decide : 0 < 10)) (Nat.two_pow_pos 52)
    omega
  refine ⟨m, _, pos, canonical_of_read reading, unpack_of_read reading pos, ?_⟩
  have productQ : (m * 2 ^ (10 ^ k).log2 : ℚ) = 10 ^ k * 2 ^ 52 := by exact_mod_cast product
  rw [zpow_sub₀ two_ne_zero, zpow_natCast, ← mul_div_assoc, productQ]
  exact mul_div_cancel_right₀ _ (by norm_num)

/-- A power of two below a power of ten: `93 / 28` is a little less than the logarithm of ten. -/
theorem two_pow_le_ten_pow {a b : Nat} (h : 28 * a ≤ 93 * b) : (2 : ℚ) ^ a ≤ 10 ^ b := by
  refine (pow_le_pow_iff_left₀ (by positivity) (by positivity) (by decide : 28 ≠ 0)).mp ?_
  calc ((2 : ℚ) ^ a) ^ 28 = 2 ^ (28 * a) := by rw [← pow_mul, Nat.mul_comm]
    _ ≤ 2 ^ (93 * b) := pow_le_pow_right₀ one_le_two h
    _ = (2 ^ 93) ^ b := pow_mul 2 93 b
    _ ≤ (10 ^ 28) ^ b := pow_le_pow_left₀ (by positivity) (by norm_num) b
    _ = (10 ^ b) ^ 28 := by rw [← pow_mul, ← pow_mul, Nat.mul_comm]

/-- A power of ten below a power of two: `103 / 31` is a little more than that. -/
theorem ten_pow_le_two_pow {a b : Nat} (h : 103 * a ≤ 31 * b) : (10 : ℚ) ^ a ≤ 2 ^ b := by
  refine (pow_le_pow_iff_left₀ (by positivity) (by positivity) (by decide : 31 ≠ 0)).mp ?_
  calc ((10 : ℚ) ^ a) ^ 31 = (10 ^ 31) ^ a := by rw [← pow_mul, ← pow_mul, Nat.mul_comm]
    _ ≤ (2 ^ 103) ^ a := pow_le_pow_left₀ (by positivity) (by norm_num) a
    _ = 2 ^ (103 * a) := (pow_mul 2 103 a).symm
    _ ≤ 2 ^ (31 * b) := pow_le_pow_right₀ one_le_two h
    _ = (2 ^ b) ^ 31 := by rw [← pow_mul, Nat.mul_comm]

theorem two_zpow_le_ten_zpow {E : Int} (up : 0 ≤ E) : (2 : ℚ) ^ E ≤ 10 ^ E := by
  obtain ⟨k, rfl⟩ := Int.eq_ofNat_of_zero_le up
  rw [zpow_natCast, zpow_natCast]
  exact two_pow_le_ten_pow (by omega)

theorem ten_zpow_le_two_zpow {E : Int} (down : E ≤ 0) : (10 : ℚ) ^ E ≤ 2 ^ E := by
  have flipped := two_zpow_le_ten_zpow (Int.neg_nonneg.mpr down)
  rw [zpow_neg, zpow_neg] at flipped
  exact (inv_le_inv₀ (two_zpow_pos E) (by positivity)).mp flipped

section
variable {t : ℚ} {m : Nat} {e : Int}

theorem RoundsTo.digits_pos {n : Nat} {unit : ℚ} (rounds : RoundsTo (n * unit) m e)
    (canonical : Canonical m e) (pos : 0 < m) : 0 < n := by
  refine Nat.pos_of_ne_zero fun none => ?_
  have above := rounds.above canonical pos
  rw [none, Nat.cast_zero, zero_mul] at above
  exact absurd above (two_zpow_pos _).not_gt

end

section
variable {n : Nat} (some : 0 < n)
include some

omit some in
theorem shifted_value (n s : Nat) : ((n * 2 ^ s : Nat) * 2 ^ (-(s : Int)) : ℚ) = n := by
  push_cast
  rw [zpow_neg, zpow_natCast, mul_assoc, mul_inv_cancel₀ (by positivity), mul_one]

/-- Digits and a power of ten that have doubles of their own are multiplied or divided. -/
theorem approximates_short (small : n < 2 ^ 53) (down : Bool) {k : Nat} (listed : k ≤ 22) :
    ∃ u, Float.ofScientific n down k = ⟨.pack u⟩ ∧
      Approximates (if down then n / 10 ^ k else n * 10 ^ k) u := by
  have filled : 0 < n * 2 ^ (52 - n.log2) := Nat.mul_pos some (Nat.two_pow_pos _)
  have inTable : k < 23 := Nat.lt_succ_of_le listed
  obtain ⟨p, q, posPower, -, power, exact_⟩ := unpack_powerOfTen inTable
  have digits := unpack_whole some small filled
  have value := shifted_value n (52 - n.log2)
  unfold Float.ofScientific
  rw [dif_pos ⟨small, listed⟩]
  dsimp only
  cases down with
  | true =>
    refine ⟨UnpackedFloat.div .binary64 n.toUInt64.toFloat.toModel.unpack
      (Float.exactlyRepresentablePowersOfTen[k]).toModel.unpack, rfl, ?_⟩
    rw [if_pos rfl, digits, power, ← value, ← exact_]
    exact approximates_div filled posPower
  | false =>
    have long : 2 ^ 52 ≤ n * 2 ^ (52 - n.log2) * p := by
      have := (fits_whole some small).low
      exact Nat.le_trans this (Nat.le_mul_of_pos_right _ posPower)
    refine ⟨UnpackedFloat.mul .binary64 n.toUInt64.toFloat.toModel.unpack
      (Float.exactlyRepresentablePowersOfTen[k]).toModel.unpack, rfl, ?_⟩
    rw [if_neg (by decide), digits, power, ← value, ← exact_]
    exact approximates_mul filled posPower long

theorem decimal_large {E : Int} (large : 1024 ≤ E) : (2 : ℚ) ^ (1024 : Int) ≤ n * 10 ^ E := by
  have least : (1 : ℚ) ≤ n := Nat.one_le_cast.mpr some
  calc (2 : ℚ) ^ (1024 : Int) ≤ 2 ^ E := zpow_le_zpow_right₀ one_le_two large
    _ ≤ 10 ^ E := two_zpow_le_ten_zpow (by omega)
    _ ≤ n * 10 ^ E := le_mul_of_one_le_left (by positivity) least

theorem decimal_small {E : Int} (small : E ≤ -1076 - (n.log2 : Int)) :
    n * 10 ^ E < (2 : ℚ) ^ (-1075 : Int) := by
  have most : (n : ℚ) < (2 ^ (n.log2 + 1) : Nat) := Nat.cast_lt.mpr Nat.lt_log2_self
  push_cast at most
  calc (n : ℚ) * 10 ^ E ≤ n * 2 ^ E := by
        gcongr
        exact ten_zpow_le_two_zpow (by omega)
    _ < 2 ^ (n.log2 + 1) * 2 ^ E := by gcongr
    _ = 2 ^ (((n.log2 + 1 : Nat) : Int) + E) := two_pow_mul_zpow _ _
    _ ≤ 2 ^ (-1075 : Int) := zpow_le_zpow_right₀ one_le_two (by omega)

theorem approximates_mul_power (k : Nat) (posDigits : 0 < n <<< 53) (posPower : 0 < 10 ^ k) :
    Approximates (n * 10 ^ (k : Int)) (UnpackedFloat.mul .binary64
      (.finite .positive (n <<< 53) (-(53 : Nat)) posDigits)
      (.finite .positive (10 ^ k) 0 posPower)) := by
  have value : ((n <<< 53 : Nat) * 2 ^ (-((53 : Nat) : Int)) * ((10 ^ k : Nat) * 2 ^ (0 : Int)) : ℚ)
      = n * 10 ^ (k : Int) := by
    rw [Nat.shiftLeft_eq, shifted_value, zpow_zero, mul_one, Nat.cast_pow, zpow_natCast]
    rfl
  rw [← value]
  refine approximates_mul posDigits posPower ?_
  have scaled : 2 ^ 52 ≤ n <<< 53 := by
    rw [Nat.shiftLeft_eq]
    have := Nat.mul_le_mul some (Nat.pow_le_pow_right two_pos (by decide : 52 ≤ 53))
    omega
  exact Nat.le_trans scaled (Nat.le_mul_of_pos_right _ posPower)

omit some in
theorem approximates_div_power (k : Nat) (posDigits : 0 < n) (posPower : 0 < 10 ^ k) :
    Approximates (n * 10 ^ (-(k : Int))) (UnpackedFloat.div .binary64
      (.finite .positive n 0 posDigits) (.finite .positive (10 ^ k) 0 posPower)) := by
  have value : (n * 2 ^ (0 : Int) / ((10 ^ k : Nat) * 2 ^ (0 : Int)) : ℚ) =
      n * 10 ^ (-(k : Int)) := by
    rw [zpow_zero, mul_one, mul_one, zpow_neg, zpow_natCast, div_eq_mul_inv, Nat.cast_pow]
    rfl
  rw [← value]
  exact approximates_div posDigits posPower

/-- All other decimals are computed from integers. -/
theorem approximates_long (E : Int) :
    Approximates (n * 10 ^ E) (UnpackedFloat.ofScientific .binary64 n E) := by
  unfold UnpackedFloat.ofScientific
  rw [dif_neg (Nat.pos_iff_ne_zero.mp some)]
  by_cases large : (2 ^ 11 : Int) < E
  · rw [if_pos large]
    exact .overflow (decimal_large some (by omega))
  by_cases small : E < -(2 ^ 11 + (n.log2 : Int))
  · rw [if_neg large, if_pos small]
    exact .underflow (decimal_small some (by omega))
  rw [if_neg large, if_neg small]
  by_cases up : 0 ≤ E
  · obtain ⟨k, rfl⟩ := Int.eq_ofNat_of_zero_le up
    rw [if_pos up]
    exact approximates_mul_power some k _ _
  · obtain ⟨k, rfl⟩ : ∃ k : Nat, E = -k := ⟨E.natAbs, by omega⟩
    have power : (-(-(k : Int))).toNat = k := by omega
    have divisor : ∀ h, UnpackedFloat.finite .positive (10 ^ (-(-(k : Int))).toNat) 0 h =
        .finite .positive (10 ^ k) 0 (Nat.pow_pos (by decide)) :=
      fun _ => finite_congr (congrArg (10 ^ ·) power) rfl
    rw [if_neg up, divisor]
    exact approximates_div_power k _ _

theorem approximates_ofScientific (E : Int) :
    ∃ u, Float.ofScientific n (decide (E < 0)) E.natAbs = ⟨.pack u⟩ ∧
      Approximates (n * 10 ^ E) u := by
  by_cases short : n < 2 ^ 53 ∧ E.natAbs ≤ 22
  · have same : (if decide (E < 0) then (n : ℚ) / 10 ^ E.natAbs else n * 10 ^ E.natAbs) =
        n * 10 ^ E := by
      by_cases down : E < 0
      · have power : E = -(E.natAbs : Int) := by omega
        rw [if_pos (decide_eq_true down), div_eq_mul_inv]
        conv_rhs => rw [power, zpow_neg, zpow_natCast]
      · have power : E = (E.natAbs : Int) := by omega
        rw [if_neg (by simpa using down)]
        conv_rhs => rw [power, zpow_natCast]
    rw [← same]
    exact approximates_short some short.1 _ short.2
  · have power : (if decide (E < 0) = true then Int.negOfNat E.natAbs else Int.ofNat E.natAbs) =
        E := by
      by_cases down : E < 0
      · rw [if_pos (decide_eq_true down), Int.negOfNat_eq, Int.ofNat_eq_natCast]
        omega
      · rw [if_neg (by simpa using down), Int.ofNat_eq_natCast]
        omega
    refine ⟨UnpackedFloat.ofScientific .binary64 n E, ?_, approximates_long some E⟩
    unfold Float.ofScientific
    rw [dif_neg short]
    dsimp only
    rw [power, Float.Model.ofScientific]

theorem pow_length_toDigits : 10 ^ ((Nat.toDigits 10 n).length - 1) ≤ n ∧
    n < 10 ^ (Nat.toDigits 10 n).length := by
  have length := List.length_pos_iff.mpr (Nat.toDigits_ne_nil (b := 10) (n := n))
  constructor
  · by_cases single : (Nat.toDigits 10 n).length = 1
    · rw [single]
      exact some
    · by_contra! less
      have := (Nat.length_toDigits_le_iff (by decide) (by omega)).mpr less
      omega
  · exact (Nat.length_toDigits_le_iff (by decide) length).mp (Nat.le_refl _)

/-- The number of digits and the exponent place a decimal between two powers of ten. -/
theorem decimal_bounds (E : Int) :
    (10 : ℚ) ^ (((Nat.toDigits 10 n).length : Int) + E - 1) ≤ n * 10 ^ E ∧
      n * 10 ^ E < (10 : ℚ) ^ (((Nat.toDigits 10 n).length : Int) + E) := by
  obtain ⟨low, high⟩ := pow_length_toDigits some
  have length := List.length_pos_iff.mpr (Nat.toDigits_ne_nil (b := 10) (n := n))
  generalize (Nat.toDigits 10 n).length = len at low high length
  have unit : (0 : ℚ) < 10 ^ E := zpow_pos (by norm_num) E
  have low : ((10 ^ (len - 1) : Nat) : ℚ) ≤ n := Nat.cast_le.mpr low
  have high : (n : ℚ) < (10 ^ len : Nat) := Nat.cast_lt.mpr high
  push_cast at low high
  constructor
  · have power : (len : Int) + E - 1 = ((len - 1 : Nat) : Int) + E := by omega
    rw [power, zpow_add₀ (by norm_num), zpow_natCast]
    gcongr
  · rw [zpow_add₀ (by norm_num), zpow_natCast]
    gcongr

/-- A decimal whose first digit is far in front of the point is too large for a double. -/
theorem decimal_overflow {E : Int} (large : 310 < ((Nat.toDigits 10 n).length : Int) + E) :
    (2 : ℚ) ^ (1024 : Int) ≤ n * 10 ^ E := by
  have overflow : (2 : ℚ) ^ (1024 : Int) ≤ 10 ^ (310 : Int) := by
    rw [zpow_ofNat, zpow_ofNat]
    exact two_pow_le_ten_pow (by decide)
  calc (2 : ℚ) ^ (1024 : Int) ≤ 10 ^ (310 : Int) := overflow
    _ ≤ 10 ^ (((Nat.toDigits 10 n).length : Int) + E - 1) :=
      zpow_le_zpow_right₀ (by norm_num) (by omega)
    _ ≤ n * 10 ^ E := (decimal_bounds some E).1

/-- A decimal whose first digit is far behind the point is too small for a double. -/
theorem decimal_underflow {E : Int} (small : ((Nat.toDigits 10 n).length : Int) + E < -330) :
    n * 10 ^ E < (2 : ℚ) ^ (-1075 : Int) := by
  have underflow : (10 : ℚ) ^ (-330 : Int) ≤ 2 ^ (-1075 : Int) := by
    rw [zpow_neg, zpow_neg, zpow_ofNat, zpow_ofNat]
    exact inv_anti₀ (by positivity) (two_pow_le_ten_pow (by decide))
  calc n * 10 ^ E < (10 : ℚ) ^ (((Nat.toDigits 10 n).length : Int) + E) :=
        (decimal_bounds some E).2
    _ ≤ 10 ^ (-330 : Int) := zpow_le_zpow_right₀ (by norm_num) small.le
    _ ≤ 2 ^ (-1075 : Int) := underflow

end

/-- The reader of decimals computes an approximation of what it reads. -/
theorem approximates_ofDecimal (n : Nat) (E : Int) :
    ∃ u, ofDecimal n E = ⟨.pack u⟩ ∧ Approximates (n * 10 ^ E) u := by
  unfold ofDecimal
  split
  next zero =>
    refine ⟨.zero .positive, rfl, .underflow ?_⟩
    rw [zero, Nat.cast_zero, zero_mul]
    exact two_zpow_pos _
  next other =>
    have some : 0 < n := Nat.pos_of_ne_zero other
    dsimp only
    split
    next large => exact ⟨.infinity .positive, rfl, .overflow (decimal_overflow some large)⟩
    next =>
      split
      next small => exact ⟨.zero .positive, rfl, .underflow (decimal_underflow some small)⟩
      next => exact approximates_ofScientific some E

/-- A decimal is read as its nearest double. -/
theorem nearestDouble_ofDecimal (n : Nat) (E : Int) :
    NearestDouble (n * 10 ^ E) (ofDecimal n E) := by
  obtain ⟨u, computed, approximates⟩ := approximates_ofDecimal n E
  rw [computed]
  exact approximates.nearestDouble

/-- A natural number becomes its nearest double. -/
theorem nearestDouble_ofNat (n : Nat) : NearestDouble n (Float.ofNat n) := by
  by_cases zero : n = 0
  · subst zero
    exact .zero (by decide) (by rw [Nat.cast_zero]; exact (two_zpow_pos _).le)
  · obtain ⟨u, computed, approximates⟩ := approximates_ofScientific (Nat.pos_of_ne_zero zero) 0
    rw [zpow_zero, mul_one] at approximates
    change NearestDouble n (Float.ofScientific n false 0)
    exact (congrArg _ computed).mpr approximates.nearestDouble

theorem eq_infinity_of_read {x : Float} (reading : read x = .infinite false) : x = infinity := by
  have bound : x.toBits.toNat < 2 ^ 64 := x.toBits.toBitVec.isLt
  have bits : x.toBits.toNat = (0x7ff0000000000000 : UInt64).toNat := by
    change x.toBits.toNat = 2047 * 2 ^ 52
    simp only [read, readBits, Nat.pow_eq] at reading
    split at reading
    · split at reading
      · injection reading with sign
        rw [beq_eq_false_iff_ne] at sign
        omega
      · cases reading
    · split at reading <;> cases reading
  exact eq_of_toBits (UInt64.toNat_inj.mp bits)

section
variable {t : ℚ} {m n : Nat} {e f : Int}

/-- A number lies in the interval of one double only: that which it is computed as. -/
theorem RoundsTo.unique (rounds : RoundsTo t m e) (canonical : Canonical m e) (pos : 0 < m)
    (rounds' : RoundsTo t n f) (canonical' : Canonical n f) (pos' : 0 < n) : m = n ∧ e = f := by
  have some : 0 < t.num := Rat.num_pos.mpr ((two_zpow_pos _).trans (rounds.above canonical pos))
  have value : (t.num.natAbs * 2 ^ (0 : Int) / (t.den * 2 ^ (0 : Int)) : ℚ) = t := by
    have up : ((t.num.natAbs : Int) : ℚ) = t.num := by rw [Int.natAbs_of_nonneg some.le]
    rw [zpow_zero, mul_one, mul_one, ← Int.cast_natCast, up, Rat.num_div_den]
  have computed := @approximates_div t.num.natAbs t.den 0 0 (Int.natAbs_pos.mpr some.ne') t.den_pos
  rw [value] at computed
  have same := (computed.of_roundsTo canonical pos rounds).symm.trans
    (computed.of_roundsTo canonical' pos' rounds')
  cases same
  exact ⟨rfl, rfl⟩

/-- A number has only one nearest double. -/
theorem NearestDouble.unique {x y : Float} (near : NearestDouble t x) (near' : NearestDouble t y) :
    x = y := by
  have apart {s : ℚ} (low : s ≤ 2 ^ (-1075 : Int))
      (high : (2 ^ 53 - 1 / 2) * 2 ^ (971 : Int) ≤ s) : False := by
    have powers : (2 : ℚ) ^ (-1075 : Int) < 2 ^ (971 : Int) := two_zpow_lt_iff.mpr (by decide)
    have pos := two_zpow_pos 971
    generalize (2 : ℚ) ^ (971 : Int) = top at high powers pos
    linarith
  cases near with
  | zero reading low =>
    cases near' with
    | zero reading' => exact eq_of_read reading reading'
    | finite reading' pos' rounds' =>
      exact absurd low (not_le.mpr (rounds'.above (canonical_of_read reading') pos'))
    | infinite _ high' => exact (apart low high').elim
  | finite reading pos rounds =>
    have canonical := canonical_of_read reading
    cases near' with
    | zero _ low' => exact absurd low' (not_le.mpr (rounds.above canonical pos))
    | finite reading' pos' rounds' =>
      obtain ⟨rfl, rfl⟩ := rounds.unique canonical pos rounds' (canonical_of_read reading') pos'
      exact eq_of_read reading reading'
    | infinite _ high' => exact absurd high' (not_le.mpr (rounds.below_edge canonical))
  | infinite reading high =>
    cases near' with
    | zero _ low' => exact (apart low' high).elim
    | finite reading' _ rounds' =>
      exact absurd high (not_le.mpr (rounds'.below_edge (canonical_of_read reading')))
    | infinite reading' =>
      rw [eq_infinity_of_read reading, eq_infinity_of_read reading']

end

theorem isNaN_of_read {x : Float} {negative : Bool} {m : Nat} {e : Int}
    (reading : read x = .finite negative m e) (pos : 0 < m) : x.isNaN = false := by
  change x.toModel.unpack.isNaN = false
  rw [unpack_of_read reading pos]
  rfl

/-- A nearest double is a number, with either sign. -/
theorem NearestDouble.isNaN {t : ℚ} {x : Float} (near : NearestDouble t x) :
    x.isNaN = false ∧ (-x).isNaN = false := by
  cases near with
  | zero reading =>
    cases eq_of_read reading (by decide : read 0.0 = .finite false 0 (-1074))
    decide
  | finite reading pos =>
    exact ⟨isNaN_of_read reading pos, isNaN_of_read (read_neg reading pos) pos⟩
  | infinite reading =>
    cases eq_infinity_of_read reading
    decide

section
variable {m : Nat} {e : Int} (canonical : Canonical m e) (pos : 0 < m) {n : Nat} (some : 0 < n)
include canonical pos some

theorem ofScientific_of_roundsTo {E : Int} (rounds : RoundsTo (n * 10 ^ E) m e) :
    Float.ofScientific n (decide (E < 0)) E.natAbs = ⟨.pack (.finite .positive m e pos)⟩ := by
  obtain ⟨u, computed, approximates⟩ := approximates_ofScientific some E
  rw [computed, approximates.of_roundsTo canonical pos rounds]

/-- The first digit of a decimal in the interval of a double is not far from the point. -/
theorem RoundsTo.length_bounds {E : Int} (rounds : RoundsTo (n * 10 ^ E) m e) :
    -330 ≤ ((Nat.toDigits 10 n).length : Int) + E ∧
      ((Nat.toDigits 10 n).length : Int) + E ≤ 310 := by
  constructor
  · by_contra! small
    exact absurd (decimal_underflow some small) (rounds.above canonical pos).not_gt
  · by_contra! large
    exact absurd (rounds.below canonical) (not_lt.mpr (decimal_overflow some large))

omit some in
/-- A decimal is read as the double in whose interval it lies. -/
theorem read_ofDecimal_of_roundsTo {E : Int} (rounds : RoundsTo (n * 10 ^ E) m e) :
    read (ofDecimal n E) = .finite false m e := by
  obtain ⟨u, computed, approximates⟩ := approximates_ofDecimal n E
  rw [computed, approximates.of_roundsTo canonical pos rounds]
  exact @read_pack false _ _ canonical pos

/-- An integer that is read as a double is rounded to the nearest. -/
theorem read_ofNat_of_roundsTo (rounds : RoundsTo n m e) :
    read (Float.ofNat n) = .finite false m e := by
  have scaled : RoundsTo (n * 10 ^ (0 : Int)) m e := by rwa [zpow_zero, mul_one]
  have packed := ofScientific_of_roundsTo canonical pos some scaled
  change read (Float.ofScientific n false 0) = _
  exact (congrArg read packed).trans (@read_pack false _ _ canonical pos)

end

end DocExpr.Number
