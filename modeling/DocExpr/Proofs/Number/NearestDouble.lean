import DocExpr.Proofs.Number.Rounding

/-! The nearest double of a number that is not negative, also where that is zero or infinity. A
mantissa that stands for a number is rounded to its nearest double whatever its size is, and there
is only one such double. -/
namespace DocExpr.Number
open Float.Model (Format UnpackedFloat totalExponent)
open Float.Model.UnpackedFloat

/-- The double nearest to a number that is not negative: zero up to half of the least positive
double, infinity from half a unit beyond the largest finite one on, and else the double in whose
interval the number lies. -/
inductive NearestDouble (t : ℚ) (x : Float) : Prop where
  | zero (reading : read x = .finite false 0 (-1074)) (low : t ≤ 2 ^ (-1075 : Int))
  | finite {m : Nat} {e : Int} (reading : read x = .finite false m e) (pos : 0 < m)
      (rounds : RoundsTo t m e)
  | infinite (reading : read x = .infinite false)
      (high : (2 ^ 53 - 1 / 2) * 2 ^ (971 : Int) ≤ t)

/-- What is computed of a number that is not negative: a mantissa that stands for it is rounded, or
it is so large or so small that nothing needs to be computed. -/
inductive Approximates (t : ℚ) : UnpackedFloat → Prop where
  | rounded {M : Nat} {E : Int} {a : UnpackedFloat.Accuracy}
      (stands : StandsFor (.ofMantissaAndAccuracy M a) (t / 2 ^ E)) (fine : E ≤ target M E) :
      Approximates t (roundWithAccuracy .binary64 .positive M E a)
  | overflow (high : 2 ^ (1024 : Int) ≤ t) : Approximates t (.infinity .positive)
  | underflow (low : t < 2 ^ (-1075 : Int)) : Approximates t (.zero .positive)

/-- Beyond the largest exponent a number is packed as infinity. -/
theorem read_pack_large {m : Nat} {e : Int} (large : 971 < e) (pos : 0 < m) :
    read ⟨.pack (.finite .positive m e pos)⟩ = .infinite false := by
  have bias : e + ((Format.binary64.exponentBias : Nat) : Int) +
      (Format.binary64.mantissaBitsWithoutImplicit : Nat) = e + 1075 := Int.add_assoc ..
  change readBits (UnpackedFloat.pack .binary64 (.finite .positive m e pos)).toNat = _
  unfold UnpackedFloat.pack
  dsimp only
  rw [bias, if_pos (by change 2048 ≤ (e + 1075).toNat + 1; omega)]
  decide

section
variable {t : ℚ} {m : Nat} {e : Int}

/-- Half a unit beyond the largest finite double, where numbers begin to be infinite. -/
theorem edge_le : (2 ^ 53 - 1 / 2 : ℚ) * 2 ^ (971 : Int) ≤ 2 ^ (1024 : Int) := by
  rw [show (1024 : Int) = 53 + 971 from rfl, zpow_add₀ two_ne_zero]
  gcongr
  norm_num

/-- The largest mantissa is odd, so halfway to the next one belongs to infinity. -/
theorem RoundsTo.below_edge (rounds : RoundsTo t m e) (canonical : Canonical m e) :
    t < (2 ^ 53 - 1 / 2) * 2 ^ (971 : Int) := by
  have nearest := rounds.nearest
  have scaled : t / 2 ^ e < 2 ^ 53 - 1 / 2 := by
    by_cases largest : m = 2 ^ 53 - 1
    · have high := (nearest.inside (by omega)).2
      rw [largest] at high
      norm_num at high ⊢
      exact high
    · have high := nearest.high
      have more : ((m + 2 : Nat) : ℚ) ≤ (2 ^ 53 : Nat) :=
        Nat.cast_le.mpr (by have := canonical.high; omega)
      push_cast at more
      linarith
  rw [div_lt_iff₀ (two_zpow_pos e)] at scaled
  have most : (2 : ℚ) ^ e ≤ 2 ^ (971 : Int) := zpow_le_zpow_right₀ one_le_two canonical.most
  exact scaled.trans_le (mul_le_mul_of_nonneg_left most (by norm_num))

theorem RoundsTo.below (rounds : RoundsTo t m e) (canonical : Canonical m e) :
    t < 2 ^ (1024 : Int) :=
  (rounds.below_edge canonical).trans_le edge_le

/-- The least mantissa is odd, so halfway from zero to it belongs to zero. -/
theorem RoundsTo.above (rounds : RoundsTo t m e) (canonical : Canonical m e) (pos : 0 < m) :
    2 ^ (-1075 : Int) < t := by
  have nearest := rounds.nearest
  have scaled : 1 / 2 < t / 2 ^ e := by
    by_cases least : m = 1
    · have low := (nearest.inside (by omega)).1
      rw [least] at low
      norm_num at low ⊢
      exact low
    · have low := nearest.low
      have more : ((2 : Nat) : ℚ) ≤ m := Nat.cast_le.mpr (by omega)
      push_cast at more
      linarith
  rw [lt_div_iff₀ (two_zpow_pos e)] at scaled
  have half : (2 : ℚ) ^ (-1075 : Int) = 1 / 2 * 2 ^ (-1074 : Int) := by
    rw [show (-1075 : Int) = -1 + -1074 from rfl, zpow_add₀ two_ne_zero, zpow_neg_one, one_div]
  have least : (2 : ℚ) ^ (-1074 : Int) ≤ 2 ^ e := zpow_le_zpow_right₀ one_le_two canonical.least
  rw [half]
  exact (mul_le_mul_of_nonneg_left least (by norm_num)).trans_lt scaled

/-- A number that rounds to a mantissa of 53 bits, or of fewer at the least exponent, has the packed
form of it as its nearest double. -/
theorem RoundsTo.nearestDouble (rounds : RoundsTo t m e) (high : m < 2 ^ 53) (least : -1074 ≤ e)
    (full : 2 ^ 52 ≤ m ∨ e = -1074) (pos : 0 < m) :
    NearestDouble t ⟨.pack (.finite .positive m e pos)⟩ := by
  by_cases large : 971 < e
  · refine .infinite (read_pack_large large pos) ?_
    have low := rounds.low
    have bits : ((2 ^ 52 : Nat) : ℚ) ≤ m := Nat.cast_le.mpr (full.resolve_right (by omega))
    push_cast at bits
    have power : (2 : ℚ) ^ (972 : Int) ≤ 2 ^ e := zpow_le_zpow_right₀ one_le_two (by omega)
    have mantissa : (2 : ℚ) ^ 52 - 1 / 4 ≤ m - if m = 2 ^ 52 ∧ -1074 < e then 1 / 4 else 1 / 2 := by
      split
      · linarith
      next other =>
        have more : ((2 ^ 52 + 1 : Nat) : ℚ) ≤ m := by
          refine Nat.cast_le.mpr ?_
          have := full.resolve_right (by omega)
          by_contra! less
          exact other ⟨by omega, by omega⟩
        push_cast at more
        linarith
    generalize (if m = 2 ^ 52 ∧ -1074 < e then (1 / 4 : ℚ) else 1 / 2) = half at low mantissa
    calc ((2 : ℚ) ^ 53 - 1 / 2) * 2 ^ (971 : Int) = (2 ^ 52 - 1 / 4) * 2 ^ (972 : Int) := by
          rw [show (972 : Int) = 1 + 971 from rfl, zpow_add₀ two_ne_zero]
          ring
      _ ≤ (m - half) * 2 ^ e := mul_le_mul mantissa power (by positivity) (by linarith)
      _ ≤ t := low
  · exact .finite (@read_pack false _ _ ⟨high, least, by omega, full⟩ pos) pos rounds

variable {M : Nat} {E : Int} {a : UnpackedFloat.Accuracy}
  (stands : StandsFor (.ofMantissaAndAccuracy M a) (t / 2 ^ E)) (fine : E ≤ target M E)
include stands fine

/-- A number fills the 53 bits in front of the unit that it is shifted to, or the unit is the
finest one. -/
theorem target_bounds : t < 2 ^ 53 * 2 ^ target M E ∧
    (2 ^ 52 * 2 ^ target M E ≤ t ∨ target M E = -1074) := by
  rw [two_pow_mul_zpow, two_pow_mul_zpow]
  by_cases none : M = 0
  · have small := below_unit stands none
    rw [target_eq_max, none, Nat.log2_zero] at fine ⊢
    exact ⟨small.trans_le (zpow_le_zpow_right₀ one_le_two (by omega)), .inr (by omega)⟩
  · obtain ⟨low, high⟩ := binade stands none
    rw [target_eq_max] at fine ⊢
    refine ⟨high.trans_le (zpow_le_zpow_right₀ one_le_two (by omega)), ?_⟩
    by_cases finest : (M.log2 : Int) + 1 + E - 53 ≤ -1074
    · exact .inr (by omega)
    · refine .inl (le_trans (zpow_le_zpow_right₀ one_le_two ?_) low)
      omega

/-- A mantissa that stands for a number is rounded to its nearest double. -/
theorem nearestDouble_round :
    NearestDouble t ⟨.pack (roundWithAccuracy .binary64 .positive M E a)⟩ := by
  obtain ⟨em, shift, stands'⟩ := standsFor_shift stands fine
  obtain ⟨below, filled⟩ := target_bounds stands fine
  have room : -1074 ≤ target M E := by
    rw [target_eq_max]
    omega
  obtain ⟨low, high, inside⟩ := stands'.nearest
  unfold roundWithAccuracy
  rw [shift]
  dsimp only
  generalize em.roundedMantissa = n at low high inside
  generalize target M E = e at *
  have unit := two_zpow_pos e
  rw [← div_lt_iff₀ unit] at below
  rw [← le_div_iff₀ unit] at filled
  have most : n ≤ 2 ^ 53 := by
    have : (n : ℚ) < (2 ^ 53 + 1 : Nat) := by push_cast; linarith
    exact Nat.lt_succ_iff.mp (Nat.cast_lt.mp this)
  have full : 2 ^ 52 ≤ n ∨ e = -1074 := by
    refine filled.imp_left fun filled => ?_
    have : ((2 ^ 52 : Nat) : ℚ) < (n + 1 : Nat) := by push_cast; linarith
    exact Nat.lt_succ_iff.mp (Nat.cast_lt.mp this)
  rw [le_div_iff₀ unit] at low
  rw [div_le_iff₀ unit] at high
  rw [lt_div_iff₀ unit, div_lt_iff₀ unit] at inside
  rw [div_lt_iff₀ unit] at below
  rcases Nat.lt_or_eq_of_le most with small | rfl
  · rw [shift_stays small room]
    dsimp only
    by_cases none : n = 0
    · have finest : e = -1074 := full.resolve_left (by omega)
      rw [dif_pos none]
      refine .zero (by decide) (high.trans ?_)
      rw [none, finest, Nat.cast_zero, zero_add, one_div, ← zpow_neg_one, ← zpow_add₀ two_ne_zero]
      rfl
    · rw [dif_neg none]
      refine RoundsTo.nearestDouble ⟨?_, high, inside⟩ small room full _
      split
      next power =>
        have edge := filled.resolve_right (by omega)
        rw [le_div_iff₀ unit] at edge
        rw [power.1]
        push_cast
        linarith
      next => exact low
  · -- rounding up has carried into one more bit
    have half : (2 : ℚ) ^ (e + 1) = 2 * 2 ^ e := by
      rw [zpow_add_one₀ two_ne_zero, mul_comm]
    have carried := shift_carry (e := e + 1) (by omega)
    rw [add_sub_cancel_right] at carried
    rw [carried]
    dsimp only
    refine RoundsTo.nearestDouble (m := 2 ^ 52) ⟨?_, ?_, ?_⟩ (by decide) (by omega)
      (.inl (Nat.le_refl _)) _
    · rw [if_pos ⟨rfl, by omega⟩, half]
      push_cast at low ⊢
      linarith
    · rw [half]
      push_cast
      linarith
    · exact fun odd => absurd odd (by decide)

end

theorem Approximates.nearestDouble {t : ℚ} {u : UnpackedFloat} (computed : Approximates t u) :
    NearestDouble t ⟨.pack u⟩ := by
  cases computed with
  | rounded stands fine => exact nearestDouble_round stands fine
  | overflow high => exact .infinite (by decide) (edge_le.trans high)
  | underflow low => exact .zero (by decide) low.le

/-- A number in the interval of a double is computed as that double. -/
theorem Approximates.of_roundsTo {t : ℚ} {u : UnpackedFloat} {m : Nat} {e : Int}
    (computed : Approximates t u) (canonical : Canonical m e) (pos : 0 < m)
    (rounds : RoundsTo t m e) : u = .finite .positive m e pos := by
  cases computed with
  | rounded stands fine => exact round_of_roundsTo stands fine canonical pos rounds
  | overflow high => exact absurd (rounds.below canonical) (not_lt.mpr high)
  | underflow low => exact absurd low (rounds.above canonical pos).not_gt

end DocExpr.Number
