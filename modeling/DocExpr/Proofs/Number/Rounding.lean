import DocExpr.Proofs.Number.Whole
import Mathlib.Algebra.Order.Field.Power
import Mathlib.Algebra.Order.Ring.Rat
import Mathlib.Tactic.FieldSimp
import Mathlib.Tactic.Linarith
import Mathlib.Tactic.NormNum
import Mathlib.Tactic.Positivity
import Mathlib.Tactic.Ring

/-! Rounding to the nearest double. A mantissa with a round bit and a sticky bit stands for rational
numbers between two neighbours; shifting it and rounding it are followed on those numbers. What
comes out is the double whose interval the number lies in, however it was computed. -/
namespace DocExpr.Number
open Float.Model (Format UnpackedFloat totalExponent)
open Float.Model.UnpackedFloat

/-- What the round bit and the sticky bit say about the rest behind a mantissa. -/
inductive Rest : Bool → Bool → ℚ → Prop where
  | nothing : Rest false false 0
  | below {r : ℚ} : 0 < r → r < 1 / 2 → Rest false true r
  | half : Rest true false (1 / 2)
  | above {r : ℚ} : 1 / 2 < r → r < 1 → Rest true true r

/-- The mantissa and its bits stand for the number. -/
def StandsFor (em : ExtendedMantissa) (t : ℚ) : Prop :=
  ∃ r, Rest em.roundBit em.stickyBit r ∧ t = em.mantissa + r

theorem Rest.mem {round sticky : Bool} {r : ℚ} (rest : Rest round sticky r) : 0 ≤ r ∧ r < 1 := by
  cases rest with
  | nothing | half => norm_num
  | below low high => exact ⟨low.le, by linarith⟩
  | above low high => exact ⟨by linarith, high⟩

theorem StandsFor.floor {em : ExtendedMantissa} {t : ℚ} (stands : StandsFor em t) :
    (em.mantissa : ℚ) ≤ t ∧ t < em.mantissa + 1 := by
  obtain ⟨r, rest, rfl⟩ := stands
  obtain ⟨low, high⟩ := rest.mem
  exact ⟨by linarith, by linarith⟩

theorem standsFor_exact (m : Nat) : StandsFor (.ofMantissaAndAccuracy m .exact) m :=
  ⟨0, .nothing, (add_zero _).symm⟩

/-- The quotient and the remainder of a division stand for its exact value. -/
theorem standsFor_fraction (n : Nat) {d : Nat} (pos : 0 < d) :
    StandsFor (.ofMantissaAndAccuracy (n / d) (accuracyOfFraction (n % d) d)) ((n : ℚ) / d) := by
  have posQ : (0 : ℚ) < d := Nat.cast_pos.mpr pos
  have whole : (n : ℚ) / d = (n / d : Nat) + (n % d : Nat) / d := by
    have parts : ((d * (n / d) + n % d : Nat) : ℚ) = n := by rw [Nat.div_add_mod]
    rw [← parts]
    push_cast
    field_simp
  have less : ((n % d : Nat) : ℚ) / d < 1 :=
    (div_lt_one posQ).mpr (Nat.cast_lt.mpr (Nat.mod_lt n pos))
  rw [whole]
  refine ⟨((n % d : Nat) : ℚ) / d, ?_, ?_⟩
  · unfold accuracyOfFraction
    split
    next zero =>
      rw [zero, Nat.cast_zero, zero_div]
      exact .nothing
    next some =>
      have positive : (0 : ℚ) < ((n % d : Nat) : ℚ) / d :=
        div_pos (Nat.cast_pos.mpr (Nat.pos_of_ne_zero some)) posQ
      cases order : compare (2 * (n % d)) d with
      | lt =>
        have small : (2 * (n % d : Nat) : ℚ) < d := by exact_mod_cast Nat.compare_eq_lt.mp order
        refine .below positive ?_
        rw [div_lt_div_iff₀ posQ two_pos]
        linarith
      | eq =>
        have middle : (2 * (n % d : Nat) : ℚ) = d := by exact_mod_cast Nat.compare_eq_eq.mp order
        have half : ((n % d : Nat) : ℚ) / d = 1 / 2 := by
          rw [div_eq_div_iff posQ.ne' two_ne_zero]
          linarith
        rw [half]
        exact .half
      | gt =>
        have large : (d : ℚ) < 2 * (n % d : Nat) := by exact_mod_cast Nat.compare_eq_gt.mp order
        refine .above ?_ less
        rw [div_lt_div_iff₀ two_pos posQ]
        linarith
  · unfold accuracyOfFraction
    split
    · rfl
    · cases compare (2 * (n % d)) d <;> rfl

theorem StandsFor.shiftRightOne {em : ExtendedMantissa} {t : ℚ} (stands : StandsFor em t) :
    StandsFor em.shiftRightOne (t / 2) := by
  obtain ⟨r, rest, rfl⟩ := stands
  obtain ⟨m, round, sticky⟩ := em
  have parts : (m : ℚ) = 2 * (m / 2 : Nat) + (m % 2 : Nat) := by
    exact_mod_cast (Nat.div_add_mod m 2).symm
  refine ⟨((m % 2 : Nat) + r) / 2, ?_, ?_⟩
  · dsimp only [ExtendedMantissa.shiftRightOne]
    dsimp only at rest
    rcases Nat.mod_two_eq_zero_or_one m with even | odd
    · rw [even, Nat.cast_zero, zero_add]
      cases rest with
      | nothing =>
        rw [zero_div]
        exact .nothing
      | below low high => exact .below (by linarith) (by linarith)
      | half => exact .below (by norm_num) (by norm_num)
      | above low high => exact .below (by linarith) (by linarith)
    · rw [odd, Nat.cast_one]
      cases rest with
      | nothing =>
        rw [add_zero]
        exact .half
      | below low high => exact .above (by linarith) (by linarith)
      | half => exact .above (by norm_num) (by norm_num)
      | above low high => exact .above (by linarith) (by linarith)
  · dsimp only [ExtendedMantissa.shiftRightOne]
    rw [parts]
    ring

theorem StandsFor.shiftRight {em : ExtendedMantissa} {t : ℚ} (stands : StandsFor em t) (k : Nat) :
    StandsFor (em >>> k) (t / 2 ^ k) := by
  change StandsFor (Nat.repeat ExtendedMantissa.shiftRightOne k em) _
  induction k with
  | zero => simpa [Nat.repeat] using stands
  | succ k ih =>
    rw [pow_succ, ← div_div]
    exact ih.shiftRightOne

/-- The number is nearer to `n` than to another integer; halfway to the next one only if `n` is
even. -/
structure Nearest (n : Nat) (t : ℚ) : Prop where
  low : n - 1 / 2 ≤ t
  high : t ≤ n + 1 / 2
  inside : n % 2 = 1 → n - 1 / 2 < t ∧ t < n + 1 / 2

/-- The rounded mantissa is nearest to what the mantissa and its bits stand for. -/
theorem StandsFor.nearest {em : ExtendedMantissa} {t : ℚ} (stands : StandsFor em t) :
    Nearest em.roundedMantissa t := by
  obtain ⟨m, round, sticky⟩ := em
  obtain ⟨r, rest, rfl⟩ := stands
  dsimp only at rest
  cases rest with
  | nothing =>
    change Nearest m (m + 0)
    exact ⟨by linarith, by linarith, fun _ => ⟨by linarith, by linarith⟩⟩
  | below positive small =>
    change Nearest m (m + r)
    exact ⟨by linarith, by linarith, fun _ => ⟨by linarith, by linarith⟩⟩
  | half =>
    change Nearest (m + m % 2) (m + 1 / 2)
    rcases Nat.mod_two_eq_zero_or_one m with even | odd
    · rw [even, Nat.add_zero]
      exact ⟨by linarith, by linarith, fun odd => absurd odd (by omega)⟩
    · rw [odd]
      exact ⟨by push_cast; linarith, by push_cast; linarith, fun odd' => absurd odd' (by omega)⟩
  | above large small =>
    change Nearest (m + 1) (m + r)
    refine ⟨?_, ?_, fun _ => ⟨?_, ?_⟩⟩
    all_goals
      push_cast
      linarith

theorem StandsFor.roundedMantissa {em : ExtendedMantissa} {t : ℚ} {n : Nat}
    (stands : StandsFor em t) (nearest : Nearest n t) : em.roundedMantissa = n := by
  obtain ⟨m, round, sticky⟩ := em
  obtain ⟨low, high, inside⟩ := nearest
  obtain ⟨r, rest, rfl⟩ := stands
  dsimp only at rest low high inside
  cases rest with
  | nothing =>
    have above : (m : ℚ) < (n + 1 : Nat) := by push_cast; linarith
    have below : (n : ℚ) < (m + 1 : Nat) := by push_cast; linarith
    change m = n
    have := Nat.cast_lt.mp above
    have := Nat.cast_lt.mp below
    omega
  | below positive small =>
    have above : (m : ℚ) < (n + 1 : Nat) := by push_cast; linarith
    have below : (n : ℚ) < (m + 1 : Nat) := by push_cast; linarith
    change m = n
    have := Nat.cast_lt.mp above
    have := Nat.cast_lt.mp below
    omega
  | half =>
    have above : (m : ℚ) ≤ n := by linarith
    have below : (n : ℚ) ≤ (m + 1 : Nat) := by push_cast; linarith
    have above := Nat.cast_le.mp above
    have below := Nat.cast_le.mp below
    change m + m % 2 = n
    by_cases odd : n % 2 = 1
    · obtain ⟨strict, strict'⟩ := inside odd
      have above : (m : ℚ) < n := by linarith
      have below : (n : ℚ) < (m + 1 : Nat) := by push_cast; linarith
      have above := Nat.cast_lt.mp above
      have below := Nat.cast_lt.mp below
      omega
    · omega
  | above large small =>
    have above : (m : ℚ) < n := by linarith
    have below : (n : ℚ) < (m + 2 : Nat) := by push_cast; linarith
    change m + 1 = n
    have := Nat.cast_lt.mp above
    have := Nat.cast_lt.mp below
    omega

/-- The number lies where numbers round to `m · 2 ^ e`. The doubles below a power of two are twice
as dense as those above it. The ends of the interval belong to it where `m` is even. -/
structure RoundsTo (t : ℚ) (m : Nat) (e : Int) : Prop where
  low : (m - if m = 2 ^ 52 ∧ -1074 < e then 1 / 4 else 1 / 2) * 2 ^ e ≤ t
  high : t ≤ (m + 1 / 2) * 2 ^ e
  inside : m % 2 = 1 → (m - 1 / 2) * 2 ^ e < t ∧ t < (m + 1 / 2) * 2 ^ e

theorem two_zpow_pos (e : Int) : (0 : ℚ) < 2 ^ e := zpow_pos two_pos e

theorem two_zpow_lt_iff {a b : Int} : (2 : ℚ) ^ a < 2 ^ b ↔ a < b :=
  zpow_lt_zpow_iff_right₀ one_lt_two

theorem two_pow_mul_zpow (n : Nat) (e : Int) : (2 : ℚ) ^ n * 2 ^ e = 2 ^ ((n : Int) + e) := by
  rw [zpow_add₀ two_ne_zero, zpow_natCast]

/-- The exponent that a mantissa is shifted to. -/
def target (m : Nat) (e : Int) : Int := Format.binary64.targetExponent (totalExponent m e)

theorem target_eq_max (m : Nat) (e : Int) :
    target m e = max ((m.log2 : Int) + 1 + e - 53) (-1074) :=
  rfl

section
variable {m : Nat} {e : Int} {a : UnpackedFloat.Accuracy} {t : ℚ}
  (stands : StandsFor (.ofMantissaAndAccuracy m a) (t / 2 ^ e)) (fine : e ≤ target m e)
include stands

theorem standsFor_shift (fine : e ≤ target m e) :
    ∃ em, shiftToTargetExponent .binary64 m e a = (em, target m e) ∧
      StandsFor em (t / 2 ^ target m e) := by
  have shifted := stands.shiftRight (target m e - e).toNat
  have both : t / 2 ^ e / 2 ^ (target m e - e).toNat = t / 2 ^ target m e := by
    rw [div_div, ← zpow_natCast, ← zpow_add₀ two_ne_zero]
    congr 2
    omega
  rw [both] at shifted
  refine ⟨ExtendedMantissa.ofMantissaAndAccuracy m a >>> (target m e - e).toNat, ?_, shifted⟩
  refine Prod.ext rfl ?_
  change e + ((target m e - e).toNat : Int) = target m e
  omega

/-- The logarithm of the mantissa tells the power of two below the number. -/
theorem binade (some : m ≠ 0) : (2 : ℚ) ^ ((m.log2 : Int) + e) ≤ t ∧
    t < 2 ^ ((m.log2 : Int) + 1 + e) := by
  obtain ⟨low, high⟩ := stands.floor
  have mantissa : (ExtendedMantissa.ofMantissaAndAccuracy m a).mantissa = m := by
    unfold ExtendedMantissa.ofMantissaAndAccuracy
    split <;> rfl
  rw [mantissa] at low high
  have unit := two_zpow_pos e
  constructor
  · have least : ((2 ^ m.log2 : Nat) : ℚ) ≤ m := Nat.cast_le.mpr (Nat.log2_self_le some)
    rw [← two_pow_mul_zpow, ← le_div_iff₀ unit]
    push_cast at least
    exact least.trans low
  · have most : ((m + 1 : Nat) : ℚ) ≤ (2 ^ (m.log2 + 1) : Nat) := Nat.cast_le.mpr Nat.lt_log2_self
    have exponent : (m.log2 : Int) + 1 + e = ((m.log2 + 1 : Nat) : Int) + e := by push_cast; rfl
    rw [exponent, ← two_pow_mul_zpow, ← div_lt_iff₀ unit]
    push_cast at most
    exact high.trans_le most

theorem below_unit (none : m = 0) : t < 2 ^ e := by
  obtain ⟨-, high⟩ := stands.floor
  have mantissa : (ExtendedMantissa.ofMantissaAndAccuracy m a).mantissa = 0 := by
    rw [none]
    unfold ExtendedMantissa.ofMantissaAndAccuracy
    split <;> rfl
  rw [mantissa, Nat.cast_zero, zero_add, div_lt_one (two_zpow_pos e)] at high
  exact high

include fine

/-- A number with 53 bits before the unit `2 ^ e'`, or with fewer where no finer unit is left, is
shifted to that unit. -/
theorem target_eq {e' : Int} (room : -1074 ≤ e') (full : 2 ^ 52 * 2 ^ e' ≤ t ∨ e' = -1074)
    (high : t < 2 ^ 53 * 2 ^ e') : target m e = e' := by
  have overflow : t < 2 ^ (53 + e') := by simpa [zpow_add₀] using high
  have underflow : (2 : ℚ) ^ (52 + e') ≤ t ∨ e' = -1074 :=
    full.imp_left fun low => by simpa [zpow_add₀] using low
  rw [target_eq_max] at fine ⊢
  by_cases none : m = 0
  · have small := below_unit stands none
    rw [none, Nat.log2_zero] at fine ⊢
    rcases underflow with low | least
    · have := two_zpow_lt_iff.mp (low.trans_lt small)
      omega
    · omega
  · obtain ⟨low', high'⟩ := binade stands none
    have := two_zpow_lt_iff.mp (low'.trans_lt overflow)
    rcases underflow with low | least
    · have := two_zpow_lt_iff.mp (low.trans_lt high')
      omega
    · omega

end

theorem shift_stays {n : Nat} {e : Int} (small : n < 2 ^ 53) (room : -1074 ≤ e) :
    shiftToTargetExponent .binary64 n e .exact = (⟨n, false, false⟩, e) := by
  have log : n.log2 < 53 := by
    by_cases none : n = 0
    · rw [none, Nat.log2_zero]
      omega
    · exact (Nat.log2_lt none).mpr small
  have amount : (target n e - e).toNat = 0 := by
    rw [target_eq_max]
    omega
  unfold shiftToTargetExponent shiftToExponent
  dsimp only
  rw [← target, amount, Int.natCast_zero, Int.add_zero]
  rfl

theorem shift_carry {e : Int} (room : -1074 ≤ e) :
    shiftToTargetExponent .binary64 (2 ^ 53) (e - 1) .exact = (⟨2 ^ 52, false, false⟩, e) :=
  shift_filled (Nat.le_refl _) (by decide) room 1

section
variable {t : ℚ} {m : Nat} {e : Int}

/-- Measured in units of the last place, the number is nearest to the mantissa. -/
theorem RoundsTo.nearest (rounds : RoundsTo t m e) : Nearest m (t / 2 ^ e) := by
  have unit := two_zpow_pos e
  obtain ⟨low, high, inside⟩ := rounds
  refine ⟨?_, ?_, fun odd => ?_⟩
  · rw [le_div_iff₀ unit]
    refine le_trans (mul_le_mul_of_nonneg_right ?_ unit.le) low
    split <;> linarith
  · rwa [div_le_iff₀ unit]
  · rw [lt_div_iff₀ unit, div_lt_iff₀ unit]
    exact inside odd

theorem RoundsTo.lt (rounds : RoundsTo t m e) (canonical : Canonical m e) :
    t < 2 ^ 53 * 2 ^ e := by
  have most : ((m + 1 : Nat) : ℚ) ≤ (2 ^ 53 : Nat) := Nat.cast_le.mpr canonical.high
  push_cast at most
  refine rounds.high.trans_lt (mul_lt_mul_of_pos_right ?_ (two_zpow_pos e))
  linarith

/-- Only numbers that round to a power of two may lie below it. -/
theorem RoundsTo.carries (rounds : RoundsTo t m e) (canonical : Canonical m e)
    (below : t < 2 ^ 52 * 2 ^ e) (room : -1074 < e) :
    m = 2 ^ 52 ∧ (2 ^ 53 - 1 / 2) * 2 ^ (e - 1) ≤ t := by
  have unit := two_zpow_pos e
  have low := rounds.low
  have least : 2 ^ 52 ≤ m := canonical.full.resolve_right (by omega)
  by_cases power : m = 2 ^ 52
  · have half : (2 : ℚ) ^ e = 2 * 2 ^ (e - 1) := by
      rw [← zpow_one_add₀ two_ne_zero]
      congr 1
      omega
    rw [if_pos ⟨power, room⟩, power, half] at low
    push_cast at low
    exact ⟨power, by linarith⟩
  · have more : ((2 ^ 52 + 1 : Nat) : ℚ) ≤ m := Nat.cast_le.mpr (by omega)
    rw [if_neg (fun h => power h.1)] at low
    push_cast at more
    have above : (2 : ℚ) ^ 52 * 2 ^ e ≤ (m - 1 / 2) * 2 ^ e :=
      mul_le_mul_of_nonneg_right (by linarith) unit.le
    exact absurd (above.trans low) (not_le.mpr below)

/-- Rounding gives the double in whose interval the exact number lies. -/
theorem round_of_roundsTo {M : Nat} {E : Int} {a : UnpackedFloat.Accuracy}
    (stands : StandsFor (.ofMantissaAndAccuracy M a) (t / 2 ^ E)) (fine : E ≤ target M E)
    (canonical : Canonical m e) (pos : 0 < m) (rounds : RoundsTo t m e) :
    roundWithAccuracy .binary64 .positive M E a = .finite .positive m e pos := by
  obtain ⟨em, shift, stands'⟩ := standsFor_shift stands fine
  unfold roundWithAccuracy
  rw [shift]
  dsimp only
  by_cases carries : t < 2 ^ 52 * 2 ^ e ∧ -1074 < e
  · -- just below a power of two the unit is half as large, and rounding up carries
    obtain ⟨below, room⟩ := carries
    obtain ⟨rfl, low⟩ := rounds.carries canonical below room
    have unit := two_zpow_pos (e - 1)
    have half : (2 : ℚ) ^ e = 2 * 2 ^ (e - 1) := by
      rw [← zpow_one_add₀ two_ne_zero]
      congr 1
      omega
    rw [half] at below
    have same : target M E = e - 1 :=
      target_eq stands fine (by omega) (.inl (by linarith)) (by linarith)
    have nearest : Nearest (2 ^ 53) (t / 2 ^ (e - 1)) := by
      refine ⟨?_, ?_, fun odd => absurd odd (by decide)⟩
      · rw [le_div_iff₀ unit]
        push_cast
        exact low
      · rw [div_le_iff₀ unit]
        push_cast
        linarith
    rw [same] at stands' ⊢
    rw [stands'.roundedMantissa nearest, shift_carry room.le]
    rfl
  · have full : 2 ^ 52 * 2 ^ e ≤ t ∨ e = -1074 := by
      have := canonical.least
      by_cases low : e = -1074
      · exact .inr low
      · exact .inl (not_lt.mp fun below => carries ⟨below, by omega⟩)
    have same := target_eq stands fine canonical.least full (rounds.lt canonical)
    rw [same] at stands' ⊢
    rw [stands'.roundedMantissa rounds.nearest, shift_stays canonical.high canonical.least]
    dsimp only
    rw [dif_neg (Nat.pos_iff_ne_zero.mp pos)]

end

end DocExpr.Number
