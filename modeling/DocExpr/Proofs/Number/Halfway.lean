import DocExpr.Proofs.Number.Rounding
import Mathlib.Tactic.LinearCombination

/-! Doubles near the middle between two decimals. A double that lies not quite halfway between two
decimals with up to a hundred digits behind the point is away from the middle by more than half a
unit of the twenty-fifth digit behind these, so a text with twenty-five more digits tells. Whether
a multiple of one number may come close to a multiple of another is decided by the remainders of
Euclid's algorithm. -/
namespace DocExpr.Number

/-- Two remainders of Euclid's algorithm say how close multiples of a number come to those of the
modulus, as long as the factor is below the later of their cofactors. -/
theorem remainder_le_distance {a N r₀ q₀ r₁ q₁ m k : Int} (pos : 0 < N)
    (whole : q₁ * r₀ + q₀ * r₁ = N) (before : N ∣ q₀ * a - r₀) (behind : N ∣ q₁ * a + r₁)
    (nonneg : 0 ≤ q₀ ∧ 0 ≤ r₀ ∧ 0 ≤ r₁) (some : 0 < m) (small : m < q₁) :
    r₀ ≤ |m * a - k * N| := by
  obtain ⟨u, hu⟩ := before
  obtain ⟨v, hv⟩ := behind
  obtain ⟨q₀_nonneg, r₀_nonneg, r₁_nonneg⟩ := nonneg
  have unimodular : v * q₀ - u * q₁ = 1 := by
    refine mul_left_cancel₀ pos.ne' ?_
    linear_combination whole + q₁ * hu - q₀ * hv
  -- the factor and the distance are combinations of the cofactors and of the remainders
  have factor : m = q₁ * (q₀ * k - m * u) + q₀ * (m * v - q₁ * k) := by
    linear_combination -m * unimodular
  have distance : m * a - k * N = r₀ * (m * v - q₁ * k) - r₁ * (q₀ * k - m * u) := by
    refine mul_left_cancel₀ pos.ne' ?_
    linear_combination -(m * a - k * N) * whole + r₁ * m * hu + r₀ * m * hv
  generalize q₀ * k - m * u = x at factor distance
  generalize m * v - q₁ * k = y at factor distance
  rw [distance]
  rcases lt_or_ge 0 x with above | below
  · have more : q₁ ≤ q₁ * x := le_mul_of_one_le_right (some.trans small).le above
    have negative : y ≤ -1 := by
      by_contra! nonneg
      have := mul_nonneg q₀_nonneg (by omega : 0 ≤ y)
      linarith
    have least : r₀ * 1 ≤ r₀ * -y := mul_le_mul_of_nonneg_left (by linarith) r₀_nonneg
    have := mul_nonneg r₁_nonneg above.le
    exact le_abs.mpr (.inr (by linarith))
  · have less : q₁ * x ≤ 0 := mul_nonpos_of_nonneg_of_nonpos (some.trans small).le below
    have positive : 1 ≤ y := by
      by_contra! nonpos
      have := mul_nonpos_of_nonneg_of_nonpos q₀_nonneg (by omega : y ≤ 0)
      linarith
    have least : r₀ * 1 ≤ r₀ * y := mul_le_mul_of_nonneg_left positive r₀_nonneg
    have := mul_nonpos_of_nonneg_of_nonpos r₁_nonneg below
    exact le_abs.mpr (.inl (by linarith))

/-- Euclid's algorithm with the cofactors of the second number, until one reaches the bound. Nothing
is claimed of what it gives, which is checked. -/
def convergents (bound : Nat) : Nat → Nat → Nat → Nat → Nat → Nat × Nat × Nat × Nat
  | 0, r₀, q₀, r₁, q₁ => (r₀, q₀, r₁, q₁)
  | fuel + 1, r₀, q₀, r₁, q₁ =>
    if bound ≤ q₁ then (r₀, q₀, r₁, q₁)
    else convergents bound fuel r₁ q₁ (r₀ % r₁) (q₀ + r₀ / r₁ * q₁)

/-- Multiples of the number with a factor below the bound do not come close to multiples of the
modulus: the remainders have opposite signs, and the former is no small part of the modulus. -/
def farEnough (a modulus bound : Nat) : Bool :=
  let (r₀, q₀, r₁, q₁) := convergents bound 60 modulus 0 (a % modulus) 1
  bound ≤ q₁ && q₁ * r₀ + q₀ * r₁ == modulus && modulus < r₀ * 10 ^ 25 &&
    ((q₀ * a % modulus == r₀ && (q₁ * a + r₁) % modulus == 0) ||
      ((q₀ * a + r₀) % modulus == 0 && q₁ * a % modulus == r₁))

theorem lt_distance_of_farEnough {a modulus bound m : Nat}
    (far : farEnough a modulus bound = true) (some : 0 < m) (small : m < bound) (k : Int) :
    (modulus : Int) < |m * a - k * modulus| * 10 ^ 25 := by
  unfold farEnough at far
  generalize convergents bound 60 modulus 0 (a % modulus) 1 = found at far
  obtain ⟨r₀, q₀, r₁, q₁⟩ := found
  simp only [Bool.and_eq_true, Bool.or_eq_true, decide_eq_true_eq, beq_iff_eq] at far
  obtain ⟨⟨⟨reaches, whole⟩, large⟩, signs⟩ := far
  have positive : 0 < q₁ * r₀ := Nat.mul_pos (by omega) (by omega)
  have pos : (0 : Int) < modulus := Int.natCast_pos.mpr (by omega)
  have whole : (q₁ * r₀ + q₀ * r₁ : Int) = modulus := by exact_mod_cast whole
  have large : (modulus : Int) < r₀ * 10 ^ 25 := by exact_mod_cast large
  have some : (0 : Int) < m := Int.natCast_pos.mpr some
  have small : (m : Int) < q₁ := Int.ofNat_lt.mpr (small.trans_le reaches)
  have nonneg : (0 : Int) ≤ q₀ ∧ (0 : Int) ≤ r₀ ∧ (0 : Int) ≤ r₁ := by simp
  have divides {n r : Nat} (rest : n % modulus = r) : (modulus : Int) ∣ n - r := by
    rw [← rest, Int.natCast_mod]
    exact Int.dvd_self_sub_emod
  have distance : (r₀ : Int) ≤ |m * a - k * modulus| := by
    rcases signs with ⟨before, behind⟩ | ⟨before, behind⟩
    · have before := divides before
      have behind := divides behind
      push_cast [sub_zero] at before behind
      exact remainder_le_distance pos whole before behind nonneg some small
    · -- with the other signs it is the multiples of the opposite number that come close
      have before := (divides before).neg_right
      have behind := (divides behind).neg_right
      push_cast at before behind
      have flipped := remainder_le_distance (a := -a) (k := -k) pos whole
        (by ring_nf at before ⊢; exact before) (by ring_nf at behind ⊢; exact behind) nonneg some
        small
      have opposite : (m * -a - -k * modulus : Int) = -(m * a - k * modulus) := by ring
      rwa [opposite, abs_neg] at flipped
  exact large.trans_le (mul_le_mul_of_nonneg_right distance (by positivity))

/-- A remainder is checked for all powers with up to a hundred factors five, and for one of sixteen
powers of two. -/
theorem powers_farEnough : ∀ d < 101, ∀ i < 13, 84 + 16 * i ≤ 54 + Nat.log2 (5 ^ d) →
    farEnough (5 ^ d) (2 ^ (99 + 16 * i)) (2 ^ 68) = true := by
  decide +kernel

/-- A mantissa times a power of five is far from the multiples of a power of two that lies between
those that are checked: with the missing factors two it is a smaller factor of the next one. -/
theorem lt_distance_between {m d s : Nat} (some : 0 < m) (small : m < 2 ^ 53) (few : d ≤ 100)
    (least : 84 ≤ s) (most : s < 55 + Nat.log2 (5 ^ d)) (k : Int) :
    (2 ^ s : Int) < |m * 5 ^ d - k * 2 ^ s| * 10 ^ 25 := by
  have bits : Nat.log2 (5 ^ d) < 233 := by
    refine (Nat.log2_lt (by positivity)).mpr ?_
    exact (Nat.pow_le_pow_right (by decide) few).trans_lt (by decide)
  obtain ⟨i, r, rfl, less⟩ : ∃ i r, s = 84 + 16 * i + r ∧ r < 16 :=
    ⟨(s - 84) / 16, (s - 84) % 16, by omega, by omega⟩
  obtain ⟨g, rest⟩ : ∃ g, r + g = 15 := ⟨15 - r, by omega⟩
  have far := powers_farEnough d (by omega) i (by omega) (by omega)
  have power : 2 ^ (99 + 16 * i) = 2 ^ (84 + 16 * i + r) * 2 ^ g := by
    rw [← pow_add]
    congr 1
    omega
  have filled : 0 < m * 2 ^ g := Nat.mul_pos some (Nat.two_pow_pos g)
  have fits : m * 2 ^ g < 2 ^ 68 :=
    calc m * 2 ^ g < 2 ^ 53 * 2 ^ g := Nat.mul_lt_mul_of_pos_right small (Nat.two_pow_pos g)
      _ ≤ 2 ^ 53 * 2 ^ 15 := Nat.mul_le_mul_left _ (Nat.pow_le_pow_right (by decide) (by omega))
      _ = 2 ^ 68 := by decide
  have distance := lt_distance_of_farEnough far filled fits k
  have scaled : ((m * 2 ^ g : Nat) * (5 ^ d : Nat) - k * (2 ^ (99 + 16 * i) : Nat) : Int) =
      (m * 5 ^ d - k * 2 ^ (84 + 16 * i + r)) * 2 ^ g := by
    rw [power]
    push_cast
    ring
  have unitPower : (0 : Int) < 2 ^ g := by positivity
  rw [scaled, abs_mul, abs_of_pos unitPower, power, mul_right_comm] at distance
  push_cast at distance
  exact lt_of_mul_lt_mul_right distance unitPower.le

/-- A mantissa times a power of five is no multiple of a power of two, or far from it. -/
theorem lt_distance_of_ne {m d s : Nat} {k : Int} (small : m < 2 ^ 53) (few : d ≤ 100)
    (some : 0 < k) (apart : (m * 5 ^ d : Int) ≠ k * 2 ^ s) :
    (2 ^ s : Int) < |m * 5 ^ d - k * 2 ^ s| * 10 ^ 25 := by
  have unit : (1 : Int) ≤ |m * 5 ^ d - k * 2 ^ s| := Int.one_le_abs (sub_ne_zero.mpr apart)
  have once : (2 ^ s : Int) ≤ k * 2 ^ s := le_mul_of_one_le_left (by positivity) some
  by_cases coarse : s ≤ 83
  · have power : (2 ^ s : Int) ≤ 2 ^ 83 := pow_le_pow_right₀ (by norm_num) coarse
    linarith
  by_cases low : 2 * (m * 5 ^ d) ≤ 2 ^ s
  · have low : (2 * (m * 5 ^ d) : Int) ≤ 2 ^ s := by exact_mod_cast low
    have below := neg_le_abs (m * 5 ^ d - k * 2 ^ s : Int)
    have power : (0 : Int) < 2 ^ s := by positivity
    linarith
  have filled : 0 < m := Nat.pos_of_ne_zero fun none => low (by simp [none])
  have most : s < 55 + Nat.log2 (5 ^ d) := by
    have bound : 5 ^ d < 2 ^ (Nat.log2 (5 ^ d) + 1) := Nat.lt_log2_self
    refine (Nat.pow_lt_pow_iff_right (a := 2) (by decide)).mp ?_
    calc 2 ^ s < 2 * (m * 5 ^ d) := not_le.mp low
      _ ≤ 2 * (2 ^ 53 * 2 ^ (Nat.log2 (5 ^ d) + 1)) := by gcongr
      _ = 2 ^ (55 + Nat.log2 (5 ^ d)) := by ring
  exact lt_distance_between filled small few (by omega) most k

/-- A double that is not halfway between two neighbouring multiples of a power of a tenth is far
from the middle. -/
theorem halfway_gap {m d n : Nat} {e : Int} (canonical : Canonical m e) (few : d ≤ 100)
    (apart : (m * 2 ^ e * 10 ^ d : ℚ) ≠ n + 1 / 2) :
    1 / 2 < |(m * 2 ^ e * 10 ^ d : ℚ) - (n + 1 / 2)| * 10 ^ 25 := by
  have five : (10 : ℚ) ^ d = 5 ^ d * 2 ^ (d : Int) := by
    rw [zpow_natCast, ← mul_pow]
    norm_num
  have double : 2 * (m * 2 ^ e * 10 ^ d : ℚ) = m * 5 ^ d * 2 ^ (e + d + 1) := by
    rw [five, zpow_add_one₀ two_ne_zero, zpow_add₀ two_ne_zero]
    ring
  generalize (m * 2 ^ e * 10 ^ d : ℚ) = t at apart double ⊢
  have apart : 2 * (t - (n + 1 / 2)) ≠ 0 := mul_ne_zero two_ne_zero (sub_ne_zero.mpr apart)
  have twice : |2 * (t - (n + 1 / 2))| = 2 * |t - (n + 1 / 2)| := by
    rw [abs_mul, abs_two]
  by_cases whole : 0 ≤ e + d + 1
  · obtain ⟨j, exponent⟩ := Int.eq_ofNat_of_zero_le whole
    have integer : 2 * (t - (n + 1 / 2)) = (m * 5 ^ d * 2 ^ j - (2 * n + 1) : Int) := by
      rw [mul_sub, double, exponent, zpow_natCast]
      push_cast
      ring
    rw [integer] at apart twice
    have unit : (1 : ℚ) ≤ |((m * 5 ^ d * 2 ^ j - (2 * n + 1) : Int) : ℚ)| := by
      rw [← Int.cast_abs]
      exact_mod_cast Int.one_le_abs (Int.cast_ne_zero.mp apart)
    linarith
  · obtain ⟨s, exponent⟩ : ∃ s : Nat, e + d + 1 = -s := ⟨(-(e + d + 1)).toNat, by omega⟩
    have power : (0 : ℚ) < 2 ^ s := by positivity
    have integer : 2 * (t - (n + 1 / 2)) * 2 ^ s = (m * 5 ^ d - (2 * n + 1) * 2 ^ s : Int) := by
      rw [mul_sub, double, exponent, zpow_neg, zpow_natCast]
      push_cast
      field_simp
    have other : (m * 5 ^ d : Int) ≠ (2 * n + 1) * 2 ^ s := by
      intro same
      rw [same, sub_self, Int.cast_zero] at integer
      exact mul_ne_zero apart power.ne' integer
    have far := lt_distance_of_ne canonical.high few (by positivity) other
    have far : (2 ^ s : ℚ) < |((m * 5 ^ d - (2 * n + 1) * 2 ^ s : Int) : ℚ)| * 10 ^ 25 := by
      rw [← Int.cast_abs]
      exact_mod_cast far
    rw [← integer, abs_mul, twice, abs_of_pos power] at far
    have unit : 2 ^ s * 1 < 2 ^ s * (2 * |t - (n + 1 / 2)| * 10 ^ 25) := by linarith
    have := lt_of_mul_lt_mul_left unit power.le
    linarith

end DocExpr.Number
