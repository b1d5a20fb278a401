import DocExpr.Number.Notation
import DocExpr.Proofs.Number.Shortest

/-! The decimal that is nearest to a number: among the decimals with some digits behind the point,
and among those with some significant digits. Rounding the right multiple of the number to an
integer gives it, and decides which of two decimals that are equally near is taken. -/
namespace DocExpr.Number

/-- The integer nearest to the number, and of two the larger one. -/
structure NearestUp (n : Nat) (t : ℚ) : Prop where
  low : n - 1 / 2 ≤ t
  high : t < n + 1 / 2

theorem Ratio.value_eq {r : Ratio} (pos : 0 < r.den) :
    r.value = (r.num / r.den : Nat) + (r.num % r.den : Nat) / r.den := by
  have posQ : (0 : ℚ) < r.den := Nat.cast_pos.mpr pos
  have parts : ((r.den * (r.num / r.den) + r.num % r.den : Nat) : ℚ) = r.num := by
    rw [Nat.div_add_mod]
  rw [Ratio.value, ← parts]
  push_cast
  field_simp

/-- A ratio that lies in the middle is rounded to the even integer. -/
theorem Ratio.nearest_round {r : Ratio} (pos : 0 < r.den) : Nearest (r.round .toEven) r.value := by
  have near := abs_le.mp (Ratio.round_near pos .toEven)
  refine ⟨by linarith, by linarith, fun odd => ?_⟩
  have posQ : (0 : ℚ) < r.den := Nat.cast_pos.mpr pos
  have low : (0 : ℚ) ≤ (r.num % r.den : Nat) / r.den := by positivity
  have high : ((r.num % r.den : Nat) / r.den : ℚ) < 1 :=
    (div_lt_one posQ).mpr (Nat.cast_lt.mpr (Nat.mod_lt _ pos))
  rw [Ratio.value_eq pos]
  unfold Ratio.round at odd ⊢
  dsimp only at odd ⊢
  split at odd
  next less =>
    have less : (2 * (r.num % r.den : Nat) : ℚ) < r.den := by exact_mod_cast less
    have half : ((r.num % r.den : Nat) / r.den : ℚ) < 1 / 2 := by
      rw [div_lt_div_iff₀ posQ two_pos]
      linarith
    rw [if_pos ‹_›]
    constructor <;> linarith
  next notLess =>
    rw [if_neg notLess]
    split at odd
    next more =>
      have more' : (r.den : ℚ) < 2 * (r.num % r.den : Nat) := by exact_mod_cast more
      have half : (1 / 2 : ℚ) < (r.num % r.den : Nat) / r.den := by
        rw [div_lt_div_iff₀ two_pos posQ]
        linarith
      rw [if_pos more]
      push_cast
      constructor <;> linarith
    next =>
      exfalso
      split at odd <;> omega

/-- No number has two nearest integers. -/
theorem Nearest.not_lt {m n : Nat} {t : ℚ} (nearest : Nearest m t) (nearest' : Nearest n t) :
    ¬ m < n := by
  intro less
  have less' : (m + 1 : ℚ) ≤ n := by exact_mod_cast less
  have low := nearest'.low
  have high := nearest.high
  have next_ : n = m + 1 := by
    have : (n : ℚ) ≤ (m + 1 : Nat) := by
      push_cast
      linarith
    have := Nat.cast_le.mp this
    omega
  rcases Nat.mod_two_eq_zero_or_one m with even | odd
  · have := (nearest'.inside (by omega)).1
    linarith
  · have := (nearest.inside odd).2
    linarith

theorem Nearest.unique {m n : Nat} {t : ℚ} (nearest : Nearest m t) (nearest' : Nearest n t) :
    m = n :=
  Nat.le_antisymm (Nat.le_of_not_lt (nearest'.not_lt nearest))
    (Nat.le_of_not_lt (nearest.not_lt nearest'))

theorem Nearest.nearestUp {n : Nat} {t : ℚ} (nearest : Nearest n t) (noMiddle : t ≠ n + 1 / 2) :
    NearestUp n t :=
  ⟨nearest.low, lt_of_le_of_ne nearest.high noMiddle⟩

theorem nearest_dyadic (m : Nat) (e k : Int) :
    Nearest (((Ratio.ofDyadic m e).scaleDown k).round .toEven) (m * 2 ^ e / 10 ^ k) := by
  obtain ⟨posDyadic, dyadic⟩ := Ratio.ofDyadic_spec m e
  obtain ⟨posScaled, scaled⟩ := Ratio.scaleDown_spec posDyadic k
  rw [← dyadic, ← scaled]
  exact Ratio.nearest_round posScaled

theorem nearest_natCast (n : Nat) : Nearest n n :=
  ⟨by linarith, by linarith, fun _ => ⟨by linarith, by linarith⟩⟩

/-- The decimals with that many digits behind the point. -/
def withPlaces (places : Nat) : Set ℚ := {y | ∃ n : Nat, y = n / 10 ^ places}

/-- A number of `p` digits, the first of them not zero. -/
def HasDigits (p n : Nat) : Prop := 10 ^ (p - 1) ≤ n ∧ n < 10 ^ p

/-- Zero and the decimals with `p` significant digits. -/
def withDigits (p : Nat) : Set ℚ :=
  {y | y = 0 ∨ ∃ (n : Nat) (k : Int), HasDigits p n ∧ y = n * 10 ^ k}

/-- A decimal of the set, and none of the set is nearer to the number. -/
structure NearestIn (s : Set ℚ) (t y : ℚ) : Prop where
  mem : y ∈ s
  near : ∀ z ∈ s, |t - y| ≤ |t - z|

/-- Of the decimals of the set that are as near to the number the largest. -/
def LargestIn (s : Set ℚ) (t y : ℚ) : Prop := ∀ z ∈ s, |t - z| = |t - y| → z ≤ y

/-- The number lies halfway between a decimal with an even last digit and the next one. -/
def OnEvenTie (p : Nat) (t : ℚ) (n : Nat) (k : Int) : Prop :=
  HasDigits p n ∧ n % 2 = 0 ∧ t = (n + 1 / 2) * 10 ^ k

theorem abs_sub_multiple {u : ℚ} (pos : 0 < u) (t : ℚ) (n : Nat) :
    |t - n * u| = |t / u - n| * u := by
  rw [← abs_of_pos pos, ← abs_mul, abs_of_pos pos, sub_mul, div_mul_cancel₀ _ pos.ne']

section
variable {t u : ℚ} {n : Nat} (pos : 0 < u) (low : n - 1 / 2 ≤ t / u) (high : t / u ≤ n + 1 / 2)
include pos low high

/-- The nearest integer gives the nearest multiple of a unit. -/
theorem abs_sub_multiple_le (c : Nat) : |t - n * u| ≤ |t - c * u| := by
  have near : |t / u - n| ≤ 1 / 2 := abs_le.mpr ⟨by linarith, by linarith⟩
  rw [abs_sub_multiple pos, abs_sub_multiple pos]
  refine mul_le_mul_of_nonneg_right ?_ pos.le
  rcases lt_trichotomy c n with less | rfl | more
  · have less : (c + 1 : ℚ) ≤ n := by exact_mod_cast less
    exact near.trans (le_abs.mpr (.inl (by linarith)))
  · exact le_rfl
  · have more : (n + 1 : ℚ) ≤ c := by exact_mod_cast more
    exact near.trans (le_abs.mpr (.inr (by linarith)))

/-- A larger multiple is as near only in the middle. -/
theorem middle_of_equal {c : Nat} (more : n < c) (equal : |t - c * u| = |t - n * u|) :
    t / u = n + 1 / 2 := by
  have near : |t / u - n| ≤ 1 / 2 := abs_le.mpr ⟨by linarith, by linarith⟩
  rw [abs_sub_multiple pos, abs_sub_multiple pos] at equal
  have equal := mul_right_cancel₀ pos.ne' equal
  have more : (n + 1 : ℚ) ≤ c := by exact_mod_cast more
  have away := neg_le_abs (t / u - c)
  linarith

end

/-- Rounded to a number of digits behind the point, a number is written as the nearest decimal, and
halfway as the larger one. -/
theorem NearestUp.withPlaces {t : ℚ} {n places : Nat} (nearest : NearestUp n (t * 10 ^ places)) :
    NearestIn (withPlaces places) t (n / 10 ^ places) ∧
      LargestIn (Number.withPlaces places) t (n / 10 ^ places) := by
  have pos : (0 : ℚ) < (10 ^ places)⁻¹ := by positivity
  have low : (n : ℚ) - 1 / 2 ≤ t / (10 ^ places)⁻¹ := by
    rw [div_inv_eq_mul]
    exact nearest.low
  have high : t / (10 ^ places)⁻¹ < n + 1 / 2 := by
    rw [div_inv_eq_mul]
    exact nearest.high
  refine ⟨⟨⟨n, rfl⟩, ?_⟩, ?_⟩
  · rintro _ ⟨c, rfl⟩
    rw [div_eq_mul_inv, div_eq_mul_inv]
    exact abs_sub_multiple_le pos low high.le c
  · rintro _ ⟨c, rfl⟩ equal
    rw [div_eq_mul_inv, div_eq_mul_inv] at equal ⊢
    by_contra! larger
    have more : n < c := Nat.cast_lt.mp (lt_of_mul_lt_mul_right larger pos.le)
    exact high.ne (middle_of_equal pos low high.le more equal)

/-- A decimal with `places + 1` digits is a multiple of the unit of a number, or too small to be
near to it. -/
theorem withDigits_cases {places : Nat} (lead : Int) {z : ℚ}
    (isIn : z ∈ withDigits (places + 1)) :
    (∃ c : Nat, z = c * 10 ^ (lead - places)) ∨ z < 10 ^ lead := by
  rcases isIn with rfl | ⟨n, k, ⟨-, high⟩, rfl⟩
  · exact .inl ⟨0, by simp⟩
  · rcases le_or_gt (lead - places) k with fine | coarse
    · obtain ⟨j, apart⟩ := Int.eq_ofNat_of_zero_le (sub_nonneg.mpr fine)
      refine .inl ⟨n * 10 ^ j, ?_⟩
      have power : (10 : ℚ) ^ k = 10 ^ j * 10 ^ (lead - places) := by
        rw [← zpow_natCast, ← zpow_add₀ (by norm_num)]
        congr 1
        omega
      rw [power]
      push_cast
      ring
    · refine .inr ?_
      have high : (n : ℚ) < 10 ^ (places + 1) := by exact_mod_cast high
      calc (n : ℚ) * 10 ^ k < 10 ^ (places + 1) * 10 ^ k :=
            mul_lt_mul_of_pos_right high (ten_zpow_pos k)
        _ = 10 ^ ((places + 1 : Nat) + k : Int) := by
            rw [zpow_add₀ (by norm_num), zpow_natCast]
        _ ≤ 10 ^ lead := zpow_le_zpow_right₀ (by norm_num) (by push_cast; omega)

/-- What rounding with ties to the even digit gives. -/
structure RoundsToDigits (p : Nat) (t y : ℚ) : Prop where
  nearest : NearestIn (withDigits p) t y
  largest : (∀ n k, ¬ OnEvenTie p t n k) → LargestIn (withDigits p) t y
  even : ∀ n k, OnEvenTie p t n k → y = n * 10 ^ k

/-- Zero is near to itself only. -/
theorem roundsToDigits_zero (p : Nat) : RoundsToDigits p 0 0 := by
  refine ⟨⟨.inl rfl, fun z _ => ?_⟩, fun _ z _ equal => ?_, ?_⟩
  · rw [sub_zero, abs_zero]
    exact abs_nonneg _
  · rw [sub_zero, abs_zero, zero_sub, abs_neg, abs_eq_zero] at equal
    exact equal.le
  · rintro n k ⟨-, -, middle⟩
    have positive : (0 : ℚ) < (n + 1 / 2) * 10 ^ k := mul_pos (by positivity) (ten_zpow_pos k)
    exact absurd middle positive.ne

theorem ten_pow_mul_zpow (a : Nat) (k : Int) : (10 : ℚ) ^ a * 10 ^ k = 10 ^ (a + k : Int) := by
  rw [zpow_add₀ (by norm_num), zpow_natCast]

section
variable {t : ℚ} {lead : Int} {places N : Nat} (low : 10 ^ lead ≤ t) (high : t < 10 ^ (lead + 1))
include low high

theorem quotient_bounds (places : Nat) : (10 : ℚ) ^ places ≤ t / 10 ^ (lead - places) ∧
    t / 10 ^ (lead - places) < (10 : ℚ) ^ (places + 1) := by
  have pos := ten_zpow_pos (lead - places)
  constructor
  · rwa [le_div_iff₀ pos, ten_pow_mul_zpow, add_sub_cancel]
  · rw [div_lt_iff₀ pos, ten_pow_mul_zpow]
    have exponent : ((places + 1 : Nat) : Int) + (lead - places) = lead + 1 := by
      push_cast
      omega
    rwa [exponent]

variable (nearest : Nearest N (t / 10 ^ (lead - places)))
include nearest

theorem nearest_bounds : 10 ^ places ≤ N ∧ N ≤ 10 ^ (places + 1) := by
  obtain ⟨least, most⟩ := quotient_bounds low high places
  constructor
  · have : ((10 ^ places : Nat) : ℚ) < (N + 1 : Nat) := by
      push_cast
      linarith [nearest.high]
    exact Nat.lt_succ_iff.mp (Nat.cast_lt.mp this)
  · have : (N : ℚ) < (10 ^ (places + 1) + 1 : Nat) := by
      push_cast
      linarith [nearest.low]
    exact Nat.lt_succ_iff.mp (Nat.cast_lt.mp this)

/-- Rounded to a number of digits, a number becomes the nearest decimal. -/
theorem Nearest.nearestIn :
    NearestIn (withDigits (places + 1)) t (N * 10 ^ (lead - places)) := by
  obtain ⟨least, most⟩ := nearest_bounds low high nearest
  constructor
  · by_cases carries : N = 10 ^ (places + 1)
    · refine .inr ⟨10 ^ places, lead - places + 1, ⟨le_rfl, ?_⟩, ?_⟩
      · exact Nat.pow_lt_pow_right (by decide) (Nat.lt_succ_self places)
      · rw [carries, zpow_add_one₀ (by norm_num)]
        push_cast
        ring
    · exact .inr ⟨N, lead - places, ⟨least, by omega⟩, rfl⟩
  · intro z isIn
    have multiple := abs_sub_multiple_le (ten_zpow_pos (lead - places)) nearest.low nearest.high
    rcases withDigits_cases lead isIn with ⟨c, rfl⟩ | less
    · exact multiple c
    · refine (multiple (10 ^ places)).trans ?_
      rw [Nat.cast_pow, Nat.cast_ofNat, ten_pow_mul_zpow, add_sub_cancel,
        abs_of_nonneg (by linarith), abs_of_nonneg (by linarith)]
      linarith

/-- The nearest decimal is the largest one, unless the number lies behind an even digit. -/
theorem Nearest.largestIn (noTie : ∀ n k, ¬ OnEvenTie (places + 1) t n k) :
    LargestIn (withDigits (places + 1)) t (N * 10 ^ (lead - places)) := by
  have pos := ten_zpow_pos (lead - places)
  obtain ⟨least, -⟩ := nearest_bounds low high nearest
  intro z isIn equal
  by_contra! larger
  rcases withDigits_cases lead isIn with ⟨c, rfl⟩ | less
  · have more : N < c := Nat.cast_lt.mp (lt_of_mul_lt_mul_right larger pos.le)
    have middle := middle_of_equal pos nearest.low nearest.high more equal
    have even : N % 2 = 0 := by
      refine Nat.mod_two_ne_one.mp fun odd => ?_
      exact (nearest.inside odd).2.ne middle
    have value : t = (N + 1 / 2) * 10 ^ (lead - places) := (div_eq_iff pos.ne').mp middle
    have fits : (N : ℚ) < (10 ^ (places + 1) : Nat) := by
      push_cast
      linarith [(quotient_bounds low high places).2]
    exact noTie N _ ⟨⟨least, Nat.cast_lt.mp fits⟩, even, value⟩
  · have least : (10 : ℚ) ^ places ≤ N := by exact_mod_cast least
    have small := mul_le_mul_of_nonneg_right least pos.le
    rw [ten_pow_mul_zpow, add_sub_cancel] at small
    linarith

/-- Halfway behind an even digit the number is rounded down to that digit. -/
theorem Nearest.even {n : Nat} {k : Int} (tie : OnEvenTie (places + 1) t n k) :
    (N * 10 ^ (lead - places) : ℚ) = n * 10 ^ k := by
  obtain ⟨⟨least, most⟩, even, value⟩ := tie
  have pos := ten_zpow_pos k
  have same : lead - places = k := by
    have least : (10 : ℚ) ^ places ≤ n := by exact_mod_cast least
    have most : (n + 1 : ℚ) ≤ 10 ^ (places + 1) := by exact_mod_cast most
    have above : (10 : ℚ) ^ (places + k : Int) < 10 ^ (lead + 1) := by
      have := mul_le_mul_of_nonneg_right least pos.le
      rw [ten_pow_mul_zpow] at this
      linarith
    have below : (10 : ℚ) ^ lead < 10 ^ ((places + 1 : Nat) + k : Int) := by
      have := mul_le_mul_of_nonneg_right most pos.le
      rw [ten_pow_mul_zpow] at this
      linarith
    have above := (zpow_lt_zpow_iff_right₀ (by norm_num)).mp above
    have below := (zpow_lt_zpow_iff_right₀ (by norm_num)).mp below
    push_cast at below
    omega
  rw [same] at nearest ⊢
  rw [value, mul_div_cancel_right₀ _ pos.ne'] at nearest
  have nearest' : Nearest n ((n : ℚ) + 1 / 2) :=
    ⟨by linarith, le_rfl, fun odd => absurd odd (by omega)⟩
  rw [nearest.unique nearest']

theorem Nearest.roundsToDigits :
    RoundsToDigits (places + 1) t (N * 10 ^ (lead - places)) where
  nearest := nearest.nearestIn low high
  largest := nearest.largestIn low high
  even _ _ tie := nearest.even low high tie

end

/-- A number is written with as many digits as it has. -/
theorem length_digitChars {p n : Nat} (digits : HasDigits p n) (some : 0 < p) :
    (digitChars n).length = p := by
  obtain ⟨least, most⟩ := digits
  have positive : 0 < n := (Nat.pow_pos (by decide)).trans_le least
  obtain ⟨low, high⟩ := pow_length_toDigits positive
  change 10 ^ ((digitChars n).length - 1) ≤ n at low
  change n < 10 ^ (digitChars n).length at high
  have above := (Nat.pow_lt_pow_iff_right (by decide)).mp (low.trans_lt most)
  have below := (Nat.pow_lt_pow_iff_right (by decide)).mp (least.trans_lt high)
  omega

section
variable {m : Nat} {e : Int} (canonical : Canonical m e) (pos : 0 < m)
include canonical pos

/-- The digits in front of an exponent are as many as were asked for and make the nearest decimal,
also where rounding has led to one more and the exponent was raised. -/
theorem exponentialDigits_spec (places : Nat) :
    ∃ n k, exponentialDigits m e places = (digitChars n, k) ∧ HasDigits (places + 1) n ∧
      Nearest n (m * 2 ^ e / 10 ^ (k - places)) ∧
      RoundsToDigits (places + 1) (m * 2 ^ e) (n * 10 ^ (k - places)) := by
  have low := leadingExponent_le canonical pos
  have high := lt_leadingExponent canonical pos
  have nearest := nearest_dyadic m e (leadingExponent m e - places)
  unfold exponentialDigits
  rw [if_neg (Nat.pos_iff_ne_zero.mp pos)]
  dsimp only
  generalize leadingExponent m e = lead at low high nearest ⊢
  generalize ((Ratio.ofDyadic m e).scaleDown (lead - places)).round .toEven = N at nearest ⊢
  obtain ⟨least, most⟩ := nearest_bounds low high nearest
  have rounds := nearest.roundsToDigits low high
  rw [Nat.pow_eq]
  split
  next fits => exact ⟨N, lead, rfl, ⟨least, fits⟩, nearest, rounds⟩
  next carries =>
    obtain rfl : N = 10 ^ (places + 1) := by omega
    have quotient : 10 ^ (places + 1) / 10 = 10 ^ places :=
      Nat.mul_div_cancel (10 ^ places) (by decide)
    have unit : (10 : ℚ) ^ (lead + 1 - places) = 10 ^ (lead - places) * 10 := by
      rw [add_sub_right_comm, zpow_add_one₀ (by norm_num)]
    have value : ((10 ^ (places + 1) : Nat) * 10 ^ (lead - places) : ℚ) =
        (10 ^ places : Nat) * 10 ^ (lead + 1 - places) := by
      rw [unit]
      push_cast
      ring
    rw [quotient]
    refine ⟨10 ^ places, lead + 1, rfl, ⟨le_rfl, ?_⟩, ?_, value ▸ rounds⟩
    · exact Nat.pow_lt_pow_right (by decide) (Nat.lt_succ_self places)
    · have below := (quotient_bounds low high places).2
      have above := nearest.low
      rw [unit, ← div_div]
      generalize (m * 2 ^ e / 10 ^ (lead - places) : ℚ) = q at below above ⊢
      rw [Nat.cast_pow, Nat.cast_ofNat, pow_succ] at above
      rw [pow_succ] at below
      refine ⟨?_, ?_, fun _ => ⟨?_, ?_⟩⟩
      all_goals
        push_cast
        linarith

end

end DocExpr.Number
