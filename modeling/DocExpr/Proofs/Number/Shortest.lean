import DocExpr.Number.Shortest
import DocExpr.Proofs.Number.Nearest

/-! The digits that are printed for a double stand for a number in its interval. A candidate on a
grid is tested for that; where no grid of seventeen digits has a candidate the nearest multiple of
the next power of ten is taken, which is close enough. -/
namespace DocExpr.Number

/-- The number that a ratio is. -/
def Ratio.value (r : Ratio) : ℚ := r.num / r.den

/-- The number that a decimal is. -/
def Decimal.value (d : Decimal) : ℚ := d.digits * 10 ^ d.exponent

theorem Decimal.value_strip (fuel : Nat) (d : Decimal) : (d.strip fuel).value = d.value := by
  induction fuel generalizing d with
  | zero => rfl
  | succ fuel ih =>
    rw [strip]
    split
    next ends =>
      have digits : (d.digits : ℚ) = 10 * (d.digits / 10 : Nat) := by
        exact_mod_cast (by omega : d.digits = 10 * (d.digits / 10))
      rw [ih, value, value, zpow_add_one₀ (by norm_num), digits]
      dsimp only
      ring
    next => rfl

theorem Decimal.digits_strip_le (fuel : Nat) (d : Decimal) : (d.strip fuel).digits ≤ d.digits := by
  induction fuel generalizing d with
  | zero => exact Nat.le_refl _
  | succ fuel ih =>
    rw [strip]
    split
    next => exact (ih _).trans (Nat.div_le_self _ _)
    next => exact Nat.le_refl _

theorem ten_zpow_pos (k : Int) : (0 : ℚ) < 10 ^ k := zpow_pos (by norm_num) k

theorem Ratio.ofDyadic_spec (m : Nat) (e : Int) :
    0 < (Ratio.ofDyadic m e).den ∧ (Ratio.ofDyadic m e).value = m * 2 ^ e := by
  unfold Ratio.ofDyadic Ratio.value
  simp only [Nat.pow_eq]
  split
  next up =>
    obtain ⟨k, rfl⟩ := Int.eq_ofNat_of_zero_le up
    refine ⟨Nat.one_pos, ?_⟩
    rw [Int.toNat_natCast, zpow_natCast]
    push_cast
    exact div_one _
  next down =>
    obtain ⟨k, rfl⟩ : ∃ k : Nat, e = -k := ⟨e.natAbs, by omega⟩
    refine ⟨Nat.two_pow_pos _, ?_⟩
    rw [Int.neg_neg, Int.toNat_natCast, zpow_neg, zpow_natCast]
    push_cast
    exact div_eq_mul_inv _ _

theorem Ratio.scaleDown_spec {r : Ratio} (pos : 0 < r.den) (k : Int) :
    0 < (r.scaleDown k).den ∧ (r.scaleDown k).value = r.value / 10 ^ k := by
  unfold Ratio.scaleDown Ratio.value
  simp only [Nat.pow_eq]
  split
  next up =>
    obtain ⟨n, rfl⟩ := Int.eq_ofNat_of_zero_le up
    refine ⟨Nat.mul_pos pos (Nat.pow_pos (by decide)), ?_⟩
    rw [Int.toNat_natCast, zpow_natCast]
    push_cast
    exact (div_div _ _ _).symm
  next down =>
    obtain ⟨n, rfl⟩ : ∃ n : Nat, k = -n := ⟨k.natAbs, by omega⟩
    refine ⟨pos, ?_⟩
    rw [Int.neg_neg, Int.toNat_natCast, zpow_neg, zpow_natCast, div_inv_eq_mul]
    push_cast
    exact mul_div_right_comm _ _ _

theorem Ratio.reaches_iff {r : Ratio} (pos : 0 < r.den) (k : Int) :
    r.reaches k = true ↔ 10 ^ k ≤ r.value := by
  obtain ⟨posScaled, value⟩ := Ratio.scaleDown_spec pos k
  have posQ : (0 : ℚ) < (r.scaleDown k).den := Nat.cast_pos.mpr posScaled
  rw [← one_le_div (ten_zpow_pos k), ← value, Ratio.value, one_le_div posQ, Nat.cast_le]
  exact decide_eq_true_iff

/-- One of the two integers around a ratio is the nearest. -/
theorem Ratio.round_spec (r : Ratio) (tie : Tie) :
    r.round tie = r.num / r.den ∨ r.round tie = r.num / r.den + 1 := by
  unfold Ratio.round
  dsimp only
  repeat' split
  all_goals simp

theorem Ratio.round_near {r : Ratio} (pos : 0 < r.den) (tie : Tie) :
    |(r.round tie : ℚ) - r.value| ≤ 1 / 2 := by
  have posQ : (0 : ℚ) < r.den := Nat.cast_pos.mpr pos
  have parts : (r.num : ℚ) = r.den * (r.num / r.den : Nat) + (r.num % r.den : Nat) := by
    exact_mod_cast (Nat.div_add_mod r.num r.den).symm
  have value : r.value = (r.num / r.den : Nat) + (r.num % r.den : Nat) / r.den := by
    unfold Ratio.value
    conv_lhs => rw [parts]
    field_simp
  have rest : (0 : ℚ) ≤ (r.num % r.den : Nat) / r.den ∧
      ((r.num % r.den : Nat) / r.den : ℚ) ≤ 1 := by
    refine ⟨by positivity, (div_le_one posQ).mpr (Nat.cast_le.mpr (Nat.mod_lt _ pos).le)⟩
  have down (less : 2 * (r.num % r.den) ≤ r.den) :
      |((r.num / r.den : Nat) : ℚ) - r.value| ≤ 1 / 2 := by
    have less : (2 * (r.num % r.den : Nat) : ℚ) ≤ r.den := by exact_mod_cast less
    have half : ((r.num % r.den : Nat) / r.den : ℚ) ≤ 1 / 2 := by
      rw [div_le_div_iff₀ posQ two_pos]
      linarith
    rw [value, abs_le]
    exact ⟨by linarith, by linarith⟩
  have up (more : r.den ≤ 2 * (r.num % r.den)) :
      |((r.num / r.den + 1 : Nat) : ℚ) - r.value| ≤ 1 / 2 := by
    have more : (r.den : ℚ) ≤ 2 * (r.num % r.den : Nat) := by exact_mod_cast more
    have half : (1 / 2 : ℚ) ≤ (r.num % r.den : Nat) / r.den := by
      rw [div_le_div_iff₀ two_pos posQ]
      linarith
    rw [value, abs_le]
    push_cast
    exact ⟨by linarith, by linarith⟩
  unfold Ratio.round
  dsimp only
  split
  next less => exact down less.le
  next notLess =>
    split
    next more => exact up more.le
    next notMore =>
      split
      · exact up (by omega)
      · split
        · exact down (by omega)
        · exact up (by omega)

/-- A quarter of the unit in the last place, in multiples of a power of ten. -/
def quarter (e k : Int) : Ratio := (Ratio.ofDyadic 1 (e - 2)).scaleDown k

section
variable {e k : Int} {a c : Nat}

theorem quarter_spec : 0 < (quarter e k).den ∧ (quarter e k).value * 10 ^ k = 2 ^ (e - 2) := by
  obtain ⟨posDyadic, dyadic⟩ := Ratio.ofDyadic_spec 1 (e - 2)
  obtain ⟨pos, scaled⟩ := Ratio.scaleDown_spec posDyadic k
  refine ⟨pos, ?_⟩
  rw [quarter, scaled, dyadic, Nat.cast_one, one_mul]
  exact div_mul_cancel₀ _ (ten_zpow_pos k).ne'

theorem quarters_le_iff :
    a * (quarter e k).num ≤ c * (quarter e k).den ↔ (a : ℚ) * 2 ^ (e - 2) ≤ c * 10 ^ k := by
  obtain ⟨pos, value⟩ := @quarter_spec e k
  have posQ : (0 : ℚ) < (quarter e k).den := Nat.cast_pos.mpr pos
  rw [← value, ← mul_assoc, mul_le_mul_iff_left₀ (ten_zpow_pos k), Ratio.value, ← mul_div_assoc,
    div_le_iff₀ posQ]
  exact_mod_cast Iff.rfl

theorem le_quarters_iff :
    c * (quarter e k).den ≤ a * (quarter e k).num ↔ (c : ℚ) * 10 ^ k ≤ a * 2 ^ (e - 2) := by
  obtain ⟨pos, value⟩ := @quarter_spec e k
  have posQ : (0 : ℚ) < (quarter e k).den := Nat.cast_pos.mpr pos
  rw [← value, ← mul_assoc, mul_le_mul_iff_left₀ (ten_zpow_pos k), Ratio.value, ← mul_div_assoc,
    le_div_iff₀ posQ]
  exact_mod_cast Iff.rfl

theorem quarters_lt_iff :
    a * (quarter e k).num < c * (quarter e k).den ↔ (a : ℚ) * 2 ^ (e - 2) < c * 10 ^ k := by
  rw [← not_le, le_quarters_iff, not_le]

theorem lt_quarters_iff :
    c * (quarter e k).den < a * (quarter e k).num ↔ (c : ℚ) * 10 ^ k < a * 2 ^ (e - 2) := by
  rw [← not_le, quarters_le_iff, not_le]

end

/-- The test whether a multiple of `10 ^ k` is in the interval. -/
def insideGrid (m : Nat) (e k : Int) (c : Nat) : Bool :=
  let below := if m = Nat.pow 2 52 ∧ -1074 < e then 1 else 2
  let low := (4 * m - below) * (quarter e k).num
  let high := (4 * m + 2) * (quarter e k).num
  let c := c * (quarter e k).den
  if m % 2 = 0 then low ≤ c && c ≤ high else low < c && c < high

theorem onGrid?_eq (tie : Tie) (m : Nat) (e k : Int) :
    onGrid? tie m e k =
      (let value := 4 * m * (quarter e k).num
      let floor := value / (quarter e k).den
      match insideGrid m e k floor, insideGrid m e k (floor + 1) with
      | true, true => some (Ratio.round ⟨value, (quarter e k).den⟩ tie)
      | true, false => some floor
      | false, true => some (floor + 1)
      | false, false => none) := rfl

theorem roundsTo_of_insideGrid {m : Nat} {e k : Int} {c : Nat} (pos : 0 < m)
    (inside : insideGrid m e k c = true) : RoundsTo (c * 10 ^ k) m e := by
  have unit : (2 : ℚ) ^ e = 4 * 2 ^ (e - 2) := by
    rw [show e = 2 + (e - 2) by omega, zpow_add₀ two_ne_zero]
    norm_num
  have gap : (((4 * m - if m = Nat.pow 2 52 ∧ -1074 < e then 1 else 2 : Nat) : ℚ)) * 2 ^ (e - 2) =
      (m - if m = 2 ^ 52 ∧ -1074 < e then 1 / 4 else 1 / 2) * 2 ^ e := by
    rw [unit, Nat.cast_sub (by split <;> omega), Nat.pow_eq]
    split <;> push_cast <;> ring
  have top : ((4 * m + 2 : Nat) : ℚ) * 2 ^ (e - 2) = (m + 1 / 2) * 2 ^ e := by
    rw [unit]
    push_cast
    ring
  unfold insideGrid at inside
  dsimp only at inside
  split at inside
  next even =>
    simp only [Bool.and_eq_true, decide_eq_true_eq, quarters_le_iff, le_quarters_iff, gap, top]
      at inside
    exact ⟨inside.1, inside.2, fun odd => by omega⟩
  next odd =>
    have plain : ¬ (m = 2 ^ 52 ∧ -1074 < e) := by
      rintro ⟨rfl, -⟩
      exact odd (by decide)
    simp only [Bool.and_eq_true, decide_eq_true_eq, quarters_lt_iff, lt_quarters_iff, gap, top]
      at inside
    obtain ⟨low, high⟩ := inside
    refine ⟨low.le, high.le, fun _ => ⟨?_, high⟩⟩
    rwa [if_neg plain] at low

/-- A candidate is taken only if it lies in the interval. -/
theorem roundsTo_of_onGrid? {tie : Tie} {m : Nat} {e k : Int} {c : Nat} (pos : 0 < m)
    (found : onGrid? tie m e k = some c) : RoundsTo (c * 10 ^ k) m e := by
  rw [onGrid?_eq] at found
  dsimp only at found
  split at found
  next here next_ =>
    cases found
    rcases Ratio.round_spec ⟨4 * m * (quarter e k).num, (quarter e k).den⟩ tie with same | same
    · rw [same]
      exact roundsTo_of_insideGrid pos here
    · rw [same]
      exact roundsTo_of_insideGrid pos next_
  next here _ =>
    cases found
    exact roundsTo_of_insideGrid pos here
  next _ next_ =>
    cases found
    exact roundsTo_of_insideGrid pos next_
  next => cases found

/-- A number that is no further away than a quarter of the unit is in the interval. -/
theorem roundsTo_of_near {t : ℚ} {m : Nat} {e : Int} (near : |t - m * 2 ^ e| < 1 / 4 * 2 ^ e) :
    RoundsTo t m e := by
  have unit := two_zpow_pos e
  obtain ⟨low, high⟩ := abs_lt.mp near
  refine ⟨?_, by linarith, fun _ => ⟨by linarith, by linarith⟩⟩
  split <;> linarith

theorem roundsTo_self (m : Nat) (e : Int) : RoundsTo (m * 2 ^ e) m e := by
  refine roundsTo_of_near ?_
  rw [sub_self, abs_zero]
  exact mul_pos (by norm_num) (two_zpow_pos e)

/-- The estimate of the first digit's exponent is at most one too large: `0.30103` is the logarithm
of two to five places. -/
theorem ten_zpow_estimate_le {n : Int} (least : -1074 ≤ n) (most : n ≤ 1023) :
    (10 : ℚ) ^ (n * 30103 / 100000 - 1) ≤ 2 ^ n := by
  generalize estimate : n * 30103 / 100000 = g
  by_cases up : 1 ≤ g
  · obtain ⟨a, power⟩ := Int.eq_ofNat_of_zero_le (by omega : 0 ≤ g - 1)
    obtain ⟨b, rfl⟩ := Int.eq_ofNat_of_zero_le (by omega : 0 ≤ n)
    rw [power, zpow_natCast, zpow_natCast]
    exact ten_pow_le_two_pow (by omega)
  · obtain ⟨b, power⟩ : ∃ b : Nat, g - 1 = -b := ⟨(1 - g).toNat, by omega⟩
    have above : (2 : ℚ) ^ (-((-n).toNat : Int)) ≤ 2 ^ n :=
      zpow_le_zpow_right₀ one_le_two (by omega)
    refine le_trans ?_ above
    rw [power, zpow_neg, zpow_neg, zpow_natCast, zpow_natCast]
    exact inv_anti₀ (by positivity) (two_pow_le_ten_pow (by omega))

/-- The estimate is at most one too small. -/
theorem two_zpow_le_estimate {n : Int} (least : -1074 ≤ n) (most : n ≤ 1023) :
    (2 : ℚ) ^ (n + 1) ≤ 10 ^ (n * 30103 / 100000 + 2) := by
  generalize estimate : n * 30103 / 100000 = g
  by_cases up : 0 ≤ n + 1
  · obtain ⟨a, power⟩ := Int.eq_ofNat_of_zero_le up
    obtain ⟨b, power'⟩ := Int.eq_ofNat_of_zero_le (by omega : 0 ≤ g + 2)
    rw [power, power', zpow_natCast, zpow_natCast]
    exact two_pow_le_ten_pow (by omega)
  · obtain ⟨a, power⟩ : ∃ a : Nat, n + 1 = -a := ⟨(-(n + 1)).toNat, by omega⟩
    have below : (10 : ℚ) ^ (-((-(g + 2)).toNat : Int)) ≤ 10 ^ (g + 2) :=
      zpow_le_zpow_right₀ (by norm_num) (by omega)
    refine le_trans ?_ below
    rw [power, zpow_neg, zpow_neg, zpow_natCast, zpow_natCast]
    exact inv_anti₀ (by positivity) (ten_pow_le_two_pow (by omega))

theorem leadingExponent_le {m : Nat} {e : Int} (canonical : Canonical m e) (pos : 0 < m) :
    (10 : ℚ) ^ leadingExponent m e ≤ m * 2 ^ e := by
  obtain ⟨posDyadic, value⟩ := Ratio.ofDyadic_spec m e
  unfold leadingExponent
  dsimp only
  split
  next reaches => rwa [Ratio.reaches_iff posDyadic, value] at reaches
  next =>
    split
    next reaches => rwa [Ratio.reaches_iff posDyadic, value] at reaches
    next =>
      have nonzero := Nat.pos_iff_ne_zero.mp pos
      have small : m.log2 < 53 := (Nat.log2_lt nonzero).mpr canonical.high
      have := canonical.least
      have := canonical.most
      have least : ((2 ^ m.log2 : Nat) : ℚ) ≤ m := Nat.cast_le.mpr (Nat.log2_self_le nonzero)
      push_cast at least
      calc (10 : ℚ) ^ (((m.log2 : Int) + e) * 30103 / 100000 - 1)
          ≤ 2 ^ ((m.log2 : Int) + e) := ten_zpow_estimate_le (by omega) (by omega)
        _ = 2 ^ m.log2 * 2 ^ e := (two_pow_mul_zpow _ _).symm
        _ ≤ m * 2 ^ e := by
          have := two_zpow_pos e
          gcongr

theorem lt_leadingExponent {m : Nat} {e : Int} (canonical : Canonical m e) (pos : 0 < m) :
    m * 2 ^ e < (10 : ℚ) ^ (leadingExponent m e + 1) := by
  obtain ⟨posDyadic, value⟩ := Ratio.ofDyadic_spec m e
  have short {k : Int} (less : ¬ (Ratio.ofDyadic m e).reaches k = true) :
      m * 2 ^ e < (10 : ℚ) ^ k := by
    rwa [Ratio.reaches_iff posDyadic, value, not_le] at less
  unfold leadingExponent
  dsimp only
  split
  next =>
    have nonzero := Nat.pos_iff_ne_zero.mp pos
    have small : m.log2 < 53 := (Nat.log2_lt nonzero).mpr canonical.high
    have := canonical.least
    have := canonical.most
    have most : (m : ℚ) < (2 ^ (m.log2 + 1) : Nat) := Nat.cast_lt.mpr Nat.lt_log2_self
    push_cast at most
    calc (m : ℚ) * 2 ^ e < 2 ^ (m.log2 + 1) * 2 ^ e :=
          mul_lt_mul_of_pos_right most (two_zpow_pos e)
      _ = 2 ^ ((m.log2 : Int) + e + 1) := by
          rw [two_pow_mul_zpow]
          congr 1
          push_cast
          ring
      _ ≤ 10 ^ (((m.log2 : Int) + e) * 30103 / 100000 + 1 + 1) := by
          rw [Int.add_assoc _ 1 1]
          exact two_zpow_le_estimate (by omega) (by omega)
  next less =>
    split
    next => exact short less
    next less' =>
      rw [Int.sub_add_cancel]
      exact short less'

theorem searchGrid_exponent (tie : Tie) (m : Nat) (e : Int) (fuel : Nat) (k : Int) :
    k - fuel ≤ (searchGrid tie m e fuel k).exponent := by
  induction fuel generalizing k with
  | zero => exact (Int.sub_zero k).le
  | succ fuel ih =>
    rw [searchGrid]
    split
    next => exact Int.sub_le_self k (by omega)
    next =>
      have := ih (k - 1)
      omega

section
variable {m : Nat} {e : Int} (canonical : Canonical m e) (pos : 0 < m)
include canonical pos

omit pos in
/-- Of eighteen digits the nearest are close enough. -/
theorem roundsTo_of_round (tie : Tie) {k : Int} (fine : (10 : ℚ) ^ (k + 17) ≤ m * 2 ^ e) :
    RoundsTo ((((Ratio.ofDyadic m e).scaleDown k).round tie : ℚ) * 10 ^ k) m e := by
  obtain ⟨posDyadic, value⟩ := Ratio.ofDyadic_spec m e
  obtain ⟨posScaled, scaled⟩ := Ratio.scaleDown_spec posDyadic k
  have near := Ratio.round_near posScaled tie
  rw [scaled, value] at near
  have unit := ten_zpow_pos k
  have most : (m : ℚ) ≤ 2 ^ 53 := by exact_mod_cast canonical.high.le
  have grid : (10 : ℚ) ^ k * 10 ^ 17 ≤ 2 ^ 53 * 2 ^ e := by
    rw [zpow_add₀ (by norm_num)] at fine
    refine le_trans fine (mul_le_mul_of_nonneg_right most (two_zpow_pos e).le)
  refine roundsTo_of_near ?_
  have apart : (((Ratio.ofDyadic m e).scaleDown k).round tie : ℚ) * 10 ^ k - m * 2 ^ e =
      ((((Ratio.ofDyadic m e).scaleDown k).round tie : ℚ) - m * 2 ^ e / 10 ^ k) * 10 ^ k := by
    rw [sub_mul, div_mul_cancel₀ _ unit.ne']
  calc |(((Ratio.ofDyadic m e).scaleDown k).round tie : ℚ) * 10 ^ k - m * 2 ^ e|
      ≤ 1 / 2 * 10 ^ k := by
        rw [apart, abs_mul, abs_of_pos unit]
        exact mul_le_mul_of_nonneg_right near unit.le
    _ < 1 / 4 * 2 ^ e := by
        have := two_zpow_pos e
        norm_num at grid ⊢
        linarith

theorem searchGrid_roundsTo (tie : Tie) (fuel : Nat) {k : Int}
    (fine : (10 : ℚ) ^ (k - fuel + 17) ≤ m * 2 ^ e) :
    RoundsTo (searchGrid tie m e fuel k).value m e := by
  induction fuel generalizing k with
  | zero =>
    rw [Int.natCast_zero, Int.sub_zero] at fine
    exact roundsTo_of_round canonical tie fine
  | succ fuel ih =>
    rw [searchGrid]
    split
    next c found => exact roundsTo_of_onGrid? pos found
    next =>
      refine ih ?_
      have same : k - 1 - fuel + 17 = k - (fuel + 1 : Nat) + 17 := by omega
      rwa [same]

/-- The digits that are printed stand for a number that rounds to the double. -/
theorem shortest_roundsTo (tie : Tie) : RoundsTo (shortest tie m e).value m e := by
  rw [shortest, Decimal.value_strip]
  refine searchGrid_roundsTo canonical pos tie 17 ?_
  have same : leadingExponent m e - (17 : Nat) + 17 = leadingExponent m e := by omega
  rw [same]
  exact leadingExponent_le canonical pos

/-- The digits that are printed fit into 64 bits. -/
theorem shortest_digits_lt (tie : Tie) : (shortest tie m e).digits < 2 ^ 64 := by
  refine (Decimal.digits_strip_le 20 _).trans_lt ?_
  have fine : (10 : ℚ) ^ (leadingExponent m e - (17 : Nat) + 17) ≤ m * 2 ^ e := by
    rw [Nat.cast_ofNat, Int.sub_add_cancel]
    exact leadingExponent_le canonical pos
  have rounds := searchGrid_roundsTo canonical pos tie 17 fine
  have exponent := searchGrid_exponent tie m e 17 (leadingExponent m e)
  generalize searchGrid tie m e 17 (leadingExponent m e) = d at rounds exponent ⊢
  have unit := ten_zpow_pos d.exponent
  have least : (1 : ℚ) ≤ m := Nat.one_le_cast.mpr pos
  have double : (d.digits : ℚ) * 10 ^ d.exponent < 2 * 10 ^ 18 * 10 ^ d.exponent :=
    calc (d.digits : ℚ) * 10 ^ d.exponent ≤ (m + 1 / 2) * 2 ^ e := rounds.high
      _ ≤ 2 * (m * 2 ^ e) := by
        rw [← mul_assoc]
        exact mul_le_mul_of_nonneg_right (by linarith) (two_zpow_pos e).le
      _ < 2 * 10 ^ (leadingExponent m e + 1) :=
        mul_lt_mul_of_pos_left (lt_leadingExponent canonical pos) two_pos
      _ ≤ 2 * 10 ^ (18 + d.exponent) := by
        have : leadingExponent m e + 1 ≤ 18 + d.exponent := by omega
        have := zpow_le_zpow_right₀ (by norm_num : (1 : ℚ) ≤ 10) this
        linarith
      _ = 2 * 10 ^ 18 * 10 ^ d.exponent := by
        rw [zpow_add₀ (by norm_num), ← mul_assoc]
        rfl
  have few : (d.digits : ℚ) < (2 * 10 ^ 18 : Nat) := by
    refine (lt_of_mul_lt_mul_right double unit.le).trans_eq ?_
    norm_num
  have := Nat.cast_lt.mp few
  omega
end

end DocExpr.Number
