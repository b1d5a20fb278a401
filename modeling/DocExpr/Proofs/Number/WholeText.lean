import DocExpr.Proofs.Value.Readers

/-! The text of a whole number below `2 ^ 53`. The grid of whole numbers has a candidate, so the
search for the fewest digits ends on it or on a coarser one, and no other whole number is near
enough: what is written are the digits of the number, without a point and without an exponent. -/
namespace DocExpr.Number

theorem exponent_strip (fuel : Nat) (d : Decimal) : d.exponent ≤ (d.strip fuel).exponent := by
  induction fuel generalizing d with
  | zero => exact Int.le_refl _
  | succ fuel ih =>
    rw [Decimal.strip]
    split
    next => exact Int.le_trans (Int.le_add_one (Int.le_refl _)) (ih _)
    next => exact Int.le_refl _

theorem quarter_whole (k : Nat) : quarter (-k) 0 = ⟨1, 4 * 2 ^ k⟩ := by
  have places : (-(-(k : Int) - 2)).toNat = k + 2 := by omega
  have denominator : Nat.pow 2 (k + 2) * 1 = 4 * 2 ^ k := by
    rw [Nat.pow_eq, Nat.pow_add]
    omega
  rw [quarter, Ratio.ofDyadic, if_neg (by omega), places]
  exact congrArg (Ratio.mk 1) denominator

/-- On the grid of whole numbers a whole number is found. -/
theorem onGrid?_whole (tie : Tie) (n k : Nat) : onGrid? tie (n * 2 ^ k) (-k) 0 ≠ none := by
  have unit : 0 < 4 * 2 ^ k := Nat.mul_pos (by decide) (Nat.two_pow_pos k)
  have value : 4 * (n * 2 ^ k) = n * (4 * 2 ^ k) := Nat.mul_left_comm 4 n (2 ^ k)
  have inside : insideGrid (n * 2 ^ k) (-k) 0 n = true := by
    unfold insideGrid
    rw [quarter_whole]
    dsimp only
    rw [← value]
    split
    next =>
      rw [Bool.and_eq_true, decide_eq_true_eq, decide_eq_true_eq]
      omega
    next odd =>
      have some : n * 2 ^ k ≠ 0 := fun none => odd (by rw [none])
      rw [Bool.and_eq_true, decide_eq_true_eq, decide_eq_true_eq]
      split <;> omega
  rw [onGrid?_eq]
  dsimp only
  rw [quarter_whole]
  dsimp only
  rw [Nat.mul_one, value, Nat.mul_div_cancel n unit, inside]
  cases insideGrid (n * 2 ^ k) (-k) 0 (n + 1)
  · exact Option.some_ne_none _
  · exact Option.some_ne_none _

/-- From a grid of whole numbers on the search does not come to fractions. -/
theorem searchGrid_whole (tie : Tie) (n k : Nat) {fuel grid : Nat} (enough : grid < fuel) :
    0 ≤ (searchGrid tie (n * 2 ^ k) (-k) fuel grid).exponent := by
  induction fuel generalizing grid with
  | zero => exact absurd enough (Nat.not_lt_zero grid)
  | succ fuel ih =>
    rw [searchGrid]
    split
    next => exact Int.natCast_nonneg grid
    next none =>
      cases grid with
      | zero => exact absurd none (onGrid?_whole tie n k)
      | succ grid =>
        have finer : ((grid + 1 : Nat) : Int) - 1 = grid := by omega
        rw [finer]
        exact ih (Nat.lt_of_succ_lt_succ enough)

theorem mul_zpow_whole (n k : Nat) : ((n * 2 ^ k : Nat) : ℚ) * 2 ^ (-(k : Int)) = n := by
  rw [zpow_neg, zpow_natCast, Nat.cast_mul, Nat.cast_pow, Nat.cast_ofNat,
    mul_inv_cancel_right₀ (pow_ne_zero k two_ne_zero)]

/-- No other whole number rounds to a whole number. -/
theorem RoundsTo.eq_whole {t n k : Nat} (rounds : RoundsTo t (n * 2 ^ k) (-k)) : t = n := by
  have unit := two_zpow_pos (-(k : Int))
  have fine : (2 : ℚ) ^ (-(k : Int)) ≤ 1 := zpow_le_one_of_nonpos₀ one_le_two (by omega)
  have low := rounds.low
  have high := rounds.high
  rw [sub_mul, mul_zpow_whole] at low
  rw [add_mul, mul_zpow_whole] at high
  have below : (n : ℚ) < (t + 1 : Nat) := by
    push_cast
    split at low <;> linarith
  have above : (t : ℚ) < (n + 1 : Nat) := by
    push_cast
    linarith
  have := Nat.cast_lt.mp below
  have := Nat.cast_lt.mp above
  omega

section
variable {n k : Nat} (canonical : Canonical (n * 2 ^ k) (-k)) (some : 0 < n) (small : n < 2 ^ 53)
include canonical some small

theorem leadingExponent_whole :
    0 ≤ leadingExponent (n * 2 ^ k) (-k) ∧ leadingExponent (n * 2 ^ k) (-k) < 16 := by
  have filled : 0 < n * 2 ^ k := Nat.mul_pos some (Nat.two_pow_pos k)
  have low := leadingExponent_le canonical filled
  have high := lt_leadingExponent canonical filled
  rw [mul_zpow_whole] at low high
  have least : (10 : ℚ) ^ (0 : Int) ≤ n := by
    rw [zpow_zero]
    exact_mod_cast some
  have most : (n : ℚ) < 10 ^ (16 : Int) := by
    have : (n : ℚ) < (2 ^ 53 : Nat) := Nat.cast_lt.mpr small
    norm_num at this ⊢
    linarith
  have above := (zpow_lt_zpow_iff_right₀ (by norm_num : (1 : ℚ) < 10)).mp (least.trans_lt high)
  have below := (zpow_lt_zpow_iff_right₀ (by norm_num : (1 : ℚ) < 10)).mp (low.trans_lt most)
  omega

/-- The fewest digits of a whole number are the number, perhaps without zeros at its end. -/
theorem shortest_whole (tie : Tie) :
    ∃ d j : Nat, shortest tie (n * 2 ^ k) (-k) = ⟨d, j⟩ ∧ d * 10 ^ j = n := by
  obtain ⟨least, most⟩ := leadingExponent_whole canonical some small
  obtain ⟨lead, leads⟩ := Int.eq_ofNat_of_zero_le least
  have rounds := shortest_roundsTo canonical (Nat.mul_pos some (Nat.two_pow_pos k)) tie
  have whole : 0 ≤ (shortest tie (n * 2 ^ k) (-k)).exponent := by
    rw [shortest, leads]
    exact (searchGrid_whole tie n k (by omega)).trans (exponent_strip 20 _)
  generalize shortest tie (n * 2 ^ k) (-k) = d at rounds whole ⊢
  obtain ⟨digits, exponent⟩ := d
  obtain ⟨j, rfl⟩ := Int.eq_ofNat_of_zero_le whole
  refine ⟨digits, j, rfl, RoundsTo.eq_whole (k := k) ?_⟩
  rw [Decimal.value, zpow_natCast] at rounds
  exact_mod_cast rounds

end

theorem digitChars_mul_pow {d : Nat} (some : 0 < d) (j : Nat) :
    digitChars (d * 10 ^ j) = digitChars d ++ List.replicate j '0' := by
  induction j with
  | zero => rw [Nat.pow_zero, Nat.mul_one, List.replicate_zero, List.append_nil]
  | succ j ih =>
    have large : 10 ≤ d * 10 ^ j * 10 :=
      Nat.le_mul_of_pos_left 10 (Nat.mul_pos some (Nat.pow_pos (by decide)))
    rw [Nat.pow_succ, ← Nat.mul_assoc, digitChars, Nat.toDigits_of_base_le (by decide) large,
      Nat.mul_div_cancel _ (by decide), Nat.mul_mod_left, ← digitChars, ih, List.append_assoc,
      List.replicate_succ']
    rfl

/-- A whole number of at most twenty-one digits is written in place. -/
theorem write_whole {d j : Nat} (some : 0 < d) (short : (digitChars (d * 10 ^ j)).length ≤ 21) :
    (Decimal.mk d j).write .expression = digitChars (d * 10 ^ j) := by
  have filled := List.length_pos_iff.mpr (digits_digitChars d).some
  rw [digitChars_mul_pow some] at short ⊢
  rw [List.length_append, List.length_replicate] at short
  have place : Layout.expression.least ≤ (j : Int) + (digitChars d).length - 1 ∧
      (j : Int) + (digitChars d).length - 1 ≤ Layout.expression.greatest := by
    change (-6 : Int) ≤ _ ∧ _ ≤ (20 : Int)
    omega
  have plain : Layout.expression.pointOnWhole ≠ true := by decide
  unfold Decimal.write
  dsimp only
  rw [if_pos place, if_pos (Int.natCast_nonneg j), Int.toNat_natCast, if_neg plain, List.append_nil]

/-- A double that stands for an integer is written as the integer. -/
theorem Counts.toText {x : Float} {i : Int} (counts : Counts x i) : toText x = intText i := by
  obtain ⟨small, negative, m, k, reading, rfl, sign⟩ := counts
  by_cases none : i = 0
  · subst none
    rw [Int.natAbs_zero, Nat.zero_mul] at reading
    rw [Number.toText, reading]
    rfl
  · have some : 0 < i.natAbs := Int.natAbs_pos.mpr none
    have filled : 0 < i.natAbs * 2 ^ k := Nat.mul_pos some (Nat.two_pow_pos k)
    obtain ⟨d, j, found, value⟩ := shortest_whole (canonical_of_read reading) some small
      Layout.expression.tie
    have short : (digitChars (d * 10 ^ j)).length ≤ 21 := by
      rw [value]
      exact (Nat.length_toDigits_le_iff (by decide) (by decide)).mpr (by omega)
    have digit : 0 < d := Nat.pos_of_ne_zero fun zero => by
      rw [zero, Nat.zero_mul] at value
      omega
    have negative_iff : negative = decide (i < 0) := by
      cases negative with
      | true =>
        rw [if_pos rfl] at sign
        exact (decide_eq_true (by omega : i < 0)).symm
      | false =>
        rw [if_neg Bool.false_ne_true] at sign
        exact (decide_eq_false (by omega : ¬ i < 0)).symm
    rw [toText_of_read reading filled, found, write_whole digit short, value, intText,
      negative_iff, signed]
    simp only [decide_eq_true_eq]

end DocExpr.Number
