import DocExpr.Proofs.Lexer.Document
import DocExpr.Proofs.Number.DecimalLiteral
import DocExpr.Proofs.Number.Shortest

/-! The text of a finite number is read back as that number. A written decimal has one of three
forms; in each of them the digits and the exponent that are read make the decimal that was written,
and that decimal lies in the interval of the double. -/
namespace DocExpr.Number

theorem natOfDigits_append_zeros (cs : List Char) (k : Nat) :
    natOfDigits (cs ++ List.replicate k '0') = 10 ^ k * natOfDigits cs := by
  change Nat.ofDigitChars 10 (cs ++ List.replicate k '0') 0 = _
  rw [Nat.ofDigitChars_append, Nat.ofDigitChars_replicate_zero]
  rfl

theorem natOfDigits_zeros_append (cs : List Char) (k : Nat) :
    natOfDigits (List.replicate k '0' ++ cs) = natOfDigits cs := by
  change Nat.ofDigitChars 10 (List.replicate k '0' ++ cs) 0 = _
  rw [Nat.ofDigitChars_append, Nat.ofDigitChars_replicate_zero, Nat.mul_zero]
  rfl

theorem scale_exponentMark (k : Int) : Scale (exponentMark k) k := by
  have digits := digits_digitChars k.natAbs
  have value := natOfDigits_digitChars k.natAbs
  by_cases down : k < 0
  · have scale := Scale.mark (.inl rfl : 'e' = 'e' ∨ 'e' = 'E') .minus digits
    rw [value, if_pos rfl, ← Int.eq_neg_natAbs_of_nonpos down.le] at scale
    rwa [exponentMark, if_pos down]
  · have scale := Scale.mark (.inl rfl : 'e' = 'e' ∨ 'e' = 'E') .plus digits
    rw [value, if_neg Bool.false_ne_true, Int.natAbs_of_nonneg (Int.not_lt.mp down)] at scale
    rwa [exponentMark, if_neg down]

section
variable {whole fraction exponent : List Char} {k : Int} (digits : Digits whole)
  (point : Fraction fraction)
include digits point

/-- A numeral without its sign falls into its parts. -/
theorem spanPoint_front (mark : Exponent exponent) :
    spanPoint (whole ++ (fraction ++ exponent)) = (whole, fraction.drop 1, exponent) := by
  obtain ⟨ends, noPoint⟩ := Json.exponent_ends mark .nil
  rw [List.append_nil] at ends noPoint
  cases point with
  | none => exact spanPoint_plain digits.all ends noPoint
  | point behind =>
    rw [List.cons_append, spanPoint_point digits.all, Json.spanDigits_digits behind.all ends]
    rfl

theorem pointed_front :
    Pointed (whole ++ fraction) (whole ++ fraction.drop 1) (fraction.drop 1).length := by
  cases point with
  | none =>
    rw [List.drop_nil, List.append_nil]
    exact .whole digits
  | point behind => exact .point (digits.append behind.all)

/-- A numeral of this form without a sign is read as its digits say. -/
theorem ofNumeral?_numeral (scale : Scale exponent k) :
    ofNumeral? (whole ++ (fraction ++ exponent)) =
      some (ofDecimal (natOfDigits (whole ++ fraction.drop 1)) (k - (fraction.drop 1).length)) := by
  rw [← List.append_assoc]
  exact ofNumeral?_literal .none (pointed_front digits point) scale

end

/-- A text is read as a decimal of a certain value. -/
def ReadsAs (cs : List Char) (t : ℚ) : Prop :=
  ∃ n E, ofNumeral? cs = some (ofDecimal n E) ∧ (n * 10 ^ E : ℚ) = t

section
variable {digits : List Char} (isDigits : Digits digits)
include isDigits

theorem readsAs_whole (k : Nat) :
    ReadsAs (digits ++ List.replicate k '0') (natOfDigits digits * 10 ^ k) := by
  have read := ofNumeral?_numeral (isDigits.append (isDigit_zeros k)) .none .none
  rw [List.append_nil, List.append_nil, List.drop_nil, List.append_nil,
    natOfDigits_append_zeros] at read
  refine ⟨_, _, read, ?_⟩
  rw [List.length_nil, Nat.cast_zero, Int.sub_zero, zpow_zero, mul_one, mul_comm]
  push_cast
  rfl

/-- A point and a zero behind a whole number change nothing. -/
theorem readsAs_pointed (k : Nat) :
    ReadsAs (digits ++ List.replicate k '0' ++ ['.', '0']) (natOfDigits digits * 10 ^ k) := by
  have point : Digits ['0'] := digits_digitChars 0
  have read := ofNumeral?_numeral (isDigits.append (isDigit_zeros k)) (.point point) .none
  have zeros : digits ++ List.replicate k '0' ++ ['0'] = digits ++ List.replicate (k + 1) '0' := by
    rw [List.append_assoc, List.replicate_succ']
  rw [List.append_nil, List.drop_one, List.tail_cons, zeros, natOfDigits_append_zeros] at read
  refine ⟨_, _, read, ?_⟩
  rw [List.length_singleton, zpow_sub₀ (by norm_num), pow_succ]
  push_cast
  ring

theorem readsAs_placePoint (places : Nat) :
    ReadsAs (placePoint digits places) (natOfDigits digits * 10 ^ (-places : Int)) := by
  by_cases some : places = 0
  · have read := readsAs_whole isDigits 0
    rw [List.replicate_zero, List.append_nil, pow_zero] at read
    rwa [placePoint, if_pos some, some, Nat.cast_zero, neg_zero, zpow_zero]
  · obtain ⟨front, back, written, digits', behind, count, both⟩ := placePoint_parts isDigits some
    have read := ofNumeral?_numeral digits' (.point behind) .none
    rw [List.append_nil, List.drop_one, List.tail_cons, both, natOfDigits_zeros_append, count,
      ← written, Int.zero_sub] at read
    exact ⟨_, _, read, rfl⟩

theorem readsAs_scientific (lead : Int) :
    ReadsAs (scientific digits lead)
      (natOfDigits digits * 10 ^ (lead - (digits.length - 1 : Nat) : Int)) := by
  obtain ⟨whole, fraction, written, first, point, count, both⟩ := scientific_parts isDigits lead
  have read := ofNumeral?_numeral first point (scale_exponentMark lead)
  rw [both, count, ← written] at read
  exact ⟨_, _, read, rfl⟩

end

theorem Decimal.readsAs_write (layout : Layout) (d : Decimal) :
    ReadsAs (d.write layout) d.value := by
  have digits := digits_digitChars d.digits
  have length := List.length_pos_iff.mpr digits.some
  have value : d.value = natOfDigits (digitChars d.digits) * 10 ^ d.exponent := by
    rw [Decimal.value, natOfDigits_digitChars]
  rw [value]
  unfold Decimal.write
  dsimp only
  split
  · split
    next up =>
      obtain ⟨k, exponent⟩ := Int.eq_ofNat_of_zero_le up
      rw [exponent, Int.toNat_natCast, zpow_natCast]
      split
      · exact readsAs_pointed digits k
      · rw [List.append_nil]
        exact readsAs_whole digits k
    next down =>
      obtain ⟨k, exponent⟩ : ∃ k : Nat, d.exponent = -k := ⟨d.exponent.natAbs, by omega⟩
      rw [exponent, Int.neg_neg, Int.toNat_natCast]
      exact readsAs_placePoint digits k
  · have read := readsAs_scientific digits (d.exponent + (digitChars d.digits).length - 1)
    have exponent : d.exponent + (digitChars d.digits).length - 1 -
        ((digitChars d.digits).length - 1 : Nat) = d.exponent := by omega
    rwa [exponent] at read

theorem read_of_readsAs {cs : List Char} {t : ℚ} {m : Nat} {e : Int} (reads : ReadsAs cs t)
    (canonical : Canonical m e) (pos : 0 < m) (rounds : RoundsTo t m e) :
    ∃ x, ofNumeral? cs = some x ∧ read x = .finite false m e := by
  obtain ⟨n, E, found, rfl⟩ := reads
  exact ⟨_, found, read_ofDecimal_of_roundsTo canonical pos rounds⟩

/-- The text of a finite number is read as that number; both zeros have the text of the positive
one. -/
theorem ofNumeral?_toText {x : Float} (finite : isFinite x = true) (other : x ≠ -0.0) :
    ofNumeral? (toText x).toList = some x := by
  unfold isFinite at finite
  split at finite
  next negative m e reading =>
    have canonical := canonical_of_read reading
    unfold toText
    rw [reading]
    dsimp only
    split
    next zero =>
      subst zero
      have least : e = -1074 := by
        have full := canonical.full
        omega
      subst least
      cases negative with
      | false => exact congrArg some (eq_of_read reading rfl).symm
      | true => exact absurd (eq_of_read reading rfl) other
    next some =>
      have pos := Nat.pos_of_ne_zero some
      have rounds := shortest_roundsTo canonical pos Layout.expression.tie
      have written := Decimal.readsAs_write .expression (shortest Layout.expression.tie m e)
      obtain ⟨y, found, reading'⟩ := read_of_readsAs written canonical pos rounds
      rw [String.toList_ofList]
      cases negative with
      | false =>
        cases eq_of_read reading reading'
        exact found
      | true =>
        have numeral := Decimal.numeral_write .expression (shortest Layout.expression.tie m e)
        obtain ⟨c, cs, front, digit⟩ := numeral.cons
        rw [front] at found ⊢
        cases eq_of_read reading (read_neg reading' pos)
        change ofNumeral? ('-' :: c :: cs) = _
        rw [Expr.ofNumeral?_minus digit, found]
        rfl
  next => cases finite

end DocExpr.Number
