import DocExpr.Proofs.Json.Reading
import DocExpr.Proofs.Number.RoundTrip

/-! The reader of documents on the texts of numbers. The digits that are printed fit into 64 bits, so
the reader scans the whole of each form of the text and keeps every digit; what is left is the
product of the digits and a power of ten, in double arithmetic, and for whole numbers of 64 bits
not even that. -/
namespace DocExpr.Json
open Float.Model (UnpackedFloat)
open DocExpr.Number (Decimal Digits Fraction Layout RoundsTo Scale digitChars exponentMark isDigit
  natOfDigits placePoint scientific)

theorem le_ofDigitChars (cs : List Char) (n : Nat) : n ≤ Nat.ofDigitChars 10 cs n := by
  rw [Nat.ofDigitChars_eq_ofDigitChars_zero]
  exact (Nat.le_mul_of_pos_left n (Nat.pow_pos (by decide))).trans (Nat.le_add_right _ _)

theorem natOfDigits_eq (cs : List Char) : natOfDigits cs = Nat.ofDigitChars 10 cs 0 := rfl

theorem natOfDigits_front_le (xs ys : List Char) : natOfDigits xs ≤ natOfDigits (xs ++ ys) := by
  rw [natOfDigits_eq (xs ++ ys), Nat.ofDigitChars_append]
  exact le_ofDigitChars ys _

/-- Digits are all taken where the number that they go on with stays below `2 ^ 64`. -/
theorem takeDigits_append {digits : List Char} (all : ∀ c ∈ digits, isDigit c = true)
    (more : List Char) {n : Nat} (count : Nat) (fits : Nat.ofDigitChars 10 digits n < 2 ^ 64) :
    takeDigits n count (digits ++ more) =
      takeDigits (Nat.ofDigitChars 10 digits n) (count + digits.length) more := by
  induction digits generalizing n count with
  | nil => rfl
  | cons c digits ih =>
    rw [Nat.ofDigitChars_cons] at fits ⊢
    have here : isDigit c = true ∧ 10 * n + Number.digitValue c < Nat.pow 2 64 :=
      ⟨all c List.mem_cons_self, (le_ofDigitChars digits _).trans_lt fits⟩
    have later := ih (fun c isIn => all c (List.mem_cons_of_mem _ isIn)) (count + 1) fits
    rw [List.cons_append, takeDigits, if_pos here, List.length_cons, Nat.add_comm digits.length,
      ← Nat.add_assoc]
    exact later

theorem takeDigits_whole {digits : List Char} (all : ∀ c ∈ digits, isDigit c = true) {n : Nat}
    (fits : Nat.ofDigitChars 10 digits n < 2 ^ 64) :
    takeDigits n 0 digits = (Nat.ofDigitChars 10 digits n, digits.length, []) := by
  have taken := takeDigits_append all [] 0 fits
  rwa [List.append_nil, Nat.zero_add] at taken

/-- A number with zeros appended while it stays below `2 ^ 64`, and how many zeros are left. -/
def fillZeros (n : Nat) : Nat → Nat × Nat
  | 0 => (n, 0)
  | k + 1 => if 10 * n < 2 ^ 64 then fillZeros (10 * n) k else (n, k + 1)

theorem fillZeros_value (n k : Nat) :
    (fillZeros n k).1 * 10 ^ (fillZeros n k).2 = n * 10 ^ k := by
  fun_induction fillZeros n k with
  | case1 => rfl
  | case2 n k fits ih =>
    rw [ih, Nat.pow_succ']
    ring
  | case3 => rfl

theorem takeDigits_zeros (n count k : Nat) :
    (takeDigits n count (List.replicate k '0')).1 = (fillZeros n k).1 ∧
      (takeDigits n count (List.replicate k '0')).2.2 =
        List.replicate (fillZeros n k).2 '0' := by
  induction k generalizing n count with
  | zero => exact ⟨rfl, rfl⟩
  | succ k ih =>
    have zero : 10 * n + Number.digitValue '0' = 10 * n := rfl
    rw [List.replicate_succ, takeDigits, zero, fillZeros]
    by_cases fits : 10 * n < 2 ^ 64
    · rw [if_pos ⟨rfl, fits⟩, if_pos fits]
      exact ih (10 * n) (count + 1)
    · rw [if_neg fun h => fits h.2, if_neg fits]
      exact ⟨rfl, rfl⟩

/-- An exponent that is not too large for the reader is added. -/
theorem finishExponent_scale {negative : Bool} {significand : Nat} {exponent k : Int}
    {cs : List Char} (scale : Scale cs k) (near : k.natAbs < 2 ^ 31) :
    finishExponent negative significand exponent cs =
      (ofParts negative significand (exponent + k)).map fun x => (x, []) := by
  cases scale with
  | none => rw [finishExponent_plain (noMark_of_stops .nil), Int.add_zero]
  | @mark mark sign digits down isMark isSign behind =>
    have span := spanDigits_digits behind.all (noDigit_of_stops .nil)
    have signed := isSign.span (behind.noSign [])
    rw [List.append_nil] at span signed
    have near : natOfDigits digits < 2 ^ 31 := by
      cases down
      · exact near
      · exact (Int.natAbs_neg _).symm.trans_lt near
    rw [finishExponent, if_pos isMark, signed]
    dsimp only
    rw [span]
    obtain ⟨d, more, rfl, -⟩ := behind.cons
    have added : (if down = true then exponent - natOfDigits (d :: more)
        else exponent + natOfDigits (d :: more)) = exponent +
          if down = true then -(natOfDigits (d :: more) : Int) else natOfDigits (d :: more) := by
      cases down <;> rfl
    dsimp only
    rw [Nat.pow_eq, if_pos near, added]
    exact bind_pure_comp ..

section
variable {whole fraction exponent : List Char} {k : Int} (digits : Digits whole)
  (point : Fraction fraction) (scale : Scale exponent k) (near : k.natAbs < 2 ^ 31)
  (fits : natOfDigits (whole ++ fraction.drop 1) < 2 ^ 64)
include digits point scale near fits

/-- The digits on both sides of the point are the significand, and those behind it lower the
exponent. -/
theorem body_numeral (negative : Bool) (noInteger : fraction ≠ [] ∨ exponent ≠ []) :
    unsigned.body negative (whole ++ (fraction ++ exponent)) =
      (ofParts negative (natOfDigits (whole ++ fraction.drop 1))
        (k - (fraction.drop 1).length)).map fun x => (x, []) := by
  obtain ⟨ends, noPoint⟩ := exponent_ends scale.exponent .nil
  rw [List.append_nil] at ends noPoint
  have front := takeDigits_whole digits.all ((natOfDigits_front_le _ _).trans_lt fits)
  cases point with
  | none =>
    have marked : ∃ c ∈ exponent.head?, c = 'e' ∨ c = 'E' := by
      cases scale with
      | none => simp at noInteger
      | mark isMark => exact ⟨_, rfl, isMark⟩
    rw [List.nil_append, body_exponent digits.all ends noPoint (.inr marked), front,
      finishExponent_scale scale near]
    simp [natOfDigits_eq]
  | point behind =>
    rw [List.drop_one, List.tail_cons, natOfDigits_eq, Nat.ofDigitChars_append] at fits
    have back := takeDigits_whole behind.all fits
    rw [List.cons_append, body_point digits.all, front, finishFraction_digits behind ends, back,
      finishExponent_scale scale near]
    simp [natOfDigits_eq, Nat.ofDigitChars_append, Int.add_comm, Int.sub_eq_add_neg]

end

section
variable {digits : List Char} (isDigits : Digits digits) (fits : natOfDigits digits < 2 ^ 64)
  (negative : Bool)
include isDigits fits

/-- A whole number in place: exact if it fits, else as many of its zeros as fit are digits. -/
theorem body_zeros (k : Nat) :
    unsigned.body negative (digits ++ List.replicate k '0') =
      if (fillZeros (natOfDigits digits) k).2 = 0 then
        some (ofInteger negative (natOfDigits digits * 10 ^ k), [])
      else (ofParts negative (fillZeros (natOfDigits digits) k).1
        (fillZeros (natOfDigits digits) k).2).map fun x => (x, []) := by
  have all := (isDigits.append (Number.isDigit_zeros k)).all
  have value := fillZeros_value (natOfDigits digits) k
  obtain ⟨number, left⟩ := takeDigits_zeros (natOfDigits digits) (0 + digits.length) k
  rw [natOfDigits_eq, ← takeDigits_append isDigits.all (List.replicate k '0') 0 fits,
    ← natOfDigits_eq] at number left
  generalize fillZeros (natOfDigits digits) k = filled at value number left ⊢
  rw [← List.append_nil (digits ++ List.replicate k '0')]
  split
  next whole =>
    rw [whole] at left value
    rw [Nat.pow_zero, Nat.mul_one] at value
    rw [body_integer all (noDigit_of_stops .nil) (exponent_ends .none .nil).2
      (noMark_of_stops .nil) left, number, value]
  next rest =>
    have some : (takeDigits 0 0 (digits ++ List.replicate k '0')).2.2 ≠ [] := by
      rw [left]
      simpa using rest
    rw [body_exponent all (noDigit_of_stops .nil) (exponent_ends .none .nil).2 (.inl some),
      finishExponent_plain (noMark_of_stops .nil), number, left, List.length_replicate]

theorem body_placePoint {places : Nat} (some : places ≠ 0) :
    unsigned.body negative (placePoint digits places) =
      (ofParts negative (natOfDigits digits) (-places)).map fun x => (x, []) := by
  obtain ⟨front, back, written, isFront, isBack, count, both⟩ :=
    Number.placePoint_parts isDigits some
  have value : natOfDigits (front ++ back) = natOfDigits digits := by
    rw [both, Number.natOfDigits_zeros_append]
  have read := body_numeral isFront (.point isBack) .none (by decide) (value.trans_lt fits)
    negative (.inl (List.cons_ne_nil _ _))
  rwa [List.append_nil, ← written, List.drop_one, List.tail_cons, value, count,
    Int.zero_sub] at read

theorem body_scientific {lead : Int} (near : lead.natAbs < 2 ^ 31) :
    unsigned.body negative (scientific digits lead) =
      (ofParts negative (natOfDigits digits) (lead - (digits.length - 1 : Nat))).map
        fun x => (x, []) := by
  obtain ⟨whole, fraction, written, first, point, count, both⟩ :=
    Number.scientific_parts isDigits lead
  have read := body_numeral first point (Number.scale_exponentMark lead) near (by rwa [both])
    negative (.inr (List.cons_ne_nil _ _))
  rwa [both, count, ← written] at read

end

theorem starts_of_ne_zero {c : Char} (digit : isDigit c = true) (other : c ≠ '0')
    (cs : List Char) : Starts (c :: cs) := by
  refine ⟨⟨c, rfl, digit⟩, ?_⟩
  rintro more ⟨⟩
  exact absurd rfl other

theorem starts_of_digits {digits : List Char} (isDigits : Digits digits)
    (first : '0' ∉ digits.head?) (rest : List Char) : Starts (digits ++ rest) := by
  obtain ⟨c, more, rfl, digit⟩ := isDigits.cons
  refine starts_of_ne_zero digit ?_ _
  rintro rfl
  exact first rfl

section
variable {digits : List Char} (isDigits : Digits digits) (first : '0' ∉ digits.head?)
include isDigits first

/-- Zeros are put in front of a point only where it would have no digit in front. -/
theorem starts_placePoint {places : Nat} (some : places ≠ 0) :
    Starts (placePoint digits places) := by
  obtain ⟨front, back, written, isFront, isBack, count, both⟩ :=
    Number.placePoint_parts isDigits some
  have lengths := congrArg List.length both
  rw [List.length_append, List.length_append, List.length_replicate, count] at lengths
  obtain ⟨c, more, rfl, digit⟩ := isFront.cons
  rw [written]
  by_cases few : digits.length ≤ places
  · have single : more = [] := by
      rw [← List.length_eq_zero_iff]
      rw [List.length_cons] at lengths
      omega
    subst single
    refine ⟨⟨c, rfl, digit⟩, ?_⟩
    rintro _ ⟨⟩ _ ⟨⟩
    rfl
  · have none : places + 1 - digits.length = 0 := by omega
    rw [none, List.replicate_zero, List.nil_append] at both
    refine starts_of_digits isFront ?_ _
    rwa [← both] at first

theorem starts_scientific (lead : Int) : Starts (scientific digits lead) := by
  obtain ⟨whole, fraction, written, isWhole, -, -, both⟩ := Number.scientific_parts isDigits lead
  obtain ⟨c, more, rfl, digit⟩ := isWhole.cons
  rw [written]
  refine starts_of_digits isWhole ?_ _
  rwa [← both] at first

end

/-- The significand and the power of ten that are multiplied to read the text of a decimal, unless
it is an integer of 64 bits. A whole number in place has as many of its zeros in the significand
as fit. -/
def scaling? (d : Decimal) : Option (Nat × Int) :=
  if 0 ≤ d.exponent ∧ d.exponent + (digitChars d.digits).length - 1 ≤ Layout.expression.greatest then
    let filled := fillZeros d.digits d.exponent.toNat
    if filled.2 = 0 then none else some (filled.1, filled.2)
  else some (d.digits, d.exponent)

/-- What the reader makes of the text of a decimal. -/
def scaled? (negative : Bool) (d : Decimal) : Option Json.Numeral :=
  match scaling? d with
  | none => some (ofInteger negative (d.digits * 10 ^ d.exponent.toNat))
  | some (n, k) => ofParts negative n k

theorem scaled?_scaling {d : Decimal} {n : Nat} {k : Int} (scaling : scaling? d = some (n, k))
    (negative : Bool) : scaled? negative d = ofParts negative n k := by
  rw [scaled?, scaling]

theorem scaling?_whole {d : Decimal} (up : 0 ≤ d.exponent)
    (inPlace : d.exponent + (digitChars d.digits).length - 1 ≤ Layout.expression.greatest)
    (negative : Bool) :
    scaled? negative d =
      if (fillZeros d.digits d.exponent.toNat).2 = 0 then
        some (ofInteger negative (d.digits * 10 ^ d.exponent.toNat))
      else ofParts negative (fillZeros d.digits d.exponent.toNat).1
        (fillZeros d.digits d.exponent.toNat).2 := by
  unfold scaled? scaling?
  rw [if_pos ⟨up, inPlace⟩]
  dsimp only
  by_cases whole : (fillZeros d.digits d.exponent.toNat).2 = 0
  · rw [if_pos whole, if_pos whole]
  · rw [if_neg whole, if_neg whole]

theorem unsigned_write {d : Decimal} (some : 0 < d.digits) (fits : d.digits < 2 ^ 64)
    (near : (d.exponent + (digitChars d.digits).length - 1).natAbs < 2 ^ 31) (negative : Bool) :
    unsigned negative (d.write .expression) = (scaled? negative d).map fun x => (x, []) := by
  have digits := Number.digits_digitChars d.digits
  have first := Number.head?_digitChars some
  have number := Number.natOfDigits_digitChars d.digits
  have length := List.length_pos_iff.mpr digits.some
  rw [← number] at fits
  unfold Decimal.write
  dsimp only
  split
  next inPlace =>
    split
    next up =>
      rw [if_neg (by decide), List.append_nil, unsigned_eq_body (starts_of_digits digits first _),
        body_zeros digits fits, number, scaling?_whole up inPlace.2]
      split <;> rfl
    next down =>
      obtain ⟨places, exponent⟩ : ∃ places : Nat, d.exponent = -places :=
        ⟨d.exponent.natAbs, by omega⟩
      have point : places ≠ 0 := by omega
      have scaling : scaling? d = .some (d.digits, d.exponent) := if_neg fun h => down h.1
      rw [scaled?_scaling scaling, exponent, Int.neg_neg, Int.toNat_natCast,
        unsigned_eq_body (starts_placePoint digits first point), body_placePoint digits fits _ point,
        number]
  next outside =>
    have scaling : scaling? d = .some (d.digits, d.exponent) := by
      refine if_neg fun h => outside ⟨?_, h.2⟩
      change -6 ≤ _
      omega
    have exponent : d.exponent + (digitChars d.digits).length - 1 -
        ((digitChars d.digits).length - 1 : Nat) = d.exponent := by omega
    rw [scaled?_scaling scaling, unsigned_eq_body (starts_scientific digits first _),
      body_scientific digits fits _ near, exponent, number]

/-- The arithmetic of the reader undoes the printer at this number: the product of the digits that
are printed and their power of ten is the number again. Integers of 64 bits need no arithmetic. -/
def Restores (x : Float) : Prop :=
  ∀ negative m e, Number.read x = .finite negative m e → m ≠ 0 →
    ∀ n k, scaling? (Number.shortest Layout.expression.tie m e) = some (n, k) →
      ofParts negative n k = some (.float x)

theorem toFloat_ofInteger (negative : Bool) (n : Nat) :
    (ofInteger negative n).toFloat = if negative then -(Float.ofNat n) else Float.ofNat n := by
  unfold ofInteger
  cases negative with
  | false => rfl
  | true =>
    rw [if_neg (by decide), if_pos rfl]
    split <;> rfl

section
variable {x : Float} {negative : Bool} {m : Nat} {e : Int}
  (reading : Number.read x = .finite negative m e) (pos : 0 < m)
include reading pos

/-- An integer that is read is rounded to the nearest double. -/
theorem ofInteger_of_roundsTo {n : Nat} (some : 0 < n) (rounds : RoundsTo n m e) :
    (ofInteger negative n).toFloat = x := by
  have magnitude :=
    Number.read_ofNat_of_roundsTo (Number.canonical_of_read reading) pos some rounds
  rw [toFloat_ofInteger]
  cases negative with
  | false => exact Number.eq_of_read magnitude reading
  | true => exact Number.eq_of_read (Number.read_neg magnitude pos) reading

theorem scaled?_shortest (restores : Restores x) :
    ∃ n, scaled? negative (Number.shortest Layout.expression.tie m e) = some n ∧
      n.toFloat = x := by
  have canonical := Number.canonical_of_read reading
  have rounds := Number.shortest_roundsTo canonical pos Layout.expression.tie
  have restored := restores negative m e reading (Nat.pos_iff_ne_zero.mp pos)
  generalize Number.shortest Layout.expression.tie m e = d at rounds restored ⊢
  cases scaling : scaling? d with
  | none =>
    have up : 0 ≤ d.exponent := by
      by_contra down
      have := scaling.symm.trans (if_neg fun h => down h.1)
      cases this
    obtain ⟨k, exponent⟩ := Int.eq_ofNat_of_zero_le up
    have whole : d.value = (d.digits * 10 ^ k : Nat) := by
      rw [Decimal.value, exponent, zpow_natCast]
      push_cast
      rfl
    have power : 0 < 10 ^ k := Nat.pow_pos (by decide)
    have digits := Nat.mul_pos (rounds.digits_pos canonical pos) power
    rw [whole] at rounds
    refine ⟨_, by rw [scaled?, scaling], ?_⟩
    rw [exponent, Int.toNat_natCast]
    exact ofInteger_of_roundsTo reading pos digits rounds
  | some parts => exact ⟨_, scaled?_scaling scaling negative ▸ restored _ _ scaling, rfl⟩

/-- The text of a number is read as that number. -/
theorem unsigned_shortest (restores : Restores x) :
    ∃ n, unsigned negative ((Number.shortest Layout.expression.tie m e).write .expression) =
      some (n, []) ∧ n.toFloat = x := by
  have canonical := Number.canonical_of_read reading
  have rounds := Number.shortest_roundsTo canonical pos Layout.expression.tie
  have fits := Number.shortest_digits_lt canonical pos Layout.expression.tie
  have digits := rounds.digits_pos canonical pos
  have bounds := rounds.length_bounds canonical pos digits
  have near : ((Number.shortest Layout.expression.tie m e).exponent +
      (digitChars (Number.shortest Layout.expression.tie m e).digits).length - 1).natAbs <
        2 ^ 31 := by
    unfold digitChars
    omega
  obtain ⟨n, found, same⟩ := scaled?_shortest reading pos restores
  exact ⟨n, by rw [unsigned_write digits fits near, found]; rfl, same⟩

end

theorem unpack_power {k : Nat} (listed : k < 23) :
    ∃ (p : Nat) (q : Int) (pos : 0 < p),
      (Float.ofScientific 1 false k).toModel.unpack = .finite .positive p q pos ∧
        (p * 2 ^ q : ℚ) = 10 ^ k := by
  obtain ⟨p, q, pos, canonical, -, value⟩ := Number.unpack_powerOfTen listed
  have rounds : RoundsTo ((1 : Nat) * 10 ^ (k : Int)) p q := by
    rw [Nat.cast_one, one_mul, zpow_natCast, ← value]
    exact Number.roundsTo_self p q
  have packed := Number.ofScientific_of_roundsTo canonical pos Nat.one_pos rounds
  rw [decide_eq_false (by omega), Int.natAbs_natCast] at packed
  refine ⟨p, q, pos, ?_, value⟩
  rw [packed]
  exact @Number.unpack_pack false _ _ canonical pos

/-- A product or quotient of a number and a power of ten that have doubles of their own is rounded
once. -/
theorem scaleBy_short {n m : Nat} {k e : Int} (some : 0 < n) (small : n < 2 ^ 53)
    (listed : k.natAbs < 23) (canonical : Number.Canonical m e) (pos : 0 < m)
    (rounds : RoundsTo (n * 10 ^ k) m e) (fuel : Nat) :
    ∃ y, scaleBy fuel (Float.ofNat n) k = .some y ∧ Number.read y = .finite false m e := by
  obtain ⟨p, q, posPower, power, exact_⟩ := unpack_power listed
  have filled : 0 < n * 2 ^ (52 - n.log2) := Nat.mul_pos some (Nat.two_pow_pos _)
  have digits : (Float.ofNat n).toModel.unpack = .finite .positive _ _ filled :=
    Number.unpack_of_read (Number.read_ofScientific some small) filled
  have value := Number.shifted_value n (52 - n.log2)
  have reading : Number.read ⟨.pack (.finite .positive m e pos)⟩ = .finite false m e :=
    @Number.read_pack false _ _ canonical pos
  have few : k.natAbs ≤ 308 := by omega
  unfold scaleBy
  rw [if_pos few]
  dsimp only
  by_cases up : 0 ≤ k
  · have scaled : (n * 10 ^ k : ℚ) = n * 10 ^ k.natAbs := by
      conv_lhs => rw [← Int.natAbs_of_nonneg up, zpow_natCast]
    rw [scaled, ← value, ← exact_] at rounds
    have long : 2 ^ 52 ≤ n * 2 ^ (52 - n.log2) * p :=
      (Number.fits_whole some small).low.trans (Nat.le_mul_of_pos_right _ posPower)
    have product : Float.ofNat n * Float.ofScientific 1 false k.natAbs =
        ⟨.pack (.finite .positive m e pos)⟩ := by
      change (⟨.pack (UnpackedFloat.mul .binary64 (Float.ofNat n).toModel.unpack
        (Float.ofScientific 1 false k.natAbs).toModel.unpack)⟩ : Float) = _
      rw [digits, power, Number.mul_of_roundsTo filled posPower canonical pos long rounds]
    have finite : Number.isInfinite (⟨.pack (.finite .positive m e pos)⟩ : Float) = false := by
      unfold Number.isInfinite
      rw [reading]
    rw [if_pos up, product, finite]
    exact ⟨_, rfl, reading⟩
  · have scaled : (n * 10 ^ k : ℚ) = n / 10 ^ k.natAbs := by
      have power : k = -(k.natAbs : Int) := by omega
      conv_lhs => rw [power, zpow_neg, zpow_natCast, ← div_eq_mul_inv]
    rw [scaled, ← value, ← exact_] at rounds
    have quotient : Float.ofNat n / Float.ofScientific 1 false k.natAbs =
        ⟨.pack (.finite .positive m e pos)⟩ := by
      change (⟨.pack (UnpackedFloat.div .binary64 (Float.ofNat n).toModel.unpack
        (Float.ofScientific 1 false k.natAbs).toModel.unpack)⟩ : Float) = _
      rw [digits, power, Number.div_of_roundsTo filled posPower canonical pos rounds]
    rw [if_neg up, quotient]
    exact ⟨_, rfl, reading⟩

theorem scaling?_value {d : Decimal} {n : Nat} {k : Int} (scaling : scaling? d = some (n, k)) :
    (n * 10 ^ k : ℚ) = d.value := by
  unfold scaling? at scaling
  split at scaling
  next whole =>
    dsimp only at scaling
    split at scaling
    · cases scaling
    · cases scaling
      obtain ⟨zeros, exponent⟩ := Int.eq_ofNat_of_zero_le whole.1
      have value := fillZeros_value d.digits zeros
      rw [Decimal.value, exponent, Int.toNat_natCast, zpow_natCast, zpow_natCast]
      exact_mod_cast value
  next =>
    cases scaling
    rfl

/-- Numbers that are written with few digits and a small power of ten are restored. -/
theorem restores_of_few {x : Float}
    (few : ∀ negative m e, Number.read x = .finite negative m e →
      ∀ n k, scaling? (Number.shortest Layout.expression.tie m e) = some (n, k) →
        n < 2 ^ 53 ∧ k.natAbs ≤ 22) : Restores x := by
  intro negative m e reading nonzero n k scaling
  obtain ⟨small, listed⟩ := few negative m e reading n k scaling
  have pos := Nat.pos_of_ne_zero nonzero
  have canonical := Number.canonical_of_read reading
  have rounds := Number.shortest_roundsTo canonical pos Layout.expression.tie
  rw [← scaling?_value scaling] at rounds
  obtain ⟨y, scaled, magnitude⟩ := scaleBy_short (rounds.digits_pos canonical pos) small
    (Nat.lt_succ_of_le listed) canonical pos rounds 3
  have signed : (if negative then -y else y) = x := by
    cases negative with
    | false => exact Number.eq_of_read magnitude reading
    | true => exact Number.eq_of_read (Number.read_neg magnitude pos) reading
  rw [ofParts, scaled, ← signed]
  rfl

end DocExpr.Json
