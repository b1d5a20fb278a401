import DocExpr.Library.Number
import DocExpr.Proofs.Number.Halfway
import DocExpr.Proofs.Number.NearestDecimal
import DocExpr.Proofs.Number.RoundTrip
import DocExpr.Proofs.Value.Order

/-! Numbers written with a chosen number of digits. The digits make the nearest decimal that has so
many of them. Behind the point halfway goes up: twenty-five more digits tell the middle from every
other double, and where they do one is added in the last place. Significant digits are rounded at
once, and halfway goes to the even digit. -/
namespace DocExpr.Number

theorem natOfDigits_append (xs ys : List Char) :
    natOfDigits (xs ++ ys) = 10 ^ ys.length * natOfDigits xs + natOfDigits ys := by
  change Nat.ofDigitChars 10 (xs ++ ys) 0 = _
  rw [Nat.ofDigitChars_append, Nat.ofDigitChars_eq_ofDigitChars_zero]
  rfl

/-- The last digits are what is left by a power of ten. -/
theorem natOfDigits_div_mod (xs : List Char) {ys : List Char}
    (digits : ∀ c ∈ ys, isDigit c = true) :
    natOfDigits (xs ++ ys) / 10 ^ ys.length = natOfDigits xs ∧
      natOfDigits (xs ++ ys) % 10 ^ ys.length = natOfDigits ys := by
  refine (Nat.div_mod_unique (Nat.pow_pos (by decide))).mpr ⟨?_, natOfDigits_lt digits⟩
  rw [natOfDigits_append, Nat.add_comm]

theorem natOfDigits_zeros (k : Nat) : natOfDigits (List.replicate k '0') = 0 := by
  have zeros := natOfDigits_zeros_append [] k
  rwa [List.append_nil] at zeros

theorem natOfDigits_singleton (c : Char) : natOfDigits [c] = digitValue c := by
  simp [natOfDigits]

theorem zero_le_digit {c : Char} (digit : isDigit c = true) : '0'.toNat ≤ c.toNat := by
  simp only [isDigit, Bool.and_eq_true, decide_eq_true_eq, Char.le_def, UInt32.le_iff_toNat_le]
    at digit
  exact digit.1

theorem digitValue_inj {c d : Char} (digit : isDigit c = true) (digit' : isDigit d = true)
    (same : digitValue c = digitValue d) : c = d := by
  have low := zero_le_digit digit
  have low' := zero_le_digit digit'
  unfold digitValue at same
  exact Char.toNat_inj.mp (by omega)

/-- Digits are told apart by their number and by the number that they make. -/
theorem natOfDigits_inj {xs ys : List Char} (digits : ∀ c ∈ xs, isDigit c = true)
    (digits' : ∀ c ∈ ys, isDigit c = true) (length : xs.length = ys.length)
    (same : natOfDigits xs = natOfDigits ys) : xs = ys := by
  induction xs generalizing ys with
  | nil => exact (List.length_eq_zero_iff.mp length.symm).symm
  | cons x xs ih =>
    cases ys with
    | nil => cases length
    | cons y ys =>
      obtain ⟨digit, digits⟩ := List.forall_mem_cons.mp digits
      obtain ⟨digit', digits'⟩ := List.forall_mem_cons.mp digits'
      have length := Nat.succ_inj.mp length
      obtain ⟨first, rest⟩ := natOfDigits_div_mod [x] digits
      obtain ⟨first', rest'⟩ := natOfDigits_div_mod [y] digits'
      rw [List.singleton_append, same, length, natOfDigits_singleton] at first
      rw [List.singleton_append, same, length] at rest
      rw [List.singleton_append, natOfDigits_singleton] at first'
      rw [digitValue_inj digit digit' (first.symm.trans first'),
        ih digits digits' length (rest.symm.trans rest')]

/-- No zeros stand in front, but for a single digit. -/
def Unpadded (digits : List Char) : Prop := digits.length = 1 ∨ '0' ∉ digits.head?

/-- The number of digits without zeros in front tells how large a number they make. -/
theorem Digits.unpadded_iff {digits : List Char} (isDigits : Digits digits) :
    Unpadded digits ↔ digits.length = 1 ∨ 10 ^ (digits.length - 1) ≤ natOfDigits digits := by
  obtain ⟨d, ds, rfl, digit⟩ := isDigits.cons
  refine or_congr_right ?_
  have less := natOfDigits_lt (List.forall_mem_cons.mp isDigits.all).2
  rw [← List.singleton_append, natOfDigits_append, natOfDigits_singleton, List.singleton_append,
    List.length_cons, Nat.add_sub_cancel]
  constructor
  · intro lead
    have some : 1 ≤ digitValue d := by
      refine Nat.pos_of_ne_zero fun none => lead ?_
      rw [digitValue_inj (d := '0') digit rfl none]
      rfl
    exact (Nat.le_mul_of_pos_right _ some).trans (Nat.le_add_right _ _)
  · rintro large ⟨⟩
    change 10 ^ ds.length ≤ 10 ^ ds.length * 0 + natOfDigits ds at large
    omega

/-- A decimal with that many digits behind the point, and no exponent. Without the point its digits
make the number beside it. -/
inductive Written : List Char → Nat → Nat → Prop where
  | whole {digits : List Char} (isDigits : Digits digits) (unpadded : Unpadded digits) :
      Written digits (natOfDigits digits) 0
  | point {front back : List Char} (before : Digits front) (unpadded : Unpadded front)
      (behind : Digits back) :
      Written (front ++ '.' :: back) (natOfDigits (front ++ back)) back.length

theorem unpadded_digitChars (n : Nat) : Unpadded (digitChars n) := by
  by_cases zero : n = 0
  · subst zero
    exact .inl rfl
  · exact .inr (head?_digitChars (Nat.pos_of_ne_zero zero))

theorem written_placePoint (n places : Nat) :
    Written (placePoint (digitChars n) places) n places := by
  have isDigits := digits_digitChars n
  by_cases some : places = 0
  · have written := Written.whole isDigits (unpadded_digitChars n)
    rw [natOfDigits_digitChars] at written
    rwa [placePoint, if_pos some, some]
  · obtain ⟨front, back, text, before, behind, rfl, both⟩ := placePoint_parts isDigits some
    have value : natOfDigits (front ++ back) = n := by
      rw [both, natOfDigits_zeros_append, natOfDigits_digitChars]
    have unpadded : Unpadded front := by
      have filled := List.length_pos_iff.mpr before.some
      have total := congrArg List.length both
      rw [List.length_append, List.length_append, List.length_replicate] at total
      by_cases long : back.length < (digitChars n).length
      · rw [Nat.sub_eq_zero_of_le long, List.replicate_zero, List.nil_append] at both
        have lead := unpadded_digitChars n
        rw [Unpadded, ← both, List.length_append, List.head?_append_of_ne_nil _ before.some] at lead
        exact lead.imp_left fun single => by omega
      · exact .inl (by omega)
    rw [text, ← value]
    exact .point before unpadded behind

/-- One digit is written before the point, and an exponent behind the digits. -/
theorem written_scientific {digits : List Char} (isDigits : Digits digits) (exponent : Int) :
    ∃ body, scientific digits exponent = body ++ exponentMark exponent ∧
      Written body (natOfDigits digits) (digits.length - 1) := by
  unfold scientific
  split
  next => exact absurd rfl isDigits.some
  next d => exact ⟨[d], rfl, .whole isDigits (.inl rfl)⟩
  next d ds several =>
    exact ⟨d :: '.' :: ds, rfl, .point isDigits.first (.inl rfl) (isDigits.others several)⟩

/-- Where the last digits are cut off, and the point if it is left at the end, the others make the
quotient by a power of ten, and those that are cut off the remainder. -/
theorem Written.cut {cs : List Char} {n places g : Nat} (written : Written cs n (places + g))
    (positive : 0 < g) : ∃ head tail, cs = head ++ tail ∧ tail.length = g ∧
      (∀ c ∈ tail, isDigit c = true) ∧ natOfDigits tail = n % 10 ^ g ∧
      Written (if head.getLast? = some '.' then head.dropLast else head) (n / 10 ^ g) places := by
  generalize total : places + g = all at written
  cases written with
  | whole => omega
  | @point front back before unpadded behind =>
    have tailDigits : ∀ c ∈ back.drop places, isDigit c = true := fun c isIn =>
      behind.all c (List.mem_of_mem_drop isIn)
    have tailLength : (back.drop places).length = g := by
      rw [List.length_drop]
      omega
    obtain ⟨quotient, remainder⟩ := natOfDigits_div_mod (front ++ back.take places) tailDigits
    rw [List.append_assoc, List.take_append_drop, tailLength] at quotient remainder
    refine ⟨front ++ '.' :: back.take places, back.drop places, ?_, tailLength, tailDigits,
      remainder.symm, ?_⟩
    · rw [List.append_assoc, List.cons_append, List.take_append_drop]
    · rw [quotient]
      by_cases whole : places = 0
      · subst whole
        rw [List.take_zero, if_pos (by simp), List.append_nil]
        simpa using Written.whole before unpadded
      · have length : (back.take places).length = places := by
          rw [List.length_take]
          omega
        have digits : Digits (back.take places) := by
          refine ⟨List.length_pos_iff.mp (by omega), fun c isIn => ?_⟩
          exact behind.all c (List.mem_of_mem_take isIn)
        have noPoint : (front ++ '.' :: back.take places).getLast? ≠ some '.' := by
          intro last
          rw [List.getLast?_append_of_ne_nil _ (List.cons_ne_nil _ _),
            List.getLast?_cons_of_ne_nil digits.some] at last
          cases digits.all '.' (List.mem_of_getLast? last)
        have written := Written.point before unpadded digits
        rw [length] at written
        rwa [if_neg noPoint]

theorem fixedMagnitude_written (m : Nat) (e : Int) (places : Nat) :
    ∃ n, Written (fixedMagnitude m e places) n places ∧ Nearest n (m * 2 ^ e * 10 ^ places) := by
  refine ⟨_, written_placePoint _ places, ?_⟩
  have nearest := nearest_dyadic m e (-places)
  rwa [zpow_neg, div_inv_eq_mul, zpow_natCast] at nearest

section
variable {m : Nat} {e : Int} (canonical : Canonical m e) (pos : 0 < m)
include canonical pos

/-- Numbers from `10 ^ 21` on are told from those below. -/
theorem not_le_abs {x : Float} {negative : Bool} (reading : read x = .finite negative m e)
    (small : (m * 2 ^ e : ℚ) < 10 ^ 21) : ¬ 1e21 ≤ x.abs := by
  have limit : read 1e21 = .finite false 7629394531250000 17 := by decide
  have magnitude : x.abs.toModel.unpack = .finite .positive m e pos := by
    change (Float.Model.pack x.toModel.unpack.abs).unpack = _
    rw [unpack_of_read reading pos]
    exact @unpack_pack false m e canonical pos
  rw [le_iff, magnitude, unpack_of_read limit (by decide)]
  rintro ⟨order, compared, least⟩
  change some ((compare 17 e).then (compare 7629394531250000 m)) = some order at compared
  obtain rfl := Option.some.inj compared
  rcases Ordering.isLE_then_iff_or.mp least with above | ⟨equal, least⟩
  · have above : 17 < e := Int.compare_eq_lt.mp above
    have full : ((2 ^ 52 : Nat) : ℚ) ≤ m :=
      Nat.cast_le.mpr (canonical.full.resolve_right (by omega))
    have scale : (2 : ℚ) ^ (18 : Int) ≤ 2 ^ e := zpow_le_zpow_right₀ one_le_two above
    have product := mul_le_mul full scale (by positivity) (by positivity)
    norm_num at product small
    linarith
  · obtain rfl : 17 = e := Int.compare_eq_eq.mp equal
    have least : 7629394531250000 ≤ m := Nat.isLE_compare.mp least
    have least : (7629394531250000 : ℚ) ≤ m := by exact_mod_cast least
    norm_num at small
    linarith

end

end DocExpr.Number

namespace DocExpr.Library
open DocExpr.Number

theorem digit_succ {c : Char} (digit : isDigit c = true) (less : c ≠ '9') :
    isDigit (Char.ofNat (c.toNat + 1)) = true ∧
      digitValue (Char.ofNat (c.toNat + 1)) = digitValue c + 1 := by
  have low : 48 ≤ c.toNat := zero_le_digit digit
  have high : c.toNat - 48 < 10 := digitValue_lt digit
  have other : c.toNat ≠ 57 := fun same => less (Char.toNat_inj.mp same)
  change _ ∧ _ = c.toNat - 48 + 1
  generalize c.toNat = n at low high other
  exact (by decide : ∀ n < 57, 48 ≤ n → isDigit (Char.ofNat (n + 1)) = true ∧
    digitValue (Char.ofNat (n + 1)) = n - 48 + 1) n (by omega) low

/-- Written last digit first, either the digits are changed to the next number and the rest stays,
or they were all nines, become zeros, and the rest is changed. -/
theorem addOneReversed_append {ds : List Char} (digits : ∀ c ∈ ds, isDigit c = true)
    (rest : List Char) :
    (∃ ds', addOneReversed (ds ++ rest) = ds' ++ rest ∧ (∀ c ∈ ds', isDigit c = true) ∧
      ds'.length = ds.length ∧ natOfDigits ds'.reverse = natOfDigits ds.reverse + 1) ∨
    (addOneReversed (ds ++ rest) = List.replicate ds.length '0' ++ addOneReversed rest ∧
      natOfDigits ds.reverse + 1 = 10 ^ ds.length) := by
  induction ds with
  | nil => exact .inr ⟨rfl, rfl⟩
  | cons c ds ih =>
    obtain ⟨digit, others⟩ := List.forall_mem_cons.mp digits
    have value (d : Char) (cs : List Char) :
        natOfDigits (d :: cs).reverse = 10 * natOfDigits cs.reverse + digitValue d := by
      rw [List.reverse_cons, natOfDigits_append, natOfDigits_singleton]
      rfl
    by_cases nine : c = '9'
    · subst nine
      have carried : addOneReversed ('9' :: (ds ++ rest)) = '0' :: addOneReversed (ds ++ rest) :=
        rfl
      have nine : digitValue '9' = 9 := rfl
      have zero : digitValue '0' = 0 := rfl
      rcases ih others with ⟨ds', changed, digits', length, larger⟩ | ⟨changed, full⟩
      · refine .inl ⟨'0' :: ds', ?_, List.forall_mem_cons.mpr ⟨rfl, digits'⟩, ?_, ?_⟩
        · rw [List.cons_append, carried, changed, List.cons_append]
        · rw [List.length_cons, length, List.length_cons]
        · rw [value, value, larger, nine, zero]
          ring
      · refine .inr ⟨?_, ?_⟩
        · rw [List.cons_append, carried, changed, List.length_cons, List.replicate_succ,
            List.cons_append]
        · rw [value, nine, List.length_cons, Nat.pow_succ', ← full]
          ring
    · have noPoint : c ≠ '.' := by
        rintro rfl
        cases digit
      obtain ⟨digit', larger⟩ := digit_succ digit nine
      refine .inl ⟨Char.ofNat (c.toNat + 1) :: ds, ?_, List.forall_mem_cons.mpr ⟨digit', others⟩,
        rfl, ?_⟩
      · rw [List.cons_append, addOneReversed, List.cons_append]
        · exact noPoint
        · exact nine
      · rw [value, value, larger]
        ring

theorem digits_reverse {ds : List Char} (all : ∀ c ∈ ds, isDigit c = true)
    (some : 0 < ds.length) : Digits ds.reverse where
  some := mt List.reverse_eq_nil_iff.mp (List.length_pos_iff.mp some)
  all := fun c isIn => all c (List.mem_reverse.mp isIn)

/-- The digits become those of the next number. Another one is put in front if all were nines. -/
theorem roundUpDecimal_all {ds : List Char} (all : ∀ c ∈ ds, isDigit c = true) :
    Digits (roundUpDecimal ds) ∧ natOfDigits (roundUpDecimal ds) = natOfDigits ds + 1 ∧
      ((roundUpDecimal ds).length = ds.length ∨
        (roundUpDecimal ds).length = ds.length + 1 ∧ natOfDigits ds + 1 = 10 ^ ds.length) := by
  have reversed : ∀ c ∈ ds.reverse, isDigit c = true := fun c isIn =>
    all c (List.mem_reverse.mp isIn)
  unfold roundUpDecimal
  rcases addOneReversed_append reversed [] with
    ⟨ds', changed, all', length, larger⟩ | ⟨changed, full⟩
  · rw [List.append_nil, List.append_nil] at changed
    rw [List.reverse_reverse] at larger
    rw [List.length_reverse] at length
    have some : ds' ≠ [] := by
      rintro rfl
      exact absurd larger (Nat.succ_ne_zero _).symm
    rw [changed, List.length_reverse]
    exact ⟨digits_reverse all' (List.length_pos_iff.mpr some), larger, .inl length⟩
  · rw [List.append_nil] at changed
    rw [List.reverse_reverse, List.length_reverse] at full
    have carried : (addOneReversed ds.reverse).reverse = '1' :: List.replicate ds.length '0' := by
      rw [changed]
      simp [addOneReversed]
    have value : natOfDigits ('1' :: List.replicate ds.length '0') = 10 ^ ds.length := by
      rw [← List.singleton_append, natOfDigits_append, natOfDigits_zeros, List.length_replicate]
      exact Nat.mul_one _
    rw [carried]
    refine ⟨⟨List.cons_ne_nil _ _, List.forall_mem_cons.mpr ⟨rfl, isDigit_zeros _⟩⟩,
      value.trans full.symm, .inr ⟨?_, full⟩⟩
    rw [List.length_cons, List.length_replicate]

theorem roundUpDecimal_digits {digits : List Char} (isDigits : Digits digits)
    (unpadded : Unpadded digits) : Digits (roundUpDecimal digits) ∧
      Unpadded (roundUpDecimal digits) ∧
      natOfDigits (roundUpDecimal digits) = natOfDigits digits + 1 := by
  obtain ⟨isDigits', larger, length⟩ := roundUpDecimal_all isDigits.all
  refine ⟨isDigits', isDigits'.unpadded_iff.mpr ?_, larger⟩
  rw [larger]
  rcases length with same | ⟨longer, full⟩
  · rw [same]
    exact (isDigits.unpadded_iff.mp unpadded).imp_right Nat.le_succ_of_le
  · rw [longer, full]
    exact .inr (Nat.le_refl _)

/-- Behind a point the digits become those of the next number, or they become zeros and one is added
to the number in front of it. -/
theorem roundUpDecimal_point {front back : List Char} (before : ∀ c ∈ front, isDigit c = true)
    (behind : Digits back) :
    ∃ front' back', roundUpDecimal (front ++ '.' :: back) = front' ++ '.' :: back' ∧
      Digits back' ∧ back'.length = back.length ∧
      (front' = front ∨ front' = roundUpDecimal front) ∧
      natOfDigits (front' ++ back') = natOfDigits (front ++ back) + 1 := by
  have some := List.length_pos_iff.mpr behind.some
  have all := (digits_reverse behind.all some).all
  have parts : (front ++ '.' :: back).reverse = back.reverse ++ '.' :: front.reverse := by simp
  rw [roundUpDecimal, parts]
  rcases addOneReversed_append all ('.' :: front.reverse) with
    ⟨ds, changed, all', length, larger⟩ | ⟨changed, full⟩
  · rw [List.length_reverse] at length
    rw [List.reverse_reverse] at larger
    refine ⟨front, ds.reverse, ?_, digits_reverse all' (length ▸ some), ?_, .inl rfl, ?_⟩
    · rw [changed]
      simp
    · rw [List.length_reverse, length]
    · rw [natOfDigits_append, larger, List.length_reverse, length, ← Nat.add_assoc,
        ← natOfDigits_append]
  · rw [List.length_reverse, List.reverse_reverse] at full
    obtain ⟨-, larger, -⟩ := roundUpDecimal_all before
    have carried : addOneReversed ('.' :: front.reverse) = '.' :: addOneReversed front.reverse :=
      rfl
    refine ⟨roundUpDecimal front, List.replicate back.length '0', ?_,
      ⟨by simpa using behind.some, isDigit_zeros _⟩, List.length_replicate, .inr rfl, ?_⟩
    · rw [changed, carried, List.length_reverse]
      simp [roundUpDecimal]
    · rw [natOfDigits_append, natOfDigits_append, larger, natOfDigits_zeros, List.length_replicate,
        Nat.add_zero, Nat.mul_succ, ← full, Nat.add_assoc]

/-- Adding one in the last place of a decimal adds one to the number that its digits make. -/
theorem roundUpDecimal_written {cs : List Char} {n places : Nat} (written : Written cs n places) :
    Written (roundUpDecimal cs) (n + 1) places := by
  cases written with
  | whole isDigits unpadded =>
    obtain ⟨isDigits', unpadded', larger⟩ := roundUpDecimal_digits isDigits unpadded
    rw [← larger]
    exact .whole isDigits' unpadded'
  | @point front back before unpadded behind =>
    obtain ⟨front', back', changed, behind', length, same, larger⟩ :=
      roundUpDecimal_point before.all behind
    rw [changed, ← larger, ← length]
    rcases same with rfl | rfl
    · exact .point before unpadded behind'
    · obtain ⟨before', unpadded', -⟩ := roundUpDecimal_digits before unpadded
      exact .point before' unpadded' behind'

theorem isHalf_iff {tail : List Char} {g : Nat} (length : tail.length = g + 1)
    (digits : ∀ c ∈ tail, isDigit c = true) :
    isHalf tail = true ↔ natOfDigits tail = 5 * 10 ^ g := by
  have half : natOfDigits ('5' :: List.replicate g '0') = 5 * 10 ^ g := by
    rw [← List.singleton_append, natOfDigits_append, natOfDigits_zeros, List.length_replicate]
    exact Nat.mul_comm _ _
  constructor
  · intro isHalf
    unfold Library.isHalf at isHalf
    split at isHalf
    next zeros =>
      have zeros : zeros = List.replicate g '0' := by
        refine List.eq_replicate_iff.mpr ⟨Nat.succ_inj.mp length, fun c isIn => ?_⟩
        exact beq_iff_eq.mp (List.all_eq_true.mp isHalf c isIn)
      rw [zeros, half]
    next => cases isHalf
  · intro value
    have same : tail = '5' :: List.replicate g '0' :=
      natOfDigits_inj digits (List.forall_mem_cons.mpr ⟨rfl, isDigit_zeros g⟩)
        (by simp [length]) (value.trans half.symm)
    rw [same]
    simp [isHalf]

/-- The digits that are cut off tell the middle from all other doubles, and there one is added. -/
theorem fixedHalfUp_written {m : Nat} {e : Int} (canonical : Canonical m e) {places : Nat}
    (few : places ≤ 100) :
    ∃ n, Written (fixedHalfUp m e places) n places ∧ NearestUp n (m * 2 ^ e * 10 ^ places) := by
  obtain ⟨N, written, nearest⟩ := fixedMagnitude_written m e (places + guardDigits)
  obtain ⟨n, plain, nearest'⟩ := fixedMagnitude_written m e places
  obtain ⟨head, tail, text, length, digits, remainder, front⟩ := written.cut (by decide)
  have gap {n : Nat} := @halfway_gap m places n e canonical few
  have more : (m * 2 ^ e * 10 ^ (places + guardDigits) : ℚ) =
      m * 2 ^ e * 10 ^ places * 10 ^ 25 := by
    rw [pow_add, mul_assoc, mul_assoc, mul_assoc]
    rfl
  rw [more] at nearest
  generalize (m * 2 ^ e * 10 ^ places : ℚ) = t at nearest nearest' gap ⊢
  have cut : (head ++ tail).length - guardDigits = head.length := by
    rw [List.length_append, length, Nat.add_sub_cancel]
  have half := isHalf_iff (g := 24) length digits
  unfold fixedHalfUp
  dsimp only
  rw [text, cut, List.drop_left, List.take_left]
  split
  next isHalf =>
    have five := half.mp isHalf
    refine ⟨_, roundUpDecimal_written front, ?_⟩
    generalize quotient : N / 10 ^ guardDigits = K
    have whole : (N : ℚ) = (K + 1 / 2) * 10 ^ 25 := by
      have parts : 10 ^ 25 * K + 5 * 10 ^ 24 = N := by
        rw [← five, remainder, ← quotient]
        exact Nat.div_add_mod N (10 ^ 25)
      rw [← parts]
      push_cast
      ring
    have middle : t = K + 1 / 2 := by
      by_contra other
      refine (gap other).not_ge ?_
      have power : (0 : ℚ) < 10 ^ 25 := by positivity
      have low := nearest.low
      have high := nearest.high
      rw [whole] at low high
      rw [← abs_of_pos power, ← abs_mul, abs_le]
      constructor <;> linarith
    rw [middle]
    constructor <;> push_cast <;> linarith
  next notHalf =>
    refine ⟨n, plain, nearest'.nearestUp fun middle => notHalf (half.mpr ?_)⟩
    have whole : t * 10 ^ 25 = (n * 10 ^ 25 + 5 * 10 ^ 24 : Nat) := by
      rw [middle]
      push_cast
      ring
    rw [whole] at nearest
    rw [remainder, nearest.unique (nearest_natCast _)]
    exact Nat.mul_add_mod_of_lt (by decide)

theorem digitsArg_eq_ok_iff {name : String} {args : List Value} {least most d : Nat} :
    digitsArg name args least most = .ok d ↔
      clampInt (-1) (most + 1) (numberArg args 0 0.0) = d ∧ least ≤ d ∧ d ≤ most := by
  unfold digitsArg
  generalize clampInt (-1) (most + 1) (numberArg args 0 0.0) = whole
  dsimp only
  split
  next =>
    refine iff_of_false (fun digits => ?_) (fun inside => ?_)
    · cases digits
    · omega
  next =>
    rw [Except.ok.injEq]
    omega

section
variable {x : Float} {negative : Bool} {m : Nat} {e : Int}
  (reading : read x = .finite negative m e)
include reading

theorem toFixed_written {places : Nat} (few : places ≤ 100) (small : (m * 2 ^ e : ℚ) < 10 ^ 21) :
    ∃ body n, toFixed x places = String.ofList (signed (negative && m != 0) body) ∧
      Written body n places ∧ NearestUp n (m * 2 ^ e * 10 ^ places) := by
  have canonical := canonical_of_read reading
  obtain ⟨n, written, nearest⟩ := fixedHalfUp_written canonical few
  refine ⟨_, n, ?_, written, nearest⟩
  have below : ¬ 1e21 ≤ x.abs := by
    by_cases zero : m = 0
    · subst zero
      rcases eq_zero_of_read reading with rfl | rfl <;> decide
    · exact not_le_abs canonical (Nat.pos_of_ne_zero zero) reading small
  unfold toFixed
  rw [reading]
  exact if_neg below

theorem toExponential_written (places : Nat) :
    ∃ body n k, toExponential x (some places) =
        String.ofList (signed negative (body ++ exponentMark k)) ∧
      Written body n places ∧ (n = 0 ∨ HasDigits (places + 1) n) ∧
      RoundsToDigits (places + 1) (m * 2 ^ e) (n * 10 ^ (k - places)) := by
  unfold toExponential
  rw [reading]
  dsimp only
  by_cases zero : m = 0
  · have zeros : Digits (List.replicate (places + 1) '0') :=
      ⟨by simp, isDigit_zeros _⟩
    obtain ⟨body, text, written⟩ := written_scientific zeros 0
    rw [natOfDigits_zeros, List.length_replicate, Nat.add_sub_cancel] at written
    refine ⟨body, 0, 0, ?_, written, .inl rfl, ?_⟩
    · rw [zero, exponentialDigits, if_pos rfl, text]
    · rw [zero, Nat.cast_zero, zero_mul, zero_mul]
      exact roundsToDigits_zero _
  · obtain ⟨n, k, computed, digits, -, rounds⟩ := exponentialDigits_spec
      (canonical_of_read reading) (Nat.pos_of_ne_zero zero) places
    obtain ⟨body, text, written⟩ := written_scientific (digits_digitChars n) k
    rw [natOfDigits_digitChars, length_digitChars digits (Nat.succ_pos _), Nat.add_sub_cancel]
      at written
    refine ⟨body, n, k, ?_, written, .inr digits, rounds⟩
    rw [computed, text]

theorem toPrecision_written {p : Nat} (some : 0 < p) (few : p ≤ 100) :
    ∃ body mark n places k, toPrecision x p =
        String.ofList (signed (negative && m != 0) (body ++ mark)) ∧
      Written body n places ∧ Scale mark k ∧ (n = 0 ∧ places = p - 1 ∨ HasDigits p n) ∧
      RoundsToDigits p (m * 2 ^ e) (n * 10 ^ (k - places)) := by
  obtain ⟨q, rfl⟩ : ∃ q, p = q + 1 := ⟨p - 1, by omega⟩
  unfold toPrecision
  rw [reading]
  dsimp only
  by_cases zero : m = 0
  · have plain : read 0.0 = .finite false 0 (-1074) := by decide
    obtain ⟨body, n, text, written, nearest⟩ :=
      toFixed_written plain (by omega : q ≤ 100) (by norm_num)
    have none : n = 0 := by
      have low := nearest.low
      rw [Nat.cast_zero, zero_mul, zero_mul] at low
      have : (n : ℚ) < (1 : Nat) := by
        push_cast
        linarith
      have := Nat.cast_lt.mp this
      omega
    subst none
    refine ⟨body, [], 0, q, 0, ?_, written, .none, .inl ⟨rfl, rfl⟩, ?_⟩
    · rw [if_pos zero, Nat.add_sub_cancel, text, zero, List.append_nil]
      simp
    · rw [zero, Nat.cast_zero, zero_mul, zero_mul]
      exact roundsToDigits_zero _
  · have positive := Nat.pos_of_ne_zero zero
    obtain ⟨n, k, computed, digits, nearest, rounds⟩ :=
      exponentialDigits_spec (canonical_of_read reading) positive q
    have sign : (negative && m != 0) = negative := by simp [zero]
    rw [if_neg zero, Nat.add_sub_cancel, computed, sign]
    dsimp only
    split
    · obtain ⟨body, text, written⟩ := written_scientific (digits_digitChars n) k
      rw [natOfDigits_digitChars, length_digitChars digits some, Nat.add_sub_cancel] at written
      exact ⟨body, _, n, q, k, by rw [text], written, scale_exponentMark k, .inr digits, rounds⟩
    next inPlace =>
      obtain ⟨places, distance⟩ : ∃ places : Nat, (q : Int) - k = places :=
        Int.eq_ofNat_of_zero_le (by omega)
      have count : (((q + 1 : Nat) : Int) - 1 - k).toNat = places := by omega
      have exponent : (0 : Int) - places = k - q := by omega
      obtain ⟨n', written, nearest'⟩ := fixedMagnitude_written m e places
      have same : (m * 2 ^ e / 10 ^ (k - q) : ℚ) = m * 2 ^ e * 10 ^ places := by
        rw [← exponent, zero_sub, zpow_neg, div_inv_eq_mul, zpow_natCast]
      rw [same] at nearest
      obtain rfl := nearest.unique nearest'
      refine ⟨_, [], n, places, 0, ?_, written, .none, .inr digits, ?_⟩
      · rw [count, fixedText, reading, List.append_nil]
      · rwa [exponent]

/-- Every method rounds to the nearest decimal with the digits that were asked for. Behind the point
halfway goes up; to significant digits it goes up only from an odd last digit. -/
theorem nearest_decimals (args : List Value) :
    (∀ d, digitsArg "toFixed" args 0 100 = .ok d → (m * 2 ^ e : ℚ) < 10 ^ 21 →
      ∃ body n, NumberMethod.toFixed.run x args =
          .ok (.string (String.ofList (signed (negative && m != 0) body))) ∧
        Written body n d ∧ NearestIn (withPlaces d) (m * 2 ^ e) (n / 10 ^ d) ∧
        LargestIn (withPlaces d) (m * 2 ^ e) (n / 10 ^ d)) ∧
    (∀ d, (givenArg? args).isSome = true → digitsArg "toExponential" args 0 100 = .ok d →
      ∃ body n k, NumberMethod.toExponential.run x args =
          .ok (.string (String.ofList (signed negative (body ++ exponentMark k)))) ∧
        Written body n d ∧ (n = 0 ∨ HasDigits (d + 1) n) ∧
        RoundsToDigits (d + 1) (m * 2 ^ e) (n * 10 ^ (k - d))) ∧
    (∀ p, (givenArg? args).isSome = true → digitsArg "toPrecision" args 1 100 = .ok p →
      ∃ body mark n places k, NumberMethod.toPrecision.run x args =
          .ok (.string (String.ofList (signed (negative && m != 0) (body ++ mark)))) ∧
        Written body n places ∧ Scale mark k ∧ (n = 0 ∧ places = p - 1 ∨ HasDigits p n) ∧
        RoundsToDigits p (m * 2 ^ e) (n * 10 ^ (k - places))) := by
  refine ⟨fun d digits small => ?_, fun d given digits => ?_, fun p given digits => ?_⟩
  · obtain ⟨body, n, text, written, nearest⟩ :=
      toFixed_written reading (digitsArg_eq_ok_iff.mp digits).2.2 small
    obtain ⟨near, largest⟩ := nearest.withPlaces
    refine ⟨body, n, ?_, written, near, largest⟩
    simp only [NumberMethod.run, digits, bind, Except.bind, text]
    rfl
  · obtain ⟨body, n, k, text, rest⟩ := toExponential_written reading d
    obtain ⟨v, given⟩ := Option.isSome_iff_exists.mp given
    refine ⟨body, n, k, ?_, rest⟩
    simp only [NumberMethod.run, given, digits, bind, Except.bind, text]
    rfl
  · obtain ⟨-, least, most⟩ := digitsArg_eq_ok_iff.mp digits
    obtain ⟨body, mark, n, places, k, text, rest⟩ := toPrecision_written reading least most
    obtain ⟨v, given⟩ := Option.isSome_iff_exists.mp given
    refine ⟨body, mark, n, places, k, ?_, rest⟩
    simp only [NumberMethod.run, given, digits, bind, Except.bind, text]
    rfl

end

/-- Two and a half is rounded with each method as the theorem says. -/
theorem nearest_decimals_halfway :
    read 2.5 = .finite false 5629499534213120 (-51) ∧
    (∃ body n, NumberMethod.toFixed.run 2.5 [.number 0.0] =
        .ok (.string (String.ofList (signed (false && 5629499534213120 != 0) body))) ∧
      Written body n 0 ∧
      NearestIn (withPlaces 0) ((5629499534213120 : Nat) * 2 ^ (-51 : Int)) (n / 10 ^ 0) ∧
      LargestIn (withPlaces 0) ((5629499534213120 : Nat) * 2 ^ (-51 : Int)) (n / 10 ^ 0)) ∧
    (∃ body mark n places k, NumberMethod.toPrecision.run 2.5 [.number 1.0] =
        .ok (.string (String.ofList
          (signed (false && 5629499534213120 != 0) (body ++ mark)))) ∧
      Written body n places ∧ Scale mark k ∧ (n = 0 ∧ places = 1 - 1 ∨ HasDigits 1 n) ∧
      RoundsToDigits 1 ((5629499534213120 : Nat) * 2 ^ (-51 : Int)) (n * 10 ^ (k - places))) := by
  have reading : read 2.5 = .finite false 5629499534213120 (-51) := by decide
  have none : digitsArg "toFixed" [.number 0.0] 0 100 = .ok 0 :=
    digitsArg_eq_ok_iff.mpr ⟨by decide +kernel, by decide, by decide⟩
  have one : digitsArg "toPrecision" [.number 1.0] 1 100 = .ok 1 :=
    digitsArg_eq_ok_iff.mpr ⟨by decide +kernel, by decide, by decide⟩
  refine ⟨reading, ?_, ?_⟩
  · exact (nearest_decimals reading [.number 0.0]).1 0 none (by norm_num)
  · exact (nearest_decimals reading [.number 1.0]).2.2 1 rfl one

/-- Halfway between two and three, two is written for one significant digit, although three is as
near and larger, and is written for no digit behind the point. -/
theorem even_digit_below_half :
    toPrecision 2.5 1 = "2" ∧ toExponential 2.5 (some 0) = "2e+0" ∧ toFixed 2.5 0 = "3" ∧
      ¬ LargestIn (withDigits 1) (5 / 2) 2 := by
  refine ⟨by decide, by decide, by decide, fun largest => ?_⟩
  have three : (3 : ℚ) ∈ withDigits 1 := .inr ⟨3, 0, ⟨by decide, by decide⟩, by norm_num⟩
  have := largest 3 three (by norm_num [abs_of_neg, abs_of_pos])
  norm_num at this

end DocExpr.Library
