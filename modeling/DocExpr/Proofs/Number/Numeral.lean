import DocExpr.Number.Literal
import DocExpr.Number.Notation
import DocExpr.Text.Blank
import Mathlib.Algebra.Group.Nat.Defs

/-! Decimal numerals as a grammar: digits, perhaps a point with digits behind it, perhaps an
exponent. Every text of a finite number is a numeral, whatever its layout. -/
namespace DocExpr.Number

/-- Digits, at least one. -/
structure Digits (cs : List Char) : Prop where
  some : cs ≠ []
  all : ∀ c ∈ cs, isDigit c = true

/-- What may follow the digits in front of a point. -/
inductive Fraction : List Char → Prop where
  | none : Fraction []
  | point {digits : List Char} (behind : Digits digits) : Fraction ('.' :: digits)

/-- What may follow the digits of a decimal. -/
inductive Exponent : List Char → Prop where
  | none : Exponent []
  | mark {mark : Char} {sign digits : List Char} (isMark : mark = 'e' ∨ mark = 'E')
      (isSign : sign ∈ [[], ['-'], ['+']]) (behind : Digits digits) :
      Exponent (mark :: (sign ++ digits))

/-- A number without a sign. -/
inductive Numeral : List Char → Prop where
  | mk {whole fraction exponent : List Char} (digits : Digits whole) (point : Fraction fraction)
      (mark : Exponent exponent) : Numeral (whole ++ (fraction ++ exponent))

/-- A number, perhaps with a minus sign. -/
inductive SignedNumeral : List Char → Prop where
  | mk (negative : Bool) {t : List Char} (numeral : Numeral t) : SignedNumeral (signed negative t)

/-- A character that may stand in a numeral. -/
def partOfNumeral (c : Char) : Bool := isDigit c || ['.', 'e', 'E', '+', '-'].contains c

/-- No numeral goes on with this. -/
def Stops (rest : List Char) : Prop := ∀ c ∈ rest.head?, partOfNumeral c = false

theorem Digits.cons {cs : List Char} (digits : Digits cs) :
    ∃ c more, cs = c :: more ∧ isDigit c = true := by
  obtain ⟨c, more, rfl⟩ := List.exists_cons_of_ne_nil digits.some
  exact ⟨c, more, rfl, digits.all c List.mem_cons_self⟩

theorem Digits.append {xs ys : List Char} (digits : Digits xs)
    (more : ∀ c ∈ ys, isDigit c = true) : Digits (xs ++ ys) where
  some := fun none => digits.some (List.append_eq_nil_iff.mp none).1
  all := fun c isIn => (List.mem_append.mp isIn).elim (digits.all c) (more c)

theorem Digits.first {d : Char} {ds : List Char} (digits : Digits (d :: ds)) : Digits [d] where
  some := List.cons_ne_nil d []
  all := by
    intro c isIn
    cases List.mem_singleton.mp isIn
    exact digits.all d List.mem_cons_self

theorem Digits.others {d : Char} {ds : List Char} (digits : Digits (d :: ds)) (some : ds ≠ []) :
    Digits ds where
  some := some
  all := fun c isIn => digits.all c (List.mem_cons_of_mem d isIn)

theorem Numeral.cons {t : List Char} (numeral : Numeral t) :
    ∃ c more, t = c :: more ∧ isDigit c = true := by
  obtain ⟨digits, -, -⟩ := numeral
  obtain ⟨c, more, rfl, digit⟩ := digits.cons
  exact ⟨c, _, rfl, digit⟩

theorem Digits.numeral {t : List Char} (digits : Digits t) : Numeral t := by
  have := Numeral.mk digits .none .none
  rwa [List.append_nil, List.append_nil] at this

theorem Stops.nil : Stops [] := fun _ none => nomatch none

theorem Stops.cons {c : Char} (stops : partOfNumeral c = false) (rest : List Char) :
    Stops (c :: rest) := by
  intro c' same
  cases same
  exact stops

theorem partOfNumeral_of_isDigit {c : Char} (digit : isDigit c = true) :
    partOfNumeral c = true := by
  unfold partOfNumeral
  rw [digit, Bool.true_or]

theorem Digits.part {cs : List Char} (digits : Digits cs) : ∀ c ∈ cs, partOfNumeral c = true :=
  fun c isIn => partOfNumeral_of_isDigit (digits.all c isIn)

theorem Fraction.part {cs : List Char} (fraction : Fraction cs) :
    ∀ c ∈ cs, partOfNumeral c = true := by
  cases fraction with
  | none => exact fun _ isIn => absurd isIn List.not_mem_nil
  | point behind => exact List.forall_mem_cons.mpr ⟨rfl, behind.part⟩

theorem Exponent.part {cs : List Char} (exponent : Exponent cs) :
    ∀ c ∈ cs, partOfNumeral c = true := by
  cases exponent with
  | none => exact fun _ isIn => absurd isIn List.not_mem_nil
  | mark isMark isSign behind =>
    refine List.forall_mem_cons.mpr ⟨?_, List.forall_mem_append.mpr ⟨?_, behind.part⟩⟩
    · rcases isMark with rfl | rfl <;> rfl
    · simp only [List.mem_cons, List.not_mem_nil, or_false] at isSign
      rcases isSign with rfl | rfl | rfl <;> exact List.all_eq_true.mp rfl

theorem SignedNumeral.part {cs : List Char} (numeral : SignedNumeral cs) :
    ∀ c ∈ cs, partOfNumeral c = true := by
  obtain ⟨negative, digits, point, mark⟩ := numeral
  have magnitude := List.forall_mem_append.mpr
    ⟨digits.part, List.forall_mem_append.mpr ⟨point.part, mark.part⟩⟩
  cases negative with
  | true => exact List.forall_mem_cons.mpr ⟨rfl, magnitude⟩
  | false => exact magnitude

theorem isBlank_of_isDigit {c : Char} (digit : isDigit c = true) : Text.isBlank c = false := by
  unfold isDigit at digit
  obtain ⟨low, high⟩ := Bool.and_eq_true_iff.mp digit
  have low : 48 ≤ c.toNat := of_decide_eq_true low
  have high : c.toNat ≤ 57 := of_decide_eq_true high
  simp only [Text.isBlank, Bool.or_eq_false_iff, Bool.and_eq_false_iff, decide_eq_false_iff_not,
    beq_eq_false_iff_ne]
  omega

theorem digitValue_lt {c : Char} (digit : isDigit c = true) : digitValue c < 10 := by
  simp only [isDigit, Bool.and_eq_true, decide_eq_true_eq, Char.le_def, UInt32.le_iff_toNat_le]
    at digit
  have most : c.toNat ≤ '9'.toNat := digit.2
  have := Nat.sub_le_sub_right most '0'.toNat
  exact Nat.lt_of_le_of_lt this (by decide)

theorem foldl_digits_lt {cs : List Char} (all : ∀ c ∈ cs, isDigit c = true) (n : Nat) :
    cs.foldl (fun n c => 10 * n + digitValue c) n < (n + 1) * 10 ^ cs.length := by
  induction cs generalizing n with
  | nil => simp
  | cons c cs ih =>
    obtain ⟨digit, all⟩ := List.forall_mem_cons.mp all
    have small := digitValue_lt digit
    calc cs.foldl _ (10 * n + digitValue c)
        < (10 * n + digitValue c + 1) * 10 ^ cs.length := ih all _
      _ ≤ ((n + 1) * 10) * 10 ^ cs.length := Nat.mul_le_mul_right _ (by omega)
      _ = (n + 1) * 10 ^ (c :: cs).length := by rw [List.length_cons, Nat.pow_succ', Nat.mul_assoc]

theorem natOfDigits_lt {cs : List Char} (all : ∀ c ∈ cs, isDigit c = true) :
    natOfDigits cs < 10 ^ cs.length := by
  simpa [natOfDigits] using foldl_digits_lt all 0

theorem digits_digitChars (n : Nat) : Digits (digitChars n) where
  some := Nat.toDigits_ne_nil
  all := by
    intro c isIn
    have digit : c.isDigit = true := Nat.isDigit_of_mem_toDigits (by decide) (by decide) isIn
    unfold Char.isDigit at digit
    exact digit

/-- The first digit is zero for zero only. -/
theorem head?_digitChars {n : Nat} (some : 0 < n) : '0' ∉ (digitChars n).head? := by
  induction n using Nat.strongRecOn with
  | _ n ih =>
    by_cases single : n < 10
    · rw [digitChars, Nat.toDigits_of_lt_base single]
      exact (by decide : ∀ n < 10, 0 < n → '0' ∉ [n.digitChar].head?) n single some
    · have front := ih (n / 10) (by omega) (by omega)
      obtain ⟨c, cs, written, -⟩ := (digits_digitChars (n / 10)).cons
      rw [written] at front
      rw [digitChars, Nat.toDigits_of_base_le (by decide) (Nat.not_lt.mp single), ← digitChars,
        written]
      exact front

theorem isDigit_zeros (n : Nat) : ∀ c ∈ List.replicate n '0', isDigit c = true := by
  intro c isIn
  cases List.eq_of_mem_replicate isIn
  rfl

theorem exponent_exponentMark (exponent : Int) : Exponent (exponentMark exponent) := by
  unfold exponentMark
  have digits := digits_digitChars exponent.natAbs
  split
  · exact @Exponent.mark 'e' ['-'] _ (.inl rfl) (by decide) digits
  · exact @Exponent.mark 'e' ['+'] _ (.inl rfl) (by decide) digits

/-- The digits in front of the exponent are those that were given, with a point behind the first
one if there are others. -/
theorem scientific_parts {digits : List Char} (isDigits : Digits digits) (exponent : Int) :
    ∃ whole fraction, scientific digits exponent = whole ++ (fraction ++ exponentMark exponent) ∧
      Digits whole ∧ Fraction fraction ∧ (fraction.drop 1).length = digits.length - 1 ∧
      whole ++ fraction.drop 1 = digits := by
  unfold scientific
  split
  next => exact absurd rfl isDigits.some
  next d => exact ⟨[d], [], rfl, isDigits, .none, rfl, rfl⟩
  next d ds several =>
    exact ⟨[d], '.' :: ds, rfl, isDigits.first, .point (isDigits.others several), rfl, rfl⟩

theorem numeral_scientific {digits : List Char} (isDigits : Digits digits) (exponent : Int) :
    Numeral (scientific digits exponent) := by
  obtain ⟨whole, fraction, written, first, point, -⟩ := scientific_parts isDigits exponent
  rw [written]
  exact .mk first point (exponent_exponentMark exponent)

/-- The digits around the point are those in front of which zeros were put. -/
theorem placePoint_parts {digits : List Char} (isDigits : Digits digits) {places : Nat}
    (some : places ≠ 0) :
    ∃ front back, placePoint digits places = front ++ '.' :: back ∧ Digits front ∧ Digits back ∧
      back.length = places ∧
      front ++ back = List.replicate (places + 1 - digits.length) '0' ++ digits := by
  unfold placePoint
  rw [if_neg some]
  dsimp only
  generalize whole : List.replicate (places + 1 - digits.length) '0' ++ digits = padded
  have long : places + 1 ≤ padded.length := by
    rw [← whole, List.length_append, List.length_replicate]
    omega
  have all : ∀ c ∈ padded, isDigit c = true := by
    intro c isIn
    rw [← whole] at isIn
    rcases List.mem_append.mp isIn with zero | digit
    · exact isDigit_zeros _ c zero
    · exact isDigits.all c digit
  have behind : (padded.drop (padded.length - places)).length = places := by
    rw [List.length_drop]
    omega
  refine ⟨_, _, rfl, ?_, ?_, behind, List.take_append_drop _ _⟩
  · refine ⟨fun none => ?_, fun c isIn => all c (List.mem_of_mem_take isIn)⟩
    have := congrArg List.length none
    rw [List.length_take, List.length_nil] at this
    omega
  · refine ⟨fun none => ?_, fun c isIn => all c (List.mem_of_mem_drop isIn)⟩
    rw [none, List.length_nil] at behind
    omega

theorem numeral_placePoint {digits : List Char} (isDigits : Digits digits) (places : Nat) :
    Numeral (placePoint digits places) := by
  by_cases some : places = 0
  · rw [placePoint, if_pos some]
    exact isDigits.numeral
  · obtain ⟨front, back, written, digits, digits', -⟩ := placePoint_parts isDigits some
    have numeral := Numeral.mk digits (.point digits') .none
    rwa [List.append_nil, ← written] at numeral

theorem Decimal.numeral_write (layout : Layout) (d : Decimal) : Numeral (d.write layout) := by
  have digits := digits_digitChars d.digits
  unfold Decimal.write
  dsimp only
  split
  · split
    · have whole := digits.append (isDigit_zeros d.exponent.toNat)
      split
      · have point : Digits ['0'] := digits_digitChars 0
        have numeral := Numeral.mk whole (.point point) .none
        rwa [List.append_nil] at numeral
      · rw [List.append_nil]
        exact whole.numeral
    · exact numeral_placePoint digits _
  · exact numeral_scientific digits _

theorem intText_signedNumeral (n : Int) : SignedNumeral (intText n).toList := by
  have numeral := (digits_digitChars n.natAbs).numeral
  unfold intText
  rw [String.toList_ofList]
  split
  · exact .mk true numeral
  · exact .mk false numeral

/-- The text of a finite number in the expression language. -/
theorem toText_signedNumeral {x : Float} (finite : isFinite x = true) :
    SignedNumeral (toText x).toList := by
  unfold isFinite at finite
  unfold toText
  split at finite
  next negative m e found =>
    rw [found]
    dsimp only
    split
    · exact intText_signedNumeral 0
    · rw [String.toList_ofList]
      exact .mk negative (Decimal.numeral_write _ _)
  next => cases finite

/-- The text of a finite number in a document. -/
theorem toJson_signedNumeral {x : Float} (finite : isFinite x = true) :
    SignedNumeral (toJson x).toList := by
  unfold isFinite at finite
  unfold toJson
  split at finite
  next negative m e found =>
    rw [found]
    dsimp only
    split
    · exact intText_signedNumeral _
    · rw [String.toList_ofList]
      exact .mk negative (Decimal.numeral_write _ _)
  next => cases finite

end DocExpr.Number
