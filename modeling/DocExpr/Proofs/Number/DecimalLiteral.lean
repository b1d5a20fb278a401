import DocExpr.Proofs.Lexer.Lookahead
import DocExpr.Proofs.Number.Nearest

/-! Decimal literals and their values. The reader of numerals accepts exactly the decimal literals,
with or without a point and an exponent, and gives the double nearest to the value. -/
namespace DocExpr.Number
open Json (NoDigit)

/-- Nothing or a sign, and whether it is a minus. -/
inductive SignMark : List Char → Bool → Prop where
  | none : SignMark [] false
  | plus : SignMark ['+'] false
  | minus : SignMark ['-'] true

/-- Digits, at least one, with at most one point anywhere among them. Beside the text stand its
digits without the point and the number of them behind it. -/
inductive Pointed : List Char → List Char → Nat → Prop where
  | whole {digits : List Char} (isDigits : Digits digits) : Pointed digits digits 0
  | point {front back : List Char} (isDigits : Digits (front ++ back)) :
      Pointed (front ++ '.' :: back) (front ++ back) back.length

/-- Nothing or an exponent, and its value. -/
inductive Scale : List Char → Int → Prop where
  | none : Scale [] 0
  | mark {mark : Char} {sign digits : List Char} {negative : Bool}
      (isMark : mark = 'e' ∨ mark = 'E') (isSign : SignMark sign negative)
      (behind : Digits digits) :
      Scale (mark :: (sign ++ digits))
        (if negative then -(natOfDigits digits : Int) else natOfDigits digits)

/-- The text is a decimal literal, and the double is the one nearest to its value. -/
inductive DecimalLiteral : List Char → Float → Prop where
  | mk {sign cs digits exponent : List Char} {negative : Bool} {places : Nat} {k : Int} {x : Float}
      (isSign : SignMark sign negative) (pointed : Pointed cs digits places)
      (scale : Scale exponent k)
      (value : NearestDouble (natOfDigits digits * 10 ^ (k - places)) x) :
      DecimalLiteral (sign ++ (cs ++ exponent)) (if negative then -x else x)

theorem sign_spanSign (cs : List Char) :
    ∃ sign, cs = sign ++ (spanSign cs).2 ∧ SignMark sign (spanSign cs).1 := by
  unfold spanSign
  split
  · exact ⟨['-'], rfl, .minus⟩
  · exact ⟨['+'], rfl, .plus⟩
  · exact ⟨[], rfl, .none⟩

/-- A sign is taken off what does not start with another one. -/
theorem SignMark.span {sign rest : List Char} {negative : Bool} (isSign : SignMark sign negative)
    (noSign : ∀ c ∈ rest.head?, c ≠ '+' ∧ c ≠ '-') :
    spanSign (sign ++ rest) = (negative, rest) := by
  cases isSign with
  | plus => rfl
  | minus => rfl
  | none =>
    rw [List.nil_append, spanSign]
    · rintro more rfl
      exact absurd rfl (noSign '-' rfl).2
    · rintro more rfl
      exact absurd rfl (noSign '+' rfl).1

theorem ne_sign_of_isDigit {c : Char} (digit : isDigit c = true) : c ≠ '+' ∧ c ≠ '-' := by
  constructor
  all_goals
    rintro rfl
    cases digit

theorem Digits.noSign {digits : List Char} (isDigits : Digits digits) (rest : List Char) :
    ∀ c ∈ (digits ++ rest).head?, c ≠ '+' ∧ c ≠ '-' := by
  obtain ⟨c, more, rfl, digit⟩ := isDigits.cons
  rintro _ ⟨⟩
  exact ne_sign_of_isDigit digit

theorem Pointed.noSign {cs digits : List Char} {places : Nat} (pointed : Pointed cs digits places)
    (rest : List Char) : ∀ c ∈ (cs ++ rest).head?, c ≠ '+' ∧ c ≠ '-' := by
  cases pointed with
  | whole isDigits => exact isDigits.noSign rest
  | @point front back isDigits =>
    cases front with
    | nil =>
      rintro _ ⟨⟩
      decide
    | cons c front =>
      rintro _ ⟨⟩
      exact ne_sign_of_isDigit (isDigits.all c List.mem_cons_self)

/-- Digits, perhaps behind a sign, and the integer that they write. -/
inductive WholeText : List Char → Int → Prop where
  | mk {sign digits : List Char} {negative : Bool} (isSign : SignMark sign negative)
      (isDigits : Digits digits) : WholeText (sign ++ digits)
        (if negative then -(natOfDigits digits : Int) else natOfDigits digits)

theorem wholeNumber?_eq_some_iff {cs : List Char} {i : Int} :
    wholeNumber? cs = some i ↔ WholeText cs i := by
  constructor
  · intro h
    obtain ⟨sign, split, isSign⟩ := sign_spanSign cs
    unfold wholeNumber? at h
    generalize spanSign cs = signed at h split isSign
    obtain ⟨negative, digits⟩ := signed
    dsimp only at h split isSign
    obtain ⟨isDigits, same⟩ := Option.ite_none_left_eq_some.mp h
    simp only [Bool.or_eq_true, List.isEmpty_iff, Bool.not_eq_true', not_or,
      Bool.not_eq_false, List.all_eq_true] at isDigits
    cases same
    rw [split]
    exact .mk isSign ⟨isDigits.1, isDigits.2⟩
  · rintro ⟨isSign, isDigits⟩
    have span := isSign.span (isDigits.noSign [])
    rw [List.append_nil] at span
    unfold wholeNumber?
    rw [span]
    dsimp only
    rw [if_neg]
    simp only [Bool.or_eq_true, List.isEmpty_iff, Bool.not_eq_true', not_or,
      Bool.not_eq_false, List.all_eq_true]
    exact ⟨isDigits.some, isDigits.all⟩

theorem Scale.exponent {cs : List Char} {k : Int} (scale : Scale cs k) : Exponent cs := by
  cases scale with
  | none => exact .none
  | mark isMark isSign behind =>
    refine .mark isMark ?_ behind
    cases isSign <;> decide

theorem Scale.span {cs : List Char} {k : Int} (scale : Scale cs k) (some : cs ≠ []) :
    spanExponent? cs = .some (k, []) := by
  cases scale with
  | none => exact absurd rfl some
  | @mark mark sign digits negative isMark isSign behind =>
    have span := Json.spanDigits_digits behind.all (Json.noDigit_of_stops .nil)
    have signed := isSign.span (behind.noSign [])
    rw [List.append_nil] at span signed
    obtain ⟨d, more, rfl, digit⟩ := behind.cons
    rw [Expr.spanExponent?_signed isMark signed digit, span]

theorem scale_of_spanExponent? {cs rest : List Char} {k : Int}
    (h : spanExponent? cs = some (k, rest)) : ∃ front, cs = front ++ rest ∧ Scale front k := by
  obtain ⟨mark, tail, negative, d, more, rfl, isMark, signed, digit⟩ := Expr.spanExponent?_parts h
  rw [Expr.spanExponent?_signed isMark signed digit] at h
  obtain ⟨sign, split, isSign⟩ := sign_spanSign tail
  obtain ⟨digits, others, same, all, ends⟩ := Json.exists_digits (d :: more)
  rw [signed] at split isSign
  rw [same] at h split
  rw [Json.spanDigits_digits all ends] at h
  cases h
  have behind : Digits digits := by
    refine ⟨?_, all⟩
    rintro rfl
    rw [List.nil_append] at same
    rw [ends d (by rw [← same]; rfl)] at digit
    cases digit
  refine ⟨mark :: (sign ++ digits), ?_, .mark isMark isSign behind⟩
  rw [split, List.cons_append, List.append_assoc]

section
variable {digits : List Char} (all : ∀ c ∈ digits, isDigit c = true)
include all

theorem spanPoint_point (cs : List Char) :
    spanPoint (digits ++ '.' :: cs) = (digits, (spanDigits cs).1, (spanDigits cs).2) := by
  have start : NoDigit ('.' :: cs) := by
    rintro _ ⟨⟩
    rfl
  rw [spanPoint, Json.spanDigits_digits all start]
  rfl

theorem spanPoint_plain {rest : List Char} (ends : NoDigit rest) (noPoint : '.' ∉ rest.head?) :
    spanPoint (digits ++ rest) = (digits, [], rest) := by
  unfold spanPoint
  rw [Json.spanDigits_digits all ends]
  split
  next same =>
    cases same
    exact absurd rfl noPoint
  next same =>
    cases same
    rfl

end

/-- Digits and a point are taken whole in front of what starts with neither. -/
theorem Pointed.span {cs digits rest : List Char} {places : Nat}
    (pointed : Pointed cs digits places) (ends : NoDigit rest) (noPoint : '.' ∉ rest.head?) :
    ∃ whole fraction, spanPoint (cs ++ rest) = (whole, fraction, rest) ∧
      whole ++ fraction = digits ∧ fraction.length = places := by
  cases pointed with
  | whole isDigits =>
    exact ⟨_, _, spanPoint_plain isDigits.all ends noPoint, List.append_nil _, rfl⟩
  | @point front back isDigits =>
    obtain ⟨before, behind⟩ := List.forall_mem_append.mp isDigits.all
    refine ⟨front, back, ?_, rfl, rfl⟩
    rw [List.append_assoc, List.cons_append, spanPoint_point before,
      Json.spanDigits_digits behind ends]

theorem pointed_of_spanPoint {cs whole fraction rest : List Char}
    (h : spanPoint cs = (whole, fraction, rest)) (some : whole ++ fraction ≠ []) :
    ∃ front, cs = front ++ rest ∧ Pointed front (whole ++ fraction) fraction.length := by
  obtain ⟨before, cs, rfl, all, ends⟩ := Json.exists_digits cs
  by_cases point : '.' ∈ cs.head?
  · obtain ⟨cs, rfl⟩ : ∃ more, cs = '.' :: more := List.head?_eq_some_iff.mp point
    obtain ⟨behind, others, rfl, all', ends'⟩ := Json.exists_digits cs
    rw [spanPoint_point all, Json.spanDigits_digits all' ends'] at h
    cases h
    exact ⟨whole ++ '.' :: behind, by simp,
      .point ⟨some, List.forall_mem_append.mpr ⟨all, all'⟩⟩⟩
  · rw [spanPoint_plain all ends point] at h
    cases h
    rw [List.append_nil] at some ⊢
    exact ⟨whole, rfl, .whole ⟨some, all⟩⟩

theorem Pointed.digits {cs digits : List Char} {places : Nat} (pointed : Pointed cs digits places) :
    Digits digits := by
  cases pointed with
  | whole isDigits => exact isDigits
  | point isDigits => exact isDigits

/-- The digits on both sides of the point make one number, and those behind it lower the
exponent. -/
theorem ofNumeral?_literal {sign cs digits exponent : List Char} {negative : Bool} {places : Nat}
    {k : Int} (isSign : SignMark sign negative) (pointed : Pointed cs digits places)
    (scale : Scale exponent k) : ofNumeral? (sign ++ (cs ++ exponent)) =
      some (if negative then -ofDecimal (natOfDigits digits) (k - places)
        else ofDecimal (natOfDigits digits) (k - places)) := by
  obtain ⟨ends, noPoint⟩ := Json.exponent_ends scale.exponent .nil
  rw [List.append_nil] at ends noPoint
  obtain ⟨whole, fraction, span, rfl, rfl⟩ := pointed.span ends noPoint
  have found : (if exponent.isEmpty then some (0, []) else spanExponent? exponent) =
      some (k, []) := by
    cases exponent with
    | nil =>
      cases scale
      rfl
    | cons c cs => exact scale.span (List.cons_ne_nil c cs)
  unfold ofNumeral?
  rw [isSign.span (pointed.noSign exponent)]
  dsimp only
  rw [span]
  dsimp only
  rw [found]
  split
  next none => exact absurd none pointed.digits.some
  next none _ => cases none
  next same _ =>
    cases same
    rfl
  next same _ => cases same

/-- The reader takes the decimal literals and nothing else, and gives their values. -/
theorem ofNumeral?_eq_some_iff {cs : List Char} {x : Float} :
    ofNumeral? cs = some x ↔ DecimalLiteral cs x := by
  constructor
  · intro h
    obtain ⟨sign, split, isSign⟩ := sign_spanSign cs
    unfold ofNumeral? at h
    generalize spanSign cs = signed at h split isSign
    obtain ⟨negative, cs'⟩ := signed
    dsimp only at h split isSign
    subst split
    cases span : spanPoint cs' with
    | mk whole behind =>
    obtain ⟨fraction, rest⟩ := behind
    rw [span] at h
    dsimp only at h
    split at h
    next => cases h
    next => cases h
    next exponent found some =>
      obtain ⟨front, rfl, pointed⟩ := pointed_of_spanPoint span some
      have scale : Scale rest exponent := by
        split at found
        next empty =>
          cases found
          rw [List.isEmpty_iff.mp empty]
          exact .none
        next =>
          obtain ⟨front, split, scale⟩ := scale_of_spanExponent? found
          rwa [split, List.append_nil]
      cases h
      exact .mk isSign pointed scale (nearestDouble_ofDecimal _ _)
    next => cases h
  · rintro ⟨isSign, pointed, scale, value⟩
    rw [ofNumeral?_literal isSign pointed scale, value.unique (nearestDouble_ofDecimal _ _)]

theorem SignMark.part {sign : List Char} {negative : Bool} (isSign : SignMark sign negative) :
    ∀ c ∈ sign, partOfNumeral c = true := by
  cases isSign <;> exact List.all_eq_true.mp rfl

theorem Pointed.part {cs digits : List Char} {places : Nat} (pointed : Pointed cs digits places) :
    ∀ c ∈ cs, partOfNumeral c = true := by
  cases pointed with
  | whole isDigits => exact isDigits.part
  | point isDigits =>
    obtain ⟨before, behind⟩ := List.forall_mem_append.mp isDigits.part
    exact List.forall_mem_append.mpr ⟨before, List.forall_mem_cons.mpr ⟨rfl, behind⟩⟩

theorem DecimalLiteral.part {cs : List Char} {x : Float} (literal : DecimalLiteral cs x) :
    ∀ c ∈ cs, partOfNumeral c = true := by
  obtain ⟨isSign, pointed, scale, -⟩ := literal
  exact List.forall_mem_append.mpr
    ⟨isSign.part, List.forall_mem_append.mpr ⟨pointed.part, scale.exponent.part⟩⟩

theorem DecimalLiteral.ne_nil {cs : List Char} {x : Float} (literal : DecimalLiteral cs x) :
    cs ≠ [] := by
  rintro rfl
  have read := ofNumeral?_eq_some_iff.mpr literal
  cases read

theorem DecimalLiteral.isNaN {cs : List Char} {x : Float} (literal : DecimalLiteral cs x) :
    x.isNaN = false := by
  obtain ⟨-, -, -, value⟩ := literal
  split
  · exact value.isNaN.2
  · exact value.isNaN.1

theorem noPoint_of_digits {digits : List Char} (all : ∀ c ∈ digits, isDigit c = true) :
    digits.count '.' = 0 :=
  List.count_eq_zero.mpr fun isIn => absurd (all '.' isIn) (by decide)

theorem SignMark.noPoint {sign : List Char} {negative : Bool} (isSign : SignMark sign negative) :
    sign.count '.' = 0 := by
  cases isSign <;> decide

theorem Scale.noPoint {cs : List Char} {k : Int} (scale : Scale cs k) : cs.count '.' = 0 := by
  cases scale with
  | none => rfl
  | mark isMark isSign behind =>
    rcases isMark with rfl | rfl
    all_goals simp [isSign.noPoint, noPoint_of_digits behind.all]

theorem Pointed.onePoint {cs digits : List Char} {places : Nat}
    (pointed : Pointed cs digits places) : cs.count '.' ≤ 1 := by
  cases pointed with
  | whole isDigits => exact (noPoint_of_digits isDigits.all).trans_le (Nat.zero_le 1)
  | point isDigits =>
    obtain ⟨before, behind⟩ := List.forall_mem_append.mp isDigits.all
    simp [noPoint_of_digits before, noPoint_of_digits behind]

/-- A literal has at most one point. -/
theorem DecimalLiteral.onePoint {cs : List Char} {x : Float} (literal : DecimalLiteral cs x) :
    cs.count '.' ≤ 1 := by
  obtain ⟨isSign, pointed, scale, -⟩ := literal
  rw [List.count_append, List.count_append, isSign.noPoint, scale.noPoint, Nat.zero_add]
  exact pointed.onePoint

end DocExpr.Number
