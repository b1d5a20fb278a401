import DocExpr.Library.Global
import DocExpr.Proofs.Json.Printed
import DocExpr.Proofs.Value.Display
import DocExpr.Proofs.Value.NumberText
import DocExpr.Proofs.Value.Order

/-! The readers of numbers on the text of a number. Conversion to a number, the reader of the longest
numeral in front, the reader of documents and the lexer each scan for themselves; a text that is one
numeral is taken whole by each of them, and the text of a finite number is such a text. -/
namespace DocExpr

namespace Number

theorem isBlank_of_part {c : Char} (part : partOfNumeral c = true) : Text.isBlank c = false := by
  rcases Bool.or_eq_true_iff.mp part with digit | mark
  · exact isBlank_of_isDigit digit
  · simp only [List.contains_iff_mem, List.mem_cons, List.not_mem_nil, or_false] at mark
    rcases mark with rfl | rfl | rfl | rfl | rfl <;> rfl

theorem SignedNumeral.solid {cs : List Char} (numeral : SignedNumeral cs) :
    ∀ c ∈ cs, Text.isBlank c = false :=
  fun c isIn => isBlank_of_part (numeral.part c isIn)

theorem SignedNumeral.ne_of_mem {cs ds : List Char} (numeral : SignedNumeral cs) {c : Char}
    (isIn : c ∈ ds) (noPart : partOfNumeral c = false) : cs ≠ ds := by
  rintro rfl
  rw [numeral.part c isIn] at noPart
  cases noPart

theorem spanSign_signed (negative : Bool) {t : List Char} (numeral : Numeral t) :
    spanSign (signed negative t) = (negative, t) := by
  obtain ⟨c, more, rfl, digit⟩ := numeral.cons
  cases negative with
  | false => exact Json.spanSign_digit digit more
  | true => rfl

theorem afterNumeral?_numeral {cs : List Char} (numeral : SignedNumeral cs) :
    afterNumeral? cs = some [] := by
  obtain ⟨negative, numeral⟩ := numeral
  unfold afterNumeral?
  rw [spanSign_signed negative numeral]
  obtain ⟨digits, point, mark⟩ := numeral
  dsimp only
  rw [spanPoint_front digits point mark]
  dsimp only
  rw [if_neg (by simp [digits.some])]
  cases mark with
  | none => rfl
  | mark isMark isSign behind =>
    obtain ⟨n, found⟩ :=
      Expr.spanExponent?_front isMark isSign behind (Json.noDigit_of_stops .nil)
    rw [List.append_nil] at found
    rw [found]

theorem leadingNumeral_numeral {s : String} (numeral : SignedNumeral s.toList) :
    leadingNumeral s = (ofNumeral? s.toList).getD nan := by
  have after := afterNumeral?_numeral numeral
  unfold leadingNumeral
  rw [Text.trimLeft, Text.dropWhile_isBlank numeral.solid]
  dsimp only
  rw [after]
  dsimp only
  rw [List.length_nil, Nat.sub_zero, List.take_length]
  generalize s.toList = cs at numeral
  obtain ⟨negative, numeral⟩ := numeral
  rename_i t
  have noInfinity : Text.startsWith "Infinity".toList t = false := by
    refine Bool.eq_false_iff.mpr fun starts => ?_
    obtain ⟨rest, same⟩ := List.isPrefixOf_iff_prefix.mp starts
    have isIn : 'I' ∈ "Infinity".toList ++ rest := List.mem_append_left rest (by decide)
    exact (SignedNumeral.mk false numeral).ne_of_mem isIn rfl same.symm
  rw [spanSign_signed negative numeral]
  dsimp only
  rw [noInfinity]
  rfl

end Number

namespace Value

theorem numberOfText_numeral {s : String} (numeral : Number.SignedNumeral s.toList) :
    numberOfText s = (Number.ofNumeral? s.toList).getD Number.nan := by
  have some : s.toList ≠ [] := by
    generalize s.toList = cs at numeral
    obtain ⟨negative, numeral⟩ := numeral
    obtain ⟨c, more, rfl, -⟩ := numeral.cons
    cases negative <;> exact List.cons_ne_nil _ _
  have trimmed := Text.trim_eq_self numeral.solid
  rw [← trimmed] at some
  have read := numberOfText_part some (trimmed.symm ▸ numeral.part)
  rwa [trimmed] at read

end Value

namespace Expr

theorem tokensLoop_numeral {t : List Char} {x : Float} (numeral : Number.Numeral t)
    (read : Number.ofNumeral? t = some x) (total fuel : Nat) (regexAllowed : Bool) :
    tokensLoop total (fuel + 2) regexAllowed t = .ok [⟨.number x, total - t.length⟩] := by
  have span := spanNumeral_front numeral .nil
  rw [List.append_nil] at span
  obtain ⟨c, cs, rfl, digit⟩ := numeral.cons
  have first : readToken regexAllowed c cs = .ok (.number x, []) := by
    rw [readToken_digit digit, span]
    dsimp only
    rw [read]
    rfl
  rw [tokensLoop, skipLayout_digit digit]
  simp only [bind, Except.bind, first]
  rfl

theorem tokensOf_numeral {t : List Char} {x : Float} (numeral : Number.Numeral t)
    (read : Number.ofNumeral? t = some x) : tokensOf t = .ok [⟨.number x, 0⟩] := by
  obtain ⟨c, cs, rfl, -⟩ := numeral.cons
  rw [tokensOf, List.length_cons, tokensLoop_numeral numeral read, List.length_cons, Nat.sub_self]

theorem tokensOf_minus {t : List Char} {x : Float} (numeral : Number.Numeral t)
    (read : Number.ofNumeral? t = some x) :
    tokensOf ('-' :: t) = .ok [⟨.symbol .minus, 0⟩, ⟨.number x, 1⟩] := by
  have some : 0 < t.length := by
    obtain ⟨c, cs, rfl, -⟩ := numeral.cons
    exact Nat.succ_pos _
  obtain ⟨fuel, length⟩ : ∃ fuel, t.length = fuel + 1 := ⟨t.length - 1, by omega⟩
  have others := tokensLoop_numeral numeral read (t.length + 1) fuel
    (Token.symbol .minus).allowsRegex
  have layout : skipLayout none ('-' :: t) = .ok ('-' :: t) := rfl
  have first : readToken true '-' t = .ok (.symbol .minus, t) := rfl
  rw [tokensOf, List.length_cons, length, tokensLoop, layout]
  simp only [bind, Except.bind, first]
  rw [← length, others]
  simp [length, pure, Except.pure]

end Expr

section
variable {x : Float} {negative : Bool} {m : Nat} {e : Int}
  (reading : Number.read x = .finite negative m e) (some : 0 < m)
include reading some

theorem lt_zero_iff : x < 0.0 ↔ negative = true := by
  rw [lt_iff, Number.unpack_of_read reading some]
  cases negative with
  | true => exact iff_of_true rfl rfl
  | false => exact iff_of_false (fun less => nomatch less) Bool.false_ne_true

theorem zero_le_iff : 0.0 ≤ x ↔ negative = false := by
  have signs : (0.0 : Float).toModel.unpack.compare x.toModel.unpack =
      .some (if negative then .gt else .lt) := by
    rw [Number.unpack_of_read reading some]
    cases negative <;> rfl
  change decide (((0.0 : Float).toModel.unpack.le x.toModel.unpack) = true) = true ↔ _
  rw [Float.Model.UnpackedFloat.le, signs]
  cases negative <;> simp

theorem toText_of_read : Number.toText x = String.ofList (Number.signed negative
    ((Number.shortest Number.Layout.expression.tie m e).write .expression)) := by
  rw [Number.toText, reading]
  exact if_neg (Nat.pos_iff_ne_zero.mp some)

end

section
variable {x : Float} (finite : Number.isFinite x = true)
include finite

/-- A finite number is one of the zeros or has digits. -/
theorem finite_cases : x = 0.0 ∨ x = -0.0 ∨
    ∃ negative m e, Number.read x = .finite negative m e ∧ 0 < m := by
  unfold Number.isFinite at finite
  split at finite
  next negative m e reading =>
    by_cases zero : m = 0
    · subst zero
      rcases Number.eq_zero_of_read reading with plus | minus
      · exact .inl plus
      · exact .inr (.inl minus)
    · exact .inr (.inr ⟨negative, m, e, reading, Nat.pos_of_ne_zero zero⟩)
  next => cases finite

/-- The lexer and the conversions take the text for the number. -/
theorem literal_toText : Expr.literal.number (Number.toText x).toList (Number.plainZero x) := by
  have numeral := Number.toText_signedNumeral finite
  exact Value.number_plainZero Value.literal_zero (fun _ _ => Value.toText_of_zero) fun other =>
    ⟨numeral, Number.ofNumeral?_toText finite other⟩

/-- The reader of documents takes the text for the number where its arithmetic restores it. -/
theorem standard_toText (restores : Json.Restores x) :
    Json.standard.number (Number.toText x).toList (Number.plainZero x) := by
  refine Value.number_plainZero Value.standard_zero (fun _ _ => Value.toText_of_zero)
    fun other => ?_
  rcases finite_cases finite with rfl | rfl | ⟨negative, m, e, reading, some⟩
  · exact Value.standard_zero
  · exact absurd rfl other
  · obtain ⟨n, read, same⟩ := Json.unsigned_shortest reading some restores
    rw [toText_of_read reading some, String.toList_ofList]
    exact ⟨negative, _, n, rfl, read, same⟩

theorem readJson?_toText (restores : Json.Restores x) :
    Value.readJson? (Number.toText x) = some (.number (Number.plainZero x)) := by
  have scalar : Json.Scalar Json.standard _ (.number (.float (Number.plainZero x))) :=
    .number (standard_toText finite restores)
  have read := Json.readJson?_of_spells (.bare (scalar.spells 127))
  rwa [String.ofList_toList] at read

theorem tokensOf_toText (up : 0.0 ≤ x) :
    Expr.tokensOf (Number.toText x).toList = .ok [⟨.number (Number.plainZero x), 0⟩] := by
  obtain ⟨-, read⟩ := literal_toText finite
  refine Expr.tokensOf_numeral ?_ read
  rcases finite_cases finite with rfl | rfl | ⟨negative, m, e, reading, some⟩
  · exact (Number.digits_digitChars 0).numeral
  · exact (Number.digits_digitChars 0).numeral
  · cases (zero_le_iff reading some).mp up
    rw [toText_of_read reading some, String.toList_ofList]
    exact Number.Decimal.numeral_write _ _

omit finite in
theorem not_zero_lt_zero : ¬ (0.0 : Float) < 0.0 ∧ ¬ (-0.0 : Float) < 0.0 :=
  ⟨fun less => (nomatch lt_iff.mp less), fun less => (nomatch lt_iff.mp less)⟩

/-- A negative number is written as a minus sign and the number without it. -/
theorem toText_minus (down : x < 0.0) :
    (Number.toText x).toList = '-' :: (Number.toText (-x)).toList ∧
      Expr.tokensOf (Number.toText x).toList = .ok [⟨.symbol .minus, 0⟩, ⟨.number (-x), 1⟩] := by
  rcases finite_cases finite with rfl | rfl | ⟨negative, m, e, reading, some⟩
  · exact absurd down not_zero_lt_zero.1
  · exact absurd down not_zero_lt_zero.2
  · cases (lt_zero_iff reading some).mp down
    have opposite : Number.read (-x) = .finite false m e := Number.read_neg reading some
    have numeral := Number.Decimal.numeral_write .expression
      (Number.shortest Number.Layout.expression.tie m e)
    have finite' : Number.isFinite (-x) = true := by rw [Number.isFinite, opposite]
    have other : -x ≠ -0.0 := by
      intro zero
      rw [zero] at opposite
      have same : Number.Reading.finite true 0 (-1074) = .finite false m e := opposite
      cases same
    have read := Number.ofNumeral?_toText finite' other
    rw [toText_of_read opposite some, String.toList_ofList] at read ⊢
    rw [toText_of_read reading some, String.toList_ofList]
    exact ⟨rfl, Expr.tokensOf_minus numeral read⟩

end

/-- Every reader of numbers undoes the printer. The number that is read is the one that was printed,
zero without its sign. Of the arithmetic of the reader of documents it is assumed that it restores
the number from its digits. -/
theorem number_readers_undo_text {x : Float} (finite : Number.isFinite x = true) :
    ∃ y, (x == y) = true ∧
      (Value.string (Number.toText x)).toNumber = y ∧
      (∀ host root, Library.GlobalFunction.run .parseFloat host root [.string (Number.toText x)] =
        pure (.number y)) ∧
      (Json.Restores x →
        Library.JsonFunction.run .parse [.string (Number.toText x)] = .ok (.number y)) ∧
      (0.0 ≤ x → Expr.tokensOf (Number.toText x).toList = .ok [⟨.number y, 0⟩]) ∧
      (x < 0.0 → (Number.toText x).toList = '-' :: (Number.toText (-x)).toList ∧
        Expr.tokensOf (Number.toText x).toList =
          .ok [⟨.symbol .minus, 0⟩, ⟨.number (-x), 1⟩]) ∧
      ∀ options : Options, 2 ≤ options.maxDepth → 1 ≤ options.maxSteps → ∀ document label,
        evaluate (Number.toText x) document options label = .ok (.number y) := by
  obtain ⟨numeral, read⟩ := literal_toText finite
  refine ⟨Number.plainZero x, Number.beq_plainZero finite, ?_, fun host root => ?_,
    fun restores => ?_, tokensOf_toText finite, toText_minus finite,
    fun options deep enough document label => ?_⟩
  · rw [Value.toNumber, Value.numberOfText_numeral numeral, read]
    rfl
  · have leading := Number.leadingNumeral_numeral numeral
    rw [read] at leading
    exact congrArg (fun y => pure (Value.number y)) leading
  · have parsed : Value.readJson? (Library.textArg [.string (Number.toText x)] 0) = _ :=
      readJson?_toText finite restores
    unfold Library.JsonFunction.run
    dsimp only
    rw [parsed]
  · have scalar : Json.Scalar Expr.literal _ (.number (.float (Number.plainZero x))) :=
      .number (literal_toText finite)
    have value := evaluate_of_spells (.bare (scalar.spells 0)) deep enough document label
    rwa [String.ofList_toList] at value

/-- A negative number whose text has a point and an exponent. -/
theorem tiny_number_read_back :
    Number.isFinite (-1.5e-7) = true ∧ Json.Restores (-1.5e-7) ∧
      Number.toText (-1.5e-7) = "-1.5e-7" ∧
      ∃ y, ((-1.5e-7 : Float) == y) = true ∧
        (Value.string (Number.toText (-1.5e-7))).toNumber = y ∧
        (∀ host root, Library.GlobalFunction.run .parseFloat host root
          [.string (Number.toText (-1.5e-7))] = pure (.number y)) ∧
        Library.JsonFunction.run .parse [.string (Number.toText (-1.5e-7))] = .ok (.number y) ∧
        Expr.tokensOf (Number.toText (-1.5e-7)).toList =
          .ok [⟨.symbol .minus, 0⟩, ⟨.number (-(-1.5e-7)), 1⟩] ∧
        ∀ document label,
          evaluate (Number.toText (-1.5e-7)) document {} label = .ok (.number y) := by
  have finite : Number.isFinite (-1.5e-7) = true := by decide
  have restores : Json.Restores (-1.5e-7) := by
    refine Json.restores_of_few fun negative m e reading n k scaling => ?_
    have parts : Number.read (-1.5e-7) = .finite true 5666839779443574 (-75) := by decide
    cases parts.symm.trans reading
    have few : Json.scaling? (Number.shortest Number.Layout.expression.tie 5666839779443574 (-75)) =
        some (15, -8) := by decide
    cases few.symm.trans scaling
    decide
  have text : Number.toText (-1.5e-7) = "-1.5e-7" := by decide
  have down : (-1.5e-7 : Float) < 0.0 := by decide
  obtain ⟨y, same, converted, leading, parsed, -, minus, evaluated⟩ :=
    number_readers_undo_text finite
  exact ⟨finite, restores, text, y, same, converted, leading, parsed restores, (minus down).2,
    evaluated {} (by decide) (by decide)⟩

end DocExpr
