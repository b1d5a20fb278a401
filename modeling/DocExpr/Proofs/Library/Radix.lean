import DocExpr.Library.Dispatch
import DocExpr.Proofs.Number.WholeText
import DocExpr.Proofs.Value.WholePart
import Mathlib.Data.Nat.Digits.Defs

/-! Integers written in a base and read back. The text of an integer below `2 ^ 53` has its digits
in the base without zeros in front, so no mark of hexadecimal digits is seen in it, and the digits
make the integer again, also when the doubles on the way are rounded after each digit. -/
namespace DocExpr.Number

namespace Counts
variable {x : Float} {i : Int} (counts : Counts x i)
include counts

theorem isWhole : Number.isWhole x = true := by
  obtain ⟨-, negative, m, k, reading, rfl, -⟩ := counts
  unfold Number.isWhole
  rw [reading]
  dsimp only
  rw [splitWhole_exact]
  rfl

theorem clampInt {low high : Int} (least : low ≤ i) (most : i ≤ high) :
    Number.clampInt low high x = i := by
  rw [clampInt_of_finite counts.isFinite, counts.wholePart]
  omega

theorem beq_ofInt : (x == ofInt i) = true := by
  have same := counts.isInt.compare_eq (counts_ofInt counts.small).isInt
  change (x.toModel.unpack.compare (ofInt i).toModel.unpack == some Ordering.eq) = true
  rw [same, Int.compare_eq_eq.mpr rfl]
  rfl

end Counts

/-- The characters for the digits of all bases. -/
def digitSymbols : List Char := "0123456789abcdefghijklmnopqrstuvwxyz".toList

/-- The character for a digit. -/
def digitSymbol (d : Nat) : Char := digitSymbols.getD d '0'

/-- The digits of a natural number in a base, the first one not zero unless it is the only one. -/
structure BaseNumeral (base n : Nat) (digits : List Nat) : Prop where
  some : digits ≠ []
  small : ∀ d ∈ digits, d < base
  lead : digits.head? = .some 0 → digits = [0]
  value : Nat.ofDigits base digits.reverse = n

/-- The number that digits make, the first digit counting most. -/
def valueOfDigits (base : Nat) (digits : List Nat) : Nat :=
  digits.foldl (fun n d => n * base + d) 0

theorem valueOfDigits_snoc (base : Nat) (digits : List Nat) (d : Nat) :
    valueOfDigits base (digits ++ [d]) = valueOfDigits base digits * base + d := by
  rw [valueOfDigits, List.foldl_append, ← valueOfDigits]
  rfl

theorem valueOfDigits_eq (base : Nat) (digits : List Nat) :
    valueOfDigits base digits = Nat.ofDigits base digits.reverse := by
  induction digits using List.reverseRecOn with
  | nil => rfl
  | append_singleton digits d ih =>
    rw [valueOfDigits_snoc, ih, List.reverse_append, List.reverse_singleton, List.singleton_append,
      Nat.ofDigits_cons, Nat.add_comm, Nat.mul_comm]

/-- Nothing is lost where the digits are put together in doubles, as long as their number is below
`2 ^ 53`. -/
theorem counts_foldl {base : Nat} (some : 0 < base) (few : base < 2 ^ 53) {digits : List Nat}
    (below : ∀ d ∈ digits, d < base) (small : valueOfDigits base digits < 2 ^ 53) :
    Counts (digits.foldl (fun x d => x * Float.ofNat base + Float.ofNat d) 0.0)
      (valueOfDigits base digits) := by
  induction digits using List.reverseRecOn with
  | nil => exact counts_ofNat (n := 0) (by decide)
  | append_singleton digits d ih =>
    obtain ⟨front, last⟩ := List.forall_mem_append.mp below
    have digit : d < base := last d List.mem_cons_self
    have grows : valueOfDigits base digits ≤ valueOfDigits base digits * base :=
      Nat.le_mul_of_pos_right _ some
    rw [valueOfDigits_snoc] at small ⊢
    have counts := ih front (by omega)
    rw [List.foldl_append]
    push_cast
    have product := counts.mul (counts_ofNat few) (by rw [← Int.natCast_mul]; omega)
    exact product.add (counts_ofNat (by omega)) (by rw [← Int.natCast_mul]; omega)

theorem alphanumericValue?_digitSymbol : ∀ d < 36, alphanumericValue? (digitSymbol d) = some d := by
  decide

theorem digitSymbol_plain : ∀ d < 36, Text.isBlank (digitSymbol d) = false ∧
    digitSymbol d ≠ '+' ∧ digitSymbol d ≠ '-' ∧ (digitSymbol d = '0' → d = 0) := by
  decide

section
variable {base n : Nat} {digits : List Nat}

theorem leadingDigits_symbols (most : base ≤ 36) (below : ∀ d ∈ digits, d < base) :
    leadingDigits base (digits.map digitSymbol) = digits := by
  induction digits with
  | nil => rfl
  | cons d digits ih =>
    obtain ⟨digit, below⟩ := List.forall_mem_cons.mp below
    have read : baseDigit? base (digitSymbol d) = some d := by
      rw [baseDigit?, alphanumericValue?_digitSymbol d (by omega), Option.filter_some,
        if_pos (by simpa using digit)]
    rw [List.map_cons, leadingDigits, read]
    dsimp only
    rw [ih below]

variable (numeral : BaseNumeral base n digits)
include numeral

theorem ofBaseDigits_numeral (small : n < 2 ^ 53) : ofBaseDigits base digits = Float.ofNat n := by
  have value := valueOfDigits_eq base digits
  rw [numeral.value] at value
  unfold ofBaseDigits
  dsimp only
  rw [← valueOfDigits, value]
  exact if_pos small

variable (most : base ≤ 36)
include most

/-- Behind a zero in front there is nothing that could be taken for a mark. -/
theorem BaseNumeral.noMark : dropHexMark? (digits.map digitSymbol) = none := by
  obtain ⟨d, more, rfl⟩ := List.exists_cons_of_ne_nil numeral.some
  have digit := numeral.small d List.mem_cons_self
  cases more with
  | nil =>
    unfold dropHexMark?
    split
    next same => cases congrArg List.length same
    next same => cases congrArg List.length same
    next => rfl
  | cons e more =>
    have other : digitSymbol d ≠ '0' := fun same => by
      have zero := (digitSymbol_plain d (by omega)).2.2.2 same
      have single := numeral.lead (congrArg Option.some zero)
      cases congrArg List.length single
    unfold dropHexMark?
    split
    next same => exact absurd (List.cons.inj same).1 other
    next same => exact absurd (List.cons.inj same).1 other
    next => rfl

theorem BaseNumeral.plain : ∀ c ∈ digits.map digitSymbol,
    Text.isBlank c = false ∧ c ≠ '+' ∧ c ≠ '-' := by
  intro c isIn
  obtain ⟨d, isDigit, rfl⟩ := List.mem_map.mp isIn
  have digit := numeral.small d isDigit
  obtain ⟨solid, noPlus, noMinus, -⟩ := digitSymbol_plain d (by omega)
  exact ⟨solid, noPlus, noMinus⟩

end

/-- A sign in front of a magnitude. -/
def signMark (negative : Bool) : List Char := if negative then ['-'] else []

theorem signMark_isSign (negative : Bool) : SignMark (signMark negative) negative := by
  cases negative
  · exact .none
  · exact .minus

theorem trim_signed (negative : Bool) {cs : List Char} (solid : ∀ c ∈ cs, Text.isBlank c = false) :
    Text.trim (signMark negative ++ cs) = signMark negative ++ cs := by
  refine Text.trim_eq_self (List.forall_mem_append.mpr ⟨?_, solid⟩)
  cases negative with
  | false => exact fun c isIn => absurd isIn List.not_mem_nil
  | true => exact List.forall_mem_singleton.mpr rfl

section
variable {i : Int} {base : Nat} {digits : List Nat}
  (numeral : BaseNumeral base i.natAbs digits) (small : i.natAbs < 2 ^ 53)
include numeral small

theorem signed_numeral : (if decide (i < 0) then -ofBaseDigits base digits
    else ofBaseDigits base digits) = ofInt i := by
  rw [ofBaseDigits_numeral numeral small, ofInt]
  by_cases negative : i < 0
  · simp [negative]
  · simp [negative]

/-- In its base a numeral is read, whether the base is given or shown by the text. -/
theorem leadingInteger_numeral (most : base ≤ 36) (given : Option Nat)
    (isBase : given.getD 10 = base) :
    leadingInteger (String.ofList (signMark (i < 0) ++ digits.map digitSymbol)) given =
      ofInt i := by
  have plain := numeral.plain most
  have noSign : ∀ c ∈ (digits.map digitSymbol).head?, c ≠ '+' ∧ c ≠ '-' :=
    fun c isFirst => (plain c (List.mem_of_head? isFirst)).2
  have signed := (signMark_isSign (i < 0)).span noSign
  have trimmed := trim_signed (i < 0) fun c isIn => (plain c isIn).1
  have noMark := numeral.noMark most
  have read := leadingDigits_symbols most numeral.small
  have value := signed_numeral numeral small
  obtain ⟨d, more, rfl⟩ := List.exists_cons_of_ne_nil numeral.some
  unfold leadingInteger
  rw [String.toList_ofList, trimmed, signed]
  dsimp only
  rw [noMark]
  subst isBase
  cases given with
  | none =>
    dsimp only [Option.getD] at read value ⊢
    rw [read]
    exact value
  | some base =>
    dsimp only [Option.getD] at read value ⊢
    rw [read]
    exact value

end

/-- Behind their mark hexadecimal digits are read without a base. -/
theorem leadingInteger_hex {i : Int} {digits : List Nat}
    (numeral : BaseNumeral 16 i.natAbs digits) (small : i.natAbs < 2 ^ 53) :
    leadingInteger (String.ofList (signMark (i < 0) ++ ['0', 'x'] ++ digits.map digitSymbol)) none =
      ofInt i := by
  have plain := numeral.plain (by decide)
  have noSign : ∀ c ∈ ('0' :: 'x' :: digits.map digitSymbol).head?, c ≠ '+' ∧ c ≠ '-' := by
    rintro _ ⟨⟩
    decide
  have signed := (signMark_isSign (i < 0)).span noSign
  have solid : ∀ c ∈ '0' :: 'x' :: digits.map digitSymbol, Text.isBlank c = false :=
    List.forall_mem_cons.mpr ⟨rfl, List.forall_mem_cons.mpr ⟨rfl, fun c isIn => (plain c isIn).1⟩⟩
  have trimmed := trim_signed (i < 0) solid
  have read := leadingDigits_symbols (by decide) numeral.small
  have value := signed_numeral numeral small
  obtain ⟨d, more, rfl⟩ := List.exists_cons_of_ne_nil numeral.some
  unfold leadingInteger
  rw [String.toList_ofList, List.append_assoc, List.cons_append, List.singleton_append, trimmed,
    signed]
  have marked (cs : List Char) : dropHexMark? ('0' :: 'x' :: cs) = some cs := rfl
  dsimp only
  rw [marked]
  dsimp only
  rw [read]
  exact value

end DocExpr.Number

namespace DocExpr.Library
open Number (BaseNumeral Counts digitSymbol signMark valueOfDigits)

theorem radixDigit_eq : ∀ d < 36, radixDigit d = digitSymbol d := by decide

theorem numeral_single {base d : Nat} (digit : d < base) : BaseNumeral base d [d] where
  some := List.cons_ne_nil d []
  small := List.forall_mem_singleton.mpr digit
  lead := fun zero => by rw [Option.some.inj zero]
  value := Nat.ofDigits_singleton

theorem numeral_snoc {base n : Nat} {digits : List Nat} (large : base ≤ n) (two : 2 ≤ base)
    (numeral : BaseNumeral base (n / base) digits) :
    BaseNumeral base n (digits ++ [n % base]) where
  some := List.append_ne_nil_of_right_ne_nil _ (List.cons_ne_nil _ _)
  small := List.forall_mem_append.mpr
    ⟨numeral.small, List.forall_mem_singleton.mpr (Nat.mod_lt n (by omega))⟩
  lead := by
    intro zero
    rw [List.head?_append_of_ne_nil _ numeral.some] at zero
    have none := numeral.value
    rw [numeral.lead zero] at none
    have some : 0 < n / base := Nat.div_pos large (by omega)
    change Nat.ofDigits base [0] = _ at none
    rw [Nat.ofDigits_singleton] at none
    omega
  value := by
    rw [List.reverse_append, List.reverse_singleton, List.singleton_append, Nat.ofDigits_cons,
      numeral.value]
    exact Nat.mod_add_div n base

/-- The digits of a natural number in a base make its numeral. -/
theorem radixDigits_numeral {base : Nat} (two : 2 ≤ base) (most : base ≤ 36) (n : Nat) :
    ∃ digits, BaseNumeral base n digits ∧ radixDigits base n = digits.map digitSymbol := by
  induction n using Nat.strongRecOn with
  | _ n ih =>
  rw [radixDigits]
  split
  next single =>
    have digit : n < base := by omega
    refine ⟨[n], numeral_single digit, ?_⟩
    rw [radixDigit_eq n (by omega)]
    rfl
  next several =>
    have large : base ≤ n := by omega
    obtain ⟨digits, numeral, written⟩ := ih (n / base) (Nat.div_lt_self (by omega) (by omega))
    refine ⟨_, numeral_snoc large two numeral, ?_⟩
    have last : n % base < base := Nat.mod_lt n (by omega)
    rw [written, radixDigit_eq _ (by omega), List.map_append]
    rfl

theorem radixDigits_ten (n : Nat) : radixDigits 10 n = Number.digitChars n := by
  induction n using Nat.strongRecOn with
  | _ n ih =>
  have digit : ∀ d < 10, radixDigit d = d.digitChar := by decide
  rw [radixDigits, Number.digitChars]
  split
  next single => rw [digit n (by omega), Nat.toDigits_of_lt_base (by omega)]
  next several =>
    rw [Nat.toDigits_of_base_le (by decide) (by omega), ih (n / 10) (by omega),
      digit _ (Nat.mod_lt n (by decide))]
    rfl

theorem toRadix_counts {x : Float} {i : Int} (stands : Counts x i) (base : Nat) :
    toRadix x base = String.ofList (signMark (i < 0) ++ radixDigits base i.natAbs) := by
  have signed : Number.signed (i < 0) (radixDigits base i.natAbs) =
      signMark (i < 0) ++ radixDigits base i.natAbs := by
    by_cases negative : i < 0 <;> simp [Number.signed, signMark, negative]
  by_cases ten : base = 10
  · subst ten
    rw [← signed, radixDigits_ten, toRadix, if_pos (.inl rfl), stands.toText, Number.intText]
    by_cases negative : i < 0 <;> simp [Number.signed, negative]
  · have small : ¬ i.natAbs ≥ Number.exactLimit := Nat.not_le.mpr stands.small
    unfold toRadix
    rw [stands.isWhole, stands.wholePart, if_neg (by simp [ten, small])]
    dsimp only
    rw [signed]

section
variable (host : Host) (root : Value) {x y : Float} {n : Int} {r : Nat} (isBase : Counts y r)
  (least : 2 ≤ r) (most : r ≤ 36)
include isBase least most

theorem callMethod_toText (x : Float) :
    callMethod host root (.number x) "toString" [.number y] = pure (.string (toRadix x r)) := by
  have base : Number.clampInt 0 37 (Value.number y).toNumber = r :=
    isBase.clampInt (by omega) (by omega)
  have ran : NumberMethod.toText.run x [.number y] = .ok (.string (toRadix x r)) := by
    change (if Number.clampInt 0 37 (Value.number y).toNumber < 2 ∨ _ then _ else _) = _
    rw [base, if_neg (by omega)]
    rfl
  change (lift (NumberMethod.toText.run x [.number y]) : EvalM Value) = _
  rw [ran]
  rfl

theorem callGlobal_parseInt (s : String) :
    callGlobal host root "parseInt" [.string s, .number y] =
      pure (.number (Number.leadingInteger s (some r))) := by
  have base : Number.clampInt (-1) 37 (Value.number y).toNumber = r :=
    isBase.clampInt (by omega) (by omega)
  have read : parseInteger s (.number y) = Number.leadingInteger s (some r) := by
    change (if Number.clampInt (-1) 37 (Value.number y).toNumber = 0 then _
      else if _ then _ else _) = _
    rw [base, if_neg (by omega), if_neg (by omega)]
    rfl
  change (pure (.number (parseInteger s (.number y))) : EvalM Value) = _
  rw [read]

omit isBase least most in
theorem callGlobal_parseInt_plain (s : String) :
    callGlobal host root "parseInt" [.string s] =
      pure (.number (Number.leadingInteger s none)) := rfl

/-- An integer is written in a base as a sign and the numeral of its magnitude, and is read from
that text in the base. Without a base it is read from the digits of base ten, and from those of
base sixteen behind their mark. In the base the digits are put together in doubles without loss. -/
theorem radix_text_read_back (stands : Counts x n) :
    ∃ digits, BaseNumeral r n.natAbs digits ∧
      let sign := signMark (n < 0)
      let body := digits.map digitSymbol
      callMethod host root (.number x) "toString" [.number y] =
          pure (.string (String.ofList (sign ++ body))) ∧
        callGlobal host root "parseInt" [.string (String.ofList (sign ++ body)), .number y] =
          pure (.number (Number.ofInt n)) ∧
        (r = 10 → callGlobal host root "parseInt" [.string (String.ofList (sign ++ body))] =
          pure (.number (Number.ofInt n))) ∧
        (r = 16 →
          callGlobal host root "parseInt"
              [.string (String.ofList (sign ++ ['0', 'x'] ++ body))] =
            pure (.number (Number.ofInt n))) ∧
        (x == Number.ofInt n) = true ∧
        Counts (digits.foldl (fun x d => x * Float.ofNat r + Float.ofNat d) 0.0) n.natAbs := by
  have small := stands.small
  obtain ⟨digits, numeral, written⟩ := radixDigits_numeral least most n.natAbs
  refine ⟨digits, numeral, ?_, ?_, fun ten => ?_, fun sixteen => ?_, stands.beq_ofInt, ?_⟩
  · rw [callMethod_toText host root isBase least most, toRadix_counts stands, written]
  · rw [callGlobal_parseInt host root isBase least most,
      Number.leadingInteger_numeral numeral small most (some r) rfl]
  · subst ten
    rw [callGlobal_parseInt_plain, Number.leadingInteger_numeral numeral small most none rfl]
  · subst sixteen
    rw [callGlobal_parseInt_plain, Number.leadingInteger_hex numeral small]
  · have value := Number.valueOfDigits_eq r digits
    rw [numeral.value] at value
    have few : valueOfDigits r digits < 2 ^ 53 := by omega
    have counts := Number.counts_foldl (by omega) (by omega) numeral.small few
    rwa [value] at counts

end

/-- The least integer that is told apart from its neighbours, in the base that has most letters. -/
theorem least_integer_read_back :
    (Counts (Float.ofNat 36) (36 : Nat) ∧
        Counts (Number.ofInt (-9007199254740991)) (-9007199254740991)) ∧
      ∀ host root,
        callMethod host root (.number (Number.ofInt (-9007199254740991))) "toString"
            [.number (Float.ofNat 36)] = pure (.string "-2gosa7pa2gv") ∧
          callGlobal host root "parseInt" [.string "-2gosa7pa2gv", .number (Float.ofNat 36)] =
            pure (.number (Number.ofInt (-9007199254740991))) := by
  have isBase := Number.counts_ofNat (n := 36) (by decide)
  have stands := Number.counts_ofInt (i := -9007199254740991) (by decide)
  refine ⟨⟨isBase, stands⟩, fun host root => ?_⟩
  obtain ⟨digits, -, wrote, read, -⟩ :=
    radix_text_read_back host root isBase (by decide) (by decide) stands
  have magnitude : radixDigits 36 9007199254740991 = "2gosa7pa2gv".toList := by
    simp [radixDigits, radixDigit]
  have written : toRadix (Number.ofInt (-9007199254740991)) 36 = "-2gosa7pa2gv" := by
    rw [toRadix_counts stands, Int.natAbs_neg]
    exact congrArg (fun cs => String.ofList ('-' :: cs)) magnitude
  rw [callMethod_toText host root isBase (by decide) (by decide), written] at wrote ⊢
  have same := Value.string.inj (EvalM.pure_injective wrote)
  rw [← same] at read
  exact ⟨rfl, read⟩

end DocExpr.Library
