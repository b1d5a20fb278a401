import DocExpr.Number.Literal

/-! The sign of a double that is computed from decimal digits. A product or a quotient of numbers
without a minus sign has none, so a numeral that starts with a digit is not negative. -/
namespace DocExpr.Number
open Float.Model (UnpackedFloat Format)
open Float.Model.UnpackedFloat (Sign)

/-- The number has no minus sign; what is no number has none. -/
def Unsigned : UnpackedFloat → Prop
  | .notANumber => True
  | .infinity s | .zero s | .finite s .. => s = .positive

theorem Unsigned.ite {c : Prop} [Decidable c] {a b : UnpackedFloat} (ha : Unsigned a)
    (hb : Unsigned b) : Unsigned (if c then a else b) := by
  split
  · exact ha
  · exact hb

theorem Unsigned.dite {c : Prop} [Decidable c] {a : c → UnpackedFloat} {b : ¬ c → UnpackedFloat}
    (ha : ∀ h, Unsigned (a h)) (hb : ∀ h, Unsigned (b h)) :
    Unsigned (if h : c then a h else b h) := by
  split
  · exact ha _
  · exact hb _

theorem Unsigned.round (spec : Format) (m : Nat) (e : Int) (a : UnpackedFloat.Accuracy) :
    Unsigned (UnpackedFloat.roundWithAccuracy spec .positive m e a) := by
  unfold UnpackedFloat.roundWithAccuracy
  exact .dite (fun _ => rfl) fun _ => rfl

theorem Unsigned.mul {a b : UnpackedFloat} (ha : Unsigned a) (hb : Unsigned b) (spec : Format) :
    Unsigned (UnpackedFloat.mul spec a b) := by
  cases a <;> cases b <;> try trivial
  all_goals
    cases ha
    cases hb
  case finite.finite => exact .round ..
  all_goals rfl

theorem Unsigned.div {a b : UnpackedFloat} (ha : Unsigned a) (hb : Unsigned b) (spec : Format) :
    Unsigned (UnpackedFloat.div spec a b) := by
  cases a <;> cases b <;> try trivial
  all_goals
    cases ha
    cases hb
  case finite.finite => exact .round ..
  all_goals rfl

theorem Unsigned.ofNat (spec : Format) (n : Nat) : Unsigned (UnpackedFloat.ofNat spec n) := by
  unfold UnpackedFloat.ofNat UnpackedFloat.ofInt UnpackedFloat.normalize
  split
  next below => exact absurd (Int.compare_eq_lt.mp below) (by omega)
  next => rfl
  next => exact .round ..

theorem Unsigned.ofScientific (spec : Format) (m : Nat) (e : Int) :
    Unsigned (UnpackedFloat.ofScientific spec m e) := by
  unfold UnpackedFloat.ofScientific
  refine .dite (fun _ => rfl) fun _ => .ite rfl (.ite rfl (.ite ?_ ?_))
  · refine Unsigned.mul ?_ ?_ spec <;> rfl
  · refine Unsigned.div ?_ ?_ spec <;> rfl

theorem signBit_eq_msb (x : Float) : signBit x = x.toBits.toBitVec.msb := by
  have bound := x.toBits.toBitVec.isLt
  rw [signBit, BitVec.msb_eq_decide, Bool.eq_iff_iff]
  simp only [beq_iff_eq, decide_eq_true_eq]
  change x.toBits.toBitVec.toNat / 2 ^ 63 % 2 = 1 ↔ 2 ^ 63 ≤ x.toBits.toBitVec.toNat
  omega

theorem msb_packComponents {s : Sign} (plus : s = .positive) (e : BitVec 11) (m : BitVec 52) :
    (UnpackedFloat.packComponents .binary64 s e m).msb = false := by
  cases plus
  unfold UnpackedFloat.packComponents
  rw [BitVec.msb_append, if_neg (by decide), BitVec.msb_append]
  rfl

theorem signBit_pack {u : UnpackedFloat} (h : Unsigned u) : signBit ⟨.pack u⟩ = false := by
  rw [signBit_eq_msb]
  change (UnpackedFloat.pack .binary64 u).msb = false
  unfold UnpackedFloat.pack
  split
  · rfl
  · cases h
    rfl
  · cases h
    rfl
  · dsimp only
    repeat' split
    all_goals exact msb_packComponents h _ _

theorem unsigned_unpack {x : Float} (h : signBit x = false) : Unsigned x.toModel.unpack := by
  rw [signBit_eq_msb, BitVec.msb_eq_decide, decide_eq_false_iff_not] at h
  have plus : @UnpackedFloat.unpackSign .binary64 x.toModel.toBits.toBitVec = 0#1 := by
    apply BitVec.eq_of_toNat_eq
    unfold UnpackedFloat.unpackSign
    rw [BitVec.toNat_cast, BitVec.extractLsb_toNat, Nat.shiftRight_eq_div_pow]
    change x.toBits.toBitVec.toNat / 2 ^ 63 % 2 = 0
    omega
  unfold Float.Model.unpack UnpackedFloat.unpack
  rw [plus]
  have nonzero : ∀ {m e} {h : 0 < m}, Unsigned (.finite (.ofBitVec 0#1) m e h) := rfl
  exact .ite (.ite rfl trivial) (.ite (.dite (fun _ => rfl) fun _ => nonzero) nonzero)

theorem signBit_mul {x y : Float} (hx : signBit x = false) (hy : signBit y = false) :
    signBit (x * y) = false :=
  signBit_pack (.mul (unsigned_unpack hx) (unsigned_unpack hy) _)

theorem signBit_div {x y : Float} (hx : signBit x = false) (hy : signBit y = false) :
    signBit (x / y) = false :=
  signBit_pack (.div (unsigned_unpack hx) (unsigned_unpack hy) _)

theorem signBit_powersOfTen : ∀ e, (_ : e < 23) →
    signBit Float.exactlyRepresentablePowersOfTen[e] = false := by
  decide

theorem signBit_ofScientific (m : Nat) (down : Bool) (e : Nat) :
    signBit (Float.ofScientific m down e) = false := by
  unfold Float.ofScientific
  split
  next small =>
    have power := signBit_powersOfTen e (Nat.lt_succ_of_le small.2)
    have digits : signBit m.toUInt64.toFloat = false := signBit_pack (.ofNat _ _)
    dsimp only
    split
    · exact signBit_div digits power
    · exact signBit_mul digits power
  next => exact signBit_pack (.ofScientific _ _ _)

theorem signBit_ofDecimal (digits : Nat) (exponent : Int) :
    signBit (ofDecimal digits exponent) = false := by
  unfold ofDecimal
  dsimp only
  repeat' split
  · exact signBit_ofScientific _ _ _
  · exact signBit_div (signBit_ofScientific _ _ _) (signBit_ofScientific _ _ _)
  · exact signBit_ofScientific _ _ _
  · exact signBit_ofScientific _ _ _

/-- A numeral that starts with a digit has no sign. -/
theorem signBit_ofNumeral? {c : Char} {cs : List Char} {x : Float} (digit : isDigit c = true)
    (h : ofNumeral? (c :: cs) = some x) : signBit x = false := by
  have signless : spanSign (c :: cs) = (false, c :: cs) := by
    unfold spanSign
    split
    next found =>
      cases found
      cases digit
    next found =>
      cases found
      cases digit
    next => rfl
  unfold ofNumeral? at h
  rw [signless] at h
  dsimp only at h
  split at h
  · cases h
  · cases h
  · cases h
    exact signBit_ofDecimal _ _
  · cases h

theorem signBit_nan : signBit nan = false :=
  signBit_div (signBit_ofScientific _ _ _) (signBit_ofScientific _ _ _)

/-- Cut off and held in the range of 64 bits, what is not negative stays so. -/
theorem toInt64_nonneg {x : Float} (h : signBit x = false) : 0 ≤ toInt64 x := by
  have top : (0 : Int) ≤ maxInt64 := by decide
  have plus : ∀ negative, (read x = .infinite negative → negative = false) ∧
      ∀ m e, read x = .finite negative m e → negative = false := by
    intro negative
    unfold read readBits
    dsimp only
    constructor
    · intro found
      repeat' split at found
      all_goals
        cases found
        try exact h
    · intro m e found
      repeat' split at found
      all_goals
        cases found
        try exact h
  unfold toInt64 clampInt wholePart
  split
  next => exact Int.le_refl 0
  next negative found =>
    cases (plus negative).1 found
    exact top
  next negative m e found =>
    cases (plus negative).2 m e found
    rw [found]
    simp only [Bool.false_eq_true, if_false]
    omega

end DocExpr.Number
