import DocExpr.Number.Binary

/-! Equality of numbers. Numbers are equal if they have the same comparand: one zero stands for
both, and what is no number has none. So equality is symmetric and transitive, and only what is no number
differs from itself. -/
namespace DocExpr.Number
open Float.Model (UnpackedFloat)

/-- Zero without a sign in place of either zero. -/
def plainZero (x : Float) : Float :=
  match read x with
  | .finite _ 0 _ => 0.0
  | _ => x

theorem eq_of_toBits {x y : Float} (same : x.toBits = y.toBits) : x = y := by
  obtain ⟨⟨b, _⟩⟩ := x
  obtain ⟨⟨b', _⟩⟩ := y
  cases same
  rfl

theorem eq_zero_of_read {x : Float} {negative : Bool} {e : Int}
    (h : read x = .finite negative 0 e) : x = 0.0 ∨ x = -0.0 := by
  have bits : x.toBits.toNat = (0 : UInt64).toNat ∨
      x.toBits.toNat = (0x8000000000000000 : UInt64).toNat := by
    have bound := x.toBits.toBitVec.isLt
    change x.toBits.toNat < 2 ^ 64 at bound
    change x.toBits.toNat = 0 ∨ x.toBits.toNat = 2 ^ 63
    simp only [read, readBits, Nat.pow_eq] at h
    split at h
    · split at h <;> cases h
    · split at h
      · injection h with _ fraction
        omega
      · injection h with _ fraction
        omega
  rcases bits with plus | minus
  · exact .inl (eq_of_toBits (UInt64.toNat_inj.mp plus))
  · exact .inr (eq_of_toBits (UInt64.toNat_inj.mp minus))

theorem unpack_of_finite {x : Float} (finite : isFinite x = true) :
    x.toModel.unpack ≠ .notANumber := by
  intro none
  unfold Float.Model.unpack UnpackedFloat.unpack at none
  dsimp only at none
  by_cases top : @UnpackedFloat.unpackExponent .binary64 x.toModel.toBits.toBitVec = -1#11
  · have scale : x.toBits.toNat / 2 ^ 52 % 2048 = 2047 := by
      have := congrArg BitVec.toNat top
      unfold UnpackedFloat.unpackExponent at this
      rw [BitVec.toNat_cast, BitVec.extractLsb_toNat, Nat.shiftRight_eq_div_pow] at this
      exact this
    simp only [isFinite, read, readBits, Nat.pow_eq, scale, if_true] at finite
    split at finite
    next found =>
      split at found <;> cases found
    next => cases finite
  · rw [if_neg top] at none
    by_cases low : @UnpackedFloat.unpackExponent .binary64 x.toModel.toBits.toBitVec = 0#11
    · rw [if_pos low] at none
      by_cases zero : @UnpackedFloat.unpackMantissa .binary64 x.toModel.toBits.toBitVec = 0#52
      · rw [dif_pos zero] at none
        cases none
      · rw [dif_neg zero] at none
        cases none
    · rw [if_neg low] at none
      cases none

/-- What equality of numbers looks at: nothing for what is no number, and one zero for both. -/
def comparand (x : Float) : Option UnpackedFloat :=
  match x.toModel.unpack with
  | .notANumber => none
  | .zero _ => some (.zero .positive)
  | u => some u

theorem compare_finite_iff {s t : UnpackedFloat.Sign} {m n : Nat} {e f : Int} {pos : 0 < m}
    {pos' : 0 < n} :
    (UnpackedFloat.finite s m e pos).compare (.finite t n f pos') = some .eq ↔
      s = t ∧ m = n ∧ e = f := by
  cases s with
  | negative =>
    cases t with
    | negative =>
      change some ((compare e f).then (compare m n)).swap = some .eq ↔ _
      simp [Ordering.then_eq_eq, and_comm]
    | positive =>
      change some Ordering.lt = some .eq ↔ _
      simp
  | positive =>
    cases t with
    | negative =>
      change some Ordering.gt = some .eq ↔ _
      simp
    | positive =>
      change some ((compare e f).then (compare m n)) = some .eq ↔ _
      simp [Ordering.then_eq_eq, and_comm]

/-- A number that is neither zero nor infinite has no equal of another kind. -/
theorem compare_finite_ne {s : UnpackedFloat.Sign} {m : Nat} {e : Int} {pos : 0 < m}
    {v : UnpackedFloat} (other : ∀ t n f pos', v ≠ .finite t n f pos') :
    (UnpackedFloat.finite s m e pos).compare v ≠ some .eq ∧
      v.compare (.finite s m e pos) ≠ some .eq := by
  cases v with
  | notANumber =>
    constructor
    all_goals
      intro same
      cases same
  | infinity t =>
    cases s <;> cases t <;> constructor
    all_goals
      intro same
      cases same
  | zero =>
    cases s <;> constructor
    all_goals
      intro same
      cases same
  | finite t n f pos' => exact absurd rfl (other t n f pos')

theorem beq_iff {x y : Float} :
    (x == y) = true ↔ (comparand x).isSome ∧ comparand x = comparand y := by
  change (x.toModel.unpack.compare y.toModel.unpack == some Ordering.eq) = true ↔ _
  unfold comparand
  generalize x.toModel.unpack = u
  generalize y.toModel.unpack = v
  rw [beq_iff_eq]
  cases u with
  | notANumber =>
    refine iff_of_false (fun same => ?_) fun both => ?_
    · cases same
    · cases both.1
  | infinity s =>
    cases v with
    | infinity t =>
      by_cases same : s = t
      · subst same
        exact iff_of_true (by cases s <;> rfl) ⟨rfl, rfl⟩
      · refine iff_of_false (fun equal => same ?_) fun both => same ?_
        · cases s <;> cases t <;> first | rfl | cases equal
        · cases both.2
          rfl
    | finite =>
      refine iff_of_false (compare_finite_ne fun _ _ _ _ same => ?_).2 fun both => ?_
      · cases same
      · cases both.2
    | _ =>
      refine iff_of_false (fun same => ?_) fun both => ?_
      · cases s <;> cases same
      · cases both.2
  | zero s =>
    cases v with
    | zero t => exact iff_of_true rfl ⟨rfl, rfl⟩
    | finite =>
      refine iff_of_false (compare_finite_ne fun _ _ _ _ same => ?_).2 fun both => ?_
      · cases same
      · cases both.2
    | infinity t =>
      refine iff_of_false (fun same => ?_) fun both => ?_
      · cases t <;> cases same
      · cases both.2
    | notANumber =>
      refine iff_of_false (fun same => ?_) fun both => ?_
      · cases same
      · cases both.2
  | finite s m e pos =>
    cases v with
    | finite t n f pos' =>
      rw [compare_finite_iff]
      constructor
      · rintro ⟨rfl, rfl, rfl⟩
        exact ⟨rfl, rfl⟩
      · rintro ⟨-, same⟩
        cases same
        exact ⟨rfl, rfl, rfl⟩
    | _ =>
      refine iff_of_false (compare_finite_ne fun _ _ _ _ same => ?_).1 fun both => ?_
      · cases same
      · cases both.2

theorem isNaN_eq (x : Float) : x.isNaN = (comparand x).isNone := by
  change x.toModel.unpack.isNaN = _
  unfold comparand
  cases x.toModel.unpack <;> rfl

theorem beq_comm (x y : Float) : (x == y) = (y == x) := by
  rw [Bool.eq_iff_iff, beq_iff, beq_iff]
  constructor
  all_goals
    rintro ⟨number, same⟩
    exact ⟨same ▸ number, same.symm⟩

theorem beq_trans {x y z : Float} (first : (x == y) = true) (second : (y == z) = true) :
    (x == z) = true := by
  obtain ⟨number, same⟩ := beq_iff.mp first
  obtain ⟨-, same'⟩ := beq_iff.mp second
  exact beq_iff.mpr ⟨number, same.trans same'⟩

theorem beq_self_iff {x : Float} : (x == x) = true ↔ x.isNaN = false := by
  rw [beq_iff, isNaN_eq]
  cases comparand x <;> simp

theorem beq_self {x : Float} (finite : isFinite x = true) : (x == x) = true := by
  have number := unpack_of_finite finite
  rw [beq_self_iff, isNaN_eq]
  unfold comparand
  cases kind : x.toModel.unpack with
  | notANumber => exact absurd kind number
  | _ => rfl

/-- Whether zero has a sign is not seen. -/
theorem beq_plainZero {x : Float} (finite : isFinite x = true) : (x == plainZero x) = true := by
  unfold plainZero
  split
  next zero =>
    rcases eq_zero_of_read zero with rfl | rfl
    · decide
    · decide
  next => exact beq_self finite

end DocExpr.Number
