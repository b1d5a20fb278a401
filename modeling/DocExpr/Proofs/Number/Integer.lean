import DocExpr.Proofs.Number.Equality
import DocExpr.Proofs.Number.Whole
import Mathlib.Algebra.Group.Int.Defs

/-! Integers below `2 ^ 53` as doubles. Sums, differences and products of such doubles are those of
the integers, as long as these stay below the bound. -/
namespace DocExpr.Number
open Float.Model (Format UnpackedFloat totalExponent)
open Float.Model.UnpackedFloat

/-- The double stands for the integer. -/
structure Counts (x : Float) (i : Int) : Prop where
  small : i.natAbs < 2 ^ 53
  reading : ∃ negative m k, read x = .finite negative m (-(k : Nat)) ∧ m = i.natAbs * 2 ^ k ∧
    i = if negative then -(i.natAbs : Int) else i.natAbs

/-- The number, taken apart, is the integer: a zero, or one with a mantissa of 53 bits. -/
inductive IsInt : UnpackedFloat → Int → Prop where
  | zero (s : Sign) : IsInt (.zero s) 0
  | finite (s : Sign) {n : Nat} (pos : 0 < n) (small : n < 2 ^ 53)
      (filled : 0 < n * 2 ^ (52 - n.log2)) :
      IsInt (.finite s (n * 2 ^ (52 - n.log2)) (-((52 - n.log2 : Nat) : Int)) filled) (s.apply n)

theorem log2_mul_two_pow {n : Nat} (pos : 0 < n) (k : Nat) : (n * 2 ^ k).log2 = n.log2 + k := by
  have filled : 0 < n * 2 ^ k := Nat.mul_pos pos (Nat.two_pow_pos k)
  refine (Nat.log2_eq_iff (by omega)).mpr ⟨?_, ?_⟩
  · rw [Nat.pow_add]
    exact Nat.mul_le_mul_right _ (Nat.log2_self_le (by omega))
  · rw [Nat.add_right_comm, Nat.pow_add]
    exact Nat.mul_lt_mul_of_pos_right Nat.lt_log2_self (Nat.two_pow_pos k)

section
variable {n : Nat} (pos : 0 < n) (small : n < 2 ^ 53)
  (filled : 0 < n * 2 ^ (52 - n.log2))
include pos small

theorem roundWithAccuracy_whole (s : Sign) {k : Nat} (fine : 52 - n.log2 ≤ k) :
    roundWithAccuracy .binary64 s (n * 2 ^ k) (-(k : Int)) .exact =
      .finite s (n * 2 ^ (52 - n.log2)) (-((52 - n.log2 : Nat) : Int)) filled := by
  obtain ⟨j, rfl⟩ := Nat.exists_eq_add_of_le fine
  have rounded := roundWithAccuracy_of_fits (fits_whole pos small) s filled j
  rw [← rounded, Nat.pow_add, Nat.mul_assoc]
  congr 1
  omega

theorem round_whole (s : Sign) (k : Nat) :
    UnpackedFloat.round .binary64 s (n * 2 ^ k) (-(k : Int)) =
      .finite s (n * 2 ^ (52 - n.log2)) (-((52 - n.log2 : Nat) : Int)) filled := by
  have target : Format.binary64.targetExponent (totalExponent (n * 2 ^ k) (-(k : Int))) =
      (n.log2 : Int) - 52 := by
    rw [totalExponent, log2_mul_two_pow pos]
    change max (((n.log2 + k : Nat) : Int) + 1 + -k - (53 : Nat)) (-1074) = _
    omega
  have amount : (-(k : Int) - ((n.log2 : Int) - 52)).toNat = 52 - n.log2 - k := by omega
  have exponent : -(k : Int) - ((52 - n.log2 - k : Nat) : Int) =
      -((k + (52 - n.log2 - k) : Nat) : Int) := by omega
  unfold UnpackedFloat.round decreaseExponent
  dsimp only
  rw [target, amount, exponent, Nat.shiftLeft_eq, Nat.mul_assoc, ← Nat.pow_add]
  exact roundWithAccuracy_whole pos small filled s (by omega)

end

theorem isInt_normalize {i : Int} (small : i.natAbs < 2 ^ 53) (k : Nat) :
    IsInt (UnpackedFloat.normalize .binary64 (i * 2 ^ k) (-(k : Int)) .positive) i := by
  have unit : (0 : Int) < 2 ^ k := Int.pow_pos (by decide)
  unfold UnpackedFloat.normalize
  rcases Int.lt_trichotomy i 0 with below | rfl | above
  · obtain ⟨n, rfl⟩ : ∃ n : Nat, i = -n := ⟨i.natAbs, by omega⟩
    have pos : 0 < n := by omega
    have filled : 0 < n * 2 ^ (52 - n.log2) := Nat.mul_pos pos (Nat.two_pow_pos _)
    have order : compare (-(n : Int) * 2 ^ k) 0 = .lt :=
      Int.compare_eq_lt.mpr (Int.mul_neg_of_neg_of_pos below unit)
    have mantissa : (-(-(n : Int) * 2 ^ k)).toNat = n * 2 ^ k := by
      rw [Int.neg_mul, Int.neg_neg]
      exact_mod_cast Int.toNat_natCast (n * 2 ^ k)
    rw [order]
    dsimp only
    rw [mantissa, round_whole pos (by omega) filled]
    exact .finite .negative pos (by omega) filled
  · rw [Int.zero_mul]
    exact .zero .positive
  · obtain ⟨n, rfl⟩ : ∃ n : Nat, i = n := ⟨i.natAbs, by omega⟩
    have pos : 0 < n := by omega
    have filled : 0 < n * 2 ^ (52 - n.log2) := Nat.mul_pos pos (Nat.two_pow_pos _)
    have order : compare ((n : Int) * 2 ^ k) 0 = .gt :=
      Int.compare_eq_gt.mpr (Int.mul_pos above unit)
    have mantissa : ((n : Int) * 2 ^ k).toNat = n * 2 ^ k := by
      exact_mod_cast Int.toNat_natCast (n * 2 ^ k)
    rw [order]
    dsimp only
    rw [mantissa, round_whole pos (by omega) filled]
    exact .finite .positive pos (by omega) filled

theorem IsInt.counts {u : UnpackedFloat} {i : Int} (isInt : IsInt u i) : Counts ⟨.pack u⟩ i := by
  cases isInt with
  | zero s =>
    have scaled (k : Nat) : 0 = (0 : Int).natAbs * 2 ^ k := (Nat.zero_mul _).symm
    refine ⟨by decide, s == .negative, 0, 1074, ?_, scaled 1074, ?_⟩
    · cases s <;> decide
    · split <;> rfl
  | @finite s n pos small filled =>
    have canonical := (fits_whole pos small).canonical
    have magnitude : (s.apply n).natAbs = n := by cases s <;> simp [Sign.apply]
    refine ⟨?_, s == .negative, n * 2 ^ (52 - n.log2), 52 - n.log2, ?_, ?_, ?_⟩
    · rwa [magnitude]
    · cases s with
      | negative => exact @read_pack true _ _ canonical filled
      | positive => exact @read_pack false _ _ canonical filled
    · rw [magnitude]
    · rw [magnitude]
      cases s <;> rfl

theorem Counts.isInt {x : Float} {i : Int} (counts : Counts x i) : IsInt x.toModel.unpack i := by
  obtain ⟨small, negative, m, k, reading, rfl, sign⟩ := counts
  by_cases none : i = 0
  · subst none
    rw [Int.natAbs_zero, Nat.zero_mul] at reading
    rcases eq_zero_of_read reading with rfl | rfl
    · exact .zero .positive
    · exact .zero .negative
  · have pos : 0 < i.natAbs := by omega
    have filled : 0 < i.natAbs * 2 ^ k := Nat.mul_pos pos (Nat.two_pow_pos k)
    have canonical := canonical_of_read reading
    have log := log2_mul_two_pow pos k
    have scale : k = 52 - i.natAbs.log2 := by
      rcases canonical.full with low | tiny
      · have := (Nat.log2_eq_iff (by omega)).mpr ⟨low, canonical.high⟩
        omega
      · have := (Nat.log2_lt (by omega)).mpr canonical.high
        omega
    subst scale
    rw [unpack_of_read reading filled]
    have isInt := IsInt.finite (signOf negative) pos small filled
    cases negative with
    | true => rwa [show (signOf true).apply i.natAbs = i from sign.symm] at isInt
    | false => rwa [show (signOf false).apply i.natAbs = i from sign.symm] at isInt

theorem IsInt.neg {u : UnpackedFloat} {i : Int} (isInt : IsInt u i) : IsInt u.neg (-i) := by
  cases isInt with
  | zero s => exact .zero _
  | @finite s n pos small filled =>
    have opposite := IsInt.finite (-s) pos small filled
    cases s with
    | negative =>
      rw [show -Sign.negative.apply n = (-Sign.negative).apply n from Int.neg_neg _]
      exact opposite
    | positive => exact opposite

theorem sub_eq_add_neg (u v : UnpackedFloat) : u.sub .binary64 v = u.add .binary64 v.neg := by
  cases u with
  | finite s m e pos =>
    cases v with
    | finite t n f pos' =>
      have opposite (k : Int) : (-t).apply k = -t.apply k := by
        cases t with
        | negative => exact (Int.neg_neg k).symm
        | positive => rfl
      unfold UnpackedFloat.sub UnpackedFloat.add UnpackedFloat.neg
      dsimp only
      rw [opposite, Int.sub_eq_add_neg]
    | _ => rfl
  | _ => cases v <;> rfl

theorem decreaseExponent_whole (n : Nat) {k l : Nat} (finer : k ≤ l) :
    (decreaseExponent (n * 2 ^ k) (-(k : Int)) (-(l : Int))).1 = n * 2 ^ l := by
  have amount : (-(k : Int) - -(l : Int)).toNat = l - k := by omega
  simp only [decreaseExponent, amount, Nat.shiftLeft_eq]
  rw [Nat.mul_assoc, ← Nat.pow_add, Nat.add_sub_cancel' finer]

theorem apply_mul_two_pow (s : Sign) (n k : Nat) :
    s.apply ((n * 2 ^ k : Nat) : Int) = s.apply n * 2 ^ k := by
  have split : ((n * 2 ^ k : Nat) : Int) = n * 2 ^ k := by simp
  cases s with
  | positive => exact split
  | negative => exact (congrArg _ split).trans (Int.neg_mul ..).symm

section
variable {u v : UnpackedFloat} {i j : Int} (left : IsInt u i) (right : IsInt v j)
include left right

theorem IsInt.add (small : (i + j).natAbs < 2 ^ 53) : IsInt (u.add .binary64 v) (i + j) := by
  cases left with
  | zero s =>
    rw [Int.zero_add]
    cases right with
    | zero t =>
      cases s <;> cases t
      all_goals exact .zero _
    | finite t pos' small' filled' => exact .finite t pos' small' filled'
  | @finite s n pos small' filled =>
    cases right with
    | zero t =>
      rw [Int.add_zero]
      exact .finite s pos small' filled
    | @finite t m pos' small'' filled' =>
      generalize least : max (52 - n.log2) (52 - m.log2) = k
      have exponent : min (-((52 - n.log2 : Nat) : Int)) (-((52 - m.log2 : Nat) : Int)) =
          -(k : Int) := by omega
      unfold UnpackedFloat.add
      dsimp only
      rw [exponent, decreaseExponent_whole n (by omega), decreaseExponent_whole m (by omega),
        apply_mul_two_pow, apply_mul_two_pow, ← Int.add_mul]
      exact isInt_normalize small k

theorem IsInt.mul (small : (i * j).natAbs < 2 ^ 53) : IsInt (u.mul .binary64 v) (i * j) := by
  cases left with
  | zero s =>
    rw [Int.zero_mul]
    cases right <;> exact .zero _
  | @finite s n pos small' filled =>
    cases right with
    | zero t =>
      rw [Int.mul_zero]
      exact .zero _
    | @finite t m pos' small'' filled' =>
      have magnitude : (s.apply n * t.apply m).natAbs = n * m := by
        rw [Int.natAbs_mul]
        cases s <;> cases t <;> simp [Sign.apply]
      have product : (s * t).apply ((n * m : Nat) : Int) = s.apply n * t.apply m := by
        push_cast
        cases s <;> cases t
        · exact (Int.neg_mul_neg ..).symm
        · exact (Int.neg_mul ..).symm
        · exact (Int.mul_neg ..).symm
        · rfl
      have pos'' : 0 < n * m := Nat.mul_pos pos pos'
      have filled'' : 0 < n * m * 2 ^ (52 - (n * m).log2) := Nat.mul_pos pos'' (Nat.two_pow_pos _)
      have long : n.log2 + m.log2 ≤ (n * m).log2 := by
        rw [Nat.le_log2 (by omega), Nat.pow_add]
        exact Nat.mul_le_mul (Nat.log2_self_le (by omega)) (Nat.log2_self_le (by omega))
      have exponent : -((52 - n.log2 : Nat) : Int) + -((52 - m.log2 : Nat) : Int) =
          -((52 - n.log2 + (52 - m.log2) : Nat) : Int) := by omega
      rw [magnitude] at small
      unfold UnpackedFloat.mul
      dsimp only
      rw [exponent, Nat.mul_mul_mul_comm, ← Nat.pow_add, ← product,
        roundWithAccuracy_whole pos'' small filled'' (s * t) (by omega)]
      exact .finite (s * t) pos'' small filled''

end

theorem lt_of_log2_lt {a b : Nat} (pos : 0 < a) (pos' : 0 < b) (less : a.log2 < b.log2) :
    a < b := by
  have low := Nat.log2_self_le (n := b) (by omega)
  have high := (Nat.log2_lt (n := a) (by omega)).mp less
  omega

/-- Whole numbers are ordered as their exponents and filled mantissas are. -/
theorem compare_filled {n m : Nat} (pos : 0 < n) (pos' : 0 < m) (small : n < 2 ^ 53)
    (small' : m < 2 ^ 53) :
    (compare (-((52 - n.log2 : Nat) : Int)) (-((52 - m.log2 : Nat) : Int))).then
      (compare (n * 2 ^ (52 - n.log2)) (m * 2 ^ (52 - m.log2))) = compare n m := by
  have short : n.log2 < 53 := (Nat.log2_lt (by omega)).mpr small
  have short' : m.log2 < 53 := (Nat.log2_lt (by omega)).mpr small'
  rcases Nat.lt_trichotomy n.log2 m.log2 with less | same | more
  · have first := lt_of_log2_lt pos pos' less
    rw [Int.compare_eq_lt.mpr (by omega), Nat.compare_eq_lt.mpr first]
    rfl
  · have unit := Nat.two_pow_pos (52 - m.log2)
    rw [same, Int.compare_eq_eq.mpr rfl, Ordering.then]
    rcases Nat.lt_trichotomy n m with less | rfl | more
    · rw [Nat.compare_eq_lt.mpr (Nat.mul_lt_mul_of_pos_right less unit), Nat.compare_eq_lt.mpr less]
    · rw [Nat.compare_eq_eq.mpr rfl, Nat.compare_eq_eq.mpr rfl]
    · rw [Nat.compare_eq_gt.mpr (Nat.mul_lt_mul_of_pos_right more unit), Nat.compare_eq_gt.mpr more]
  · have first := lt_of_log2_lt pos' pos more
    rw [Int.compare_eq_gt.mpr (by omega), Nat.compare_eq_gt.mpr first]
    rfl

theorem compare_cast (n m : Nat) : compare (n : Int) m = compare n m := by
  simp only [compare, compareOfLessAndEq, Int.ofNat_lt, Int.ofNat_inj]

theorem compare_neg (i j : Int) : compare (-i) (-j) = compare j i := by
  simp only [compare, compareOfLessAndEq, Int.neg_lt_neg_iff, Int.neg_inj, eq_comm]

theorem IsInt.compare_eq {u v : UnpackedFloat} {i j : Int} (left : IsInt u i)
    (right : IsInt v j) : u.compare v = some (compare i j) := by
  have below {n : Nat} (pos : 0 < n) (k : Nat) : compare (-(n : Int)) k = .lt :=
    Int.compare_eq_lt.mpr (by omega)
  have above {n : Nat} (pos : 0 < n) (k : Nat) : compare (n : Int) (-k) = .gt :=
    Int.compare_eq_gt.mpr (by omega)
  cases left with
  | zero s =>
    cases right with
    | zero t => rfl
    | @finite t m pos' =>
      cases t with
      | negative => exact congrArg some (Int.compare_eq_gt.mpr (by omega : -(m : Int) < 0)).symm
      | positive => exact congrArg some (Int.compare_eq_lt.mpr (by omega : (0 : Int) < m)).symm
  | @finite s n pos small =>
    cases right with
    | zero t =>
      cases s with
      | negative => exact congrArg some (Int.compare_eq_lt.mpr (by omega : -(n : Int) < 0)).symm
      | positive => exact congrArg some (Int.compare_eq_gt.mpr (by omega : (0 : Int) < n)).symm
    | @finite t m pos' small' =>
      have order := compare_filled pos pos' small small'
      cases s with
      | negative =>
        cases t with
        | negative =>
          change some ((compare _ _).then (compare _ _)).swap = some (compare (-(n : Int)) (-m))
          rw [order, Nat.compare_swap, compare_neg, compare_cast]
        | positive => exact congrArg some (below pos m).symm
      | positive =>
        cases t with
        | negative => exact congrArg some (above pos m).symm
        | positive =>
          change some ((compare _ _).then (compare _ _)) = some (compare (n : Int) m)
          rw [order, compare_cast]

theorem readBits_of_parts {b m scale : Nat} {negative : Bool}
    (sign : (b / 2 ^ 63 % 2 == 1) = negative) (exponent : b / 2 ^ 52 % 2048 = scale)
    (fraction : b % 2 ^ 52 + 2 ^ 52 = m) (normal : 0 < scale) (room : scale < 2047) :
    readBits b = .finite negative m ((scale : Int) - 1075) := by
  simp only [readBits, Nat.pow_eq, sign, exponent, fraction]
  rw [if_neg (by omega), if_neg (by omega)]

/-- A normal number is read from its parts put together. -/
theorem readBits_normal (negative : Bool) {m scale : Nat} (low : 2 ^ 52 ≤ m) (high : m < 2 ^ 53)
    (normal : 0 < scale) (room : scale < 2047) :
    readBits (UInt64.ofNat (scale * 2 ^ 52 + (m - 2 ^ 52) +
      if negative then 2 ^ 63 else 0)).toNat = .finite negative m ((scale : Int) - 1075) := by
  have whole {b : Nat} (short : b < 2 ^ 64) : (UInt64.ofNat b).toNat = b :=
    Nat.mod_eq_of_lt short
  cases negative with
  | true =>
    rw [if_pos rfl, whole (by omega)]
    refine readBits_of_parts ?_ (by omega) (by omega) normal room
    rw [beq_iff_eq]
    omega
  | false =>
    rw [if_neg (by decide), whole (by omega)]
    refine readBits_of_parts ?_ (by omega) (by omega) normal room
    rw [beq_eq_false_iff_ne]
    omega

theorem counts_ofDyadic (negative : Bool) {n : Nat} (small : n < 2 ^ 53) :
    Counts (ofDyadic negative n 0) (if negative then -n else n) := by
  by_cases none : n = 0
  · subst none
    cases negative
    · exact (IsInt.zero .positive).counts
    · exact (IsInt.zero .negative).counts
  have pos : 0 < n := Nat.pos_of_ne_zero none
  have fits := fits_whole pos small
  have filled : 0 < n * 2 ^ (52 - n.log2) := Nat.mul_pos pos (Nat.two_pow_pos _)
  have short : n.log2 < 53 := (Nat.log2_lt none).mpr small
  have reading : read (ofDyadic negative n 0) =
      .finite negative (n * 2 ^ (52 - n.log2)) (-((52 - n.log2 : Nat) : Int)) := by
    have shift : min (52 - n.log2) ((0 : Int) + 1074).toNat = 52 - n.log2 := by omega
    have scale : ((0 : Int) - ((52 - n.log2 : Nat) : Int) + 1075).toNat = n.log2 + 1023 := by omega
    have exponent : ((n.log2 + 1023 : Nat) : Int) - 1075 = -((52 - n.log2 : Nat) : Int) := by omega
    have bits := readBits_normal negative fits.low fits.high (Nat.succ_pos (n.log2 + 1022))
      (by omega)
    rw [exponent] at bits
    unfold ofDyadic
    rw [if_neg none]
    dsimp only
    rw [shift, scale, Nat.pow_eq, Nat.pow_eq, Nat.pow_eq, if_neg (Nat.not_lt.mpr fits.low)]
    change read ⟨.pack (UnpackedFloat.unpack .binary64 _)⟩ = _
    rw [unpack_of_readBits bits filled]
    exact read_pack fits.canonical filled
  refine ⟨by split <;> omega, negative, _, _, reading, ?_, by split <;> omega⟩
  split <;> simp

namespace Counts
variable {x y : Float} {i j : Int}

theorem add (left : Counts x i) (right : Counts y j) (small : (i + j).natAbs < 2 ^ 53) :
    Counts (x + y) (i + j) :=
  (left.isInt.add right.isInt small).counts

theorem sub (left : Counts x i) (right : Counts y j) (small : (i - j).natAbs < 2 ^ 53) :
    Counts (x - y) (i - j) := by
  change Counts ⟨.pack (x.toModel.unpack.sub .binary64 y.toModel.unpack)⟩ (i - j)
  rw [sub_eq_add_neg]
  exact (left.isInt.add right.isInt.neg small).counts

theorem mul (left : Counts x i) (right : Counts y j) (small : (i * j).natAbs < 2 ^ 53) :
    Counts (x * y) (i * j) :=
  (left.isInt.mul right.isInt small).counts

theorem neg (counts : Counts x i) : Counts (-x) (-i) := counts.isInt.neg.counts

theorem isFinite (counts : Counts x i) : isFinite x = true := by
  obtain ⟨-, negative, m, k, reading, -⟩ := counts
  rw [Number.isFinite, reading]

theorem wholePart (counts : Counts x i) : wholePart x = i := by
  obtain ⟨-, negative, m, k, reading, rfl, sign⟩ := counts
  unfold Number.wholePart
  rw [reading]
  dsimp only
  rw [splitWhole_exact]
  exact sign.symm

theorem toInt64 (counts : Counts x i) : toInt64 x = i := by
  have small := counts.small
  have whole := counts.wholePart
  obtain ⟨-, negative, m, k, reading, -⟩ := counts
  unfold Number.toInt64 clampInt
  rw [reading, whole]
  change max (-2 ^ 63) (min (2 ^ 63 - 1) i) = i
  omega

/-- Nothing is cut off. -/
theorem trunc (counts : Counts x i) : Counts (trunc x) i := by
  have same := counts
  obtain ⟨small, negative, m, k, reading, rfl, sign⟩ := counts
  rw [trunc_of_read reading]
  split
  · exact same
  · rw [splitWhole_exact]
    have cut := counts_ofDyadic negative small
    rwa [← sign] at cut

end Counts

theorem counts_ofNat {n : Nat} (small : n < 2 ^ 53) : Counts (Float.ofNat n) n := by
  by_cases none : n = 0
  · subst none
    exact (IsInt.zero .positive).counts
  · have reading : read (Float.ofNat n) = _ :=
      read_ofScientific (Nat.pos_of_ne_zero none) small
    exact ⟨small, false, _, _, reading, rfl, rfl⟩

theorem counts_ofInt {i : Int} (small : i.natAbs < 2 ^ 53) : Counts (ofInt i) i := by
  have magnitude := counts_ofNat small
  unfold ofInt
  split
  · have opposite := magnitude.neg
    rwa [show -(i.natAbs : Int) = i by omega] at opposite
  · rwa [show (i.natAbs : Int) = i by omega] at magnitude

end DocExpr.Number
