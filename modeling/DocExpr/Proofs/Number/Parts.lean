import DocExpr.Number.Binary
import Mathlib.Algebra.Group.Nat.Defs

/-! The parts of a double: its sign, its mantissa and its exponent. A finite double is determined by
what it is read as, in its packed and in its unpacked form. -/
namespace DocExpr.Number
open Float.Model (Format UnpackedFloat)
open Float.Model.UnpackedFloat

theorem toNat_unpackExponent (b : BitVec Format.binary64.numBits) :
    (unpackExponent b).toNat = b.toNat / 2 ^ 52 % 2048 := by
  unfold unpackExponent
  rw [BitVec.toNat_cast, BitVec.extractLsb_toNat, Nat.shiftRight_eq_div_pow]
  rfl

theorem toNat_unpackMantissa (b : BitVec Format.binary64.numBits) :
    (unpackMantissa b).toNat = b.toNat % 2 ^ 52 := by
  unfold unpackMantissa
  rw [BitVec.toNat_cast, BitVec.extractLsb_toNat, Nat.shiftRight_zero]
  rfl

theorem toNat_unpackSign (b : BitVec Format.binary64.numBits) :
    (unpackSign b).toNat = b.toNat / 2 ^ 63 % 2 := by
  unfold unpackSign
  rw [BitVec.toNat_cast, BitVec.extractLsb_toNat, Nat.shiftRight_eq_div_pow]
  rfl

theorem toNat_implicit_append (fraction : BitVec 52) :
    (1#1 ++ fraction).toNat = fraction.toNat + 2 ^ 52 := by
  rw [BitVec.toNat_append, ← Nat.shiftLeft_add_eq_or_of_lt fraction.isLt, Nat.add_comm]
  rfl

theorem unpackSign_packComponents (s : Sign) (e : BitVec 11) (m : BitVec 52) :
    unpackSign (packComponents .binary64 s e m) = s.toBitVec := by
  unfold unpackSign packComponents BitVec.extractLsb
  rw [BitVec.extractLsb'_append_eq_of_le (by decide),
    BitVec.extractLsb'_append_eq_of_le (by decide)]
  cases s <;> rfl

/-- The sign that a double has or has not. -/
def signOf (negative : Bool) : Sign := if negative then .negative else .positive

theorem readBits_packComponents (negative : Bool) {e : BitVec 11} (room : e.toNat < 2047)
    (m : BitVec 52) :
    readBits (packComponents .binary64 (signOf negative) e m).toNat =
      if e.toNat = 0 then .finite negative m.toNat (-1074)
      else .finite negative (m.toNat + 2 ^ 52) ((e.toNat : Int) - 1075) := by
  have sign := toNat_unpackSign (packComponents .binary64 (signOf negative) e m)
  have exponent := toNat_unpackExponent (packComponents .binary64 (signOf negative) e m)
  have fraction := toNat_unpackMantissa (packComponents .binary64 (signOf negative) e m)
  rw [unpackSign_packComponents] at sign
  rw [unpackExponent_packComponents] at exponent
  rw [unpackMantissa_packComponents] at fraction
  simp only [readBits, Nat.pow_eq, ← sign, ← exponent, ← fraction]
  rw [if_neg (by omega)]
  cases negative <;> rfl

/-- A mantissa and an exponent that a finite double has. -/
structure Canonical (m : Nat) (e : Int) : Prop where
  high : m < 2 ^ 53
  least : -1074 ≤ e
  most : e ≤ 971
  full : 2 ^ 52 ≤ m ∨ e = -1074

/-- What the bits of a finite double are. -/
structure Bits (b : Nat) (negative : Bool) (m : Nat) (e : Int) : Prop where
  finite : b / 2 ^ 52 % 2048 ≠ 2047
  sign : b / 2 ^ 63 % 2 = if negative then 1 else 0
  parts : b / 2 ^ 52 % 2048 = 0 ∧ m = b % 2 ^ 52 ∧ e = -1074 ∨
    b / 2 ^ 52 % 2048 ≠ 0 ∧ m = b % 2 ^ 52 + 2 ^ 52 ∧
      e = ((b / 2 ^ 52 % 2048 : Nat) : Int) - 1075

theorem bits_of_readBits {b : Nat} {negative : Bool} {m : Nat} {e : Int}
    (reading : readBits b = .finite negative m e) : Bits b negative m e := by
  have sign : b / 2 ^ 63 % 2 = if b / 2 ^ 63 % 2 == 1 then 1 else 0 := by
    split
    next one => exact beq_iff_eq.mp one
    next zero =>
      rw [beq_iff_eq] at zero
      omega
  simp only [readBits, Nat.pow_eq] at reading
  split at reading
  next => split at reading <;> cases reading
  next finite =>
    split at reading
    next low =>
      cases reading
      exact ⟨finite, sign, .inl ⟨low, rfl, rfl⟩⟩
    next normal =>
      cases reading
      exact ⟨finite, sign, .inr ⟨normal, rfl, rfl⟩⟩

section
variable {x y : Float} {negative : Bool} {m : Nat} {e : Int}

theorem canonical_of_read (reading : read x = .finite negative m e) : Canonical m e := by
  obtain ⟨finite, -, ⟨-, rfl, rfl⟩ | ⟨normal, rfl, rfl⟩⟩ := bits_of_readBits reading
  · exact ⟨by omega, by omega, by omega, .inr rfl⟩
  · exact ⟨by omega, by omega, by omega, .inl (by omega)⟩

theorem eq_of_read (reading : read x = .finite negative m e)
    (reading' : read y = .finite negative m e) : x = y := by
  have bound : x.toBits.toNat < 2 ^ 64 := x.toBits.toBitVec.isLt
  have bound' : y.toBits.toNat < 2 ^ 64 := y.toBits.toBitVec.isLt
  have same : x.toBits.toNat = y.toBits.toNat := by
    obtain ⟨-, sign, parts⟩ := bits_of_readBits reading
    obtain ⟨-, sign', parts'⟩ := bits_of_readBits reading'
    rw [← sign'] at sign
    omega
  obtain ⟨⟨bits, valid⟩⟩ := x
  obtain ⟨⟨bits', valid'⟩⟩ := y
  cases UInt64.toNat_inj.mp same
  rfl

theorem finite_congr {s : Sign} {m n : Nat} {e f : Int} {pos : 0 < m} {pos' : 0 < n}
    (mantissa : m = n) (exponent : e = f) :
    UnpackedFloat.finite s m e pos = .finite s n f pos' := by
  subst mantissa exponent
  rfl

theorem unpack_of_readBits {b : BitVec Format.binary64.numBits}
    (reading : readBits b.toNat = .finite negative m e) (pos : 0 < m) :
    unpack .binary64 b = .finite (signOf negative) m e pos := by
  obtain ⟨finite, sign, parts⟩ := bits_of_readBits reading
  have exponent := toNat_unpackExponent b
  have fraction := toNat_unpackMantissa b
  have isSign : Sign.ofBitVec (unpackSign b) = signOf negative := by
    have bit : (unpackSign b).toNat = if negative then 1 else 0 :=
      (toNat_unpackSign b).trans sign
    cases negative with
    | true => rw [show unpackSign b = 1#1 from BitVec.eq_of_toNat_eq bit]; rfl
    | false => rw [show unpackSign b = 0#1 from BitVec.eq_of_toNat_eq bit]; rfl
  have noTop : unpackExponent b ≠ -1#11 := by
    intro top
    rw [top] at exponent
    exact finite exponent.symm
  have bias : ((Format.binary64.exponentBias : Nat) : Int) +
      (Format.binary64.mantissaBitsWithoutImplicit : Nat) = 1075 := rfl
  unfold unpack
  dsimp only
  rw [if_neg noTop, isSign, bias]
  rcases parts with ⟨low, rfl, rfl⟩ | ⟨normal, rfl, rfl⟩
  · have isLow : unpackExponent b = 0#11 := BitVec.eq_of_toNat_eq (exponent.trans low)
    have some : unpackMantissa b ≠ 0#52 := by
      intro none
      rw [none] at fraction
      exact absurd fraction.symm (Nat.pos_iff_ne_zero.mp pos)
    rw [if_pos isLow, dif_neg some, isLow]
    exact finite_congr fraction rfl
  · have isNormal : unpackExponent b ≠ 0#11 := by
      intro low
      rw [low] at exponent
      exact normal exponent.symm
    rw [if_neg isNormal]
    refine finite_congr ?_ (by rw [exponent])
    rw [toNat_implicit_append, fraction]

theorem unpack_of_read (reading : read x = .finite negative m e) (pos : 0 < m) :
    x.toModel.unpack = .finite (signOf negative) m e pos :=
  @unpack_of_readBits negative m e x.toModel.toBits.toBitVec reading pos

/-- A finite double is read from its packed form as it went in. -/
theorem read_pack (canonical : Canonical m e) (pos : 0 < m) :
    read ⟨.pack (.finite (signOf negative) m e pos)⟩ = .finite negative m e := by
  obtain ⟨high, least, most, full⟩ := canonical
  have bias : e + ((Format.binary64.exponentBias : Nat) : Int) +
      (Format.binary64.mantissaBitsWithoutImplicit : Nat) = e + 1075 := Int.add_assoc ..
  change readBits (UnpackedFloat.pack .binary64 (.finite (signOf negative) m e pos)).toNat = _
  unfold UnpackedFloat.pack
  dsimp only
  rw [bias, if_neg (by omega)]
  by_cases normal : 2 ^ 52 ≤ m
  · have log : m.log2 = 52 := (Nat.log2_eq_iff (by omega)).mpr ⟨normal, high⟩
    have scale : (BitVec.ofNat 11 (e + 1075).toNat).toNat = (e + 1075).toNat :=
      Nat.mod_eq_of_lt (by omega)
    have fraction : (BitVec.ofNat 52 m).toNat + 2 ^ 52 = m := by
      rw [BitVec.toNat_ofNat]
      omega
    rw [if_pos (by rw [log]; rfl)]
    refine (readBits_packComponents negative (by omega) _).trans ?_
    rw [if_neg (by omega), fraction, scale]
    congr 1
    omega
  · have log : m.log2 < 52 := (Nat.log2_lt (by omega)).mpr (by omega)
    have fraction : (BitVec.ofNat 52 m).toNat = m := Nat.mod_eq_of_lt (by omega)
    rw [if_neg (by change ¬ m.log2 + 1 = 53; omega)]
    refine (readBits_packComponents negative (by decide) _).trans ?_
    rw [if_pos (by rfl), fraction, full.resolve_left normal]

/-- A finite double comes out of its packed form as it went in. -/
theorem unpack_pack (canonical : Canonical m e) (pos : 0 < m) :
    (Float.Model.pack (.finite (signOf negative) m e pos)).unpack =
      .finite (signOf negative) m e pos :=
  unpack_of_read (read_pack canonical pos) pos

theorem read_neg (reading : read x = .finite negative m e) (pos : 0 < m) :
    read (-x) = .finite (!negative) m e := by
  have opposite : -signOf negative = signOf (!negative) := by cases negative <;> rfl
  change read ⟨.pack (UnpackedFloat.neg x.toModel.unpack)⟩ = _
  rw [unpack_of_read reading pos]
  change read ⟨.pack (.finite (-signOf negative) m e pos)⟩ = _
  rw [opposite, read_pack (canonical_of_read reading) pos]

end
end DocExpr.Number
