/-! Doubles read as exact binary fractions. `read` takes a double apart into a sign, a whole
mantissa and a power of two, and everything that depends on the exact value of a number (its whole
part, the remainder of a division, its decimal text) is computed from that reading in integers.
Nothing here rounds: each function that returns a double returns one that is exactly the result. -/
namespace DocExpr.Number

/-- What a double stands for: `mantissa · 2 ^ exponent` with a sign, or a value that is no
number. -/
inductive Reading where
  | nan
  | infinite (negative : Bool)
  | finite (negative : Bool) (mantissa : Nat) (exponent : Int)
  deriving DecidableEq, Repr

/-- Reads the 64 bits of a double: one sign bit, eleven exponent bits, fifty-two fraction bits. -/
def readBits (bits : Nat) : Reading :=
  let negative := bits / Nat.pow 2 63 % 2 == 1
  let scale : Nat := bits / Nat.pow 2 52 % 2048
  let fraction : Nat := bits % Nat.pow 2 52
  if scale = 2047 then
    if fraction = 0 then .infinite negative else .nan
  else if scale = 0 then .finite negative fraction (-1074)
  else .finite negative (fraction + Nat.pow 2 52) ((scale : Int) - 1075)

def read (x : Float) : Reading := readBits x.toBits.toNat

/-- The sign bit, which negative zero carries too. -/
def signBit (x : Float) : Bool := x.toBits.toNat / Nat.pow 2 63 % 2 == 1

def isFinite (x : Float) : Bool :=
  match read x with
  | .finite .. => true
  | _ => false

def isInfinite (x : Float) : Bool :=
  match read x with
  | .infinite _ => true
  | _ => false

def nan : Float := 0.0 / 0.0

def infinity : Float := 1.0 / 0.0

/-- The double that `mantissa · 2 ^ exponent` is, for a mantissa below `2 ^ 53` and a value that
needs no more bits than a double has. -/
def ofDyadic (negative : Bool) (mantissa : Nat) (exponent : Int) : Float :=
  let magnitude :=
    if mantissa = 0 then 0
    else
      let shift := min (52 - Nat.log2 mantissa) (exponent + 1074).toNat
      let m := mantissa * Nat.pow 2 shift
      let e := exponent - shift
      if m < Nat.pow 2 52 then m else (e + 1075).toNat * Nat.pow 2 52 + (m - Nat.pow 2 52)
  Float.ofBits (UInt64.ofNat (magnitude + if negative then Nat.pow 2 63 else 0))

/-- `mantissa · 2 ^ exponent` split into its whole part and whether anything is left over. -/
def splitWhole (mantissa : Nat) (exponent : Int) : Nat × Bool :=
  if 0 ≤ exponent then (mantissa * Nat.pow 2 exponent.toNat, false)
  else
    let unit := Nat.pow 2 (-exponent).toNat
    (mantissa / unit, mantissa % unit != 0)

def isWhole (x : Float) : Bool :=
  match read x with
  | .finite _ m e => !(splitWhole m e).2
  | _ => false

/-- The number cut off toward zero; zero for what is not finite. -/
def wholePart (x : Float) : Int :=
  match read x with
  | .finite negative m e =>
    let n := (splitWhole m e).1
    if negative then -(n : Int) else n
  | _ => 0

/-- A number without its fraction, with `grow` added to the magnitude where a fraction was
dropped. -/
private def dropFraction (x : Float) (grow : Bool → Nat) : Float :=
  match read x with
  | .finite negative m e =>
    if 0 ≤ e then x
    else
      let (n, rest) := splitWhole m e
      ofDyadic negative (if rest then n + grow negative else n) 0
  | _ => x

def trunc (x : Float) : Float := dropFraction x fun _ => 0

theorem trunc_of_read {x : Float} {negative : Bool} {m : Nat} {e : Int}
    (reading : read x = .finite negative m e) :
    trunc x = if 0 ≤ e then x else ofDyadic negative (splitWhole m e).1 0 := by
  unfold trunc dropFraction
  rw [reading]
  simp only [Nat.add_zero, ite_self]

theorem trunc_of_not_finite {x : Float} (other : isFinite x = false) : trunc x = x := by
  unfold trunc dropFraction
  unfold isFinite at other
  split
  next reading =>
    rw [reading] at other
    cases other
  next => rfl

def floor (x : Float) : Float := dropFraction x fun negative => if negative then 1 else 0

def ceil (x : Float) : Float := dropFraction x fun negative => if negative then 0 else 1

/-- The remainder of the division cut off toward zero, with the sign of the dividend. -/
def remainder (x y : Float) : Float :=
  match read x, read y with
  | .nan, _ | _, .nan | .infinite _, _ => nan
  | .finite .., .infinite _ => x
  | .finite negative m e, .finite _ m' e' =>
    if m' = 0 then nan
    else
      let low := min e e'
      ofDyadic negative (m * Nat.pow 2 (e - low).toNat % (m' * Nat.pow 2 (e' - low).toNat)) low

/-- The whole part held between two bounds; infinities go to the bounds and what is not a number
goes to zero. -/
def clampInt (low high : Int) (x : Float) : Int :=
  match read x with
  | .nan => 0
  | .infinite negative => if negative then low else high
  | .finite .. => max low (min high (wholePart x))

theorem clampInt_mem {low high : Int} (below : low ≤ 0) (above : 0 ≤ high) (x : Float) :
    low ≤ clampInt low high x ∧ clampInt low high x ≤ high := by
  unfold clampInt
  split
  · exact ⟨below, above⟩
  · split <;> omega
  · omega

def maxInt64 : Int := Int.pow 2 63 - 1

def minInt64 : Int := -Int.pow 2 63

/-- The whole part as a signed 64-bit integer, held at the ends of the range. -/
def toInt64 (x : Float) : Int := clampInt minInt64 maxInt64 x

/-- The whole part as a natural number, held at the ends of the unsigned 64-bit range. -/
def toNat64 (x : Float) : Nat := (clampInt 0 (Int.pow 2 64 - 1) x).toNat

def ofInt (n : Int) : Float :=
  if n < 0 then -(Float.ofNat n.natAbs) else Float.ofNat n.natAbs

end DocExpr.Number
