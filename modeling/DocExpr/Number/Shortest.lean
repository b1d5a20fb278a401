import DocExpr.Number.Binary

/-! The fewest decimal digits that read back as the same double. A double stands for every real
number that rounds to it; `shortest` looks for the coarsest power of ten that has a multiple in
that interval and takes the multiple nearest to the exact value. All comparisons are between
natural numbers. -/
namespace DocExpr.Number

/-- Which of two equally near results is taken. -/
inductive Tie where
  /-- The larger one. -/
  | up
  /-- The one with the even last digit. -/
  | toEven
  deriving DecidableEq, Repr

/-- `digits · 10 ^ exponent`. -/
structure Decimal where
  digits : Nat
  exponent : Int
  deriving DecidableEq, Repr

/-- A positive rational number. -/
structure Ratio where
  num : Nat
  den : Nat

def Ratio.ofDyadic (mantissa : Nat) (exponent : Int) : Ratio :=
  if 0 ≤ exponent then ⟨mantissa * Nat.pow 2 exponent.toNat, 1⟩
  else ⟨mantissa, Nat.pow 2 (-exponent).toNat⟩

def Ratio.scaleDown (r : Ratio) (k : Int) : Ratio :=
  if 0 ≤ k then ⟨r.num, r.den * Nat.pow 10 k.toNat⟩
  else ⟨r.num * Nat.pow 10 (-k).toNat, r.den⟩

/-- At least `10 ^ k`. -/
def Ratio.reaches (r : Ratio) (k : Int) : Bool :=
  let s := r.scaleDown k
  s.den ≤ s.num

/-- The exponent of the first decimal digit of a positive `mantissa · 2 ^ exponent`: the estimate
from the binary logarithm is at most one off. -/
def leadingExponent (mantissa : Nat) (exponent : Int) : Int :=
  let guess := ((Nat.log2 mantissa : Int) + exponent) * 30103 / 100000
  let r := Ratio.ofDyadic mantissa exponent
  if r.reaches (guess + 1) then guess + 1
  else if r.reaches guess then guess
  else guess - 1

def Ratio.round (r : Ratio) (tie : Tie) : Nat :=
  let q := r.num / r.den
  let twice := 2 * (r.num % r.den)
  if twice < r.den then q
  else if r.den < twice then q + 1
  else match tie with
    | .up => q + 1
    | .toEven => if q % 2 = 0 then q else q + 1

/-- Drops trailing zeros from the digits, at most `fuel` of them. -/
def Decimal.strip : Nat → Decimal → Decimal
  | 0, d => d
  | fuel + 1, d =>
    if d.digits ≠ 0 ∧ d.digits % 10 = 0 then strip fuel ⟨d.digits / 10, d.exponent + 1⟩ else d

/-- The multiple of `10 ^ k` that stands for the double, if the interval of reals that round to
`mantissa · 2 ^ exponent` holds one. The ends of the interval belong to it when the mantissa is
even. -/
def onGrid? (tie : Tie) (mantissa : Nat) (exponent k : Int) : Option Nat :=
  let below := if mantissa = Nat.pow 2 52 ∧ -1074 < exponent then 1 else 2
  let quarter := Ratio.ofDyadic 1 (exponent - 2) |>.scaleDown k
  -- counted in quarters of a unit in the last place the value is `4 * mantissa`
  let value := 4 * mantissa * quarter.num
  let low := (4 * mantissa - below) * quarter.num
  let high := (4 * mantissa + 2) * quarter.num
  let inside (c : Nat) : Bool :=
    let c := c * quarter.den
    if mantissa % 2 = 0 then low ≤ c && c ≤ high else low < c && c < high
  let floor := value / quarter.den
  match inside floor, inside (floor + 1) with
  | true, true => some (Ratio.round ⟨value, quarter.den⟩ tie)
  | true, false => some floor
  | false, true => some (floor + 1)
  | false, false => none

/-- Tries finer and finer grids, `fuel` of them, and settles for the nearest multiple of the
last. -/
def searchGrid (tie : Tie) (mantissa : Nat) (exponent : Int) : Nat → Int → Decimal
  | 0, k => ⟨((Ratio.ofDyadic mantissa exponent).scaleDown k).round tie, k⟩
  | fuel + 1, k =>
    match onGrid? tie mantissa exponent k with
    | some c => ⟨c, k⟩
    | none => searchGrid tie mantissa exponent fuel (k - 1)

/-- The decimal with the fewest digits that reads back as the positive double
`mantissa · 2 ^ exponent`; seventeen digits always suffice. -/
def shortest (tie : Tie) (mantissa : Nat) (exponent : Int) : Decimal :=
  (searchGrid tie mantissa exponent 17 (leadingExponent mantissa exponent)).strip 20

end DocExpr.Number
