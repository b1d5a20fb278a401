import DocExpr.Number.Binary

/-! Numbers as positions in something of a known length. Fractions are cut off, and what is no
number counts as zero. -/
namespace DocExpr.Number

/-- A position held between the start and the end. -/
def clampIndex (x : Float) (length : Nat) : Nat := (clampInt 0 length x).toNat

/-- A position that counts from the end if it is negative, held between the start and the end. -/
def relativeIndex (x : Float) (length : Nat) : Nat :=
  let n := clampInt (-(length : Int)) length x
  if n < 0 then (length + n).toNat else n.toNat

def itemIndex? (x : Float) (length : Nat) : Option Nat :=
  let n := clampInt (-1) length x
  if n < 0 ∨ (length : Int) ≤ n then none else some n.toNat

theorem clampIndex_le (x : Float) (length : Nat) : clampIndex x length ≤ length := by
  have held := clampInt_mem (Int.le_refl 0) (Int.natCast_nonneg length) x
  simp only [clampIndex]
  omega

theorem relativeIndex_le (x : Float) (length : Nat) : relativeIndex x length ≤ length := by
  have held := clampInt_mem (by omega : -(length : Int) ≤ 0) (Int.natCast_nonneg length) x
  simp only [relativeIndex]
  split <;> omega

theorem lt_of_itemIndex?_eq_some {x : Float} {length i : Nat}
    (found : itemIndex? x length = some i) : i < length := by
  simp only [itemIndex?, Option.ite_none_left_eq_some, Option.some.injEq] at found
  omega

end DocExpr.Number
