import DocExpr.Value.Coercion
import DocExpr.Value.Display

/-! The orders of texts by their characters and by their UTF-16 code units, and those of values: that
of the relational operators, and that of sorting without a comparator. -/
namespace DocExpr.Text

def unitsOf (c : Char) : List Nat :=
  let n := c.toNat
  if n < 0x10000 then [n]
  else [0xd800 + (n - 0x10000) / 0x400, 0xdc00 + (n - 0x10000) % 0x400]

def units (s : String) : List Nat := s.toList.flatMap unitsOf

/-- Lexicographic order of lists under an order of their members. -/
def compareLists {α : Type} (compare : α → α → Ordering) : List α → List α → Ordering
  | [], [] => .eq
  | [], _ :: _ => .lt
  | _ :: _, [] => .gt
  | a :: as, b :: bs => (compare a b).then (compareLists compare as bs)

def compareUnits (a b : String) : Ordering :=
  compareLists (fun m n : Nat => compare m n) (units a) (units b)

def compareChars (a b : String) : Ordering :=
  compareLists (fun c d : Char => compare c.toNat d.toNat) a.toList b.toList

end DocExpr.Text

namespace DocExpr.Value

/-- The order of two doubles; none if one is no number. -/
def compareNumbers (x y : Float) : Option Ordering :=
  if x < y then some .lt else if y < x then some .gt else if x == y then some .eq else none

/-- The order of the relational operators: strings by their characters, all else by number. -/
def compareRelational (a b : Value) : Option Ordering :=
  match a, b with
  | .string s, .string t => some (Text.compareChars s t)
  | a, b => compareNumbers a.toNumber b.toNumber

/-- The order of sorting: display texts by their code units, nulls last. -/
def compareDefault (a b : Value) : Ordering :=
  match a.isNull, b.isNull with
  | true, true => .eq
  | true, false => .gt
  | false, true => .lt
  | false, false => Text.compareUnits a.display b.display

end DocExpr.Value
