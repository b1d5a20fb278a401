import DocExpr.Calendar.Writing
import DocExpr.Value.Coercion

/-! Equality of values. Strict equality compares content: objects regardless of the order of their
keys, dates by their instants, functions by where they were made; what is no number differs from
itself. Loose equality lets numbers, strings and booleans stand for each other, and dates for their
milliseconds or their text. -/
namespace DocExpr.Value

mutual
def strictEq : Value → Value → Bool
  | .null, .null => true
  | .bool a, .bool b => a == b
  | .number x, .number y => x == y
  | .string s, .string t => s == t
  | .array xs, .array ys => strictEqItems xs ys
  | .object es, .object fs => es.length == fs.length && strictEqEntries es fs
  | .date a, .date b => a.instant == b.instant
  | .regex p f, .regex q g => p == q && f == g
  | .lambda f, .lambda g => f.birth == g.birth
  | _, _ => false

def strictEqItems : List Value → List Value → Bool
  | [], [] => true
  | x :: xs, y :: ys => strictEq x y && strictEqItems xs ys
  | _, _ => false

/-- Every one of the first entries has an equal one among the second. -/
def strictEqEntries : List (String × Value) → List (String × Value) → Bool
  | [], _ => true
  | (k, v) :: es, fs =>
    (match Entries.find? fs k with
      | some w => strictEq v w
      | none => false) && strictEqEntries es fs
end

def looseEq (a b : Value) : Bool :=
  match a, b with
  | .null, .null => true
  | .null, _ | _, .null => false
  | .number _, .string _ | .number _, .bool _ | .string _, .number _ | .string _, .bool _
  | .bool _, .number _ | .bool _, .string _ => a.toNumber == b.toNumber
  | .date d, .number x | .number x, .date d => Number.ofInt d.instant.millis == x
  | .date d, .string s | .string s, .date d => d.isoText == s
  | a, b => strictEq a b

end DocExpr.Value
