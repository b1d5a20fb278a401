import DocExpr.Expr.Lexer
import DocExpr.Text.Occurrence
import DocExpr.Value.Basic

/-! The number that a value stands for in arithmetic. -/
namespace DocExpr.Value

/-- The value of hexadecimal digits with an optional sign in front, if it is a signed 64-bit
number. -/
def hexInt? (cs : List Char) : Option Int :=
  let (negative, digits) := Number.spanSign cs
  match digits with
  | [] => none
  | digits => do
    let n ← Number.hexNumber? digits
    let i : Int := if negative then -n else n
    if Number.minInt64 ≤ i ∧ i ≤ Number.maxInt64 then some i else none

def inNumeral (c : Char) : Bool :=
  Number.isDigit c || c == '.' || c == 'e' || c == 'E' || c == '+' || c == '-'

/-- The number that a text writes: zero if it is blank, and no number if it is no numeral. -/
def numberOfText (s : String) : Float :=
  let cs := Text.trim s.toList
  if cs.isEmpty then 0.0
  else if cs = "Infinity".toList ∨ cs = "+Infinity".toList then Number.infinity
  else if cs = "-Infinity".toList then -Number.infinity
  else
    match (Text.dropPrefix? "0x".toList cs).or (Text.dropPrefix? "0X".toList cs) with
    | some digits =>
      match hexInt? digits with
      | some n => Number.ofInt n
      | none => Number.nan
    | none => if cs.all inNumeral then (Number.ofNumeral? cs).getD Number.nan else Number.nan

def toNumber : Value → Float
  | .null => 0.0
  | .bool b => if b then 1.0 else 0.0
  | .number x => x
  | .string s => numberOfText s
  | .date d => Number.ofInt d.instant.millis
  | _ => Number.nan

end DocExpr.Value
