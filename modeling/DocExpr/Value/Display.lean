import DocExpr.Calendar.Writing
import DocExpr.Json.Basic
import DocExpr.Number.Notation
import DocExpr.Value.Basic

/-! The display text of a value. Inside containers it is compact JSON, where numbers are written
as in the expression language; strings on their own stand for themselves. -/
namespace DocExpr.Value

/-- A number inside a container. -/
def compactNumber (x : Float) : String := if Number.isFinite x then Number.toText x else "null"

mutual
def compact : Value → List Char
  | .null | .lambda _ => "null".toList
  | .bool b => (if b then "true" else "false").toList
  | .number x => (compactNumber x).toList
  | .string s => Json.quoted Json.escapeDisplayed s
  | .array items => '[' :: compactItems items ++ [']']
  | .object entries => '\x7b' :: compactEntries entries ++ ['\x7d']
  | .date d => '"' :: d.isoText.toList ++ ['"']
  | .regex pattern flags =>
    "\"/".toList ++ pattern.toList.flatMap Json.escapeDisplayed ++ '/' :: flags.toList ++ ['"']

def compactItems : List Value → List Char
  | [] => []
  | [v] => compact v
  | v :: vs => compact v ++ ',' :: compactItems vs

def compactEntries : List (String × Value) → List Char
  | [] => []
  | [(k, v)] => Json.quoted Json.escapeDisplayed k ++ ':' :: compact v
  | (k, v) :: es =>
    Json.quoted Json.escapeDisplayed k ++ ':' :: compact v ++ ',' :: compactEntries es
end

/-- The text of a value in a concatenation. -/
def display (v : Value) : String :=
  match v with
  | .string s => s
  | .number x => Number.toText x
  | .date d => d.isoText
  | .regex pattern flags => "/" ++ pattern ++ "/" ++ flags
  | .lambda _ => "[function]"
  | v => String.ofList v.compact

end DocExpr.Value
