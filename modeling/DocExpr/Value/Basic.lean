import DocExpr.Calendar.Date
import DocExpr.Entries
import DocExpr.Expr.Tree

/-! The values of expressions: those of documents, and dates, regexes and functions. -/
namespace DocExpr

/-- Tells functions apart: the evaluation in which a function was made, and the step of it. -/
structure Birth where
  evaluation : Nat
  step : Nat
  deriving DecidableEq, Repr

/-- A function with the bindings that were visible where it was made. -/
structure Lambda (α : Type) where
  birth : Birth
  params : List String
  body : Expr.Node
  captured : List (String × α)

inductive Value where
  | null
  | bool (b : Bool)
  | number (x : Float)
  | string (s : String)
  | array (items : List Value)
  | object (entries : List (String × Value))
  | date (d : Calendar.Date)
  | regex (pattern flags : String)
  | lambda (f : Lambda Value)

namespace Value

instance : Inhabited Value := ⟨.null⟩

def ofNat (n : Nat) : Value := .number (Float.ofNat n)

def ofChars (cs : List Char) : Value := .string (String.ofList cs)

def kindName : Value → String
  | .null => "null"
  | .bool _ => "boolean"
  | .number _ => "number"
  | .string _ => "string"
  | .array _ => "array"
  | .object _ => "object"
  | .date _ => "date"
  | .regex .. => "regexp"
  | .lambda _ => "function"

def isNull : Value → Bool
  | .null => true
  | _ => false

theorem eq_null_of_isNull {v : Value} (isNull : v.isNull = true) : v = .null := by
  cases v with
  | null => rfl
  | _ => cases isNull

/-- What counts as true in a condition: all but null, false, zero, what is no number, and the empty
string. -/
def isTruthy : Value → Bool
  | .null => false
  | .bool b => b
  | .number x => x != 0.0 && !x.isNaN
  | .string s => !s.isEmpty
  | _ => true

def get? (v : Value) (key : String) : Option Value :=
  match v with
  | .object entries => Entries.find? entries key
  | _ => none

/-- The value belongs to a type that a name in an expression means. Arrays are no objects, and
`Date` stands for all kinds of dates. -/
def isInstance (v : Value) (typeName : String) : Bool :=
  match v with
  | .null => typeName == "Null"
  | .bool _ => typeName == "Boolean"
  | .string _ => typeName == "String"
  | .number _ => typeName == "Number"
  | .object _ => typeName == "Object"
  | .array _ => typeName == "Array"
  | .date d => typeName == "Date" || typeName == d.kind.name
  | .regex .. | .lambda _ => false

end Value
end DocExpr
