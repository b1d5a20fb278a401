import DocExpr.Error
import DocExpr.Number.Notation
import DocExpr.Value.Basic

/-! The steps of a path that need no evaluation: fields, indexes, all children, and every value
under a name. A path is at one value until a step may lead to several; from there on each value
goes its own way, and what is not there drops out. -/
namespace DocExpr.Path

/-- Where a path has led. -/
inductive Reached where
  | one (v : Value)
  | many (vs : List Value)

def Reached.values : Reached → List Value
  | .one v => [v]
  | .many vs => vs

/-- The value of a path that ends here; several values are an array. -/
def Reached.result : Reached → Value
  | .one v => v
  | .many vs => .array vs

/-- The number of characters of a string or of items of an array. -/
def length? : Value → Option Value
  | .string s => some (.ofNat s.length)
  | .array items => some (.ofNat items.length)
  | _ => none

/-- The values under a name in those of the values that are objects and have it. -/
def fieldsOf (name : String) (vs : List Value) : List Value := vs.filterMap (·.get? name)

/-- The step to a field from one value. Strings and arrays have a length; from an array the step
leads to the field of each item. -/
def fieldOfOne (name : String) (v : Value) : Reached :=
  match if name = "length" then length? v else none with
  | some n => .one n
  | none =>
    match v with
    | .object _ => .one ((v.get? name).getD .null)
    | .array items => .many (fieldsOf name items)
    | _ => .one .null

def fieldOfEach (name : String) (v : Value) : List Value :=
  match v with
  | .object _ => (v.get? name).toList
  | .array items => if name = "length" then (length? v).toList else fieldsOf name items
  | v => if name = "length" then (length? v).toList else []

def field (name : String) : Reached → Reached
  | .one v => fieldOfOne name v
  | .many vs => .many (vs.flatMap (fieldOfEach name))

/-- The item of an array at an index, or the value of an object under the index in decimal. -/
def element? (i : Int) (v : Value) : Option Value :=
  match v with
  | .array items => if i < 0 then none else items[i.toNat]?
  | .object entries => Entries.find? entries (Number.intText i)
  | _ => none

def index (i : Int) : Reached → Reached
  | .one v => .one ((element? i v).getD .null)
  | .many vs => .many (vs.filterMap (element? i))

def children : Value → List Value
  | .array items => items
  | .object entries => Entries.values entries
  | _ => []

def wildcard (at_ : Reached) : Reached := .many (at_.values.flatMap children)

/-- The values that a filter tests. -/
def candidates : Reached → List Value
  | .one v => children v
  | .many vs =>
    vs.flatMap fun
      | .array items => items
      | v => [v]

def tooDeep (limit : Nat) : EvalError := .limit (.documentNesting limit)

mutual
/-- Every value under a name in a value and below it, an object before what it contains. The value
itself lies `depth` deep, and nothing may lie deeper than `limit`. -/
def descend (name : String) (limit depth : Nat) (v : Value) : Except EvalError (List Value) :=
  if limit < depth then .error (tooDeep limit)
  else
    match v with
    | .object entries => do
      let below ← descendEntries name limit (depth + 1) entries
      return (Entries.find? entries name).toList ++ below
    | .array items => descendItems name limit (depth + 1) items
    | _ => .ok []

def descendItems (name : String) (limit depth : Nat) : List Value →
    Except EvalError (List Value)
  | [] => .ok []
  | v :: vs => do
    let here ← descend name limit depth v
    let there ← descendItems name limit depth vs
    return here ++ there

def descendEntries (name : String) (limit depth : Nat) : List (String × Value) →
    Except EvalError (List Value)
  | [] => .ok []
  | (_, v) :: es => do
    let here ← descend name limit depth v
    let there ← descendEntries name limit depth es
    return here ++ there
end

/-- Every value under a name in each of the values and below them. -/
def descent (name : String) (limit : Nat) (at_ : Reached) : Except EvalError Reached :=
  (descendItems name limit 0 at_.values).map .many

end DocExpr.Path
