import DocExpr.Expr.Tree
import DocExpr.Library.Host
import DocExpr.Value.Equality
import DocExpr.Value.Order

/-! The operators on values. -/
namespace DocExpr.Expr
open DocExpr.Library (checkLength)

/-- The operator puts texts together where one of its operands is this value. -/
def joinsText : Value → Bool
  | .string _ | .date _ => true
  | _ => false

/-- The sum of numbers; the joined texts if one of the values is text or a date. -/
def addValues (limit : Nat) (left right : Value) : Except EvalError Value :=
  if joinsText left || joinsText right then do
    let head := left.display
    let tail := right.display
    checkLength (head.utf8ByteSize + tail.utf8ByteSize) limit
    return .string (head ++ tail)
  else .ok (.number (left.toNumber + right.toNumber))

/-- The left operand alone decides the value of the operator, and is that value. -/
def BinaryOp.stopsAt (op : BinaryOp) (left : Value) : Bool :=
  match op with
  | .and => !left.isTruthy
  | .or => left.isTruthy
  | _ => false

/-- The value of an operator whose right operand counts. A string that is put together may have
`limit` bytes. Numbers that cannot be ordered are in no relation. -/
def BinaryOp.apply (op : BinaryOp) (limit : Nat) (left right : Value) : Except EvalError Value :=
  let x := left.toNumber
  let y := right.toNumber
  let order := left.compareRelational right
  match op with
  | .add => addValues limit left right
  | .subtract => .ok (.number (x - y))
  | .multiply => .ok (.number (x * y))
  | .divide => if y == 0.0 then .error .divisionByZero else .ok (.number (x / y))
  | .modulo => .ok (.number (Number.remainder x y))
  | .equal => .ok (.bool (left.looseEq right))
  | .notEqual => .ok (.bool !(left.looseEq right))
  | .strictEqual => .ok (.bool (left.strictEq right))
  | .strictNotEqual => .ok (.bool !(left.strictEq right))
  | .less => .ok (.bool (order == some .lt))
  | .lessOrEqual => .ok (.bool (order == some .lt || order == some .eq))
  | .greater => .ok (.bool (order == some .gt))
  | .greaterOrEqual => .ok (.bool (order == some .gt || order == some .eq))
  | .and | .or => .ok right

def UnaryOp.apply (op : UnaryOp) (v : Value) : Value :=
  match op with
  | .negate => .number (-v.toNumber)
  | .plus => .number v.toNumber
  | .not => .bool !v.isTruthy
  | .typeOf => .string v.kindName

end DocExpr.Expr
