/-! The tree of an expression. A path is a base with the accessors that follow it; a pattern is
what may stand on the left of an arm of a match. -/
namespace DocExpr.Expr

inductive BinaryOp where
  | add
  | subtract
  | multiply
  | divide
  | modulo
  | equal
  | notEqual
  | strictEqual
  | strictNotEqual
  | less
  | lessOrEqual
  | greater
  | greaterOrEqual
  | and
  | or
  deriving DecidableEq, Repr

/-- How tightly an operator binds. -/
def BinaryOp.precedence : BinaryOp → Nat
  | .or => 1
  | .and => 2
  | .equal | .notEqual | .strictEqual | .strictNotEqual => 3
  | .less | .lessOrEqual | .greater | .greaterOrEqual => 4
  | .add | .subtract => 5
  | .multiply | .divide | .modulo => 6

def BinaryOp.text : BinaryOp → String
  | .add => "+"
  | .subtract => "-"
  | .multiply => "*"
  | .divide => "/"
  | .modulo => "%"
  | .equal => "=="
  | .notEqual => "!="
  | .strictEqual => "==="
  | .strictNotEqual => "!=="
  | .less => "<"
  | .lessOrEqual => "<="
  | .greater => ">"
  | .greaterOrEqual => ">="
  | .and => "&&"
  | .or => "||"

inductive UnaryOp where
  | negate
  | plus
  | not
  | typeOf
  deriving DecidableEq, Repr

def UnaryOp.text : UnaryOp → String
  | .negate => "-"
  | .plus => "+"
  | .not => "!"
  | .typeOf => "typeof"

/-- What an object pattern asks of a key. -/
inductive Presence where
  /-- It is there and its value matches. -/
  | plain
  /-- It is not there, or its value matches. -/
  | optional
  /-- It is there, and its value is not null and matches. -/
  | required
  deriving DecidableEq, Repr

/-- What may stand on the left of an arm of a match. -/
inductive Pattern where
  | wildcard
  | string (s : String)
  | number (x : Float)
  | bool (b : Bool)
  | null
  | regex (pattern flags : String)
  | object (entries : List (String × Presence × Pattern))
  /-- Patterns for the first items and, behind a spread, for the last ones. -/
  | array (front : List Pattern) (spread : Bool) (back : List Pattern)

def Pattern.isWildcard : Pattern → Bool
  | .wildcard => true
  | _ => false

mutual
inductive Node where
  | string (s : String)
  | number (x : Float)
  | bool (b : Bool)
  | null
  | regex (pattern flags : String)
  /-- The document. -/
  | root
  /-- The value under test in a filter. -/
  | current
  | name (name : String)
  | path (base : Node) (segments : List Segment)
  | call (name : String) (args : List Node)
  | method (receiver : Node) (name : String) (args : List Node)
  | namespaceCall (space name : String) (args : List Node)
  | member (space name : String)
  | binary (op : BinaryOp) (left right : Node)
  | unary (op : UnaryOp) (operand : Node)
  | instanceOf (value : Node) (typeName : String)
  | conditional (condition thenBranch elseBranch : Node)
  | matching (subject : Node) (arms : List (Pattern × Node))
  | lambda (params : List String) (body : Node)
  | array (items : List Node)
  | object (entries : List (String × Node))

inductive Segment where
  | field (name : String)
  | index (i : Int)
  /-- All children. -/
  | wildcard
  /-- Every value under a name, however deep. -/
  | descent (name : String)
  | filter (predicate : Node)
  /-- An index or a field that is computed. -/
  | dynamic (key : Node)
end

/-- The path that goes one accessor further. -/
def Node.withSegment (node : Node) (segment : Segment) : Node :=
  match node with
  | .path base segments => .path base (segments ++ [segment])
  | node => .path node [segment]

end DocExpr.Expr
