import DocExpr.Expr.Parser
import DocExpr.Library.Dispatch
import DocExpr.Operator
import DocExpr.Path.Resolve
import DocExpr.Value.Matching

/-! The evaluation of expressions. One level of a tree is evaluated with the evaluation of the next
level at hand, so the number of levels bounds the recursion, through callbacks, filters and
evaluated texts too. -/
namespace DocExpr
open DocExpr.Expr (Node Segment Pattern)
open DocExpr.Library (Host lift typeError)

abbrev Eval := Node → Value → EvalM Value

namespace Eval
variable (eval : Eval)

/-- Tests a predicate on a candidate, which is the current value meanwhile. -/
def test (root : Value) (predicate : Node) (candidate : Value) : EvalM Bool :=
  return (← EvalM.withBinding "@" candidate (eval predicate root)).isTruthy

def follow (root start : Value) (segments : List Segment) : EvalM Value := do
  let maxDepth := (← get).options.maxDepth
  Path.resolve ⟨eval.test root, (eval · root), maxDepth⟩ start segments

/-- Follows a path that is given as text, from a value that is its document. -/
def resolvePath (v : Value) (path : String) : EvalM Value := do
  match ← lift (Expr.parsePath path (← get).options.maxDepth) with
  | .path _ segments => eval.follow v v segments
  | _ => return v

/-- Calls a function: its parameters are bound on top of what it captured, and nothing else is
visible to it. -/
def call (f : Lambda Value) (args : List Value) (root : Value) : EvalM Value := do
  EvalM.tick
  EvalM.withContext ((Context.ofBindings f.captured).bindParams f.params args) (eval f.body root)

def text (s : String) (root : Value) : EvalM Value := do
  eval (← lift (Expr.parseWithDepth s (← get).options.maxDepth)) root

end Eval

namespace EvalM

/-- A function that captures all visible bindings. -/
def makeLambda (params : List String) (body : Node) : EvalM (Lambda Value) := do
  let ev ← get
  return ⟨⟨ev.evaluation, ev.steps⟩, params, body, ev.context.snapshot⟩

/-- The function that a value stands for: a function, or text with these parameters. -/
def callable (v : Value) (params : List String) : EvalM (Lambda Value) := do
  match v with
  | .lambda f => return f
  | .string s => makeLambda params (← lift (Expr.parseWithDepth s (← get).options.maxDepth))
  | v => lift (typeError (.notCallable v.kindName))

end EvalM

namespace Eval
variable (eval : Eval)

def host (maxStringLength : Nat) : Host where
  callable := EvalM.callable
  call := eval.call
  evalText := eval.text
  resolvePath := eval.resolvePath
  maxStringLength := maxStringLength

/-- Calls a function by its name: one that a name is bound to, or else one of the library. -/
def callNamed (name : String) (args : List Value) (root : Value) : EvalM Value := do
  let ev ← get
  match ev.context.lookup? name with
  | some (.lambda f) => eval.call f args root
  | _ => Library.callGlobal (eval.host ev.options.maxStringLength) root name args

/-- The values of entries; of several under one key the last one stays. -/
def entries (root : Value) (done : Entries Value) :
    List (String × Node) → EvalM (Entries Value)
  | [] => return done
  | (key, node) :: rest => do
    let v ← eval node root
    entries root (done.insert key v) rest

def arms (root subject : Value) : List (Pattern × Node) → EvalM Value
  | [] => throw (.noMatch (String.ofList (Text.clip 60 subject.display.toList)))
  | (pattern, body) :: rest =>
    if subject.fits pattern then eval body root else arms root subject rest

/-- Evaluates one level of an expression. -/
def node (root : Value) : Node → EvalM Value
  | .string s => return .string s
  | .number x => return .number x
  | .bool b => return .bool b
  | .null => return .null
  | .regex pattern flags => return .regex pattern flags
  | .root => return root
  | .current => do
    match (← get).context.lookup? "@" with
    | some v => return v
    | none => lift (typeError .currentOutsideFilter)
  | .name name => do
    match (← get).context.lookup? name with
    | some v => return v
    | none => lift (typeError (.undefinedName name))
  | .path base segments => do eval.follow root (← eval base root) segments
  | .call name args => do eval.callNamed name (← args.mapM (eval · root)) root
  | .method receiver name args => do
    let receiver ← eval receiver root
    let args ← args.mapM (eval · root)
    Library.callMethod (eval.host (← get).options.maxStringLength) root receiver name args
  | .namespaceCall space name args => do
    let args ← args.mapM (eval · root)
    let ev ← get
    lift (Library.callNamespace (ev.ambient ev.steps) space name args)
  | .member space name => lift (Library.namespaceMember space name)
  | .binary op left right => do
    let left ← eval left root
    if op.stopsAt left then return left
    let right ← eval right root
    lift (op.apply (← get).options.maxStringLength left right)
  | .unary op operand => do return op.apply (← eval operand root)
  | .instanceOf v typeName => do return .bool ((← eval v root).isInstance typeName)
  | .conditional condition thenBranch elseBranch => do
    if (← eval condition root).isTruthy then eval thenBranch root else eval elseBranch root
  | .matching subject cases => do eval.arms root (← eval subject root) cases
  | .lambda params body => do return .lambda (← EvalM.makeLambda params body)
  | .array items => do return .array (← items.mapM (eval · root))
  | .object members => do return .object (← eval.entries root [] members)

/-- Evaluates an expression that nests at most so many levels deep. -/
def levels : Nat → Eval
  | 0, _, _ => do
    EvalM.tick
    throw (.limit (.recursion (← get).options.maxDepth))
  | n + 1, expr, root => do
    EvalM.tick
    EvalM.deeper ((levels n).node root expr)

end Eval

namespace Evaluator

/-- The evaluation that an evaluator performs, within the depth that is left to it. -/
def eval (ev : Evaluator) : Eval := Eval.levels (ev.options.maxDepth - ev.depth)

def start (options : Options) (evaluation : Nat) : Evaluator := { options, evaluation }

end Evaluator

namespace EvalM

def evaluate (expr : Node) (root : Value) : EvalM Value := do (← get).eval expr root

def evaluateText (s : String) (root : Value) : EvalM Value := do (← get).eval.text s root

def resolvePath (v : Value) (path : String) : EvalM Value := do (← get).eval.resolvePath v path

def testPredicate (predicate : Node) (candidate root : Value) : EvalM Bool := do
  (← get).eval.test root predicate candidate

def call (f : Lambda Value) (args : List Value) (root : Value) : EvalM Value := do
  (← get).eval.call f args root

def callMethod (root receiver : Value) (name : String) (args : List Value) : EvalM Value := do
  let ev ← get
  Library.callMethod (ev.eval.host ev.options.maxStringLength) root receiver name args

def callNamespace (space name : String) (args : List Value) : EvalM Value := do
  let ev ← get
  lift (Library.callNamespace (ev.ambient ev.steps) space name args)

def callGlobal (root : Value) (name : String) (args : List Value) : EvalM Value := do
  let ev ← get
  Library.callGlobal (ev.eval.host ev.options.maxStringLength) root name args

/-- Runs a computation on an evaluator: its result, and the evaluator afterwards. -/
def runOn {α : Type} (act : EvalM α) (ev : Evaluator) : Except EvalError α × Evaluator :=
  (ExceptT.run act).run ev

end EvalM
end DocExpr
