import DocExpr.Evaluation

/-! Expressions that were read once and can be evaluated on many documents, and the ways to
evaluate a text at once. -/
namespace DocExpr
open DocExpr.Expr (Node)

/-- An expression with the limits of its evaluations. -/
structure Expression where
  tree : Node
  options : Options

namespace Expression

def compile (s : String) (options : Options) : Except EvalError Expression := do
  return ⟨← Expr.parseWithDepth s options.maxDepth, options⟩

/-- Evaluates an expression on a document. The functions made in an evaluation bear its label. -/
def evaluate (e : Expression) (document : Value) (label : Nat) : Except EvalError Value :=
  ((EvalM.evaluate e.tree document).runOn (.start e.options label)).1

end Expression

def evaluate (s : String) (document : Value) (options : Options) (label : Nat) :
    Except EvalError Value := do
  (← Expression.compile s options).evaluate document label

/-- Reads a document, evaluates an expression on it, and writes the result as JSON. -/
def evaluateJson (s json : String) : Except EvalError String := do
  match Value.readJson? json with
  | none => .error .badDocument
  | some document => return (← evaluate s document {} 0).writeJson

def jsonPath (document : Value) (path : String) : Except EvalError Value :=
  ((EvalM.resolvePath document path).runOn (.start {} 0)).1

end DocExpr
