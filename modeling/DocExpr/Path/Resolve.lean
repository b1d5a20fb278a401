import DocExpr.EvalM
import DocExpr.Path.Step

/-! Following a path. Filters and computed keys are evaluated by whoever follows the path. -/
namespace DocExpr.Path
open DocExpr.Expr (Node Segment)

/-- What following a path needs from an evaluation. -/
structure Guide where
  /-- Tests a predicate on a candidate. -/
  test : Node → Value → EvalM Bool
  /-- Evaluates a key. -/
  key : Node → EvalM Value
  /-- How deep a search for a name goes. -/
  maxDepth : Nat

def keep (test : Value → EvalM Bool) : List Value → EvalM (List Value)
  | [] => return []
  | v :: vs => do
    let passes ← test v
    let rest ← keep test vs
    return if passes then v :: rest else rest

/-- The step to a computed key: a whole number is an index, a string a field, and nothing lies
under any other key. -/
def dynamic (key : Value) (at_ : Reached) : Reached :=
  match key with
  | .string name => field name at_
  | .number x =>
    if Number.isWhole x then index (Number.toInt64 x) at_ else nowhere
  | _ => nowhere
where
  /-- Nothing is reached. -/
  nowhere : Reached :=
    match at_ with
    | .one _ => .one .null
    | .many _ => .many []

def step (guide : Guide) (at_ : Reached) : Segment → EvalM Reached
  | .field name => return field name at_
  | .index i => return index i at_
  | .wildcard => return wildcard at_
  | .descent name => ExceptT.mk (pure (descent name guide.maxDepth at_))
  | .filter predicate => return .many (← keep (guide.test predicate) (candidates at_))
  | .dynamic key => return dynamic (← guide.key key) at_

def steps (guide : Guide) (at_ : Reached) : List Segment → EvalM Reached
  | [] => return at_
  | s :: ss => do steps guide (← step guide at_ s) ss

def resolve (guide : Guide) (start : Value) (segments : List Segment) : EvalM Value :=
  return (← steps guide (.one start) segments).result

end DocExpr.Path
