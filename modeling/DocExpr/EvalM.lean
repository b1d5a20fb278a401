import DocExpr.Ambient
import DocExpr.Context
import DocExpr.Options

/-! The state of an evaluation, and computations on it that may fail. The state survives a
failure, so what a computation undoes at its end is undone on failure too. -/
namespace DocExpr

structure Evaluator where
  context : Context := .empty
  options : Options := {}
  /-- How deep the evaluation is nested at the moment. -/
  depth : Nat := 0
  /-- The steps taken so far. -/
  steps : Nat := 0
  /-- Tells evaluations apart whose values may meet. -/
  evaluation : Nat := 0
  /-- What each step finds outside. -/
  ambient : Nat → Ambient := .still

abbrev EvalM := ExceptT EvalError (StateM Evaluator)

namespace EvalM

/-- Runs a computation and then changes the state, whether it failed or not. -/
def finallyDo {α : Type} (act : EvalM α) (after : Evaluator → Evaluator) : EvalM α :=
  ExceptT.mk do
    let result ← act.run
    modify after
    return result

def tick : EvalM Unit := do
  modify fun ev => { ev with steps := ev.steps + 1 }
  let ev ← get
  if ev.options.maxSteps < ev.steps then throw (.limit (.steps ev.options.maxSteps))

def deeper {α : Type} (act : EvalM α) : EvalM α := do
  modify fun ev => { ev with depth := ev.depth + 1 }
  act.finallyDo fun ev => { ev with depth := ev.depth - 1 }

def withBinding {α : Type} (name : String) (value : Value) (act : EvalM α) : EvalM α := do
  modify fun ev => { ev with context := ev.context.push.bind name value }
  act.finallyDo fun ev => { ev with context := ev.context.pop }

def withContext {α : Type} (context : Context) (act : EvalM α) : EvalM α := do
  let saved := (← get).context
  modify fun ev => { ev with context := context }
  act.finallyDo fun ev => { ev with context := saved }

end EvalM
end DocExpr
