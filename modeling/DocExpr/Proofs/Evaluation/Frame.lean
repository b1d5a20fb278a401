import DocExpr.Proofs.Evaluation.Levels
import DocExpr.Proofs.Evaluation.Run

/-! What an operation leaves of an evaluator: everything but the step counter, which does not go
back. Scopes that filters open, contexts that callbacks swap in and the depth are put back on every
way out, so this is a congruence and all operations are in it. -/
namespace DocExpr
open DocExpr.Expr (Node)
open EvalM (Relation Congruence)

/-- Only the step counter of an evaluator moves, and not back. -/
def Evaluator.Advances (ev after : Evaluator) : Prop :=
  ∃ steps, ev.steps ≤ steps ∧ after = { ev with steps }

namespace Evaluator.Advances

theorem refl (ev : Evaluator) : ev.Advances ev := ⟨ev.steps, Nat.le_refl _, rfl⟩

theorem trans {ev middle after : Evaluator} (first : ev.Advances middle)
    (second : middle.Advances after) : ev.Advances after := by
  obtain ⟨m, le₁, rfl⟩ := first
  obtain ⟨n, le₂, rfl⟩ := second
  exact ⟨n, Nat.le_trans le₁ le₂, rfl⟩

theorem eq_withSteps {ev after : Evaluator} (h : ev.Advances after) :
    after = { ev with steps := after.steps } := by
  obtain ⟨n, -, rfl⟩ := h
  rfl

end Evaluator.Advances

namespace EvalM

/-- The first computation moves nothing of an evaluator but the step counter. -/
def Framed : Relation := fun _ x _ => ∀ ev : Evaluator, ev.Advances (x.runOn ev).2

theorem framed_congruence : Congruence Framed where
  result _ ev := .refl ev
  limit _ _ ev := .refl ev
  bind first next ev := by
    rw [runOn_bind]
    refine (first ev).trans ?_
    split
    · exact next _ _
    · exact .refl _
  read each ev := each ev ev (.refl ev) ev
  tick ev := by
    rw [runOn_tick]
    exact ⟨ev.steps + 1, Nat.le_succ _, rfl⟩
  deeper inner ev := by
    obtain ⟨n, le, after⟩ := inner { ev with depth := ev.depth + 1 }
    simp only [runOn_deeper, after]
    exact ⟨n, le, rfl⟩
  withBinding name value inner ev := by
    obtain ⟨n, le, after⟩ := inner { ev with context := ev.context.push.bind name value }
    simp only [runOn_withBinding, after, Context.pop_bind_push]
    exact ⟨n, le, rfl⟩
  withContext context inner ev := by
    obtain ⟨n, le, after⟩ := inner { ev with context }
    simp only [runOn_withContext, after]
    exact ⟨n, le, rfl⟩

theorem Framed.ensures {α : Type} {P : α → Prop} {act : EvalM α} {ev : Evaluator}
    (framed : Framed α act act)
    (returns : act.Returns ev.Advances P) : act.Ensures ev.Advances P where
  returns := returns
  stays ev' advances := advances.trans (framed ev')

end EvalM

/-- What one can ask of an evaluator. -/
inductive Operation where
  | evaluate (expr : Node) (root : Value)
  | evaluateText (s : String) (root : Value)
  | resolvePath (v : Value) (path : String)
  | evaluateKey (key : Node) (root : Value)
  | testPredicate (predicate : Node) (candidate root : Value)
  | callable (v : Value) (params : List String)
  | call (f : Lambda Value) (args : List Value) (root : Value)

/-- What one gets. -/
inductive Operation.Answer where
  | value (v : Value)
  | truth (b : Bool)
  | function (f : Lambda Value)

/-- Performs an operation. -/
def Operation.perform : Operation → EvalM Answer
  | .evaluate expr root => .value <$> EvalM.evaluate expr root
  | .evaluateText s root => .value <$> EvalM.evaluateText s root
  | .resolvePath v path => .value <$> EvalM.resolvePath v path
  | .evaluateKey key root => .value <$> EvalM.evaluate key root
  | .testPredicate predicate candidate root =>
    .truth <$> EvalM.testPredicate predicate candidate root
  | .callable v params => .function <$> EvalM.callable v params
  | .call f args root => .value <$> EvalM.call f args root

/-- The evaluator after some operations, of which any may fail. -/
def Evaluator.after (ev : Evaluator) (ops : List Operation) : Evaluator :=
  ops.foldl (fun ev op => (op.perform.runOn ev).2) ev

theorem Operation.perform_advances (op : Operation) (ev : Evaluator) :
    ev.Advances (op.perform.runOn ev).2 := by
  have keeps := EvalM.framed_congruence
  have framed : EvalM.Framed _ op.perform op.perform := by
    cases op with
    | evaluate expr root => exact keeps.map _ (EvalM.evaluate_related keeps expr root)
    | evaluateText s root => exact keeps.map _ (EvalM.evaluateText_related keeps s root)
    | resolvePath v path => exact keeps.map _ (EvalM.resolvePath_related keeps v path)
    | evaluateKey key root => exact keeps.map _ (EvalM.evaluate_related keeps key root)
    | testPredicate predicate candidate root =>
      exact keeps.map _ (EvalM.testPredicate_related keeps predicate candidate root)
    | callable v params => exact keeps.map _ (EvalM.callable_related keeps v params)
    | call f args root => exact keeps.map _ (EvalM.call_related keeps f args root)
  exact framed ev

theorem Evaluator.after_advances (ops : List Operation) (ev : Evaluator) :
    ev.Advances (ev.after ops) := by
  induction ops generalizing ev with
  | nil => exact .refl ev
  | cons op ops ih => exact (op.perform_advances ev).trans (ih _)

/-- An operation, whether it succeeds or fails, leaves the scopes and the depth of every evaluator
as they were and the step counter no lower. So the answer to an operation depends on those before
it through the step counter only. -/
theorem operations_leave_frame :
    (∀ (ev : Evaluator) (op : Operation),
      (op.perform.runOn ev).2.context = ev.context ∧ (op.perform.runOn ev).2.depth = ev.depth ∧
        ev.steps ≤ (op.perform.runOn ev).2.steps) ∧
    ∀ (ev : Evaluator) (before : List Operation) (op : Operation),
      op.perform.runOn (ev.after before) =
        op.perform.runOn { ev with steps := (ev.after before).steps } := by
  constructor
  · intro ev op
    obtain ⟨n, le, after⟩ := op.perform_advances ev
    rw [after]
    exact ⟨rfl, rfl, le⟩
  · intro ev before op
    exact congrArg op.perform.runOn (ev.after_advances before).eq_withSteps

end DocExpr
