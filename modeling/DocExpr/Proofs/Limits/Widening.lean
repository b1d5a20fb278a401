import DocExpr.Expression
import DocExpr.Proofs.Evaluation.Levels
import DocExpr.Proofs.Evaluation.Run

/-! Limits only refuse. Two runs of a computation, the second one with wider limits, go the same way
until the first one reaches a limit: this is a congruence, so whole evaluations are in it. -/
namespace DocExpr
open DocExpr.Expr (parseWithDepth)
open EvalM (Relation Congruence)

namespace EvalM

/-- On a wider evaluator the second computation gives what the first one gives, unless that reached
a limit. The evaluators afterwards differ in their limits only, too. -/
def Outlasted : Relation := fun _ x x' => ∀ ev ev' : Evaluator, ev.Widened ev' →
  (∃ fault, (x.runOn ev).1 = .error (.limit fault)) ∨
    (x'.runOn ev').1 = (x.runOn ev).1 ∧ (x.runOn ev).2.Widened (x'.runOn ev').2

theorem outlasted_congruence : Congruence Outlasted where
  result r ev ev' wider := .inr ⟨rfl, wider⟩
  limit fault x' ev ev' wider := .inl ⟨fault, rfl⟩
  bind {α β x x' f f'} first next ev ev' wider := by
    rw [runOn_bind, runOn_bind]
    obtain ⟨fault, reached⟩ | ⟨same, wider⟩ := first ev ev' wider
    · rw [reached]
      exact .inl ⟨fault, rfl⟩
    · rw [same]
      cases (x.runOn ev).1 with
      | ok a => exact next a _ _ wider
      | error e => exact .inr ⟨rfl, wider⟩
  read each ev ev' wider := each ev ev' wider ev ev' wider
  tick ev ev' wider := by
    have maxSteps := wider.limits.maxSteps
    have steps := wider.steps
    rw [runOn_tick, runOn_tick]
    split
    · exact .inl ⟨_, rfl⟩
    · rw [if_neg (by omega)]
      exact .inr ⟨rfl, { wider with steps := by rw [steps] }⟩
  deeper inner ev ev' wider := by
    obtain reached | ⟨same, wider⟩ := inner { ev with depth := ev.depth + 1 }
      { ev' with depth := ev'.depth + 1 } { wider with depth := by rw [wider.depth] }
    · exact .inl reached
    · exact .inr ⟨same, { wider with depth := congrArg (· - 1) wider.depth }⟩
  withBinding name value inner ev ev' wider := by
    obtain reached | ⟨same, wider⟩ :=
      inner { ev with context := ev.context.push.bind name value }
        { ev' with context := ev'.context.push.bind name value }
        { wider with context := by rw [wider.context] }
    · exact .inl reached
    · exact .inr ⟨same, { wider with context := congrArg Context.pop wider.context }⟩
  withContext context inner ev ev' wider := by
    obtain reached | ⟨same, after⟩ :=
      inner { ev with context } { ev' with context } { wider with context := rfl }
    · exact .inl reached
    · exact .inr ⟨same, { after with context := wider.context }⟩

end EvalM

theorem Expression.evaluate_within {o o' : Options} (wider : o ≤ o') (tree : Expr.Node)
    (document : Value) (label : Nat) :
    Within ((Expression.mk tree o).evaluate document label)
      ((Expression.mk tree o').evaluate document label) := by
  have started : (Evaluator.start o label).Widened (.start o' label) :=
    ⟨wider, rfl, rfl, rfl, rfl, rfl⟩
  have related := EvalM.evaluate_related EvalM.outlasted_congruence tree document
  unfold evaluate
  obtain ⟨fault, reached⟩ | ⟨same, -⟩ := related _ _ started
  · rw [reached]
    exact .limit fault _
  · rw [same]
    exact .same _

theorem evaluate_eq (s : String) (document : Value) (o : Options) (label : Nat) :
    evaluate s document o label =
      parseWithDepth s o.maxDepth >>= fun tree =>
        (Expression.mk tree o).evaluate document label := by
  unfold evaluate Expression.compile
  cases parseWithDepth s o.maxDepth with
  | error e => rfl
  | ok tree => rfl

theorem evaluate_within {o o' : Options} (wider : o ≤ o') (s : String) (document : Value)
    (label : Nat) : Within (evaluate s document o label) (evaluate s document o' label) := by
  rw [evaluate_eq, evaluate_eq]
  exact (Expr.parseWithDepth_within wider.maxDepth s).bind fun tree =>
    Expression.evaluate_within wider tree document label

/-- A result that is no limit error is the same with wider limits, for evaluating a text and for
reading one. -/
theorem wider_limits_agree :
    (∀ (s : String) (document : Value) (label : Nat) (o o' : Options), o ≤ o' →
      (∀ fault, evaluate s document o label ≠ .error (.limit fault)) →
      evaluate s document o' label = evaluate s document o label) ∧
    ∀ (text : String) (d d' : Nat), d ≤ d' →
      (∀ fault, parseWithDepth text d ≠ .error (.limit fault)) →
      parseWithDepth text d' = parseWithDepth text d :=
  ⟨fun s document label _ _ wider => (evaluate_within wider s document label).eq_of_not_limit,
    fun text _ _ deeper => (Expr.parseWithDepth_within deeper text).eq_of_not_limit⟩

/-- Three levels and five steps are enough for a conditional in an array, and two levels for an
array of one item; more of them change neither the value nor the tree. -/
theorem wider_limits_agree_on_arrays :
    evaluate "[$ ? @ : '']" .null ⟨9, 9, 9⟩ 0 = .ok (.array [.string ""]) ∧
      parseWithDepth "[@]" 9 = .ok (.array [.current]) := by
  have value : evaluate "[$ ? @ : '']" .null ⟨3, 5, 0⟩ 0 = .ok (.array [.string ""]) := rfl
  have tree : parseWithDepth "[@]" 2 = .ok (.array [.current]) := rfl
  constructor
  · rw [← value]
    refine wider_limits_agree.1 _ _ _ _ _ ⟨by decide, by decide, by decide⟩ fun fault h => ?_
    rw [value] at h
    cases h
  · rw [← tree]
    refine wider_limits_agree.2 _ _ _ (by decide) fun fault h => ?_
    rw [tree] at h
    cases h

end DocExpr
