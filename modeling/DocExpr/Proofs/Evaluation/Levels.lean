import DocExpr.Proofs.Evaluation.Callbacks
import DocExpr.Proofs.Limits.Parsing

/-! Evaluation in a congruence. One level of a tree keeps the relation when the level below does,
and so all levels do, by induction on their number: an evaluation is related to one that may nest
deeper. -/
namespace DocExpr
open DocExpr.Expr (Node Segment Pattern)
open DocExpr.Library (Host lift)
open EvalM (Relation Congruence)

/-- What two evaluations do is related on every expression and document. -/
def Eval.Related (R : Relation) (eval eval' : Eval) : Prop :=
  ∀ expr root, R _ (eval expr root) (eval' expr root)

namespace Path
variable {R : Relation} (keeps : Congruence R)
include keeps

/-- What two guides do is related, and the second one goes at least as deep. -/
structure Guide.Related (R : Relation) (guide guide' : Guide) : Prop where
  test : ∀ predicate candidate,
    R _ (guide.test predicate candidate) (guide'.test predicate candidate)
  key : ∀ expr, R _ (guide.key expr) (guide'.key expr)
  maxDepth : guide.maxDepth ≤ guide'.maxDepth

theorem keep_related {test test' : Value → EvalM Bool} (tests : ∀ v, R _ (test v) (test' v))
    (vs : List Value) : R _ (keep test vs) (keep test' vs) := by
  induction vs with
  | nil => exact keeps.pure _
  | cons v vs ih =>
    refine keeps.bind (tests v) fun passes => ?_
    exact keeps.bind ih fun rest => keeps.pure _

variable {guide guide' : Guide} (guides : guide.Related R guide')
include guides

theorem step_related (at_ : Reached) (segment : Segment) :
    R _ (step guide at_ segment) (step guide' at_ segment) := by
  cases segment with
  | descent name => exact keeps.lift_within (descent_within guides.maxDepth at_)
  | filter predicate =>
    exact keeps.bind (keep_related keeps (guides.test predicate) _) fun _ => keeps.pure _
  | dynamic key => exact keeps.bind (guides.key key) fun _ => keeps.pure _
  | _ => exact keeps.pure _

theorem steps_related (at_ : Reached) (segments : List Segment) :
    R _ (steps guide at_ segments) (steps guide' at_ segments) := by
  induction segments generalizing at_ with
  | nil => exact keeps.pure _
  | cons s ss ih => exact keeps.bind (step_related keeps guides at_ s) fun at_ => ih at_

theorem resolve_related (start : Value) (segments : List Segment) :
    R _ (resolve guide start segments) (resolve guide' start segments) :=
  keeps.bind (steps_related keeps guides _ segments) fun _ => keeps.pure _

end Path

namespace EvalM
variable {R : Relation} (keeps : Congruence R)
include keeps

theorem makeLambda_related (params : List String) (body : Node) :
    R _ (makeLambda params body) (makeLambda params body) :=
  keeps.read fun ev ev' wider => by
    rw [wider.context, wider.steps, wider.evaluation]
    exact keeps.pure _

theorem callable_related (v : Value) (params : List String) :
    R _ (callable v params) (callable v params) := by
  cases v with
  | lambda f => exact keeps.pure f
  | string s =>
    refine keeps.read fun ev ev' wider => ?_
    refine keeps.bind (keeps.lift_within (Expr.parseWithDepth_within wider.limits.maxDepth s))
      fun body => ?_
    exact makeLambda_related keeps params body
  | _ => exact keeps.result _

end EvalM

namespace Eval
variable {R : Relation} (keeps : Congruence R) {eval eval' : Eval} (evals : eval.Related R eval')
include keeps evals

theorem test_related (root : Value) (predicate : Node) (candidate : Value) :
    R _ (eval.test root predicate candidate) (eval'.test root predicate candidate) :=
  keeps.bind (keeps.withBinding "@" candidate (evals predicate root)) fun _ => keeps.pure _

theorem follow_related (root start : Value) (segments : List Segment) :
    R _ (eval.follow root start segments) (eval'.follow root start segments) :=
  keeps.read fun _ _ wider => Path.resolve_related keeps
    ⟨test_related keeps evals root, fun expr => evals expr root, wider.limits.maxDepth⟩ _ _

theorem resolvePath_related (v : Value) (path : String) :
    R _ (eval.resolvePath v path) (eval'.resolvePath v path) := by
  refine keeps.read fun ev ev' wider => ?_
  refine keeps.bind (keeps.lift_within (Expr.parsePath_within wider.limits.maxDepth path))
    fun node => ?_
  split
  · exact follow_related keeps evals v v _
  · exact keeps.pure v

theorem call_related (f : Lambda Value) (args : List Value) (root : Value) :
    R _ (eval.call f args root) (eval'.call f args root) :=
  keeps.bind keeps.tick fun _ => keeps.withContext _ (evals f.body root)

theorem text_related (s : String) (root : Value) :
    R _ (eval.text s root) (eval'.text s root) := by
  refine keeps.read fun ev ev' wider => ?_
  refine keeps.bind (keeps.lift_within (Expr.parseWithDepth_within wider.limits.maxDepth s))
    fun expr => ?_
  exact evals expr root

theorem host_related {limit limit' : Nat} (wider : limit ≤ limit') :
    (eval.host limit).Related R (eval'.host limit') where
  callable := EvalM.callable_related keeps
  call := call_related keeps evals
  evalText := text_related keeps evals
  resolvePath := resolvePath_related keeps evals
  maxStringLength := wider

theorem callNamed_related (name : String) (args : List Value) (root : Value) :
    R _ (eval.callNamed name args root) (eval'.callNamed name args root) := by
  refine keeps.read fun ev ev' wider => ?_
  have hosts := host_related keeps evals wider.limits.maxStringLength
  rw [wider.context]
  split
  · exact call_related keeps evals _ args root
  · exact Library.callGlobal_related keeps hosts root name args

theorem entries_related (root : Value) (done : Entries Value) (members : List (String × Node)) :
    R _ (eval.entries root done members) (eval'.entries root done members) := by
  induction members generalizing done with
  | nil => exact keeps.pure _
  | cons member rest ih => exact keeps.bind (evals member.2 root) fun v => ih _

theorem arms_related (root subject : Value) (cases : List (Pattern × Node)) :
    R _ (eval.arms root subject cases) (eval'.arms root subject cases) := by
  induction cases with
  | nil => exact keeps.result _
  | cons arm rest ih =>
    rw [arms, arms]
    split
    · exact evals arm.2 root
    · exact ih

theorem args_related (root : Value) (args : List Node) :
    R _ (args.mapM (eval · root)) (args.mapM (eval' · root)) :=
  keeps.mapM (fun arg => evals arg root) args

theorem node_related (root : Value) (expr : Node) :
    R _ (eval.node root expr) (eval'.node root expr) := by
  cases expr with
  | current =>
    refine keeps.read fun ev ev' wider => ?_
    rw [wider.context]
    split
    · exact keeps.pure _
    · exact keeps.result _
  | name name =>
    refine keeps.read fun ev ev' wider => ?_
    rw [wider.context]
    split
    · exact keeps.pure _
    · exact keeps.result _
  | path base segments =>
    exact keeps.bind (evals base root) fun start => follow_related keeps evals root start segments
  | call name args =>
    exact keeps.bind (args_related keeps evals root args) fun args =>
      callNamed_related keeps evals name args root
  | method receiver name args =>
    refine keeps.bind (evals receiver root) fun receiver => ?_
    refine keeps.bind (args_related keeps evals root args) fun args => ?_
    refine keeps.read fun ev ev' wider => ?_
    exact Library.callMethod_related keeps
      (host_related keeps evals wider.limits.maxStringLength) root receiver name args
  | namespaceCall space name args =>
    refine keeps.bind (args_related keeps evals root args) fun args => ?_
    refine keeps.read fun ev ev' wider => ?_
    rw [wider.ambient, wider.steps]
    exact keeps.result _
  | member space name => exact keeps.result _
  | binary op left right =>
    refine keeps.bind (evals left root) fun left => ?_
    split
    · exact keeps.pure _
    · refine keeps.bind (evals right root) fun right => ?_
      refine keeps.read fun ev ev' wider => ?_
      exact keeps.lift_within (op.apply_within wider.limits.maxStringLength left right)
  | unary op operand => exact keeps.bind (evals operand root) fun _ => keeps.pure _
  | instanceOf v typeName => exact keeps.bind (evals v root) fun _ => keeps.pure _
  | conditional condition thenBranch elseBranch =>
    refine keeps.bind (evals condition root) fun v => ?_
    split
    · exact evals thenBranch root
    · exact evals elseBranch root
  | matching subject cases =>
    exact keeps.bind (evals subject root) fun v => arms_related keeps evals root v cases
  | lambda params body =>
    exact keeps.bind (EvalM.makeLambda_related keeps params body) fun _ => keeps.pure _
  | array items =>
    exact keeps.bind (args_related keeps evals root items) fun _ => keeps.pure _
  | object members =>
    exact keeps.bind (entries_related keeps evals root [] members) fun _ => keeps.pure _
  | _ => exact keeps.pure _

omit evals in
theorem levels_related {n n' : Nat} (deeper : n ≤ n') : (levels n).Related R (levels n') := by
  induction n generalizing n' with
  | zero =>
    intro expr root
    have exhausted : ∀ act : EvalM Value,
        R _ (get >>= fun ev => throw (.limit (.recursion ev.options.maxDepth)))
          (get >>= fun _ => act) :=
      fun act => keeps.read fun ev _ _ => keeps.limit _ act
    cases n' with
    | zero => exact keeps.bind keeps.tick fun _ => exhausted _
    | succ n' => exact keeps.bind keeps.tick fun _ => exhausted _
  | succ n ih =>
    obtain ⟨n', rfl⟩ : ∃ m, n' = m + 1 := ⟨n' - 1, by omega⟩
    intro expr root
    refine keeps.bind keeps.tick fun _ => ?_
    exact keeps.deeper (node_related keeps (ih (by omega)) root expr)

end Eval

/-- A wider evaluator has at least as many levels left. -/
theorem Evaluator.Widened.eval_related {R : Relation} (keeps : Congruence R)
    {ev ev' : Evaluator} (wider : ev.Widened ev') : ev.eval.Related R ev'.eval := by
  have depth := wider.depth
  have maxDepth := wider.limits.maxDepth
  exact Eval.levels_related keeps (by omega)

namespace EvalM
variable {R : Relation} (keeps : Congruence R)
include keeps

theorem evaluate_related (expr : Node) (root : Value) :
    R _ (evaluate expr root) (evaluate expr root) :=
  keeps.read fun _ _ wider => wider.eval_related keeps expr root

theorem evaluateText_related (s : String) (root : Value) :
    R _ (evaluateText s root) (evaluateText s root) :=
  keeps.read fun _ _ wider => Eval.text_related keeps (wider.eval_related keeps) s root

theorem resolvePath_related (v : Value) (path : String) :
    R _ (resolvePath v path) (resolvePath v path) :=
  keeps.read fun _ _ wider => Eval.resolvePath_related keeps (wider.eval_related keeps) v path

theorem testPredicate_related (predicate : Node) (candidate root : Value) :
    R _ (testPredicate predicate candidate root) (testPredicate predicate candidate root) :=
  keeps.read fun _ _ wider =>
    Eval.test_related keeps (wider.eval_related keeps) root predicate candidate

theorem call_related (f : Lambda Value) (args : List Value) (root : Value) :
    R _ (call f args root) (call f args root) :=
  keeps.read fun _ _ wider => Eval.call_related keeps (wider.eval_related keeps) f args root

end EvalM
end DocExpr
