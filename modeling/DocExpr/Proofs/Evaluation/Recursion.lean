import DocExpr.Proofs.Limits.Widening
import DocExpr.Proofs.Parser.Nesting
import DocExpr.Proofs.Path.Wildcard

/-! How deep the evaluation of a tree recurs. Without calls an evaluation goes no deeper than its
tree, so a limit that leaves room for the tree is never reached. The parser counts levels of its
own, which leave out the parts that trees start with; both measures are put side by side. -/
namespace DocExpr
open DocExpr.Expr (Node Segment Pattern)
open DocExpr.Library (lift)

/-- The error of recurring too deep. -/
def EvalError.recursion (limit : Nat) : EvalError := .limit (.recursion limit)

namespace EvalM
variable {α β : Type}

/-- The computation fails on no evaluator for recurring too deep. -/
def Shallow (act : EvalM α) : Prop := ∀ ev limit, (act.runOn ev).1 ≠ .error (.recursion limit)

theorem Shallow.pure (a : α) : Shallow (pure a) := fun _ _ => nofun

theorem Shallow.lift {r : Except EvalError α} (other : ∀ limit, r ≠ .error (.recursion limit)) :
    Shallow (Library.lift r) := fun _ limit => other limit

theorem Shallow.bind {x : EvalM α} {f : α → EvalM β} (first : x.Shallow)
    (next : ∀ a, (f a).Shallow) : Shallow (x >>= f) := by
  intro ev limit
  rw [runOn_bind]
  have ran := first ev limit
  split
  · exact next _ _ limit
  next e failed =>
    rw [failed] at ran
    exact fun same => ran (by rw [Except.error.inj same])

theorem Shallow.get {f : Evaluator → EvalM α} (each : ∀ ev, (f ev).Shallow) :
    Shallow (MonadState.get >>= f) := by
  intro ev limit
  rw [runOn_get]
  exact each ev ev limit

theorem Shallow.tick : Shallow tick := by
  intro ev limit
  rw [runOn_tick]
  dsimp only
  split
  · exact fun same => by cases same
  · exact nofun

theorem Shallow.deeper {act : EvalM α} (shallow : act.Shallow) : Shallow (deeper act) := by
  intro ev limit
  rw [runOn_deeper]
  exact shallow _ limit

theorem Shallow.withBinding {act : EvalM α} (shallow : act.Shallow) (name : String)
    (value : Value) : Shallow (withBinding name value act) := by
  intro ev limit
  rw [runOn_withBinding]
  exact shallow _ limit

theorem Shallow.mapM {f : α → EvalM β} {as : List α} (each : ∀ a ∈ as, (f a).Shallow) :
    Shallow (as.mapM f) := by
  induction as with
  | nil => exact .pure []
  | cons a as ih =>
    rw [List.mapM_cons]
    refine (each a List.mem_cons_self).bind fun b => ?_
    exact (ih fun a isIn => each a (List.mem_cons_of_mem _ isIn)).bind fun bs => .pure _

end EvalM

theorem BinaryOp.apply_error (op : Expr.BinaryOp) (limit : Nat) (left right : Value) (bound : Nat) :
    op.apply limit left right ≠ .error (.recursion bound) := by
  cases op with
  | add =>
    intro failed
    change Expr.addValues limit left right = _ at failed
    unfold Expr.addValues Library.checkLength at failed
    split at failed
    · dsimp only at failed
      split at failed <;> cases failed
    · cases failed
  | divide =>
    unfold Expr.BinaryOp.apply
    dsimp only
    split <;> exact nofun
  | _ => exact nofun

theorem namespaceMember_error (space name : String) (bound : Nat) :
    Library.namespaceMember space name ≠ .error (.recursion bound) := by
  unfold Library.namespaceMember
  split <;> exact nofun

namespace Path
variable {guide : Guide}

theorem keep_shallow {test : Value → EvalM Bool} (tests : ∀ v, (test v).Shallow)
    (vs : List Value) : (keep test vs).Shallow := by
  induction vs with
  | nil => exact .pure []
  | cons v vs ih => exact (tests v).bind fun passes => ih.bind fun rest => .pure _

theorem descent_error (name : String) (limit : Nat) (at_ : Reached) (bound : Nat) :
    descent name limit at_ ≠ .error (.recursion bound) := by
  intro failed
  cases (descendItems_fails name limit 0 at_.values).map Reached.many _ failed

theorem step_shallow {segment : Segment}
    (tests : ∀ predicate, segment = .filter predicate → ∀ v, (guide.test predicate v).Shallow)
    (keys : ∀ key, segment = .dynamic key → (guide.key key).Shallow) (at_ : Reached) :
    (step guide at_ segment).Shallow := by
  cases segment with
  | descent name => exact EvalM.Shallow.lift (descent_error name guide.maxDepth at_)
  | filter predicate => exact (keep_shallow (tests predicate rfl) _).bind fun _ => .pure _
  | dynamic key => exact (keys key rfl).bind fun _ => .pure _
  | _ => exact .pure _

end Path

namespace Eval
variable {eval : Eval}

theorem follow_shallow {segments : List Segment}
    (below : ∀ part ∈ segments.flatMap Segment.parts, ∀ root, (eval part root).Shallow)
    (root start : Value) : (eval.follow root start segments).Shallow := by
  refine .get fun ev => EvalM.Shallow.bind ?_ fun _ => .pure _
  generalize Path.Reached.one start = at_
  induction segments generalizing at_ with
  | nil => exact .pure at_
  | cons s segments ih =>
    rw [List.flatMap_cons, List.forall_mem_append] at below
    refine (Path.step_shallow ?_ ?_ at_).bind (ih below.2)
    · rintro predicate rfl v
      exact ((below.1 predicate List.mem_cons_self root).withBinding _ _).bind fun _ => .pure _
    · rintro key rfl
      exact below.1 key List.mem_cons_self root

theorem entries_shallow {members : List (String × Node)}
    (below : ∀ part ∈ members.map (·.2), ∀ root, (eval part root).Shallow) (root : Value)
    (done : Entries Value) : (eval.entries root done members).Shallow := by
  induction members generalizing done with
  | nil => exact .pure done
  | cons member members ih =>
    rw [List.map_cons, List.forall_mem_cons] at below
    exact (below.1 root).bind fun v => ih below.2 _

theorem arms_shallow {cases : List (Pattern × Node)}
    (below : ∀ part ∈ cases.map (·.2), ∀ root, (eval part root).Shallow) (root subject : Value) :
    (eval.arms root subject cases).Shallow := by
  induction cases with
  | nil =>
    intro ev limit failed
    cases failed
  | cons arm cases ih =>
    rw [List.map_cons, List.forall_mem_cons] at below
    unfold arms
    split
    · exact below.1 root
    · exact ih below.2

end Eval

/-- The tree calls a function or a method. -/
def Expr.Node.isCall : Node → Bool
  | .call .. | .method .. | .namespaceCall .. => true
  | _ => false

/-- No part of the tree is a call. -/
def Expr.Node.CallFree : Node → Prop := Throughout Node.parts fun node => node.isCall = false

namespace Eval
variable {eval : Eval}

/-- A level that calls nothing goes no deeper than its operands do. -/
theorem node_shallow {expr : Node} (noCall : expr.isCall = false)
    (below : ∀ part ∈ expr.operands, ∀ root, (eval part root).Shallow) (root : Value) :
    (eval.node root expr).Shallow := by
  have typeError (fault : TypeFault) : (lift (Library.typeError fault) : EvalM Value).Shallow :=
    .lift fun _ => nofun
  cases expr with
  | call | method | namespaceCall => cases noCall
  | current | name =>
    refine .get fun ev => ?_
    split
    · exact .pure _
    · exact typeError _
  | path base segments =>
    refine (below base List.mem_cons_self root).bind fun start => ?_
    exact follow_shallow (fun part isPart => below part (List.mem_cons_of_mem _ isPart)) root start
  | member space name => exact .lift (namespaceMember_error space name)
  | binary op left right =>
    refine (below left List.mem_cons_self root).bind fun a => ?_
    split
    · exact .pure a
    · have second := below right (List.mem_cons_of_mem _ List.mem_cons_self) root
      exact second.bind fun b => .get fun ev => .lift (BinaryOp.apply_error op _ a b)
  | unary op operand => exact (below operand List.mem_cons_self root).bind fun _ => .pure _
  | instanceOf value typeName => exact (below value List.mem_cons_self root).bind fun _ => .pure _
  | conditional condition thenBranch elseBranch =>
    obtain ⟨first, second, third⟩ :
        (∀ root, (eval condition root).Shallow) ∧ (∀ root, (eval thenBranch root).Shallow) ∧
          ∀ root, (eval elseBranch root).Shallow := by
      simpa [Node.operands, Node.parts] using below
    refine (first root).bind fun v => ?_
    split
    · exact second root
    · exact third root
  | matching subject cases =>
    refine (below subject List.mem_cons_self root).bind fun v => ?_
    exact arms_shallow (fun part isPart => below part (List.mem_cons_of_mem _ isPart)) root v
  | lambda params body => exact .get fun ev => .pure _
  | array items =>
    exact (EvalM.Shallow.mapM fun item isIn => below item isIn root).bind fun _ => .pure _
  | object members => exact (entries_shallow below root []).bind fun _ => .pure _
  | _ => exact .pure _

/-- As many levels as a tree without calls has are enough for it. -/
theorem levels_shallow {n : Nat} {expr : Node} (callFree : expr.CallFree) (fits : expr.levels ≤ n)
    (root : Value) : (levels n expr root).Shallow := by
  induction n generalizing expr root with
  | zero => exact absurd expr.levels_pos (Nat.not_lt.mpr fits)
  | succ n ih =>
    have shorter := Node.levels_le.mp fits
    refine .bind .tick fun _ => .deeper ?_
    refine node_shallow callFree.here (fun part isOperand root => ?_) root
    exact ih (callFree.below (Node.mem_parts_of_operands isOperand)) (shorter part isOperand) root

end Eval

/-- A text without calls that parses within a depth has a tree whose evaluation nests deeper by no
more than the leading parts on a way down it. Under any limits that leave room for that, and under
which the text parses, its evaluation does not fail for recurring too deep. -/
theorem parsed_text_runs {text : String} {depth : Nat} {tree : Node}
    (parsed : Expr.parseWithDepth text depth = .ok tree) (callFree : tree.CallFree) :
    tree.levels ≤ depth + tree.leads ∧
      ∀ (options : Options) (document : Value) (label limit : Nat),
        depth ≤ options.maxDepth → tree.levels ≤ options.maxDepth →
          evaluate text document options label ≠ .error (.limit (.recursion limit)) := by
  refine ⟨(Expr.parsed_within parsed).levels, ?_⟩
  intro options document label limit deeper room
  rw [evaluate_eq, Expr.parseWithDepth_deeper deeper parsed]
  exact Eval.levels_shallow callFree room document (.start options label) limit

/-- A sum of three numbers: the parser is two levels down at most, its tree nests three deep. -/
def sumOfThree : Node := .binary .add (.binary .add (.number 1) (.number 1)) (.number 1)

theorem callFree_sumOfThree : sumOfThree.CallFree := by
  have leaf : (Node.number 1).CallFree := .of_parts rfl (List.forall_mem_nil _)
  have inner : (Node.binary .add (.number 1) (.number 1)).CallFree :=
    .of_parts rfl (List.forall_mem_cons.mpr ⟨leaf, List.forall_mem_singleton.mpr leaf⟩)
  exact .of_parts rfl (List.forall_mem_cons.mpr ⟨inner, List.forall_mem_singleton.mpr leaf⟩)

theorem levels_sumOfThree : sumOfThree.levels ≤ 3 := by
  have leaf : (Node.number 1).levels ≤ 1 := Node.levels_le.mpr (List.forall_mem_nil _)
  have inner : (Node.binary .add (.number 1) (.number 1)).levels ≤ 2 :=
    Node.levels_le.mpr (List.forall_mem_cons.mpr ⟨leaf, List.forall_mem_singleton.mpr leaf⟩)
  have leaf' : (Node.number 1).levels ≤ 2 := Nat.le_succ_of_le leaf
  exact Node.levels_le.mpr (List.forall_mem_cons.mpr ⟨inner, List.forall_mem_singleton.mpr leaf'⟩)

/-- The sum of three numbers has one level more than it is parsed with, and no more is needed. -/
theorem sum_of_three_runs :
    Expr.parseWithDepth "1 + 1 + 1" 2 = .ok sumOfThree ∧ sumOfThree.CallFree ∧
      sumOfThree.levels ≤ 2 + sumOfThree.leads ∧ sumOfThree.levels ≤ 3 ∧
      evaluate "1 + 1 + 1" .null { maxDepth := 3 } 0 ≠ .error (.limit (.recursion 3)) := by
  have parsed : Expr.parseWithDepth "1 + 1 + 1" 2 = .ok sumOfThree := by rfl
  obtain ⟨bound, runs⟩ := parsed_text_runs parsed callFree_sumOfThree
  exact ⟨parsed, callFree_sumOfThree, bound, levels_sumOfThree,
    runs { maxDepth := 3 } .null 0 3 (by decide) levels_sumOfThree⟩

/-- Under the limit that the sum of three numbers is parsed with, its evaluation recurs too deep. -/
theorem sum_of_three_recurs :
    Expr.parseWithDepth "1 + 1 + 1" 2 = .ok sumOfThree ∧ sumOfThree.CallFree ∧
      evaluate "1 + 1 + 1" .null { maxDepth := 2 } 0 = .error (.limit (.recursion 2)) := by
  have parsed : Expr.parseWithDepth "1 + 1 + 1" 2 = .ok sumOfThree := by rfl
  refine ⟨parsed, callFree_sumOfThree, ?_⟩
  rw [evaluate_eq, parsed]
  rfl

end DocExpr
